/-
What words stand for. A word becomes a row of cells that still tell quoted characters from bare
ones; the row is then cut into fields at the separators that came out of parameters and commands,
and a field that is an open pattern stands for the files it fits.
-/
import BundleBuild.Shell.Arithmetic
import BundleBuild.Shell.Pattern
import BundleBuild.Shell.World

namespace BundleBuild.Shell

inductive Cell where
  /-- A character; `splits`: it came out of something bare, so that a separator cuts there. -/
  | char (c : Char) (quoted splits : Bool)
  /-- A quotation mark. -/
  | mark
  /-- The end of one of several arguments. -/
  | cut
  /-- The start of something that may be cut: only between arguments where `whole` says so. -/
  | region (whole : Bool)
  deriving DecidableEq, Repr

namespace Cell

def char? : Cell → Option Char
  | .char c _ _ => some c
  | _ => none

/-- The text of cells. -/
def text (cells : List Cell) : String :=
  String.ofList (cells.filterMap char?)

/-- The characters of cells as a pattern reads them. -/
def patternChars (cells : List Cell) : List PatternChar :=
  cells.filterMap fun cell => match cell with
    | .char c quoted _ => some (c, quoted)
    | _ => none

/-- The cells of a value. -/
def ofValue (quoted : Bool) (s : String) : List Cell :=
  if quoted then s.toList.map fun c => .char c true false
  else .region false :: s.toList.map fun c => .char c false true

/-- The cells of a word that stands for a bare parameter: its bare characters may be cut as
well. -/
def asValue (cells : List Cell) : List Cell :=
  cells.flatMap fun cell => match cell with
    | .char c false false => [.region false, .char c false true]
    | _ => [cell]

/-- The separators between two fields are over after these cells: blanks, and one other separator
where none has come yet. -/
def passSeparators (ifs : List Char) : Bool → List Cell → List Cell
  | _, [] => []
  | mayPass, .char c quoted true :: rest =>
    if c ≠ '\x00' && !ifs.contains c then .char c quoted true :: rest
    else if c = '\x00' || c = ' ' || c = '\t' || c = '\n' then passSeparators ifs mayPass rest
    else if mayPass then passSeparators ifs false rest
    else .char c quoted true :: rest
  | _, cells => cells

/-- Cuts cells into fields; `n` is at least their number. The field at hand comes last first, and
`whole` says how the region at hand is cut. -/
def fieldsFrom (ifs : List Char) : Nat → List Cell → Bool → List Cell → List (List Cell)
  | 0, _, _, _ => []
  | _ + 1, own, whole, [] => if own.isEmpty && !whole then [] else [own.reverse]
  | n + 1, own, _, .region whole :: rest => fieldsFrom ifs n own whole rest
  | n + 1, own, whole, .cut :: rest => own.reverse :: fieldsFrom ifs n [] whole rest
  | n + 1, own, whole, .mark :: rest => fieldsFrom ifs n (.mark :: own) whole rest
  | n + 1, own, whole, .char c quoted splits :: rest =>
    if splits && (c = '\x00' || ifs.contains c) then
      let blank := c = '\x00' || c = ' ' || c = '\t' || c = '\n'
      if own.isEmpty && blank then fieldsFrom ifs n [] whole rest
      else own.reverse :: fieldsFrom ifs n [] whole (passSeparators ifs blank rest)
    else fieldsFrom ifs n (.char c quoted splits :: own) whole rest

def fields (ifs : List Char) (cells : List Cell) : List (List Cell) :=
  fieldsFrom ifs (cells.length + 1) [] false cells

end Cell

/-! ## Files of a pattern -/

/-- The names in a directory, in the order of their bytes. -/
def namesIn (v : Volume) (dir : String) : List String :=
  match v.locate (Path.ofText (if dir.isEmpty then "." else decoded dir)) with
  | .ok (.there at_ .dir) =>
    let names := v.items.filterMap fun (l, _) =>
      if l.dropLast == at_ && !l.isEmpty then l.getLast? else none
    (names.map octets ++ [".", ".."]).mergeSort fun a b => a ≤ b
  | _ => []

def isThere (v : Volume) (path : String) : Bool :=
  match v.locateEntry (Path.ofText (decoded path)) with
  | .ok (.there _ _) => true
  | _ => false

/-- The parts of a pattern between slashes. -/
def patternSteps : List PatternChar → List (List PatternChar)
  | [] => [[]]
  | (c, quoted) :: rest =>
    if c = '/' then [] :: patternSteps rest
    else match patternSteps rest with
      | [] => [[(c, quoted)]]
      | step :: steps => ((c, quoted) :: step) :: steps

/-- The paths that fit the steps of a pattern below a directory. -/
def pathsOf (v : Volume) (dir : String) : List (List PatternChar) → List String
  | [] => []
  | [step] =>
    let p := Pattern.ofChars step
    if p.isOpen then (namesOf p (namesIn v dir)).map fun name => dir ++ name
    else
      let path := dir ++ literal p
      if isThere v path then [path] else []
  | step :: rest =>
    let p := Pattern.ofChars step
    if p.isOpen then (namesOf p (namesIn v dir)).flatMap fun name => pathsOf v (dir ++ name ++ "/") rest
    else pathsOf v (dir ++ literal p ++ "/") rest
where
  namesOf (p : Pattern) (names : List String) : List String :=
    names.filter fun name =>
      p.fits name.toList && (!name.startsWith "." || p.head? == some (.char '.'))
  literal (p : Pattern) : String :=
    String.ofList (p.filterMap fun item => match item with
      | .char c => some c
      | _ => none)

namespace Act

/-- The texts that a field stands for. -/
def filesOf (field : List Cell) : Act (List String) := do
  let chars := Cell.patternChars field
  let text := Cell.text field
  if (← isOn 'f') || !(Pattern.ofChars chars).isOpen then return [text]
  else
    let found := pathsOf (← volume) "" (patternSteps chars)
    return if found.isEmpty then [text] else found

/-! ## Parameters -/

/-- The options that can be on, by letter and by name. -/
def optionNames : List (Char × String) :=
  [('e', "errexit"), ('f', "noglob"), ('I', "ignoreeof"), ('i', "interactive"), ('m', "monitor"),
    ('n', "noexec"), ('s', "stdin"), ('x', "xtrace"), ('v', "verbose"), ('V', "vi"),
    ('E', "emacs"), ('C', "noclobber"), ('a', "allexport"), ('b', "notify"), ('u', "nounset"),
    ('p', "privileged")]

/-- The letters of the options that are on. -/
def optionLetters : Act String := do
  let on := (← shell).options
  return String.ofList ((optionNames.map (·.1)).reverse.filter on.contains)

/-- The value of a parameter that is no list of arguments. -/
def parameter? (name : String) : Act (Option String) := do
  let sh ← shell
  match name with
  | "?" => return some (Nat.repr sh.status)
  | "$" => return some (Nat.repr sh.process)
  | "!" => return sh.lastBackground.map Nat.repr
  | "#" => return some (Nat.repr sh.args.length)
  | "-" => return some (← optionLetters)
  | "0" => return some sh.name
  | _ =>
    if name.toList.all Char.isDigit then return sh.args[(readDigits 10 name.toList).1 - 1]?
    else value? name

/-- The arguments as one text. -/
def joinedArguments : Act String := do
  let separator := match (← value? "IFS") with
    | none => " "
    | some ifs => String.ofList (ifs.toList.take 1)
  return separator.intercalate (← shell).args

/-- The cells of the list of arguments: one field for each under `"$@"`. -/
def argumentCells (name : String) (quoted full : Bool) : Act (List Cell) := do
  let args := (← shell).args
  if full && quoted && name == "@" then
    if args.isEmpty then return []
    else return .region true :: [Cell.cut].intercalate (args.map (Cell.ofValue true))
  else if full && !quoted then
    let separator := if (← value? "IFS").isSome then '\x00' else ' '
    return .region false :: [Cell.char separator false true].intercalate
      (args.map fun s => s.toList.map fun c => .char c false true)
  else return Cell.ofValue quoted (← joinedArguments)

def isList (name : String) : Bool :=
  name == "@" || name == "*"

def parameterText? (name : String) : Act (Option String) := do
  if isList name then return some (← joinedArguments) else parameter? name

/-- The value of an expression; the variables that it sets are set. -/
def evaluated (expression : String) : Act String := do
  let bindings := (← shell).bindings
  match evaluate (fun name => (bindings.get? name).bind (·.value)) expression with
  | .ok (value, assigned) =>
    assigned.reverse.forM fun (name, n) => assign name (toString n)
    return toString value
  | .error (.complaint text) =>
    fail ("arithmetic expression: " ++ text ++ ": \"" ++ expression ++ "\"")
  | .error (.illegalNumber text) => fail ("Illegal number: " ++ text)

/-- What a command writes, without the newlines at its end. -/
def withoutLastLines (s : String) : String :=
  String.ofList ((s.toList.filter (· ≠ '\x00')).reverse.dropWhile (· = '\n')).reverse

/-- How the output of commands is taken. -/
abbrev Capture := Command → Act String

mutual

/-- The cells of a part. `full`: fields are wanted, not one text. -/
def partCells (capture : Capture) : Nat → Bool → Part → Act (List Cell)
  | 0, _, _ => return []
  | n + 1, full, part => do
    match part with
    | .text cs quoted => return cs.map fun c => .char c quoted false
    | .mark => return [.mark]
    | .output body quoted => return Cell.ofValue quoted (withoutLastLines (← capture body))
    | .sum expression quoted =>
      let text := Cell.text (← wordCells capture n false expression)
      return Cell.ofValue quoted (← evaluated text)
    | .param name use quoted => paramCells capture n full name use quoted

def paramCells (capture : Capture) : Nat → Bool → String → Use → Bool → Act (List Cell)
  | 0, _, _, _, _ => return []
  | n + 1, full, name, use, quoted => do
    let unset {α : Type} : Act α := fail (name ++ ": parameter not set")
    let own : Act (List Cell) := do
      if isList name then argumentCells name quoted full
      else match ← parameter? name with
        | some s => return Cell.ofValue quoted s
        | none => if ← isOn 'u' then unset else return Cell.ofValue quoted ""
    let fallback (word : Word) : Act (List Cell) := do
      let cells ← wordCells capture n full word
      return if quoted then cells else Cell.asValue cells
    match use with
    | .value => own
    | .bad => fail "Bad substitution"
    | .length =>
      match ← parameterText? name with
      | some s => return Cell.ofValue quoted (Nat.repr s.length)
      | none => if ← isOn 'u' then unset else return Cell.ofValue quoted "0"
    | .trim atEnd longest pattern =>
      match ← parameterText? name with
      | none => own
      | some s =>
        let p := Pattern.ofChars (Cell.patternChars (← wordCells capture n false pattern))
        let cs := if atEnd then p.trimEnd longest s.toList else p.trimStart longest s.toList
        return Cell.ofValue quoted (String.ofList cs)
    | .fallback kind orEmpty word =>
      let isSet := match ← parameterText? name with
        | some s => !(orEmpty && s.isEmpty)
        | none => false
      match kind with
      | .missing => if isSet then own else fallback word
      | .alternative => if isSet then fallback word else return Cell.ofValue quoted ""
      | .assign =>
        if isSet then own
        else if !isName name then fail (name ++ ": bad variable name")
        else
          let text := Cell.text (← wordCells capture n false word)
          assign name text
          return Cell.ofValue quoted text
      | .demand =>
        if isSet then own
        else if word.isEmpty then
          fail (name ++ ": parameter not set" ++ if orEmpty then " or null" else "")
        else
          let text := Cell.text (← wordCells capture n false word)
          fail (name ++ ": " ++ text)

/-- The cells of a word. A list of arguments that is alone in its quotes leaves no marks. -/
def wordCells (capture : Capture) : Nat → Bool → Word → Act (List Cell)
  | 0, _, _ => return []
  | _ + 1, _, [] => return []
  | n + 1, full, .mark :: .param "@" .value true :: .mark :: rest => do
    let own ← argumentCells "@" true full
    return own ++ (← wordCells capture n full rest)
  | n + 1, full, part :: rest => do
    let own ← partCells capture n full part
    return own ++ (← wordCells capture n full rest)

end

/-- The word with a leading tilde replaced by the home directory. -/
def withHome (w : Word) : Act Word := do
  match w with
  | .text ('~' :: cs) false :: rest =>
    let whole := if cs.isEmpty then rest.isEmpty else cs.head? == some '/'
    match ← value? "HOME" with
    | some home =>
      if whole then return .text home.toList true :: (if cs.isEmpty then rest
        else .text cs false :: rest)
      else return w
    | none => return w
  | _ => return w

/-- The bare text of a setting with the tildes at its start and after colons replaced. `starts`:
such a place is at hand; `last`: nothing follows the text. -/
def homesIn (home : List Char) (last : Bool) : Bool → List Char → List Part
  | _, [] => []
  | starts, c :: rest =>
    let isHome := starts && c = '~' && match rest with
      | [] => last
      | e :: _ => e = '/' || e = ':'
    (if isHome then .text home true else .text [c] false) :: homesIn home last (c = ':') rest

/-- The value of a setting with its tildes replaced. -/
def withHomes (w : Word) : Act Word := do
  match ← value? "HOME" with
  | none => return w
  | some home => return go home.toList true w
where
  go (home : List Char) : Bool → Word → Word
    | _, [] => []
    | starts, .text cs false :: rest =>
      homesIn home rest.isEmpty starts cs ++ go home (cs.getLast? == some ':') rest
    | _, part :: rest => part :: go home false rest

/-- How deep words stand in words at most. -/
def wordDepth (w : Word) : Nat :=
  w.length + 1000

/-- A word as one text. -/
def expandText (capture : Capture) (w : Word) : Act String := do
  let w' ← withHome w
  return Cell.text (← wordCells capture (wordDepth w') false w')

/-- The value of a setting. -/
def expandSetting (capture : Capture) (w : Word) : Act String := do
  let w' ← withHomes w
  return Cell.text (← wordCells capture (wordDepth w') false w')

/-- A word as a pattern. -/
def expandPattern (capture : Capture) (w : Word) : Act Pattern := do
  let w' ← withHome w
  return Pattern.ofChars (Cell.patternChars (← wordCells capture (wordDepth w') false w'))

/-- The fields of a word. -/
def expandFields (capture : Capture) (w : Word) : Act (List String) := do
  let w' ← withHome w
  let cells ← wordCells capture (wordDepth w') true w'
  let fields := Cell.fields (← separators) cells
  return (← fields.mapM filesOf).flatten

end Act

end BundleBuild.Shell
