/-
The programs that a system has besides the shell. A program is a function of its arguments, of
what it reads, and of the files; it says what it writes and what becomes of the files.
-/
import BundleBuild.Shell.Condition
import BundleBuild.Shell.Expansion
import BundleBuild.Shell.Formatting

namespace BundleBuild.Shell

/-- What a program is started with. -/
structure Call where
  /-- The name it was started by. -/
  name : String
  args : List String
  /-- What it can read. -/
  input : List Char
  /-- There is nothing to read from at all. -/
  inputIsClosed : Bool := false
  /-- What it reads comes from a file. -/
  inputIsFile : Bool := false
  volume : Volume

/-- What a program does. -/
structure Effect where
  status : Nat := 0
  /-- What it writes as it goes, to its output or else to its complaints. -/
  flow : List (Bool × List Char) := []
  /-- What it writes at its end. -/
  out : List Char := []
  err : List Char := []
  /-- The files, where it changes them. -/
  volume : Option Volume := none
  milliseconds : Nat := 0
  /-- How much it takes of what it can read. -/
  taken : Nat := 0

namespace Effect

/-- A complaint that ends a program. -/
def failure (name text : String) : Effect :=
  { status := 1, err := (name ++ ": " ++ text ++ "\n").toList }

/-- A complaint about the arguments. -/
def misuse (name text : String) : Effect :=
  failure name (text ++ "\nTry '" ++ name ++ " --help' for more information.")

/-- The effect of a program that cannot write its output: one that writes as it goes does nothing, and
any other complains at its end. -/
def withoutOutput (e : Effect) (name : String) : Effect :=
  if e.flow.any (·.1) then
    failure name ("standard output: " ++ SystemCause.badDescriptor.words)
  else if e.out.isEmpty then e
  else
    let complaint := failure name ("write error: " ++ SystemCause.badDescriptor.words)
    { e with out := [], err := e.err ++ complaint.err, status := complaint.status }

/-- One effect after another. -/
def append (a b : Effect) : Effect where
  status := if b.status = 0 then a.status else b.status
  flow := a.flow ++ b.flow
  out := a.out ++ b.out
  err := a.err ++ b.err
  volume := if b.volume.isSome then b.volume else a.volume
  milliseconds := a.milliseconds + b.milliseconds
  taken := max a.taken b.taken

end Effect

/-! ## Options -/

/-- The options that are given, in order, and the other arguments. -/
structure Given where
  options : List (Char × String) := []
  operands : List String := []

namespace Given

def has (g : Given) (c : Char) : Bool :=
  g.options.any fun (c', _) => c' == c

def value? (g : Given) (c : Char) : Option String :=
  (g.options.reverse.find? fun (c', _) => c' == c).map (·.2)

/-- The letters of one argument; the value of a letter is the rest of it or the next argument.
The number tells whether that one is used. -/
def letters (plain valued : List Char) (next : Option String) :
    List Char → Except String (List (Char × String) × Bool)
  | [] => .ok ([], false)
  | c :: rest =>
    if plain.contains c then do
      let (more, used) ← letters plain valued next rest
      return ((c, "") :: more, used)
    else if valued.contains c then
      if !rest.isEmpty then .ok ([(c, String.ofList rest)], false)
      else match next with
        | some value => .ok ([(c, value)], true)
        | none => .error ("option requires an argument -- '" ++ c.toString ++ "'")
    else .error ("invalid option -- '" ++ c.toString ++ "'")

/-- Reads arguments; options may stand after other arguments. -/
def read (plain valued : List Char) (long : List (String × Char)) : Nat → List String →
    Except String Given
  | 0, _ => .ok {}
  | _ + 1, [] => .ok {}
  | n + 1, arg :: rest =>
    match arg.toList with
    | ['-', '-'] => .ok { operands := rest }
    | '-' :: '-' :: word =>
      match long.find? fun (name, _) => name == String.ofList word with
      | some (_, c) => do
        let g ← read plain valued long n rest
        return { g with options := (c, "") :: g.options }
      | none => .error ("unrecognized option '" ++ arg ++ "'")
    | '-' :: c :: cs => do
      let (own, used) ← letters plain valued rest.head? (c :: cs)
      let g ← read plain valued long n (if used then rest.drop 1 else rest)
      return { g with options := own ++ g.options }
    | _ => do
      let g ← read plain valued long n rest
      return { g with operands := arg :: g.operands }

end Given

/-- Runs a program with its options read. -/
def Call.withOptions (c : Call) (plain valued : List Char) (long : List (String × Char))
    (body : Given → Effect) : Effect :=
  match Given.read plain valued long (c.args.length + 1) c.args with
  | .ok g => body g
  | .error text => Effect.misuse c.name text

/-! ## Files -/

def pathOf (s : String) : Path :=
  Path.ofText (decoded s)

/-- The content of a file, or of what can be read under `-`. -/
def Call.content (c : Call) (file : String) : Except SystemCause (List Char) :=
  if file == "-" then if c.inputIsClosed then .error .badDescriptor else .ok c.input
  else if file == "/dev/null" then .ok []
  else (c.volume.read (pathOf file)).map fun bs => (ofBytes bs).toList

/-- The contents of files; what can be read is read only once. -/
def Call.contents (c : Call) : List String → List (String × Except SystemCause (List Char))
  | [] => []
  | file :: rest =>
    (file, c.content file) ::
      Call.contents (if file == "-" then { c with input := [] } else c) rest

/-- Files to go through: what can be read when there are none. -/
def filesOrInput (files : List String) : List String :=
  if files.isEmpty then ["-"] else files

/-- How much of what can be read is taken by going through files. -/
def Call.takenBy (c : Call) (files : List String) : Nat :=
  if files.contains "-" then c.input.length else 0

/-- The lines of a text, each with its end. -/
def linesOf : List Char → List (List Char)
  | [] => []
  | c :: rest =>
    if c = '\n' then ['\n'] :: linesOf rest
    else match linesOf rest with
      | [] => [[c]]
      | line :: lines => if rest.isEmpty then [[c]] else (c :: line) :: lines

/-- Runs a filter over the files, or over what can be read when there are none. -/
def Call.overFiles (c : Call) (files : List String) (complaint : String → SystemCause → String)
    (body : String → List Char → List Char) : Effect :=
  let files := filesOrInput files
  let each : String × Except SystemCause (List Char) → Effect
    | (file, .ok cs) => { out := body file cs }
    | (file, .error e) => Effect.failure c.name (complaint file e)
  (c.contents files).foldl (fun e read => e.append (each read)) { taken := c.takenBy files }

def plainComplaint (file : String) (e : SystemCause) : String :=
  file ++ ": " ++ e.words

def openComplaint (file : String) (e : SystemCause) : String :=
  "cannot open '" ++ file ++ "' for reading: " ++ e.words

/-! ## Programs over text -/

def runCat (c : Call) : Effect :=
  c.withOptions ['A', 'b', 'e', 'E', 'n', 's', 't', 'T', 'u', 'v'] [] [] fun g =>
    let numbered (cs : List Char) : List Char :=
      let lines := linesOf cs
      ((List.range lines.length).zip lines).flatMap fun (i, line) =>
        let n := Nat.toDigits 10 (i + 1)
        List.replicate (6 - n.length) ' ' ++ n ++ '\t' :: line
    let files := filesOrInput g.operands
    let complaint (text : String) : Effect :=
      { status := 1, flow := [(false, (Effect.failure c.name text).err)] }
    let each : String × Except SystemCause (List Char) → Effect
      | (_, .ok cs) => { flow := [(true, if g.has 'n' then numbered cs else cs)] }
      | (file, .error cause) => complaint (plainComplaint file cause)
    let all := (c.contents files).foldl (fun e read => e.append (each read))
      { taken := c.takenBy files }
    if c.inputIsClosed && files.contains "-" then
      all.append (complaint ("closing standard input: " ++ SystemCause.badDescriptor.words))
    else all

/-- A count that may start with a sign. -/
def countOf? (s : String) : Option (Bool × Nat) :=
  let (plus, ds) := match s.toList with
    | '+' :: ds => (true, ds)
    | ds => (false, ds)
  if ds.isEmpty || !ds.all Char.isDigit then none else some (plus, (readDigits 10 ds).1)

/-- The old form of a count, `-5` for `-n 5`. -/
def modernCounts : List String → List String
  | [] => []
  | arg :: rest =>
    match arg.toList with
    | '-' :: c :: cs =>
      if (c :: cs).all Char.isDigit then "-n" :: String.ofList (c :: cs) :: modernCounts rest
      else arg :: modernCounts rest
    | _ => arg :: modernCounts rest

/-- The start or the end of a text, in lines or in bytes; `leaves` says that the rest of a file is
left to be read by others. -/
def runPiece (c : Call) (leaves : Bool) (take : Bool → Nat → Bool → List Char → List Char) : Effect :=
  { c with args := modernCounts c.args }.withOptions ['q', 'v', 'z', 'f'] ['n', 'c'] [] fun g =>
    let bytes := g.has 'c'
    let asked := if bytes then g.value? 'c' else g.value? 'n'
    match (asked.map countOf?).getD (some (false, 10)) with
    | none =>
      let unit := if bytes then "bytes" else "lines"
      Effect.failure c.name ("invalid number of " ++ unit ++ ": '" ++ asked.getD "" ++ "'")
    | some (plus, n) =>
      let titled := 1 < g.operands.length
      let whole := c.overFiles g.operands openComplaint fun file cs =>
        let title := if titled then ("==> " ++ file ++ " <==\n").toList else []
        title ++ take bytes n plus cs
      if leaves && c.inputIsFile then
        { whole with taken := min whole.taken (take bytes n plus c.input).length }
      else whole

def headOf (bytes : Bool) (n : Nat) (_ : Bool) (cs : List Char) : List Char :=
  if bytes then cs.take n else ((linesOf cs).take n).flatten

def tailOf (bytes : Bool) (n : Nat) (plus : Bool) (cs : List Char) : List Char :=
  let kept {α : Type} (xs : List α) : List α :=
    if plus then xs.drop (n - 1) else xs.drop (xs.length - n)
  if bytes then kept cs else (kept (linesOf cs)).flatten

/-- The words of a text. -/
def wordCount (cs : List Char) : Nat :=
  (cs.foldl (fun (n, inside) c =>
    if isBlankChar c then (n, false) else (if inside then n else n + 1, true)) (0, false)).1

def runCount (c : Call) : Effect :=
  c.withOptions ['l', 'w', 'c', 'm'] [] [] fun g =>
    let wanted := if g.options.isEmpty then ['l', 'w', 'c'] else
      ['l', 'w', 'm', 'c'].filter g.has
    let counts (cs : List Char) : List Nat := wanted.map fun letter => match letter with
      | 'l' => (cs.filter (· = '\n')).length
      | 'w' => wordCount cs
      | _ => cs.length
    let files := filesOrInput g.operands
    let contents := c.contents files
    let total := contents.foldl (fun n (_, r) => match r with
      | .ok cs => n + cs.length
      | .error _ => n) 0
    let width := if files.length = 1 && wanted.length = 1 then 1
      else if files.contains "-" && !c.inputIsFile then 7
      else (Nat.toDigits 10 total).length
    let row (ns : List Nat) (file : String) : List Char :=
      let cells := ns.map fun n =>
        let ds := Nat.toDigits 10 n
        List.replicate (width - ds.length) ' ' ++ ds
      [' '].intercalate cells ++ (if file == "-" && g.operands.isEmpty then [] else
        ' ' :: file.toList) ++ ['\n']
    let rows := contents.foldl (fun (e : Effect) (file, r) => e.append (match r with
      | .ok cs => { out := row (counts cs) file }
      | .error cause => Effect.failure c.name (plainComplaint file cause)))
      { taken := c.takenBy files }
    if files.length ≤ 1 then rows
    else
      let sums := contents.foldl (fun ns (_, r) => match r with
        | .ok cs => List.zipWith (· + ·) ns (counts cs)
        | .error _ => ns) (wanted.map fun _ => 0)
      rows.append { out := row sums "total" }

/-- A set of characters with its ranges, kinds and escapes written out. -/
def spelledSet : Nat → List Char → List Char
  | 0, _ => []
  | _ + 1, [] => []
  | n + 1, '[' :: ':' :: rest =>
    let name := String.ofList (rest.takeWhile Char.isAlpha)
    match rest.dropWhile Char.isAlpha, kindHas? name with
    | ':' :: ']' :: after, some p =>
      ((List.range 256).map Char.ofNat).filter p ++ spelledSet n after
    | _, _ => '[' :: spelledSet n (':' :: rest)
  | n + 1, '\\' :: rest =>
    let (c, after) := readEscape rest
    c :: spelledSet n after
  | n + 1, a :: '-' :: b :: rest =>
    if a ≤ b then
      (List.range (b.toNat - a.toNat + 1)).map (fun i => Char.ofNat (a.toNat + i)) ++ spelledSet n rest
    else a :: spelledSet n ('-' :: b :: rest)
  | n + 1, c :: rest => c :: spelledSet n rest

/-- A text without repetitions of characters of a set. -/
def squeezed (set : List Char) : Option Char → List Char → List Char
  | _, [] => []
  | last, c :: rest =>
    if last == some c && set.contains c then squeezed set last rest
    else c :: squeezed set (some c) rest

def runTranslate (c : Call) : Effect :=
  c.withOptions ['d', 's', 'c', 'C', 't'] [] [] fun g =>
    let complement := g.has 'c' || g.has 'C'
    let spelled (s : String) : List Char := spelledSet s.length s.toList
    match g.operands with
    | [] => Effect.misuse c.name "missing operand"
    | [first] =>
      let set := spelled first
      let inSet (ch : Char) : Bool := set.contains ch != complement
      if g.has 'd' then
        { out := c.input.filter fun ch => !inSet ch, taken := c.input.length }
      else if g.has 's' then
        let whole := if complement then (List.range 256).map Char.ofNat |>.filter inSet else set
        { out := squeezed whole none c.input, taken := c.input.length }
      else Effect.misuse c.name
        ("missing operand after '" ++ first ++ "'\nTwo strings must be given when translating.")
    | first :: second :: _ =>
      let base := spelled first
      let source := if complement then (List.range 256).map Char.ofNat |>.filter fun ch =>
        !base.contains ch else base
      let target := spelled second
      let last := target.getLast?.getD ' '
      let swap (ch : Char) : Char := match source.idxOf? ch with
        | some i => target[i]?.getD last
        | none => ch
      let out := c.input.map swap
      { out := if g.has 's' then squeezed target none out else out, taken := c.input.length }

/-- A line without its end. -/
def lineText (line : List Char) : List Char :=
  if line.getLast? == some '\n' then line.dropLast else line

def runSort (c : Call) : Effect :=
  c.withOptions ['r', 'n', 'u', 'b', 'f', 's'] ['k', 't', 'o'] [] fun g =>
    let files := filesOrInput g.operands
    let contents : Except (String × SystemCause) (List (List Char)) :=
      (c.contents files).mapM fun (file, read) => read.mapError fun e => (file, e)
    match contents with
    | .error (file, e) => { Effect.failure c.name ("cannot read: " ++ file ++ ": " ++ e.words) with
        status := 2 }
    | .ok texts =>
      let lines := (texts.flatMap linesOf).map fun l => String.ofList (lineText l)
      let key (s : String) : Int := (readNumber false s.toList).1
      let below (a b : String) : Bool :=
        if g.has 'n' then if key a = key b then a ≤ b else key a ≤ key b else a ≤ b
      let sorted := lines.mergeSort below
      let ordered := if g.has 'r' then sorted.reverse else sorted
      let kept := if g.has 'u' then ordered.foldr (fun s acc =>
        if acc.head? == some s then acc else s :: acc) [] else ordered
      { out := kept.flatMap fun s => s.toList ++ ['\n'], taken := c.takenBy files }

def runUnique (c : Call) : Effect :=
  c.withOptions ['c', 'd', 'u'] [] [] fun g =>
    c.overFiles (g.operands.take 1) plainComplaint fun _ cs =>
      let groups := ((linesOf cs).map lineText).foldr (fun line acc => match acc with
        | (n, l) :: rest => if l == line then (n + 1, l) :: rest else (1, line) :: acc
        | [] => [(1, line)]) ([] : List (Nat × List Char))
      let shown := groups.filter fun (n, _) =>
        (!g.has 'd' || 1 < n) && (!g.has 'u' || n = 1)
      shown.flatMap fun (n, line) =>
        let ds := Nat.toDigits 10 n
        (if g.has 'c' then List.replicate (7 - ds.length) ' ' ++ ds ++ [' '] else []) ++ line ++ ['\n']

/-- A list of numbers and ranges, counted from one. -/
def inRanges (s : String) (n : Nat) : Bool :=
  (splitText ',' s).any fun part =>
    match splitText '-' part with
    | [a] => a.toNat? == some n
    | [a, b] => (a.toNat?.getD 1) ≤ n && n ≤ (b.toNat?.getD n)
    | _ => false

def runCut (c : Call) : Effect :=
  c.withOptions ['s'] ['d', 'f', 'c', 'b'] [] fun g =>
    let chars := (g.value? 'c').orElse fun _ => g.value? 'b'
    let fields := g.value? 'f'
    if chars.isNone && fields.isNone then
      Effect.misuse c.name "you must specify a list of bytes, characters, or fields"
    else
      let delimiter := ((g.value? 'd').bind fun d => d.toList.head?).getD '\t'
      let chosen {α : Type} (ranges : String) (xs : List α) : List α :=
        ((List.range xs.length).zip xs).filterMap fun (i, x) =>
          if inRanges ranges (i + 1) then some x else none
      let line (cs : List Char) : List Char := match chars, fields with
        | some ranges, _ => chosen ranges cs
        | none, some ranges =>
          if cs.contains delimiter then
            delimiter.toString.intercalate
              (chosen ranges (splitText delimiter (String.ofList cs))) |>.toList
          else cs
        | none, none => cs
      c.overFiles g.operands plainComplaint fun _ cs =>
        (linesOf cs).flatMap fun l => line (lineText l) ++ ['\n']

def runReverse (c : Call) (whole : Bool) : Effect :=
  c.withOptions [] [] [] fun g =>
    c.overFiles g.operands plainComplaint fun _ cs =>
      if whole then (linesOf cs).reverse.flatten
      else (linesOf cs).flatMap fun l =>
        (lineText l).reverse ++ if l.getLast? == some '\n' then ['\n'] else []

def runSequence (c : Call) : Effect :=
  let (separator, args) := match c.args with
    | "-s" :: s :: rest => (s, rest)
    | arg :: rest => if arg.startsWith "-s" then (String.ofList (arg.toList.drop 2), rest)
      else ("\n", c.args)
    | [] => ("\n", [])
  match args.find? fun a => (wholeNumber? false a).isNone with
  | some bad => Effect.misuse c.name ("invalid floating point argument: '" ++ bad ++ "'")
  | none =>
    let run (first step last : Int) : Effect :=
      let count := if step = 0 then 0 else ((last - first) / step + 1).toNat
      let ns := (List.range count).map fun (i : Nat) => toString (first + step * i)
      { out := if ns.isEmpty then [] else (separator.intercalate ns ++ "\n").toList }
    match args.filterMap (wholeNumber? false) with
    | [] => Effect.misuse c.name "missing operand"
    | [last] => run 1 1 last
    | [first, last] => run first 1 last
    | [first, step, last] => run first step last
    | _ => Effect.misuse c.name ("extra operand '" ++ args[3]?.getD "" ++ "'")

/-! ## Programs over paths -/

/-- A path without slashes at its end. -/
def withoutSlashes (cs : List Char) : List Char :=
  (cs.reverse.dropWhile (· = '/')).reverse

def baseName (s : String) : String :=
  let cs := withoutSlashes s.toList
  if cs.isEmpty then if s.isEmpty then "" else "/"
  else String.ofList (cs.reverse.takeWhile (· ≠ '/')).reverse

def dirName (s : String) : String :=
  let above := (withoutSlashes s.toList).reverse.dropWhile (· ≠ '/')
  if above.isEmpty then if s.startsWith "/" then "/" else "."
  else
    let dir := withoutSlashes above.reverse
    if dir.isEmpty then "/" else String.ofList dir

def runBaseName (c : Call) : Effect :=
  c.withOptions [] [] [] fun g =>
    match g.operands with
    | [] => Effect.misuse c.name "missing operand"
    | s :: rest =>
      let base := baseName s
      let suffix := rest.headD ""
      let cut := if base ≠ suffix && base.endsWith suffix then
        String.ofList (base.toList.take (base.length - suffix.length)) else base
      { out := (cut ++ "\n").toList }

def runDirName (c : Call) : Effect :=
  c.withOptions [] [] [] fun g =>
    if g.operands.isEmpty then Effect.misuse c.name "missing operand"
    else { out := g.operands.flatMap fun s => (dirName s ++ "\n").toList }

/-- Changes the files for one operand after another. -/
def Call.changing (c : Call) (operands : List String)
    (change : Volume → String → Except String Volume) : Effect :=
  let (v, e) := operands.foldl (fun ((v, e) : Volume × Effect) s => match change v s with
    | .ok v' => (v', e)
    | .error text => (v, e.append (Effect.failure c.name text))) (c.volume, {})
  { e with volume := some v }

def runMakeDirs (c : Call) : Effect :=
  c.withOptions ['p', 'v'] ['m'] [("parents", 'p')] fun g =>
    if g.operands.isEmpty then Effect.misuse c.name "missing operand"
    else c.changing g.operands fun v s =>
      let complaint (e : SystemCause) := "cannot create directory '" ++ s ++ "': " ++ e.words
      if g.has 'p' then
        match v.makeDirs (pathOf s) with
        | (.ok (), v') => .ok v'
        | (.error (.system cause _), _) => .error (complaint cause)
        | (.error _, _) => .error (complaint .exists)
      else (v.makeDir (pathOf s)).mapError complaint

def runRemoveDirs (c : Call) : Effect :=
  c.withOptions [] [] [] fun g =>
    c.changing g.operands fun v s =>
      match v.locateEntry (pathOf s) with
      | .ok (.there at_ .dir) =>
        if (v.below at_).isEmpty then .ok (v.clear at_)
        else .error ("failed to remove '" ++ s ++ "': Directory not empty")
      | .ok (.there _ _) => .error ("failed to remove '" ++ s ++ "': Not a directory")
      | .ok (.vacant _) => .error ("failed to remove '" ++ s ++ "': No such file or directory")
      | .error e => .error ("failed to remove '" ++ s ++ "': " ++ e.words)

def runRemove (c : Call) : Effect :=
  c.withOptions ['r', 'R', 'f', 'i', 'v', 'd'] [] [("force", 'f'), ("recursive", 'r')] fun g =>
    if g.operands.isEmpty then if g.has 'f' then {} else Effect.misuse c.name "missing operand"
    else c.changing g.operands fun v s =>
      let complaint (text : String) := "cannot remove '" ++ s ++ "': " ++ text
      match v.locateEntry (pathOf s) with
      | .ok (.there at_ .dir) =>
        if g.has 'r' || g.has 'R' then .ok (v.clear at_) else .error (complaint "Is a directory")
      | .ok (.there at_ _) => .ok (v.clear at_)
      | .ok (.vacant _) =>
        if g.has 'f' then .ok v else .error (complaint "No such file or directory")
      | .error e => if g.has 'f' then .ok v else .error (complaint e.words)

def runTouch (c : Call) : Effect :=
  c.withOptions ['a', 'c', 'm'] ['d', 't', 'r'] [] fun g =>
    if g.operands.isEmpty then Effect.misuse c.name "missing file operand"
    else c.changing g.operands fun v s =>
      match v.locate (pathOf s) with
      | .ok (.there _ _) => .ok v
      | .ok (.vacant at_) => .ok (if g.has 'c' then v else v.place at_ (.file [] false))
      | .error e => .error ("cannot touch '" ++ s ++ "': " ++ e.words)

/-- The path that an operand gets under a target: inside it where it is a directory. -/
def targetPath (v : Volume) (target source : String) : String :=
  match v.locate (pathOf target) with
  | .ok (.there _ .dir) => target ++ "/" ++ baseName source
  | _ => target

/-- Copies files; `keep` says whether the old ones stay. -/
def runCopy (c : Call) (keep : Bool) : Effect :=
  c.withOptions ['f', 'p', 'r', 'R', 'a', 'n', 'v', 'i'] [] [] fun g =>
    match g.operands.reverse with
    | [] => Effect.misuse c.name "missing file operand"
    | [only] => Effect.misuse c.name ("missing destination file operand after '" ++ only ++ "'")
    | target :: sources => c.changing sources.reverse fun v s =>
      match v.locateEntry (pathOf s) with
      | .ok (.there at_ item) =>
        match v.locate (pathOf (targetPath v target s)) with
        | .ok spot =>
          let goal := match spot with
            | .there goal _ => goal
            | .vacant goal => goal
          if item = .dir && keep && !(g.has 'r' || g.has 'R' || g.has 'a') then
            .error ("-r not specified; omitting directory '" ++ s ++ "'")
          else
            let below := (v.below at_).map fun (names, item) => (goal ++ names, item)
            let cleared := if keep then v else v.clear at_
            .ok (((goal, item) :: below).foldl (fun v (l, i) => v.place l i) cleared)
        | .error e =>
          .error ("cannot create regular file '" ++ targetPath v target s ++ "': " ++ e.words)
      | .ok (.vacant _) => .error ("cannot stat '" ++ s ++ "': No such file or directory")
      | .error e => .error ("cannot stat '" ++ s ++ "': " ++ e.words)

def runList (c : Call) : Effect :=
  c.withOptions ['a', 'A', '1', 'd', 'l', 'r', 'p', 'F'] [] [] fun g =>
    let operands := if g.operands.isEmpty then ["."] else g.operands.mergeSort fun a b => a ≤ b
    let visible (names : List String) : List String := names.filter fun name =>
      if g.has 'a' then true
      else if name == "." || name == ".." then false
      else g.has 'A' || !name.startsWith "."
    let column (names : List String) : List Char := names.flatMap fun name => name.toList ++ ['\n']
    let isDir (s : String) : Bool := match c.volume.locate (pathOf s) with
      | .ok (.there _ .dir) => !g.has 'd'
      | _ => false
    let there := operands.filter (isThere c.volume)
    let complaints := (operands.filter fun s => !isThere c.volume s).flatMap fun s =>
      (c.name ++ ": cannot access '" ++ s ++ "': No such file or directory\n").toList
    let files := there.filter fun s => !isDir s
    let dirs := there.filter isDir
    let several := 1 < operands.length
    let groups := (if files.isEmpty then [] else [column files]) ++ dirs.map fun s =>
      (if several then (s ++ ":\n").toList else []) ++ column (visible (namesIn c.volume s))
    { status := if complaints.isEmpty then 0 else 2
      out := ['\n'].intercalate groups
      err := complaints }

def runTee (c : Call) : Effect :=
  c.withOptions ['a', 'i', 'p'] [] [("append", 'a')] fun g =>
    let e := c.changing g.operands fun v s =>
      let before := if g.has 'a' then match v.read (pathOf s) with
        | .ok bs => bs
        | .error _ => [] else []
      (v.write (pathOf s) (before ++ toBytes (String.ofList c.input))).mapError
        fun e => plainComplaint s e
    { e with out := c.input, taken := c.input.length }

/-! ## Other programs -/

/-- The duration of a sleep in thousandths of a second. -/
def duration? (s : String) : Option Nat :=
  let cs := s.toList
  let whole := cs.takeWhile Char.isDigit
  let (part, rest) := match cs.dropWhile Char.isDigit with
    | '.' :: more => (more.takeWhile Char.isDigit, more.dropWhile Char.isDigit)
    | more => ([], more)
  let unit : Option Nat := match rest with
    | [] => some 1
    | ['s'] => some 1
    | ['m'] => some 60
    | ['h'] => some 3600
    | ['d'] => some 86400
    | _ => none
  if whole.isEmpty && part.isEmpty then none
  else unit.map fun u =>
    let thousandths := (readDigits 10 ((part ++ ['0', '0', '0']).take 3)).1
    ((readDigits 10 whole).1 * 1000 + thousandths) * u

/-- A sleep that does not end. -/
def foreverMilliseconds : Nat := Nat.pow 10 15

def runSleep (c : Call) : Effect :=
  c.withOptions [] [] [] fun g =>
    if g.operands.isEmpty then Effect.misuse c.name "missing operand"
    else
      let times := g.operands.map fun s =>
        (s, if s == "infinity" || s == "inf" then some foreverMilliseconds else duration? s)
      match times.filter fun (_, t) => t.isNone with
      | [] => { milliseconds := times.foldl (fun n (_, t) => n + t.getD 0) 0 }
      | bad =>
        let lines := "\n".intercalate ((bad.map fun (s, _) => "invalid time interval '" ++ s ++ "'"))
        Effect.misuse c.name lines

def runPrint (c : Call) : Effect :=
  match c.args with
  | [] => Effect.misuse c.name "missing operand"
  | format :: args =>
    let (out, complaints, mistake) := printFormatted format args
    let lines := complaints ++ mistake.toList
    { status := if lines.isEmpty then 0 else 1
      out := out
      err := lines.flatMap fun line => (c.name ++ ": " ++ line ++ "\n").toList }

/-- Whether two paths lead to one file. -/
def sameFile (v : Volume) (a b : String) : Bool :=
  match v.locate (pathOf a), v.locate (pathOf b) with
  | .ok (.there at_ _), .ok (.there at_' _) => !a.isEmpty && !b.isEmpty && at_ == at_'
  | _, _ => false

/-- Directories that every system has. -/
def systemDirs : List String :=
  ["/bin", "/dev", "/etc", "/home", "/lib", "/proc", "/root", "/sbin", "/tmp", "/usr", "/usr/bin",
    "/usr/lib", "/usr/sbin", "/var"]

/-- Programs that every system has. -/
def systemPrograms : List String :=
  (["sh", "dash", "bash", "env", "cat", "ls", "echo", "true", "false", "test", "["].map
    fun name => ["/bin/" ++ name, "/usr/bin/" ++ name]).flatten

/-- What is true of a file. -/
def fileHas (v : Volume) (letter : Char) (file : String) : Bool :=
  let path := pathOf file
  if file == "/dev/null" then ['c', 'e', 'r', 'w', 'O', 'G'].contains letter
  else if systemDirs.contains file then ['d', 'e', 'r', 's', 'w', 'x', 'O', 'G'].contains letter
  else if systemPrograms.contains file then
    ['f', 'e', 'r', 's', 'w', 'x', 'O', 'G'].contains letter
  else match letter with
  | 'h' | 'L' => match v.locateEntry path with
    | .ok (.there _ (.link _)) => true
    | _ => false
  | _ =>
    match if file.isEmpty then .error .notFound else v.locate path with
    | .ok (.there _ item) => match letter, item with
      | 'f', .file _ _ => true
      | 'f', _ => false
      | 'd', .dir => true
      | 'd', _ => false
      | 's', .file content _ => !content.isEmpty
      | 'x', .file _ executable => executable
      | 'c', _ => false
      | 'b', _ => false
      | 'p', _ => false
      | 'S', _ => false
      | 'u', _ => false
      | 'g', _ => false
      | 'k', _ => false
      | _, _ => true
    | _ => false

def runTest (c : Call) (bracket : Bool) : Effect :=
  if bracket && c.args.getLast? ≠ some "]" then
    { Effect.failure c.name "missing ']'" with status := 2 }
  else
    match testCondition (fileHas c.volume) (sameFile c.volume)
        (if bracket then c.args.dropLast else c.args) with
    | .ok true => {}
    | .ok false => { status := 1 }
    | .error text => { Effect.failure c.name text with status := 2 }

/-- The value of an expression of three words, or of one. -/
def runExpression (c : Call) : Effect :=
  let answer (s : String) : Effect :=
    { status := if s == "0" || s.isEmpty then 1 else 0, out := (s ++ "\n").toList }
  let truth (b : Bool) : Effect := answer (if b then "1" else "0")
  let failure (text : String) : Effect := { Effect.failure c.name text with status := 2 }
  match c.args with
  | [] => { Effect.misuse c.name "missing operand" with status := 2 }
  | [a] => answer a
  | ["length", a] => answer (Nat.repr a.length)
  | [_, op] => failure ("syntax error: missing argument after '" ++ op ++ "'")
  | [a, op, b] =>
    match wholeNumber? false a, wholeNumber? false b with
    | some m, some n => match op with
      | "+" => answer (toString (m + n))
      | "-" => answer (toString (m - n))
      | "*" => answer (toString (m * n))
      | "/" => if n = 0 then failure "division by zero" else answer (toString (Int.tdiv m n))
      | "%" => if n = 0 then failure "division by zero" else answer (toString (Int.tmod m n))
      | "<" => truth (m < n)
      | "<=" => truth (m ≤ n)
      | ">" => truth (n < m)
      | ">=" => truth (n ≤ m)
      | "=" => truth (m == n)
      | "!=" => truth (m != n)
      | "|" => answer (if m = 0 then b else a)
      | "&" => answer (if m = 0 || n = 0 then "0" else a)
      | _ => failure ("syntax error: unexpected argument '" ++ op ++ "'")
    | _, _ => match op with
      | "=" => truth (a == b)
      | "!=" => truth (a != b)
      | "<" => truth (a < b)
      | ">" => truth (b < a)
      | "|" => answer (if a.isEmpty || a == "0" then b else a)
      | "&" => answer (if a.isEmpty || b.isEmpty then "0" else a)
      | _ => failure "non-integer argument"
  | _ :: _ :: _ :: d :: _ => failure ("syntax error: unexpected argument '" ++ d ++ "'")

/-- The programs by name. -/
def utility? (name : String) : Option (Call → Effect) :=
  match name with
  | "echo" => some fun c => { out := echoProgram c.args }
  | "true" => some fun _ => {}
  | "false" => some fun _ => { status := 1 }
  | "cat" => some runCat
  | "head" => some fun c => runPiece c true headOf
  | "tail" => some fun c => runPiece c false tailOf
  | "wc" => some runCount
  | "tr" => some runTranslate
  | "sort" => some runSort
  | "uniq" => some runUnique
  | "cut" => some runCut
  | "rev" => some fun c => runReverse c false
  | "tac" => some fun c => runReverse c true
  | "seq" => some runSequence
  | "basename" => some runBaseName
  | "dirname" => some runDirName
  | "mkdir" => some runMakeDirs
  | "rmdir" => some runRemoveDirs
  | "rm" => some runRemove
  | "touch" => some runTouch
  | "cp" => some fun c => runCopy c true
  | "mv" => some fun c => runCopy c false
  | "ls" => some runList
  | "tee" => some runTee
  | "sleep" => some runSleep
  | "printf" => some runPrint
  | "test" => some fun c => runTest c false
  | "[" => some fun c => runTest c true
  | "expr" => some runExpression
  | "uname" => some fun _ => { out := "Linux\n".toList }
  | _ => none

end BundleBuild.Shell
