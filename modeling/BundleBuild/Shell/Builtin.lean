/-
The commands that a shell carries out itself, apart from those that run other commands. Each sets
the status; a mistake in the use of one is a fault, which ends the shell only for the special ones.
-/
import BundleBuild.Shell.Mask
import BundleBuild.Shell.Signal
import BundleBuild.Shell.Grammar
import BundleBuild.Shell.Utility

namespace BundleBuild.Shell

namespace Act

/-! ## Arguments -/

/-- A number that has to be given as a plain count. -/
def number (s : String) : Act Nat := do
  match wholeNumber? false s with
  | some n =>
    if n < 0 || 2147483647 < n then fail ("Illegal number: " ++ s) else return n.toNat
  | none => fail ("Illegal number: " ++ s)

/-- The options at the start of arguments, with their values, and the other arguments. -/
def leadingOptions (plain valued : List Char) : Nat → List String →
    Act (List (Char × String) × List String)
  | 0, args => return ([], args)
  | _ + 1, [] => return ([], [])
  | n + 1, arg :: rest => do
    match arg.toList with
    | ['-', '-'] => return ([], rest)
    | '-' :: c :: cs =>
      match Given.letters plain valued rest.head? (c :: cs) with
      | .ok (own, used) =>
        let (more, operands) ← leadingOptions plain valued n (if used then rest.drop 1 else rest)
        return (own ++ more, operands)
      | .error _ =>
        match (c :: cs).find? fun c => !plain.contains c with
        | some bad =>
          if valued.contains bad then fail ("No arg for -" ++ bad.toString ++ " option")
          else fail ("Illegal option -" ++ bad.toString)
        | none => return ([], arg :: rest)
    | _ => return ([], arg :: rest)

def optionsOf (plain valued : List Char) (args : List String) :
    Act (List (Char × String) × List String) :=
  leadingOptions plain valued (args.length + 1) args

/-- Writes the output of a builtin command. -/
def say (cs : List Char) : Act Unit := do
  if !cs.isEmpty then
    if !(← write 1 cs) then
      complain (((← shell).command.getD "") ++ ": I/O error")
      setStatus 1

/-- A text in single quotation marks. -/
def inQuotes (s : String) : String :=
  String.ofList ('\'' :: inside s.toList)
where
  /-- The text between single marks; a run of single marks stands between double ones. -/
  inside : List Char → List Char
    | [] => ['\'']
    | '\'' :: rest => '\'' :: '"' :: '\'' :: marks rest
    | c :: rest => c :: inside rest
  marks : List Char → List Char
    | [] => ['"']
    | '\'' :: rest => '\'' :: marks rest
    | c :: rest => '"' :: '\'' :: c :: inside rest

/-! ## Text and conditions -/

def builtinEcho (args : List String) : Act Unit := do
  setStatus 0
  say (echoBuiltin args)

def builtinPrintf (args : List String) : Act Unit := do
  setStatus 0
  let (_, operands) ← optionsOf [] [] args
  match operands with
  | [] => fail "usage: printf format [arg ...]"
  | format :: rest =>
    let (out, complaints, mistake) := printFormatted format rest
    complaints.forM fun text => do
      complain text
      setStatus 1
    match mistake with
    | some text =>
      complain text
      setStatus 2
      say out
      throw .fault
    | none => say out

def builtinTest (bracket : Bool) (args : List String) : Act Unit := do
  if bracket && args.getLast? ≠ some "]" then fail "missing ]"
  else
    let v ← volume
    match testCondition (fileHas v) (sameFile v) (if bracket then args.dropLast else args) with
    | .ok b => setStatus (if b then 0 else 1)
    | .error text => fail text

/-! ## Places -/

/-- A location as a path. -/
def locationPath (at_ : Location) : String :=
  "/" ++ octets ("/".intercalate at_)

def builtinPwd (args : List String) : Act Unit := do
  let (options, _) ← optionsOf ['L', 'P'] [] args
  setStatus 0
  let sh ← shell
  let physical := (options.getLast?.map (·.1)) == some 'P'
  say ((if physical then locationPath sh.home else sh.directory) ++ "\n").toList

/-- A path taken from a directory, step by step; a step up leaves what came last. -/
def stepPath (directory target : String) : String :=
  let start := if target.startsWith "/" then [] else splitText '/' directory
  let step (names : List String) (name : String) : List String :=
    if name.isEmpty || name == "." then names
    else if name == ".." then names.dropLast
    else names ++ [name]
  "/" ++ "/".intercalate ((start ++ splitText '/' target).foldl step [])

/-- Goes to a directory. Unless `physical` says so, the path is followed step by step, and a step
up leads back to where a link was. -/
def changeDir (physical : Bool) (target : String) : Act Bool := do
  let v ← volume
  let directory := (← shell).directory
  let path := if physical then target else stepPath directory target
  match if target.isEmpty && physical then .error .notFound else v.locate (pathOf path) with
  | .ok (.there at_ .dir) =>
    let shown := if physical then locationPath at_ else path
    modifyShell fun sh => { sh with home := at_, directory := shown }
    setVariable "OLDPWD" (some { value := some directory, exported := true })
    setVariable "PWD" (some { value := some shown, exported := true })
    setStatus 0
    return true
  | _ => return false

/-- Whether a path is looked for from here only. -/
def isAnchored (path : String) : Bool :=
  path.startsWith "/" || [".", ".."].contains ((splitText '/' path).headD "")

def builtinCd (args : List String) : Act Unit := do
  let (options, operands) ← optionsOf ['L', 'P'] [] args
  let physical := (options.getLast?.map (·.1)) == some 'P'
  let (given, back) ← match operands with
    | [] => do pure ((← value? "HOME").getD "", false)
    | "-" :: _ => do pure ((← value? "OLDPWD").getD "", true)
    | target :: _ => pure (target, false)
  let target := if given.isEmpty then "." else given
  let v ← volume
  let dirs := match ← value? "CDPATH" with
    | some dirs => splitText ':' dirs
    | none => [""]
  let found := if isAnchored target then none else dirs.findSome? fun dir =>
    let path := if dir.isEmpty then target else dir ++ "/" ++ target
    if fileHas v 'd' path then some (path, !dir.isEmpty) else none
  let (path, named) := found.getD (target, false)
  if !(← changeDir physical path) then fail ("can't cd to " ++ target)
  if back || named then say ((← shell).directory ++ "\n").toList

/-! ## Variables -/

/-- A word of the form `name` or `name=value`. -/
def settingOf (s : String) : String × Option String :=
  let name := s.toList.takeWhile (· ≠ '=')
  match s.toList.dropWhile (· ≠ '=') with
  | _ :: value => (String.ofList name, some (String.ofList value))
  | [] => (s, none)

/-- Marks variables, and sets those that come with a value. -/
def markVariables (word : String) (mark : Variable → Variable) (has : Variable → Bool)
    (args : List String) : Act Unit := do
  setStatus 0
  let (options, operands) ← optionsOf ['p'] [] args
  if operands.isEmpty || options.any fun (c, _) => c == 'p' then
    let lines := (← shell).bindings.filterMap fun (k, v) =>
      if has v then some (word ++ " " ++ k ++ match v.value with
        | some s => "=" ++ inQuotes s
        | none => "") else none
    say ((lines.mergeSort fun a b => a ≤ b).flatMap fun l => (l ++ "\n").toList)
  else operands.forM fun s => do
    let (name, value) := settingOf s
    if !isName name then fail (name ++ ": bad variable name")
    match value with
    | some value => assign name value
    | none => pure ()
    let v := (← binding? name).getD { value := none }
    setVariable name (some (mark v))

def builtinUnset (args : List String) : Act Unit := do
  setStatus 0
  let (options, operands) ← optionsOf ['f', 'v'] [] args
  let functions := options.any fun (c, _) => c == 'f'
  operands.forM fun name => do
    if functions then
      modifyShell fun sh => { sh with functions := sh.functions.filter fun (k, _) => k != name }
    else if !isName name then fail (name ++ ": bad variable name")
    else match ← binding? name with
      | some v =>
        if v.fixed then fail (name ++ ": is read only") else setVariable name none
      | none =>
        modifyShell fun sh => { sh with functions := sh.functions.filter fun (k, _) => k != name }

/-- Hides a variable until the function at hand is left; its value can still be seen. -/
def hide (name : String) : Act Unit := do
  let old ← binding? name
  modifyShell fun sh => { sh with hidden := match sh.hidden with
    | frame :: rest =>
      if frame.any fun (k, _) => k == name then sh.hidden else ((name, old) :: frame) :: rest
    | [] => [] }

def builtinLocal (args : List String) : Act Unit := do
  setStatus 0
  if (← shell).calls = 0 then fail "not in a function"
  else args.forM fun s => do
    let (name, value) := settingOf s
    if !isName name then fail (name ++ ": bad variable name")
    hide name
    match value with
    | some value => assign name value
    | none => pure ()

def setOption (c : Char) (on : Bool) : Act Unit := do
  if optionNames.any fun (c', _) => c' == c then
    modifyShell fun sh =>
      let others := sh.options.filter (· ≠ c)
      { sh with options := if on then c :: others else others }
  else fail ("Illegal option -" ++ c.toString)

/-- The options that have no letter; they change nothing. -/
def letterlessOptions : List String :=
  ["nolog", "debug"]

def setNamedOption (name : String) (on : Bool) : Act Unit := do
  match optionNames.find? fun (_, name') => name' == name with
  | some (c, _) => setOption c on
  | none =>
    if letterlessOptions.contains name then
      modifyShell fun sh =>
        let others := sh.namedOptions.filter (· ≠ name)
        { sh with namedOptions := if on then name :: others else others }
    else fail ("Illegal option -o " ++ name)

/-- The list of options and whether they are on. -/
def listOptions (asCommands : Bool) : Act Unit := do
  let sh ← shell
  let all := (optionNames.map fun (c, name) => (name, sh.options.contains c)) ++
    letterlessOptions.map fun name => (name, sh.namedOptions.contains name)
  let line (name : String) (isOn : Bool) : String :=
    if asCommands then "set " ++ (if isOn then "-o " else "+o ") ++ name ++ "\n"
    else name ++ String.ofList (List.replicate (16 - name.length) ' ') ++
      (if isOn then "on\n" else "off\n")
  say ((if asCommands then "" else "Current option settings\n").toList ++
    all.flatMap fun (name, isOn) => (line name isOn).toList)

/-- The letters of one argument of `set`; what is left of the arguments comes back. -/
def setLetters (on : Bool) : List Char → List String → Act (List String)
  | [], rest => return rest
  | 'o' :: cs, rest => do
    match rest with
    | name :: rest' =>
      setNamedOption name on
      setLetters on cs rest'
    | [] =>
      listOptions (!on)
      setLetters on cs []
  | c :: cs, rest => do
    setOption c on
    setLetters on cs rest

/-- Reads the options of `set`; the other arguments come back, and whether a dash ended the
options. -/
def setOptions : Nat → List String → Act (List String × Bool)
  | 0, args => return (args, false)
  | _ + 1, [] => return ([], false)
  | n + 1, arg :: rest => do
    match arg.toList with
    | ['-', '-'] => return (rest, true)
    | ['-'] =>
      setOption 'x' false
      setOption 'v' false
      return (rest, false)
    | '-' :: cs => setOptions n (← setLetters true cs rest)
    | '+' :: cs => setOptions n (← setLetters false cs rest)
    | _ => return (arg :: rest, false)

def builtinSet (args : List String) : Act Unit := do
  setStatus 0
  if args.isEmpty then
    let lines := (← shell).bindings.filterMap fun (k, v) =>
      v.value.map fun s => k ++ "=" ++ inQuotes s
    say ((lines.mergeSort fun a b => a ≤ b).flatMap fun l => (l ++ "\n").toList)
  else
    let (operands, ended) ← setOptions (args.length + 1) args
    if ended || !operands.isEmpty then modifyShell fun sh => { sh with args := operands }

def builtinShift (args : List String) : Act Unit := do
  setStatus 0
  let n ← match args with
    | s :: _ => number s
    | [] => pure 1
  let sh ← shell
  if sh.args.length < n then fail "can't shift that many"
  else modifyShell fun sh => { sh with args := sh.args.drop n, optionPlace := 0 }

/-! ## Reading -/

/-- The characters of one line, with those after a backslash protected, how many were passed, and
whether the line was closed. -/
def lineCells (raw : Bool) : List Char → List Cell × Nat × Bool
  | [] => ([], 0, false)
  | '\n' :: _ => ([], 1, true)
  | '\\' :: rest =>
    if raw then
      let (cells, n, closed) := lineCells raw rest
      (.char '\\' false true :: cells, n + 1, closed)
    else match rest with
      | '\n' :: rest' =>
        let (cells, n, closed) := lineCells raw rest'
        (cells, n + 2, closed)
      | c :: rest' =>
        let (cells, n, closed) := lineCells raw rest'
        (.char c true false :: cells, n + 2, closed)
      | [] => ([], 1, false)
  | c :: rest =>
    let (cells, n, closed) := lineCells raw rest
    (.char c false true :: cells, n + 1, closed)

def isSeparatorCell (ifs : List Char) : Cell → Bool
  | .char c _ splits => splits && ifs.contains c
  | _ => false

def isBlankSeparator (ifs : List Char) : Cell → Bool
  | .char c _ splits => splits && ifs.contains c && (c = ' ' || c = '\t' || c = '\n')
  | _ => false

/-- The texts for so many variables; the last gets the rest of the line. -/
def shareOut (ifs : List Char) : Nat → List Cell → List String
  | 0, _ => []
  | 1, cells =>
    let body := cells.dropWhile (isBlankSeparator ifs)
    let fields := Cell.fields ifs body
    match fields with
    | [] => [""]
    | [only] => [Cell.text only]
    | _ => [Cell.text (body.reverse.dropWhile (isBlankSeparator ifs)).reverse]
  | n + 1, cells =>
    let body := cells.dropWhile (isBlankSeparator ifs)
    let own := body.takeWhile fun c => !isSeparatorCell ifs c
    let after := body.dropWhile fun c => !isSeparatorCell ifs c
    let rest := match after with
      | [] => []
      | c :: cs => Cell.passSeparators ifs (isBlankSeparator ifs c) cs
    Cell.text own :: shareOut ifs n rest

def builtinRead (args : List String) : Act Unit := do
  let (options, names) ← optionsOf ['r'] ['p'] args
  if names.isEmpty then fail "arg count"
  else
    match names.find? fun name => !isName name with
    | some bad => fail (bad ++ ": bad variable name")
    | none =>
      let raw := options.any fun (c, _) => c == 'r'
      let (cells, n, closed) := lineCells raw (← readRest 0)
      skipRead 0 n
      let values := shareOut (← separators) names.length cells
      (names.zip values).forM fun (name, value) => assign name value
      setStatus (if closed then 0 else 1)

/-! ## Signals -/

/-- Sends a signal to a process; the result says whether there is one. -/
def send (process signal : Nat) : Act Bool := do
  let sh ← shell
  let w ← world
  match sh.jobs.find? fun (p, _, _) => p == process with
  | some (_, _, ends) =>
    if signal ≠ 0 && w.clock < ends then
      modifyShell fun sh => { sh with jobs := sh.jobs.map fun (p, s, e) =>
        if p = process then (p, 128 + signal, w.clock) else (p, s, e) }
      modifyWorld fun w => { w with lingering := w.clock }
    return true
  | none =>
    if process = 0 || process ≤ w.processes then
      let target := if process = 0 then 1 else process
      let traps := if sh.isSubshell then sh.outerTraps else sh.traps
      match if target = sh.process then traps.find? fun (n, _) => n == signal else none with
      | some (_, action) =>
        if signal = 9 then throw (.killed target signal)
        if !action.isEmpty && !sh.isSubshell then
          modifyShell fun sh => { sh with caught := sh.caught ++ [signal] }
        return true
      | none =>
        if isPassedOver signal then return true
        else if makesWait signal then throw .endless
        else throw (.killed target signal)
    else return false

def killUsage : String :=
  "Usage: kill [-s sigspec | -signum | -sigspec] [pid | job]... or\nkill -l [exitstatus]"

/-- The names of signals, or of the one that an exit status tells of. -/
def listSignals (args : List String) : Act Unit := do
  match args with
  | [] => say (("0" :: signalNames).flatMap fun s => (s ++ "\n").toList)
  | s :: _ =>
    let n ← number s
    let signal := if 128 < n then n - 128 else n
    if 0 < signal && signal < 65 then say (signalName signal ++ "\n").toList
    else fail ("invalid signal number or exit status: " ++ s)

def sendAll (signal : Nat) (targets : List String) : Act Unit := do
  targets.forM fun s => do
    let n ← match s.toList with
      | '-' :: cs => number (String.ofList cs)
      | _ => number s
    if !(← send n signal) then
      complain "No such process\n"
      setStatus 1

def builtinKill (args : List String) : Act Unit := do
  setStatus 0
  match args with
  | [] => fail killUsage
  | first :: rest =>
    let direct := match first.toList with
      | '-' :: cs => signal? (String.ofList cs)
      | _ => none
    match direct with
    | some signal => if rest.isEmpty then fail killUsage else sendAll signal rest
    | none =>
      let (options, operands) ← optionsOf ['l'] ['s'] args
      if options.any fun (c, _) => c == 'l' then listSignals operands
      else
        let name := (options.reverse.find? fun (c, _) => c == 's').map (·.2)
        match name with
        | none => if operands.isEmpty then fail killUsage else sendAll 15 operands
        | some s =>
          match signal? s with
          | none => fail ("invalid signal number or name: " ++ s)
          | some signal => if operands.isEmpty then fail killUsage else sendAll signal operands

def builtinTrap (args : List String) : Act Unit := do
  setStatus 0
  let (_, operands) ← optionsOf [] [] args
  match operands with
  | [] =>
    let traps := (← shell).traps.mergeSort fun a b => a.1 ≤ b.1
    say (traps.flatMap fun (n, action) =>
      ("trap -- " ++ inQuotes action ++ " " ++ signalName n ++ "\n").toList)
  | first :: rest =>
    let (action, names) := if rest.isEmpty then (none, [first])
      else (if first == "-" then none else some first, rest)
    names.forM fun name => do
      match signal? name with
      | none =>
        let _ ← write 2 ("trap: " ++ name ++ ": bad trap\n").toList
        setStatus 1
      | some n => modifyShell fun sh =>
          let others := sh.traps.filter fun (m, _) => m != n
          { sh with traps := match action with
              | some action => (n, action) :: others
              | none => others }

/-! ## The rest -/

def builtinNames : List String :=
  [".", ":", "[", "alias", "bg", "break", "cd", "chdir", "command", "continue", "echo", "eval",
    "exec", "exit", "export", "false", "fg", "getopts", "hash", "jobs", "kill", "local", "printf",
    "pwd", "read", "readonly", "return", "set", "shift", "test", "times", "trap", "true", "type",
    "ulimit", "umask", "unalias", "unset", "wait"]

/-- The directories that hold the programs of the system. -/
def programDirs : List String :=
  ["/bin", "/usr/bin"]

/-- Programs that run other programs. -/
def runners : List String :=
  ["sh", "dash", "bash", "env"]

def isProgram (name : String) : Bool :=
  runners.contains name || (utility? name).isSome

/-- Where a name without a slash leads: to a program of the system, or to a file. -/
def search? (name : String) : Act (Option String) := do
  let v ← volume
  let dirs := splitText ':' ((← value? "PATH").getD "/usr/bin:/bin")
  return dirs.findSome? fun dir =>
    let path := if dir.isEmpty then name else dir ++ "/" ++ name
    if programDirs.contains dir && isProgram name then some path
    else if fileHas v 'f' path && fileHas v 'x' path then some path
    else none

/-- The place of an alias in the list of all. -/
def aliasPlace (name : String) : Nat :=
  let codes := name.toList.map Char.toNat
  codes.foldl (· + ·) (16 * codes.headD 0) % 39

def aliasLine (name text : String) : String :=
  name ++ "=" ++ inQuotes text ++ "\n"

def builtinAlias (args : List String) : Act Unit := do
  setStatus 0
  if args.isEmpty then
    let all := (← shell).aliases.mergeSort fun a b => aliasPlace a.1 ≤ aliasPlace b.1
    say (all.flatMap fun (name, text) => (aliasLine name text).toList)
  else args.forM fun s => do
    let rest := s.toList.drop 1
    let name := String.ofList (s.toList.take 1 ++ rest.takeWhile (· ≠ '='))
    match rest.dropWhile (· ≠ '=') with
    | _ :: text => modifyShell fun sh => { sh with
        aliases := sh.aliases.put name (String.ofList text) }
    | [] =>
      match (← shell).aliases.get? s with
      | some text => say (aliasLine s text).toList
      | none =>
        let _ ← write 2 ("alias: " ++ s ++ " not found\n").toList
        setStatus 1

def builtinUnalias (args : List String) : Act Unit := do
  setStatus 0
  let (options, operands) ← optionsOf ['a'] [] args
  if !options.isEmpty then modifyShell fun sh => { sh with aliases := [] }
  else operands.forM fun s => do
    if ((← shell).aliases.get? s).isSome then
      modifyShell fun sh => { sh with aliases := sh.aliases.filter fun (k, _) => k != s }
    else
      let _ ← write 2 ("unalias: " ++ s ++ " not found\n").toList
      setStatus 1

/-- What a name stands for, in words, or briefly. -/
def describe (name : String) (brief : Bool) : Act (Option String) := do
  let sh ← shell
  let said (words : String) : Option String := some (if brief then name else name ++ words)
  if keywords.contains name then return said " is a shell keyword"
  else if let some text := sh.aliases.get? name then
    let line := String.ofList (aliasLine name text).toList.dropLast
    return some (if brief then "alias " ++ line else name ++ " is an alias for " ++ text)
  else if (sh.functions.get? name).isSome then return said " is a shell function"
  else if builtinNames.contains name then
    return said (if specialBuiltins.contains name then " is a special shell builtin"
      else " is a shell builtin")
  else
    let found ← if name.toList.contains '/' then do
        let v ← volume
        pure (if fileHas v 'x' name then some name else none)
      else search? name
    return found.map fun path => if brief then path else name ++ " is " ++ path

def builtinType (args : List String) : Act Unit := do
  setStatus 0
  args.forM fun name => do
    match ← describe name false with
    | some text => say (text ++ "\n").toList
    | none =>
      say (name ++ ": not found\n").toList
      setStatus 127

def builtinHash (args : List String) : Act Unit := do
  setStatus 0
  let (_, operands) ← optionsOf ['r', 'v'] [] args
  operands.forM fun name => do
    if (← describe name true).isNone then
      complain (name ++ ": not found")
      setStatus 1

def builtinWait (args : List String) : Act Unit := do
  setStatus 0
  let jobs := (← shell).jobs
  if args.isEmpty then modifyWorld fun w => { w with clock := max w.clock w.lingering }
  else args.forM fun s => do
    let n ← number s
    match jobs.find? fun (p, _, _) => p == n with
    | some (_, status, ends) =>
      modifyWorld fun w => { w with clock := max w.clock ends }
      setStatus status
    | none => setStatus 127

def builtinMask (args : List String) : Act Unit := do
  setStatus 0
  let (options, operands) ← optionsOf ['S'] [] args
  let mask := (← shell).mask
  match operands with
  | [] => say ((if options.isEmpty then maskDigits mask else maskWords mask) ++ "\n").toList
  | mode :: _ =>
    match readMask mask mode with
    | .ok mask => modifyShell fun sh => { sh with mask := mask }
    | .error text => fail text

/-- The next option of a list of arguments. -/
def builtinGetopts (args : List String) : Act Unit := do
  match args with
  | letters :: name :: given =>
    let sh ← shell
    let words := if given.isEmpty then sh.args else given
    let asked := max 1 ((((← value? "OPTIND").bind (wholeNumber? false)).getD 1).toNat)
    let isPast := words.length + 1 < asked
    let index := if isPast then 1 else asked
    let word := (words[index - 1]?.getD "").toList
    let finish : Act Unit := do
      assign name "?"
      assign "OPTIND" (Nat.repr index)
      modifyShell fun sh => { sh with optionPlace := 0 }
      setStatus 1
    let place := if isPast || sh.optionPlace = 0 then 1 else sh.optionPlace
    if word.head? ≠ some '-' || word.length < 2 then finish
    else if word == ['-', '-'] then
      finish
      assign "OPTIND" (Nat.repr (index + 1))
    else match word[place]? with
      | none => finish
      | some c =>
        let quiet := letters.startsWith ":"
        let next := place + 1
        let pass : Act Unit := do
          let atEnd := word.length ≤ next
          assign "OPTIND" (Nat.repr (if atEnd then index + 1 else index))
          modifyShell fun sh => { sh with optionPlace := if atEnd then 0 else next }
        setStatus 0
        match letters.toList.dropWhile (· ≠ c) with
        | _ :: ':' :: _ =>
          if next < word.length then
            assign "OPTARG" (String.ofList (word.drop next))
            assign "OPTIND" (Nat.repr (index + 1))
            modifyShell fun sh => { sh with optionPlace := 0 }
            assign name c.toString
          else match words[index]? with
            | some value =>
              assign "OPTARG" value
              assign "OPTIND" (Nat.repr (index + 2))
              modifyShell fun sh => { sh with optionPlace := 0 }
              assign name c.toString
            | none =>
              pass
              if quiet then
                assign "OPTARG" c.toString
                assign name ":"
              else
                let _ ← write 2 ("No arg for -" ++ c.toString ++ " option\n").toList
                setVariable "OPTARG" none
                assign name "?"
        | _ :: _ =>
          pass
          setVariable "OPTARG" none
          assign name c.toString
        | [] =>
          pass
          if quiet then assign "OPTARG" c.toString
          else
            let _ ← write 2 ("Illegal option -" ++ c.toString ++ "\n").toList
            setVariable "OPTARG" none
          assign name "?"
  | _ => fail "Usage: getopts optstring var [arg...]"

def leaveLoops (stop : Nat → Stop) (args : List String) : Act Unit := do
  let n ← match args with
    | s :: _ => do
      let n ← number s
      if n = 0 then fail ("Illegal number: " ++ s) else pure n
    | [] => pure 1
  setStatus 0
  let loops := (← shell).loops
  if 0 < loops then throw (stop (min n loops))

/-- The builtin commands that run no others. -/
def builtin? (name : String) : Option (List String → Act Unit) :=
  match name with
  | ":" => some fun _ => setStatus 0
  | "true" => some fun _ => setStatus 0
  | "false" => some fun _ => setStatus 1
  | "echo" => some builtinEcho
  | "printf" => some builtinPrintf
  | "test" => some (builtinTest false)
  | "[" => some (builtinTest true)
  | "pwd" => some builtinPwd
  | "cd" => some builtinCd
  | "chdir" => some builtinCd
  | "export" => some (markVariables "export" (fun v => { v with exported := true }) (·.exported))
  | "readonly" => some (markVariables "readonly" (fun v => { v with fixed := true }) (·.fixed))
  | "unset" => some builtinUnset
  | "local" => some builtinLocal
  | "set" => some builtinSet
  | "shift" => some builtinShift
  | "read" => some builtinRead
  | "kill" => some builtinKill
  | "trap" => some builtinTrap
  | "type" => some builtinType
  | "hash" => some builtinHash
  | "wait" => some builtinWait
  | "alias" => some builtinAlias
  | "unalias" => some builtinUnalias
  | "umask" => some builtinMask
  | "getopts" => some builtinGetopts
  | "jobs" => some fun _ => setStatus 0
  | "times" => some fun _ => do
    setStatus 0
    say "0m0.00s 0m0.00s\n0m0.00s 0m0.00s\n".toList
  | "ulimit" => some fun args => do
    let letters := ['H', 'S', 'a', 't', 'f', 'd', 's', 'c', 'm', 'l', 'p', 'n', 'v', 'w', 'r']
    let (_, operands) ← optionsOf letters [] args
    setStatus 0
    if operands.isEmpty then say "unlimited\n".toList
  | "break" => some (leaveLoops .leave)
  | "continue" => some (leaveLoops .resume)
  | "return" => some fun args => do
    match args with
    | s :: _ => setStatus (← number s)
    | [] => pure ()
    throw .return
  | "exit" => some fun args => do
    match args with
    | s :: _ => setStatus (← number s)
    | [] => pure ()
    throw .exit
  | "fg" => some fun _ => fail "No current job"
  | "bg" => some fun _ => fail "No current job"
  | _ => none

end Act

end BundleBuild.Shell
