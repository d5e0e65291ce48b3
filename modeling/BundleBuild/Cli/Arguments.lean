/-
Reading the command line. Options of the program come before the command, options of a command
anywhere among its arguments. What does not fit is a misuse: one of the usage as a whole, or one of
a single option's value, which has a message of its own.
-/
import BundleBuild.Number.Numeral
import BundleBuild.Volume

namespace BundleBuild.Cli

/-- An option: its spellings, and whether a value follows it. -/
structure OptionRule where
  name : String
  short : Option Char := none
  takesValue : Bool := false

/-- An option as it was given. -/
structure Given where
  name : String
  value : String := ""
  deriving DecidableEq, Repr

/-- What is wrong with a command line. -/
inductive Misuse where
  /-- It does not fit the usage. -/
  | usage
  /-- An option that takes no value was given one. -/
  | needlessValue (option : String)
  /-- An option that takes a value stands at the end. -/
  | missingValue (option : String)
  /-- The words cannot be looked into at all. -/
  | trouble (t : Trouble)

/-- What was read: the options given and the arguments. -/
structure Words where
  options : List Given := []
  arguments : List String := []

def findLong (rules : List OptionRule) (name : String) : Option OptionRule :=
  rules.find? (·.name == name)

def findShort (rules : List OptionRule) (c : Char) : Option OptionRule :=
  rules.find? (·.short == some c)

/-- One option at the front of the words and what is left. -/
def readOption (rules : List OptionRule) (word : List Char) (rest : List String) :
    Except Misuse (Given × List String) :=
  match word with
  | '-' :: '-' :: name =>
    let key := String.ofList (name.takeWhile (· ≠ '='))
    match findLong rules key, name.dropWhile (· ≠ '=') with
    | none, _ => .error .usage
    | some rule, _ :: value =>
      if rule.takesValue then .ok (⟨rule.name, String.ofList value⟩, rest)
      else .error (.needlessValue ("--" ++ rule.name))
    | some rule, [] =>
      if rule.takesValue then
        match rest with
        | value :: rest' => .ok (⟨rule.name, value⟩, rest')
        | [] => .error (.missingValue ("--" ++ rule.name))
      else .ok (⟨rule.name, ""⟩, rest)
  | '-' :: c :: value =>
    match findShort rules c with
    | none => .error .usage
    | some rule =>
      if rule.takesValue then
        match value, rest with
        | [], v :: rest' => .ok (⟨rule.name, v⟩, rest')
        | [], [] => .error (.missingValue (String.ofList ['-', c]))
        | vs, _ => .ok (⟨rule.name, String.ofList vs⟩, rest)
      else if value.isEmpty then .ok (⟨rule.name, ""⟩, rest)
      else .error .usage
  | _ => .error .usage

/-- Reads words until there are none. Without `mixed`, the first argument ends the options. -/
def readWords (rules : List OptionRule) (mixed : Bool) : Nat → List String → Except Misuse Words
  | 0, _ => .ok {}
  | _ + 1, [] => .ok {}
  | fuel + 1, word :: rest =>
    if word = "--" then .ok { arguments := rest }
    else match word.toList with
      | '-' :: c :: cs => do
        let (given, rest') ← readOption rules ('-' :: c :: cs) rest
        let ws ← readWords rules mixed fuel rest'
        return { ws with options := given :: ws.options }
      | _ =>
        if mixed then do
          let ws ← readWords rules mixed fuel rest
          return { ws with arguments := word :: ws.arguments }
        else .ok { arguments := word :: rest }

/-- The last value given for an option. -/
def Words.value? (ws : Words) (name : String) : Option String :=
  (ws.options.reverse.find? (·.name == name)).map (·.value)

def Words.has (ws : Words) (name : String) : Bool :=
  ws.options.any (·.name == name)

/-! ## The program's own command line -/

/-- What a build is asked to do. -/
structure BuildRequest where
  units : List String
  all : Bool
  config : Option String
  output : Option String
  jobs : Option Int
  failFast : Bool

inductive Command where
  | list (namesOnly : Bool)
  | build (r : BuildRequest)

/-- What the command line asks for. -/
inductive Invocation where
  | version
  | help
  | misused (m : Misuse)
  | run (jsonLogs : Bool) (level : String) (command : Command)

def programOptions : List OptionRule := [
  { name := "version" },
  { name := "no-color" },
  { name := "json-logs" },
  { name := "log-level", takesValue := true },
  { name := "help" }]

def listOptions : List OptionRule := [
  { name := "names-only" },
  { name := "help" }]

def buildOptions : List OptionRule := [
  { name := "all" },
  { name := "config", short := some 'c', takesValue := true },
  { name := "output", short := some 'o', takesValue := true },
  { name := "jobs", short := some 'j', takesValue := true },
  { name := "fail-fast" },
  { name := "help" }]

/-- The log levels that can be asked for, in any case. -/
def logLevels : List String :=
  ["DEBUG", "INFO", "WARNING", "ERROR"]

def readLevel? (s : String) : Option String :=
  let upper := String.ofList (s.toList.map Char.toUpper)
  if logLevels.contains upper then some upper else none

/-- The number of jobs: from one to sixty-four. -/
def readJobs? (s : String) : Option Int :=
  (readInt? s).filter fun n => 1 ≤ n && n ≤ 64

/-- A value that has to read well. -/
def wellRead {α : Type} (read : String → Option α) (s : String) : Except Misuse α :=
  match read s with
  | some a => .ok a
  | none => .error .usage

/-- An optional value, read when it is given. -/
def readGiven {α : Type} (read : String → Except Misuse α) :
    Option String → Except Misuse (Option α)
  | none => .ok none
  | some s => (read s).map some

/-- Whether a text names an entry of a directory, and not what is behind a last slash. -/
def namesEntry (s : String) : Bool :=
  match (splitText '/' s).getLast? with
  | some piece => piece ≠ "" && piece ≠ "."
  | none => false

/-- What stands at a path given in the words. A path that cannot be looked up, the empty one too,
has nothing there. -/
def itemAt (v : Volume) (s : String) : Except Misuse (Option Item) :=
  if s.isEmpty then .ok none
  else match v.locate (Path.ofText s) with
    | .ok (.there _ item) => .ok (some item)
    | .error .nullByte => .error (.trouble (.atPath .nullByte (Path.ofText s)))
    | _ => .ok none

/-- A file that may be missing but is no directory. -/
def fileArgument (v : Volume) (s : String) : Except Misuse String := do
  match ← itemAt v s with
  | some .dir => .error .usage
  | _ => .ok s

/-- A directory that may be missing but is no file. There is nothing behind a file. -/
def directoryArgument (v : Volume) (s : String) : Except Misuse String := do
  match ← itemAt v s with
  | some (.file _ _) => if namesEntry s then .error .usage else .ok s
  | _ => .ok s

def readWordsOf (rules : List OptionRule) (mixed : Bool) (args : List String) :
    Except Misuse Words :=
  readWords rules mixed (args.length + 1) args

/-- The arguments of the listing. -/
def readList (args : List String) : Except Misuse (Option Command) := do
  let ws ← readWordsOf listOptions true args
  if ws.has "help" then return none
  else if ws.arguments.isEmpty then return some (.list (ws.has "names-only"))
  else .error .usage

/-- The value of one option of a build, checked. -/
def checkValue (v : Volume) (name value : String) : Except Misuse Unit :=
  match name with
  | "config" => (fileArgument v value).map fun _ => ()
  | "output" => (directoryArgument v value).map fun _ => ()
  | "jobs" => (wellRead readJobs? value).map fun _ => ()
  | _ => .ok ()

/-- The arguments of a build. Of several misused values the one whose option comes first is
reported. -/
def readBuild (v : Volume) (args : List String) : Except Misuse (Option Command) := do
  let ws ← readWordsOf buildOptions true args
  if ws.has "help" then return none
  else
    ws.options.forM fun o => checkValue v o.name ((ws.value? o.name).getD "")
    let config ← readGiven (fileArgument v) (ws.value? "config")
    let output ← readGiven (directoryArgument v) (ws.value? "output")
    let jobs ← readGiven (wellRead readJobs?) (ws.value? "jobs")
    return some (.build {
      units := ws.arguments
      all := ws.has "all"
      config := config
      output := output
      jobs := jobs
      failFast := ws.has "fail-fast" })

/-- A command by its name; a command that only asks for help is nothing inside. -/
def readCommand (v : Volume) : List String → Except Misuse (Option Command)
  | "list" :: args => readList args
  | "build" :: args => readBuild v args
  | _ => .error .usage

/-- The words read to their end; asking for the version or for help goes before the command, in
the order they are given. -/
def readProgram (v : Volume) (args : List String) : Except Misuse Invocation := do
  let ws ← readWordsOf programOptions false args
  match ws.options.find? fun o => o.name == "version" || o.name == "help" with
  | some o => return if o.name == "version" then .version else .help
  | none =>
    let level ← readGiven (wellRead readLevel?) (ws.value? "log-level")
    match ← readCommand v ws.arguments with
    | none => return .help
    | some command => return .run (ws.has "json-logs") (level.getD "WARNING") command

/-- What the words ask for. -/
def readInvocation (v : Volume) (args : List String) : Invocation :=
  match readProgram v args with
  | .ok i => i
  | .error m => .misused m

end BundleBuild.Cli
