/-
Build configuration: where the sources are and where artifacts go, how many compilations run at
once, and how the compiler is called. A configuration file is named explicitly, by an environment
variable, or found under its standard name; without one the defaults hold. Relative directories
in a file are seen from the directory the file is in.
-/
import BundleBuild.Layout
import BundleBuild.Journal
import BundleBuild.Volume
import BundleBuild.Compiler
import BundleBuild.Yaml.Document

namespace BundleBuild

structure Config where
  sourceRoot : Path := Path.ofText "."
  outputDir : Path := Path.ofText "build"
  /-- How many compilations run at once; one for each processor when left open. -/
  maxWorkers : Option Int := none
  failFast : Bool := false
  layout : Layout := .standard
  command : List String := ["google-closure-compiler"]
  /-- How many seconds one compilation may take. -/
  timeout : Option Float := none

namespace Config

/-! ## From data -/

def compilerFields : List String :=
  ["command", "timeout_seconds"]

/-- The compiler's part of a configuration: its command and its time limit. -/
def checkCompiler : Datum → Checked (List String × Option Float) :=
  checkRecord "CompilerConfig" compilerFields fun r =>
    let absent : Config := {}
    Checked.both
      (fieldOr r "command" (checkSome checkText) absent.command)
      (fieldOr r "timeout_seconds" (checkOptional checkPositive) none)

def fieldNames : List String :=
  ["source_root", "output_dir", "max_workers", "fail_fast", "layout", "compiler"]

def checkFields (r : RawRecord) : Checked Config :=
  let absent : Config := {}
  let dirs := Checked.both
    (fieldOr r "source_root" checkPath absent.sourceRoot)
    (fieldOr r "output_dir" checkPath absent.outputDir)
  let running := Checked.both
    (fieldOr r "max_workers" (checkOptional (checkBetween 1 64)) none)
    (fieldOr r "fail_fast" checkTruth absent.failFast)
  let parts := Checked.both
    (fieldOr r "layout" Layout.check absent.layout)
    (fieldOr r "compiler" checkCompiler (absent.command, none))
  (Checked.both dirs (Checked.both running parts)).map
    fun ((source, output), (workers, failFast), (layout, command, timeout)) =>
      ⟨source, output, workers, failFast, layout, command, timeout⟩

/-- A configuration from data. -/
def check : Datum → Checked Config :=
  checkRecord "BuildConfig" fieldNames checkFields

/-- The configuration with its directories seen from `base`. -/
def relativeTo (c : Config) (base : Path) : Config :=
  { c with sourceRoot := base.join c.sourceRoot, outputDir := base.join c.outputDir }

/-- The compiler command line of a configuration. -/
def commandLine (c : Config) : CommandLine where
  sourceRoot := c.sourceRoot
  command := c.command
  timeout := c.timeout.map .float

/-! ## From files -/

/-- Line ends of every style as line feeds. -/
def unifyLineEnds : List Char → List Char
  | '\r' :: '\n' :: rest => '\n' :: unifyLineEnds rest
  | '\r' :: rest => '\n' :: unifyLineEnds rest
  | c :: rest => c :: unifyLineEnds rest
  | [] => []

def refuse {α : Type} (cause : ConfigurationCause) (file : Path) (field details : Option String) :
    Except Trouble α :=
  .error (.fault (.configuration {
    cause := cause, file := some file.text, field := field, details := details }))

/-- The datum a file holds. -/
def readFile (v : Volume) (file : Path) : Except Trouble Datum :=
  match v.read file with
  | .error e => .error (.atPath e file)
  | .ok bytes =>
    match decodeUtf8 bytes with
    | .error e => .error (.undecodable e)
    | .ok text =>
      match Yaml.readDocument (String.ofList (unifyLineEnds text.toList)) with
      | .ok d => .ok d
      | .error .malformed => refuse .invalidDocument file none (some "not a well-formed document")
      | .error (.valueless kind text) => .error (.raised kind text)

/-- The configuration in a document; an empty one is all defaults. The first problem is
reported. -/
def ofDocument (file : Path) : Datum → Except Trouble Config
  | .null => .ok {}
  | .map entries =>
    match check (.map entries) with
    | .ok c => .ok c
    | .error problems =>
      match problems with
      | [] => .ok {}
      | p :: _ => refuse (.invalidField p.flaw) file (some p.place)
          (some (Trouble.invalid problems).text)
  | _ => refuse .notMapping file none none

/-- The configuration in a file. -/
def ofFile (v : Volume) (file : Path) : Except Trouble Config := do
  if ← v.exists? file then
    let document ← readFile v file
    let config ← ofDocument file document
    return config.relativeTo file.parent
  else refuse .fileNotFound file none none

/-- The standard name of a configuration file. -/
def standardFile : Path := Path.ofText "splitbuild.yaml"

/-- The file to use: the one asked for, else the one the environment names, else the one of the
standard name if it is there. -/
def resolve (v : Volume) (asked environment : Option String) : Except Trouble (Option Path) :=
  match asked with
  | some file => .ok (some (Path.ofText file))
  | none =>
    match nonEmpty? environment with
    | some file => .ok (some (Path.ofText file))
    | none => (v.exists? standardFile).map fun found => if found then some standardFile else none

/-- The configuration to use. -/
def load (v : Volume) (asked environment : Option String) : Logged Config := do
  match ← Logged.lift (resolve v asked environment) with
  | none =>
    Logged.tell { channel := .configuration, level := .debug, event := "config_defaults_used" }
    return {}
  | some file =>
    Logged.tell {
      channel := .configuration
      level := .info
      event := "config_loading"
      fields := [("path", .text file.text)] }
    Logged.lift (ofFile v file)

end Config

end BundleBuild
