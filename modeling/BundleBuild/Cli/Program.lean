/-
The program: what it prints, what it writes and how it ends, for a command line and the files on
disk. Time is not part of it; how long a build took is handed in as text.
-/
import BundleBuild.Compiler
import BundleBuild.Config
import BundleBuild.Executor
import BundleBuild.LogLine
import BundleBuild.Console.Box
import BundleBuild.Cli.Arguments
import BundleBuild.Cli.Failure

namespace BundleBuild.Cli

/-- What surrounds a run of the program. -/
structure Surroundings where
  /-- The configuration file named by the environment. -/
  configFile : Option String := none
  processors : Nat := 1
  /-- How many columns the console has. -/
  width : Nat := 80
  /-- The words for how long the build took. -/
  duration : String
  /-- How commands are started. -/
  launch : CommandLine.Launch := CommandLine.start

/-- How a run ends. -/
inductive Ending where
  | done
  | usageError
  | refused (e : Exit)
  /-- Trouble that nothing deals with. -/
  | crashed (t : Trouble)

def Ending.code : Ending → Nat
  | .done => 0
  | .usageError => 2
  | .refused e => e.code
  | .crashed _ => 1

/-- The lines of the message that a run ends with. -/
def Ending.panel (width : Nat) : Ending → List String
  | .refused e => Console.boxContent width e.message
  | _ => []

/-- A run: what it prints and reports, the files after it, and its end. -/
structure Run where
  printed : String := ""
  records : List Record := []
  volume : Volume
  ending : Ending
  /-- How the log was asked for. -/
  logs : LogSettings := {}

/-- The notices that are printed. -/
def Run.notices (r : Run) : List Notice :=
  match r.logs.threshold with
  | .ok threshold => printedNotices threshold r.records
  | .error _ => []

def versionLine : String := "splitbuild, version 0.1.0\n"

/-- The status lines one after another, up to one that cannot be shown. -/
def printLines (width : Nat) : List (Console.Sign × String) → String × Option Trouble
  | [] => ("", none)
  | (sign, message) :: rest =>
    match Console.statusLine width sign message with
    | .error e => ("", some e.trouble)
    | .ok line =>
      let (more, trouble) := printLines width rest
      (line ++ more, trouble)

/-! ## The listing -/

/-- The table of the declared units. -/
def unitTable (c : Catalog) : Console.Table where
  title := "Compilation units"
  columns := ["Unit", "Artifacts", "Platform", "Entry point"]
  rows := c.units.map fun (name, u) => [
    name, ", ".intercalate (u.inputs.map (·.artifact)), u.platform.dirName, u.entryPoint.symbol]

def listUnits (width : Nat) (c : Catalog) (namesOnly : Bool) : String × Option Trouble :=
  if namesOnly then printLines width (c.names.map fun name => (.none, name))
  else match (unitTable c).draw width with
    | .ok text => (text, none)
    | .error e => ("", some e.trouble)

/-! ## Builds -/

/-- The configuration with what the command line asks for. -/
def override (r : BuildRequest) (c : Config) : Config :=
  { c with
    maxWorkers := match r.jobs with
      | some n => some n
      | none => c.maxWorkers
    failFast := c.failFast || r.failFast
    outputDir := match r.output with
      | some dir => Path.ofText dir
      | none => c.outputDir }

/-- A command line as the compiler of an executor. -/
def commandCompile (launch : CommandLine.Launch) (c : CommandLine) : Compile :=
  fun v _ r =>
    let bundle := c.compileWith launch v r
    ⟨bundle.records, bundle.result.map .bytes⟩

/-- The executor of a configuration. -/
def executorOf (s : Surroundings) (c : Config) (catalog : Catalog) : Executor :=
  let asked := (c.maxWorkers.map PoolSize.ofInt).getD .unasked
  .ofRequest catalog (commandCompile s.launch c.commandLine) asked c.failFast s.processors

def sessionOf (c : Config) : Session where
  tree := { root := c.sourceRoot, layout := c.layout }

/-- The end of a run in trouble: the library's own faults are explained, others are not. -/
def endIn : Trouble → Ending
  | .fault f => .refused (exitOf f)
  | t => .crashed t

/-- The end of a run whose command line is misused. -/
def endMisused : Misuse → Ending
  | .usage => .usageError
  | .needlessValue option =>
    .refused ⟨"Option " ++ quoteText option ++ " does not take a value.", systemError⟩
  | .missingValue option =>
    .refused ⟨"Option " ++ quoteText option ++ " requires an argument.", systemError⟩
  | .trouble t => .crashed t

/-- The end of a run whose artifacts cannot be written. -/
def endWriting (dir : Path) : Trouble → Ending
  | .system .nullByte subject => .crashed (.system .nullByte subject)
  | .system .permission _ => .refused (permissionExit dir.text "write")
  | .system cause subject =>
    .refused ⟨"Cannot write artifacts: " ++ cause.text subject, systemError⟩
  | t => .crashed t

/-- What a finished batch prints: the files written, the artifacts skipped, and either how long
it took or what failed. -/
def batchLines (duration : String) (written : List Path) (b : Batch) :
    List (Console.Sign × String) :=
  written.map (fun path => (.success, "Built " ++ path.text)) ++
  b.results.flatMap (fun r => r.skipped.map fun artifact =>
    (.warning, "Skipped " ++ artifact ++ " (" ++ r.unit ++ ")")) ++
  if b.succeeded then
    [(.none, Nat.repr b.results.length ++ " unit(s) built in " ++ duration ++ " ms")]
  else b.failures.map fun f => (.error, f.unit ++ ": " ++ f.message)

/-- The end of a batch whose artifacts are written. -/
def batchEnding (b : Batch) : Ending :=
  if b.succeeded then .done
  else .refused ⟨Nat.repr b.failures.length ++ " artifact(s) failed to build",
    failuresCode b.failures⟩

/-- Writes the artifacts of a batch and reports on it. -/
def finishBatch (s : Surroundings) (dir : Path) (v : Volume) (records : List Record) (b : Batch) :
    Run :=
  match b.writeOutputs dir v with
  | (.error t, v') => { records := records, volume := v', ending := endWriting dir t }
  | (.ok written, v') =>
    let (printed, trouble) := printLines s.width (batchLines s.duration written b)
    { printed := printed
      records := records
      volume := v'
      ending := match trouble with
        | some t => .crashed t
        | none => batchEnding b }

def noUnitsMessage : String :=
  "Name at least one unit, or pass --all. See 'splitbuild list'."

/-- A run up to where the time of its build is taken. -/
inductive Stage where
  | ended (r : Run)
  /-- A batch is built, and its artifacts are to be written. -/
  | built (dir : Path) (v : Volume) (records : List Record) (b : Batch)

def Stage.finish (s : Surroundings) : Stage → Run
  | .ended r => r
  | .built dir v records b => finishBatch s dir v records b

/-- Builds the requested units. -/
def buildStage (s : Surroundings) (catalog : Catalog) (v : Volume) (r : BuildRequest) : Stage :=
  if r.units.isEmpty && !r.all then
    .ended { volume := v, ending := .refused ⟨noUnitsMessage, userError⟩ }
  else
    let loaded := Config.load v r.config s.configFile
    match loaded.result with
    | .error t => .ended { records := loaded.records, volume := v, ending := endIn t }
    | .ok config =>
      let config := override r config
      let requested := if r.all then none else some r.units
      let (batch, _) :=
        (executorOf s config catalog).executeMany v (sessionOf config) requested
      let records := loaded.records ++ batch.records
      match batch.result with
      | .error t => .ended { records := records, volume := v, ending := endIn t }
      | .ok b => .built config.outputDir v records b

/-- Builds the requested units and writes their artifacts. -/
def build (s : Surroundings) (catalog : Catalog) (v : Volume) (r : BuildRequest) : Run :=
  (buildStage s catalog v r).finish s

/-- Lists the declared units. -/
def list (s : Surroundings) (catalog : Catalog) (v : Volume) (namesOnly : Bool) : Run :=
  let (printed, trouble) := listUnits s.width catalog namesOnly
  { printed := printed
    volume := v
    ending := match trouble with
      | some t => .crashed t
      | none => .done }

/-- Runs the program on the declared units up to where the time of its build is taken, and tells how
the log was asked for. -/
def start (s : Surroundings) (v : Volume) (args : List String) : Stage × LogSettings :=
  match readInvocation v args with
  | .version => (.ended { printed := versionLine, volume := v, ending := .done }, {})
  | .help => (.ended { volume := v, ending := .done }, {})
  | .misused m => (.ended { volume := v, ending := endMisused m }, {})
  | .run jsonLogs level command =>
    let stage := match command with
      | .list namesOnly => .ended (list s Catalog.standard v namesOnly)
      | .build request => buildStage s Catalog.standard v request
    (stage, { level := .text level, asObjects := jsonLogs })

/-- Runs the program on the declared units. -/
def run (s : Surroundings) (v : Volume) (args : List String) : Run :=
  let (stage, logs) := start s v args
  { stage.finish s with logs := logs }

end BundleBuild.Cli
