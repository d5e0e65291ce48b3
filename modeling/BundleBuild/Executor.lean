/-
Building units. Every bundle of every requested unit is a job of its own: it takes the files that
belong to the unit's platform, and the options are settled before anything is compiled. A failing
job is recorded and the others go on; only when asked to stop early are jobs after the first
failure skipped. What cannot be recorded for a job breaks the batch: it ends in that trouble, and
jobs that are not yet begun are cancelled.

Jobs are run here in the order they are planned, by one worker (`Executor.runJobs`). How many of
them it begins between a job that broke the batch and the cancelling of the others is a matter of
timing, so it is left open (`Executor.lag`).
-/
import BundleBuild.Catalog
import BundleBuild.SourceTree
import BundleBuild.Command.Arguments
import BundleBuild.Result

namespace BundleBuild

/-- A compiler: what it answers to a request, given the files on disk and the number of requests
before this one. -/
abbrev Compile := Volume → Nat → CompileRequest → Logged Datum

/-- What an executor keeps between builds. -/
structure Session where
  tree : SourceTree
  /-- The requests made to the compiler so far. -/
  requests : List CompileRequest := []

/-- How many workers are asked for; what is no number is found out when they are started. The double
that is not a number is left out: a pool of so many workers never begins a job, and its batch does
not end. -/
structure PoolSize where
  given : Datum
  defined : given.isNaN = false

namespace PoolSize

def ofInt (n : Int) : PoolSize :=
  ⟨.int n, rfl⟩

/-- No number is asked for. -/
def unasked : PoolSize :=
  ⟨.null, rfl⟩

/-- The number that is asked for, or else one for each processor, and one where these are not
known. -/
def orElse (asked : PoolSize) (processors : Nat) : PoolSize :=
  if asked.given.isVoid then ofInt (max processors 1) else asked

/-- Why no pool of workers can be opened: it needs one worker at least. -/
def trouble? (size : PoolSize) : Option Trouble :=
  match size.given with
  | .float x => if x ≤ 0 then some .emptyPool else none
  | d => match d.whole? with
    | some n => if n ≤ 0 then some .emptyPool else none
    | none => some (.misfit
        ("'<=' not supported between instances of '" ++ d.kind ++ "' and 'int'"))

end PoolSize

structure Executor where
  catalog : Catalog
  compile : Compile
  /-- How many jobs may run at once. -/
  workers : PoolSize
  failFast : Bool
  /-- How many more jobs are begun after one that broke the batch, before the others are
  cancelled. -/
  lag : Nat := 0

/-- One bundle of one unit, with its options. -/
structure Job where
  unit : String
  platform : Platform
  input : Input
  options : Options

/-- How a job ended. -/
inductive JobOutcome where
  | built (o : Output)
  | failed (f : Failure)
  /-- It was not begun, since the batch was to stop at a failure. -/
  | skipped
  /-- It ended in trouble that is not recorded for it but breaks the batch. -/
  | broken (t : Trouble)
  /-- It was not begun, since a job before it broke the batch. -/
  | cancelled

namespace JobOutcome

def isFailure : JobOutcome → Bool
  | .failed _ => true
  | _ => false

/-- The trouble that breaks the batch. -/
def trouble? : JobOutcome → Option Trouble
  | .broken t => some t
  | _ => none

/-- What is reported when a job breaks the batch. -/
def announcement : JobOutcome → List Record
  | .broken t => t.announcement
  | _ => []

end JobOutcome

namespace Job

/-- The record of a job that ended in trouble. A trouble without words goes by its kind. -/
def failure (j : Job) (fileCount : Nat) (t : Trouble) : Failure where
  unit := j.unit
  artifact := j.input.artifact
  entrySymbol := j.input.entrySymbol
  errorKind := t.kind
  message := if t.text.isEmpty then t.kind else t.text
  fileCount := fileCount

def attributes (j : Job) : Entries Datum := [
  ("unit", .text j.unit),
  ("artifact", .text j.input.artifact),
  ("entry_symbol", .text j.input.entrySymbol),
  ("platform", .text j.platform.dirName)]

/-- The record of a job that was built. -/
def output (j : Job) (fileCount : Nat) (content : List UInt8) : Output where
  unit := j.unit
  artifact := j.input.artifact
  entrySymbol := j.input.entrySymbol
  fileCount := fileCount
  content := content

/-- How a job ends, given what came of its compilation. An error is recorded; what is no content of
a file, and what no handler of errors takes, breaks the batch. -/
def ended (j : Job) (fileCount : Nat) : Except Trouble Datum → JobOutcome
  | .ok content =>
    match Checked.under "content" (checkBytes content) with
    | .ok bytes => .built (j.output fileCount bytes)
    | .error problems => .broken (.invalid problems)
  | .error t =>
    match t.unhandled? with
    | some t' => .broken t'
    | none => .failed (j.failure fileCount t)

end Job

/-- A compile fault names the artifact and the number of files it was for. -/
def Trouble.tagged (artifact : String) (fileCount : Nat) : Trouble → Trouble
  | .fault (.compile f) => .fault (.compile (f.tagged artifact fileCount))
  | t => t

/-- What running a job reports, how it ended, and what is kept after it. -/
structure JobRun where
  records : List Record
  outcome : JobOutcome
  session : Session

/-- How far a batch has come. -/
structure Course where
  session : Session
  /-- The jobs that are left are to be skipped. -/
  stopped : Bool := false
  /-- How many more jobs are begun, once one has broken the batch. -/
  left : Option Nat := none

namespace Executor

/-- The executor that is asked for so many workers, on a machine with so many processors. -/
def ofRequest (catalog : Catalog) (compile : Compile) (asked : PoolSize) (failFast : Bool)
    (processors : Nat) : Executor where
  catalog := catalog
  compile := compile
  workers := asked.orElse processors
  failFast := failFast

/-- Runs one job. -/
def runJob (e : Executor) (v : Volume) (s : Session) (j : Job) : JobRun :=
  let listed := s.tree.relevantFiles v j.platform
  match listed.result with
  | .error t =>
    let span := Logged.span (α := Datum) "input_compile" j.attributes ⟨listed.records, .error t⟩
    let outcome := j.ended 0 span.result
    ⟨span.records ++ outcome.announcement, outcome, s⟩
  | .ok (files, tree) =>
    let request : CompileRequest := ⟨files, j.input.entrySymbol, j.options⟩
    let answer := e.compile v s.requests.length request
    let result := answer.result.mapError (Trouble.tagged j.input.artifact files.length)
    let span := Logged.span "input_compile" j.attributes ⟨listed.records ++ answer.records, result⟩
    let outcome := j.ended files.length span.result
    ⟨span.records ++ outcome.announcement, outcome, ⟨tree, s.requests ++ [request]⟩⟩

/-- The course of a batch after a job that was run. -/
def after (e : Executor) (c : Course) (run : JobRun) : Course where
  session := run.session
  stopped := e.failFast && run.outcome.isFailure
  left := match c.left with
    | some n => some (n - 1)
    | none => run.outcome.trouble?.map fun _ => e.lag

/-- Takes the next job of a batch: it is cancelled, skipped or run. -/
def takeJob (e : Executor) (v : Volume) (c : Course) (j : Job) :
    List Record × JobOutcome × Course :=
  if c.left = some 0 then ([], .cancelled, c)
  else if c.stopped then ([], .skipped, { c with left := c.left.map (· - 1) })
  else
    let run := e.runJob v c.session j
    (run.records, run.outcome, e.after c run)

/-- Takes the jobs one after another. -/
def runJobs (e : Executor) (v : Volume) : Course → List Job →
    List Record × List (Job × JobOutcome) × Course
  | c, [] => ([], [], c)
  | c, j :: rest =>
    let (records, outcome, c') := e.takeJob v c j
    let (laterRecords, laterOutcomes, last) := runJobs e v c' rest
    (records ++ laterRecords, (j, outcome) :: laterOutcomes, last)

/-- The jobs of one unit, with their options settled. -/
def planUnit (e : Executor) (name : String) (u : BuildUnit) : Except Trouble (List Job) :=
  u.inputs.mapM fun input => do
    let options ← e.catalog.optionsFor u input
    return ⟨name, u.platform, input, options⟩

/-- The jobs of the selected units, in order. -/
def plan (e : Executor) (selected : Entries BuildUnit) : Except Trouble (List Job) := do
  let jobs ← selected.mapM fun (name, u) => e.planUnit name u
  return jobs.flatten

/-- The result of one unit among the outcomes of all jobs. -/
def collect (name : String) (u : BuildUnit) (outcomes : List (Job × JobOutcome)) : UnitResult where
  unit := name
  inputCount := u.inputs.length
  outputs := outcomes.filterMap fun (j, o) => match o with
    | .built out => if j.unit = name then some out else none
    | _ => none
  failures := outcomes.filterMap fun (j, o) => match o with
    | .failed f => if j.unit = name then some f else none
    | _ => none
  skipped := outcomes.filterMap fun (j, o) => match o with
    | .skipped => if j.unit = name then some j.input.artifact else none
    | _ => none

def notice (event : String) (fields : Entries Datum) : Notice where
  channel := .executor
  level := .info
  event := event
  fields := ("component", .text "build_executor") :: fields

def startNotice (e : Executor) (units inputs : Nat) : Notice :=
  notice "batch_started" [
    ("units", .int units), ("inputs", .int inputs), ("max_workers", e.workers.given),
    ("fail_fast", .bool e.failFast)]

def unitNotice (r : UnitResult) : Notice :=
  notice "unit_build_finished" [
    ("unit", .text r.unit), ("status", .text r.status.name),
    ("outputs", .int r.outputs.length), ("failures", .int r.failures.length)]

def endNotice (rs : List UnitResult) : Notice :=
  notice "batch_completed" [
    ("succeeded", .int (rs.countP (·.succeeded))), ("failed", .int (rs.countP (!·.succeeded)))]

/-- The results of the selected units, reported one by one; the first job that broke the batch ends
it. -/
def conclude (selected : Entries BuildUnit) (outcomes : List (Job × JobOutcome)) : Logged Batch :=
  match outcomes.findSome? (·.2.trouble?) with
  | some t => Logged.fail t
  | none =>
    let results := selected.map fun (name, u) => collect name u outcomes
    ⟨results.map (fun r => .notice (unitNotice r)) ++ [.notice (endNotice results)], .ok ⟨results⟩⟩

/-- The units a batch is for and their jobs; nothing has been compiled yet. -/
def prepare (e : Executor) (requested : Option (List String)) :
    Except Trouble (Entries BuildUnit × List Job) := do
  let selected ← e.catalog.select (requested.getD e.catalog.names)
  let jobs ← e.plan selected
  return (selected, jobs)

/-- Why the pool of workers cannot be opened. -/
def poolTrouble? (e : Executor) : Option Trouble :=
  e.workers.trouble?

/-- Builds the requested units, or all of them. Failures are collected in the result; what is
wrong with the request itself ends the build before anything is compiled. -/
def executeMany (e : Executor) (v : Volume) (s : Session) (requested : Option (List String)) :
    Logged Batch × Session :=
  match e.prepare requested with
  | .error t => (Logged.raise t, s)
  | .ok (selected, jobs) =>
    let started := Record.notice (e.startNotice selected.length jobs.length)
    match e.poolTrouble? with
    | some t => (⟨[started], .error t⟩, s)
    | none =>
      let (records, outcomes, last) := e.runJobs v { session := s } jobs
      let ended := conclude selected outcomes
      (⟨started :: records ++ ended.records, ended.result⟩, last.session)

/-- Builds one unit by name. -/
def execute (e : Executor) (v : Volume) (s : Session) (name : String) :
    Logged UnitResult × Session :=
  let (batch, s') := e.executeMany v s (some [name])
  let result := match batch.result with
    | .error t => .error t
    | .ok b => match b.results with
      | r :: _ => .ok r
      | [] => .error (.fault (.unknownUnit (.text name) e.catalog.names none))
  (⟨batch.records, result⟩, s')

/-- Builds a declared unit. -/
def executeUnit (e : Executor) (v : Volume) (s : Session) (u : BuildUnit) :
    Logged UnitResult × Session :=
  match e.catalog.nameOf u with
  | .ok name => e.execute v s name
  | .error t => (Logged.raise t, s)

/-- Builds what is asked for by a datum, which has to be a name. -/
def executeDatum (e : Executor) (v : Volume) (s : Session) (d : Datum) :
    Logged UnitResult × Session :=
  match d.text? with
  | some name => e.execute v s name
  | none => (Logged.raise (.lacks d.kind "build_artifact_name"), s)

/-- Builds a declared unit told by its fields. -/
def executeFields (e : Executor) (v : Volume) (s : Session) (f : UnitFields) :
    Logged UnitResult × Session :=
  match e.catalog.nameOfFields f with
  | .ok name => e.execute v s name
  | .error t => (Logged.raise t, s)

/-- Builds the units asked for by a datum that is gone through, or all of them. -/
def executeAll (e : Executor) (v : Volume) (s : Session) (requested : Datum) :
    Logged Batch × Session :=
  match requested with
  | .null => e.executeMany v s none
  | d =>
    match d.elements >>= fun ds => ds.mapM e.catalog.nameOfDatum with
    | .ok names => e.executeMany v s (some names)
    | .error t => (Logged.raise t, s)

end Executor

end BundleBuild
