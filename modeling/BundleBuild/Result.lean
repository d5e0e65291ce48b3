/-
Results of builds: the output of one compiled bundle, the result of one unit and the result of a
batch of units. A unit succeeded when it has as many outputs as bundles.
-/
import BundleBuild.Trouble
import BundleBuild.Volume

namespace BundleBuild

/-- A compiled bundle. -/
structure Output where
  unit : String
  artifact : String
  entrySymbol : String
  fileCount : Nat
  content : List UInt8
  deriving DecidableEq, Repr

namespace Output

def fieldNames : List String :=
  ["unit_name", "artifact_name", "entry_symbol", "file_count", "content"]

def checkFields (r : RawRecord) : Checked Output :=
  let names := Checked.both
    (field r "unit_name" checkName)
    (Checked.both (field r "artifact_name" checkName) (field r "entry_symbol" checkName))
  let bundle := Checked.both
    (fieldOr r "file_count" (checkAtLeast 0) 0)
    (fieldOr r "content" checkBytes [])
  (Checked.both names bundle).map fun ((unit, artifact, entry), (count, content)) =>
    ⟨unit, artifact, entry, count.toNat, content⟩

/-- An output from data. -/
def check : Datum → Checked Output :=
  checkRecord "Output" fieldNames checkFields

/-- Writes the bundle into a directory, which is made if need be. -/
def writeTo (o : Output) (dir : Path) (v : Volume) : Except Trouble Path × Volume :=
  match v.makeDirs dir with
  | (.error t, v') => (.error t, v')
  | (.ok (), v') =>
    let path := dir.joinText o.artifact
    match v'.write path o.content with
    | .ok v'' => (.ok path, v'')
    | .error e => (.error (.atPath e path), v')

end Output

/-- How a unit's build ended. -/
inductive Status where
  | succeeded
  | partly
  | failed
  deriving DecidableEq, Repr

def Status.name : Status → String
  | .succeeded => "succeeded"
  | .partly => "partial"
  | .failed => "failed"

/-- One output, or all of several. -/
inductive Product where
  | single (o : Output)
  | several (os : List Output)

/-- The result of one unit. -/
structure UnitResult where
  unit : String
  inputCount : Nat
  outputs : List Output := []
  failures : List Failure := []
  skipped : List String := []
  deriving DecidableEq, Repr

namespace UnitResult

def status (r : UnitResult) : Status :=
  if r.outputs.length = r.inputCount then .succeeded
  else if r.outputs.isEmpty then .failed
  else .partly

def succeeded (r : UnitResult) : Bool :=
  r.status == .succeeded

/-- The outputs by artifact name; of two with one name the last counts, in the first one's
place. -/
def artifacts (r : UnitResult) : Entries Output :=
  Entries.ofList (r.outputs.map fun o => (o.artifact, o))

/-- What the unit produced, when all of it was built. -/
def product (r : UnitResult) : Except Trouble Product :=
  if r.succeeded then
    match r.inputCount, r.outputs with
    | 1, o :: _ => .ok (.single o)
    | _, os => .ok (.several os)
  else .error (.fault (.buildFailed r.failures))

def fieldNames : List String :=
  ["unit_name", "input_count", "outputs", "failures", "skipped", "duration_ms"]

def checkFields (r : RawRecord) : Checked UnitResult :=
  let head := Checked.both
    (field r "unit_name" checkText)
    (field r "input_count" (checkAtLeast 1))
  let lists := Checked.both
    (fieldOr r "outputs" (checkList Output.check) [])
    (Checked.both
      (fieldOr r "failures" (checkList Failure.check) [])
      (fieldOr r "skipped" (checkList checkText) []))
  let duration := fieldOr r "duration_ms" (checkAtLeast 0) 0
  (Checked.both head (Checked.both lists duration)).map
    fun ((unit, count), (outputs, failures, skipped), _) =>
      ⟨unit, count.toNat, outputs, failures, skipped⟩

/-- A unit's result from data. -/
def check : Datum → Checked UnitResult :=
  checkRecord "UnitBuildResult" fieldNames checkFields

end UnitResult

/-- The results of a batch, in the order the units were asked for. -/
structure Batch where
  results : List UnitResult := []
  deriving DecidableEq, Repr

namespace Batch

def outputs (b : Batch) : List Output :=
  b.results.flatMap (·.outputs)

def failures (b : Batch) : List Failure :=
  b.results.flatMap (·.failures)

def succeeded (b : Batch) : Bool :=
  b.results.all (·.succeeded)

/-- Nothing, when every unit succeeded; else a fault that lists every failure. -/
def requireSuccess (b : Batch) : Except Trouble Unit :=
  if b.succeeded then .ok () else .error (.fault (.buildFailed b.failures))

/-- Writes the outputs one after another. What was written before a refusal stays. -/
def writeAll (dir : Path) : List Output → Volume → Except Trouble (List Path) × Volume
  | [], v => (.ok [], v)
  | o :: rest, v =>
    match o.writeTo dir v with
    | (.error t, v') => (.error t, v')
    | (.ok path, v') =>
      let (written, v'') := writeAll dir rest v'
      (written.map (path :: ·), v'')

/-- Writes one file for each output. -/
def writeOutputs (b : Batch) (dir : Path) (v : Volume) : Except Trouble (List Path) × Volume :=
  writeAll dir b.outputs v

def fieldNames : List String :=
  ["results", "started_at", "finished_at", "total_duration_ms"]

def checkFields (r : RawRecord) : Checked Batch :=
  let times := Checked.both
    (fieldOr r "started_at" checkInstant ())
    (fieldOr r "finished_at" (checkOptional checkInstant) none)
  let duration := fieldOr r "total_duration_ms" (checkAtLeast 0) 0
  (Checked.both (fieldOr r "results" (checkList UnitResult.check) [])
    (Checked.both times duration)).map fun (results, _) => ⟨results⟩

/-- A batch from data. -/
def check : Datum → Checked Batch :=
  checkRecord "BatchBuildResult" fieldNames checkFields

end Batch

end BundleBuild
