/-
What is kept of a compilation that failed: which unit, artifact and entry symbol it was for, the
kind of error and its message, and how many files it was given.
-/
import BundleBuild.Form

namespace BundleBuild

structure Failure where
  unit : String
  artifact : String
  entrySymbol : String
  errorKind : String
  message : String
  fileCount : Nat
  deriving DecidableEq, Repr

namespace Failure

def fieldNames : List String :=
  ["unit_name", "artifact_name", "entry_symbol", "error_type", "message", "file_count"]

def checkFields (r : RawRecord) : Checked Failure :=
  let names := Checked.both
    (field r "unit_name" checkText)
    (Checked.both (field r "artifact_name" checkText) (field r "entry_symbol" checkText))
  let error := Checked.both
    (field r "error_type" checkText)
    (Checked.both (field r "message" checkText) (fieldOr r "file_count" (checkAtLeast 0) 0))
  (Checked.both names error).map fun ((unit, artifact, entry), (kind, message, count)) =>
    ⟨unit, artifact, entry, kind, message, count.toNat⟩

/-- A failure from data. -/
def check : Datum → Checked Failure :=
  checkRecord "BuildFailure" fieldNames checkFields

end Failure

end BundleBuild
