/-
Platforms and their bundles from data: which member of a closed set a datum names, and the
bundles a platform declares, of which there is at least one.
-/
import BundleBuild.Form
import BundleBuild.Trouble

namespace BundleBuild

/-- The platform a datum names by its own word. -/
def Platform.ofDatum (d : Datum) : Except Trouble Platform :=
  match d.text?.bind Platform.ofDirName? with
  | some p => .ok p
  | none => .error (.noMember d "Platform")

/-- The entry point a datum names by its symbol. -/
def EntryPoint.ofDatum (d : Datum) : Except Trouble EntryPoint :=
  match d.text?.bind EntryPoint.ofSymbol? with
  | some e => .ok e
  | none => .error (.noMember d "EntryPoint")

namespace Input

def fieldNames : List String :=
  ["artifact_name", "entry_symbol"]

/-- A compiler input from data. -/
def check : Datum → Checked Input :=
  checkRecord "Input" fieldNames fun r =>
    (Checked.both (field r "artifact_name" checkName) (field r "entry_symbol" checkName)).map
      fun (artifact, entry) => ⟨artifact, entry⟩

end Input

/-- A platform with the bundles declared for it, primary first. -/
structure PlatformBundles where
  platform : Platform
  primary : Input
  companions : List Input
  deriving DecidableEq, Repr

namespace PlatformBundles

def fieldNames : List String :=
  ["platform", "inputs"]

/-- The bundles of a list, which are the primary one and its companions. -/
def ofInputs? (p : Platform) : List Input → Option PlatformBundles
  | [] => none
  | primary :: companions => some ⟨p, primary, companions⟩

/-- The bundles of a platform from data. -/
def check (d : Datum) : Checked PlatformBundles := do
  let (p, inputs) ← checkRecord "PlatformSpec" fieldNames (fun r => Checked.both
    (field r "platform" checkPlatform)
    (field r "inputs" (checkSome Input.check))) d
  match ofInputs? p inputs with
  | some b => return b
  | none => Checked.under "inputs" (Checked.flawed .emptyTuple)

/-- The bundles a platform declares by default. -/
def standard (p : Platform) : PlatformBundles :=
  ⟨p, p.primary, p.companions⟩

end PlatformBundles

end BundleBuild
