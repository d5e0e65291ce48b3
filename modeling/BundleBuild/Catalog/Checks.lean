/-
The checks that a set of declarations goes through before it becomes a catalog, in order: every
name says something and stands for a unit, no two units have the same artifact name, bundles under
one artifact name are the same in every unit, and every unit a customizer refers to is declared.
The first check that fails tells why the set is refused.
-/
import BundleBuild.Declaration
import BundleBuild.KeyOrder

namespace BundleBuild.Catalog

def refuse {α : Type} (cause : ConfigurationCause) (unit : Option String) : Except Trouble α :=
  .error (.fault (.configuration { cause := cause, unit := unit }))

/-- The drafts of the declared units, when every name says something and stands for a unit. -/
def checkDeclarations : Entries Declaration → Except Trouble (Entries Draft)
  | [] => .ok []
  | (name, d) :: rest =>
    if name.isEmpty then refuse .emptyUnitName none
    else match d with
      | .other kind => refuse (.notUnit kind) (some name)
      | .unit u => do
        let ds ← checkDeclarations rest
        return (name, u.draft) :: ds
      | .fields f => do
        let ds ← checkDeclarations rest
        return (name, f.draft) :: ds

/-- The names of the units with this artifact. -/
def ownersOf (artifact : Datum) (ds : Entries Draft) : List String :=
  (ds.filter fun (_, d) => d.artifact.sameKey artifact).map (·.1)

/-- The artifact names that several units have, in the order they were first given. -/
def sharedArtifacts (ds : Entries Draft) : List Datum :=
  ((ds.map fun (_, d) => d.artifact).eraseDupsBy Datum.sameKey).filter fun a =>
    1 < (ownersOf a ds).length

/-- No two units have the same artifact name. Of several that are shared the first one in order is
reported. -/
def checkUnique (ds : Entries Draft) : Except Trouble Unit := do
  match ← Datum.sortKeys (sharedArtifacts ds) with
  | [] => return ()
  | a :: _ =>
    let owners := ownersOf a ds
    refuse (.duplicateArtifact a.plain owners) owners.getLast?

/-- Nothing, or the trouble that a check runs into. -/
def pass : Option Trouble → Except Trouble Unit
  | none => .ok ()
  | some t => .error t

/-- Who produced each artifact first. -/
abbrev Producers := Entries (Producer × Bool)

/-- The refusal of two different bundles under one artifact name. A platform given by its word
cannot be told. -/
def clash (name artifact : String) (first here : Producer × Bool) : Trouble :=
  if first.2 || here.2 then .lacks "str" "value"
  else .fault (.configuration {
    cause := .clashingArtifact artifact first.1 here.1, unit := some name })

/-- Every bundle of one unit is either new or the same as before. -/
def checkInputs (name : String) (u : BuildUnit) : List Input → Producers → Except Trouble Producers
  | [], seen => .ok seen
  | i :: rest, seen =>
    let here : Producer := ⟨name, u.platform, i.entrySymbol⟩
    match Entries.get? i.artifact seen with
    | none => checkInputs name u rest (Entries.put i.artifact (here, u.platformIsWord) seen)
    | some first =>
      if first.1.platform = here.platform && first.1.entrySymbol = here.entrySymbol then
        checkInputs name u rest seen
      else .error (clash name i.artifact first (here, u.platformIsWord))

def checkProducers : Entries Draft → Producers → Except Trouble Unit
  | [], _ => .ok ()
  | (name, d) :: rest, seen => do
    pass d.inputsTrouble
    let inputs ← d.unit.checkedInputs.mapError .invalid
    let seen' ← checkInputs name d.unit inputs seen
    checkProducers rest seen'

/-- Every unit named by a customizer is one of `declared`. -/
def checkReferences (declared : List String) : Entries Draft → Except Trouble Unit
  | [] => .ok ()
  | (name, d) :: rest => do
    pass d.referencesTrouble
    match d.unit.references.find? fun r => !declared.contains r with
    | some missing => .error (.fault (.unknownUnit (.text missing) declared (some name)))
    | none => checkReferences declared rest

/-- The units of a set of declarations that passes every check. -/
def validate (ds : Entries Declaration) : Except Trouble (Entries BuildUnit) := do
  let drafts ← checkDeclarations ds
  let us : Entries BuildUnit := drafts.map fun (name, d) => (name, d.unit)
  pass (drafts.findSome? fun (_, d) => d.artifactTrouble)
  checkUnique drafts
  checkProducers drafts []
  checkReferences us.names drafts
  return us

end BundleBuild.Catalog
