/-
Declarations: what stands under a unit name before a catalog is made. The fields of a unit put
together by hand are checked by nobody, so a draft of it carries the trouble that each check of a
catalog runs into. A unit that was built has none.
-/
import BundleBuild.BuildUnit

namespace BundleBuild

/-- The fields of a unit put together by hand. What is no customizer goes by its kind. -/
structure UnitFields where
  artifact : Datum
  platform : Datum
  entryPoint : Datum
  customizers : List (Except String Customizer) := []

/-- What stands under a declared name: a unit, the fields of one, or something else. The names
themselves are texts proper. -/
inductive Declaration where
  | unit (u : BuildUnit)
  | fields (f : UnitFields)
  | other (kind : String)

/-- A unit with the trouble that the checks of a catalog run into. -/
structure Draft where
  unit : BuildUnit
  /-- The artifact name as it was given. -/
  artifact : Datum := unit.givenArtifact
  /-- When artifact names are compared. -/
  artifactTrouble : Option Trouble := none
  /-- When the bundles are listed. -/
  inputsTrouble : Option Trouble := none
  /-- When the references are listed. -/
  referencesTrouble : Option Trouble := none
  /-- What was given for the artifact name of a unit whose bundles are listed is that name. -/
  told : inputsTrouble = none → ArtifactName.ofDatum? artifact = some unit.name

/-- A unit that was built is in no trouble. -/
def BuildUnit.draft (u : BuildUnit) : Draft where
  unit := u
  told _ := ArtifactName.ofDatum?_datum u.name

@[simp]
theorem BuildUnit.unit_draft (u : BuildUnit) : u.draft.unit = u := rfl

@[simp]
theorem BuildUnit.inputsTrouble_draft (u : BuildUnit) : u.draft.inputsTrouble = none := rfl

@[simp]
theorem BuildUnit.referencesTrouble_draft (u : BuildUnit) : u.draft.referencesTrouble = none := rfl

namespace UnitFields

/-- The platform of the fields, and whether it is given by its word. -/
def platform? (f : UnitFields) : Option (Platform × Bool) :=
  match f.platform with
  | .platform p => some (p, false)
  | d => (d.text?.bind Platform.ofDirName?).map fun p => (p, true)

def platformTrouble? (f : UnitFields) : Option Trouble :=
  match f.platform.lookupTrouble?, f.platform? with
  | some t, _ => some t
  | none, some _ => none
  | none, none => some (.raised "KeyError" f.platform.quoted)

/-- Why the bundles cannot be listed: the entry point is looked at first, the platform last. -/
def inputsTrouble? (f : UnitFields) : Option Trouble :=
  match f.entryPoint with
  | .entryPoint _ =>
    match Checked.under "artifact_name" (checkName f.artifact) with
    | .error ps => some (.invalid ps)
    | .ok _ => f.platformTrouble?
  | d => some (.lacks d.kind "symbol")

/-- What can be listed has an artifact name. -/
theorem exists_name {f : UnitFields} (h : f.inputsTrouble? = none) :
    ∃ name, ArtifactName.ofDatum? f.artifact = some name := by
  unfold inputsTrouble? at h
  split at h
  · split at h
    · cases h
    · next hname =>
      cases htext : checkText f.artifact with
      | ok s => exact ArtifactName.exists_of_checkText htext
      | error ps => simp [checkName, htext, bind, Except.bind, Checked.under] at hname
  · cases h

/-- Why the references cannot be listed. -/
def referencesTrouble? (f : UnitFields) : Option Trouble :=
  f.customizers.findSome? fun c => match c with
    | .ok _ => none
    | .error kind => some (.lacks kind "references")

def entryPoint? (f : UnitFields) : Option EntryPoint :=
  match f.entryPoint with
  | .entryPoint e => some e
  | _ => none

/-- The draft of the unit; where a field is in trouble its value does not matter. -/
def draft (f : UnitFields) : Draft where
  unit := {
    name := (ArtifactName.ofDatum? f.artifact).getD (.text "")
    platform := (f.platform?.map (·.1)).getD .mobile
    entryPoint := f.entryPoint?.getD .testMain
    customizers := f.customizers.filterMap Except.toOption
    platformIsWord := (f.platform?.map (·.2)).getD false }
  artifact := f.artifact
  artifactTrouble := f.artifact.lookupTrouble?
  inputsTrouble := f.inputsTrouble?
  referencesTrouble := f.referencesTrouble?
  told h := by
    obtain ⟨name, hname⟩ := exists_name h
    rw [hname, Option.getD_some]

/-- Whether the fields are those of a unit: platforms and entry points are also what their words
say. -/
def describes (f : UnitFields) (u : BuildUnit) : Bool :=
  f.artifact.sameKey u.givenArtifact &&
  (f.platform?.map (·.1)) == some u.platform &&
  f.entryPoint.text? == some u.entryPoint.symbol &&
  (f.customizers.mapM Except.toOption).map (·.map (·.tag)) == some (u.customizers.map (·.tag))

end UnitFields

end BundleBuild
