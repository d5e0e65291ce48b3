/-
Build units: immutable descriptions of one build target. A unit's own artifact takes the place of
its platform's primary bundle; the platform's companions are built beside it.
-/
import BundleBuild.Customizer

namespace BundleBuild

/-- The name of an artifact, as it is given. -/
inductive ArtifactName where
  | text (s : String)
  /-- The bytes that spell it. -/
  | bytes (bs : List UInt8) (s : String) (h : decodeUtf8 bs = .ok s)
  /-- A text with halves of surrogate pairs, which is no name of a bundle. -/
  | unpaired (ps : Points)
  deriving DecidableEq

instance : Coe String ArtifactName := ⟨.text⟩

theorem Datum.sameKey_of_text {a b : Datum} {s t : String} (ha : a.text? = some s)
    (hb : b.text? = some t) : a.sameKey b = (s == t) := by
  cases a <;> cases ha <;> cases b <;> cases hb <;> rfl

namespace ArtifactName

/-- The name that a datum stands for. -/
def ofDatum? : Datum → Option ArtifactName
  | .unpaired ps => some (.unpaired ps)
  | .bytes bs => match h : decodeUtf8 bs with
    | .ok s => some (.bytes bs s h)
    | .error _ => none
  | d => d.text?.map .text

/-- The datum that is given for the name. -/
def datum : ArtifactName → Datum
  | .text s => .text s
  | .bytes bs _ _ => .bytes bs
  | .unpaired ps => .unpaired ps

/-- The name that bundles go by. -/
def spelled : ArtifactName → String
  | .text s => s
  | .bytes _ s _ => s
  | .unpaired _ => ""

/-- Whether the name is given as a text. -/
def isText : ArtifactName → Bool
  | .bytes _ _ _ => false
  | _ => true

/-- The name as messages tell it; halves of pairs are escaped. -/
def shown : ArtifactName → String
  | .unpaired ps => showPoints ps
  | name => name.spelled

/-- Why no bundle can go by the name. -/
def flaw? : ArtifactName → Option Flaw
  | .unpaired _ => some .notUnicode
  | name => if name.spelled.isEmpty then some .emptyText else none

theorem ofDatum?_datum (name : ArtifactName) : ofDatum? name.datum = some name := by
  cases name with
  | text | unpaired => rfl
  | bytes bs s h =>
    simp only [datum, ofDatum?]
    split
    · next s' h' =>
      cases Except.ok.inj (h.symm.trans h')
      rfl
    · next h' => cases h.symm.trans h'

theorem ofDatum?_cases {d : Datum} {name : ArtifactName} (h : ofDatum? d = some name) :
    (∃ s, d.text? = some s ∧ name = .text s) ∨
      (∃ bs s hs, d = .bytes bs ∧ name = .bytes bs s hs) ∨
      ∃ ps, d = .unpaired ps ∧ name = .unpaired ps := by
  unfold ofDatum? at h
  split at h
  · cases h
    exact .inr (.inr ⟨_, rfl, rfl⟩)
  · split at h
    · next hs =>
      cases h
      exact .inr (.inl ⟨_, _, hs, rfl, rfl⟩)
    · cases h
  · obtain ⟨s, hs, rfl⟩ := Option.map_eq_some_iff.mp h
    exact .inl ⟨s, hs, rfl⟩

/-- A datum that is taken for a text stands for a name. -/
theorem exists_of_checkText {d : Datum} {s : String} (h : checkText d = .ok s) :
    ∃ name, ofDatum? d = some name := by
  unfold checkText at h
  split at h
  · cases h
  · next bs =>
    split at h
    · next hs => exact ⟨.bytes bs _ hs, ofDatum?_datum (.bytes bs _ hs)⟩
    · cases h
  · next d hunpaired hbytes =>
    split at h
    · next s' hs =>
      refine ⟨.text s', ?_⟩
      unfold ofDatum?
      simp [hs]
    · cases h

/-- Data that stand for names are the same key when the names are the same. -/
theorem sameKey_iff {a b : Datum} {name name' : ArtifactName} (ha : ofDatum? a = some name)
    (hb : ofDatum? b = some name') : a.sameKey b = true ↔ name = name' := by
  rcases ofDatum?_cases ha with ⟨s, hs, rfl⟩ | ⟨bs, s, hs, rfl, rfl⟩ | ⟨ps, rfl, rfl⟩ <;>
    rcases ofDatum?_cases hb with ⟨t, ht, rfl⟩ | ⟨cs, t, ht, rfl, rfl⟩ | ⟨qs, rfl, rfl⟩
  · rw [Datum.sameKey_of_text hs ht]
    simp
  · cases a <;> cases hs <;> simp [Datum.sameKey, Datum.whole?, Datum.text?]
  · cases a <;> cases hs <;> simp [Datum.sameKey, Datum.whole?, Datum.text?]
  · cases b <;> cases ht <;> simp [Datum.sameKey, Datum.whole?, Datum.text?]
  · have hspelled : bs = cs → s = t := by
      rintro rfl
      exact Except.ok.inj (hs.symm.trans ht)
    simp only [Datum.sameKey, Datum.whole?, beq_iff_eq, bytes.injEq]
    exact ⟨fun h => ⟨h, hspelled h⟩, And.left⟩
  · simp [Datum.sameKey, Datum.whole?, Datum.text?]
  · cases b <;> cases ht <;> simp [Datum.sameKey, Datum.whole?, Datum.text?]
  · simp [Datum.sameKey, Datum.whole?, Datum.text?]
  · simp [Datum.sameKey, Datum.whole?]

end ArtifactName

structure BuildUnit where
  name : ArtifactName
  platform : Platform
  entryPoint : EntryPoint
  customizers : List Customizer
  /-- The platform was given by its word alone, which tells its bundles and nothing else. -/
  platformIsWord : Bool := false

namespace BuildUnit

def artifact (u : BuildUnit) : String :=
  u.name.spelled

/-- The artifact name as it was given. -/
def givenArtifact (u : BuildUnit) : Datum :=
  u.name.datum

/-- Units are the same when their fields are; customizers go by their tags. -/
def same (a b : BuildUnit) : Bool :=
  a.name == b.name && a.platform == b.platform && a.entryPoint == b.entryPoint &&
    a.customizers.map (·.tag) == b.customizers.map (·.tag)

/-- The units whose artifact names this one reads, in order. -/
def references (u : BuildUnit) : List String :=
  sortTexts (u.customizers.flatMap (·.references)).eraseDups

/-- The bundle of the unit's own artifact. -/
def ownInput (u : BuildUnit) : Input :=
  ⟨u.artifact, u.entryPoint.symbol⟩

/-- The bundles the unit compiles, its own first. A companion is left out when it has the artifact
name or the entry symbol of the unit itself. -/
def inputs (u : BuildUnit) : List Input :=
  u.ownInput :: u.platform.companions.filter fun c =>
    c.entrySymbol ≠ u.ownInput.entrySymbol && c.artifact ≠ u.ownInput.artifact

/-- The bundles of a unit whose artifact has a name they can go by. -/
def checkedInputs (u : BuildUnit) : Checked (List Input) :=
  match u.name.flaw? with
  | some flaw => Checked.under "artifact_name" (Checked.flawed flaw)
  | none => .ok u.inputs

/-- The final options for one of the unit's bundles. -/
def optionsFor (u : BuildUnit) (names : ArtifactNames) (input : Input) : Except Trouble Options :=
  if u.platformIsWord then .error (.lacks "str" "dir_name")
  else Customizer.applyAll u.customizers names (Options.ofPlatform u.platform input.entrySymbol)

end BuildUnit

end BundleBuild
