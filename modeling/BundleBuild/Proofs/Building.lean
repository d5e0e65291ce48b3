/-
What builders make. A builder is opened with an artifact name that is a text and not blank and with
a declared platform, and no later call changes either; so this is all that is known of a unit made
by a builder, and a unit of which it is known can be made (`BuildUnit.made_iff`).
-/
import BundleBuild.Builder
import BundleBuild.Proofs.Sequencing

namespace BundleBuild

namespace ArtifactName

/-- Whether the name is a text proper, or bytes that spell one. -/
def isProper : ArtifactName → Bool
  | .unpaired _ => false
  | _ => true

end ArtifactName

/-- A builder as it stands after it was opened and after any calls it did not refuse. -/
inductive Builder.Reached : Builder → Prop
  | opened {artifact platform : Datum} {b : Builder} (h : Builder.start artifact platform = .ok b) :
    Reached b
  | entered {entry : Datum} {b b' : Builder} (before : Reached b)
    (h : b.setEntryPoint entry = .ok b') : Reached b'
  | customized {c : Option Customizer} {b b' : Builder} (before : Reached b)
    (h : b.customize c = .ok b') : Reached b'
  | closed {u : BuildUnit} {b b' : Builder} (before : Reached b) (h : b.build = .ok (u, b')) :
    Reached b'

/-- A unit that some builder has made. -/
def BuildUnit.Made (u : BuildUnit) : Prop :=
  ∃ b b' : Builder, b.Reached ∧ b.build = .ok (u, b')

namespace Builder

variable {b b' : Builder}

theorem ensureOpen_eq_ok_iff : b.ensureOpen = .ok () ↔ b.used = false := by
  unfold ensureOpen
  cases b.used <;> simp [refuse]

theorem start_eq_ok {artifact platform : Datum} (h : start artifact platform = .ok b) :
    name? artifact = some b.name ∧ b.name.isBlank = false ∧ platform = .platform b.platform ∧
      b = { name := b.name, platform := b.platform } := by
  unfold start at h
  split at h
  · cases h
  · next hname =>
    split at h
    · cases h
    · next hblank =>
      split at h
      · cases h
        exact ⟨hname, by simpa using hblank, rfl, rfl⟩
      · cases h

theorem setEntryPoint_eq_ok {entry : Datum} (h : b.setEntryPoint entry = .ok b') :
    ∃ e, b' = { b with entryPoint := some e } := by
  obtain ⟨-, -, h⟩ := bind_eq_ok_iff.mp h
  split at h
  · next e _ => exact ⟨e, (pure_eq_ok_iff.mp h).symm⟩
  · cases h

theorem customize_eq_ok {c : Option Customizer} (h : b.customize c = .ok b') :
    ∃ added, b' = { b with customizers := b.customizers ++ [added] } := by
  obtain ⟨-, -, h⟩ := bind_eq_ok_iff.mp h
  split at h
  · next added _ => exact ⟨added, (pure_eq_ok_iff.mp h).symm⟩
  · cases h

theorem build_eq_ok_iff {u : BuildUnit} : b.build = .ok (u, b') ↔ b.used = false ∧
    ∃ e, b.entryPoint = some e ∧ u = ⟨b.name, b.platform, e, b.customizers, false⟩ ∧
      b' = { b with used := true } := by
  rw [build, bind_eq_ok_iff]
  constructor
  · rintro ⟨⟨⟩, hopen, h⟩
    refine ⟨ensureOpen_eq_ok_iff.mp hopen, ?_⟩
    split at h
    · next e he =>
      cases h
      exact ⟨e, he, rfl, rfl⟩
    · cases h
  · rintro ⟨hopen, e, he, rfl, rfl⟩
    refine ⟨(), ensureOpen_eq_ok_iff.mpr hopen, ?_⟩
    rw [he]
    rfl

/-- No call touches the artifact name. -/
theorem Reached.name (h : b.Reached) : b.name.isBlank = false ∧ b.name.isText = true := by
  induction h with
  | opened h =>
    obtain ⟨hname, hblank, -⟩ := start_eq_ok h
    exact ⟨hblank, (Option.filter_eq_some_iff.mp hname).2⟩
  | entered _ h ih =>
    obtain ⟨e, rfl⟩ := setEntryPoint_eq_ok h
    exact ih
  | customized _ h ih =>
    obtain ⟨added, rfl⟩ := customize_eq_ok h
    exact ih
  | closed _ h ih =>
    obtain ⟨-, e, -, -, rfl⟩ := build_eq_ok_iff.mp h
    exact ih

/-- An open builder takes any customizers, one after another. -/
theorem Reached.customizers (h : b.Reached) (hopen : b.used = false) (cs : List Customizer) :
    Reached { b with customizers := b.customizers ++ cs } := by
  induction cs generalizing b with
  | nil => simpa using h
  | cons c cs ih =>
    have hstep : b.customize (some c) = .ok { b with customizers := b.customizers ++ [c] } := by
      rw [customize, ensureOpen_eq_ok_iff.mpr hopen]
      rfl
    have hrest := ih (.customized h hstep) hopen
    rw [List.append_cons]
    exact hrest

end Builder

/-- **What builders make**: the units whose artifact name is a text that is not blank and whose
platform is given as a platform. -/
theorem BuildUnit.made_iff {u : BuildUnit} :
    u.Made ↔ u.name.isBlank = false ∧ u.name.isText = true ∧ u.platformIsWord = false := by
  constructor
  · rintro ⟨b, b', hb, hbuild⟩
    obtain ⟨-, e, -, rfl, -⟩ := Builder.build_eq_ok_iff.mp hbuild
    exact ⟨hb.name.1, hb.name.2, rfl⟩
  · obtain ⟨name, platform, entry, customizers, word⟩ := u
    dsimp only
    rintro ⟨hblank, htext, rfl⟩
    have hname : Builder.name? name.datum = some name :=
      Option.filter_eq_some_iff.mpr ⟨name.ofDatum?_datum, htext⟩
    have hstart : Builder.start name.datum (.platform platform) =
        .ok { name := name, platform := platform } := by
      simp [Builder.start, hname, hblank]
    let entered : Builder := { name := name, platform := platform, entryPoint := some entry }
    have hstep : Builder.setEntryPoint { name := name, platform := platform }
        (.entryPoint entry) = .ok entered := rfl
    have hentered : entered.Reached := .entered (.opened hstart) hstep
    have hopen : entered.used = false := rfl
    exact ⟨_, _, hentered.customizers hopen customizers, rfl⟩

/-- Bundles can go by the name of a unit that a builder has made, unless it has halves of surrogate
pairs. -/
theorem BuildUnit.Made.flaw?_eq {u : BuildUnit} (h : u.Made) :
    u.name.flaw? = if u.name.isProper then none else some .notUnicode := by
  have hblank := (BuildUnit.made_iff.mp h).1
  have hsome : ∀ s, isBlankText s = false → s.isEmpty = false := by
    intro s hs
    rw [String.isEmpty_eq_false_iff]
    rintro rfl
    cases hs
  cases hname : u.name with
  | unpaired => rfl
  | text s | bytes _ s _ =>
    rw [hname] at hblank
    simp [ArtifactName.flaw?, ArtifactName.spelled, ArtifactName.isProper, hsome s hblank]

end BundleBuild
