/-
Which declarations a catalog is made of: those that pass every check. What passing establishes for
the units is what a catalog carries with it, and the standard one is among them.
-/
import BundleBuild.Catalog

namespace BundleBuild.Catalog

theorem ext {c c' : Catalog} (h : c.units = c'.units) : c = c' := by
  cases c
  cases c'
  simp_all

theorem ofDeclarations_eq_ok_iff {ds : Entries Declaration} {c : Catalog} :
    ofDeclarations ds = .ok c ↔
      ∃ drafts, Passes ds drafts ∧ c.units = drafts.map fun x => (x.1, x.2.unit) := by
  rw [← validate_eq_ok_iff, ofDeclarations]
  split
  · next us hus =>
    constructor
    · intro h
      cases h
      exact hus
    · intro h
      exact congrArg Except.ok (ext (Except.ok.inj (hus.symm.trans h)))
  · next ht => simp [ht]

theorem ofDeclarations_eq_error_iff {ds : Entries Declaration} {t : Trouble} :
    ofDeclarations ds = .error t ↔ validate ds = .error t := by
  rw [ofDeclarations]
  split
  · next hus => simp [hus]
  · next ht => rw [ht]; simp

/-- Two bundles of declared units under one artifact name are for the same platform and have the
same entry symbol. -/
theorem same_bundle {c : Catalog} {x y : String × BuildUnit} (hx : x ∈ c.units) (hy : y ∈ c.units)
    {i j : Input} (hi : i ∈ x.2.inputs) (hj : j ∈ y.2.inputs) (hname : i.artifact = j.artifact) :
    x.2.platform = y.2.platform ∧ i.entrySymbol = j.entrySymbol :=
  c.valid.agreeing x.2 (List.mem_map_of_mem hx) y.2 (List.mem_map_of_mem hy) i hi j hj hname

/-- The declarations of the standard catalog. -/
def standardDeclarations : Entries Declaration :=
  standard.units.map fun x => (x.1, .unit x.2)

/-- The standard catalog passes the checks. -/
theorem ofDeclarations_standard : ofDeclarations standardDeclarations = .ok standard := by
  have hshared : sharedArtifacts (standard.units.map fun x => (x.1, x.2.draft)) = [] := rfl
  refine ofDeclarations_eq_ok_iff.mpr ⟨standard.units.map fun x => (x.1, x.2.draft), ?_, rfl⟩
  exact {
    declarations := rfl
    artifacts := rfl
    unique := by rw [checkUnique, hshared]; rfl
    producers := rfl
    references := checkReferences_eq_ok_iff.mpr (by decide) }

end BundleBuild.Catalog
