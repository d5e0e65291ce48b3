/-
Declarations in another order. Each check of a catalog passes exactly when a condition of its own
holds, and none of these conditions looks at the order of the declarations. So what is accepted in
one order is accepted in every other one, with the same units.

That the check of producers misses no clash is known of every valid set of units; that it reports
nothing else is because what it compares with always stems from a bundle of a declared unit
(`Stems`), so a refusal shows two bundles that differ.
-/
import Mathlib.Data.List.Perm.Basic
import BundleBuild.Proofs.Acceptance
import BundleBuild.Proofs.Sequencing

namespace BundleBuild

/-! ## Names and values -/

/-- What the checks of a catalog see of a declaration, if it is a unit. -/
def Declaration.draft? : Declaration → Option Draft
  | .unit u => some u.draft
  | .fields f => some f.draft
  | .other _ => none

namespace Catalog

/-- The draft of a unit that is declared under a name. -/
def Drafts (x : String × Declaration) (y : String × Draft) : Prop :=
  x.1 ≠ "" ∧ y.1 = x.1 ∧ x.2.draft? = some y.2

theorem drafts_of_checkDeclarations : ∀ {ds : Entries Declaration} {drafts : Entries Draft},
    checkDeclarations ds = .ok drafts → List.Forall₂ Drafts ds drafts
  | [], drafts, h => by
    cases h
    exact .nil
  | (name, d) :: ds, drafts, h => by
    simp only [checkDeclarations] at h
    split at h
    · cases h
    · next hname =>
      cases d with
      | other kind => cases h
      | unit | fields =>
        simp only [bind_eq_ok_iff, pure_eq_ok_iff] at h
        obtain ⟨rest, hrest, rfl⟩ := h
        exact .cons ⟨by simpa using hname, rfl, rfl⟩ (drafts_of_checkDeclarations hrest)

theorem checkDeclarations_of_drafts {ds : Entries Declaration} {drafts : Entries Draft}
    (h : List.Forall₂ Drafts ds drafts) : checkDeclarations ds = .ok drafts := by
  induction h with
  | nil => rfl
  | @cons x y ds drafts hxy _ ih =>
    obtain ⟨name, d⟩ := x
    obtain ⟨name', seen⟩ := y
    obtain ⟨hname, hsame, hseen⟩ := hxy
    dsimp only at hname hsame hseen
    have hempty : name.isEmpty = false := by simpa using hname
    subst hsame
    cases d with
    | other kind => cases hseen
    | unit | fields =>
      cases hseen
      simp only [checkDeclarations, hempty, ih]
      rfl

end Catalog

namespace Catalog

variable {ds : Entries Draft}

/-! ## Producers -/

theorem Agree.perm {units units' : List BuildUnit} (hperm : units.Perm units') (h : Agree units) :
    Agree units' := by
  intro u hu w hw
  exact h u (hperm.mem_iff.mpr hu) w (hperm.mem_iff.mpr hw)

/-- Everything the table keeps stems from a bundle of one of the units. -/
def Stems (units : List BuildUnit) (seen : Producers) : Prop :=
  ∀ artifact first, seen.get? artifact = some first → ∃ u ∈ units, ∃ i ∈ u.inputs,
    i.artifact = artifact ∧ first.1.platform = u.platform ∧ first.1.entrySymbol = i.entrySymbol ∧
      first.2 = u.platformIsWord

theorem Stems.put {units : List BuildUnit} {seen : Producers} (h : Stems units seen) {u : BuildUnit}
    (hu : u ∈ units) {i : Input} (hi : i ∈ u.inputs) (name : String) :
    Stems units (seen.put i.artifact (⟨name, u.platform, i.entrySymbol⟩, u.platformIsWord)) := by
  intro artifact first hfirst
  by_cases ha : i.artifact = artifact
  · subst ha
    rw [Entries.get?_put_self] at hfirst
    cases hfirst
    exact ⟨u, hu, i, hi, rfl, rfl, rfl, rfl⟩
  · rw [Entries.get?_put_other _ _ ha] at hfirst
    exact h artifact first hfirst

/-- The units have bundles that differ under one artifact name, and the trouble tells so; only a
platform that is given by its word cannot be told. -/
def Clashes (units : List BuildUnit) (t : Trouble) : Prop :=
  ¬ Agree units ∧ ((∀ u ∈ units, u.platformIsWord = false) →
    ∃ f, t = .fault f ∧ f.kind = "ConfigurationError")

/-- A unit's bundles pass, and the table still stems from the units; or two bundles differ. -/
theorem checkInputs_cases {units : List BuildUnit} {name : String} {u : BuildUnit}
    (hu : u ∈ units) : ∀ {inputs : List Input} {seen : Producers},
    (∀ i ∈ inputs, i ∈ u.inputs) → Stems units seen →
      (∃ seen', checkInputs name u inputs seen = .ok seen' ∧ Stems units seen') ∨
      ∃ t, checkInputs name u inputs seen = .error t ∧ Clashes units t
  | [], seen, _, hstems => .inl ⟨seen, rfl, hstems⟩
  | i :: inputs, seen, hinputs, hstems => by
    obtain ⟨hi, hrest⟩ := List.forall_mem_cons.mp hinputs
    simp only [checkInputs]
    cases hfirst : seen.get? i.artifact with
    | none => exact checkInputs_cases hu hrest (hstems.put hu hi name)
    | some first =>
      dsimp only
      obtain ⟨w, hw, j, hj, hartifact, hplatform, hentry, hflag⟩ := hstems _ _ hfirst
      split
      · exact checkInputs_cases hu hrest hstems
      · next hdiffer =>
        refine .inr ⟨_, rfl, fun hagree => ?_, fun hwords => ?_⟩
        · obtain ⟨hp, he⟩ := hagree w hw u hu j hj i hi hartifact
          simp [hplatform, hentry, hp, he] at hdiffer
        · rw [clash, hflag, hwords w hw, hwords u hu]
          exact ⟨_, rfl, rfl⟩

theorem checkProducers_cons {name : String} {d : Draft} {seen : Producers} (h : d.Listed) :
    checkProducers ((name, d) :: ds) seen =
      checkInputs name d.unit d.unit.inputs seen >>= checkProducers ds := by
  simp [checkProducers, pass, h.untroubled, BuildUnit.checkedInputs, h.spelled, bind, Except.bind,
    Except.mapError]

theorem checkProducers_cases {units : List BuildUnit} : ∀ {ds : Entries Draft} {seen : Producers},
    (∀ x ∈ ds, x.2.unit ∈ units ∧ x.2.Listed) → Stems units seen →
      checkProducers ds seen = .ok () ∨ ∃ t, checkProducers ds seen = .error t ∧ Clashes units t
  | [], seen, _, _ => .inl rfl
  | (name, d) :: ds, seen, hds, hstems => by
    obtain ⟨⟨hu, hlisted⟩, hrest⟩ := List.forall_mem_cons.mp hds
    rw [checkProducers_cons hlisted]
    have hown : ∀ i ∈ d.unit.inputs, i ∈ d.unit.inputs := fun i hi => hi
    rcases checkInputs_cases hu hown hstems with ⟨seen', hok, hstems'⟩ | ⟨t, ht, hclash⟩
    · rw [hok]
      exact checkProducers_cases hrest hstems'
    · rw [ht]
      exact .inr ⟨t, rfl, hclash⟩

/-- What is left to check of drafts whose bundles can be listed is whether they agree. -/
theorem checkProducers_agree (h : ∀ x ∈ ds, x.2.Listed) :
    (checkProducers ds [] = .ok () ∧ Agree (ds.map (·.2.unit))) ∨
      ∃ t, checkProducers ds [] = .error t ∧ Clashes (ds.map (·.2.unit)) t := by
  have hunits : ∀ x ∈ ds, x.2.unit ∈ ds.map (·.2.unit) ∧ x.2.Listed := fun x hx =>
    ⟨List.mem_map_of_mem hx, h x hx⟩
  have hnothing : Stems (ds.map (·.2.unit)) [] := fun _ _ h => nomatch h
  exact (checkProducers_cases hunits hnothing).imp (fun hok => ⟨hok, agree_of_producers hok⟩) id

theorem checkProducers_eq_ok_iff : checkProducers ds [] = .ok () ↔
    (∀ x ∈ ds, x.2.Listed) ∧ Agree (ds.map (·.2.unit)) := by
  constructor
  · intro hok
    exact ⟨listed_of_producers hok, agree_of_producers hok⟩
  · rintro ⟨hlisted, hagree⟩
    rcases checkProducers_agree hlisted with ⟨hok, -⟩ | ⟨t, -, hclash, -⟩
    · exact hok
    · exact absurd hagree hclash

/-! ## Every order -/

/-- What passes in one order passes in every other one. -/
theorem Passes.perm {ds ds' : Entries Declaration} {drafts : Entries Draft} (hperm : ds.Perm ds')
    (h : Passes ds drafts) : ∃ drafts', drafts'.Perm drafts ∧ Passes ds' drafts' := by
  have hdrafts := drafts_of_checkDeclarations h.declarations
  obtain ⟨drafts', hdrafts', hsame⟩ := List.perm_comp_forall₂ hperm.symm hdrafts
  have hmem : ∀ x ∈ drafts', x ∈ drafts := fun x => hsame.mem_iff.mp
  obtain ⟨hlisted, hagree⟩ := checkProducers_eq_ok_iff.mp h.producers
  have htold : Told drafts := fun x hx => x.2.told (hlisted x hx).untroubled
  refine ⟨drafts', hsame, ?_⟩
  exact {
    declarations := checkDeclarations_of_drafts hdrafts'
    artifacts := by
      have huntroubled := h.artifacts
      rw [List.findSome?_eq_none_iff] at huntroubled ⊢
      exact fun x hx => huntroubled x (hmem x hx)
    unique := by
      have hunique := (checkUnique_eq_ok_iff htold).mp h.unique
      refine (checkUnique_eq_ok_iff fun x hx => htold x (hmem x hx)).mpr ?_
      exact (hsame.pairwise_iff Ne.symm).mpr hunique
    producers := checkProducers_eq_ok_iff.mpr
      ⟨fun x hx => hlisted x (hmem x hx), hagree.perm (hsame.map _).symm⟩
    references := by
      have hrefers := checkReferences_eq_ok_iff.mp h.references
      refine checkReferences_eq_ok_iff.mpr fun x hx => ?_
      obtain ⟨htrouble, hdeclared⟩ := hrefers x (hmem x hx)
      exact ⟨htrouble, fun c hc r hr => (hsame.map _).mem_iff.mpr (hdeclared c hc r hr)⟩ }

/-- **Declarations in any order.** A catalog of declarations has the same units as one of the same
declarations in another order. -/
theorem ofDeclarations_perm {ds ds' : Entries Declaration} {c : Catalog} (hperm : ds.Perm ds')
    (h : ofDeclarations ds = .ok c) :
    ∃ c', ofDeclarations ds' = .ok c' ∧ c'.units.Perm c.units := by
  obtain ⟨drafts, hpasses, hunits⟩ := ofDeclarations_eq_ok_iff.mp h
  obtain ⟨drafts', hsame, hpasses'⟩ := hpasses.perm hperm
  have hvalid := valid_of_validate (validate_eq_ok_iff.mpr ⟨drafts', hpasses', rfl⟩)
  exact ⟨⟨_, hvalid⟩, ofDeclarations_eq_ok_iff.mpr ⟨drafts', hpasses', rfl⟩,
    hunits ▸ hsame.map _⟩

end Catalog

end BundleBuild
