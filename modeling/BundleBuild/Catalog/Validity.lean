/-
What the checks of a catalog establish (`Valid`), so that a catalog carries it and nothing about its
units has to be found out again.

Two of the checks hide their condition. Artifact names are counted under the first of those that are
the same key, which comes to saying that no name is given twice (`checkUnique_eq_ok_iff`). The check
of producers compares a bundle only with the first one of its artifact name. What it keeps of them
never changes (`checkInputs_keeps`), so at the end one table tells the platform and the entry symbol
of every bundle of every unit (`checkProducers_told`).
-/
import BundleBuild.Catalog.Checks
import BundleBuild.Sequence

namespace BundleBuild

/-- The bundles of a draft can be listed. -/
structure Draft.Listed (d : Draft) : Prop where
  untroubled : d.inputsTrouble = none
  spelled : d.unit.name.flaw? = none

/-! ## Artifact names -/

theorem exists_mem_eraseDupsBy {α : Type} {same : α → α → Bool} : ∀ {xs : List α} {a : α},
    a ∈ xs → same a a = true → ∃ b ∈ xs.eraseDupsBy same, same a b = true
  | x :: xs, a, ha, hself => by
    rw [List.eraseDupsBy_cons]
    by_cases hx : same a x = true
    · exact ⟨x, List.mem_cons_self, hx⟩
    · have hne : a ≠ x := by
        rintro rfl
        exact hx hself
      have hrest : a ∈ xs.filter fun b => decide (same b x = false) := by
        have hmem := (List.mem_cons.mp ha).resolve_left hne
        exact List.mem_filter.mpr ⟨hmem, by simpa using hx⟩
      obtain ⟨b, hb, hab⟩ := exists_mem_eraseDupsBy hrest hself
      exact ⟨b, List.mem_cons_of_mem x hb, hab⟩
termination_by xs => xs.length
decreasing_by
  have := List.length_filter_le (fun b => decide (same b x = false)) xs
  simp only [List.length_cons]
  omega

theorem mem_of_mem_eraseDupsBy {α : Type} {same : α → α → Bool} : ∀ {xs : List α} {a : α},
    a ∈ xs.eraseDupsBy same → a ∈ xs
  | [], _, h => h
  | x :: xs, a, h => by
    rw [List.eraseDupsBy_cons] at h
    rcases List.mem_cons.mp h with rfl | hrest
    · exact List.mem_cons_self
    · have hmem := mem_of_mem_eraseDupsBy hrest
      exact List.mem_cons_of_mem x (List.mem_filter.mp hmem).1
termination_by xs => xs.length
decreasing_by
  have := List.length_filter_le (fun b => decide (same b x = false)) xs
  simp only [List.length_cons]
  omega

namespace Catalog

variable {ds : Entries Draft}

theorem checkUnique_eq_ok_iff_shared : checkUnique ds = .ok () ↔ sharedArtifacts ds = [] := by
  rw [← Datum.sortKeys_eq_nil_iff, checkUnique, bind_eq_ok_iff]
  constructor
  · rintro ⟨sorted, hsort, h⟩
    cases sorted with
    | nil => exact hsort
    | cons a rest => cases h
  · intro hsort
    exact ⟨[], hsort, rfl⟩

/-- The artifact name of every unit is what was given for it. -/
def Told (ds : Entries Draft) : Prop :=
  ∀ x ∈ ds, ArtifactName.ofDatum? x.2.artifact = some x.2.unit.name

/-- Artifact names pass when none is given twice. -/
theorem checkUnique_eq_ok_iff (h : Told ds) :
    checkUnique ds = .ok () ↔ ds.Pairwise fun x y => x.2.unit.name ≠ y.2.unit.name := by
  rw [checkUnique_eq_ok_iff_shared, sharedArtifacts, List.filter_eq_nil_iff,
    List.pairwise_iff_forall_sublist]
  have howners : ∀ z ∈ ds, ∀ x ∈ ds,
      x.2.artifact.sameKey z.2.artifact = true ↔ x.2.unit.name = z.2.unit.name :=
    fun z hz x hx => ArtifactName.sameKey_iff (h x hx) (h z hz)
  constructor
  · intro hshared x y hxy hname
    have hx := hxy.subset List.mem_cons_self
    have hy := hxy.subset (List.mem_cons_of_mem x List.mem_cons_self)
    have hmem : x.2.artifact ∈ ds.map fun x => x.2.artifact := List.mem_map_of_mem hx
    obtain ⟨a, ha, hsame⟩ := exists_mem_eraseDupsBy hmem ((howners x hx x hx).mpr rfl)
    refine hshared a ha ?_
    obtain ⟨z, hz, rfl⟩ := List.mem_map.mp (mem_of_mem_eraseDupsBy ha)
    -- Both units are counted under the name of the first one that has it.
    have hxz := (howners z hz x hx).mp hsame
    have hyz : y.2.artifact.sameKey z.2.artifact = true :=
      (howners z hz y hy).mpr (hname.symm.trans hxz)
    have hboth := (hxy.filter fun w => w.2.artifact.sameKey z.2.artifact).length_le
    simpa [ownersOf, hsame, hyz, Nat.lt_iff_add_one_le] using hboth
  · intro hpairs a ha hmany
    obtain ⟨z, hz, rfl⟩ := List.mem_map.mp (mem_of_mem_eraseDupsBy ha)
    rw [ownersOf, List.length_map, decide_eq_true_eq] at hmany
    have hsub := @List.filter_sublist _ (fun w => w.2.artifact.sameKey z.2.artifact) ds
    have howned : ∀ w ∈ ds.filter fun w => w.2.artifact.sameKey z.2.artifact,
        w.2.unit.name = z.2.unit.name := fun w hw =>
      (howners z hz w (List.mem_filter.mp hw).1).mp (List.mem_filter.mp hw).2
    match howners' : ds.filter fun w => w.2.artifact.sameKey z.2.artifact with
    | [] | [_] => simp [howners'] at hmany
    | x :: y :: rest =>
      rw [howners'] at hsub howned
      have hxy : [x, y].Sublist ds := List.Sublist.trans (by simp) hsub
      exact hpairs hxy ((howned x (by simp)).trans (howned y (by simp)).symm)

/-! ## Producers -/

/-- The platform and the entry symbol of the bundle that was first produced under a name. -/
def bundleOf (seen : Producers) (artifact : String) : Option (Platform × String) :=
  (seen.get? artifact).map fun first => (first.1.platform, first.1.entrySymbol)

/-- The table tells the bundle of every input of the unit. -/
def Tells (seen : Producers) (u : BuildUnit) (inputs : List Input) : Prop :=
  ∀ i ∈ inputs, bundleOf seen i.artifact = some (u.platform, i.entrySymbol)

/-- What the one table tells the other tells too. -/
def Keeps (seen seen' : Producers) : Prop :=
  ∀ artifact bundle, bundleOf seen artifact = some bundle → bundleOf seen' artifact = some bundle

theorem Keeps.tells {seen seen' : Producers} {u : BuildUnit} {inputs : List Input}
    (h : Keeps seen seen') (ht : Tells seen u inputs) : Tells seen' u inputs :=
  fun i hi => h _ _ (ht i hi)

theorem keeps_put {seen : Producers} {artifact : String} (hnew : seen.get? artifact = none)
    (first : Producer × Bool) : Keeps seen (seen.put artifact first) := by
  intro a bundle ha
  have hne : artifact ≠ a := by
    rintro rfl
    simp [bundleOf, hnew] at ha
  rwa [bundleOf, Entries.get?_put_other _ _ hne]

/-- Checking the bundles of a unit only adds to the table, and afterwards it tells them all. -/
theorem checkInputs_keeps {name : String} {u : BuildUnit} : ∀ {inputs : List Input}
    {seen seen' : Producers}, checkInputs name u inputs seen = .ok seen' →
      Keeps seen seen' ∧ Tells seen' u inputs
  | [], seen, seen', h => by
    simp only [checkInputs, Except.ok.injEq] at h
    subst h
    exact ⟨fun _ _ ha => ha, by simp [Tells]⟩
  | i :: rest, seen, seen', h => by
    simp only [checkInputs] at h
    split at h
    · next hnew =>
      obtain ⟨hkeeps, htells⟩ := checkInputs_keeps h
      refine ⟨fun a bundle ha => hkeeps _ _ (keeps_put hnew _ a bundle ha), ?_⟩
      refine List.forall_mem_cons.mpr ⟨hkeeps _ _ ?_, htells⟩
      rw [bundleOf, Entries.get?_put_self]
      rfl
    · next first hfirst =>
      split at h
      · next hsame =>
        obtain ⟨hkeeps, htells⟩ := checkInputs_keeps h
        simp only [Bool.and_eq_true, decide_eq_true_eq] at hsame
        refine ⟨hkeeps, List.forall_mem_cons.mpr ⟨hkeeps _ _ ?_, htells⟩⟩
        rw [bundleOf, hfirst, Option.map_some, hsame.1, hsame.2]
      · cases h

theorem pass_eq_ok_iff {t : Option Trouble} : pass t = .ok () ↔ t = none := by
  cases t <;> simp [pass]

theorem checkedInputs_eq_ok_iff {u : BuildUnit} {inputs : List Input} :
    u.checkedInputs.mapError Trouble.invalid = .ok inputs ↔
      u.name.flaw? = none ∧ inputs = u.inputs := by
  rw [mapError_eq_ok_iff, BuildUnit.checkedInputs]
  cases u.name.flaw? <;> simp [Checked.under, Checked.flawed, eq_comm]

/-- When no two bundles clash, the bundles of all units can be listed, and one table tells them. -/
theorem checkProducers_told : ∀ {ds : Entries Draft} {seen : Producers},
    checkProducers ds seen = .ok () → ∃ final, Keeps seen final ∧
      ∀ x ∈ ds, x.2.Listed ∧ Tells final x.2.unit x.2.unit.inputs
  | [], seen, _ => ⟨seen, fun _ _ ha => ha, by simp⟩
  | (name, d) :: ds, seen, h => by
    simp only [checkProducers, bind_eq_ok_iff, checkedInputs_eq_ok_iff] at h
    obtain ⟨⟨⟩, htrouble, inputs, ⟨hspelled, rfl⟩, seen', hseen, h⟩ := h
    obtain ⟨hkeeps, htells⟩ := checkInputs_keeps hseen
    obtain ⟨final, hfinal, hrest⟩ := checkProducers_told h
    refine ⟨final, fun a bundle ha => hfinal _ _ (hkeeps a bundle ha), ?_⟩
    exact List.forall_mem_cons.mpr
      ⟨⟨⟨pass_eq_ok_iff.mp htrouble, hspelled⟩, hfinal.tells htells⟩, hrest⟩

/-- Bundles of these units under one artifact name are for the same platform and have the same
entry symbol. -/
def Agree (units : List BuildUnit) : Prop :=
  ∀ u ∈ units, ∀ w ∈ units, ∀ i ∈ u.inputs, ∀ j ∈ w.inputs, i.artifact = j.artifact →
    u.platform = w.platform ∧ i.entrySymbol = j.entrySymbol

instance (units : List BuildUnit) : Decidable (Agree units) :=
  inferInstanceAs (Decidable (∀ u ∈ units, ∀ w ∈ units, ∀ i ∈ u.inputs, ∀ j ∈ w.inputs,
    i.artifact = j.artifact → u.platform = w.platform ∧ i.entrySymbol = j.entrySymbol))

theorem listed_of_producers (h : checkProducers ds [] = .ok ()) : ∀ x ∈ ds, x.2.Listed := by
  obtain ⟨final, -, htold⟩ := checkProducers_told h
  exact fun x hx => (htold x hx).1

theorem agree_of_producers (h : checkProducers ds [] = .ok ()) : Agree (ds.map (·.2.unit)) := by
  obtain ⟨final, -, htold⟩ := checkProducers_told h
  intro u hu w hw i hi j hj hartifact
  obtain ⟨x, hx, rfl⟩ := List.mem_map.mp hu
  obtain ⟨y, hy, rfl⟩ := List.mem_map.mp hw
  have hti := (htold x hx).2 i hi
  have htj := (htold y hy).2 j hj
  rw [hartifact, htj] at hti
  simp only [Option.some.injEq, Prod.mk.injEq] at hti
  exact ⟨hti.1.symm, hti.2.symm⟩

/-! ## References -/

theorem mem_references {u : BuildUnit} {r : String} :
    r ∈ u.references ↔ ∃ c ∈ u.customizers, r ∈ c.references := by
  simp [BuildUnit.references, sortTexts]

/-- References are in order when every unit that a customizer names is declared. -/
theorem checkReferences_eq_ok_iff {declared : List String} : ∀ {ds : Entries Draft},
    checkReferences declared ds = .ok () ↔ ∀ x ∈ ds, x.2.referencesTrouble = none ∧
      ∀ c ∈ x.2.unit.customizers, ∀ r ∈ c.references, r ∈ declared
  | [] => by simp [checkReferences]
  | (name, d) :: ds => by
    have hfind : (d.unit.references.find? fun r => !declared.contains r) = none ↔
        ∀ c ∈ d.unit.customizers, ∀ r ∈ c.references, r ∈ declared := by
      simp only [List.find?_eq_none, mem_references, Bool.not_eq_true, Bool.not_eq_false',
        List.contains_eq_mem, decide_eq_true_eq]
      exact ⟨fun h c hc r hr => h r ⟨c, hc, hr⟩, fun h r ⟨c, hc, hr⟩ => h c hc r hr⟩
    rw [List.forall_mem_cons, ← @checkReferences_eq_ok_iff declared ds, ← hfind, checkReferences,
      bind_eq_ok_iff]
    constructor
    · rintro ⟨⟨⟩, htrouble, h⟩
      split at h
      · cases h
      · next hnone => exact ⟨⟨pass_eq_ok_iff.mp htrouble, hnone⟩, h⟩
    · rintro ⟨⟨htrouble, hnone⟩, h⟩
      refine ⟨(), pass_eq_ok_iff.mpr htrouble, ?_⟩
      rw [hnone]
      exact h

/-! ## Valid sets -/

theorem named_of_checkDeclarations : ∀ {ds : Entries Declaration} {drafts : Entries Draft},
    checkDeclarations ds = .ok drafts → ∀ x ∈ drafts, x.1 ≠ ""
  | [], drafts, h => by
    cases h
    simp
  | (name, d) :: ds, drafts, h => by
    simp only [checkDeclarations] at h
    split at h
    · cases h
    · next hname =>
      cases d with
      | other kind => cases h
      | unit | fields =>
        simp only [bind_eq_ok_iff, pure_eq_ok_iff] at h
        obtain ⟨rest, hrest, rfl⟩ := h
        have hproper : name ≠ "" := by simpa using hname
        exact List.forall_mem_cons.mpr ⟨hproper, named_of_checkDeclarations hrest⟩

/-- A set of units that a catalog can be made of. -/
structure Valid (us : Entries BuildUnit) : Prop where
  /-- Every unit has a name. -/
  named : ∀ x ∈ us, x.1 ≠ ""
  /-- Every artifact has a name that bundles can go by. -/
  spelled : ∀ x ∈ us, x.2.name.flaw? = none
  /-- No two units have the same artifact name. -/
  distinct : us.Pairwise fun x y => x.2.name ≠ y.2.name
  /-- An artifact that several units produce is the same bundle in each. -/
  agreeing : Agree (us.map (·.2))
  /-- Every unit that a customizer refers to is declared. -/
  referring : ∀ x ∈ us, ∀ c ∈ x.2.customizers, ∀ r ∈ c.references, r ∈ us.names

instance (us : Entries BuildUnit) : Decidable (Valid us) :=
  decidable_of_iff
    ((∀ x ∈ us, x.1 ≠ "") ∧ (∀ x ∈ us, x.2.name.flaw? = none) ∧
      (us.Pairwise fun x y => x.2.name ≠ y.2.name) ∧ Agree (us.map (·.2)) ∧
      ∀ x ∈ us, ∀ c ∈ x.2.customizers, ∀ r ∈ c.references, r ∈ us.names)
    ⟨fun ⟨hnamed, hspelled, hdistinct, hagree, hrefer⟩ =>
        ⟨hnamed, hspelled, hdistinct, hagree, hrefer⟩,
      fun h => ⟨h.named, h.spelled, h.distinct, h.agreeing, h.referring⟩⟩

/-- The checks that a set of declarations has to pass. -/
structure Passes (ds : Entries Declaration) (drafts : Entries Draft) : Prop where
  declarations : checkDeclarations ds = .ok drafts
  artifacts : (drafts.findSome? fun x => x.2.artifactTrouble) = none
  unique : checkUnique drafts = .ok ()
  producers : checkProducers drafts [] = .ok ()
  references : checkReferences (drafts.map (·.1)) drafts = .ok ()

theorem validate_eq_ok_iff {ds : Entries Declaration} {us : Entries BuildUnit} :
    validate ds = .ok us ↔
      ∃ drafts, Passes ds drafts ∧ us = drafts.map fun x => (x.1, x.2.unit) := by
  have hnames : ∀ drafts : Entries Draft,
      Entries.names (drafts.map fun x => (x.1, x.2.unit)) = drafts.map (·.1) := by
    intro drafts
    simp [Entries.names]
  simp only [validate, bind_eq_ok_iff, pure_eq_ok_iff, hnames]
  constructor
  · rintro ⟨drafts, hdrafts, ⟨⟩, hartifacts, ⟨⟩, hunique, ⟨⟩, hproducers, ⟨⟩, hreferences, rfl⟩
    exact ⟨drafts, ⟨hdrafts, pass_eq_ok_iff.mp hartifacts, hunique, hproducers, hreferences⟩, rfl⟩
  · rintro ⟨drafts, h, rfl⟩
    exact ⟨drafts, h.declarations, (), pass_eq_ok_iff.mpr h.artifacts, (), h.unique, (),
      h.producers, (), h.references, rfl⟩

/-- What passes every check is valid. -/
theorem valid_of_validate {ds : Entries Declaration} {us : Entries BuildUnit}
    (h : validate ds = .ok us) : Valid us := by
  obtain ⟨drafts, hpasses, rfl⟩ := validate_eq_ok_iff.mp h
  have hlisted := listed_of_producers hpasses.producers
  have htold : Told drafts := fun x hx => x.2.told (hlisted x hx).untroubled
  refine {
    named := List.forall_mem_map.mpr (named_of_checkDeclarations hpasses.declarations)
    spelled := List.forall_mem_map.mpr fun x hx => (hlisted x hx).spelled
    distinct := List.pairwise_map.mpr ((checkUnique_eq_ok_iff htold).mp hpasses.unique)
    agreeing := ?_
    referring := List.forall_mem_map.mpr fun x hx => ?_ }
  · rw [List.map_map]
    exact agree_of_producers hpasses.producers
  · have hdeclared := (checkReferences_eq_ok_iff.mp hpasses.references x hx).2
    simpa [Entries.names, Function.comp_def] using hdeclared

end Catalog

end BundleBuild
