/-
Which declarations make a catalog, when their units were made by builders. The checks are gone
through one after another; each passes exactly when its own condition holds, and otherwise ends in
trouble of its own (`Decides`). Only the last check tells of an unknown unit, so that is what is
told exactly when nothing else is wrong.

A builder takes any text for an artifact name, one with halves of surrogate pairs included. Such a
name is found out only where bundles are listed, among the checks of a catalog, and there it ends in
no fault of the configuration (`ofDeclarations_halfNamed`).
-/
import BundleBuild.Proofs.Building
import BundleBuild.Proofs.Reordering

namespace BundleBuild

/-! ## Texts as keys -/

namespace Datum

/-- A key that is a text, with halves of surrogate pairs or without. -/
def IsText (d : Datum) : Prop :=
  d.number? = none ∧ ∃ ps, d.units? = some (false, ps)

theorem isBefore_texts {a b : Datum} (ha : a.IsText) (hb : b.IsText) :
    ∃ before, isBefore a b = .ok before := by
  obtain ⟨ha, ps, hps⟩ := ha
  obtain ⟨hb, qs, hqs⟩ := hb
  exact ⟨decide (ps < qs), by simp [isBefore, ha, hb, hps, hqs]⟩

theorem takeRun_texts (falling : Bool) : ∀ {xs : List Datum} {last : Datum}, last.IsText →
    (∀ d ∈ xs, d.IsText) →
    ∃ run after, takeRun falling last xs = .ok (run, after) ∧ run ++ after = xs
  | [], _, _, _ => ⟨[], [], rfl, rfl⟩
  | x :: xs, last, hlast, hxs => by
    obtain ⟨hx, hrest⟩ := List.forall_mem_cons.mp hxs
    obtain ⟨before, hbefore⟩ := isBefore_texts hx hlast
    simp only [takeRun, hbefore, bind, Except.bind]
    split
    · obtain ⟨run, after, htake, rfl⟩ := takeRun_texts falling hx hrest
      exact ⟨x :: run, after, by rw [htake]; rfl, rfl⟩
    · exact ⟨[], x :: xs, rfl, rfl⟩

theorem placeOf_texts {d : Datum} {keys : List Datum} (hd : d.IsText)
    (hkeys : ∀ k ∈ keys, k.IsText) : ∀ fuel low high : Nat,
    ∃ place, placeOf d keys.toArray fuel low high = .ok place
  | 0, low, _ => ⟨low, rfl⟩
  | fuel + 1, low, high => by
    have hkey : ∀ n, (keys.toArray.getD n d).IsText := by
      intro n
      rw [Array.getD_eq_getD_getElem?, List.getElem?_toArray]
      cases hn : keys[n]? with
      | none => exact hd
      | some k => exact hkeys k (List.mem_of_getElem? hn)
    obtain ⟨before, hbefore⟩ := isBefore_texts hd (hkey (low + (high - low) / 2))
    simp only [placeOf, hbefore, bind, Except.bind]
    split
    · exact ⟨low, rfl⟩
    · split
      · exact placeOf_texts hd hkeys fuel _ _
      · exact placeOf_texts hd hkeys fuel _ _

theorem insertKey_texts {keys : List Datum} {d : Datum} (hkeys : ∀ k ∈ keys, k.IsText)
    (hd : d.IsText) : ∃ out, insertKey keys d = .ok out ∧ out.Perm (d :: keys) := by
  obtain ⟨place, hplace⟩ := placeOf_texts hd hkeys (keys.length + 1) 0 keys.length
  refine ⟨keys.take place ++ d :: keys.drop place, ?_, ?_⟩
  · rw [insertKey, hplace]
    rfl
  · have hsplit := List.take_append_drop place keys
    exact List.perm_middle.trans (.cons d (.of_eq hsplit))

theorem foldlM_insertKey_texts : ∀ {xs keys : List Datum}, (∀ d ∈ xs, d.IsText) →
    (∀ k ∈ keys, k.IsText) → ∃ out, xs.foldlM insertKey keys = .ok out ∧ out.Perm (keys ++ xs)
  | [], keys, _, _ => ⟨keys, rfl, by simp⟩
  | x :: xs, keys, hxs, hkeys => by
    obtain ⟨hx, hrest⟩ := List.forall_mem_cons.mp hxs
    obtain ⟨placed, hinsert, hplaced⟩ := insertKey_texts hkeys hx
    have hall : ∀ k ∈ placed, k.IsText := fun k hk =>
      List.forall_mem_cons.mpr ⟨hx, hkeys⟩ k (hplaced.mem_iff.mp hk)
    obtain ⟨out, hfold, hout⟩ := foldlM_insertKey_texts hrest hall
    refine ⟨out, ?_, ?_⟩
    · rw [List.foldlM_cons, hinsert]
      exact hfold
    · exact hout.trans ((hplaced.append_right xs).trans List.perm_middle.symm)

/-- Texts can always be put in order, and none is lost or added. -/
theorem sortKeys_texts : ∀ {xs : List Datum}, (∀ d ∈ xs, d.IsText) →
    ∃ out, sortKeys xs = .ok out ∧ out.Perm xs
  | [], _ => ⟨[], rfl, .refl _⟩
  | [x], _ => ⟨[x], rfl, .refl _⟩
  | x :: y :: xs, h => by
    simp only [List.forall_mem_cons] at h
    obtain ⟨hx, hy, hxs⟩ := h
    obtain ⟨falling, hfalling⟩ := isBefore_texts hy hx
    obtain ⟨run, after, htake, rfl⟩ := takeRun_texts falling hy hxs
    obtain ⟨hrun, hafter⟩ := List.forall_mem_append.mp hxs
    have hstart : ∀ k ∈ x :: y :: run, k.IsText := by
      simpa only [List.forall_mem_cons] using ⟨hx, hy, hrun⟩
    simp only [sortKeys, hfalling, htake, bind, Except.bind]
    -- The beginning that is in order, or in reverse order, stays together.
    split
    · have hback : ∀ k ∈ (x :: y :: run).reverse, k.IsText := by
        simpa only [List.mem_reverse] using hstart
      obtain ⟨out, hfold, hout⟩ := foldlM_insertKey_texts hafter hback
      exact ⟨out, hfold, hout.trans ((List.reverse_perm _).append_right after)⟩
    · exact foldlM_insertKey_texts hafter hstart

end Datum

/-! ## Checks and their conditions -/

/-- A check passes with a value exactly when a condition holds, and otherwise ends in trouble that
is to `blame`. -/
structure Decides {α : Type} (check : Except Trouble α) (condition : Prop) (a : α)
    (blame : Trouble → Prop) : Prop where
  pass : condition → check = .ok a
  fail : ¬ condition → ∃ t, check = .error t ∧ blame t

namespace Decides

variable {α β : Type} {x : Except Trouble α} {f : α → Except Trouble β} {a : α} {b : β}
  {P Q : Prop} {blame blame' : Trouble → Prop}

/-- Checks in a row: the later ones count only when the first has passed. -/
theorem bind (hx : Decides x P a blame) (hf : P → Decides (f a) Q b blame) :
    Decides (x >>= f) (P ∧ Q) b blame where
  pass h := by
    rw [hx.pass h.1]
    exact (hf h.1).pass h.2
  fail h := by
    by_cases hP : P
    · rw [hx.pass hP]
      exact (hf hP).fail fun hQ => h ⟨hP, hQ⟩
    · obtain ⟨t, ht, hblame⟩ := hx.fail hP
      exact ⟨t, by rw [ht]; rfl, hblame⟩

theorem imp (hx : Decides x P a blame) (h : ∀ t, ¬ P → blame t → blame' t) :
    Decides x P a blame' where
  pass := hx.pass
  fail hP := by
    obtain ⟨t, ht, hblame⟩ := hx.fail hP
    exact ⟨t, ht, h t hP hblame⟩

end Decides

/-- A fault of the configuration that is not about an unknown unit. -/
def Trouble.IsRefusal (t : Trouble) : Prop :=
  ∃ f, t = .fault f ∧ f.kind = "ConfigurationError"

/-! ## Names and values -/

/-- The unit that is declared, if it is one. -/
def Declaration.unit? : Declaration → Option BuildUnit
  | .unit u => some u
  | _ => none

/-- A declaration whose unit, if it is one, was made by a builder. -/
def Declaration.Made : Declaration → Prop
  | .unit u => u.Made
  | .fields _ => False
  | .other _ => True

namespace Catalog

/-- The declared units. -/
def unitsOf (ds : Entries Declaration) : Entries BuildUnit :=
  ds.filterMap fun x => x.2.unit?.map fun u => (x.1, u)

/-- What the checks of a catalog see of units that a builder made. -/
def drafts (us : Entries BuildUnit) : Entries Draft :=
  us.map fun x => (x.1, x.2.draft)

theorem checkDeclarations_decides : ∀ {ds : Entries Declaration}, (∀ x ∈ ds, x.2.Made) →
    Decides (checkDeclarations ds) (∀ x ∈ ds, x.1 ≠ "" ∧ ∃ u, x.2 = .unit u) (drafts (unitsOf ds))
      Trouble.IsRefusal
  | [], _ => ⟨fun _ => rfl, fun h => absurd (by simp) h⟩
  | (name, d) :: ds, hmade => by
    obtain ⟨hd, hrest⟩ := List.forall_mem_cons.mp hmade
    obtain ⟨hpass, hfail⟩ := checkDeclarations_decides hrest
    by_cases hname : name = ""
    · subst hname
      exact ⟨fun h => absurd rfl (h _ List.mem_cons_self).1, fun _ => ⟨_, rfl, _, rfl, rfl⟩⟩
    · have hempty : name.isEmpty = false := by simpa using hname
      cases d with
      | fields f => exact hd.elim
      | other kind =>
        refine ⟨fun h => ?_, fun _ => ?_⟩
        · obtain ⟨u, hu⟩ := (h _ List.mem_cons_self).2
          cases hu
        · simp only [checkDeclarations, hempty]
          exact ⟨_, rfl, _, rfl, rfl⟩
      | unit u =>
        simp only [checkDeclarations, hempty]
        refine ⟨fun h => ?_, fun h => ?_⟩
        · rw [hpass (List.forall_mem_cons.mp h).2]
          rfl
        · have hnot : ¬ ∀ x ∈ ds, x.1 ≠ "" ∧ ∃ u, x.2 = .unit u := fun hall =>
            h (List.forall_mem_cons.mpr ⟨⟨hname, u, rfl⟩, hall⟩)
          obtain ⟨t, ht, hrefusal⟩ := hfail hnot
          exact ⟨t, by rw [ht]; rfl, hrefusal⟩

/-! ## Artifact names -/

theorem isText_givenArtifact {u : BuildUnit} (h : u.Made) : u.givenArtifact.IsText := by
  have htext := (BuildUnit.made_iff.mp h).2.1
  unfold BuildUnit.givenArtifact
  cases hname : u.name with
  | text s => exact ⟨rfl, _, rfl⟩
  | unpaired ps => exact ⟨rfl, ps, rfl⟩
  | bytes =>
    rw [hname] at htext
    cases htext

theorem told_drafts (us : Entries BuildUnit) : Told (drafts us) :=
  List.forall_mem_map.mpr fun x _ => x.2.name.ofDatum?_datum

theorem checkUnique_decides {us : Entries BuildUnit} (hmade : ∀ x ∈ us, x.2.Made) :
    Decides (checkUnique (drafts us)) (us.map (·.2.name)).Nodup () Trouble.IsRefusal := by
  have hiff : checkUnique (drafts us) = .ok () ↔ (us.map (·.2.name)).Nodup := by
    rw [checkUnique_eq_ok_iff (told_drafts us), drafts, List.pairwise_map, List.Nodup,
      List.pairwise_map]
    rfl
  refine ⟨hiff.mpr, fun hnot => ?_⟩
  have htexts : ∀ d ∈ sharedArtifacts (drafts us), d.IsText := by
    intro d hd
    have hmem := mem_of_mem_eraseDupsBy (List.mem_filter.mp hd).1
    obtain ⟨y, hy, rfl⟩ := List.mem_map.mp hmem
    obtain ⟨x, hx, rfl⟩ := List.mem_map.mp hy
    exact isText_givenArtifact (hmade x hx)
  obtain ⟨sorted, hsort, -⟩ := Datum.sortKeys_texts htexts
  cases sorted with
  | nil => exact absurd (hiff.mp (by rw [checkUnique, hsort]; rfl)) hnot
  | cons a rest => exact ⟨_, by rw [checkUnique, hsort]; rfl, _, rfl, rfl⟩

/-! ## Producers -/

/-- What is told of an artifact name with halves of surrogate pairs. -/
def improperName : Trouble :=
  .invalid [⟨["artifact_name"], .notUnicode⟩]

/-- Units whose bundles can be listed and do not clash. -/
structure Fit (us : Entries BuildUnit) : Prop where
  /-- Artifact names have no halves of surrogate pairs. -/
  proper : ∀ x ∈ us, x.2.name.isProper = true
  /-- Bundles under one artifact name are the same. -/
  bundles : Agree (us.map (·.2))

/-- Going through the units, one is come upon whose artifact name has halves of surrogate pairs, and
those before it are fit. -/
def MeetsImproper (us : Entries BuildUnit) : Prop :=
  ∃ before x after, us = before ++ x :: after ∧ Fit before ∧ x.2.name.isProper = false

theorem MeetsImproper.not_fit {us : Entries BuildUnit} (h : MeetsImproper us) : ¬ Fit us := by
  obtain ⟨before, x, after, rfl, -, himproper⟩ := h
  intro hfit
  rw [hfit.proper x (by simp)] at himproper
  cases himproper

theorem listed_made_iff {u : BuildUnit} (h : u.Made) :
    u.draft.Listed ↔ u.name.isProper = true := by
  have hflaw := h.flaw?_eq
  cases hproper : u.name.isProper with
  | true => simpa [hproper] using ⟨rfl, by simpa [hproper] using hflaw⟩
  | false =>
    refine iff_of_false (fun hlisted => ?_) (by simp)
    have hspelled : u.name.flaw? = none := hlisted.spelled
    simp [hspelled, hproper] at hflaw

theorem checkProducers_drafts_eq_ok_iff {us : Entries BuildUnit} (hmade : ∀ x ∈ us, x.2.Made) :
    checkProducers (drafts us) [] = .ok () ↔ Fit us := by
  have hunits : (drafts us).map (·.2.unit) = us.map (·.2) := by simp [drafts]
  rw [checkProducers_eq_ok_iff, hunits, drafts, List.forall_mem_map]
  constructor
  · rintro ⟨hlisted, hagree⟩
    exact ⟨fun x hx => (listed_made_iff (hmade x hx)).mp (hlisted x hx), hagree⟩
  · rintro ⟨hproper, hagree⟩
    exact ⟨fun x hx => (listed_made_iff (hmade x hx)).mpr (hproper x hx), hagree⟩

theorem checkProducers_improper {name : String} {u : BuildUnit} (h : u.Made)
    (himproper : u.name.isProper = false) (us : Entries BuildUnit) (seen : Producers) :
    checkProducers (drafts ((name, u) :: us)) seen = .error improperName := by
  have hflaw := h.flaw?_eq
  rw [himproper] at hflaw
  simp only [drafts, List.map_cons, checkProducers, pass, BuildUnit.inputsTrouble_draft,
    BuildUnit.unit_draft, BuildUnit.checkedInputs, hflaw]
  rfl

/-- What the check of producers ends in: two bundles clash, or a name is improper. -/
theorem checkProducers_error {units : List BuildUnit} {t : Trouble} :
    ∀ {us : Entries BuildUnit} {seen : Producers}, (∀ x ∈ us, x.2 ∈ units) →
      (∀ u ∈ units, u.Made) → Stems units seen → checkProducers (drafts us) seen = .error t →
      t.IsRefusal ∨ t = improperName ∧ ∃ before x after, us = before ++ x :: after ∧
        checkProducers (drafts before) seen = .ok () ∧ x.2.name.isProper = false
  | [], seen, _, _, _, h => by cases h
  | (name, u) :: us, seen, hus, hmade, hstems, h => by
    obtain ⟨hu, hrest⟩ := List.forall_mem_cons.mp hus
    cases hproper : u.name.isProper with
    | false =>
      rw [checkProducers_improper (hmade u hu) hproper] at h
      exact .inr ⟨(Except.error.inj h).symm, [], (name, u), us, rfl, rfl, hproper⟩
    | true =>
      have hlisted := (listed_made_iff (hmade u hu)).mpr hproper
      have hcons : ∀ vs, checkProducers (drafts ((name, u) :: vs)) seen =
          checkInputs name u u.inputs seen >>= checkProducers (drafts vs) := fun vs =>
        checkProducers_cons hlisted
      have hown : ∀ i ∈ u.inputs, i ∈ u.inputs := fun i hi => hi
      rw [hcons] at h
      rcases checkInputs_cases hu hown hstems with ⟨seen', hok, hstems'⟩ | ⟨t', ht, -, htold⟩
      · rw [hok] at h
        refine (checkProducers_error hrest hmade hstems' h).imp id
          fun ⟨ht, before, x, after, hsplit, hbefore, himproper⟩ =>
            ⟨ht, (name, u) :: before, x, after, by rw [hsplit]; rfl, ?_, himproper⟩
        rw [hcons, hok]
        exact hbefore
      · rw [ht] at h
        cases h
        exact .inl (htold fun w hw => (BuildUnit.made_iff.mp (hmade w hw)).2.2)

theorem checkProducers_meets {before after : Entries BuildUnit} {x : String × BuildUnit}
    (hx : x.2.Made) (himproper : x.2.name.isProper = false) : ∀ {seen : Producers},
    checkProducers (drafts before) seen = .ok () →
    checkProducers (drafts (before ++ x :: after)) seen = .error improperName := by
  induction before with
  | nil =>
    intro seen _
    exact checkProducers_improper hx himproper after seen
  | cons y before ih =>
    intro seen h
    simp only [drafts, List.map_cons, checkProducers, bind_eq_ok_iff] at h
    obtain ⟨⟨⟩, hpass, inputs, hinputs, seen', hseen, h⟩ := h
    simp only [List.cons_append, drafts, List.map_cons, checkProducers, hpass, hinputs]
    exact (congrArg (· >>= _) hseen).trans (ih h)

theorem checkProducers_decides {us : Entries BuildUnit} (hmade : ∀ x ∈ us, x.2.Made) :
    Decides (checkProducers (drafts us) []) (Fit us) () fun t =>
      t.IsRefusal ∧ ¬ MeetsImproper us ∨ t = improperName ∧ MeetsImproper us := by
  have hiff := checkProducers_drafts_eq_ok_iff hmade
  refine ⟨hiff.mpr, fun hnot => ?_⟩
  by_cases hmeets : MeetsImproper us
  · obtain ⟨before, x, after, rfl, hfit, himproper⟩ := id hmeets
    have hbefore : ∀ y ∈ before, y.2.Made := fun y hy => hmade y (by simp [hy])
    have hok := (checkProducers_drafts_eq_ok_iff hbefore).mpr hfit
    exact ⟨_, checkProducers_meets (hmade x (by simp)) himproper hok, .inr ⟨rfl, hmeets⟩⟩
  · cases hcheck : checkProducers (drafts us) [] with
    | ok => exact absurd (hiff.mp hcheck) hnot
    | error t =>
      have hunits : ∀ u ∈ us.map (·.2), u.Made := List.forall_mem_map.mpr hmade
      have hnothing : Stems (us.map (·.2)) [] := fun _ _ h => nomatch h
      rcases checkProducers_error (fun x hx => List.mem_map_of_mem hx) hunits hnothing hcheck with
        hrefusal | ⟨-, before, x, after, rfl, hok, himproper⟩
      · exact ⟨t, rfl, .inl ⟨hrefusal, hmeets⟩⟩
      · have hbefore : ∀ y ∈ before, y.2.Made := fun y hy => hmade y (by simp [hy])
        have hfit := (checkProducers_drafts_eq_ok_iff hbefore).mp hok
        exact absurd ⟨before, x, after, rfl, hfit, himproper⟩ hmeets

/-! ## References -/

theorem checkReferences_error {declared : List String} {t : Trouble} : ∀ {us : Entries BuildUnit},
    checkReferences declared (drafts us) = .error t →
      ∃ missing name, t = .fault (.unknownUnit (.text missing) declared (some name))
  | [], h => by cases h
  | (name, u) :: us, h => by
    simp only [drafts, List.map_cons, checkReferences, pass, BuildUnit.referencesTrouble_draft,
      bind, Except.bind] at h
    split at h
    · cases h
      exact ⟨_, _, rfl⟩
    · exact checkReferences_error h

/-- Every unit that a customizer refers to is among the declared names. -/
def Refers (declared : List String) (us : Entries BuildUnit) : Prop :=
  ∀ x ∈ us, ∀ c ∈ x.2.customizers, ∀ r ∈ c.references, r ∈ declared

theorem checkReferences_decides (declared : List String) (us : Entries BuildUnit) :
    Decides (checkReferences declared (drafts us)) (Refers declared us) ()
      fun t => ∃ f, t = .fault f ∧ f.kind = "UnknownUnitError" := by
  have hiff : checkReferences declared (drafts us) = .ok () ↔ Refers declared us := by
    rw [checkReferences_eq_ok_iff, drafts, List.forall_mem_map]
    exact forall₂_congr fun x _ => ⟨fun h => h.2, fun h => ⟨rfl, h⟩⟩
  refine ⟨hiff.mpr, fun hnot => ?_⟩
  cases hcheck : checkReferences declared (drafts us) with
  | ok => exact absurd (hiff.mp hcheck) hnot
  | error t =>
    obtain ⟨missing, name, rfl⟩ := checkReferences_error hcheck
    exact ⟨_, rfl, _, rfl, rfl⟩

/-! ## The verdict -/

/-- Declarations that can be told apart: every name says something and stands for a unit, and no two
units have the same artifact name. -/
structure Declared (ds : Entries Declaration) : Prop where
  named : ∀ x ∈ ds, x.1 ≠ ""
  units : ∀ x ∈ ds, ∃ u, x.2 = .unit u
  artifacts : ((unitsOf ds).map (·.2.name)).Nodup

/-- What declarations have to be, references apart. -/
structure Consistent (ds : Entries Declaration) : Prop where
  declared : Declared ds
  fit : Fit (unitsOf ds)

/-- What is told of declarations that are refused, and the reason for it. The reasons exclude each
other. -/
inductive Blamed (ds : Entries Declaration) : Trouble → Prop
  | unknown {f : Fault} (kind : f.kind = "UnknownUnitError") (consistent : Consistent ds) :
    Blamed ds (.fault f)
  | improper (declared : Declared ds) (meets : MeetsImproper (unitsOf ds)) : Blamed ds improperName
  | inconsistent {f : Fault} (kind : f.kind = "ConfigurationError") (inconsistent : ¬ Consistent ds)
    (unmet : ¬ (Declared ds ∧ MeetsImproper (unitsOf ds))) : Blamed ds (.fault f)

variable {ds : Entries Declaration}

theorem mem_unitsOf {x : String × BuildUnit} : x ∈ unitsOf ds ↔ (x.1, .unit x.2) ∈ ds := by
  simp only [unitsOf, List.mem_filterMap]
  constructor
  · rintro ⟨⟨name, d⟩, hd, h⟩
    cases d with
    | unit u =>
      cases h
      exact hd
    | fields | other => cases h
  · intro h
    exact ⟨(x.1, .unit x.2), h, rfl⟩

theorem names_unitsOf (h : ∀ x ∈ ds, ∃ u, x.2 = .unit u) : (unitsOf ds).names = ds.names := by
  rw [Entries.names, unitsOf, List.map_filterMap, Entries.names, ← List.filterMap_eq_map]
  apply List.filterMap_congr
  rintro ⟨name, d⟩ hx
  obtain ⟨u, hu⟩ := h _ hx
  dsimp only at hu
  rw [hu]
  rfl

theorem drafts_units (us : Entries BuildUnit) :
    ((drafts us).map fun x => (x.1, x.2.unit)) = us := by
  simp [drafts, Function.comp_def]

theorem drafts_untroubled (us : Entries BuildUnit) :
    ((drafts us).findSome? fun x => x.2.artifactTrouble) = none := by
  rw [List.findSome?_eq_none_iff, drafts, List.forall_mem_map]
  exact fun _ _ => rfl

theorem validate_decides (hmade : ∀ x ∈ ds, x.2.Made) :
    Decides (validate ds) (Consistent ds ∧ Refers ds.names (unitsOf ds)) (unitsOf ds)
      (Blamed ds) := by
  have hunits : ∀ x ∈ unitsOf ds, x.2.Made := fun x hx => hmade _ (mem_unitsOf.mp hx)
  -- Where artifact names are not yet known to differ, nothing but a refusal is told.
  have hrefusal : ∀ {P : Prop}, (Declared ds → P) → ∀ t : Trouble, ¬ P → t.IsRefusal →
      Blamed ds t := by
    rintro P hP t hnot ⟨f, rfl, hkind⟩
    exact .inconsistent hkind (fun h => hnot (hP h.declared)) fun h => hnot (hP h.1)
  have hchain : Decides (validate ds)
      ((∀ x ∈ ds, x.1 ≠ "" ∧ ∃ u, x.2 = .unit u) ∧ ((unitsOf ds).map (·.2.name)).Nodup ∧
        Fit (unitsOf ds) ∧ Refers ds.names (unitsOf ds)) (unitsOf ds) (Blamed ds) := by
    refine ((checkDeclarations_decides hmade).imp
      (hrefusal fun h x hx => ⟨h.named x hx, h.units x hx⟩)).bind fun hdeclared => ?_
    simp only [drafts_units, drafts_untroubled]
    refine ((checkUnique_decides hunits).imp (hrefusal (·.artifacts))).bind fun hunique => ?_
    have hall : Declared ds :=
      ⟨fun x hx => (hdeclared x hx).1, fun x hx => (hdeclared x hx).2, hunique⟩
    refine ((checkProducers_decides hunits).imp ?_).bind fun hfit => ?_
    · rintro t hnot (⟨⟨f, rfl, hkind⟩, hmeets⟩ | ⟨rfl, hmeets⟩)
      · exact .inconsistent hkind (fun h => hnot h.fit) fun h => hmeets h.2
      · exact .improper hall hmeets
    · rw [names_unitsOf hall.units]
      obtain ⟨hpass, hfail⟩ := checkReferences_decides ds.names (unitsOf ds)
      refine ⟨fun h => by rw [hpass h]; rfl, fun h => ?_⟩
      obtain ⟨t, ht, f, rfl, hkind⟩ := hfail h
      exact ⟨_, by rw [ht]; rfl, .unknown hkind ⟨hall, hfit⟩⟩
  refine ⟨fun h => hchain.pass ?_, fun h => hchain.fail fun hall => h ?_⟩
  · obtain ⟨⟨hdeclared, hfit⟩, hrefers⟩ := h
    exact ⟨fun x hx => ⟨hdeclared.named x hx, hdeclared.units x hx⟩, hdeclared.artifacts, hfit,
      hrefers⟩
  · obtain ⟨hdeclared, hunique, hfit, hrefers⟩ := hall
    exact ⟨⟨⟨fun x hx => (hdeclared x hx).1, fun x hx => (hdeclared x hx).2, hunique⟩, hfit⟩,
      hrefers⟩

/-- What declarations have to be. -/
def Acceptable (ds : Entries Declaration) : Prop :=
  Consistent ds ∧ Refers ds.names (unitsOf ds)

theorem ofDeclarations_of_acceptable (hmade : ∀ x ∈ ds, x.2.Made) (h : Acceptable ds) :
    ∃ c, ofDeclarations ds = .ok c ∧ c.units = unitsOf ds := by
  have hvalid := (validate_decides hmade).pass h
  refine ⟨⟨unitsOf ds, valid_of_validate hvalid⟩, ?_, rfl⟩
  rw [ofDeclarations_eq_ok_iff, ← validate_eq_ok_iff]
  exact hvalid

theorem ofDeclarations_of_not_acceptable (hmade : ∀ x ∈ ds, x.2.Made) (h : ¬ Acceptable ds) :
    ∃ t, ofDeclarations ds = .error t ∧ Blamed ds t := by
  obtain ⟨t, ht, hblamed⟩ := (validate_decides hmade).fail h
  exact ⟨t, ofDeclarations_eq_error_iff.mpr ht, hblamed⟩

theorem acceptable_iff (hmade : ∀ x ∈ ds, x.2.Made) :
    Acceptable ds ↔ ∃ c, ofDeclarations ds = .ok c := by
  constructor
  · intro h
    obtain ⟨c, hc, -⟩ := ofDeclarations_of_acceptable hmade h
    exact ⟨c, hc⟩
  · rintro ⟨c, hc⟩
    by_contra h
    obtain ⟨t, ht, -⟩ := ofDeclarations_of_not_acceptable hmade h
    rw [hc] at ht
    cases ht

/-- What declarations are refused with is told for its reason. -/
theorem blamed_of_ofDeclarations (hmade : ∀ x ∈ ds, x.2.Made) {t : Trouble}
    (h : ofDeclarations ds = .error t) : ¬ Acceptable ds ∧ Blamed ds t := by
  have hnot : ¬ Acceptable ds := fun hgood => by
    obtain ⟨c, hc⟩ := (acceptable_iff hmade).mp hgood
    rw [hc] at h
    cases h
  obtain ⟨t', ht, hblamed⟩ := ofDeclarations_of_not_acceptable hmade hnot
  rw [h] at ht
  cases ht
  exact ⟨hnot, hblamed⟩

/-- What the checks make of declarations. -/
structure Verdict (ds : Entries Declaration) : Prop where
  /-- Consistent declarations that refer to declared units are accepted, and only they. -/
  accepted : Acceptable ds ↔ ∃ c, ofDeclarations ds = .ok c
  units : ∀ c, ofDeclarations ds = .ok c → c.units = unitsOf ds
  /-- An unknown unit is told exactly when only a reference is wrong. -/
  unknown : (∃ f, ofDeclarations ds = .error (.fault f) ∧ f.kind = "UnknownUnitError") ↔
    Consistent ds ∧ ¬ Refers ds.names (unitsOf ds)
  /-- An artifact name with halves of surrogate pairs is told exactly when nothing is wrong up to
  its unit. -/
  improper : ofDeclarations ds = .error improperName ↔
    Declared ds ∧ MeetsImproper (unitsOf ds)
  /-- In every other case it is a fault of the configuration. -/
  refused : ¬ Consistent ds → ¬ (Declared ds ∧ MeetsImproper (unitsOf ds)) →
    ∃ f, ofDeclarations ds = .error (.fault f) ∧ f.kind = "ConfigurationError"
  /-- In any other order they are accepted as well, or refused as well. -/
  reordered : ∀ ds', ds.Perm ds' →
    ((∃ c, ofDeclarations ds = .ok c) ↔ ∃ c, ofDeclarations ds' = .ok c)

/-- **A catalog accepts exactly the consistent declarations**, whatever their order. It tells of an
unknown unit exactly when only a reference is wrong, and of any other fault of the configuration
unless it comes upon an artifact name with halves of surrogate pairs. -/
theorem ofDeclarations_verdict (hmade : ∀ x ∈ ds, x.2.Made) : Verdict ds := by
  refine ⟨acceptable_iff hmade, fun c hc => ?_, ⟨?_, ?_⟩, ⟨?_, ?_⟩, fun hbad hunmet => ?_,
    fun ds' hperm => ⟨?_, ?_⟩⟩
  · obtain ⟨c', hc', hunits⟩ :=
      ofDeclarations_of_acceptable hmade ((acceptable_iff hmade).mpr ⟨c, hc⟩)
    rw [hc] at hc'
    cases hc'
    exact hunits
  · rintro ⟨f, hf, hkind⟩
    obtain ⟨hnot, hblamed⟩ := blamed_of_ofDeclarations hmade hf
    cases hblamed with
    | unknown _ hconsistent => exact ⟨hconsistent, fun hrefers => hnot ⟨hconsistent, hrefers⟩⟩
    | inconsistent hkind' =>
      rw [hkind'] at hkind
      exact absurd hkind (by decide)
  · rintro ⟨hconsistent, hrefers⟩
    obtain ⟨t, ht, hblamed⟩ := ofDeclarations_of_not_acceptable hmade fun h => hrefers h.2
    cases hblamed with
    | unknown hkind => exact ⟨_, ht, hkind⟩
    | improper _ hmeets => exact absurd hconsistent.fit hmeets.not_fit
    | inconsistent _ hnot => exact absurd hconsistent hnot
  · intro h
    cases (blamed_of_ofDeclarations hmade h).2 with
    | improper hdeclared hmeets => exact ⟨hdeclared, hmeets⟩
  · rintro ⟨hdeclared, hmeets⟩
    obtain ⟨t, ht, hblamed⟩ :=
      ofDeclarations_of_not_acceptable hmade fun h => hmeets.not_fit h.1.fit
    cases hblamed with
    | unknown _ hconsistent => exact absurd hconsistent.fit hmeets.not_fit
    | improper => exact ht
    | inconsistent _ _ hunmet => exact absurd ⟨hdeclared, hmeets⟩ hunmet
  · obtain ⟨t, ht, hblamed⟩ := ofDeclarations_of_not_acceptable hmade fun h => hbad h.1
    cases hblamed with
    | unknown _ hconsistent => exact absurd hconsistent hbad
    | improper hdeclared hmeets => exact absurd ⟨hdeclared, hmeets⟩ hunmet
    | inconsistent hkind => exact ⟨_, ht, hkind⟩
  · rintro ⟨c, hc⟩
    obtain ⟨c', hc', -⟩ := ofDeclarations_perm hperm hc
    exact ⟨c', hc'⟩
  · rintro ⟨c, hc⟩
    obtain ⟨c', hc', -⟩ := ofDeclarations_perm hperm.symm hc
    exact ⟨c', hc'⟩

/-- A page that is told where its worker is found, before the worker is declared. -/
def pageAndWorker : Entries Declaration := [
  ("PAGE", .unit ⟨"page.js", .browser, .browserReplMain,
    [Customizer.artifactOf 0 workerScriptDefine "WORKER"], false⟩),
  ("WORKER", .unit ⟨"worker.js", .browser, .browserWorker, [], false⟩)]

theorem made_pageAndWorker : ∀ x ∈ pageAndWorker, x.2.Made := by
  have hpage : isBlankText "page.js" = false := by decide
  have hworker : isBlankText "worker.js" = false := by decide
  simp [pageAndWorker, Declaration.Made, BuildUnit.made_iff, ArtifactName.isBlank,
    ArtifactName.isText, ArtifactName.spelled, hpage, hworker]

theorem ofDeclarations_verdict_pageAndWorker :
    (∀ x ∈ pageAndWorker, x.2.Made) ∧ Verdict pageAndWorker :=
  ⟨made_pageAndWorker, ofDeclarations_verdict made_pageAndWorker⟩

/-- One unit whose artifact name begins with half of a surrogate pair. -/
def halfNamed : Entries Declaration := [
  ("A", .unit ⟨.unpaired [0xD800, 46, 106, 115], .server, .testMain, [], false⟩)]

/-- A builder makes this unit, and nothing is wrong with its declaration but the name; yet what the
catalog ends in is no fault of the configuration. -/
theorem ofDeclarations_halfNamed :
    (∀ x ∈ halfNamed, x.2.Made) ∧ Declared halfNamed ∧ Agree ((unitsOf halfNamed).map (·.2)) ∧
      Refers halfNamed.names (unitsOf halfNamed) ∧
      ofDeclarations halfNamed = .error improperName := by
  have hblank : ArtifactName.isBlank (.unpaired [0xD800, 46, 106, 115]) = false := by decide
  have hmade : ∀ x ∈ halfNamed, x.2.Made := by
    simp [halfNamed, Declaration.Made, BuildUnit.made_iff, ArtifactName.isText, hblank]
  have hrefers : Refers halfNamed.names (unitsOf halfNamed) := by
    simp [Refers, unitsOf, halfNamed, Declaration.unit?]
  refine ⟨hmade, ⟨by decide, ?_, by decide⟩, by decide, hrefers, ?_⟩
  · simp [halfNamed]
  · exact ofDeclarations_eq_error_iff.mpr rfl

end Catalog

end BundleBuild
