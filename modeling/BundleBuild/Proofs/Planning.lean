/-
What a plan that succeeded consists of. The requested units are selected once each, in the order
they were first named, and every job of the plan belongs to exactly one of them: the jobs that carry
a unit's name are that unit's own plan, one for each of its bundles and in their order.
-/
import BundleBuild.Executor
import BundleBuild.Proofs.Sequencing

namespace BundleBuild

theorem Entries.mem_of_get? {α : Type} {k : String} {a : α} : ∀ {es : Entries α},
    es.get? k = some a → (k, a) ∈ es
  | [], h => by cases h
  | (k', a') :: es, h => by
    simp only [Entries.get?] at h
    split at h
    · next hk =>
      simp only [Option.some.injEq] at h
      subst hk h
      exact List.mem_cons_self
    · exact List.mem_cons_of_mem _ (mem_of_get? h)

theorem Entries.mem_names_iff {α : Type} {k : String} : ∀ {es : Entries α},
    k ∈ es.names ↔ ∃ a, es.get? k = some a
  | [] => by simp [Entries.names, Entries.get?]
  | (k', a) :: es => by
    have ih := @mem_names_iff α k es
    simp only [Entries.names, List.map_cons, List.mem_cons, Entries.get?] at ih ⊢
    by_cases hk : k' = k
    · simp [hk]
    · simp only [hk, if_false, Ne.symm hk, false_or, ih]

/-! ## Selecting units -/

namespace Catalog

theorem get_eq_ok_iff {c : Catalog} {name : String} {u : BuildUnit} :
    c.get name = .ok u ↔ c.units.get? name = some u := by
  unfold get
  cases c.units.get? name <;> simp

/-- The units selected so far are followed by those of the remaining names that are not yet among
them. -/
theorem select_go {c : Catalog} : ∀ {requested : List String} {chosen selected : Entries BuildUnit},
    select.go c requested chosen = .ok selected →
      chosen.names.Nodup → (∀ x ∈ chosen, c.units.get? x.1 = some x.2) →
      selected.names = chosen.names ++
          (requested.filter fun name => !chosen.names.contains name).eraseDups ∧
        selected.names.Nodup ∧ ∀ x ∈ selected, c.units.get? x.1 = some x.2
  | [], chosen, selected, h, hnodup, hdeclared => by
    simp only [select.go, Except.ok.injEq] at h
    subst h
    exact ⟨by simp, hnodup, hdeclared⟩
  | name :: requested, chosen, selected, h, hnodup, hdeclared => by
    simp only [select.go] at h
    split at h
    · next hin =>
      rw [List.filter_cons_of_neg (by rw [hin]; simp)]
      exact select_go h hnodup hdeclared
    · next hout =>
      obtain ⟨u, hu, h⟩ := bind_eq_ok_iff.mp h
      have hnot : name ∉ chosen.names := by simpa using hout
      have hnames : Entries.names (chosen ++ [(name, u)]) = chosen.names ++ [name] := by
        simp [Entries.names]
      obtain ⟨hsel, hn, hd⟩ := select_go h
        (by
          rw [hnames]
          refine List.nodup_append.mpr ⟨hnodup, by simp, ?_⟩
          intro a ha b hb hab
          rw [List.mem_singleton] at hb
          exact hnot (hb ▸ hab ▸ ha))
        (by
          intro x hx
          rcases List.mem_append.mp hx with hx | hx
          · exact hdeclared x hx
          · rw [List.mem_singleton] at hx
            subst hx
            exact get_eq_ok_iff.mp hu)
      refine ⟨?_, hn, hd⟩
      rw [hsel, hnames, List.filter_cons_of_pos (by simp [hnot]), List.eraseDups_cons,
        List.append_assoc, List.singleton_append, List.filter_filter]
      congr 3
      apply List.filter_congr
      intro a _
      by_cases ha : a = name <;> simp [ha]

/-- Selection keeps each requested name once, where it came first, with the unit declared under
it. -/
theorem select_eq_ok {c : Catalog} {requested : List String} {selected : Entries BuildUnit}
    (h : c.select requested = .ok selected) :
    selected.names = requested.eraseDups ∧ selected.names.Nodup ∧
      ∀ x ∈ selected, c.units.get? x.1 = some x.2 := by
  obtain ⟨hnames, hnodup, hdeclared⟩ := select_go h (by simp [Entries.names]) (by simp)
  refine ⟨?_, hnodup, hdeclared⟩
  simpa [Entries.names] using hnames

/-- Units asked for by their names, each once, are what is selected. -/
theorem select_names {c : Catalog} : ∀ {selected chosen : Entries BuildUnit},
    (chosen ++ selected : Entries BuildUnit).names.Nodup →
      (∀ x ∈ selected, c.units.get? x.1 = some x.2) →
      select.go c selected.names chosen = .ok (chosen ++ selected)
  | [], chosen, _, _ => by simp [select.go, Entries.names]
  | x :: selected, chosen, hnodup, hdeclared => by
    obtain ⟨hx, hrest⟩ := List.forall_mem_cons.mp hdeclared
    have hnew : chosen.names.contains x.1 = false := by
      simp only [Entries.names, List.map_append, List.map_cons] at hnodup
      simp only [List.contains_eq_mem, decide_eq_false_iff_not]
      intro hin
      exact (List.nodup_append.mp hnodup).2.2 x.1 hin x.1 List.mem_cons_self rfl
    rw [List.append_cons] at hnodup ⊢
    have hcons : Entries.names (x :: selected) = x.1 :: Entries.names selected := rfl
    rw [hcons, select.go, hnew]
    simp only [get_eq_ok_iff.mpr hx, bind, Except.bind]
    exact select_names hnodup hrest

end Catalog

/-! ## Planning jobs -/

namespace Executor

/-- A unit's plan has one job for each of its bundles, with the options settled for it. -/
theorem planUnit_eq_ok_iff {e : Executor} {name : String} {u : BuildUnit} {jobs : List Job} :
    e.planUnit name u = .ok jobs ↔
      List.Forall₂ (fun i j => ∃ o, e.catalog.optionsFor u i = .ok o ∧
        (⟨name, u.platform, i, o⟩ : Job) = j) u.inputs jobs := by
  simp only [planUnit, mapM_eq_ok_iff, bind_eq_ok_iff, pure_eq_ok_iff]

theorem inputs_of_planUnit {e : Executor} {name : String} {u : BuildUnit} {jobs : List Job}
    (h : e.planUnit name u = .ok jobs) : jobs.map (·.input) = u.inputs := by
  have hplan := planUnit_eq_ok_iff.mp h
  clear h
  generalize u.inputs = inputs at hplan ⊢
  induction hplan with
  | nil => rfl
  | cons hj _ ih =>
    obtain ⟨o, -, rfl⟩ := hj
    simp [ih]

theorem mem_planUnit {e : Executor} {name : String} {u : BuildUnit} {jobs : List Job}
    (h : e.planUnit name u = .ok jobs) {j : Job} (hj : j ∈ jobs) :
    j.unit = name ∧ j.platform = u.platform ∧ j.input ∈ u.inputs ∧
      e.catalog.optionsFor u j.input = .ok j.options := by
  have hplan := planUnit_eq_ok_iff.mp h
  clear h
  generalize u.inputs = inputs at hplan ⊢
  induction hplan with
  | nil => cases hj
  | cons hjob _ ih =>
    rcases List.mem_cons.mp hj with rfl | hj
    · obtain ⟨o, ho, rfl⟩ := hjob
      exact ⟨rfl, rfl, List.mem_cons_self, ho⟩
    · obtain ⟨hu, hp, hi, ho⟩ := ih hj
      exact ⟨hu, hp, List.mem_cons_of_mem _ hi, ho⟩

/-- The plan of a batch: the units of the requested names and the jobs of each. -/
structure Planned (e : Executor) (requested : List String) (selected : Entries BuildUnit)
    (jobs : List Job) : Prop where
  names : selected.names = requested.eraseDups
  nodup : selected.names.Nodup
  declared : ∀ x ∈ selected, e.catalog.units.get? x.1 = some x.2
  own : ∀ x ∈ selected, e.planUnit x.1 x.2 = .ok (jobs.filter (·.unit = x.1))
  covered : ∀ j ∈ jobs, j.unit ∈ selected.names

theorem plan_own {e : Executor} {selected : Entries BuildUnit} {jobs : List (List Job)}
    (h : List.Forall₂ (fun x js => e.planUnit x.1 x.2 = .ok js) selected jobs)
    (hnodup : selected.names.Nodup) :
    (∀ x ∈ selected, e.planUnit x.1 x.2 = .ok (jobs.flatten.filter (·.unit = x.1))) ∧
      ∀ j ∈ jobs.flatten, j.unit ∈ selected.names := by
  induction h with
  | nil => simp
  | @cons x js selected jss hx hrest ih =>
    simp only [Entries.names, List.map_cons, List.nodup_cons] at hnodup ih ⊢
    obtain ⟨hown, hcovered⟩ := ih hnodup.2
    have hhead : ∀ j ∈ js, j.unit = x.1 := fun j hj => (mem_planUnit hx hj).1
    refine ⟨?_, ?_⟩
    · intro y hy
      rw [List.flatten_cons, List.filter_append]
      rcases List.mem_cons.mp hy with rfl | hy
      · -- The head's own jobs stay, and no job of the others carries its name.
        have hstay : js.filter (·.unit = y.1) = js :=
          List.filter_eq_self.mpr fun j hj => by simp [hhead j hj]
        have hgone : jss.flatten.filter (·.unit = y.1) = [] := by
          refine List.filter_eq_nil_iff.mpr fun j hj hjy => hnodup.1 ?_
          have : j.unit = y.1 := by simpa using hjy
          exact this ▸ hcovered j hj
        rw [hstay, hgone, List.append_nil]
        exact hx
      · have hgone : js.filter (·.unit = y.1) = [] := by
          refine List.filter_eq_nil_iff.mpr fun j hj hjy => hnodup.1 ?_
          have : x.1 = y.1 := (hhead j hj).symm.trans (by simpa using hjy)
          exact this ▸ List.mem_map_of_mem hy
        rw [hgone, List.nil_append]
        exact hown y hy
    · intro j hj
      rw [List.flatten_cons] at hj
      rcases List.mem_append.mp hj with hj | hj
      · rw [hhead j hj]
        exact List.mem_cons_self
      · exact List.mem_cons_of_mem _ (hcovered j hj)

theorem planned_of_prepare {e : Executor} {requested : Option (List String)}
    {selected : Entries BuildUnit} {jobs : List Job}
    (h : e.prepare requested = .ok (selected, jobs)) :
    Planned e (requested.getD e.catalog.names) selected jobs := by
  simp only [prepare, bind_eq_ok_iff, pure_eq_ok_iff, plan, mapM_eq_ok_iff] at h
  obtain ⟨chosen, hselect, planned, ⟨jss, hjss, rfl⟩, heq⟩ := h
  simp only [Prod.mk.injEq] at heq
  obtain ⟨rfl, rfl⟩ := heq
  obtain ⟨hnames, hnodup, hdeclared⟩ := Catalog.select_eq_ok hselect
  obtain ⟨hown, hcovered⟩ := plan_own hjss hnodup
  exact ⟨hnames, hnodup, hdeclared, hown, hcovered⟩

/-- Declared units that can be planned are prepared when they are asked for by their names. -/
theorem prepare_names {e : Executor} {selected : Entries BuildUnit} {jobs : List (List Job)}
    (hnodup : selected.names.Nodup)
    (hdeclared : ∀ x ∈ selected, e.catalog.units.get? x.1 = some x.2)
    (hplans : List.Forall₂ (fun x own => e.planUnit x.1 x.2 = .ok own) selected jobs) :
    e.prepare (some selected.names) = .ok (selected, jobs.flatten) := by
  have hselect : e.catalog.select selected.names = .ok selected :=
    Catalog.select_names hnodup hdeclared
  have hplan : e.plan selected = .ok jobs.flatten := by
    rw [plan, mapM_eq_ok_iff.mpr hplans]
    rfl
  simp only [prepare, Option.getD_some, hselect, hplan, bind, Except.bind, pure, Except.pure]

theorem prepare_one {e : Executor} {name : String} {u : BuildUnit} {own : List Job}
    (hu : e.catalog.units.get? name = some u) (hown : e.planUnit name u = .ok own) :
    e.prepare (some [name]) = .ok ([(name, u)], own) := by
  have hdeclared : ∀ x ∈ [(name, u)], e.catalog.units.get? x.1 = some x.2 := by simpa using hu
  have hplans : List.Forall₂ (fun x own => e.planUnit x.1 x.2 = .ok own) [(name, u)] [own] := by
    simpa using hown
  have hplan := prepare_names (by simp [Entries.names]) hdeclared hplans
  rwa [List.flatten_singleton] at hplan

end Executor

end BundleBuild
