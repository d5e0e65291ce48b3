/-
How the outcomes of jobs become results. A unit's result is made of the outcomes of its own jobs
alone (`conclude_eq`), and it accounts for each of the unit's bundles exactly once: every bundle is
an output, a failure or skipped, in the order the unit lists them (`accounted_resultOf`). Both need
no more than that the jobs are the unit's plan and that each ended in a way a job can end.
-/
import Mathlib.Data.List.Nodup
import BundleBuild.Proofs.Planning

namespace BundleBuild

/-! ## Ways to end -/

/-- How a job that was started may end with a record: with the bytes the compiler gave, or in an
error of any kind. -/
inductive Job.Ends (j : Job) : JobOutcome → Prop
  | built (count : Nat) (content : List UInt8) : j.Ends (.built (j.output count content))
  | failed (count : Nat) (t : Trouble) : j.Ends (.failed (j.failure count t))

/-- An outcome recorded for a job: it was skipped, or started and ended. -/
def Job.Recorded (j : Job) (o : JobOutcome) : Prop :=
  o = .skipped ∨ j.Ends o

/-- The output of an outcome, if it is one. -/
def JobOutcome.output? : JobOutcome → Option Output
  | .built o => some o
  | _ => none

def JobOutcome.failure? : JobOutcome → Option Failure
  | .failed f => some f
  | _ => none

/-- The artifact of a skipped job. -/
def Job.skipped? (j : Job) : JobOutcome → Option String
  | .skipped => some j.input.artifact
  | _ => none

/-! ## Results by unit -/

/-- The result of a unit from the outcomes of its own jobs. -/
def resultOf (name : String) (u : BuildUnit) (own : List (Job × JobOutcome)) : UnitResult where
  unit := name
  inputCount := u.inputs.length
  outputs := own.filterMap fun x => x.2.output?
  failures := own.filterMap fun x => x.2.failure?
  skipped := own.filterMap fun x => x.1.skipped? x.2

theorem collect_eq (name : String) (u : BuildUnit) (outcomes : List (Job × JobOutcome)) :
    Executor.collect name u outcomes = resultOf name u (outcomes.filter (·.1.unit = name)) := by
  simp only [Executor.collect, resultOf, List.filterMap_filter, UnitResult.mk.injEq, true_and]
  refine ⟨?_, ?_, ?_⟩
  all_goals
    apply List.filterMap_congr
    rintro ⟨j, o⟩ _
    by_cases hj : j.unit = name <;> cases o <;>
      simp [hj, JobOutcome.output?, JobOutcome.failure?, Job.skipped?]

/-- Where no job broke the batch, each selected unit gets the result of its own jobs. -/
theorem conclude_eq {selected : Entries BuildUnit} {outcomes : List (Job × JobOutcome)}
    (h : ∀ x ∈ outcomes, x.2.trouble? = none) :
    (Executor.conclude selected outcomes).result =
      .ok ⟨selected.map fun x => resultOf x.1 x.2 (outcomes.filter (·.1.unit = x.1))⟩ := by
  have hnone : outcomes.findSome? (·.2.trouble?) = none :=
    List.findSome?_eq_none_iff.mpr h
  simp only [Executor.conclude, hnone, collect_eq]

theorem whole_of_conclude {selected : Entries BuildUnit} {outcomes : List (Job × JobOutcome)}
    {b : Batch} (h : (Executor.conclude selected outcomes).result = .ok b) :
    ∀ x ∈ outcomes, x.2.trouble? = none := by
  unfold Executor.conclude at h
  split at h
  · cases h
  · next hnone => exact List.findSome?_eq_none_iff.mp hnone

theorem Job.Recorded.whole {j : Job} {o : JobOutcome} (h : j.Recorded o) : o.trouble? = none := by
  rcases h with rfl | hends
  · rfl
  · cases hends <;> rfl

/-! ## Accounting for the bundles of a unit -/

/-- What became of a bundle. -/
inductive Fate where
  | output
  | failure
  | skip
  deriving DecidableEq, Repr

/-- What an outcome that is recorded makes of the bundle. -/
def JobOutcome.fate : JobOutcome → Fate
  | .built _ => .output
  | .failed _ => .failure
  | _ => .skip

/-- The bundle an output was compiled for. -/
def Output.input (o : Output) : Input :=
  ⟨o.artifact, o.entrySymbol⟩

/-- The bundle whose compilation failed. -/
def Failure.input (f : Failure) : Input :=
  ⟨f.artifact, f.entrySymbol⟩

/-- Every bundle of the unit is in exactly one of the three lists of its result, which keep the
order of the bundles; their lengths add up, and each output has its own place among the
artifacts. -/
structure Accounted (u : BuildUnit) (r : UnitResult) : Prop where
  fates : ∃ fate : Input → Fate,
    r.outputs.map (·.input) = u.inputs.filter (fate · = .output) ∧
    r.failures.map (·.input) = u.inputs.filter (fate · = .failure) ∧
    r.skipped = (u.inputs.filter (fate · = .skip)).map (·.artifact)
  units : (∀ o ∈ r.outputs, o.unit = r.unit) ∧ ∀ f ∈ r.failures, f.unit = r.unit
  inputs : r.inputCount = u.inputs.length
  count : r.inputCount = r.outputs.length + r.failures.length + r.skipped.length
  artifacts : r.artifacts = r.outputs.map fun o => (o.artifact, o)

namespace Entries

variable {α : Type}

theorem put_new {k : String} {a : α} : ∀ {es : Entries α}, k ∉ es.names →
    es.put k a = es ++ [(k, a)]
  | [], _ => rfl
  | (k', a') :: es, h => by
    simp only [names, List.map_cons, List.mem_cons, not_or] at h
    simp only [put, if_neg (Ne.symm h.1), List.cons_append]
    rw [put_new h.2]

/-- Entries under different names are kept as they come. -/
theorem putAll_new : ∀ {xs : List (String × α)} {es : Entries α},
    (es.names ++ xs.map (·.1)).Nodup → putAll es xs = es ++ xs
  | [], es, _ => by simp [putAll]
  | (k, a) :: xs, es, h => by
    have hk : k ∉ es.names := by
      intro hk
      exact (List.nodup_append.mp h).2.2 k hk k (by simp) rfl
    have hstep : putAll es ((k, a) :: xs) = putAll (es.put k a) xs := rfl
    rw [hstep, put_new hk, putAll_new, List.append_assoc, List.singleton_append]
    simpa [names] using h

end Entries

theorem Platform.nodup_companions (p : Platform) : (p.companions.map (·.artifact)).Nodup := by
  cases p <;> decide

/-- No two bundles of a unit have the same artifact name. -/
theorem BuildUnit.nodup_artifacts (u : BuildUnit) : (u.inputs.map (·.artifact)).Nodup := by
  simp only [BuildUnit.inputs, List.map_cons, List.nodup_cons]
  constructor
  · simp only [List.mem_map, List.mem_filter, Bool.and_eq_true, decide_eq_true_eq, not_exists]
    rintro c ⟨⟨-, -, hne⟩, he⟩
    exact hne he
  · exact u.platform.nodup_companions.sublist (List.filter_sublist.map _)

/-- A list in which nothing is repeated assigns to each of its members the fate beside it. -/
theorem exists_assigned {α : Type} {xs : List (α × Fate)}
    (h : (xs.map (·.1)).Nodup) : ∃ f : α → Fate, ∀ x ∈ xs, f x.1 = x.2 := by
  classical
  induction xs with
  | nil => exact ⟨fun _ => .skip, by simp⟩
  | cons x xs ih =>
    simp only [List.map_cons, List.nodup_cons] at h
    obtain ⟨f, hf⟩ := ih h.2
    refine ⟨fun a => if a = x.1 then x.2 else f a, ?_⟩
    intro y hy
    rcases List.mem_cons.mp hy with rfl | hy
    · simp
    · have hne : y.1 ≠ x.1 := fun he => h.1 (he ▸ List.mem_map_of_mem hy)
      simp [hne, hf y hy]

namespace Job

variable {j : Job} {o : JobOutcome}

theorem Recorded.input_output? (h : j.Recorded o) :
    o.output?.map (·.input) = if o.fate = .output then some j.input else none := by
  rcases h with rfl | hends
  · rfl
  · cases hends <;> simp [JobOutcome.output?, JobOutcome.fate, Output.input, output]

theorem Recorded.input_eq {out : Output} (h : j.Recorded o) (hout : o.output? = some out) :
    out.input = j.input := by
  have hinput := h.input_output?
  rw [hout] at hinput
  split at hinput
  · exact Option.some.inj hinput
  · cases hinput

theorem Recorded.input_failure? (h : j.Recorded o) :
    o.failure?.map (·.input) = if o.fate = .failure then some j.input else none := by
  rcases h with rfl | hends
  · rfl
  · cases hends <;> simp [JobOutcome.failure?, JobOutcome.fate, Failure.input, failure]

theorem Recorded.skipped?_eq (h : j.Recorded o) :
    j.skipped? o = if o.fate = .skip then some j.input.artifact else none := by
  rcases h with rfl | hends
  · rfl
  · cases hends <;> simp [skipped?, JobOutcome.fate]

theorem Recorded.unit_output? {out : Output} (h : j.Recorded o) (hout : o.output? = some out) :
    out.unit = j.unit := by
  rcases h with rfl | hends
  · cases hout
  · cases hends with
    | built count content =>
      cases hout
      rfl
    | failed count t => cases hout

theorem Recorded.unit_failure? {f : Failure} (h : j.Recorded o) (hf : o.failure? = some f) :
    f.unit = j.unit := by
  rcases h with rfl | hends
  · cases hf
  · cases hends with
    | built count content => cases hf
    | failed count t =>
      cases hf
      rfl

end Job

/-- The bundles of one fate, out of the outcomes and out of the bundles themselves. -/
theorem filterMap_fate {β : Type} {own : List (Job × JobOutcome)} {fate : Input → Fate}
    (hfate : ∀ x ∈ own, fate x.1.input = x.2.fate) (k : Fate) (g : Job × JobOutcome → Option β)
    (tell : Input → β)
    (hg : ∀ x ∈ own, g x = if x.2.fate = k then some (tell x.1.input) else none) :
    own.filterMap g = ((own.map (·.1.input)).filter (fate · = k)).map tell := by
  induction own with
  | nil => rfl
  | cons x own ih =>
    have hrest := ih (fun y hy => hfate y (List.mem_cons_of_mem _ hy))
      fun y hy => hg y (List.mem_cons_of_mem _ hy)
    have hx := hg x List.mem_cons_self
    by_cases hk : x.2.fate = k
    · rw [List.filterMap_cons, hx, if_pos hk, List.map_cons, List.filter_cons_of_pos,
        List.map_cons, hrest]
      simp [hfate x List.mem_cons_self, hk]
    · rw [List.filterMap_cons, hx, if_neg hk, List.map_cons, List.filter_cons_of_neg, hrest]
      simp [hfate x List.mem_cons_self, hk]

theorem length_fates (fate : Input → Fate) (inputs : List Input) :
    inputs.length = (inputs.filter (fate · = .output)).length +
      (inputs.filter (fate · = .failure)).length + (inputs.filter (fate · = .skip)).length := by
  induction inputs with
  | nil => rfl
  | cons i inputs ih =>
    cases hi : fate i <;> simp [hi] <;> omega

/-- A unit's plan, each job with its outcome, gives a result that accounts for every bundle. -/
theorem accounted_resultOf {name : String} {u : BuildUnit} {own : List (Job × JobOutcome)}
    (hinputs : own.map (·.1.input) = u.inputs) (hname : ∀ x ∈ own, x.1.unit = name)
    (hrec : ∀ x ∈ own, x.1.Recorded x.2) : Accounted u (resultOf name u own) := by
  have hnodup : ((own.map fun x => (x.1.input, x.2.fate)).map (·.1)).Nodup := by
    have hartifacts : ((own.map (·.1.input)).map (·.artifact)).Nodup :=
      hinputs ▸ u.nodup_artifacts
    rw [List.map_map]
    exact List.Nodup.of_map _ hartifacts
  obtain ⟨fate, hassigned⟩ := exists_assigned hnodup
  have hfate : ∀ x ∈ own, fate x.1.input = x.2.fate := fun x hx =>
    hassigned (x.1.input, x.2.fate) (List.mem_map_of_mem hx)
  -- The three lists, each as the bundles of one fate.
  have houtputs : (resultOf name u own).outputs.map (·.input) =
      u.inputs.filter (fate · = .output) := by
    rw [← hinputs, resultOf, List.map_filterMap,
      filterMap_fate hfate .output _ id fun x hx => (hrec x hx).input_output?, List.map_id]
  have hfailures : (resultOf name u own).failures.map (·.input) =
      u.inputs.filter (fate · = .failure) := by
    rw [← hinputs, resultOf, List.map_filterMap,
      filterMap_fate hfate .failure _ id fun x hx => (hrec x hx).input_failure?, List.map_id]
  have hskipped : (resultOf name u own).skipped =
      (u.inputs.filter (fate · = .skip)).map (·.artifact) := by
    rw [← hinputs]
    exact filterMap_fate hfate .skip _ _ fun x hx => (hrec x hx).skipped?_eq
  refine ⟨⟨fate, houtputs, hfailures, hskipped⟩, ⟨?_, ?_⟩, rfl, ?_, ?_⟩
  · intro o ho
    obtain ⟨x, hx, hxo⟩ := List.mem_filterMap.mp ho
    exact ((hrec x hx).unit_output? hxo).trans (hname x hx)
  · intro f hf
    obtain ⟨x, hx, hxf⟩ := List.mem_filterMap.mp hf
    exact ((hrec x hx).unit_failure? hxf).trans (hname x hx)
  · have hlo := congrArg List.length houtputs
    have hlf := congrArg List.length hfailures
    have hls := congrArg List.length hskipped
    simp only [List.length_map] at hlo hlf hls
    rw [hlo, hlf, hls]
    exact length_fates fate u.inputs
  · have hmap := congrArg (List.map (·.artifact)) houtputs
    rw [List.map_map] at hmap
    have hkeys : ((resultOf name u own).outputs.map fun o => o.artifact).Nodup := by
      have hsub : ((u.inputs.filter (fate · = .output)).map (·.artifact)).Nodup :=
        u.nodup_artifacts.sublist (List.filter_sublist.map _)
      rw [← hmap] at hsub
      exact hsub
    rw [UnitResult.artifacts, Entries.ofList, Entries.putAll_new]
    · rfl
    · simpa [Entries.names, List.map_map, Function.comp_def] using hkeys

end BundleBuild
