/-
A batch is its units built one by one. Jobs are flattened into one list and share a tree that is
listed once, but with a compiler that answers to the request alone neither shows: each job ends as
it would on its own (`outcomeOf`), and the jobs are sorted back to their units by name. So the
results of a batch are those of building each unit alone, whatever else is in the batch and whatever
becomes of it.
-/
import BundleBuild.Proofs.Accounting

namespace BundleBuild

/-- Outcomes that are all values of a function of the job. -/
theorem outcomes_eq_map {ends : Job → JobOutcome} {planned : List Job}
    {outcomes : List (Job × JobOutcome)} (hplan : outcomes.map (·.1) = planned)
    (h : ∀ x ∈ outcomes, x.2 = ends x.1) : outcomes = planned.map fun j => (j, ends j) := by
  rw [← hplan, List.map_map]
  have hvalue : ∀ x ∈ outcomes, x = ((fun j => (j, ends j)) ∘ fun x => x.1) x := by
    intro x hx
    rw [Function.comp_apply, ← h x hx]
  exact (List.map_id outcomes).symm.trans (List.map_congr_left hvalue)

theorem Pool.Settled.outcomes_eq {ends : Job → JobOutcome} {planned : List Job}
    {outcomes : List (Job × JobOutcome)}
    (h : Settled false (fun j o => o = ends j) planned outcomes)
    (hwhole : ∀ j ∈ planned, (ends j).trouble? = none) :
    outcomes = planned.map fun j => (j, ends j) :=
  outcomes_eq_map h.plan (h.all_end (h.whole fun j hj _ ho => ho ▸ hwhole j hj))

namespace Executor

variable {e : Executor} {v : Volume} {s : Session} {selected : Entries BuildUnit} {jobs : List Job}
  {f : CompileRequest → Except Trouble (List UInt8)}

theorem keeps_fresh (hf : e.Answers v f) (t : SourceTree) :
    Keeps e v (fun j o => o = outcomeOf f v t j) (Fresh v t) where
  ends _ j hs := (outcome_runJob hf hs j).1
  session _ j hs := (outcome_runJob hf hs j).2

/-- The result of a unit whose jobs each end on their own. -/
def resultAlone (f : CompileRequest → Except Trouble (List UInt8)) (v : Volume) (t : SourceTree)
    (name : String) (u : BuildUnit) (own : List Job) : UnitResult :=
  resultOf name u (own.map fun j => (j, outcomeOf f v t j))

/-- The compiler's errors can all be recorded. -/
def Recordable (f : CompileRequest → Except Trouble (List UInt8)) : Prop :=
  ∀ r t, f r = .error t → t.Recordable

theorem conclude_alone (hrec : Recordable f) {t : SourceTree} :
    (conclude selected (jobs.map fun j => (j, outcomeOf f v t j))).result =
      .ok ⟨selected.map fun x => resultAlone f v t x.1 x.2 (jobs.filter (·.unit = x.1))⟩ := by
  rw [conclude_eq]
  · simp only [resultAlone, List.filter_map, Function.comp_def]
  · intro x hx
    obtain ⟨j, -, rfl⟩ := List.mem_map.mp hx
    exact whole_outcomeOf hrec v t j

theorem executeMany_alone {requested : Option (List String)} (hf : e.Answers v f)
    (hrec : Recordable f) (hslow : e.failFast = false) (hpool : e.poolTrouble? = none)
    (hplan : e.prepare requested = .ok (selected, jobs)) :
    (e.executeMany v s requested).1.result =
      .ok ⟨selected.map fun x => resultAlone f v s.tree x.1 x.2 (jobs.filter (·.unit = x.1))⟩ := by
  have hset := settled_runJobs (keeps_fresh hf s.tree) (.inl rfl) jobs
  rw [hslow] at hset
  rw [result_executeMany hplan hpool, hset.outcomes_eq fun j _ => whole_outcomeOf hrec v s.tree j]
  exact conclude_alone hrec

/-- A compiler that refuses test bundles. -/
def testless (r : CompileRequest) : Except Trouble (List UInt8) :=
  if r.entrySymbol = EntryPoint.testMain.symbol then .error (.raised "ValueError" "no tests")
  else .ok [7]

/-- The three units with this compiler, patient where one fails. -/
def patientCrew : Executor :=
  { crew with
    compile := fun _ _ r => ⟨[], (testless r).map .bytes⟩
    failFast := false }

/-- A session on a tree that keeps a listing. -/
def listedSession : Session :=
  ⟨⟨Path.relative ["tree"], .standard, some [Path.relative ["lib", "a.js"]]⟩, []⟩

end Executor

end BundleBuild
