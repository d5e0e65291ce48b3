/-
What a batch says about its jobs, however the workers came to their turns. Every requested unit has
one result, every bundle of it is an output, a failure or skipped, and a batch that did not succeed
has a failure to show for it: what was skipped was skipped because something failed. So there is no
batch that failed without failures.
-/
import BundleBuild.Proofs.Pool

namespace BundleBuild

/-- A batch that accounts for the requested units and all their bundles. -/
structure AccountedBatch (e : Executor) (requested : List String) (b : Batch) : Prop where
  units : b.results.map (·.unit) = requested.eraseDups
  results : ∀ r ∈ b.results, ∃ u, e.catalog.get r.unit = .ok u ∧ Accounted u r
  unskipped : e.failFast = false → ∀ r ∈ b.results, r.skipped = []
  skipped : (∃ r ∈ b.results, r.skipped ≠ []) → b.failures ≠ []
  failed : b.succeeded = false ↔ b.failures ≠ []

/-- Where jobs end with a record, each was skipped or has one. -/
theorem Pool.Settled.recorded {failFast : Bool} {planned : List Job}
    {outcomes : List (Job × JobOutcome)} (h : Settled failFast Job.Ends planned outcomes) :
    ∀ x ∈ outcomes, x.1.Recorded x.2 := by
  have hwhole := h.whole fun _ _ _ hends => Job.Recorded.whole (.inr hends)
  exact fun x hx => (h.uncancelled hwhole x hx).imp_left And.left

namespace UnitResult

theorem succeeded_iff {r : UnitResult} : r.succeeded = true ↔ r.outputs.length = r.inputCount := by
  unfold succeeded status
  split
  · next h => simp [h]
  · next h =>
    split <;> simp [h]

end UnitResult

/-- A result that accounts for its bundles fell short of success exactly when something failed or
was skipped. -/
theorem Accounted.succeeded_eq_false_iff {u : BuildUnit} {r : UnitResult} (h : Accounted u r) :
    r.succeeded = false ↔ r.failures ≠ [] ∨ r.skipped ≠ [] := by
  have hcount := h.count
  rw [Bool.eq_false_iff, ne_eq, UnitResult.succeeded_iff, ← List.length_pos_iff,
    ← List.length_pos_iff]
  omega

theorem Batch.failures_ne_nil_iff {b : Batch} :
    b.failures ≠ [] ↔ ∃ r ∈ b.results, r.failures ≠ [] := by
  simp [Batch.failures]

theorem Batch.succeeded_eq_false_iff {b : Batch} :
    b.succeeded = false ↔ ∃ r ∈ b.results, r.succeeded = false := by
  simp [Batch.succeeded]

namespace Executor

variable {e : Executor} {requested : List String} {selected : Entries BuildUnit}
  {jobs : List Job} {outcomes : List (Job × JobOutcome)}

/-- The outcomes that carry a unit's name are those of the unit's own plan. -/
theorem own_outcomes (hplan : Planned e requested selected jobs)
    (hjobs : outcomes.map (·.1) = jobs) {x : String × BuildUnit} (hx : x ∈ selected) :
    e.planUnit x.1 x.2 = .ok ((outcomes.filter (·.1.unit = x.1)).map (·.1)) := by
  have hown := hplan.own x hx
  rw [← hjobs, List.filter_map] at hown
  exact hown

theorem accounted_own (hplan : Planned e requested selected jobs)
    (hjobs : outcomes.map (·.1) = jobs) (hrec : ∀ x ∈ outcomes, x.1.Recorded x.2)
    {x : String × BuildUnit} (hx : x ∈ selected) :
    Accounted x.2 (resultOf x.1 x.2 (outcomes.filter (·.1.unit = x.1))) := by
  have hinputs := inputs_of_planUnit (own_outcomes hplan hjobs hx)
  rw [List.map_map] at hinputs
  refine accounted_resultOf hinputs ?_ ?_
  · intro y hy
    simpa using (List.mem_filter.mp hy).2
  · intro y hy
    exact hrec y (List.mem_filter.mp hy).1

/-- A failure recorded anywhere is a failure of the batch, since every job has its unit. -/
theorem failures_ne_nil (hplan : Planned e requested selected jobs)
    (hjobs : outcomes.map (·.1) = jobs) (h : ∃ y ∈ outcomes, y.2.isFailure = true) :
    (Batch.mk (selected.map fun x =>
      resultOf x.1 x.2 (outcomes.filter (·.1.unit = x.1)))).failures ≠ [] := by
  obtain ⟨⟨j, o⟩, hy, ho⟩ := h
  cases o with
  | built | skipped | broken | cancelled => cases ho
  | failed f =>
    have hj : j ∈ jobs := hjobs ▸ List.mem_map_of_mem hy
    obtain ⟨x, hx, hxj⟩ := List.mem_map.mp (hplan.covered j hj)
    have hf : f ∈ (resultOf x.1 x.2 (outcomes.filter (·.1.unit = x.1))).failures := by
      refine List.mem_filterMap.mpr ⟨(j, .failed f), List.mem_filter.mpr ⟨hy, ?_⟩, rfl⟩
      simp [hxj]
    exact Batch.failures_ne_nil_iff.mpr ⟨_, List.mem_map_of_mem hx, List.ne_nil_of_mem hf⟩

/-- What was skipped was skipped after a failure. -/
theorem failure_of_skipped {failFast : Bool} (hset : Pool.Settled failFast Job.Ends jobs outcomes)
    {x : String × BuildUnit}
    (hskipped : (resultOf x.1 x.2 (outcomes.filter (·.1.unit = x.1))).skipped ≠ []) :
    failFast = true ∧ ∃ y ∈ outcomes, y.2.isFailure = true := by
  have hwhole : ∀ x ∈ outcomes, x.2.trouble? = none := fun x hx => (hset.recorded x hx).whole
  obtain ⟨artifact, hartifact⟩ := List.exists_mem_of_ne_nil _ hskipped
  obtain ⟨⟨j, o⟩, hy, hj⟩ := List.mem_filterMap.mp hartifact
  cases o with
  | built | failed | broken | cancelled => cases hj
  | skipped =>
    rcases hset.uncancelled hwhole _ (List.mem_filter.mp hy).1 with ⟨-, hstop⟩ | hends
    · exact hstop
    · cases hends

/-- Outcomes that settle a plan give a batch that accounts for it. -/
theorem conclude_accounted (hplan : Planned e requested selected jobs)
    (hset : Pool.Settled e.failFast Job.Ends jobs outcomes) :
    ∃ b, (conclude selected outcomes).result = .ok b ∧ AccountedBatch e requested b := by
  have hjobs := hset.plan
  have hrec := hset.recorded
  let result (x : String × BuildUnit) : UnitResult :=
    resultOf x.1 x.2 (outcomes.filter (·.1.unit = x.1))
  let b : Batch := ⟨selected.map result⟩
  have hacc : ∀ x ∈ selected, Accounted x.2 (result x) := fun x hx =>
    accounted_own hplan hjobs hrec hx
  have hfailure : (∃ y ∈ outcomes, y.2.isFailure = true) → b.failures ≠ [] :=
    failures_ne_nil hplan hjobs
  refine ⟨b, conclude_eq fun x hx => (hrec x hx).whole, ⟨?_, ?_, ?_, ?_, ?_⟩⟩
  · rw [← hplan.names]
    simp [b, result, resultOf, Entries.names]
  · intro r hr
    obtain ⟨x, hx, rfl⟩ := List.mem_map.mp hr
    exact ⟨x.2, Catalog.get_eq_ok_iff.mpr (hplan.declared x hx), hacc x hx⟩
  · intro hff r hr
    obtain ⟨x, hx, rfl⟩ := List.mem_map.mp hr
    by_contra hne
    have hon := (failure_of_skipped hset hne).1
    rw [hff] at hon
    cases hon
  · rintro ⟨r, hr, hne⟩
    obtain ⟨x, hx, rfl⟩ := List.mem_map.mp hr
    exact hfailure (failure_of_skipped hset hne).2
  · rw [Batch.succeeded_eq_false_iff]
    constructor
    · rintro ⟨r, hr, hfalse⟩
      obtain ⟨x, hx, rfl⟩ := List.mem_map.mp hr
      rcases (hacc x hx).succeeded_eq_false_iff.mp hfalse with hf | hs
      · exact Batch.failures_ne_nil_iff.mpr ⟨_, hr, hf⟩
      · exact hfailure (failure_of_skipped hset hs).2
    · intro hne
      obtain ⟨r, hr, hf⟩ := Batch.failures_ne_nil_iff.mp hne
      obtain ⟨x, hx, rfl⟩ := List.mem_map.mp hr
      exact ⟨_, hr, (hacc x hx).succeeded_eq_false_iff.mpr (.inl hf)⟩

theorem result_executeMany {v : Volume} {s : Session} {requested : Option (List String)}
    (hplan : e.prepare requested = .ok (selected, jobs)) (hpool : e.poolTrouble? = none) :
    (e.executeMany v s requested).1.result =
      (conclude selected (e.runJobs v { session := s } jobs).2.1).result := by
  simp [executeMany, hplan, hpool]

theorem executeMany_eq_ok {b : Batch} {v : Volume} {s : Session} {requested : Option (List String)}
    (h : (e.executeMany v s requested).1.result = .ok b) :
    ∃ selected jobs, e.prepare requested = .ok (selected, jobs) ∧ e.poolTrouble? = none ∧
      (conclude selected (e.runJobs v { session := s } jobs).2.1).result = .ok b := by
  cases hplan : e.prepare requested with
  | error trouble => simp [executeMany, hplan, Logged.raise] at h
  | ok prepared =>
    obtain ⟨selected, jobs⟩ := prepared
    cases hpool : e.poolTrouble? with
    | some trouble => simp [executeMany, hplan, hpool] at h
    | none => exact ⟨selected, jobs, rfl, rfl, result_executeMany hplan hpool ▸ h⟩

/-- Where there is a batch, no job broke it, and each that was not skipped has a record. -/
theorem executeMany_recorded {b : Batch} {v : Volume} {s : Session}
    {requested : Option (List String)} (h : (e.executeMany v s requested).1.result = .ok b) :
    ∃ selected jobs, e.prepare requested = .ok (selected, jobs) ∧ e.poolTrouble? = none ∧
      Pool.Settled e.failFast Job.Ends jobs (e.runJobs v { session := s } jobs).2.1 ∧
      (conclude selected (e.runJobs v { session := s } jobs).2.1).result = .ok b := by
  obtain ⟨selected, jobs, hplan, hpool, hb⟩ := executeMany_eq_ok h
  have hkeeps : Keeps e v (fun j o => ∃ count result, o = j.ended count result) fun _ => True :=
    ⟨fun s j _ => runJob_ended e v s j, fun _ _ _ => trivial⟩
  refine ⟨selected, jobs, hplan, hpool, ?_, hb⟩
  refine (settled_runJobs hkeeps trivial jobs).mono_of_whole (whole_of_conclude hb) ?_
  rintro j _ ⟨count, result, rfl⟩ hwhole
  exact ends_ended hwhole

/-- **Exact accounting.** Workers of any number, taking their turns in any order until none can go
on, end every planned job, and what is collected from them accounts for the batch: one result for
each requested unit where it was first named, every bundle of it in exactly one of outputs, failures
and skipped, nothing skipped unless the batch fails fast and something failed, and success exactly
when nothing failed. The compiler may answer as it likes, with bytes or with any error. -/
theorem interleaved_batch_accounted {requested : Option (List String)}
    (hplan : e.prepare requested = .ok (selected, jobs)) {workers : Nat} (hworkers : 0 < workers)
    {p : Pool} (hrun : Pool.Run e.failFast workers Job.Ends (Pool.opened jobs) p)
    (hstuck : ∀ q, ¬ Pool.Step e.failFast workers Job.Ends p q) :
    p.outcomes.map (·.1) = jobs ∧
      ∃ b, (conclude selected p.outcomes).result = .ok b ∧
        AccountedBatch e (requested.getD e.catalog.names) b := by
  have hset := Pool.settled_of_run hworkers (fun j => ⟨_, .failed 0 .emptyPool⟩) hrun hstuck
  exact ⟨hset.plan, conclude_accounted (planned_of_prepare hplan) hset⟩

/-- Three units for two workers that fail fast. -/
def crew : Executor where
  catalog := ⟨[
    ("A", ⟨"a.js", .server, .testMain, [], false⟩),
    ("B", ⟨"b.js", .mobile, .mobileMain, [], false⟩),
    ("C", ⟨"c.js", .embedded, .embeddedMain, [], false⟩)], by decide⟩
  compile _ _ _ := ⟨[], .ok (.bytes [])⟩
  workers := .ofInt 2
  failFast := true

/-- The job of one of these units. -/
def crewJob (unit artifact : String) (p : Platform) (entry : EntryPoint) : Job :=
  ⟨unit, p, ⟨artifact, entry.symbol⟩, .ofPlatform p entry.symbol⟩

def crewA : Job := crewJob "A" "a.js" .server .testMain
def crewB : Job := crewJob "B" "b.js" .mobile .mobileMain
def crewC : Job := crewJob "C" "c.js" .embedded .embeddedMain

/-- The first job fails while the second is running, the third is skipped, the second is built. -/
def crewEnd : Pool where
  jobs := [
    (crewC, .ended (.failed (crewC.failure 3 .emptyCommand))),
    (crewA, .ended (.built (crewA.output 3 [7]))),
    (crewB, .ended .skipped)]
  stopped := true

theorem prepare_crew : crew.prepare (some ["C", "A", "C", "B"]) =
    .ok (["C", "A", "B"].filterMap fun name => (crew.catalog.units.get? name).map (name, ·),
      [crewC, crewA, crewB]) := by
  rfl

theorem run_crewEnd :
    Pool.Run true 2 Job.Ends (Pool.opened [crewC, crewA, crewB]) crewEnd := by
  refine .head (.start [] (by decide)) (.head (.start [_] (by decide)) ?_)
  refine .head (.finish [] (.failed 3 .emptyCommand)) (.head (.skip [_, _] (by decide)) ?_)
  exact .single (.finish [_] (.built 3 [7]))

theorem interleaved_crew_accounted :
    crewEnd.outcomes.map (·.1) = [crewC, crewA, crewB] ∧
      ∃ b, (conclude (["C", "A", "B"].filterMap fun name =>
            (crew.catalog.units.get? name).map (name, ·)) crewEnd.outcomes).result = .ok b ∧
        AccountedBatch crew ["C", "A", "C", "B"] b :=
  interleaved_batch_accounted prepare_crew (by decide) run_crewEnd
    (Pool.stuck_of_ended (by simp [crewEnd]))

end Executor

end BundleBuild
