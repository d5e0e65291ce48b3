/-
Stopping at the first failure. A batch that fails fast with one worker is the patient batch cut off:
its jobs end as they do there, up to the first one that fails, and the others are skipped
(`outcomes_hasty`). What is collected keeps the order of the jobs (`regrouped`), so the outputs are
the first of those that the patient batch has, and there is one failure at most.

For workers side by side a compiler has to answer alike whenever it is asked. Then the patient
batch ends in one way, however many workers there are, and a single worker that takes the jobs in
turn cuts it off (`outcomes_in_turn`). What carries the second is that such a worker has some jobs
behind it, at most one at hand and the others untouched (`Along`).
-/
import BundleBuild.Proofs.Alone
import BundleBuild.Proofs.Asking

namespace BundleBuild

open Relation (ReflTransGen)

/-! ## Cutting off -/

/-- How many jobs are started when nothing is after the first failure. -/
def stopsAfter (os : List (Job × JobOutcome)) : Nat :=
  os.findIdx (·.2.isFailure) + 1

/-- The outcomes up to the first failure, and all that comes later skipped. -/
def cutOff (os : List (Job × JobOutcome)) : List (Job × JobOutcome) :=
  os.take (stopsAfter os) ++ (os.drop (stopsAfter os)).map fun x => (x.1, .skipped)

theorem cutOff_cons (x : Job × JobOutcome) (os : List (Job × JobOutcome)) :
    cutOff (x :: os) =
      x :: if x.2.isFailure then os.map fun y => (y.1, .skipped) else cutOff os := by
  cases hx : x.2.isFailure <;> simp [cutOff, stopsAfter, List.findIdx_cons, hx]

/-- One more job is skipped when one before it failed, and ends by itself otherwise. -/
theorem cutOff_concat (x : Job × JobOutcome) : ∀ os : List (Job × JobOutcome),
    cutOff (os ++ [x]) =
      cutOff os ++ [if os.any (·.2.isFailure) then (x.1, .skipped) else x]
  | [] => by
    rw [List.nil_append, cutOff_cons]
    cases x.2.isFailure <;> rfl
  | y :: os => by
    rw [List.cons_append, cutOff_cons, cutOff_cons, cutOff_concat x os, List.any_cons]
    cases y.2.isFailure with
    | false => rfl
    | true => simp

/-- Where nothing fails nothing is cut off. -/
theorem cutOff_eq_self : ∀ {os : List (Job × JobOutcome)}, (∀ x ∈ os, x.2.isFailure = false) →
    cutOff os = os
  | [], _ => rfl
  | x :: os, h => by
    obtain ⟨hx, hrest⟩ := List.forall_mem_cons.mp h
    rw [cutOff_cons, hx, cutOff_eq_self hrest]
    rfl

theorem jobs_cutOff (os : List (Job × JobOutcome)) :
    (cutOff os).map (·.1) = os.map (·.1) := by
  rw [cutOff, List.map_append, List.map_map, Function.comp_def, ← List.map_append,
    List.take_append_drop]

theorem begun_of_started {os : List (Job × JobOutcome)} (h : ∀ x ∈ os, x.2.isBegun = true) :
    begun os = os.map (·.1) := by
  rw [begun, List.filter_eq_self.mpr h]

theorem begun_skipped : ∀ os : List (Job × JobOutcome),
    begun (os.map fun x => (x.1, .skipped)) = []
  | [] => rfl
  | _ :: os => begun_skipped os

/-- The jobs that are started are the first ones. -/
theorem begun_cutOff {os : List (Job × JobOutcome)} (h : ∀ x ∈ os, x.2.isBegun = true) :
    begun (cutOff os) = (os.map (·.1)).take (stopsAfter os) := by
  have happend (first later : List (Job × JobOutcome)) :
      begun (first ++ later) = begun first ++ begun later := by simp [begun]
  rw [cutOff, happend, begun_skipped, List.append_nil,
    begun_of_started fun x hx => h x (List.mem_of_mem_take hx), List.map_take]

theorem whole_cutOff {os : List (Job × JobOutcome)} (h : ∀ x ∈ os, x.2.trouble? = none) :
    ∀ x ∈ cutOff os, x.2.trouble? = none := by
  intro x hx
  rcases List.mem_append.mp hx with hfirst | hlater
  · exact h x (List.mem_of_mem_take hfirst)
  · obtain ⟨y, -, rfl⟩ := List.mem_map.mp hlater
    rfl

theorem failures_cutOff : ∀ os : List (Job × JobOutcome),
    ((cutOff os).filterMap (·.2.failure?)).length ≤ 1
  | [] => by simp [cutOff]
  | (j, o) :: os => by
    rw [cutOff_cons]
    cases o with
    | built | skipped | broken | cancelled =>
      simpa [JobOutcome.isFailure, JobOutcome.failure?] using failures_cutOff os
    | failed f => simp [JobOutcome.isFailure, JobOutcome.failure?, List.filterMap_map]

/-- Cutting off keeps the first outputs. -/
theorem outputs_cutOff (os : List (Job × JobOutcome)) :
    (cutOff os).filterMap (·.2.output?) <+: os.filterMap (·.2.output?) := by
  have hskipped : ((os.drop (stopsAfter os)).map fun x => (x.1, JobOutcome.skipped)).filterMap
      (·.2.output?) = [] := by
    rw [List.filterMap_map]
    exact List.filterMap_eq_nil_iff.mpr fun _ _ => rfl
  rw [cutOff, List.filterMap_append, hskipped, List.append_nil]
  nth_rewrite 3 [← List.take_append_drop (stopsAfter os) os]
  rw [List.filterMap_append]
  exact List.prefix_append _ _

namespace Executor

/-! ## The order of what is collected -/

/-- What comes of some of the jobs, sorted by the units that were planned one after another, is in
the order of the jobs again. -/
theorem regrouped {α : Type} {selected : Entries BuildUnit} {plans : List (List Job)}
    (h : List.Forall₂ (fun x own => ∀ j ∈ own, j.unit = x.1) selected plans)
    (hnodup : selected.names.Nodup) : ∀ {xs : List (Job × α)},
      (xs.map (·.1)).Sublist plans.flatten →
      (selected.flatMap fun x => xs.filter (·.1.unit = x.1)) = xs := by
  induction h with
  | nil =>
    intro xs hxs
    simpa using (List.map_eq_nil_iff.mp (List.sublist_nil.mp hxs)).symm
  | @cons x own selected plans hown _ ih =>
    intro xs hxs
    simp only [Entries.names, List.map_cons, List.nodup_cons] at hnodup ih
    rw [List.flatten_cons] at hxs
    obtain ⟨first, later, hsplit, hfirst, hlater⟩ := List.sublist_append_iff.mp hxs
    obtain ⟨ys, zs, rfl, rfl, rfl⟩ := List.map_eq_append_iff.mp hsplit
    have hys : ∀ y ∈ ys, y.1.unit = x.1 := fun y hy =>
      hown y.1 (hfirst.subset (List.mem_map_of_mem hy))
    have hagain := ih hnodup.2 hlater
    have hzs : ∀ z ∈ zs, z.1.unit ∈ selected.map (·.1) := by
      intro z hz
      rw [← hagain] at hz
      obtain ⟨x', hx', hz⟩ := List.mem_flatMap.mp hz
      exact of_decide_eq_true (List.mem_filter.mp hz).2 ▸ List.mem_map_of_mem hx'
    have hhead : (ys ++ zs).filter (·.1.unit = x.1) = ys := by
      have hnone : zs.filter (·.1.unit = x.1) = [] := by
        refine List.filter_eq_nil_iff.mpr fun z hz hzx => hnodup.1 ?_
        exact of_decide_eq_true hzx ▸ hzs z hz
      rw [List.filter_append, hnone, List.append_nil]
      exact List.filter_eq_self.mpr fun y hy => by simp [hys y hy]
    have htail : ∀ x' ∈ selected,
        (ys ++ zs).filter (·.1.unit = x'.1) = zs.filter (·.1.unit = x'.1) := by
      intro x' hx'
      have hnone : ys.filter (·.1.unit = x'.1) = [] := by
        refine List.filter_eq_nil_iff.mpr fun y hy hyx => hnodup.1 ?_
        rw [← hys y hy, of_decide_eq_true hyx]
        exact List.mem_map_of_mem hx'
      rw [List.filter_append, hnone, List.nil_append]
    rw [List.flatMap_cons, hhead, List.flatMap_congr htail, hagain]

variable {e : Executor} {requested : Option (List String)} {selected : Entries BuildUnit}
  {jobs : List Job} {os : List (Job × JobOutcome)}

theorem regrouped_of_prepare {α : Type} (hplan : e.prepare requested = .ok (selected, jobs))
    {xs : List (Job × α)} (h : (xs.map (·.1)).Sublist jobs) :
    (selected.flatMap fun x => xs.filter (·.1.unit = x.1)) = xs := by
  have hnodup := (planned_of_prepare hplan).nodup
  simp only [prepare, bind_eq_ok_iff, pure_eq_ok_iff, plan, mapM_eq_ok_iff] at hplan
  obtain ⟨chosen, -, planned, ⟨plans, hplans, rfl⟩, heq⟩ := hplan
  cases heq
  exact regrouped (hplans.imp fun _ _ hown j hj => (mem_planUnit hown hj).1) hnodup h

/-- Where no job broke the batch, it lists its outputs and its failures in the order of the
jobs. -/
theorem collected_in_order (hplan : e.prepare requested = .ok (selected, jobs))
    (hjobs : os.map (·.1) = jobs) (hwhole : ∀ x ∈ os, x.2.trouble? = none) :
    ∃ b, (conclude selected os).result = .ok b ∧ b.outputs = os.filterMap (·.2.output?) ∧
      b.failures = os.filterMap (·.2.failure?) := by
  have hagain : (selected.flatMap fun x => os.filter (·.1.unit = x.1)) = os :=
    regrouped_of_prepare hplan (hjobs ▸ .refl _)
  refine ⟨_, conclude_eq hwhole, ?_, ?_⟩
  · simp only [Batch.outputs, List.flatMap_map, resultOf]
    rw [← List.filterMap_flatMap, hagain]
  · simp only [Batch.failures, List.flatMap_map, resultOf]
    rw [← List.filterMap_flatMap, hagain]

/-! ## One job after another -/

/-- The executor that goes on when a job fails. -/
def patient (e : Executor) : Executor :=
  { e with failFast := false }

/-- The executor that stops when a job fails, with one worker. -/
def hasty (e : Executor) : Executor :=
  { e with failFast := true, workers := .ofInt 1 }

variable {v : Volume} {s : Session}

/-- In a patient batch that no job broke every job is started. -/
theorem patient_started {s : Session}
    (hwhole : ∀ x ∈ (e.patient.runJobs v { session := s } jobs).2.1, x.2.trouble? = none) :
    (e.patient.runJobs v { session := s } jobs).2.1.map (·.1) = jobs ∧
      ∀ x ∈ (e.patient.runJobs v { session := s } jobs).2.1, x.2.isBegun = true := by
  have hkeeps : Keeps e.patient v (fun _ o => o.isBegun = true) fun _ => True :=
    ⟨fun s j _ => (requests_runJob (.inl rfl : Fresh v s.tree s) j).2.2, fun _ _ _ => trivial⟩
  have hset : Pool.Settled false _ jobs _ := settled_runJobs hkeeps trivial (s := s) jobs
  exact ⟨hset.plan, hset.all_end hwhole⟩

/-- A job that does not break the batch leaves nothing to the others but whether to stop. -/
theorem runJobs_cons (j : Job) (jobs : List Job)
    (hwhole : (e.runJob v s j).outcome.trouble? = none) :
    e.runJobs v { session := s } (j :: jobs) =
      let run := e.runJob v s j
      let rest := e.runJobs v ⟨run.session, e.failFast && run.outcome.isFailure, none⟩ jobs
      (run.records ++ rest.1, (j, run.outcome) :: rest.2.1, rest.2.2) := by
  have htake : e.takeJob v { session := s } j = ((e.runJob v s j).records,
      (e.runJob v s j).outcome,
      ⟨(e.runJob v s j).session, e.failFast && (e.runJob v s j).outcome.isFailure, none⟩) := by
    simp [takeJob, after, hwhole]
  rw [runJobs, htake]

theorem runJobs_patient_cons (j : Job) (jobs : List Job)
    (hwhole : (e.runJob v s j).outcome.trouble? = none) :
    e.patient.runJobs v { session := s } (j :: jobs) =
      let run := e.runJob v s j
      let rest := e.patient.runJobs v { session := run.session } jobs
      (run.records ++ rest.1, (j, run.outcome) :: rest.2.1, rest.2.2) :=
  runJobs_cons (e := e.patient) j jobs hwhole

theorem runJobs_hasty_cons (j : Job) (jobs : List Job)
    (hwhole : (e.runJob v s j).outcome.trouble? = none) :
    e.hasty.runJobs v { session := s } (j :: jobs) =
      let run := e.runJob v s j
      let rest := e.hasty.runJobs v ⟨run.session, run.outcome.isFailure, none⟩ jobs
      (run.records ++ rest.1, (j, run.outcome) :: rest.2.1, rest.2.2) :=
  runJobs_cons (e := e.hasty) j jobs hwhole

/-- A batch that was stopped skips whatever is left. -/
theorem runJobs_stopped : ∀ (jobs : List Job) (s : Session),
    e.runJobs v { session := s, stopped := true } jobs =
      ([], jobs.map fun j => (j, .skipped), { session := s, stopped := true })
  | [], _ => rfl
  | j :: jobs, s => by
    have htake : e.takeJob v { session := s, stopped := true } j =
        ([], .skipped, { session := s, stopped := true }) := rfl
    rw [runJobs, htake]
    dsimp only
    rw [runJobs_stopped jobs s]
    rfl

/-- The first job of a batch that no job broke did not break it, nor did the others after it. -/
theorem whole_cons {j : Job}
    (h : ∀ x ∈ (e.patient.runJobs v { session := s } (j :: jobs)).2.1, x.2.trouble? = none) :
    (e.runJob v s j).outcome.trouble? = none ∧
      ∀ x ∈ (e.patient.runJobs v { session := (e.runJob v s j).session } jobs).2.1,
        x.2.trouble? = none := by
  have hj : (e.runJob v s j).outcome.trouble? = none := h _ List.mem_cons_self
  rw [runJobs_patient_cons j jobs hj] at h
  exact List.forall_mem_cons.mp h

/-- **A batch that fails fast is the patient one cut off.** -/
theorem outcomes_hasty : ∀ {jobs : List Job} {s : Session},
    (∀ x ∈ (e.patient.runJobs v { session := s } jobs).2.1, x.2.trouble? = none) →
    (e.hasty.runJobs v { session := s } jobs).2.1 =
      cutOff (e.patient.runJobs v { session := s } jobs).2.1
  | [], _, _ => rfl
  | j :: jobs, s, h => by
    obtain ⟨hj, hrest⟩ := whole_cons h
    rw [runJobs_patient_cons j jobs hj, runJobs_hasty_cons j jobs hj, cutOff_cons]
    dsimp only
    cases (e.runJob v s j).outcome.isFailure with
    | false => exact congrArg (_ :: ·) (outcomes_hasty hrest)
    | true =>
      have hjobs := (patient_started hrest).1
      rw [runJobs_stopped]
      dsimp only
      nth_rewrite 1 [← hjobs]
      rw [List.map_map]
      rfl

/-- Where nothing fails there is no difference. -/
theorem runJobs_unfailed : ∀ {jobs : List Job} {s : Session},
    (∀ x ∈ (e.patient.runJobs v { session := s } jobs).2.1, x.2.trouble? = none) →
    (∀ x ∈ (e.patient.runJobs v { session := s } jobs).2.1, x.2.isFailure = false) →
      e.hasty.runJobs v { session := s } jobs = e.patient.runJobs v { session := s } jobs
  | [], _, _, _ => rfl
  | j :: jobs, s, hwhole, h => by
    obtain ⟨hj, hrest⟩ := whole_cons hwhole
    rw [runJobs_patient_cons j jobs hj] at h ⊢
    obtain ⟨hfine, hlater⟩ := List.forall_mem_cons.mp h
    rw [runJobs_hasty_cons j jobs hj]
    dsimp only at hfine ⊢
    rw [hfine, runJobs_unfailed hrest hlater]

/-! ## Compilers that answer alike -/

/-- What the compiler answers does not depend on the requests before. -/
def Steady (e : Executor) (v : Volume) : Prop :=
  ∀ n n' r, (e.compile v n r).result = (e.compile v n' r).result

/-- A job ends in one way, whichever jobs were run before it. -/
theorem outcome_steady (hsteady : e.Steady v) {s' : Session} (hs : Fresh v s.tree s') (j : Job) :
    (e.runJob v s' j).outcome = (e.runJob v s j).outcome := by
  rcases relevantFiles_cases hs j.platform with
    ⟨trouble, hfiles', hfiles⟩ | ⟨files, tree', tree, hfiles', hfiles, -⟩
  · rw [(runJob_unlisted hfiles').1, (runJob_unlisted hfiles).1]
  · rw [(runJob_listed hfiles').1, (runJob_listed hfiles).1,
      hsteady s'.requests.length s.requests.length]

theorem outcomes_steady (hsteady : e.Steady v)
    (hwhole : ∀ x ∈ (e.patient.runJobs v { session := s } jobs).2.1, x.2.trouble? = none) :
    (e.patient.runJobs v { session := s } jobs).2.1 =
      jobs.map fun j => (j, (e.runJob v s j).outcome) := by
  have hkeeps : Keeps e.patient v (fun j o => o = (e.runJob v s j).outcome) (Fresh v s.tree) :=
    ⟨fun _ j hs => outcome_steady hsteady hs j, fun _ j hs => (requests_runJob hs j).2.1⟩
  have hset : Pool.Settled false _ jobs _ := settled_runJobs hkeeps (.inl rfl) jobs
  exact outcomes_eq_map hset.plan (hset.all_end hwhole)

end Executor

/-! ## A worker that takes the jobs in turn -/

namespace Pool

/-- No job was taken while one before it was waiting. -/
def InTurn (p : Pool) : Prop :=
  p.jobs.Pairwise fun x y => x.2 = .waiting → y.2 = .waiting

/-- A run of one worker that takes the jobs in turn and stops at a failure. -/
abbrev RunInTurn (ends : Job → JobOutcome → Prop) : Pool → Pool → Prop :=
  ReflTransGen fun p q => Step true 1 ends p q ∧ q.InTurn

variable {out : Job → JobOutcome} {planned : List Job} {p q : Pool}

/-- Jobs that have ended, cut off after the first failure. -/
def endedJobs (out : Job → JobOutcome) (done : List Job) : List (Job × Stage) :=
  (cutOff (done.map fun j => (j, out j))).map fun x => (x.1, .ended x.2)

/-- Whether the flag is up once these jobs have ended. -/
def stopsIn (out : Job → JobOutcome) (done : List Job) : Bool :=
  done.any fun j => (out j).isFailure

theorem endedJobs_concat (done : List Job) (j : Job) :
    endedJobs out (done ++ [j]) =
      endedJobs out done ++ [(j, .ended (if stopsIn out done then .skipped else out j))] := by
  have hstop : (done.map fun j => (j, out j)).any (·.2.isFailure) = stopsIn out done := by
    rw [List.any_map]
    rfl
  rw [endedJobs, List.map_append, List.map_singleton, cutOff_concat, List.map_append, hstop]
  cases stopsIn out done <;> rfl

theorem stopsIn_concat (done : List Job) (j : Job) :
    stopsIn out (done ++ [j]) = (stopsIn out done || (out j).isFailure) := by
  simp [stopsIn]

theorem stage_endedJobs {done : List Job} {x : Job × Stage} (h : x ∈ endedJobs out done) :
    ∃ o, x.2 = .ended o := by
  obtain ⟨y, -, rfl⟩ := List.mem_map.mp h
  exact ⟨y.2, rfl⟩

theorem running_notMem_endedJobs (j : Job) (done : List Job) :
    (j, .running) ∉ endedJobs out done := by
  intro h
  obtain ⟨o, ho⟩ := stage_endedJobs h
  cases ho

/-- A worker that goes through the jobs in turn: it is free between two of them, or has one at
hand. -/
inductive Along (out : Job → JobOutcome) (planned : List Job) : Pool → Prop
  | free (done : List Job) {rest : List Job} (split : planned = done ++ rest) :
    Along out planned
      ⟨endedJobs out done ++ rest.map fun j => (j, .waiting), stopsIn out done⟩
  | busy (done : List Job) {j : Job} {rest : List Job} (split : planned = done ++ j :: rest)
    (going : stopsIn out done = false) :
    Along out planned
      ⟨endedJobs out done ++ (j, .running) :: rest.map fun j => (j, .waiting), false⟩

/-- Once the next job has ended, too, the worker is free. -/
theorem Along.next (out : Job → JobOutcome) {done : List Job} {j : Job} {rest : List Job}
    (split : planned = done ++ j :: rest) :
    Along out planned
      ⟨endedJobs out done ++ (j, .ended (if stopsIn out done then .skipped else out j)) ::
        rest.map (fun j => (j, .waiting)), stopsIn out done || (out j).isFailure⟩ := by
  have hfree := @Along.free out planned (done ++ [j]) rest (by simpa using split)
  rwa [endedJobs_concat, stopsIn_concat, List.append_assoc, List.singleton_append] at hfree

/-- The job that is taken in turn is the first one that waits. -/
theorem first_waiting {before after : List (Job × Stage)} {j : Job} {stage : Stage}
    {stopped : Bool} (hturn : InTurn ⟨before ++ (j, stage) :: after, stopped⟩)
    (hstage : stage ≠ .waiting) {done rest : List Job}
    (h : before ++ (j, .waiting) :: after =
      endedJobs out done ++ rest.map fun j => (j, .waiting)) :
    ∃ rest', before = endedJobs out done ∧ rest = j :: rest' ∧
      after = rest'.map fun j => (j, .waiting) := by
  have hbefore : ∀ x ∈ before, x.2 ≠ .waiting := fun x hx hwait =>
    hstage ((List.pairwise_append.mp hturn).2.2 x hx _ List.mem_cons_self hwait)
  have hended : ∀ x ∈ endedJobs out done, x.2 ≠ .waiting := by
    intro x hx hwait
    obtain ⟨o, ho⟩ := stage_endedJobs hx
    rw [ho] at hwait
    cases hwait
  rcases List.append_eq_append_iff.mp h with ⟨c, hc, hrest⟩ | ⟨c, hc, hrest⟩
  · cases c with
    | nil =>
      obtain ⟨k, rest', rfl, hk, rfl⟩ := List.map_eq_cons_iff.mp hrest.symm
      cases hk
      exact ⟨rest', by simpa using hc.symm, rfl, rfl⟩
    | cons x c =>
      cases hrest
      exact absurd rfl (hended (j, .waiting) (by simp [hc]))
  · cases c with
    | nil =>
      obtain ⟨k, rest', rfl, hk, rfl⟩ := List.map_eq_cons_iff.mp hrest
      cases hk
      exact ⟨rest', by simpa using hc, rfl, rfl⟩
    | cons x c =>
      obtain ⟨k, rest', rfl, rfl, -⟩ := List.map_eq_cons_iff.mp hrest
      exact absurd rfl (hbefore (k, .waiting) (by simp [hc]))

/-- Where no job may break the batch, none has. -/
theorem broken_notMem_endedJobs {done : List Job} (hwhole : ∀ j ∈ done, (out j).trouble? = none)
    (j : Job) (t : Trouble) : (j, .ended (.broken t)) ∉ endedJobs out done := by
  intro h
  obtain ⟨⟨i, o⟩, hx, heq⟩ := List.mem_map.mp h
  cases heq
  have hall : ∀ x ∈ done.map fun j => (j, out j), x.2.trouble? = none := by
    intro x hx
    obtain ⟨j, hj, rfl⟩ := List.mem_map.mp hx
    exact hwhole j hj
  cases whole_cutOff hall _ hx

theorem Along.unbroken (hwhole : ∀ j ∈ planned, (out j).trouble? = none) (h : Along out planned p)
    (j : Job) (t : Trouble) : (j, .ended (.broken t)) ∉ p.jobs := by
  intro hmem
  cases h with
  | @free done rest split | @busy done k rest split going =>
    have hdone : ∀ j ∈ done, (out j).trouble? = none := fun j hj =>
      hwhole j (split ▸ List.mem_append_left _ hj)
    rcases List.mem_append.mp hmem with hended | hleft
    · exact broken_notMem_endedJobs hdone j t hended
    · simp at hleft

theorem Along.step (hwhole : ∀ j ∈ planned, (out j).trouble? = none) (h : Along out planned p)
    (hstep : Step true 1 (fun j o => o = out j) p q) (hturn : q.InTurn) : Along out planned q := by
  cases hstep with
  | @start before after j hfree =>
    generalize hp : (⟨before ++ (j, .waiting) :: after, false⟩ : Pool) = p at h hfree
    cases h with
    | @free done rest split =>
      obtain ⟨hjobs, hgoing⟩ := Pool.mk.inj hp
      obtain ⟨rest', rfl, rfl, rfl⟩ := first_waiting hturn (by simp) hjobs
      exact .busy done split hgoing.symm
    | @busy done k rest split going =>
      -- The one worker there is has a job at hand.
      simp [Pool.busy, List.countP_append, Stage.isRunning] at hfree
  | @skip before after j hfree =>
    generalize hp : (⟨before ++ (j, .waiting) :: after, true⟩ : Pool) = p at h
    cases h with
    | @free done rest split =>
      obtain ⟨hjobs, hstop⟩ := Pool.mk.inj hp
      obtain ⟨rest', rfl, rfl, rfl⟩ := first_waiting hturn (by simp) hjobs
      simpa [← hstop] using Along.next out split
    | busy => cases (Pool.mk.inj hp).2
  | @finish before after j o stopped ho =>
    subst ho
    generalize hp : (⟨before ++ (j, .running) :: after, stopped⟩ : Pool) = p at h
    cases h with
    | @free done rest split =>
      have hmem : (j, Stage.running) ∈ endedJobs out done ++ rest.map fun j => (j, .waiting) := by
        simp [← (Pool.mk.inj hp).1]
      rcases List.mem_append.mp hmem with hended | hwaiting
      · exact absurd hended (running_notMem_endedJobs j done)
      · simp at hwaiting
    | @busy done k rest split going =>
      obtain ⟨hjobs, rfl⟩ := Pool.mk.inj hp
      obtain ⟨rfl, hk, rfl⟩ := (List.append_cons_inj_of_notMem (running_notMem_endedJobs j done)
        (by simp)).mp hjobs.symm
      cases hk
      simpa [going] using Along.next out split
  | @cancel before between after i j t stopped hbefore =>
    exact absurd (by simp) (h.unbroken hwhole i t)

theorem along_of_run (hwhole : ∀ j ∈ planned, (out j).trouble? = none)
    (hrun : RunInTurn (fun j o => o = out j) (opened planned) p) : Along out planned p := by
  induction hrun with
  | refl => exact .free [] rfl
  | tail _ hstep ih => exact ih.step hwhole hstep.1 hstep.2

/-- **A worker that takes the jobs in turn** cuts the batch off at the first failure, where no job
breaks it. -/
theorem outcomes_in_turn (hwhole : ∀ j ∈ planned, (out j).trouble? = none)
    (hrun : RunInTurn (fun j o => o = out j) (opened planned) p)
    (hstuck : ∀ q, ¬ Step true 1 (fun j o => o = out j) p q) :
    p.outcomes = cutOff (planned.map fun j => (j, out j)) := by
  have hends : ∀ j, ∃ o, o = out j := fun j => ⟨out j, rfl⟩
  have hended := ended_of_stuck Nat.one_pos hends hstuck
  cases along_of_run hwhole hrun with
  | @free done rest split =>
    obtain rfl : rest = [] := by
      cases rest with
      | nil => rfl
      | cons j rest =>
        obtain ⟨o, ho⟩ := hended (j, .waiting) (by simp)
        cases ho
    simp [outcomes, endedJobs, List.filterMap_map, split]
  | @busy done j rest split going =>
    obtain ⟨o, ho⟩ := hended (j, .running) (by simp)
    cases ho

end Pool

/-! ## Batches -/

namespace Executor

variable {e : Executor} {v : Volume} {s : Session} {requested : Option (List String)}
  {selected : Entries BuildUnit} {jobs : List Job} {os : List (Job × JobOutcome)}

/-- How an executor that stops at the first failure goes through a batch, given the outcomes of the
patient one, none of which broke it. -/
structure StopsAtFailure (e : Executor) (v : Volume) (s : Session)
    (requested : Option (List String)) (selected : Entries BuildUnit) (jobs : List Job)
    (os : List (Job × JobOutcome)) : Prop where
  /-- The patient batch starts every job and is collected from these outcomes. -/
  patient : os.map (·.1) = jobs ∧ (∀ x ∈ os, x.2.isBegun = true) ∧
    (e.patient.executeMany v s requested).1.result = (conclude selected os).result ∧
    (e.patient.executeMany v s requested).2.requests =
      s.requests ++ jobs.flatMap (callsOf v s.tree)
  /-- The other one is collected from the same outcomes cut off, and asks the compiler for the jobs
  up to the first failure only. -/
  hasty :
    (e.hasty.executeMany v s requested).1.result = (conclude selected (cutOff os)).result ∧
    (e.hasty.executeMany v s requested).2.requests =
      s.requests ++ (jobs.take (stopsAfter os)).flatMap (callsOf v s.tree)
  /-- Where no job fails they differ in the notice of their start alone. -/
  unfailed : (∀ x ∈ os, x.2.isFailure = false) →
    (e.hasty.executeMany v s requested).1.result =
        (e.patient.executeMany v s requested).1.result ∧
      (e.hasty.executeMany v s requested).1.records.tail =
        (e.patient.executeMany v s requested).1.records.tail ∧
      (e.hasty.executeMany v s requested).2 = (e.patient.executeMany v s requested).2
  /-- There are two batches. The outputs of the other one are the first outputs of the patient one,
  and it has at most one failure. -/
  batches : ∃ b b', (e.patient.executeMany v s requested).1.result = .ok b ∧
    (e.hasty.executeMany v s requested).1.result = .ok b' ∧ b'.outputs <+: b.outputs ∧
    b'.failures.length ≤ 1
  /-- Patient workers side by side come to these outcomes, in whatever order they take their
  turns. -/
  interleaved : e.Steady v → ∀ (workers : Nat) (p : Pool), 0 < workers →
    Pool.Run false workers (fun j o => o = (e.runJob v s j).outcome) (Pool.opened jobs) p →
    (∀ q, ¬ Pool.Step false workers (fun j o => o = (e.runJob v s j).outcome) p q) →
    p.outcomes = os
  /-- One worker that takes the jobs in turn and stops at a failure cuts them off. -/
  inTurn : e.Steady v → ∀ p : Pool,
    Pool.RunInTurn (fun j o => o = (e.runJob v s j).outcome) (Pool.opened jobs) p →
    (∀ q, ¬ Pool.Step true 1 (fun j o => o = (e.runJob v s j).outcome) p q) →
    p.outcomes = cutOff os

/-- **Failing fast with one worker is cutting off**, for a compiler that may answer as it likes, and
for workers side by side where it answers alike whenever it is asked. -/
theorem hasty_stops_at_failure (hplan : e.prepare requested = .ok (selected, jobs))
    (hpool : e.poolTrouble? = none) (v : Volume) (s : Session)
    (hwhole : ∀ x ∈ (e.patient.runJobs v { session := s } jobs).2.1, x.2.trouble? = none) :
    StopsAtFailure e v s requested selected jobs
      (e.patient.runJobs v { session := s } jobs).2.1 := by
  obtain ⟨hjobs, hstarted⟩ := patient_started hwhole
  have hplanP : e.patient.prepare requested = .ok (selected, jobs) := hplan
  have hplanH : e.hasty.prepare requested = .ok (selected, jobs) := hplan
  have hpoolP : e.patient.poolTrouble? = none := hpool
  have hpoolH : e.hasty.poolTrouble? = none := rfl
  have hresultP := result_executeMany (v := v) (s := s) hplanP hpoolP
  have hresultH := result_executeMany (v := v) (s := s) hplanH hpoolH
  rw [outcomes_hasty hwhole] at hresultH
  have hfresh : Fresh v s.tree s := .inl rfl
  have hsteadily (hsteady : e.Steady v) : ∀ j ∈ jobs, (e.runJob v s j).outcome.trouble? = none := by
    rw [outcomes_steady hsteady hwhole] at hwhole
    exact fun j hj => hwhole _ (List.mem_map_of_mem hj)
  exact {
    patient := ⟨hjobs, hstarted, hresultP, by
      rw [session_executeMany hplanP hpoolP, requests_runJobs jobs _ hfresh,
        begun_of_started hstarted, hjobs]⟩
    hasty := ⟨hresultH, by
      rw [session_executeMany hplanH hpoolH, requests_runJobs jobs _ hfresh,
        outcomes_hasty hwhole, begun_cutOff hstarted, hjobs]⟩
    unfailed := by
      intro hnone
      have hsame := runJobs_unfailed hwhole hnone
      refine ⟨by rw [hresultH, hresultP, cutOff_eq_self hnone], ?_, ?_⟩
      · simp only [executeMany, hplanP, hplanH, hpoolP, hpoolH, hsame, List.cons_append,
          List.tail_cons]
      · rw [session_executeMany hplanH hpoolH, session_executeMany hplanP hpoolP, hsame]
    batches := by
      obtain ⟨b, hb, hall, -⟩ := collected_in_order hplan hjobs hwhole
      obtain ⟨b', hb', hfirst, hfailures⟩ :=
        collected_in_order hplan ((jobs_cutOff _).trans hjobs) (whole_cutOff hwhole)
      refine ⟨b, b', hresultP.trans hb, hresultH.trans hb', ?_, ?_⟩
      · rw [hall, hfirst]
        exact outputs_cutOff _
      · rw [hfailures]
        exact failures_cutOff _
    interleaved := by
      intro hsteady workers p hworkers hrun hstuck
      have hends : ∀ j, ∃ o, o = (e.runJob v s j).outcome := fun j => ⟨_, rfl⟩
      rw [outcomes_steady hsteady hwhole]
      exact (Pool.settled_of_run hworkers hends hrun hstuck).outcomes_eq (hsteadily hsteady)
    inTurn := by
      intro hsteady p hrun hstuck
      rw [outcomes_steady hsteady hwhole]
      exact Pool.outcomes_in_turn (hsteadily hsteady) hrun hstuck }

/-- The three units and one for the browser, whose first bundle is a test. -/
def splitCrew : Executor :=
  { patientCrew with
    catalog := ⟨crew.catalog.units ++ [("W", ⟨"w.js", .browser, .testMain, [], false⟩)],
      by decide⟩ }

def splitCrewW : Job := crewJob "W" "w.js" .browser .testMain
def splitCrewWorker : Job := crewJob "W" "worker.js" .browser .browserWorker

/-- The second of four jobs fails, so one bundle of its unit is skipped. -/
theorem splitCrew_stops_at_failure :
    splitCrew.prepare (some ["C", "W", "B"]) =
        .ok (["C", "W", "B"].filterMap fun name =>
          (splitCrew.catalog.units.get? name).map (name, ·),
          [crewC, splitCrewW, splitCrewWorker, crewB]) ∧
      splitCrew.poolTrouble? = none ∧
      (∀ x ∈ (splitCrew.patient.runJobs .empty { session := listedSession }
        [crewC, splitCrewW, splitCrewWorker, crewB]).2.1, x.2.trouble? = none) ∧
      StopsAtFailure splitCrew .empty listedSession (some ["C", "W", "B"])
        (["C", "W", "B"].filterMap fun name => (splitCrew.catalog.units.get? name).map (name, ·))
        [crewC, splitCrewW, splitCrewWorker, crewB]
        [(crewC, .built (crewC.output 1 [7])),
          (splitCrewW, .failed (splitCrewW.failure 1 (.raised "ValueError" "no tests"))),
          (splitCrewWorker, .built (splitCrewWorker.output 1 [7])),
          (crewB, .built (crewB.output 1 [7]))] := by
  have houtcomes : (splitCrew.patient.runJobs .empty { session := listedSession }
      [crewC, splitCrewW, splitCrewWorker, crewB]).2.1 =
        [(crewC, .built (crewC.output 1 [7])),
          (splitCrewW, .failed (splitCrewW.failure 1 (.raised "ValueError" "no tests"))),
          (splitCrewWorker, .built (splitCrewWorker.output 1 [7])),
          (crewB, .built (crewB.output 1 [7]))] := rfl
  have hwhole : ∀ x ∈ (splitCrew.patient.runJobs .empty { session := listedSession }
      [crewC, splitCrewW, splitCrewWorker, crewB]).2.1, x.2.trouble? = none := by
    simp [houtcomes, JobOutcome.trouble?]
  exact ⟨rfl, rfl, hwhole,
    houtcomes ▸ hasty_stops_at_failure rfl rfl .empty listedSession hwhole⟩

end Executor

end BundleBuild
