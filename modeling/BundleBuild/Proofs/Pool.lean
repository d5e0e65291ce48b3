/-
Workers running the jobs of a batch side by side. A step starts a job, skips one because the others
were told to stop, ends one that was started, or cancels one because a job before it broke the
batch; steps of different workers may come in any order.

Whatever the order, a run that has come to its end has an outcome for every job, in the order of the
plan. A job was skipped only after one that failed had told the others to stop, and cancelled only
behind one that broke the batch (`settled_of_run`). What carries this is that the stop flag is never
up without a recorded failure (`Sound.cause`), which holds at the start and which every step keeps,
as every step moves one job on and leaves those that have ended where they are (`Moved`). The
executor's own run, one job after another, is one of these runs (`run_of_runJobs`).
-/
import Mathlib.Logic.Relation
import BundleBuild.Proofs.Running

namespace BundleBuild

open Relation (ReflTransGen)

/-- Where a job stands. -/
inductive Stage where
  | waiting
  | running
  | ended (o : JobOutcome)

namespace Stage

def isRunning : Stage → Bool
  | .running => true
  | _ => false

def isEnded : Stage → Bool
  | .ended _ => true
  | _ => false

theorem isEnded_iff {s : Stage} : s.isEnded = true ↔ ∃ o, s = .ended o := by
  cases s <;> simp [isEnded]

end Stage

/-- The jobs of a batch in the order they were planned, and whether the workers were told to
stop. -/
structure Pool where
  jobs : List (Job × Stage)
  stopped : Bool

namespace Pool

/-- The pool before any worker has taken a job. -/
def opened (planned : List Job) : Pool :=
  ⟨planned.map fun j => (j, .waiting), false⟩

/-- How many workers are at a job. -/
def busy (p : Pool) : Nat :=
  p.jobs.countP (·.2.isRunning)

/-- The outcomes of the jobs that have ended. -/
def outcomes (p : Pool) : List (Job × JobOutcome) :=
  p.jobs.filterMap fun x => match x.2 with
    | .ended o => some (x.1, o)
    | _ => none

/-- One step of one worker, or of the batch that waits for them. A free worker takes any waiting job
and looks at the stop flag; a job that was started ends in one of the ways `ends` allows, and a
failure raises the flag when the batch is to fail fast. The batch waits for the jobs in the order
they were planned, and once it comes to one that broke it, it cancels jobs behind that one which
still wait. -/
inductive Step (failFast : Bool) (workers : Nat) (ends : Job → JobOutcome → Prop) :
    Pool → Pool → Prop
  | start (before : List (Job × Stage)) {after : List (Job × Stage)} {j : Job} :
    busy ⟨before ++ (j, .waiting) :: after, false⟩ < workers →
    Step failFast workers ends ⟨before ++ (j, .waiting) :: after, false⟩
      ⟨before ++ (j, .running) :: after, false⟩
  | skip (before : List (Job × Stage)) {after : List (Job × Stage)} {j : Job} :
    busy ⟨before ++ (j, .waiting) :: after, true⟩ < workers →
    Step failFast workers ends ⟨before ++ (j, .waiting) :: after, true⟩
      ⟨before ++ (j, .ended .skipped) :: after, true⟩
  | finish (before : List (Job × Stage)) {after : List (Job × Stage)} {j : Job} {o : JobOutcome}
    {stopped : Bool} :
    ends j o →
    Step failFast workers ends ⟨before ++ (j, .running) :: after, stopped⟩
      ⟨before ++ (j, .ended o) :: after, stopped || (failFast && o.isFailure)⟩
  | cancel (before : List (Job × Stage)) {between after : List (Job × Stage)} {i j : Job}
    {t : Trouble} {stopped : Bool} :
    (∀ x ∈ before, x.2.isEnded = true) →
    Step failFast workers ends
      ⟨before ++ (i, .ended (.broken t)) :: between ++ (j, .waiting) :: after, stopped⟩
      ⟨before ++ (i, .ended (.broken t)) :: between ++ (j, .ended .cancelled) :: after, stopped⟩

/-- Any number of steps, of any workers in any order. -/
abbrev Run (failFast : Bool) (workers : Nat) (ends : Job → JobOutcome → Prop) :
    Pool → Pool → Prop :=
  ReflTransGen (Step failFast workers ends)

variable {failFast : Bool} {workers : Nat} {ends : Job → JobOutcome → Prop} {planned : List Job}
  {p q : Pool}

/-! ## What every step keeps -/

/-- A job broke the batch before the `k`th. -/
def BrokenBefore (p : Pool) (k : Nat) : Prop :=
  ∃ i < k, ∃ j t, p.jobs[i]? = some (j, .ended (.broken t))

/-- The jobs are those that were planned, each ended as it may, was skipped after a stop, or was
cancelled behind a job that broke the batch; and a stop comes from a failure. -/
structure Sound (failFast : Bool) (ends : Job → JobOutcome → Prop) (planned : List Job) (p : Pool) :
    Prop where
  plan : p.jobs.map (·.1) = planned
  ended : ∀ k j o, p.jobs[k]? = some (j, .ended o) →
    o = .skipped ∧ p.stopped = true ∨ o = .cancelled ∧ p.BrokenBefore k ∨ ends j o
  cause : p.stopped = true → failFast = true ∧
    ∃ j o, (j, .ended o) ∈ p.jobs ∧ o.isFailure = true

theorem sound_opened : Sound failFast ends planned (opened planned) where
  plan := by simp [opened, Function.comp_def]
  ended := by simp [opened]
  cause := by simp [opened]

/-- The pool with one job moved on from a stage at which it had not ended. -/
structure Moved (p q : Pool) (k : Nat) (j : Job) (stage : Stage) : Prop where
  unended : ∀ i o, p.jobs[k]? ≠ some (i, .ended o)
  here : q.jobs[k]? = some (j, stage)
  others : ∀ i, i ≠ k → q.jobs[i]? = p.jobs[i]?
  plan : q.jobs.map (·.1) = p.jobs.map (·.1)

theorem moved {before after : List (Job × Stage)} {j : Job} {s s' : Stage} {stopped stopped' : Bool}
    (hs : s.isEnded = false) :
    Moved ⟨before ++ (j, s) :: after, stopped⟩ ⟨before ++ (j, s') :: after, stopped'⟩
      before.length j s' where
  unended i o h := by
    simp only [List.getElem?_append_right (Nat.le_refl _), Nat.sub_self, List.getElem?_cons_zero,
      Option.some.injEq, Prod.mk.injEq] at h
    rw [h.2] at hs
    cases hs
  here := by simp
  others i hi := by
    rcases Nat.lt_or_gt_of_ne hi with hlt | hgt
    · simp [List.getElem?_append_left hlt]
    · obtain ⟨n, rfl⟩ := Nat.exists_eq_add_of_lt hgt
      simp [List.getElem?_append_right, Nat.add_assoc]
  plan := by simp

namespace Moved

variable {k : Nat} {j : Job} {stage : Stage}

/-- Jobs that have ended stay as they are. -/
theorem keeps (h : Moved p q k j stage) {i : Nat} {x : Job} {o : JobOutcome}
    (hx : p.jobs[i]? = some (x, .ended o)) : q.jobs[i]? = some (x, .ended o) := by
  by_cases hi : i = k
  · exact absurd (hi ▸ hx) (h.unended x o)
  · rw [h.others i hi, hx]

theorem brokenBefore (h : Moved p q k j stage) {n : Nat} (hp : p.BrokenBefore n) :
    q.BrokenBefore n := by
  obtain ⟨i, hi, x, t, hx⟩ := hp
  exact ⟨i, hi, x, t, h.keeps hx⟩

theorem mem (h : Moved p q k j stage) {x : Job} {o : JobOutcome} (hx : (x, .ended o) ∈ p.jobs) :
    (x, .ended o) ∈ q.jobs := by
  obtain ⟨i, hi⟩ := List.mem_iff_getElem?.mp hx
  exact List.mem_of_getElem? (h.keeps hi)

/-- The moved pool is sound if the flag only ever goes up, with a failure, and the job that moved
ended as it may. -/
theorem sound (h : Moved p q k j stage) (hp : Sound failFast ends planned p)
    (hflag : p.stopped = true → q.stopped = true)
    (hraised : q.stopped = true → p.stopped = true ∨
      failFast = true ∧ ∃ o, stage = .ended o ∧ o.isFailure = true)
    (hended : ∀ o, stage = .ended o →
      o = .skipped ∧ q.stopped = true ∨ o = .cancelled ∧ q.BrokenBefore k ∨ ends j o) :
    Sound failFast ends planned q where
  plan := h.plan.trans hp.plan
  ended i x o hx := by
    by_cases hi : i = k
    · subst hi
      rw [h.here] at hx
      cases hx
      exact hended o rfl
    · rw [h.others i hi] at hx
      rcases hp.ended i x o hx with ⟨ho, hstop⟩ | ⟨ho, hbroken⟩ | hends
      · exact .inl ⟨ho, hflag hstop⟩
      · exact .inr (.inl ⟨ho, h.brokenBefore hbroken⟩)
      · exact .inr (.inr hends)
  cause hstop := by
    rcases hraised hstop with hbefore | ⟨hff, o, rfl, ho⟩
    · obtain ⟨hff, x, o, hx, ho⟩ := hp.cause hbefore
      exact ⟨hff, x, o, h.mem hx, ho⟩
    · exact ⟨hff, j, o, List.mem_of_getElem? h.here, ho⟩

end Moved

theorem Step.sound (h : Step failFast workers ends p q) (hp : Sound failFast ends planned p) :
    Sound failFast ends planned q := by
  cases h with
  | start before hfree => exact (moved rfl).sound hp (by simp) (by simp) (by simp)
  | skip before hfree =>
    refine (moved rfl).sound hp (fun _ => rfl) (fun _ => .inl rfl) fun o ho => ?_
    cases ho
    exact .inl ⟨rfl, rfl⟩
  | @finish before after j o stopped hends =>
    refine (moved rfl).sound hp ?_ ?_ fun o' ho' => ?_
    · intro hstop
      have hstop : stopped = true := hstop
      simp [hstop]
    · -- The flag was up before, or this very job raises it.
      intro hstop
      by_cases hbefore : stopped = true
      · exact .inl hbefore
      · have hraise : failFast = true ∧ o.isFailure = true := by simpa [hbefore] using hstop
        exact .inr ⟨hraise.1, o, rfl, hraise.2⟩
    · cases ho'
      exact .inr (.inr hends)
  | @cancel before between after i j t stopped hbefore =>
    refine (moved rfl).sound hp id .inl fun o ho => ?_
    cases ho
    refine .inr (.inl ⟨rfl, before.length, by simp, i, t, ?_⟩)
    simp

theorem Run.sound (h : Run failFast workers ends p q) (hp : Sound failFast ends planned p) :
    Sound failFast ends planned q := by
  induction h with
  | refl => exact hp
  | tail _ hstep ih => exact hstep.sound ih

/-! ## Runs that have come to their end -/

/-- A pool in which no worker can take a step has ended every job: whoever is at a job could end it,
and when nobody is, any worker is free to take one that waits. -/
theorem ended_of_stuck (hworkers : 0 < workers) (hends : ∀ j, ∃ o, ends j o)
    (hstuck : ∀ q, ¬ Step failFast workers ends p q) : ∀ x ∈ p.jobs, ∃ o, x.2 = .ended o := by
  obtain ⟨jobs, stopped⟩ := p
  have hidle : ∀ x ∈ jobs, x.2.isRunning = false := by
    rintro ⟨j, s⟩ hx
    cases s with
    | waiting | ended => rfl
    | running =>
      obtain ⟨before, after, rfl⟩ := List.append_of_mem hx
      obtain ⟨o, ho⟩ := hends j
      exact absurd (.finish before ho) (hstuck _)
  have hfree : busy ⟨jobs, stopped⟩ < workers := by
    have : busy ⟨jobs, stopped⟩ = 0 := List.countP_eq_zero.mpr fun x hx => by simp [hidle x hx]
    omega
  rintro ⟨j, s⟩ hx
  cases s with
  | ended o => exact ⟨o, rfl⟩
  | running => exact absurd (hidle _ hx) (by simp [Stage.isRunning])
  | waiting =>
    obtain ⟨before, after, rfl⟩ := List.append_of_mem hx
    cases stopped with
    | true => exact absurd (.skip before hfree) (hstuck _)
    | false => exact absurd (.start before hfree) (hstuck _)

/-- The outcomes of a batch that has come to its end: one for each planned job, in that order.
Nothing was skipped unless a failure was to stop the others, and nothing was cancelled but behind a
job that broke the batch. -/
structure Settled (failFast : Bool) (ends : Job → JobOutcome → Prop) (planned : List Job)
    (outcomes : List (Job × JobOutcome)) : Prop where
  plan : outcomes.map (·.1) = planned
  ended : ∀ (k : Nat) j o, outcomes[k]? = some (j, o) →
    (o = .skipped ∧ failFast = true ∧ ∃ y ∈ outcomes, y.2.isFailure = true) ∨
      (o = .cancelled ∧ ∃ i < k, ∃ x t, outcomes[i]? = some (x, .broken t)) ∨ ends j o

namespace Settled

variable {outcomes : List (Job × JobOutcome)}

theorem mono {ends' : Job → JobOutcome → Prop} (h : Settled failFast ends planned outcomes)
    (himp : ∀ j o, ends j o → ends' j o) : Settled failFast ends' planned outcomes where
  plan := h.plan
  ended k j o hk := (h.ended k j o hk).imp_right fun h => h.imp_right (himp j o)

/-- Where no job broke the batch, none is cancelled. -/
theorem uncancelled (h : Settled failFast ends planned outcomes)
    (hwhole : ∀ x ∈ outcomes, x.2.trouble? = none) : ∀ x ∈ outcomes,
    (x.2 = .skipped ∧ failFast = true ∧ ∃ y ∈ outcomes, y.2.isFailure = true) ∨ ends x.1 x.2 := by
  intro x hx
  obtain ⟨k, hk⟩ := List.mem_iff_getElem?.mp hx
  rcases h.ended k x.1 x.2 hk with hskipped | ⟨-, i, -, y, t, hi⟩ | hx
  · exact .inl hskipped
  · cases hwhole _ (List.mem_of_getElem? hi)
  · exact .inr hx

/-- No job broke the batch if none may. -/
theorem whole (h : Settled failFast ends planned outcomes)
    (hends : ∀ j ∈ planned, ∀ o, ends j o → o.trouble? = none) :
    ∀ x ∈ outcomes, x.2.trouble? = none := by
  intro x hx
  have hplanned : x.1 ∈ planned := h.plan ▸ List.mem_map_of_mem hx
  obtain ⟨k, hk⟩ := List.mem_iff_getElem?.mp hx
  rcases h.ended k x.1 x.2 hk with ⟨ho, -⟩ | ⟨ho, -⟩ | ho
  · rw [ho]
    rfl
  · rw [ho]
    rfl
  · exact hends x.1 hplanned x.2 ho

/-- What holds of the ways to end that do not break the batch holds where no job broke it. -/
theorem mono_of_whole {ends' : Job → JobOutcome → Prop}
    (h : Settled failFast ends planned outcomes) (hwhole : ∀ x ∈ outcomes, x.2.trouble? = none)
    (himp : ∀ j o, ends j o → o.trouble? = none → ends' j o) :
    Settled failFast ends' planned outcomes where
  plan := h.plan
  ended k j o hk := by
    have hx := List.mem_of_getElem? hk
    rcases h.uncancelled hwhole _ hx with hskipped | hends
    · exact .inl hskipped
    · exact .inr (.inr (himp j o hends (hwhole _ hx)))

/-- Without failing fast nothing is skipped either. -/
theorem all_end (h : Settled false ends planned outcomes)
    (hwhole : ∀ x ∈ outcomes, x.2.trouble? = none) : ∀ x ∈ outcomes, ends x.1 x.2 := by
  intro x hx
  rcases h.uncancelled hwhole x hx with ⟨-, hff, -⟩ | hx
  · cases hff
  · exact hx

end Settled

theorem mem_outcomes {j : Job} {o : JobOutcome} :
    (j, o) ∈ p.outcomes ↔ (j, .ended o) ∈ p.jobs := by
  simp only [outcomes, List.mem_filterMap]
  constructor
  · rintro ⟨⟨k, s⟩, hk, h⟩
    cases s with
    | waiting | running => cases h
    | ended o' =>
      cases h
      exact hk
  · intro h
    exact ⟨(j, .ended o), h, rfl⟩

/-- Once all jobs have ended, the outcomes tell all there is to tell of them. -/
theorem jobs_eq_outcomes (h : ∀ x ∈ p.jobs, ∃ o, x.2 = .ended o) :
    p.jobs = p.outcomes.map fun x => (x.1, .ended x.2) := by
  obtain ⟨jobs, stopped⟩ := p
  simp only [outcomes] at h ⊢
  induction jobs with
  | nil => rfl
  | cons x jobs ih =>
    obtain ⟨⟨o, ho⟩, hrest⟩ := List.forall_mem_cons.mp h
    obtain ⟨j, stage⟩ := x
    cases ho
    exact congrArg ((j, Stage.ended o) :: ·) (ih hrest)

theorem getElem?_outcomes (h : ∀ x ∈ p.jobs, ∃ o, x.2 = .ended o) {k : Nat} {j : Job}
    {o : JobOutcome} : p.outcomes[k]? = some (j, o) ↔ p.jobs[k]? = some (j, .ended o) := by
  conv_rhs => rw [jobs_eq_outcomes h, List.getElem?_map, Option.map_eq_some_iff]
  constructor
  · intro hk
    exact ⟨(j, o), hk, rfl⟩
  · rintro ⟨⟨j', o'⟩, hk, hx⟩
    cases hx
    exact hk

theorem settled_of_run (hworkers : 0 < workers) (hends : ∀ j, ∃ o, ends j o)
    (hrun : Run failFast workers ends (opened planned) p)
    (hstuck : ∀ q, ¬ Step failFast workers ends p q) :
    Settled failFast ends planned p.outcomes := by
  have hsound := Run.sound hrun sound_opened
  have hall := ended_of_stuck hworkers hends hstuck
  have hplan : p.outcomes.map (·.1) = p.jobs.map (·.1) := by
    conv_rhs => rw [jobs_eq_outcomes hall, List.map_map]
    rfl
  refine ⟨hplan.trans hsound.plan, fun k j o hk => ?_⟩
  rcases hsound.ended k j o ((getElem?_outcomes hall).mp hk) with
    ⟨ho, hstop⟩ | ⟨ho, i, hi, x, t, hx⟩ | he
  · obtain ⟨hff, x, o', hx, ho'⟩ := hsound.cause hstop
    exact .inl ⟨ho, hff, (x, o'), mem_outcomes.mpr hx, ho'⟩
  · exact .inr (.inl ⟨ho, i, hi, x, t, (getElem?_outcomes hall).mpr hx⟩)
  · exact .inr (.inr he)

theorem stuck_of_ended (h : ∀ x ∈ p.jobs, ∃ o, x.2 = .ended o) (q : Pool) :
    ¬ Step failFast workers ends p q := by
  intro hstep
  cases hstep with
  | @start before after j hfree | @skip before after j hfree =>
    obtain ⟨o, ho⟩ := h (j, .waiting) (by simp)
    cases ho
  | @finish before after j o stopped hends =>
    obtain ⟨o, ho⟩ := h (j, .running) (by simp)
    cases ho
  | @cancel before between after i j t stopped hbefore =>
    obtain ⟨o, ho⟩ := h (j, .waiting) (by simp)
    cases ho

end Pool

/-! ## One job after another -/

namespace Executor

variable {e : Executor} {v : Volume} {ends : Job → JobOutcome → Prop}

/-- Whatever session a batch goes through, its jobs end as `ends` allows. -/
structure Keeps (e : Executor) (v : Volume) (ends : Job → JobOutcome → Prop)
    (inv : Session → Prop) : Prop where
  ends : ∀ s j, inv s → ends j (e.runJob v s j).outcome
  session : ∀ s j, inv s → inv (e.runJob v s j).session

/-- What taking a job comes to: it is cancelled, skipped or run. -/
theorem takeJob_cases (e : Executor) (v : Volume) (c : Course) (j : Job) :
    (c.left = some 0 ∧ e.takeJob v c j = ([], .cancelled, c)) ∨
    (c.stopped = true ∧
      e.takeJob v c j = ([], .skipped, { c with left := c.left.map (· - 1) })) ∨
    (c.stopped = false ∧ e.takeJob v c j =
      ((e.runJob v c.session j).records, (e.runJob v c.session j).outcome,
        e.after c (e.runJob v c.session j))) := by
  unfold takeJob
  by_cases hleft : c.left = some 0
  · exact .inl ⟨hleft, if_pos hleft⟩
  · rw [if_neg hleft]
    cases hstopped : c.stopped with
    | true => exact .inr (.inl ⟨rfl, rfl⟩)
    | false => exact .inr (.inr ⟨rfl, rfl⟩)

/-- Where the batch has come to after the jobs `before`, all of which have ended: only a job that
broke it sets a limit to the jobs that are still begun. -/
structure Reached (c : Course) (before : List (Job × Stage)) : Prop where
  ended : ∀ x ∈ before, x.2.isEnded = true
  broken : c.left ≠ none → ∃ i t, (i, .ended (.broken t)) ∈ before

theorem Reached.next {c c' : Course} {before : List (Job × Stage)} (h : Reached c before) {j : Job}
    {o : JobOutcome} (hleft : c'.left ≠ none → c.left ≠ none ∨ ∃ t, o = .broken t) :
    Reached c' (before ++ [(j, .ended o)]) where
  ended x hx := by
    rcases List.mem_append.mp hx with hx | hx
    · exact h.ended x hx
    · rw [List.mem_singleton.mp hx]
      rfl
  broken hc' := by
    rcases hleft hc' with hc | ⟨t, rfl⟩
    · obtain ⟨i, t, hi⟩ := h.broken hc
      exact ⟨i, t, List.mem_append_left _ hi⟩
    · exact ⟨j, t, by simp⟩

theorem left_after {c : Course} {run : JobRun} (h : (e.after c run).left ≠ none) :
    c.left ≠ none ∨ ∃ t, run.outcome = .broken t := by
  cases hleft : c.left with
  | some n => exact .inl (by simp)
  | none =>
    refine .inr ?_
    cases houtcome : run.outcome with
    | broken t => exact ⟨t, rfl⟩
    | _ => simp [after, hleft, houtcome, JobOutcome.trouble?] at h

/-- Between two jobs, the only worker is free. -/
theorem Reached.idle {c : Course} {before : List (Job × Stage)} (h : Reached c before)
    (jobs : List Job) (stop : Bool) :
    Pool.busy ⟨before ++ jobs.map fun j => (j, .waiting), stop⟩ < 1 := by
  rw [Nat.lt_one_iff]
  refine List.countP_eq_zero.mpr fun x hx => ?_
  rcases List.mem_append.mp hx with hx | hx
  · obtain ⟨o, ho⟩ := Stage.isEnded_iff.mp (h.ended x hx)
    simp [ho, Stage.isRunning]
  · obtain ⟨j, -, rfl⟩ := List.mem_map.mp hx
    simp [Stage.isRunning]

/-- A single worker that takes the jobs in order ends them as the executor does. -/
theorem run_of_runJobs {inv : Session → Prop} (hkeeps : Keeps e v ends inv) : ∀ (jobs : List Job)
    (c : Course) (before : List (Job × Stage)), inv c.session → Reached c before →
    ∃ stop', Pool.Run e.failFast 1 ends ⟨before ++ jobs.map fun j => (j, .waiting), c.stopped⟩
      ⟨before ++ (e.runJobs v c jobs).2.1.map fun x => (x.1, .ended x.2), stop'⟩
  | [], c, before, _, _ => ⟨c.stopped, .refl⟩
  | j :: jobs, c, before, hs, hreached => by
    have hfree := hreached.idle (j :: jobs)
    -- The rest of the run, from wherever this job has brought the batch.
    have hrest : ∀ {records : List Record} {o : JobOutcome} {c' : Course},
        e.takeJob v c j = (records, o, c') → inv c'.session →
        (c'.left ≠ none → c.left ≠ none ∨ ∃ t, o = .broken t) →
        ∃ stop', Pool.Run e.failFast 1 ends
          ⟨before ++ (j, .ended o) :: jobs.map fun j => (j, .waiting), c'.stopped⟩
          ⟨before ++ (e.runJobs v c (j :: jobs)).2.1.map fun x => (x.1, .ended x.2), stop'⟩ := by
      intro records o c' htake hs' hleft
      obtain ⟨stop', hrun⟩ := run_of_runJobs hkeeps jobs c' _ hs' (hreached.next hleft)
      exact ⟨stop', by simpa [runJobs, htake] using hrun⟩
    rcases takeJob_cases e v c j with ⟨hleft, htake⟩ | ⟨hstopped, htake⟩ | ⟨hstopped, htake⟩
    · obtain ⟨stop', hrun⟩ := hrest htake hs .inl
      obtain ⟨i, t, hi⟩ := hreached.broken (by simp [hleft])
      obtain ⟨front, between, rfl⟩ := List.append_of_mem hi
      refine ⟨stop', .head (.cancel front fun x hx => ?_) hrun⟩
      exact hreached.ended x (List.mem_append_left _ hx)
    · obtain ⟨stop', hrun⟩ := hrest htake hs (by cases c.left <;> simp)
      rw [hstopped] at hrun ⊢
      exact ⟨stop', .head (.skip before (hfree true)) hrun⟩
    · obtain ⟨stop', hrun⟩ := hrest htake (hkeeps.session _ j hs) left_after
      rw [hstopped]
      exact ⟨stop', .head (.start before (hfree false))
        (.head (.finish before (hkeeps.ends _ j hs)) hrun)⟩

/-- The executor's own run settles the batch. -/
theorem settled_runJobs {inv : Session → Prop} (hkeeps : Keeps e v ends inv) {s : Session}
    (hs : inv s) (jobs : List Job) :
    Pool.Settled e.failFast ends jobs (e.runJobs v { session := s } jobs).2.1 := by
  have hreached : Reached { session := s } [] := ⟨by simp, by simp⟩
  obtain ⟨stop, hrun⟩ := run_of_runJobs hkeeps jobs { session := s } [] hs hreached
  have hended : ∀ x ∈ [] ++ (e.runJobs v { session := s } jobs).2.1.map fun x =>
      (x.1, Stage.ended x.2), ∃ o, x.2 = .ended o := by
    intro x hx
    obtain ⟨y, -, rfl⟩ := List.mem_map.mp hx
    exact ⟨y.2, rfl⟩
  have hsettled := Pool.settled_of_run (by decide) (fun j => ⟨_, hkeeps.ends s j hs⟩) hrun
    (Pool.stuck_of_ended hended)
  simpa [Pool.outcomes, List.filterMap_map, Function.comp_def] using hsettled

end Executor

end BundleBuild
