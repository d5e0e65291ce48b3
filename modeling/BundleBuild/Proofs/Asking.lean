/-
What the compiler is asked, and when nothing is asked at all. A request that cannot be planned to
its end is refused as a whole: nothing was compiled or listed, and nothing was reported of a batch.
When it is planned, a job that is started asks the compiler once, or never where the tree cannot be
listed (`requests_runJob`), whether or not another job has listed the tree before it.

So what is left is that every job that was not skipped was started exactly once. For jobs run one
after another this is `requests_runJobs`. For workers side by side, `Traced` keeps the jobs in the
order they were started, and each step keeps the jobs that are begun and those that were started the
same, up to order (`Step.begun`).
-/
import BundleBuild.Proofs.Accounting
import BundleBuild.Proofs.Preparing

namespace BundleBuild

/-- Whether the job was started: it was neither skipped nor cancelled. -/
def JobOutcome.isBegun : JobOutcome → Bool
  | .skipped => false
  | .cancelled => false
  | _ => true

theorem Job.Ends.isBegun {j : Job} {o : JobOutcome} (h : j.Ends o) : o.isBegun = true := by
  cases h <;> rfl

theorem Job.Recorded.eq_skipped_iff {j : Job} {o : JobOutcome} (h : j.Recorded o) :
    o = .skipped ↔ o.isBegun = false := by
  rcases h with rfl | hends
  · simp [JobOutcome.isBegun]
  · cases hends <;> simp [JobOutcome.isBegun]

theorem Job.isBegun_ended (j : Job) (count : Nat) (result : Except Trouble Datum) :
    (j.ended count result).isBegun = true := by
  unfold ended
  split <;> split <;> rfl

/-- The jobs that were started. -/
def begun (outcomes : List (Job × JobOutcome)) : List Job :=
  (outcomes.filter (·.2.isBegun)).map (·.1)

/-! ## One job after another -/

namespace Executor

variable {e : Executor} {v : Volume} {t : SourceTree} {s : Session}

/-- What the compiler is asked for a job that is started: one request when the tree can be listed,
and else none. -/
def callsOf (v : Volume) (t : SourceTree) (j : Job) : List CompileRequest :=
  match (t.files v).result with
  | .ok (listed, _) => [requestOf j (t.relevantAmong j.platform listed)]
  | .error _ => []

theorem isBegun_runJob (e : Executor) (v : Volume) (s : Session) (j : Job) :
    (e.runJob v s j).outcome.isBegun = true := by
  obtain ⟨count, result, hended⟩ := runJob_ended e v s j
  rw [hended]
  exact j.isBegun_ended count result

theorem requests_runJob (hs : Fresh v t s) (j : Job) :
    (e.runJob v s j).session.requests = s.requests ++ callsOf v t j ∧
      Fresh v t (e.runJob v s j).session ∧ (e.runJob v s j).outcome.isBegun = true := by
  unfold callsOf
  cases hlist : (t.files v).result with
  | error trouble =>
    have ht : (t.relevantFiles v j.platform).result = .error trouble := by
      simp [SourceTree.relevantFiles, bind, hlist]
    rcases relevantFiles_cases hs j.platform with ⟨_, hfiles, -⟩ | ⟨_, _, _, -, hlisted, -⟩
    · obtain ⟨ho, hsession⟩ := runJob_unlisted (e := e) hfiles
      rw [ho, hsession]
      exact ⟨by simp, hs, rfl⟩
    · rw [ht] at hlisted
      cases hlisted
  | ok found =>
    obtain ⟨listed, t'⟩ := found
    have ht := SourceTree.relevantFiles_of_files hlist j.platform
    rcases relevantFiles_cases hs j.platform with
      ⟨_, -, hunlisted⟩ | ⟨files, tree, _, hfiles, hlisted, hfresh⟩
    · rw [ht] at hunlisted
      cases hunlisted
    · rw [ht] at hlisted
      cases hlisted
      obtain ⟨ho, hsession⟩ := runJob_listed (e := e) hfiles
      rw [ho, hsession]
      exact ⟨rfl, hfresh _, j.isBegun_ended _ _⟩

/-- A job that is taken asks for itself when it is started, and not at all otherwise. -/
theorem requests_takeJob {c : Course} (hs : Fresh v t c.session) (j : Job) :
    (e.takeJob v c j).2.2.session.requests = c.session.requests ++
        (begun [(j, (e.takeJob v c j).2.1)]).flatMap (callsOf v t) ∧
      Fresh v t (e.takeJob v c j).2.2.session := by
  rcases takeJob_cases e v c j with ⟨-, htake⟩ | ⟨-, htake⟩ | ⟨-, htake⟩
  · rw [htake]
    exact ⟨by simp [begun, JobOutcome.isBegun], hs⟩
  · rw [htake]
    exact ⟨by simp [begun, JobOutcome.isBegun], hs⟩
  · obtain ⟨hrequests, hfresh, hstarted⟩ := requests_runJob (e := e) hs j
    rw [htake]
    exact ⟨hrequests.trans (by simp [begun, hstarted]), hfresh⟩

theorem requests_runJobs : ∀ (jobs : List Job) (c : Course), Fresh v t c.session →
    (e.runJobs v c jobs).2.2.session.requests =
      c.session.requests ++ (begun (e.runJobs v c jobs).2.1).flatMap (callsOf v t)
  | [], c, _ => by simp [runJobs, begun]
  | j :: jobs, c, hs => by
    obtain ⟨hrequests, hfresh⟩ := requests_takeJob (e := e) hs j
    have ih := requests_runJobs jobs (e.takeJob v c j).2.2 hfresh
    have hsplit : begun (e.runJobs v c (j :: jobs)).2.1 =
        begun [(j, (e.takeJob v c j).2.1)] ++
          begun (e.runJobs v (e.takeJob v c j).2.2 jobs).2.1 := by
      simp only [runJobs, begun, ← List.map_append, ← List.filter_append, List.singleton_append]
    rw [hsplit, List.flatMap_append, ← List.append_assoc, ← hrequests, ← ih]
    rfl

end Executor

/-! ## Workers side by side -/

/-- A job that is running, or has ended after it was started. -/
def Stage.isBegun : Stage → Bool
  | .waiting => false
  | .running => true
  | .ended o => o.isBegun

namespace Pool

variable {failFast : Bool} {workers : Nat} {ends : Job → JobOutcome → Prop} {planned : List Job}
  {p q : Pool}

/-- The jobs that one pool has waiting and the next one running. -/
def taken (p q : Pool) : List Job :=
  (p.jobs.zip q.jobs).filterMap fun x => match x.1.2, x.2.2 with
    | .waiting, .running => some x.1.1
    | _, _ => none

/-- A run of a batch with the jobs it has started, in the order they were started. -/
inductive Traced (failFast : Bool) (workers : Nat) (ends : Job → JobOutcome → Prop)
    (planned : List Job) : List Job → Pool → Prop
  | opened : Traced failFast workers ends planned [] (opened planned)
  | step {started : List Job} {p q : Pool} : Traced failFast workers ends planned started p →
    Step failFast workers ends p q →
    Traced failFast workers ends planned (started ++ p.taken q) q

theorem Traced.run {started : List Job} (h : Traced failFast workers ends planned started p) :
    Run failFast workers ends (Pool.opened planned) p := by
  induction h with
  | opened => exact .refl
  | step _ hstep ih => exact ih.tail hstep

/-- The jobs that have been started, in the order of the plan. -/
def begunJobs (p : Pool) : List Job :=
  (p.jobs.filter (·.2.isBegun)).map (·.1)

theorem taken_same (jobs : List (Job × Stage)) :
    ((jobs.zip jobs).filterMap fun x => match x.1.2, x.2.2 with
      | .waiting, .running => some x.1.1
      | _, _ => none) = [] := by
  induction jobs with
  | nil => rfl
  | cons x jobs ih =>
    obtain ⟨j, stage⟩ := x
    cases stage <;> simpa using ih

/-- When one job moves on, no other job is taken. -/
theorem taken_moved {before after : List (Job × Stage)} {j : Job} {stage stage' : Stage}
    {stopped stopped' : Bool} :
    taken ⟨before ++ (j, stage) :: after, stopped⟩ ⟨before ++ (j, stage') :: after, stopped'⟩ =
      taken ⟨[(j, stage)], stopped⟩ ⟨[(j, stage')], stopped'⟩ := by
  simp only [taken]
  rw [List.zip_append rfl, List.filterMap_append, taken_same, List.nil_append,
    List.zip_cons_cons, ← List.singleton_append, List.filterMap_append, taken_same,
    List.append_nil]
  rfl

/-- A step begins the jobs that it takes, and no others. -/
theorem Step.begun (h : Step failFast workers ends p q)
    (hends : ∀ j o, ends j o → o.isBegun = true) :
    q.begunJobs.Perm (p.begunJobs ++ p.taken q) := by
  cases h with
  | @start before after j hfree =>
    rw [taken_moved]
    simp only [begunJobs, List.filter_append, List.map_append, Stage.isBegun, taken]
    simp only [List.filter_cons]
    simpa using List.perm_middle.trans (List.perm_append_singleton _ _).symm
  | @skip before after j hfree =>
    rw [taken_moved]
    simp [begunJobs, taken, Stage.isBegun, JobOutcome.isBegun]
  | @finish before after j o stopped ho =>
    rw [taken_moved]
    simp [begunJobs, taken, Stage.isBegun, hends j o ho]
  | @cancel before between after i j t stopped hbefore =>
    rw [taken_moved]
    simp [begunJobs, taken, Stage.isBegun, JobOutcome.isBegun]

theorem Traced.begun {started : List Job} (h : Traced failFast workers ends planned started p)
    (hends : ∀ j o, ends j o → o.isBegun = true) : started.Perm p.begunJobs := by
  induction h with
  | opened => simp [begunJobs, Pool.opened, Stage.isBegun]
  | step _ hstep ih => exact (ih.append_right _).trans (hstep.begun hends).symm

end Pool

/-! ## Bundles that were not skipped -/

/-- The bundle is among those that the result of its unit lists as skipped. -/
def Batch.skips (b : Batch) (x : Bundle) : Bool :=
  b.results.any fun r => r.unit == x.name && r.skipped.contains x.input.artifact

namespace Executor

variable {e : Executor} {v : Volume} {s : Session} {requested : Option (List String)}
  {selected : Entries BuildUnit} {wanted : List Bundle} {jobs : List Job}
  {outcomes : List (Job × JobOutcome)}

/-- The unit and the artifact that a job is for. -/
def jobKey (j : Job) : String × String :=
  (j.unit, j.input.artifact)

/-- No two requested bundles have both unit and artifact in common. -/
theorem nodup_bundlesOf (h : selected.names.Nodup) :
    ((bundlesOf selected).map fun x => (x.name, x.input.artifact)).Nodup := by
  simp only [bundlesOf, List.map_flatMap, List.map_map]
  refine List.nodup_flatMap.mpr ⟨fun x _ => ?_, ?_⟩
  · have hpair : Function.Injective (Prod.mk x.1 : String → String × String) :=
      fun _ _ h => (Prod.mk.inj h).2
    have hartifacts := x.2.nodup_artifacts.map hpair
    rwa [List.map_map] at hartifacts
  · refine (List.pairwise_map.mp h).imp ?_
    intro x y hne key hx hy
    obtain ⟨i, -, rfl⟩ := List.mem_map.mp hx
    obtain ⟨j, -, heq⟩ := List.mem_map.mp hy
    exact hne (congrArg Prod.fst heq).symm

theorem keys_of_plans (h : List.Forall₂ e.Plans wanted jobs) :
    wanted.map (fun x => (x.name, x.input.artifact)) = jobs.map jobKey := by
  induction h with
  | nil => rfl
  | cons hplan _ ih =>
    obtain ⟨o, -, rfl⟩ := hplan
    rw [List.map_cons, List.map_cons, ih]
    rfl

/-- A bundle is listed as skipped when the job for it was skipped. -/
theorem skips_iff {x : Bundle} (hx : x.name ∈ selected.names) :
    (Batch.mk (selected.map fun y =>
        resultOf y.1 y.2 (outcomes.filter (·.1.unit = y.1)))).skips x = true ↔
      ∃ y ∈ outcomes, jobKey y.1 = (x.name, x.input.artifact) ∧ y.2 = .skipped := by
  have hskipped : ∀ y : Job × JobOutcome, y.1.skipped? y.2 = some x.input.artifact ↔
      y.1.input.artifact = x.input.artifact ∧ y.2 = .skipped := by
    rintro ⟨j, o⟩
    cases o <;> simp [Job.skipped?]
  simp only [Batch.skips, List.any_map, List.any_eq_true, Function.comp_apply, Bool.and_eq_true,
    beq_iff_eq, resultOf, List.contains_eq_mem, decide_eq_true_eq, List.mem_filterMap,
    List.mem_filter, hskipped, jobKey, Prod.mk.injEq]
  constructor
  · rintro ⟨z, -, hz, y, ⟨hy, hyz⟩, hartifact, hskip⟩
    exact ⟨y, hy, ⟨hyz.trans hz, hartifact⟩, hskip⟩
  · rintro ⟨y, hy, ⟨hunit, hartifact⟩, hskip⟩
    obtain ⟨z, hz, hzx⟩ := List.mem_map.mp hx
    exact ⟨z, hz, hzx, y, ⟨hy, hunit.trans hzx.symm⟩, hartifact, hskip⟩

/-- The jobs that were started are those of the bundles that are not listed as skipped. -/
theorem begun_plans (hnodup : selected.names.Nodup) (hrec : ∀ x ∈ outcomes, x.1.Recorded x.2)
    (hplans : List.Forall₂ e.Plans (bundlesOf selected) (outcomes.map (·.1))) :
    List.Forall₂ e.Plans
      ((bundlesOf selected).filter fun x => !(Batch.mk (selected.map fun y =>
        resultOf y.1 y.2 (outcomes.filter (·.1.unit = y.1)))).skips x)
      (begun outcomes) := by
  have hkeys := keys_of_plans hplans
  have hunique : (outcomes.map fun y => jobKey y.1).Nodup := by
    rw [List.map_map] at hkeys
    exact hkeys ▸ nodup_bundlesOf hnodup
  rw [List.forall₂_map_right_iff] at hplans
  rw [begun, List.forall₂_map_right_iff]
  -- Each bundle with the outcome of its job.
  have hpairs : List.Forall₂ (fun x y => (e.Plans x y.1 ∧ x ∈ bundlesOf selected) ∧ y ∈ outcomes)
      (bundlesOf selected) outcomes := by
    rw [List.forall₂_iff_zip]
    refine ⟨hplans.length_eq, fun h => ⟨⟨List.forall₂_zip hplans h, ?_⟩, ?_⟩⟩
    · exact (List.of_mem_zip h).1
    · exact (List.of_mem_zip h).2
  refine (List.rel_filter ?_ hpairs).imp fun _ _ h => h.1.1
  rintro x y ⟨⟨⟨o, -, hjob⟩, hx⟩, hy⟩
  have hname : x.name ∈ selected.names := by
    obtain ⟨z, hz, hxz⟩ := List.mem_flatMap.mp hx
    obtain ⟨i, -, rfl⟩ := List.mem_map.mp hxz
    exact List.mem_map_of_mem hz
  have hkey : jobKey y.1 = (x.name, x.input.artifact) := by rw [← hjob]; rfl
  have hsame : (Batch.mk (selected.map fun y =>
      resultOf y.1 y.2 (outcomes.filter (·.1.unit = y.1)))).skips x = true ↔
      y.2.isBegun = false := by
    rw [skips_iff hname, ← (hrec y hy).eq_skipped_iff]
    constructor
    · rintro ⟨z, hz, hzkey, hskip⟩
      rwa [List.inj_on_of_nodup_map hunique hy hz (hkey.trans hzkey.symm)]
    · exact fun hskip => ⟨y, hy, hkey, hskip⟩
  simpa using not_congr hsame

/-! ## All or nothing -/

/-- The batch was refused: the compiler was not asked, the tree keeps what it kept, and nothing was
reported of a batch. -/
structure Refused (run : Logged Batch × Session) (s : Session) (t : Trouble) : Prop where
  result : run.1.result = .error t
  session : run.2 = s
  quiet : ∀ n, .notice n ∈ run.1.records → n.channel ≠ .executor

/-- The request that the compiler is sent for a bundle, given the listing of the tree. -/
def Asks (e : Executor) (t : SourceTree) (listed : List Path) (x : Bundle) (r : CompileRequest) :
    Prop :=
  ∃ o, e.catalog.Settled x o ∧
    r = ⟨t.relevantAmong x.unit.platform listed, x.input.entrySymbol, o⟩

theorem asks_callsOf {listed : List Path} {tree : SourceTree}
    (hlist : (s.tree.files v).result = .ok (listed, tree)) (h : List.Forall₂ e.Plans wanted jobs) :
    List.Forall₂ (e.Asks s.tree listed) wanted (jobs.flatMap (callsOf v s.tree)) := by
  have hcalls : callsOf v s.tree =
      fun j => [requestOf j (s.tree.relevantAmong j.platform listed)] := by
    funext j
    simp [callsOf, hlist]
  rw [hcalls, ← List.map_eq_flatMap, List.forall₂_map_right_iff]
  refine h.imp fun x j hplan => ?_
  obtain ⟨o, ho, rfl⟩ := hplan
  exact ⟨o, ho, rfl⟩

theorem session_executeMany (hplan : e.prepare requested = .ok (selected, jobs))
    (hpool : e.poolTrouble? = none) :
    (e.executeMany v s requested).2 = (e.runJobs v { session := s } jobs).2.2.session := by
  simp [executeMany, hplan, hpool]

theorem prepare_eq_ok (h : e.prepare requested = .ok (selected, jobs)) :
    selected = e.catalog.named (requested.getD e.catalog.names) ∧ selected.names.Nodup ∧
      List.Forall₂ e.Plans (bundlesOf selected) jobs := by
  have hnodup := (planned_of_prepare h).nodup
  simp only [prepare, bind_eq_ok_iff, pure_eq_ok_iff, plan_eq_mapM, mapM_eq_ok_iff] at h
  obtain ⟨chosen, hselect, planned, hplans, heq⟩ := h
  cases heq
  exact ⟨Catalog.select_eq_named hselect, hnodup, hplans.imp fun _ _ => planBundle_eq_ok_iff.mp⟩

/-- Outcomes that settle a plan give a batch, and the jobs that were started are those of the
bundles it does not list as skipped. -/
theorem conclude_begun (hprepare : e.prepare requested = .ok (selected, jobs))
    (hset : Pool.Settled e.failFast Job.Ends jobs outcomes) :
    ∃ b, (conclude selected outcomes).result = .ok b ∧ List.Forall₂ e.Plans
      ((e.catalog.bundles (requested.getD e.catalog.names)).filter fun x => !b.skips x)
      (begun outcomes) := by
  obtain ⟨rfl, hnodup, hplans⟩ := prepare_eq_ok hprepare
  rw [← hset.plan] at hplans
  have hrec := hset.recorded
  exact ⟨_, conclude_eq fun x hx => (hrec x hx).whole, begun_plans hnodup hrec hplans⟩

/-- Between two sessions the compiler was asked once for each of the bundles, in order, or never
when the tree could not be listed. -/
structure AskedOnce (e : Executor) (v : Volume) (s s' : Session) (wanted : List Bundle) : Prop where
  listed : ∀ listed tree, (s.tree.files v).result = .ok (listed, tree) →
    ∃ requests, s'.requests = s.requests ++ requests ∧
      List.Forall₂ (e.Asks s.tree listed) wanted requests
  unlisted : ∀ t, (s.tree.files v).result = .error t → s'.requests = s.requests

theorem askedOnce_runJobs
    (h : List.Forall₂ e.Plans wanted (begun (e.runJobs v { session := s } jobs).2.1)) :
    AskedOnce e v s (e.runJobs v { session := s } jobs).2.2.session wanted := by
  have hrequests := requests_runJobs (e := e) jobs { session := s } (.inl rfl : Fresh v s.tree s)
  refine ⟨fun listed tree hlist => ⟨_, hrequests, asks_callsOf hlist h⟩, fun t ht => ?_⟩
  have hnone : callsOf v s.tree = fun _ => [] := by
    funext j
    simp [callsOf, ht]
  simp [hrequests, hnone]

end Executor

end BundleBuild
