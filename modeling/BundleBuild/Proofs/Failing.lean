/-
Why a batch fails. One scan of the sources serves all its jobs, so the failures of a batch are
faults of the source tree all or none: either the scan fails each job that is started
(`ComesTo.unlisted`), or whatever fails one comes from the compiler, which never fails in that way
(`CommandLine.foreign_compileWith`, `ComesTo.listed`).

This holds for every batch that workers come to with the compiler of a configuration (`ComesTo`),
in whatever order they take their turns, whatever becomes of each command, and whichever jobs are
skipped after a failure.
-/
import BundleBuild.Cli.Program
import BundleBuild.Proofs.Alone
import BundleBuild.Proofs.Ordering
import BundleBuild.Proofs.Preparing

namespace BundleBuild

/-! ## What the compiler runs into -/

/-- An error that is not a fault of the source tree. -/
structure Trouble.Foreign (t : Trouble) : Prop where
  kind : t.kind ≠ "SourceTreeError"
  handled : t.unhandled? = none

namespace Trouble

theorem Foreign.recordable {t : Trouble} (h : t.Foreign) : t.Recordable := by
  rw [Recordable, surfaced, h.handled, Option.getD_none, h.handled]

theorem foreign_system (cause : SystemCause) (subject : String) :
    (system cause subject).Foreign :=
  ⟨SourceTree.kind_system cause subject, rfl⟩

theorem foreign_badOption (flaw : OptionFlaw) : (badOption flaw).Foreign :=
  ⟨by cases flaw <;> exact of_decide_eq_true rfl, rfl⟩

theorem foreign_badLimit (flaw : LimitFlaw) : (badLimit flaw).Foreign :=
  ⟨by cases flaw <;> exact of_decide_eq_true rfl, rfl⟩

end Trouble

theorem foreign_defineLiteral {d : Datum} {t : Trouble} (h : defineLiteral d = .error t) :
    t.Foreign := by
  unfold defineLiteral at h
  split at h
  case h_2 =>
    split at h
    · cases h
    · cases h
      exact ⟨of_decide_eq_true rfl, rfl⟩
  case h_4 =>
    cases h
    exact ⟨of_decide_eq_true rfl, rfl⟩
  case h_6 =>
    split at h
    · cases h
    · cases h
      exact ⟨of_decide_eq_true rfl, rfl⟩
  all_goals cases h

namespace CompileRequest

theorem foreign_list {d : NamedData} {t : Trouble} (h : d.list.mapError .badOption = .error t) :
    t.Foreign := by
  cases hd : d.list with
  | ok es => rw [hd] at h; cases h
  | error flaw =>
    rw [hd] at h
    cases h
    exact Trouble.foreign_badOption flaw

theorem foreign_arguments {command : List String} {r : CompileRequest} {t : Trouble}
    (h : r.arguments command = .error t) : t.Foreign := by
  rcases bind_eq_error_iff.mp h with h | ⟨defines, -, h⟩
  · rcases bind_eq_error_iff.mp h with h | ⟨es, -, h⟩
    · exact foreign_list h
    · obtain ⟨⟨name, value⟩, -, h⟩ := mapM_eq_error h
      rcases bind_eq_error_iff.mp h with h | ⟨literal, -, h⟩
      · exact foreign_defineLiteral h
      · cases h
  · rcases bind_eq_error_iff.mp h with h | ⟨flags, -, h⟩
    · rcases bind_eq_error_iff.mp h with h | ⟨es, -, h⟩
      · exact foreign_list h
      · cases h
    · cases h

end CompileRequest

namespace CommandLine

variable {c : CommandLine} {r : CompileRequest} {t : Trouble}

theorem foreign_handed {words : List Word} (h : handed words = .error t) : t.Foreign := by
  obtain ⟨word, -, hword⟩ := mapM_eq_error h
  cases word with
  | text => cases hword
  | unpaired =>
    cases hword
    exact ⟨of_decide_eq_true rfl, rfl⟩

theorem foreign_startTrouble (c : CommandLine) (r : CompileRequest) (name : String)
    (e : StartFailure) : (c.startTrouble r name e).Foreign := by
  have hmissing (subject : String) : (startTrouble.missing c r subject).Foreign := by
    unfold startTrouble.missing
    split <;> exact ⟨of_decide_eq_true rfl, rfl⟩
  unfold startTrouble
  split
  · exact hmissing _
  · exact Trouble.foreign_system _ _
  · exact hmissing _
  · exact Trouble.foreign_system _ _

theorem foreign_outcome {f : Shell.Finished} (h : c.outcome r f = .error t) : t.Foreign := by
  unfold outcome at h
  split at h
  · next flaw _ =>
    cases h
    exact Trouble.foreign_badLimit flaw
  · split at h
    · cases h
      exact ⟨of_decide_eq_true rfl, rfl⟩
    · split at h
      · cases h
      · cases h
        exact ⟨of_decide_eq_true rfl, rfl⟩

/-- What the result of the compiler is. -/
theorem result_compileWith (launch : Launch) (c : CommandLine) (v : Volume) (r : CompileRequest) :
    (c.compileWith launch v r).result = r.arguments c.command >>= fun args => handed args >>= fun
      | [] => .error .emptyCommand
      | name :: rest => match launch v c.sourceRoot name rest with
        | .error e => .error (c.startTrouble r name e)
        | .ok f => c.outcome r f := by
  simp only [compileWith, Logged.result_bind, Logged.result_lift]
  congr 1
  funext args
  cases handed args with
  | error t => rfl
  | ok words =>
    cases words with
    | nil => rfl
    | cons name rest =>
      cases hl : launch v c.sourceRoot name rest with
      | error e =>
        simp only [bind, Except.bind, hl]
        rfl
      | ok f =>
        simp only [bind, Except.bind, hl]
        exact Logged.result_lift _

/-- Whatever its command does, the compiler does not fail as the source tree does, and it ends in
nothing but errors. -/
theorem foreign_compileWith {launch : Launch} {v : Volume}
    (h : (c.compileWith launch v r).result = .error t) : t.Foreign := by
  rw [result_compileWith] at h
  rcases bind_eq_error_iff.mp h with h | ⟨args, -, h⟩
  · exact CompileRequest.foreign_arguments h
  · rcases bind_eq_error_iff.mp h with h | ⟨words, -, h⟩
    · exact foreign_handed h
    · split at h
      · cases h
        exact ⟨of_decide_eq_true rfl, rfl⟩
      · split at h
        · cases h
          exact foreign_startTrouble c r _ _
        · exact foreign_outcome h

end CommandLine

/-! ## What a batch holds -/

/-- The batch has an output for the bundle. -/
def Batch.Compiled (b : Batch) (x : Bundle) : Prop :=
  ∃ o ∈ b.outputs, o.unit = x.name ∧ o.input = x.input

/-- A result that succeeded has an output for each bundle of its unit. -/
theorem Accounted.outputs_of_succeeded {u : BuildUnit} {r : UnitResult} (hacc : Accounted u r)
    (hok : r.succeeded = true) : r.outputs.map (·.input) = u.inputs := by
  obtain ⟨fate, houtputs, -, -⟩ := hacc.fates
  have hlength : (u.inputs.filter (fate · = .output)).length = u.inputs.length := by
    rw [← houtputs, List.length_map, UnitResult.succeeded_iff.mp hok, hacc.inputs]
  rw [houtputs]
  exact List.filter_sublist.eq_of_length hlength

namespace AccountedBatch

variable {e : Executor} {requested : List String} {b : Batch}

/-- The results of a batch are told apart by their units. -/
theorem result_unique (h : AccountedBatch e requested b) {r r' : UnitResult} (hr : r ∈ b.results)
    (hr' : r' ∈ b.results) (hunit : r.unit = r'.unit) : r = r' := by
  have hnodup : (b.results.map (·.unit)).Nodup := h.units ▸ nodup_eraseDups requested
  exact List.inj_on_of_nodup_map hnodup hr hr' hunit

/-- An output is for a bundle of the unit it names. -/
theorem mem_outputs (h : AccountedBatch e requested b) {o : Output} (ho : o ∈ b.outputs) :
    ∃ u, e.catalog.units.get? o.unit = some u ∧ o.input ∈ u.inputs := by
  obtain ⟨r, hr, hor⟩ := List.mem_flatMap.mp ho
  obtain ⟨u, hu, hacc⟩ := h.results r hr
  obtain ⟨fate, houtputs, -, -⟩ := hacc.fates
  have hin : o.input ∈ u.inputs.filter (fate · = .output) :=
    houtputs ▸ List.mem_map_of_mem hor
  rw [hacc.units.1 o hor]
  exact ⟨u, Catalog.get_eq_ok_iff.mp hu, (List.mem_filter.mp hin).1⟩

/-- A batch succeeded when all its bundles were compiled. -/
theorem succeeded_iff (h : AccountedBatch e requested b) :
    b.succeeded = true ↔ ∀ x ∈ e.catalog.bundles requested, b.Compiled x := by
  constructor
  · intro hok x hx
    obtain ⟨hname, hu, hi⟩ := Catalog.mem_bundles_iff.mp hx
    have hin : x.name ∈ b.results.map (·.unit) := h.units ▸ List.mem_eraseDups.mpr hname
    obtain ⟨r, hr, hrx⟩ := List.mem_map.mp hin
    obtain ⟨u, hru, hacc⟩ := h.results r hr
    rw [hrx, Catalog.get_eq_ok_iff, hu] at hru
    cases hru
    rw [← hacc.outputs_of_succeeded (List.all_eq_true.mp hok r hr)] at hi
    obtain ⟨o, ho, hox⟩ := List.mem_map.mp hi
    exact ⟨o, List.mem_flatMap.mpr ⟨r, hr, ho⟩, (hacc.units.1 o ho).trans hrx, hox⟩
  · intro hall
    by_contra hnot
    obtain ⟨r, hr, hne⟩ :=
      Batch.failures_ne_nil_iff.mp (h.failed.mp (Bool.eq_false_iff.mpr hnot))
    obtain ⟨f, hf⟩ := List.exists_mem_of_ne_nil _ hne
    obtain ⟨u, hu, hacc⟩ := h.results r hr
    obtain ⟨fate, houtputs, hfailures, -⟩ := hacc.fates
    have hfailed : f.input ∈ u.inputs.filter (fate · = .failure) :=
      hfailures ▸ List.mem_map_of_mem hf
    obtain ⟨hi, hfate⟩ := List.mem_filter.mp hfailed
    have hname : r.unit ∈ requested :=
      List.mem_eraseDups.mp (h.units ▸ List.mem_map_of_mem hr)
    -- The bundle that failed would have an output in the same result.
    obtain ⟨o, ho, hunit, hinput⟩ := hall ⟨r.unit, u, f.input⟩
      (Catalog.mem_bundles_iff.mpr ⟨hname, Catalog.get_eq_ok_iff.mp hu, hi⟩)
    obtain ⟨r', hr', hor⟩ := List.mem_flatMap.mp ho
    obtain ⟨u', -, hacc'⟩ := h.results r' hr'
    have hsame := h.result_unique hr' hr ((hacc'.units.1 o hor).symm.trans hunit)
    subst hsame
    have houtput : o.input ∈ u.inputs.filter (fate · = .output) :=
      houtputs ▸ List.mem_map_of_mem hor
    rw [hinput] at houtput
    have hother := (List.mem_filter.mp houtput).2
    simp only [decide_eq_true_eq] at hfate hother
    rw [hfate] at hother
    cases hother

end AccountedBatch

namespace Executor

variable {e : Executor} {requested : List String} {selected : Entries BuildUnit}
  {jobs : List Job} {outcomes : List (Job × JobOutcome)} {b : Batch}

/-- The failures and the outputs of a batch are those of its outcomes. -/
theorem mem_failures_conclude (h : (conclude selected outcomes).result = .ok b) {f : Failure}
    (hf : f ∈ b.failures) : ∃ x ∈ outcomes, x.2 = .failed f := by
  rw [conclude_eq (whole_of_conclude h)] at h
  cases h
  obtain ⟨r, hr, hfr⟩ := List.mem_flatMap.mp hf
  obtain ⟨x, -, rfl⟩ := List.mem_map.mp hr
  obtain ⟨⟨j, o⟩, hy, hyf⟩ := List.mem_filterMap.mp hfr
  refine ⟨(j, o), (List.mem_filter.mp hy).1, ?_⟩
  cases o with
  | built | skipped | broken | cancelled => cases hyf
  | failed g =>
    cases hyf
    rfl

theorem mem_outputs_conclude (h : (conclude selected outcomes).result = .ok b) {o : Output}
    (ho : o ∈ b.outputs) : ∃ x ∈ outcomes, x.2.output? = some o := by
  rw [conclude_eq (whole_of_conclude h)] at h
  cases h
  obtain ⟨r, hr, hor⟩ := List.mem_flatMap.mp ho
  obtain ⟨x, -, rfl⟩ := List.mem_map.mp hr
  obtain ⟨y, hy, hyo⟩ := List.mem_filterMap.mp hor
  exact ⟨y, (List.mem_filter.mp hy).1, hyo⟩

/-- A plan for a request that names units has jobs. -/
theorem Planned.jobs_ne_nil (h : Planned e requested selected jobs) (hsome : requested ≠ []) :
    jobs ≠ [] := by
  obtain ⟨name, hname⟩ := List.exists_mem_of_ne_nil _ hsome
  have hin : name ∈ selected.names := h.names ▸ List.mem_eraseDups.mpr hname
  obtain ⟨x, hx, -⟩ := List.mem_map.mp hin
  rintro rfl
  have hinputs := inputs_of_planUnit (h.own x hx)
  cases hinputs

end Executor

/-! ## Batches that a configuration comes to -/

theorem Trouble.kind_tagged (artifact : String) (count : Nat) (t : Trouble) :
    (t.tagged artifact count).kind = t.kind := by
  unfold Trouble.tagged
  split <;> rfl

namespace Cli

variable {s : Surroundings} {catalog : Catalog} {v v' : Volume} {c : Config} {b : Batch}
  {requested : Option (List String)} {j : Job} {o : JobOutcome}

/-- The tree that a configuration's sources are in. -/
def treeOf (c : Config) : SourceTree :=
  (sessionOf c).tree

/-- What the compiler of a configuration answers when its commands end as `launch` says. -/
def answer (c : Config) (launch : CommandLine.Launch) (v : Volume) (r : CompileRequest) :
    Except Trouble (List UInt8) :=
  (c.commandLine.compileWith launch v r).result

/-- A way for a job to end, whatever becomes of its command. -/
def MayEnd (c : Config) (v : Volume) (j : Job) (o : JobOutcome) : Prop :=
  ∃ launch, o = Executor.outcomeOf (answer c launch v) v (treeOf c) j

theorem MayEnd.ends (h : MayEnd c v j o) : j.Ends o := by
  obtain ⟨launch, rfl⟩ := h
  refine Executor.ends_outcomeOf (Executor.whole_outcomeOf (fun r t ht => ?_) v (treeOf c) j)
  exact (CommandLine.foreign_compileWith ht).recordable

theorem MayEnd.unlisted {t : Trouble} (h : MayEnd c v j o)
    (hscan : (treeOf c).scanRoots v = .error t) : o = .failed (j.failure 0 t) := by
  obtain ⟨launch, rfl⟩ := h
  have hfiles := SourceTree.files_of_scanRoots_error rfl hscan
  simp [Executor.outcomeOf, SourceTree.relevantFiles, bind, hfiles]

theorem MayEnd.listed {found : List Path} {f : Failure} (h : MayEnd c v j (.failed f))
    (hscan : (treeOf c).scanRoots v = .ok found) : f.errorKind ≠ "SourceTreeError" := by
  obtain ⟨launch, hlaunch⟩ := h
  have hfiles := SourceTree.relevantFiles_of_files (SourceTree.files_of_scanRoots rfl hscan)
    j.platform
  simp only [Executor.outcomeOf, hfiles] at hlaunch
  generalize (treeOf c).relevantAmong j.platform _ = files at hlaunch
  cases hanswer : answer c launch v (Executor.requestOf j files) with
  | ok content =>
    rw [hanswer] at hlaunch
    cases hlaunch
  | error t =>
    have hforeign := CommandLine.foreign_compileWith hanswer
    rw [hanswer, Except.map, Executor.answered_error hforeign.recordable] at hlaunch
    cases hlaunch
    have hhandled := (Trouble.unhandled?_tagged t j.input.artifact files.length).trans
      hforeign.handled
    show (t.tagged _ _).surfaced.kind ≠ _
    rw [Trouble.surfaced, hhandled, Option.getD_none, Trouble.kind_tagged]
    exact hforeign.kind

/-- A batch that workers may come to for a request: each of its jobs ended in one of its ways, or
was skipped after a failure that was to stop the others. -/
def ComesTo (s : Surroundings) (catalog : Catalog) (v : Volume) (c : Config)
    (requested : Option (List String)) (b : Batch) : Prop :=
  ∃ selected jobs outcomes, (executorOf s c catalog).prepare requested = .ok (selected, jobs) ∧
    Pool.Settled c.failFast (MayEnd c v) jobs outcomes ∧
    (Executor.conclude selected outcomes).result = .ok b

/-- The executor's own order is one way to come to a batch. -/
theorem comesTo_executeMany
    (h : ((executorOf s c catalog).executeMany v (sessionOf c) requested).1.result = .ok b) :
    ComesTo s catalog v c requested b := by
  obtain ⟨selected, jobs, hplan, -, hb⟩ := Executor.executeMany_eq_ok h
  have hanswers : (executorOf s c catalog).Answers v (answer c s.launch v) := fun _ _ => rfl
  have hset := Executor.settled_runJobs (Executor.keeps_fresh hanswers (treeOf c)) (.inl rfl) jobs
  exact ⟨selected, jobs, _, hplan, hset.mono fun j o ho => ⟨s.launch, ho⟩, hb⟩

/-- Any other order, of any number of workers, is another. -/
theorem comesTo_interleaved {selected : Entries BuildUnit} {jobs : List Job}
    (hplan : (executorOf s c catalog).prepare requested = .ok (selected, jobs)) {workers : Nat}
    (hworkers : 0 < workers) {p : Pool}
    (hrun : Pool.Run c.failFast workers (MayEnd c v) (Pool.opened jobs) p)
    (hstuck : ∀ q, ¬ Pool.Step c.failFast workers (MayEnd c v) p q) :
    ∃ b, (Executor.conclude selected p.outcomes).result = .ok b ∧
      ComesTo s catalog v c requested b := by
  have hends : ∀ j, ∃ o, MayEnd c v j o := fun j => ⟨_, s.launch, rfl⟩
  have hset := Pool.settled_of_run hworkers hends hrun hstuck
  have hb : (Executor.conclude selected p.outcomes).result = _ :=
    conclude_eq (hset.whole fun _ _ _ hmay => Job.Recorded.whole (.inr hmay.ends))
  exact ⟨_, hb, selected, jobs, p.outcomes, hplan, hset, hb⟩

namespace ComesTo

theorem accounted (h : ComesTo s catalog v c requested b) :
    AccountedBatch (executorOf s c catalog) (requested.getD catalog.names) b := by
  obtain ⟨selected, jobs, outcomes, hplan, hset, hb⟩ := h
  obtain ⟨b', hb', hacc⟩ := Executor.conclude_accounted (Executor.planned_of_prepare hplan)
    (hset.mono fun _ _ => MayEnd.ends)
  rw [hb] at hb'
  cases hb'
  exact hacc

/-- Sources that can be listed are not what fails a job. -/
theorem listed (h : ComesTo s catalog v c requested b) {found : List Path}
    (hscan : (treeOf c).scanRoots v = .ok found) :
    ∀ f ∈ b.failures, f.errorKind ≠ "SourceTreeError" := by
  obtain ⟨selected, jobs, outcomes, -, hset, hb⟩ := h
  intro f hf
  obtain ⟨⟨j, o⟩, hx, rfl⟩ := Executor.mem_failures_conclude hb hf
  rcases hset.uncancelled (whole_of_conclude hb) _ hx with ⟨hskip, -⟩ | hends
  · cases hskip
  · exact hends.listed hscan

/-- Sources that cannot be listed fail every job that is started, and one of them is. -/
theorem unlisted (h : ComesTo s catalog v c requested b) (hsome : requested.getD catalog.names ≠ [])
    {t : Trouble} (hscan : (treeOf c).scanRoots v = .error t) :
    b.outputs = [] ∧ b.succeeded = false ∧ ∀ f ∈ b.failures, f.errorKind = t.kind := by
  have hacc := h.accounted
  obtain ⟨selected, jobs, outcomes, hplan, hset, hb⟩ := h
  have hwhole := whole_of_conclude hb
  have hplanned := Executor.planned_of_prepare hplan
  refine ⟨?_, ?_, ?_⟩
  · refine List.eq_nil_iff_forall_not_mem.mpr fun out hout => ?_
    obtain ⟨⟨j, o⟩, hx, hxo⟩ := Executor.mem_outputs_conclude hb hout
    rcases hset.uncancelled hwhole _ hx with ⟨rfl, -⟩ | hmay
    · cases hxo
    · rw [hmay.unlisted hscan] at hxo
      cases hxo
  · -- A job that did not fail was skipped, and then another one failed.
    have hfailure : ∃ y ∈ outcomes, y.2.isFailure = true := by
      have hne : outcomes ≠ [] := by
        rintro rfl
        exact hplanned.jobs_ne_nil hsome hset.plan.symm
      obtain ⟨x, hx⟩ := List.exists_mem_of_ne_nil _ hne
      rcases hset.uncancelled hwhole x hx with ⟨-, -, hfailure⟩ | hmay
      · exact hfailure
      · exact ⟨x, hx, by rw [hmay.unlisted hscan]; rfl⟩
    rw [conclude_eq hwhole] at hb
    cases hb
    exact hacc.failed.mpr (Executor.failures_ne_nil hplanned hset.plan hfailure)
  · intro f hf
    obtain ⟨⟨j, o⟩, hx, rfl⟩ := Executor.mem_failures_conclude hb hf
    rcases hset.uncancelled hwhole _ hx with ⟨hskip, -⟩ | hmay
    · cases hskip
    · have hfailed := JobOutcome.failed.inj (hmay.unlisted hscan)
      rw [hfailed]
      rfl

end ComesTo

end Cli

end BundleBuild
