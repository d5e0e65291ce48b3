/-
What it takes for a shared artifact to be the same bundle everywhere. A catalog checks that bundles
under one name are for the same platform and have the same entry symbol, and nothing more. What the
compiler is handed also holds the options, and those are the work of each unit's own customizers. So
the outputs of a batch do not depend on the order of the request (`OrderFree`) for exactly the
catalogs whose units settle the same options for every bundle they share (`SameOptions`).
-/
import BundleBuild.Proofs.Acceptance
import BundleBuild.Proofs.Alone
import BundleBuild.Proofs.Writing

namespace BundleBuild

namespace Catalog

/-- The options of every bundle of the unit can be settled. -/
def Settles (c : Catalog) (u : BuildUnit) : Prop :=
  ∀ i ∈ u.inputs, ∃ o, c.optionsFor u i = .ok o

/-- Declared units settle the same options for bundles under one artifact name. -/
def SameOptions (c : Catalog) : Prop :=
  ∀ n m u w, c.units.get? n = some u → c.units.get? m = some w → c.Settles u → c.Settles w →
    ∀ i ∈ u.inputs, ∀ j ∈ w.inputs, i.artifact = j.artifact → c.optionsFor u i = c.optionsFor w j

end Catalog

namespace Executor

variable {e : Executor} {v : Volume} {s : Session} {t : SourceTree} {requested : List String}
  {selected : Entries BuildUnit} {jobs : List Job}
  {f : CompileRequest → Except Trouble (List UInt8)}

/-! ## The jobs and outputs of a batch -/

theorem exists_planUnit_iff {name : String} {u : BuildUnit} :
    (∃ own, e.planUnit name u = .ok own) ↔ e.catalog.Settles u := by
  constructor
  · rintro ⟨own, hown⟩ i hi
    rw [← inputs_of_planUnit hown] at hi
    obtain ⟨j, hj, rfl⟩ := List.mem_map.mp hi
    exact ⟨j.options, (mem_planUnit hown hj).2.2.2⟩
  · intro h
    refine exists_mapM_ok fun i hi => ?_
    obtain ⟨o, ho⟩ := h i hi
    exact ⟨_, by rw [ho]; rfl⟩

/-- The jobs of a plan are those of the requested units. -/
theorem Planned.mem_jobs_iff (h : Planned e requested selected jobs) {j : Job} :
    j ∈ jobs ↔ ∃ n ∈ requested, ∃ u own, e.catalog.units.get? n = some u ∧
      e.planUnit n u = .ok own ∧ j ∈ own := by
  have hnames : ∀ n, n ∈ requested ↔ ∃ x ∈ selected, x.1 = n := by
    intro n
    rw [← List.mem_eraseDups, ← h.names]
    simp only [Entries.names, List.mem_map]
  constructor
  · intro hj
    obtain ⟨x, hx, hxj⟩ := List.mem_map.mp (h.covered j hj)
    refine ⟨x.1, (hnames _).mpr ⟨x, hx, rfl⟩, x.2, _, h.declared x hx, h.own x hx, ?_⟩
    exact List.mem_filter.mpr ⟨hj, by simp [hxj]⟩
  · rintro ⟨n, hn, u, own, hu, hown, hj⟩
    obtain ⟨x, hx, rfl⟩ := (hnames n).mp hn
    have hxu : x.2 = u := Option.some.inj ((h.declared x hx).symm.trans hu)
    subst hxu
    rw [h.own x hx] at hown
    cases hown
    exact (List.mem_filter.mp hj).1

/-- What is known of an output: the compiler gave it for the job's request. -/
theorem content_outcomeOf {j : Job} {o : Output} (h : (outcomeOf f v t j).output? = some o) :
    o.artifact = j.input.artifact ∧ ∃ files tree,
      (t.relevantFiles v j.platform).result = .ok (files, tree) ∧
        f (requestOf j files) = .ok o.content := by
  unfold outcomeOf at h
  split at h
  · cases h
  · next files tree hfiles =>
    cases hanswer : f (requestOf j files) with
    | ok content =>
      rw [hanswer] at h
      cases h
      exact ⟨rfl, files, tree, hfiles, hanswer⟩
    | error trouble =>
      rw [hanswer, Except.map, answered, Except.mapError, Job.ended] at h
      split at h <;> cases h

theorem mem_outputs_alone (h : Planned e requested selected jobs) {o : Output} :
    o ∈ (Batch.mk (selected.map fun x =>
        resultAlone f v t x.1 x.2 (jobs.filter (·.unit = x.1)))).outputs ↔
      ∃ j ∈ jobs, (outcomeOf f v t j).output? = some o := by
  simp only [Batch.outputs, List.mem_flatMap, List.mem_map]
  constructor
  · rintro ⟨r, ⟨x, -, rfl⟩, ho⟩
    obtain ⟨y, hy, hyo⟩ := List.mem_filterMap.mp ho
    obtain ⟨j, hj, rfl⟩ := List.mem_map.mp hy
    exact ⟨j, (List.mem_filter.mp hj).1, hyo⟩
  · rintro ⟨j, hj, hjo⟩
    obtain ⟨x, hx, hxj⟩ := List.mem_map.mp (h.covered j hj)
    refine ⟨_, ⟨x, hx, rfl⟩, List.mem_filterMap.mpr ⟨(j, _), List.mem_map_of_mem ?_, hjo⟩⟩
    exact List.mem_filter.mpr ⟨hj, by simp [hxj]⟩

/-- A batch that succeeded, failing fast or not, has the results of its jobs on their own. -/
theorem executeMany_succeeded {requested : Option (List String)} {b : Batch} (hf : e.Answers v f)
    (h : (e.executeMany v s requested).1.result = .ok b) (hok : b.succeeded = true) :
    ∃ selected jobs, Planned e (requested.getD e.catalog.names) selected jobs ∧
      b = ⟨selected.map fun x => resultAlone f v s.tree x.1 x.2 (jobs.filter (·.unit = x.1))⟩ := by
  obtain ⟨selected, jobs, hplan, -, h⟩ := executeMany_eq_ok h
  have hplanned := planned_of_prepare hplan
  have hset := settled_runJobs (keeps_fresh hf s.tree) (.inl rfl) jobs
  generalize (e.runJobs v { session := s } jobs).2.1 = outcomes at h hset
  have hwhole := whole_of_conclude h
  have hends := hset.mono_of_whole hwhole
    fun j o (ho : o = outcomeOf f v s.tree j) hj => ho ▸ ends_outcomeOf (ho ▸ hj)
  obtain ⟨b', hb', haccounted⟩ := conclude_accounted hplanned hends
  have heq : b' = b := Except.ok.inj (hb'.symm.trans h)
  subst heq
  have hresults : (conclude selected outcomes).result = _ := conclude_eq hwhole
  rw [h] at hresults
  cases hresults
  have hown : ∀ x ∈ outcomes, x.2 = outcomeOf f v s.tree x.1 := by
    intro x hx
    rcases hset.uncancelled hwhole x hx with ⟨-, -, hfailure⟩ | hown
    · -- A job that was skipped was skipped after a failure, which the batch would show.
      have hfailed := failures_ne_nil hplanned hset.plan hfailure
      rw [haccounted.failed.mpr hfailed] at hok
      cases hok
    · exact hown
  have hall := outcomes_eq_map hset.plan hown
  subst hall
  refine ⟨selected, jobs, hplanned, ?_⟩
  simp only [resultAlone, List.filter_map, Function.comp_def]

/-! ## Two orders of one request -/

/-- Two batches of the same units, asked for in two orders, everything in both of them built by a
compiler that answers to the request alone. -/
structure Reordered (e : Executor) (v : Volume) (s : Session) (b b' : Batch) : Prop where
  answers : ∃ f, e.Answers v f
  requests : ∃ requested requested' : List String, (∀ n, n ∈ requested ↔ n ∈ requested') ∧
    (e.executeMany v s (some requested)).1.result = .ok b ∧
    (e.executeMany v s (some requested')).1.result = .ok b'
  built : b.succeeded = true ∧ b'.succeeded = true

/-- Whatever the order of a request, the last output of each artifact name has the same content. -/
def OrderFree (c : Catalog) : Prop :=
  ∀ (e : Executor) (v : Volume) (s : Session) (b b' : Batch), e.catalog = c →
    Reordered e v s b b' → ∀ a, lastContent a b.outputs = lastContent a b'.outputs

/-- Jobs of one artifact name make the same request, when their options are the same. -/
theorem same_request (hsame : e.catalog.SameOptions)
    (hplan : Planned e requested selected jobs) {j k : Job}
    (hj : j ∈ jobs) (hk : k ∈ jobs) (hartifact : j.input.artifact = k.input.artifact) :
    j.platform = k.platform ∧ requestOf j = requestOf k := by
  obtain ⟨n, -, u, own, hu, hown, hjown⟩ := hplan.mem_jobs_iff.mp hj
  obtain ⟨m, -, w, own', hw, hown', hkown⟩ := hplan.mem_jobs_iff.mp hk
  obtain ⟨-, hju, hjin, hjo⟩ := mem_planUnit hown hjown
  obtain ⟨-, hkw, hkin, hko⟩ := mem_planUnit hown' hkown
  obtain ⟨hplatform, hentry⟩ := Catalog.same_bundle (Entries.mem_of_get? hu)
    (Entries.mem_of_get? hw) hjin hkin hartifact
  have hoptions := hsame n m u w hu hw (exists_planUnit_iff.mp ⟨own, hown⟩)
    (exists_planUnit_iff.mp ⟨own', hown'⟩) _ hjin _ hkin hartifact
  rw [hjo, hko] at hoptions
  refine ⟨hju.trans (hplatform.trans hkw.symm), ?_⟩
  funext files
  rw [requestOf, requestOf, hentry, Except.ok.inj hoptions]

theorem orderFree_of_sameOptions {c : Catalog} (hsame : c.SameOptions) : OrderFree c := by
  rintro e v s b b' rfl ⟨⟨f, hf⟩, ⟨requested, requested', hnames, hb, hb'⟩, hok, hok'⟩
  obtain ⟨selected, jobs, hplan, rfl⟩ := executeMany_succeeded hf hb hok
  obtain ⟨selected', jobs', hplan', rfl⟩ := executeMany_succeeded hf hb' hok'
  have hjobs : ∀ j, j ∈ jobs ↔ j ∈ jobs' := by
    intro j
    rw [hplan.mem_jobs_iff, hplan'.mem_jobs_iff]
    simp only [Option.getD_some, hnames]
  apply lastContent_congr
  · intro o
    rw [mem_outputs_alone hplan, mem_outputs_alone hplan']
    simp only [hjobs]
  · intro o ho o' ho' hartifact
    obtain ⟨j, hj, hjo⟩ := (mem_outputs_alone hplan).mp ho
    obtain ⟨k, hk, hko⟩ := (mem_outputs_alone hplan).mp ho'
    obtain ⟨hja, files, tree, hfiles, hcontent⟩ := content_outcomeOf hjo
    obtain ⟨hka, files', tree', hfiles', hcontent'⟩ := content_outcomeOf hko
    obtain ⟨hplatform, hrequest⟩ := same_request hsame hplan hj hk
      (hja.symm.trans (hartifact.trans hka))
    rw [hplatform, hfiles'] at hfiles
    cases hfiles
    rw [hrequest, hcontent'] at hcontent
    exact (Except.ok.inj hcontent).symm

/-! ## A compiler that shows its options -/

open Classical in
/-- One byte that tells the given options from all others. -/
noncomputable def mark (options : Options) (given : Options) : List UInt8 :=
  if given = options then [0] else [1]

/-- Builds the units of a catalog with a compiler that answers with this byte. -/
noncomputable def marking (c : Catalog) (options : Options) : Executor where
  catalog := c
  compile _ _ r := ⟨[], .ok (.bytes (mark options r.options))⟩
  workers := .ofInt 1
  failFast := false

/-- What this compiler gives for a job, out of a tree that keeps a listing. -/
noncomputable def markedOutput (options : Options) (j : Job) : Output where
  unit := j.unit
  artifact := j.input.artifact
  entrySymbol := j.input.entrySymbol
  fileCount := (listedSession.tree.relevantAmong j.platform [Path.relative ["lib", "a.js"]]).length
  content := mark options j.options

/-- The result of a unit whose jobs all end this way. -/
noncomputable def markedResult (options : Options) (name : String) (u : BuildUnit)
    (own : List Job) : UnitResult :=
  resultAlone (fun r => .ok (mark options r.options)) .empty listedSession.tree name u own

theorem outputs_markedResult (options : Options) (name : String) (u : BuildUnit)
    (own : List Job) :
    (markedResult options name u own).outputs = own.map (markedOutput options) := by
  simp only [markedResult, resultAlone, resultOf, List.filterMap_map]
  induction own with
  | nil => rfl
  | cons j own ih =>
    rw [List.map_cons, ← ih]
    rfl

theorem succeeded_markedResult {c : Catalog} {options : Options} {name : String} {u : BuildUnit}
    {own : List Job} (h : (marking c options).planUnit name u = .ok own) :
    (markedResult options name u own).succeeded = true := by
  rw [UnitResult.succeeded_iff, outputs_markedResult, List.length_map, markedResult, resultAlone,
    resultOf, ← inputs_of_planUnit h, List.length_map]

/-- The last output of a bundle of the unit shows the options that were settled for it. -/
theorem lastContent_markedResult {c : Catalog} {options : Options} {name : String} {u : BuildUnit}
    {own : List Job} (h : (marking c options).planUnit name u = .ok own) {i : Input}
    {settled : Options} (hi : i ∈ u.inputs) (ho : c.optionsFor u i = .ok settled) :
    lastContent i.artifact (markedResult options name u own).outputs =
      some (mark options settled) := by
  have hjobs : ∀ j ∈ own, j.input.artifact = i.artifact → j.options = settled := by
    intro j hj hartifact
    obtain ⟨-, -, hin, hoptions⟩ := mem_planUnit h hj
    have hinput : j.input = i := List.inj_on_of_nodup_map u.nodup_artifacts hin hi hartifact
    rw [hinput] at hoptions
    exact Except.ok.inj (hoptions.symm.trans ho)
  rw [← inputs_of_planUnit h] at hi
  obtain ⟨j, hj, rfl⟩ := List.mem_map.mp hi
  rw [outputs_markedResult]
  obtain ⟨content, hlast⟩ := exists_lastContent (List.mem_map_of_mem (f := markedOutput options) hj)
  obtain ⟨o, ho', hartifact, rfl⟩ := mem_of_lastContent hlast
  obtain ⟨k, hk, rfl⟩ := List.mem_map.mp ho'
  have hmark : (markedOutput options k).content = mark options settled := by
    rw [← hjobs k hk hartifact]
    rfl
  rw [← hmark]
  exact hlast

/-- The batch of two units, in the order they are asked for. -/
theorem executeMany_marking {c : Catalog} {options : Options} {n m : String} {u w : BuildUnit}
    {own own' : List Job} (hne : n ≠ m) (hu : c.units.get? n = some u)
    (hw : c.units.get? m = some w) (hown : (marking c options).planUnit n u = .ok own)
    (hown' : (marking c options).planUnit m w = .ok own') :
    ((marking c options).executeMany .empty listedSession (some [n, m])).1.result =
      .ok ⟨[markedResult options n u own, markedResult options m w own']⟩ := by
  have hdeclared : ∀ x ∈ [(n, u), (m, w)],
      (marking c options).catalog.units.get? x.1 = some x.2 := by
    simpa using ⟨hu, hw⟩
  have hplans : List.Forall₂ (fun x own => (marking c options).planUnit x.1 x.2 = .ok own)
      [(n, u), (m, w)] [own, own'] := by
    simpa using ⟨hown, hown'⟩
  have hplan : (marking c options).prepare (some [n, m]) =
      .ok ([(n, u), (m, w)], [own, own'].flatten) :=
    prepare_names (by simpa [Entries.names] using hne) hdeclared hplans
  have hplanned := planned_of_prepare hplan
  have hfirst := hplanned.own (n, u) (by simp)
  have hsecond := hplanned.own (m, w) (by simp)
  rw [hown] at hfirst
  rw [hown'] at hsecond
  rw [executeMany_alone (f := fun r => .ok (mark options r.options)) (fun _ _ => rfl)
    (fun _ _ h => by cases h) rfl rfl hplan]
  simp only [List.map_cons, List.map_nil, ← Except.ok.inj hfirst, ← Except.ok.inj hsecond]
  rfl

theorem sameOptions_of_orderFree {c : Catalog} (h : OrderFree c) : c.SameOptions := by
  intro n m u w hu hw hsu hsw i hi j hj hartifact
  by_cases hne : n = m
  · subst hne
    obtain rfl : u = w := Option.some.inj (hu.symm.trans hw)
    rw [List.inj_on_of_nodup_map u.nodup_artifacts hi hj hartifact]
  · obtain ⟨p, hp⟩ := hsu i hi
    obtain ⟨q, hq⟩ := hsw j hj
    obtain ⟨own, hown⟩ : ∃ own, (marking c p).planUnit n u = .ok own :=
      exists_planUnit_iff.mpr hsu
    obtain ⟨own', hown'⟩ : ∃ own, (marking c p).planUnit m w = .ok own :=
      exists_planUnit_iff.mpr hsw
    -- The last of the two units gives the shared artifact, and its byte shows whose options it has.
    have hreordered : Reordered (marking c p) .empty listedSession
        ⟨[markedResult p n u own, markedResult p m w own']⟩
        ⟨[markedResult p m w own', markedResult p n u own]⟩ := by
      refine ⟨⟨fun r => .ok (mark p r.options), fun _ _ => rfl⟩, ⟨[n, m], [m, n], ?_, ?_, ?_⟩, ?_⟩
      · simp [or_comm]
      · exact executeMany_marking hne hu hw hown hown'
      · exact executeMany_marking (Ne.symm hne) hw hu hown' hown
      · simp [Batch.succeeded, succeeded_markedResult hown, succeeded_markedResult hown']
    have hlast := h _ _ _ _ _ rfl hreordered i.artifact
    simp only [Batch.outputs, List.flatMap_cons, List.flatMap_nil, List.append_nil,
      lastContent_append, lastContent_markedResult hown hi hp] at hlast
    rw [hartifact, lastContent_markedResult hown' hj hq] at hlast
    have hmark : mark p q = mark p p := Option.some.inj hlast
    have hsame : q = p := by
      by_contra hdiff
      simp [mark, hdiff] at hmark
    rw [hp, hq, hsame]

/-! ## What is written -/

/-- Whatever the order of a request, writing its outputs leaves the same bytes under each artifact
name, where these names are the names of different files. -/
def SameFiles (c : Catalog) : Prop :=
  ∀ (e : Executor) (v : Volume) (s : Session) (b b' : Batch), e.catalog = c →
    Reordered e v s b b' → ∀ (dir : Path) (w w₁ w₂ : Volume) (paths paths' : List Path),
    (∀ o ∈ b.outputs, Path.IsName o.artifact) →
    (w.makeDirs dir).2.Unlinked dir (b.outputs.map (·.artifact)) →
    b.writeOutputs dir w = (.ok paths, w₁) → b'.writeOutputs dir w = (.ok paths', w₂) →
    ∀ o ∈ b.outputs, ∃ content, w₁.read (dir.joinText o.artifact) = .ok content ∧
      w₂.read (dir.joinText o.artifact) = .ok content

theorem sameFiles_of_orderFree {c : Catalog} (h : OrderFree c) : SameFiles c := by
  intro e v s b b' hc hreordered dir w w₁ w₂ paths paths' hnames hlinks hw₁ hw₂
  have hlast := h e v s b b' hc hreordered
  -- The other batch has outputs of the same names.
  have hartifacts : ∀ o' ∈ b'.outputs, ∃ o ∈ b.outputs, o.artifact = o'.artifact := by
    intro o' ho'
    obtain ⟨content, hcontent⟩ := exists_lastContent ho'
    rw [← hlast] at hcontent
    obtain ⟨o, ho, hartifact, -⟩ := mem_of_lastContent hcontent
    exact ⟨o, ho, hartifact⟩
  have hnames' : ∀ o' ∈ b'.outputs, Path.IsName o'.artifact := by
    intro o' ho'
    obtain ⟨o, ho, hartifact⟩ := hartifacts o' ho'
    exact hartifact ▸ hnames o ho
  have hlinks' : (w.makeDirs dir).2.Unlinked dir (b'.outputs.map (·.artifact)) := by
    intro l hl a ha
    obtain ⟨o', ho', rfl⟩ := List.mem_map.mp ha
    obtain ⟨o, ho, hartifact⟩ := hartifacts o' ho'
    exact hlinks l hl _ (List.mem_map.mpr ⟨o, ho, hartifact⟩)
  intro o ho
  obtain ⟨content, hcontent⟩ := exists_lastContent ho
  refine ⟨content, Batch.writeAll_last hw₁ hnames hlinks hcontent, ?_⟩
  rw [hlast] at hcontent
  exact Batch.writeAll_last hw₂ hnames' hlinks' hcontent

end Executor

namespace Catalog

/-- Bundles under one artifact name are for the same platform, have the same entry symbol, and get
the same options from the same customizers. -/
def SharesBundles (c : Catalog) : Prop :=
  ∀ x ∈ c.units, ∀ y ∈ c.units, ∀ i ∈ x.2.inputs, ∀ j ∈ y.2.inputs, i.artifact = j.artifact →
    x.2.platform = y.2.platform ∧ i.entrySymbol = j.entrySymbol ∧
      (x.2.customizers = y.2.customizers → x.2.platformIsWord = y.2.platformIsWord →
        c.optionsFor x.2 i = c.optionsFor y.2 j)

/-- **Shared artifacts.** In a catalog that passed its checks, a shared artifact is for one platform
and one entry symbol. It is the same bundle in every unit, and so independent of the order in which
units are requested, exactly when the units' customizers come to the same options for it. -/
theorem shared_artifacts (c : Catalog) :
    c.SharesBundles ∧ (c.SameOptions ↔ Executor.OrderFree c) ∧
      (c.SameOptions → Executor.SameFiles c) := by
  have horder : c.SameOptions ↔ Executor.OrderFree c :=
    ⟨Executor.orderFree_of_sameOptions, Executor.sameOptions_of_orderFree⟩
  refine ⟨?_, horder, fun hsame => Executor.sameFiles_of_orderFree (horder.mp hsame)⟩
  intro x hx y hy i hi j hj hartifact
  obtain ⟨hplatform, hentry⟩ := same_bundle hx hy hi hj hartifact
  refine ⟨hplatform, hentry, fun hcustomizers hword => ?_⟩
  rw [optionsFor, optionsFor, BuildUnit.optionsFor, BuildUnit.optionsFor, hplatform, hentry,
    hcustomizers, hword]

/-- The options of a bundle say where the worker is found. -/
def findsWorker (o : Except Trouble Options) : Bool :=
  match o with
  | .ok o => (o.defines.get? workerScriptDefine).isSome
  | .error _ => false

/-- The standard catalog is not such a catalog: the page's worker bundle is told where the worker is
found, and the same bundle of the worker's own unit is not. -/
theorem not_sameOptions_standard : ¬ standard.SameOptions := by
  intro h
  let page : BuildUnit := ⟨"browser-repl.js", .browser, .browserReplMain,
    [Customizer.artifactOf 1 workerScriptDefine "BROWSER_WORKER"], false⟩
  let worker : BuildUnit := ⟨"worker.js", .browser, .browserWorker, [], false⟩
  have hpage : standard.Settles page := fun _ _ => ⟨_, rfl⟩
  have hworker : standard.Settles worker := fun _ _ => ⟨_, rfl⟩
  have hsame := h "BROWSER_REPL" "BROWSER_WORKER" page worker rfl rfl hpage hworker
    worker.ownInput (by decide) worker.ownInput (by decide) rfl
  have hfinds : findsWorker (standard.optionsFor page worker.ownInput) = true := rfl
  rw [hsame] at hfinds
  cases hfinds

end Catalog

end BundleBuild
