/-
What becomes of what a compiler writes to standard error. It is kept out of everything a batch
gives and reports, but for the notice of a fault that a rejected compilation makes once.

Two runs of a batch are compared whose commands differ in nothing but what they write to standard
error and, where they fail, to standard output (`Launch.Alike`). The troubles they come to differ in
details alone (`Trouble.bare`), and neither kind nor text of a trouble shows its details, also after
it was told its artifact. So one job goes alike in both runs (`runJob_alike`), and with it the whole
batch (`runJobs_alike`).
-/
import BundleBuild.Proofs.Asking
import BundleBuild.Proofs.Exiting
import BundleBuild.Proofs.Transcoding

namespace BundleBuild

/-! ## Notices of faults -/

/-- Whether the record is the notice that a fault makes when it arises. -/
def Record.tellsFault : Record → Bool
  | .notice n => n.event == "splitbuild_error"
  | .mark _ => false

/-- The notices of faults. -/
def faultNotices (rs : List Record) : List Record :=
  rs.filter (·.tellsFault)

/-- Everything but the notices of faults. -/
def otherRecords (rs : List Record) : List Record :=
  rs.filter (!·.tellsFault)

@[simp]
theorem faultNotices_append (rs rs' : List Record) :
    faultNotices (rs ++ rs') = faultNotices rs ++ faultNotices rs' :=
  List.filter_append ..

@[simp]
theorem otherRecords_append (rs rs' : List Record) :
    otherRecords (rs ++ rs') = otherRecords rs ++ otherRecords rs' :=
  List.filter_append ..

theorem tellsFault_of_mem_announcement {t : Trouble} {r : Record} (h : r ∈ t.announcement) :
    r.tellsFault = true := by
  unfold Trouble.announcement at h
  split at h
  · unfold Fault.announcement at h
    split at h
    · rw [List.mem_singleton.mp h]
      rfl
    · cases h
  · cases h

@[simp]
theorem otherRecords_announcement (t : Trouble) : otherRecords t.announcement = [] :=
  List.filter_eq_nil_iff.mpr fun r hr => by simp [tellsFault_of_mem_announcement hr]

@[simp]
theorem faultNotices_announcement (t : Trouble) : faultNotices t.announcement = t.announcement :=
  List.filter_eq_self.mpr fun _ => tellsFault_of_mem_announcement

/-! ## Troubles without their details -/

/-- The trouble of a compilation without the details of it. -/
def Trouble.bare : Trouble → Trouble
  | .fault (.compile f) => .fault (.compile { f with details := none })
  | t => t

namespace Trouble

theorem kind_bare (t : Trouble) : t.bare.kind = t.kind := by
  unfold bare
  split <;> rfl

theorem text_bare (t : Trouble) : t.bare.text = t.text := by
  unfold bare
  split <;> rfl

theorem unhandled?_bare (t : Trouble) : t.bare.unhandled? = t.unhandled? := by
  unfold bare
  split <;> rfl

theorem bare_tagged (artifact : String) (count : Nat) (t : Trouble) :
    (t.tagged artifact count).bare = t.bare.tagged artifact count := by
  cases t with
  | fault f => cases f <;> rfl
  | _ => rfl

section Bare

variable {t t' : Trouble}

theorem kind_eq_of_bare (h : t.bare = t'.bare) : t.kind = t'.kind := by
  rw [← kind_bare, h, kind_bare]

theorem text_eq_of_bare (h : t.bare = t'.bare) : t.text = t'.text := by
  rw [← text_bare, h, text_bare]

theorem unhandled?_eq_of_bare (h : t.bare = t'.bare) : t.unhandled? = t'.unhandled? := by
  rw [← unhandled?_bare, h, unhandled?_bare]

theorem bare_surfaced (h : t.bare = t'.bare) : t.surfaced.bare = t'.surfaced.bare := by
  unfold surfaced
  rw [unhandled?_eq_of_bare h]
  cases t'.unhandled? with
  | none => exact h
  | some t'' => rfl

/-- Troubles that differ in details alone are recorded alike. -/
theorem failure_eq_of_bare (h : t.bare = t'.bare) (j : Job) (count : Nat) :
    j.failure count t = j.failure count t' := by
  simp only [Job.failure, kind_eq_of_bare h, text_eq_of_bare h]

end Bare

end Trouble

/-- Both computations come to the same value, or to troubles that differ in details alone. -/
def SameBut {α : Type} (x y : Except Trouble α) : Prop :=
  x.mapError Trouble.bare = y.mapError Trouble.bare

theorem SameBut.cases {α : Type} {x y : Except Trouble α} (h : SameBut x y) :
    (∃ a, x = .ok a ∧ y = .ok a) ∨
      ∃ t t', x = .error t ∧ y = .error t' ∧ t.bare = t'.bare := by
  cases x <;> cases y <;> simp_all [SameBut, Except.mapError]

theorem SameBut.map {α β : Type} {x y : Except Trouble α} (h : SameBut x y) (f : α → β) :
    SameBut (x.map f) (y.map f) := by
  rcases h.cases with ⟨a, rfl, rfl⟩ | ⟨t, t', rfl, rfl, hbare⟩
  · rfl
  · exact congrArg Except.error hbare

theorem SameBut.tagged {α : Type} {x y : Except Trouble α} (h : SameBut x y) (artifact : String)
    (count : Nat) : SameBut (x.mapError (Trouble.tagged artifact count))
      (y.mapError (Trouble.tagged artifact count)) := by
  rcases h.cases with ⟨a, rfl, rfl⟩ | ⟨t, t', rfl, rfl, hbare⟩
  · rfl
  · refine congrArg Except.error ?_
    rw [Trouble.bare_tagged, Trouble.bare_tagged, hbare]

/-! ## Commands that are alike -/

/-- Two processes that differ in nothing but what they wrote to standard error and, where they
failed, to standard output. -/
structure Shell.Finished.Alike (f g : Shell.Finished) : Prop where
  ending : f.ending = g.ending
  milliseconds : f.milliseconds = g.milliseconds
  out : f.ending.status = 0 → f.out = g.out

namespace CommandLine

/-- Commands that start alike and end alike. -/
def Launch.Alike (launch launch' : Launch) : Prop :=
  ∀ v dir name args,
    (∃ e, launch v dir name args = .error e ∧ launch' v dir name args = .error e) ∨
      ∃ f g, launch v dir name args = .ok f ∧ launch' v dir name args = .ok g ∧ f.Alike g

/-- The process ended in time and with another status than zero. -/
structure Rejects (c : CommandLine) (f : Shell.Finished) : Prop where
  kept : c.timeout.bind limitFlaw? = none
  inTime : c.timeout.filter (outlasts f.milliseconds) = none
  status : f.ending.status ≠ 0

variable {c : CommandLine} {r : CompileRequest} {v : Volume} {launch launch' : Launch}

theorem outcome_alike {f g : Shell.Finished} (h : f.Alike g) :
    SameBut (c.outcome r f) (c.outcome r g) := by
  obtain ⟨hending, htime, hout⟩ := h
  unfold outcome
  rw [← hending, ← htime]
  split
  · rfl
  · split
    · rfl
    · split
      · next hstatus => rw [hout hstatus]; rfl
      · rfl

theorem compileWith_alike (h : launch.Alike launch') :
    SameBut (c.compileWith launch v r).result (c.compileWith launch' v r).result := by
  rw [result_compileWith, result_compileWith]
  cases r.arguments c.command with
  | error t => rfl
  | ok args =>
    simp only [bind, Except.bind]
    cases handed args with
    | error t => rfl
    | ok words =>
      cases words with
      | nil => rfl
      | cons name rest =>
        rcases h v c.sourceRoot name rest with ⟨e, he, he'⟩ | ⟨f, g, hf, hg, halike⟩
        · simp only [he, he']
          rfl
        · simp only [hf, hg]
          exact outcome_alike halike

/-- The notice that the compiler is started. -/
def invocation (r : CompileRequest) : Notice where
  channel := .compiler
  level := .debug
  event := "compiler_invoked"
  fields := [("entry_symbol", .text r.entrySymbol), ("files", .int r.fileCount)]

/-- What the compiler reports: its start, unless its arguments cannot be written, and the trouble it
comes to. -/
theorem records_compileWith (launch : Launch) (c : CommandLine) (v : Volume) (r : CompileRequest) :
    (c.compileWith launch v r).records =
      (match r.arguments c.command with
        | .ok _ => [.notice (invocation r)]
        | .error _ => []) ++
      (match (c.compileWith launch v r).result with
        | .ok _ => []
        | .error t => t.announcement) := by
  rw [result_compileWith]
  cases hargs : r.arguments c.command with
  | error t =>
    simp only [compileWith, hargs]
    rfl
  | ok args =>
    simp only [compileWith, hargs, bind, Except.bind, Logged.lift, Logged.tell, pure]
    cases handed args with
    | error t => rfl
    | ok words =>
      cases words with
      | nil => rfl
      | cons name rest =>
        dsimp only
        cases launch v c.sourceRoot name rest with
        | error e => rfl
        | ok f =>
          dsimp only
          cases c.outcome r f <;> rfl

theorem otherRecords_compileWith (launch : Launch) (c : CommandLine) (v : Volume)
    (r : CompileRequest) : otherRecords (c.compileWith launch v r).records =
      match r.arguments c.command with
        | .ok _ => [.notice (invocation r)]
        | .error _ => [] := by
  rw [records_compileWith, otherRecords_append]
  cases (c.compileWith launch v r).result <;> cases r.arguments c.command <;> simp <;> rfl

/-- The notice of a fault that a process which failed makes: the message to the user without, and
the details with what the process said. -/
def rejection (r : CompileRequest) (f : Shell.Finished) : Notice where
  channel := .faults
  level := .error
  event := "splitbuild_error"
  fields := [
    ("error_type", .text "CompileError"),
    ("user_message", .text (
      "Failed to compile " ++ ("entry point " ++ r.entrySymbol ++ " (" ++ writeInt r.fileCount ++
        " files)") ++ ": " ++ ("compiler exited with status " ++ writeInt f.ending.status))),
    ("internal_details", .text (decodeUtf8Lossy f.err))]

/-- A process that failed makes a fault of the compiler. -/
theorem result_rejected {words : List Word} {name : String} {rest : List String}
    {f : Shell.Finished} (hargs : r.arguments c.command = .ok words)
    (hhanded : handed words = .ok (name :: rest))
    (hlaunch : launch v c.sourceRoot name rest = .ok f) (hrejects : c.Rejects f) :
    (c.compileWith launch v r).result = .error (compileFault r (.exited f.ending.status)
      (nonEmpty? (some (decodeUtf8Lossy f.err)))) := by
  rw [result_compileWith, hargs]
  simp only [bind, Except.bind, hhanded, hlaunch, outcome, hrejects.kept, hrejects.inTime,
    if_neg hrejects.status]

/-- A process that failed is told of once if it said anything. -/
theorem faultNotices_compileWith {words : List Word} {name : String} {rest : List String}
    {f : Shell.Finished} (hargs : r.arguments c.command = .ok words)
    (hhanded : handed words = .ok (name :: rest))
    (hlaunch : launch v c.sourceRoot name rest = .ok f) (hrejects : c.Rejects f) :
    faultNotices (c.compileWith launch v r).records =
      if f.err = [] then [] else [.notice (rejection r f)] := by
  have hresult := result_rejected hargs hhanded hlaunch hrejects
  rw [records_compileWith, hresult, hargs]
  simp only [faultNotices_append, faultNotices_announcement]
  have hstart : faultNotices [.notice (invocation r)] = [] := by rfl
  rw [hstart, List.nil_append]
  split
  · next herr =>
    rw [decodeUtf8Lossy_eq_empty_iff.mpr herr]
    rfl
  · next herr =>
    have hsaid : (decodeUtf8Lossy f.err).isEmpty = false := by
      simpa using mt decodeUtf8Lossy_eq_empty_iff.mp herr
    simp only [compileFault, Trouble.announcement, Fault.announcement, Fault.details, nonEmpty?,
      hsaid, Bool.false_eq_true, if_false]
    rfl

end CommandLine

/-! ## One job -/

namespace Logged

variable {α : Type} {name : String} {attributes : Entries Datum} {x y : Logged α}

/-- What a span reports before the computation in it. -/
def spanStart (name : String) (attributes : Entries Datum) : List Record :=
  [.mark (.started name attributes),
    .notice ⟨.spans, .debug, name ++ "_started", attributes.filter (·.1 ≠ "event")⟩]

/-- What a span reports after the computation in it. -/
def spanEnd (name : String) (attributes : Entries Datum) : Except Trouble α → List Record
  | .ok _ => [.mark .succeeded,
      .notice ⟨.spans, .debug, name ++ "_completed", attributes.filter (·.1 ≠ "event")⟩]
  | .error t => match t.unhandled? with
    | some t' => t'.announcement
    | none => [.mark (.failed t.text), .mark (.raised t.kind t.text),
        .notice ⟨.spans, .warning, name ++ "_failed",
          Entries.put "error" (.text t.text) (attributes.filter (·.1 ≠ "event"))⟩]

theorem records_span (h : attributes.any (·.1 == "self") = false) (x : Logged α) :
    (span name attributes x).records =
      spanStart name attributes ++ x.records ++ spanEnd name attributes x.result := by
  cases hx : x.result with
  | ok a => simp [span, spanOf, h, hx, spanStart, spanEnd]
  | error t =>
    cases hhandled : t.unhandled? <;>
      simp [span, spanOf, h, hx, hhandled, spanStart, spanEnd]

/-- The end of a span shows no details. -/
theorem spanEnd_eq {x y : Except Trouble α} (h : SameBut x y) :
    spanEnd name attributes x = spanEnd name attributes y := by
  rcases h.cases with ⟨a, rfl, rfl⟩ | ⟨t, t', rfl, rfl, hbare⟩
  · rfl
  · simp only [spanEnd, Trouble.kind_eq_of_bare hbare, Trouble.text_eq_of_bare hbare,
      Trouble.unhandled?_eq_of_bare hbare]

end Logged

/-- Runs of a job that come to the same and report the same but for faults. -/
structure JobRun.Alike (a b : JobRun) : Prop where
  outcome : a.outcome = b.outcome
  session : a.session = b.session
  records : otherRecords a.records = otherRecords b.records

namespace Executor

/-- The executor with the compiler run as a command, which may do something else each time. -/
def commanded (e : Executor) (launch : Nat → CommandLine.Launch) (c : CommandLine) : Executor :=
  { e with compile := fun v n r => Cli.commandCompile (launch n) c v n r }

variable {e : Executor} {c : CommandLine} {v : Volume} {s : Session} {j : Job}
  {launch launch' : Nat → CommandLine.Launch}

theorem failFast_commanded : (e.commanded launch c).failFast = e.failFast :=
  rfl

/-- Answers that differ in details alone make the same of a job. -/
theorem answered_eq {x y : Except Trouble Datum} (h : SameBut x y) (j : Job) (files : List Path) :
    answered j files x = answered j files y := by
  rcases h.cases with ⟨a, rfl, rfl⟩ | ⟨t, t', rfl, rfl, hbare⟩
  · rfl
  · have htagged : (t.tagged j.input.artifact files.length).bare =
        (t'.tagged j.input.artifact files.length).bare := by
      rw [Trouble.bare_tagged, Trouble.bare_tagged, hbare]
    have hsurfaced := Trouble.bare_surfaced htagged
    simp only [answered, Except.mapError, Job.ended, Trouble.unhandled?_eq_of_bare hsurfaced,
      Trouble.failure_eq_of_bare hsurfaced]

/-- The span of a job, written out. -/
theorem records_span_job {α : Type} (j : Job) (x : Logged α) :
    (Logged.span "input_compile" j.attributes x).records =
      Logged.spanStart "input_compile" j.attributes ++ x.records ++
        Logged.spanEnd "input_compile" j.attributes x.result :=
  Logged.records_span rfl x

/-- A job that breaks the batch may be told of as a fault, and as nothing else. -/
@[simp]
theorem otherRecords_announcement_outcome (o : JobOutcome) : otherRecords o.announcement = [] := by
  cases o with
  | broken t => exact otherRecords_announcement t
  | _ => rfl

theorem records_runJob_unlisted {t : Trouble}
    (h : (s.tree.relevantFiles v j.platform).result = .error t) :
    (e.runJob v s j).records =
      Logged.spanStart "input_compile" j.attributes ++
        (s.tree.relevantFiles v j.platform).records ++
        Logged.spanEnd "input_compile" j.attributes (.error t : Except Trouble Unit) ++
        (e.runJob v s j).outcome.announcement := by
  simp only [runJob, h, records_span_job]
  rfl

theorem records_runJob_listed {files : List Path} {tree : SourceTree}
    (h : (s.tree.relevantFiles v j.platform).result = .ok (files, tree)) :
    (e.runJob v s j).records =
      Logged.spanStart "input_compile" j.attributes ++
        ((s.tree.relevantFiles v j.platform).records ++
          (e.compile v s.requests.length (requestOf j files)).records) ++
        Logged.spanEnd "input_compile" j.attributes
          ((e.compile v s.requests.length (requestOf j files)).result.mapError
            (Trouble.tagged j.input.artifact files.length)) ++
        (e.runJob v s j).outcome.announcement := by
  unfold requestOf
  cases hanswer : (e.compile v s.requests.length ⟨files, j.input.entrySymbol, j.options⟩).result <;>
    simp only [runJob, h, hanswer, records_span_job, Except.mapError]

theorem runJob_alike (h : ∀ n, (launch n).Alike (launch' n)) (j : Job) :
    ((e.commanded launch c).runJob v s j).Alike ((e.commanded launch' c).runJob v s j) := by
  cases hfiles : (s.tree.relevantFiles v j.platform).result with
  | error t =>
    obtain ⟨ho, hs⟩ := runJob_unlisted (e := e.commanded launch c) hfiles
    obtain ⟨ho', hs'⟩ := runJob_unlisted (e := e.commanded launch' c) hfiles
    refine ⟨ho.trans ho'.symm, hs.trans hs'.symm, ?_⟩
    rw [records_runJob_unlisted hfiles, records_runJob_unlisted hfiles, ho, ho']
  | ok listed =>
    obtain ⟨files, tree⟩ := listed
    obtain ⟨ho, hs⟩ := runJob_listed (e := e.commanded launch c) hfiles
    obtain ⟨ho', hs'⟩ := runJob_listed (e := e.commanded launch' c) hfiles
    have hresult : SameBut
        ((e.commanded launch c).compile v s.requests.length (requestOf j files)).result
        ((e.commanded launch' c).compile v s.requests.length (requestOf j files)).result :=
      (CommandLine.compileWith_alike (h s.requests.length)).map Datum.bytes
    refine ⟨?_, hs.trans hs'.symm, ?_⟩
    · rw [ho, ho', answered_eq hresult]
    · rw [records_runJob_listed hfiles, records_runJob_listed hfiles,
        Logged.spanEnd_eq (hresult.tagged j.input.artifact files.length)]
      have hasked : otherRecords
          ((e.commanded launch c).compile v s.requests.length (requestOf j files)).records =
          otherRecords
            ((e.commanded launch' c).compile v s.requests.length (requestOf j files)).records :=
        (CommandLine.otherRecords_compileWith ..).trans
          (CommandLine.otherRecords_compileWith ..).symm
      simp only [otherRecords_append, otherRecords_announcement_outcome, hasked]

/-! ## The jobs of a batch -/

/-- A job that is taken goes alike. -/
theorem takeJob_alike (h : ∀ n, (launch n).Alike (launch' n)) (course : Course) (j : Job) :
    ((e.commanded launch c).takeJob v course j).2 =
        ((e.commanded launch' c).takeJob v course j).2 ∧
      otherRecords ((e.commanded launch c).takeJob v course j).1 =
        otherRecords ((e.commanded launch' c).takeJob v course j).1 := by
  unfold takeJob
  split
  · exact ⟨rfl, rfl⟩
  · split
    · exact ⟨rfl, rfl⟩
    · obtain ⟨houtcome, hsession, hrecords⟩ :=
        runJob_alike (e := e) (c := c) (v := v) (s := course.session) h j
      have hafter : ∀ run run' : JobRun, run.outcome = run'.outcome → run.session = run'.session →
          (e.commanded launch c).after course run = (e.commanded launch' c).after course run' := by
        intro run run' ho hs
        simp only [after, failFast_commanded, ho, hs]
        rfl
      exact ⟨Prod.ext houtcome (hafter _ _ houtcome hsession), hrecords⟩

/-- Jobs run one after another go alike. -/
theorem runJobs_alike (h : ∀ n, (launch n).Alike (launch' n)) : ∀ (jobs : List Job)
    (course : Course),
    ((e.commanded launch c).runJobs v course jobs).2 =
        ((e.commanded launch' c).runJobs v course jobs).2 ∧
      otherRecords ((e.commanded launch c).runJobs v course jobs).1 =
        otherRecords ((e.commanded launch' c).runJobs v course jobs).1
  | [], _ => ⟨rfl, rfl⟩
  | j :: jobs, course => by
    obtain ⟨htaken, hrecords⟩ := takeJob_alike (e := e) (c := c) (v := v) h course j
    obtain ⟨hends, hrest⟩ :=
      runJobs_alike h jobs ((e.commanded launch' c).takeJob v course j).2.2
    simp only [runJobs, htaken, hends, otherRecords_append, hrecords, hrest, and_self]

/-- The jobs that are started, each with the session it is started in. -/
def starts (e : Executor) (v : Volume) : Course → List Job → List (Session × Job)
  | _, [] => []
  | course, j :: rest =>
    let (_, outcome, next) := e.takeJob v course j
    let later := e.starts v next rest
    if outcome.isBegun then (course.session, j) :: later else later

/-- What jobs report is what each of those started reports. -/
theorem records_runJobs : ∀ (jobs : List Job) (course : Course),
    (e.runJobs v course jobs).1 =
      (e.starts v course jobs).flatMap fun x => (e.runJob v x.1 x.2).records
  | [], _ => rfl
  | j :: jobs, course => by
    rcases takeJob_cases e v course j with ⟨-, htake⟩ | ⟨-, htake⟩ | ⟨-, htake⟩
    · simp [runJobs, starts, htake, JobOutcome.isBegun, records_runJobs jobs]
    · simp [runJobs, starts, htake, JobOutcome.isBegun, records_runJobs jobs]
    · simp [runJobs, starts, htake, isBegun_runJob, records_runJobs jobs]

/-- The jobs that are started are those that are neither skipped nor cancelled. -/
theorem jobs_starts : ∀ (jobs : List Job) (course : Course),
    (e.starts v course jobs).map (·.2) = begun (e.runJobs v course jobs).2.1
  | [], _ => rfl
  | j :: jobs, course => by
    have ih := jobs_starts jobs (e.takeJob v course j).2.2
    cases hbegun : (e.takeJob v course j).2.1.isBegun <;>
      simp [runJobs, starts, begun, hbegun, ih]

/-! ## Faults of the compiler -/

/-- A scan that succeeds tells of no fault. -/
theorem faultNotices_relevantFiles {t : SourceTree} {p : Platform} {x : List Path × SourceTree}
    (h : (t.relevantFiles v p).result = .ok x) :
    faultNotices (t.relevantFiles v p).records = [] := by
  obtain ⟨listed, hlisted⟩ := SourceTree.files_of_relevantFiles h
  have hrecords : (t.relevantFiles v p).records = (t.files v).records := by
    simp [SourceTree.relevantFiles, bind, hlisted, pure]
  rw [hrecords]
  unfold SourceTree.files at hlisted ⊢
  cases hkept : t.listing with
  | some found => rfl
  | none =>
    simp only [hkept] at hlisted ⊢
    cases hscan : t.scanRoots v with
    | ok found => rfl
    | error trouble =>
      rw [hscan] at hlisted
      cases hlisted

/-- The command for a job that is started in the session is started too, and ends so. -/
def CommandEnds (launch : Nat → CommandLine.Launch) (c : CommandLine) (v : Volume) (s : Session)
    (j : Job) (r : CompileRequest) (f : Shell.Finished) : Prop :=
  ∃ files tree words name rest, (s.tree.relevantFiles v j.platform).result = .ok (files, tree) ∧
    r = requestOf j files ∧ r.arguments c.command = .ok words ∧
    CommandLine.handed words = .ok (name :: rest) ∧
    launch s.requests.length v c.sourceRoot name rest = .ok f

/-- A job whose command fails tells of one fault, with what the command said, or of none if it said
nothing. -/
theorem faultNotices_runJob {r : CompileRequest} {f : Shell.Finished}
    (h : CommandEnds launch c v s j r f) (hrejects : c.Rejects f) :
    faultNotices ((e.commanded launch c).runJob v s j).records =
      if f.err = [] then [] else [.notice (CommandLine.rejection r f)] := by
  obtain ⟨files, tree, words, name, rest, hfiles, rfl, hargs, hhanded, hlaunch⟩ := h
  have hrejected := CommandLine.result_rejected hargs hhanded hlaunch hrejects
  have hforeign := CommandLine.foreign_compileWith hrejected
  have hresult := congrArg (Except.map Datum.bytes) hrejected
  change ((e.commanded launch c).compile v s.requests.length (requestOf j files)).result = _
    at hresult
  have hstart : faultNotices (Logged.spanStart "input_compile" j.attributes) = [] := rfl
  have hend : faultNotices (Logged.spanEnd "input_compile" j.attributes
      (((e.commanded launch c).compile v s.requests.length (requestOf j files)).result.mapError
        (Trouble.tagged j.input.artifact files.length))) = [] := by
    rw [hresult]
    simp only [Except.map, Except.mapError, Logged.spanEnd, Trouble.unhandled?_tagged,
      hforeign.handled]
    rfl
  have hquiet : faultNotices ((e.commanded launch c).runJob v s j).outcome.announcement = [] := by
    rw [(runJob_listed hfiles).1, hresult, Except.map, answered_error hforeign.recordable]
    rfl
  rw [records_runJob_listed hfiles]
  simp only [faultNotices_append, faultNotices_relevantFiles hfiles, hstart, hend, hquiet,
    List.nil_append, List.append_nil]
  exact CommandLine.faultNotices_compileWith hargs hhanded hlaunch hrejects

/-! ## A batch -/

/-- Two runs of a batch that come to the same and report the same but for faults. -/
structure Withheld (run run' : Logged Batch × Session) : Prop where
  result : run.1.result = run'.1.result
  session : run.2 = run'.2
  records : otherRecords run.1.records = otherRecords run'.1.records

/-- What a run of a batch tells of faults. -/
structure ToldOnce (e : Executor) (launch : Nat → CommandLine.Launch) (c : CommandLine)
    (v : Volume) (s : Session) (requested : Option (List String)) : Prop where
  /-- Once the batch is planned, it is what the jobs that are started tell, one after another. -/
  told : ∀ selected jobs, e.prepare requested = .ok (selected, jobs) → e.poolTrouble? = none →
    faultNotices ((e.commanded launch c).executeMany v s requested).1.records =
        ((e.commanded launch c).starts v { session := s } jobs).flatMap (fun x =>
          faultNotices ((e.commanded launch c).runJob v x.1 x.2).records) ∧
      ((e.commanded launch c).starts v { session := s } jobs).map (·.2) =
        begun ((e.commanded launch c).runJobs v { session := s } jobs).2.1
  /-- A job whose command fails tells of this once with what the command said, unless it said
  nothing. -/
  rejected : ∀ s j r f, CommandEnds launch c v s j r f → c.Rejects f →
    faultNotices ((e.commanded launch c).runJob v s j).records =
      if f.err = [] then [] else [.notice (CommandLine.rejection r f)]

theorem faultNotices_conclude (selected : Entries BuildUnit)
    (outcomes : List (Job × JobOutcome)) :
    faultNotices (conclude selected outcomes).records = [] := by
  unfold conclude
  split
  · rfl
  · refine List.filter_eq_nil_iff.mpr fun r hr => ?_
    rcases List.mem_append.mp hr with hr | hr
    · obtain ⟨result, -, rfl⟩ := List.mem_map.mp hr
      exact Bool.false_ne_true
    · rw [List.mem_singleton.mp hr]
      exact Bool.false_ne_true

theorem records_executeMany {requested : Option (List String)} {selected : Entries BuildUnit}
    {jobs : List Job} (hplan : e.prepare requested = .ok (selected, jobs))
    (hpool : e.poolTrouble? = none) : (e.executeMany v s requested).1.records =
      [.notice (e.startNotice selected.length jobs.length)] ++
        (e.runJobs v { session := s } jobs).1 ++
        (conclude selected (e.runJobs v { session := s } jobs).2.1).records := by
  simp [executeMany, hplan, hpool]

theorem toldOnce (e : Executor) (launch : Nat → CommandLine.Launch) (c : CommandLine) (v : Volume)
    (s : Session) (requested : Option (List String)) : ToldOnce e launch c v s requested := by
  refine ⟨fun selected jobs hplan hpool => ⟨?_, jobs_starts jobs _⟩,
    fun s j r f => faultNotices_runJob⟩
  have hopening : faultNotices
      [.notice ((e.commanded launch c).startNotice selected.length jobs.length)] = [] := rfl
  rw [records_executeMany (e := e.commanded launch c) hplan hpool]
  simp only [faultNotices_append, hopening, faultNotices_conclude, List.nil_append,
    List.append_nil, records_runJobs]
  exact List.filter_flatMap

/-- **What the compiler writes to standard error stays inside and is logged once.** Runs of a batch
whose commands differ in nothing else, and in what they write to standard output where they fail,
come to the same result and report the same but for the notices of faults; and in each of them a job
whose command fails makes one such notice, with what the command said, or none where it said
nothing. -/
theorem stderr_withheld (h : ∀ n, (launch n).Alike (launch' n)) (e : Executor) (c : CommandLine)
    (v : Volume) (s : Session) (requested : Option (List String)) :
    Withheld ((e.commanded launch c).executeMany v s requested)
        ((e.commanded launch' c).executeMany v s requested) ∧
      ToldOnce e launch c v s requested ∧ ToldOnce e launch' c v s requested := by
  refine ⟨?_, toldOnce e launch c v s requested, toldOnce e launch' c v s requested⟩
  have hprepare : ∀ launch, (e.commanded launch c).prepare requested = e.prepare requested :=
    fun _ => rfl
  have hpool : ∀ launch, (e.commanded launch c).poolTrouble? = e.poolTrouble? := fun _ => rfl
  have hopening : ∀ launch, (e.commanded launch c).startNotice = e.startNotice := fun _ => rfl
  cases hplan : e.prepare requested with
  | error t => constructor <;> simp only [executeMany, hprepare, hplan]
  | ok planned =>
    obtain ⟨selected, jobs⟩ := planned
    cases hopen : e.poolTrouble? with
    | some t => constructor <;> simp only [executeMany, hprepare, hplan, hpool, hopen, hopening]
    | none =>
      obtain ⟨hends, hrecords⟩ := runJobs_alike (e := e) (c := c) (v := v) h jobs { session := s }
      have hplan' : ∀ launch, (e.commanded launch c).prepare requested = .ok (selected, jobs) :=
        fun _ => hplan
      have hopen' : ∀ launch, (e.commanded launch c).poolTrouble? = none := fun _ => hopen
      refine ⟨?_, ?_, ?_⟩
      · rw [result_executeMany (hplan' _) (hopen' _), result_executeMany (hplan' _) (hopen' _),
          hends]
      · rw [session_executeMany (hplan' _) (hopen' _), session_executeMany (hplan' _) (hopen' _),
          hends]
      · rw [records_executeMany (hplan' _) (hopen' _), records_executeMany (hplan' _) (hopen' _),
          hends]
        simp only [otherRecords_append, hrecords, hopening]

/-- A command that fails with this on standard error. -/
def failing (words : String) : Nat → CommandLine.Launch :=
  fun _ _ _ _ _ => .ok { ending := .exited 2, err := encodeUtf8 words }

theorem alike_failing (words words' : String) (n : Nat) :
    (failing words n).Alike (failing words' n) :=
  fun _ _ _ _ => .inr ⟨_, _, rfl, rfl, rfl, rfl, fun h => by cases h⟩

/-- The command line of a compiler run beside its sources. -/
def besideSources : CommandLine where
  sourceRoot := Path.relative ["tree"]

theorem stderr_withheld_failing :
    (∀ n, (failing "lost" n).Alike (failing "" n)) ∧
      Withheld ((crew.commanded (failing "lost") besideSources).executeMany .empty listedSession
          (some ["A"]))
        ((crew.commanded (failing "") besideSources).executeMany .empty listedSession
          (some ["A"])) ∧
      (∃ n, faultNotices ((crew.commanded (failing "lost") besideSources).executeMany .empty
          listedSession (some ["A"])).1.records = [.notice n] ∧
        ("internal_details", .text "lost") ∈ n.fields) ∧
      faultNotices ((crew.commanded (failing "") besideSources).executeMany .empty
        listedSession (some ["A"])).1.records = [] := by
  have halike := alike_failing "lost" ""
  obtain ⟨hwithheld, hloud, hquiet⟩ := stderr_withheld halike crew besideSources .empty
    listedSession (some ["A"])
  have hnotices : ∀ words, ToldOnce crew (failing words) besideSources .empty listedSession
      (some ["A"]) →
      faultNotices ((crew.commanded (failing words) besideSources).executeMany .empty
        listedSession (some ["A"])).1.records = if encodeUtf8 words = [] then [] else
          [.notice (CommandLine.rejection (requestOf crewA [Path.relative ["lib", "a.js"]])
            { ending := .exited 2, err := encodeUtf8 words })] := by
    intro words htold
    obtain ⟨front, tail, -, hargs⟩ := Cli.exists_arguments besideSources.command
      [Path.relative ["lib", "a.js"]] .server EntryPoint.testMain.symbol
    rw [(htold.told _ [crewA] rfl rfl).1]
    have hstarts : (crew.commanded (failing words) besideSources).starts .empty
        { session := listedSession } [crewA] = [(listedSession, crewA)] :=
      if_pos (isBegun_runJob _ _ listedSession crewA)
    rw [hstarts, List.flatMap_singleton]
    exact htold.rejected listedSession crewA _ { ending := .exited 2, err := encodeUtf8 words }
      ⟨[Path.relative ["lib", "a.js"]], _, _, "google-closure-compiler", _, rfl, rfl, hargs,
        Cli.handed_texts _, rfl⟩
      ⟨rfl, rfl, fun h => by cases h⟩
  refine ⟨halike, hwithheld, ⟨_, (hnotices "lost" hloud).trans (if_neg ?_), ?_⟩,
    (hnotices "" hquiet).trans (if_pos (encodeUtf8_eq_nil_iff.mpr rfl))⟩
  · rw [encodeUtf8_eq_nil_iff]
    decide
  · simp [CommandLine.rejection, decodeUtf8Lossy_encodeUtf8]

end Executor

end BundleBuild
