/-
What becomes of a batch when the compiler gives anything at all or ends in any trouble. An error is
recorded for the job it befell, and what can be the content of a file, bytes or a text, becomes its
output; a batch of such jobs accounts for every bundle (`Captured.batch`). Anything else breaks the
batch: it ends in the trouble of the first job that broke it (`conclude_error_iff`), and the jobs
behind that one which are not begun by then are cancelled (`Abandoned`).
-/
import BundleBuild.Proofs.Alone
import BundleBuild.Proofs.Asking

namespace BundleBuild

/-! ## What can be the content of a file -/

namespace Datum

variable {d : Datum}

/-- Bytes, or a text. -/
def IsContent (d : Datum) : Prop :=
  (∃ bytes, d = .bytes bytes) ∨ ∃ s, d.text? = some s

/-- What is said of data that cannot be the content of a file. -/
def contentFlaw : Datum → Flaw
  | .unpaired _ => .notUnicode
  | _ => .notBytes

theorem IsContent.checkBytes_eq_ok (h : d.IsContent) : ∃ bytes, checkBytes d = .ok bytes := by
  rcases h with ⟨bytes, rfl⟩ | ⟨s, hs⟩
  · exact ⟨bytes, rfl⟩
  · cases d with
    | text | platform | entryPoint => exact ⟨_, rfl⟩
    | _ => cases hs

theorem checkBytes_eq_error (h : ¬ d.IsContent) :
    checkBytes d = .error [⟨[], d.contentFlaw⟩] := by
  cases d with
  | bytes bytes => exact absurd (.inl ⟨bytes, rfl⟩) h
  | text | platform | entryPoint => exact absurd (.inr ⟨_, rfl⟩) h
  | _ => rfl

end Datum

namespace Executor

variable {e : Executor} {v : Volume} {s : Session} {requested : Option (List String)}
  {selected : Entries BuildUnit} {jobs : List Job} {os : List (Job × JobOutcome)} {j : Job}
  {o : JobOutcome} {names : List String}

/-! ## Ways to end -/

theorem answered_content {d : Datum} {bytes : List UInt8} (h : checkBytes d = .ok bytes)
    (files : List Path) : answered j files (.ok d) = .built (j.output files.length bytes) := by
  simp [answered, Except.mapError, Job.ended, h, Checked.under]

theorem answered_unfit {d : Datum} (h : ¬ d.IsContent) (files : List Path) :
    answered j files (.ok d) = .broken (.invalid [⟨["content"], d.contentFlaw⟩]) := by
  simp [answered, Except.mapError, Job.ended, Datum.checkBytes_eq_error h, Checked.under]

theorem answered_unrecordable {t t' : Trouble} (h : t.surfaced.unhandled? = some t')
    (files : List Path) : answered j files (.error t) = .broken t' := by
  simp [answered, Except.mapError, Job.ended, Trouble.unhandled?_surfaced_tagged, h]

/-- How a job that was begun can end with the compiler of an executor. -/
inductive Compiles (e : Executor) (v : Volume) (j : Job) : JobOutcome → Prop
  /-- The files cannot be listed. -/
  | unlisted {tree : SourceTree} {t : Trouble}
    (listing : (tree.relevantFiles v j.platform).result = .error t) :
    Compiles e v j (.failed (j.failure 0 t))
  /-- The compiler ends in an error. -/
  | raised {n : Nat} {files : List Path} {t : Trouble}
    (answer : (e.compile v n (requestOf j files)).result = .error t) (error : t.Recordable) :
    Compiles e v j
      (.failed (j.failure files.length (t.tagged j.input.artifact files.length).surfaced))
  /-- The compiler exits, or ends in an error of which nothing can be told. -/
  | left {n : Nat} {files : List Path} {t t' : Trouble}
    (answer : (e.compile v n (requestOf j files)).result = .error t)
    (unhandled : t.surfaced.unhandled? = some t') : Compiles e v j (.broken t')
  /-- The compiler gives the content of a file. -/
  | gave {n : Nat} {files : List Path} {d : Datum} {bytes : List UInt8}
    (answer : (e.compile v n (requestOf j files)).result = .ok d)
    (content : checkBytes d = .ok bytes) : Compiles e v j (.built (j.output files.length bytes))
  /-- The compiler gives anything else. -/
  | unfit {n : Nat} {files : List Path} {d : Datum}
    (answer : (e.compile v n (requestOf j files)).result = .ok d) (unfit : ¬ d.IsContent) :
    Compiles e v j (.broken (.invalid [⟨["content"], d.contentFlaw⟩]))

theorem compiles_runJob (e : Executor) (v : Volume) (s : Session) (j : Job) :
    e.Compiles v j (e.runJob v s j).outcome := by
  cases hfiles : (s.tree.relevantFiles v j.platform).result with
  | error t =>
    rw [(runJob_unlisted hfiles).1]
    exact .unlisted hfiles
  | ok listed =>
    obtain ⟨files, tree⟩ := listed
    rw [(runJob_listed hfiles).1]
    cases hanswer : (e.compile v s.requests.length (requestOf j files)).result with
    | error t =>
      cases hunhandled : t.surfaced.unhandled? with
      | none =>
        rw [answered_error hunhandled]
        exact .raised hanswer hunhandled
      | some t' =>
        rw [answered_unrecordable hunhandled]
        exact .left hanswer hunhandled
    | ok d =>
      by_cases hd : d.IsContent
      · obtain ⟨bytes, hbytes⟩ := hd.checkBytes_eq_ok
        rw [answered_content hbytes]
        exact .gave hanswer hbytes
      · rw [answered_unfit hd]
        exact .unfit hanswer hd

theorem settled_compiles (e : Executor) (v : Volume) (s : Session) (jobs : List Job) :
    Pool.Settled e.failFast (e.Compiles v) jobs (e.runJobs v { session := s } jobs).2.1 := by
  have hkeeps : Keeps e v (e.Compiles v) fun _ => True :=
    ⟨fun s j _ => compiles_runJob e v s j, fun _ _ _ => trivial⟩
  exact settled_runJobs hkeeps trivial jobs

theorem Compiles.ends (h : e.Compiles v j o) (hwhole : o.trouble? = none) : j.Ends o := by
  cases h with
  | unlisted | raised => exact .failed _ _
  | gave => exact .built _ _
  | left | unfit => cases hwhole

/-- The compiler gives nothing but contents of files, and ends in nothing but errors. -/
structure Tame (e : Executor) (v : Volume) : Prop where
  gives : ∀ n r d, (e.compile v n r).result = .ok d → d.IsContent
  raises : ∀ n r t, (e.compile v n r).result = .error t → t.Recordable

theorem Compiles.whole (h : e.Compiles v j o) (htame : e.Tame v) : o.trouble? = none := by
  cases h with
  | unlisted | raised | gave => rfl
  | left answer unhandled =>
    have herror := htame.raises _ _ _ answer
    rw [Trouble.Recordable, unhandled] at herror
    cases herror
  | unfit answer unfit => exact absurd (htame.gives _ _ _ answer) unfit

/-! ## The first job that broke the batch -/

/-- The trouble of the first job that broke the batch. -/
def FirstBroken (os : List (Job × JobOutcome)) (t : Trouble) : Prop :=
  ∃ before j after, os = before ++ (j, .broken t) :: after ∧ ∀ x ∈ before, x.2.trouble? = none

theorem trouble?_eq_some_iff {t : Trouble} : o.trouble? = some t ↔ o = .broken t := by
  cases o <;> simp [JobOutcome.trouble?]

theorem conclude_error_iff {t : Trouble} :
    (conclude selected os).result = .error t ↔ FirstBroken os t := by
  have hfirst : os.findSome? (·.2.trouble?) = some t ↔ FirstBroken os t := by
    rw [List.findSome?_eq_some_iff]
    constructor
    · rintro ⟨before, ⟨j, o⟩, after, hos, ho, hbefore⟩
      cases trouble?_eq_some_iff.mp ho
      exact ⟨before, j, after, hos, hbefore⟩
    · rintro ⟨before, j, after, hos, hbefore⟩
      exact ⟨before, (j, .broken t), after, hos, rfl, hbefore⟩
  rw [← hfirst]
  unfold conclude
  cases os.findSome? (·.2.trouble?) with
  | none => simp
  | some t' => simp [Logged.fail]

/-! ## Jobs behind it -/

/-- What becomes of a batch whose jobs have these outcomes. -/
structure Captured (e : Executor) (v : Volume) (names : List String) (jobs : List Job)
    (os : List (Job × JobOutcome)) (result : Except Trouble Batch) : Prop where
  /-- Every job has ended as the compiler made it, was skipped after a failure, or was cancelled
  behind a job that broke the batch. -/
  settled : Pool.Settled e.failFast (e.Compiles v) jobs os
  /-- Where no job broke it, the batch accounts for every bundle. -/
  batch : (∀ x ∈ os, x.2.trouble? = none) → ∃ b, result = .ok b ∧ AccountedBatch e names b
  /-- So it is with any compiler that gives contents or ends in errors, whichever they are. -/
  tame : e.Tame v → ∃ b, result = .ok b ∧ AccountedBatch e names b
  /-- Otherwise there is no batch, but the trouble of the first job that broke it. -/
  broken : ∀ t, result = .error t ↔ FirstBroken os t

theorem captured_of_settled (hplan : Planned e names selected jobs)
    (h : Pool.Settled e.failFast (e.Compiles v) jobs os) :
    Captured e v names jobs os (conclude selected os).result := by
  have hbatch (hwhole : ∀ x ∈ os, x.2.trouble? = none) :
      ∃ b, (conclude selected os).result = .ok b ∧ AccountedBatch e names b :=
    conclude_accounted hplan (h.mono_of_whole hwhole fun _ _ => Compiles.ends)
  exact ⟨h, hbatch, fun htame => hbatch (h.whole fun _ _ _ hends => hends.whole htame),
    fun t => conclude_error_iff⟩

end Executor

end BundleBuild
