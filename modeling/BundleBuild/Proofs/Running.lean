/-
What running one job comes to. A scan that fails makes the job fail before the compiler is asked;
otherwise the compiler is asked once, and what it answers is the outcome (`answered`). An answer
that is neither bytes nor an error to record breaks the batch.

For a compiler whose answer depends on the request alone, the outcome of a job depends on the tree
and the files on disk alone (`outcome_runJob`): not on the jobs before it, since a listing that was
kept is the listing a scan would give.
-/
import BundleBuild.Proofs.Collecting
import BundleBuild.Proofs.Listing

namespace BundleBuild

namespace Trouble

/-- A job that ends in the trouble has an error to record: neither the trouble nor, where it has no
words, what asking for them ends in is an exit or again without words. -/
def Recordable (t : Trouble) : Prop :=
  t.surfaced.unhandled? = none

theorem unhandled?_tagged (t : Trouble) (artifact : String) (count : Nat) :
    (t.tagged artifact count).unhandled? = t.unhandled? := by
  unfold tagged
  split <;> rfl

/-- Tagging changes nothing about what is raised again. -/
theorem unhandled?_surfaced_tagged (t : Trouble) (artifact : String) (count : Nat) :
    (t.tagged artifact count).surfaced.unhandled? = t.surfaced.unhandled? := by
  unfold surfaced
  rw [unhandled?_tagged]
  cases ht : t.unhandled? with
  | none => rw [Option.getD_none, Option.getD_none, unhandled?_tagged]
  | some t' => rfl

theorem Recordable.tagged {t : Trouble} (h : t.Recordable) (artifact : String) (count : Nat) :
    (t.tagged artifact count).Recordable :=
  (unhandled?_surfaced_tagged t artifact count).trans h

end Trouble

namespace Executor

variable {e : Executor} {v : Volume} {s : Session} {j : Job}

/-- What the compiler is asked for a job, given the files of its platform. -/
def requestOf (j : Job) (files : List Path) : CompileRequest :=
  ⟨files, j.input.entrySymbol, j.options⟩

/-- What a job comes to when the compiler has answered for its files. -/
def answered (j : Job) (files : List Path) (answer : Except Trouble Datum) : JobOutcome :=
  j.ended files.length
    (answer.mapError fun t => (t.tagged j.input.artifact files.length).surfaced)

theorem ended_error {t : Trouble} (h : t.unhandled? = none) (count : Nat) :
    j.ended count (.error t) = .failed (j.failure count t) := by
  simp only [Job.ended, h]

theorem result_span_attributes {α : Type} (j : Job) (body : Logged α) :
    (Logged.span "input_compile" j.attributes body).result =
      body.result.mapError Trouble.surfaced :=
  Logged.result_span rfl body

theorem runJob_ended (e : Executor) (v : Volume) (s : Session) (j : Job) :
    ∃ count result, (e.runJob v s j).outcome = j.ended count result := by
  rw [runJob]
  split
  · exact ⟨0, _, by dsimp only⟩
  · next files tree _ => exact ⟨files.length, _, by dsimp only⟩

theorem runJob_unlisted {t : Trouble} (h : (s.tree.relevantFiles v j.platform).result = .error t) :
    (e.runJob v s j).outcome = .failed (j.failure 0 t) ∧ (e.runJob v s j).session = s := by
  have hhandled := SourceTree.unhandled?_relevantFiles_error h
  have hsurfaced : t.surfaced = t := by simp [Trouble.surfaced, hhandled]
  simp [runJob, h, result_span_attributes, Except.mapError, hsurfaced, ended_error hhandled]

theorem runJob_listed {files : List Path} {tree : SourceTree}
    (h : (s.tree.relevantFiles v j.platform).result = .ok (files, tree)) :
    (e.runJob v s j).outcome =
        answered j files (e.compile v s.requests.length (requestOf j files)).result ∧
      (e.runJob v s j).session = ⟨tree, s.requests ++ [requestOf j files]⟩ := by
  unfold requestOf
  cases hanswer : (e.compile v s.requests.length ⟨files, j.input.entrySymbol, j.options⟩).result <;>
    simp [runJob, h, hanswer, answered, result_span_attributes, Except.mapError]

/-! ## Compilers that give bytes -/

theorem answered_error {t : Trouble} (h : t.Recordable) (j : Job) (files : List Path) :
    answered j files (.error t) =
      .failed (j.failure files.length (t.tagged j.input.artifact files.length).surfaced) :=
  ended_error (h.tagged _ _) _

/-- The compiler's answer to a request does not depend on the requests before it. -/
def Answers (e : Executor) (v : Volume) (f : CompileRequest → Except Trouble (List UInt8)) : Prop :=
  ∀ n r, (e.compile v n r).result = (f r).map .bytes

/-- How a job ends on its own: in the trouble of the scan, with no files counted, or else as the
compiler answers for the files of the platform. Trouble of the compiler is recorded under the job's
artifact and entry symbol, and a compile fault is told the artifact and the number of files. -/
def outcomeOf (f : CompileRequest → Except Trouble (List UInt8)) (v : Volume) (t : SourceTree)
    (j : Job) : JobOutcome :=
  match (t.relevantFiles v j.platform).result with
  | .error trouble => .failed (j.failure 0 trouble)
  | .ok (files, _) => answered j files ((f (requestOf j files)).map .bytes)

/-- A job that does not break the batch has a record. -/
theorem ends_ended {count : Nat} {result : Except Trouble Datum}
    (hwhole : (j.ended count result).trouble? = none) : j.Ends (j.ended count result) := by
  unfold Job.ended at hwhole ⊢
  split at hwhole <;> split at hwhole
  · exact .built count _
  · cases hwhole
  · cases hwhole
  · exact .failed count _

theorem ends_outcomeOf {f : CompileRequest → Except Trouble (List UInt8)} {t : SourceTree}
    (hwhole : (outcomeOf f v t j).trouble? = none) : j.Ends (outcomeOf f v t j) := by
  unfold outcomeOf at hwhole ⊢
  split at hwhole
  · exact .failed 0 _
  · exact ends_ended hwhole

theorem whole_outcomeOf {f : CompileRequest → Except Trouble (List UInt8)}
    (hf : ∀ r t, f r = .error t → t.Recordable) (v : Volume) (t : SourceTree) (j : Job) :
    (outcomeOf f v t j).trouble? = none := by
  unfold outcomeOf
  split
  · rfl
  · next files _ _ =>
    cases hanswer : f (requestOf j files) with
    | ok content => rfl
    | error trouble =>
      rw [Except.map, answered_error (hf _ _ hanswer)]
      rfl

/-- The tree of a session is still as it was, or keeps the listing that a scan of it gave. -/
def Fresh (v : Volume) (t : SourceTree) (s : Session) : Prop :=
  s.tree = t ∨ ∃ listed, (t.files v).result = .ok (listed, s.tree)

theorem relevantFiles_fresh {t : SourceTree} (h : Fresh v t s) (p : Platform) :
    (s.tree.relevantFiles v p).result.map (·.1) = (t.relevantFiles v p).result.map (·.1) := by
  rcases h with h | ⟨listed, h⟩
  · rw [h]
  · rw [SourceTree.relevantFiles_of_files h p,
      SourceTree.relevantFiles_of_files (SourceTree.files_again h v) p]
    rw [SourceTree.files_keeps h]
    rfl

theorem fresh_relevantFiles {t tree : SourceTree} {p : Platform} {files : List Path}
    (h : Fresh v t s) (hf : (s.tree.relevantFiles v p).result = .ok (files, tree))
    (requests : List CompileRequest) : Fresh v t ⟨tree, requests⟩ := by
  obtain ⟨listed, hlisted⟩ := SourceTree.files_of_relevantFiles hf
  rcases h with h | ⟨found, h⟩
  · exact .inr ⟨listed, h ▸ hlisted⟩
  · have hagain := SourceTree.files_again h v
    rw [hagain] at hlisted
    cases hlisted
    exact .inr ⟨_, h⟩

/-- In such a session the files of a platform are what they are in the tree. -/
theorem relevantFiles_cases {t : SourceTree} (h : Fresh v t s) (p : Platform) :
    (∃ trouble, (s.tree.relevantFiles v p).result = .error trouble ∧
        (t.relevantFiles v p).result = .error trouble) ∨
      ∃ files tree tree', (s.tree.relevantFiles v p).result = .ok (files, tree) ∧
        (t.relevantFiles v p).result = .ok (files, tree') ∧
        ∀ requests, Fresh v t ⟨tree, requests⟩ := by
  have hsame := relevantFiles_fresh h p
  rcases hs : (s.tree.relevantFiles v p).result with trouble | ⟨files, tree⟩
  all_goals
    rcases ht : (t.relevantFiles v p).result with trouble' | ⟨files', tree'⟩
    all_goals
      rw [hs, ht] at hsame
      cases hsame
  · exact .inl ⟨trouble, rfl, rfl⟩
  · exact .inr ⟨files, tree, tree', rfl, rfl, fresh_relevantFiles h hs⟩

theorem outcome_runJob {f : CompileRequest → Except Trouble (List UInt8)} {t : SourceTree}
    (hf : e.Answers v f) (hs : Fresh v t s) (j : Job) :
    (e.runJob v s j).outcome = outcomeOf f v t j ∧ Fresh v t (e.runJob v s j).session := by
  unfold outcomeOf
  rcases relevantFiles_cases hs j.platform with
    ⟨trouble, hfiles, ht⟩ | ⟨files, tree, tree', hfiles, ht, hfresh⟩
  · obtain ⟨ho, hsession⟩ := runJob_unlisted (e := e) hfiles
    rw [ho, hsession, ht]
    exact ⟨rfl, hs⟩
  · obtain ⟨ho, hsession⟩ := runJob_listed (e := e) hfiles
    rw [ho, hsession, ht, hf]
    exact ⟨rfl, hfresh _⟩

end Executor

end BundleBuild
