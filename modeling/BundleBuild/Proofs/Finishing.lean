/-
How a build ends that has come to a batch. Its artifacts are written first, one after another, and
only when all of them are is anything printed: the files that were built, what was skipped, and what
failed. So there are two ways to end, by what becomes of the writing (`finishBatch_refused`,
`finishBatch_written`), and in the first nothing is printed at all.
-/
import BundleBuild.Cli.Program
import BundleBuild.Proofs.Containment

namespace BundleBuild

/-! ## Writing the artifacts -/

/-- The outputs are written into a directory one after another: it is made if need be, and then the
content of the output is written under its artifact name. -/
inductive Written (dir : Path) : List Output → Volume → Volume → Prop
  | none {v : Volume} : Written dir [] v v
  | next {o : Output} {os : List Output} {v made after v' : Volume}
    (dirMade : v.makeDirs dir = (.ok (), made))
    (file : made.write (dir.joinText o.artifact) o.content = .ok after)
    (rest : Written dir os after v') : Written dir (o :: os) v v'

variable {dir : Path} {v v' : Volume} {b : Batch}

theorem written_iff : ∀ {os : List Output} {v v' : Volume},
    Written dir os v v' ↔ ∃ paths, Batch.writeAll dir os v = (.ok paths, v')
  | [], v, v' => by
    constructor
    · rintro ⟨⟩
      exact ⟨[], rfl⟩
    · rintro ⟨paths, h⟩
      cases h
      exact .none
  | o :: os, v, v' => by
    constructor
    · intro h
      cases h with
      | next dirMade file rest =>
        obtain ⟨paths, hrest⟩ := written_iff.mp rest
        exact ⟨dir.joinText o.artifact :: paths, by
          simp [Batch.writeAll, Output.writeTo, dirMade, file, hrest, Except.map]⟩
    · rintro ⟨paths, h⟩
      obtain ⟨path, later, middle, -, hfirst, hrest⟩ := Batch.writeAll_cons_eq_ok h
      obtain ⟨made, hmade, hw⟩ := Output.writeTo_eq_ok hfirst
      exact .next hmade hw (written_iff.mpr ⟨later, hrest⟩)

/-! ### Writing that is refused -/

/-- The system was asked and refused. It is never asked about a text with a NUL byte. -/
def Trouble.BySystem (t : Trouble) : Prop :=
  ∃ cause subject, t = .system cause subject ∧ cause ≠ .nullByte

theorem Volume.makeDirHere_error {p : Path} {t : Trouble}
    (h : v.makeDirHere p = (.error t, v')) : ∃ cause subject, t = .system cause subject := by
  unfold makeDirHere at h
  split at h
  · cases h
  · split at h
    · cases h
    · cases h
      exact ⟨_, _, rfl⟩

theorem Volume.makeDirs_error {v v' : Volume} {p : Path} {t : Trouble}
    (h : v.makeDirs p = (.error t, v')) : ∃ cause subject, t = .system cause subject := by
  fun_induction Volume.makeDirs v p generalizing v' t with
  | case1 =>
    cases h
    exact ⟨_, _, rfl⟩
  | case2 => exact makeDirHere_error h
  | case3 p _ _ _ _ t' v'' hparent ih =>
    cases h
    exact ih hparent
  | case4 => exact makeDirHere_error h

theorem Output.writeTo_error {o : Output} {t : Trouble} (h : o.writeTo dir v = (.error t, v')) :
    ∃ cause subject, t = .system cause subject := by
  unfold writeTo at h
  split at h
  · next hmade =>
    cases h
    exact Volume.makeDirs_error hmade
  · dsimp only at h
    split at h
    · cases h
    · cases h
      exact ⟨_, _, rfl⟩

/-- Only the file system refuses an artifact. -/
theorem Batch.writeAll_error : ∀ {os : List Output} {v v' : Volume} {t : Trouble},
    writeAll dir os v = (.error t, v') → ∃ cause subject, t = .system cause subject
  | [], v, v', t, h => by cases h
  | o :: os, v, v', t, h => by
    rcases writeAll_cons_eq_error h with hfirst | ⟨path, middle, -, hrest⟩
    · exact Output.writeTo_error hfirst
    · exact writeAll_error hrest

namespace Cli

/-! ## Printing -/

/-- The line can be shown on a console of so many columns, as this text. -/
def Shown (width : Nat) (line : Console.Sign × String) (text : String) : Prop :=
  Console.statusLine width line.1 line.2 = .ok text

/-- Lines are printed one after another, up to the first that cannot be shown. -/
theorem printLines_cases (width : Nat) : ∀ lines : List (Console.Sign × String),
    ∃ texts, (printLines width lines).1 = String.join texts ∧
      ((List.Forall₂ (Shown width) lines texts ∧ (printLines width lines).2 = none) ∨
        ∃ before line after e, lines = before ++ line :: after ∧
          List.Forall₂ (Shown width) before texts ∧
          Console.statusLine width line.1 line.2 = .error e ∧
          (printLines width lines).2 = some e.trouble)
  | [] => ⟨[], rfl, .inl ⟨.nil, rfl⟩⟩
  | (sign, message) :: lines => by
    cases hline : Console.statusLine width sign message with
    | error e =>
      have hstop : printLines width ((sign, message) :: lines) = ("", some e.trouble) := by
        simp [printLines, hline]
      rw [hstop]
      exact ⟨[], rfl, .inr ⟨[], (sign, message), lines, e, rfl, .nil, hline, rfl⟩⟩
    | ok text =>
      obtain ⟨texts, hprinted, hend⟩ := printLines_cases width lines
      have hfirst : (printLines width ((sign, message) :: lines)).1 =
          text ++ (printLines width lines).1 := by
        simp [printLines, hline]
      have hsame : (printLines width ((sign, message) :: lines)).2 =
          (printLines width lines).2 := by
        simp [printLines, hline]
      refine ⟨text :: texts, by rw [hfirst, hprinted, String.join_cons], ?_⟩
      rw [hsame]
      rcases hend with ⟨hshown, hnone⟩ | ⟨before, line, after, e, rfl, hshown, herror, htrouble⟩
      · exact .inl ⟨.cons hline hshown, hnone⟩
      · exact .inr ⟨(sign, message) :: before, line, after, e, rfl, .cons hline hshown, herror,
          htrouble⟩

theorem printLines_shown {width : Nat} {lines : List (Console.Sign × String)}
    (h : ∀ line ∈ lines, ∃ text, Shown width line text) : (printLines width lines).2 = none := by
  obtain ⟨texts, -, ⟨-, hnone⟩ | ⟨before, line, after, e, rfl, -, herror, -⟩⟩ :=
    printLines_cases width lines
  · exact hnone
  · obtain ⟨text, htext⟩ := h line (by simp)
    rw [Shown, herror] at htext
    cases htext

/-! ## Ending -/

variable {s : Surroundings} {records : List Record}

/-- What a batch prints once its artifacts are in the directory. -/
def reportLines (s : Surroundings) (dir : Path) (b : Batch) : List (Console.Sign × String) :=
  batchLines s.duration (b.outputs.map fun o => dir.joinText o.artifact) b

theorem finishBatch_refused {t : Trouble} (h : b.writeOutputs dir v = (.error t, v')) :
    finishBatch s dir v records b =
      { records := records, volume := v', ending := endWriting dir t } := by
  simp only [finishBatch, h]

theorem finishBatch_written (h : Written dir b.outputs v v') :
    finishBatch s dir v records b =
      { printed := (printLines s.width (reportLines s dir b)).1
        records := records
        volume := v'
        ending := match (printLines s.width (reportLines s dir b)).2 with
          | some t => .crashed t
          | none => batchEnding b } := by
  obtain ⟨paths, hpaths⟩ := written_iff.mp h
  have hwritten : b.writeOutputs dir v = (.ok paths, v') := hpaths
  have hlines : batchLines s.duration paths b = reportLines s dir b := by
    rw [reportLines, Batch.paths_writeAll hpaths]
  rcases hprint : printLines s.width (reportLines s dir b) with ⟨printed, _ | t⟩ <;>
    simp only [finishBatch, hwritten, hlines, hprint]

theorem written_or_refused (b : Batch) (dir : Path) (v : Volume) :
    (∃ v', Written dir b.outputs v v') ∨
      ∃ cause subject v', b.writeOutputs dir v = (.error (.system cause subject), v') := by
  rcases h : b.writeOutputs dir v with ⟨t | paths, v'⟩
  · obtain ⟨cause, subject, rfl⟩ := Batch.writeAll_error h
    exact .inr ⟨cause, subject, v', rfl⟩
  · exact .inl ⟨v', written_iff.mpr ⟨paths, h⟩⟩

/-! ## Builds that come to a batch -/

/-- The units that are asked for, if not all of them are. -/
def BuildRequest.requested (r : BuildRequest) : Option (List String) :=
  if r.all then none else some r.units

/-- A build that comes to a batch: units are asked for, the configuration is loaded, and the
executor made of it gives the batch. -/
structure Reaches (s : Surroundings) (catalog : Catalog) (v : Volume) (r : BuildRequest)
    (c : Config) (b : Batch) : Prop where
  asked : r.units ≠ [] ∨ r.all = true
  loaded : ∃ found, (Config.load v r.config s.configFile).result = .ok found ∧ c = override r found
  batch : ((executorOf s c catalog).executeMany v (sessionOf c) r.requested).1.result = .ok b

variable {catalog : Catalog} {r : BuildRequest} {c : Config}

theorem Reaches.build_eq (h : Reaches s catalog v r c b) :
    ∃ records, build s catalog v r = finishBatch s c.outputDir v records b := by
  obtain ⟨hasked, ⟨found, hfound, rfl⟩, hbatch⟩ := h
  have hsome : (r.units.isEmpty && !r.all) = false := by
    rcases hasked with hunits | hall
    · simp [hunits]
    · simp [hall]
  unfold BuildRequest.requested at hbatch
  simp only [build, buildStage, hsome, hfound, hbatch]
  exact ⟨_, rfl⟩

/-- A command line that asks for a build runs it on the standard catalog. -/
theorem Reaches.run_eq {args : List String} {json : Bool} {level : String}
    (hargs : readInvocation v args = .run json level (.build r))
    (h : Reaches s .standard v r c b) :
    ∃ records logs, run s v args =
      { finishBatch s c.outputDir v records b with logs := logs } := by
  obtain ⟨records, hbuild⟩ := h.build_eq
  rw [build] at hbuild
  exact ⟨records, _, by simp only [run, start, hargs, hbuild]; rfl⟩

end Cli

end BundleBuild
