/-
What a build reports of its batch. A batch owes a line for each failure and one for each artifact
that was skipped, and all of them stand in its report. But the report is printed only after the
artifacts are written: where one is refused nothing of it is printed, and what failed before goes
unreported (`Reports.refused`, `unreported_server`). Otherwise it is printed up to the first line
that cannot be shown, which ends the run.
-/
import BundleBuild.Proofs.Exiting

namespace BundleBuild

/-- The lines a batch owes: one for each failure, with its unit and its message, and one for each
artifact that was skipped. -/
inductive Batch.Owes (b : Batch) : Console.Sign × String → Prop
  | failure {f : Failure} (h : f ∈ b.failures) : b.Owes (.error, f.unit ++ ": " ++ f.message)
  | skipped {r : UnitResult} {artifact : String} (hr : r ∈ b.results) (h : artifact ∈ r.skipped) :
    b.Owes (.warning, "Skipped " ++ artifact ++ " (" ++ r.unit ++ ")")

namespace Cli

variable {s : Surroundings} {v v' : Volume} {c : Config} {b : Batch} {dir : Path}
  {line : Console.Sign × String} {lines : List (Console.Sign × String)} {texts : List String}

/-- The line is shown somewhere in what is printed on a console of so many columns. -/
def Printed (width : Nat) (printed : String) (line : Console.Sign × String) : Prop :=
  ∃ before text after, Shown width line text ∧ printed = before ++ text ++ after

theorem not_printed_empty (width : Nat) : ¬ Printed width "" line := by
  rintro ⟨before, text, after, hshown, hempty⟩
  have htext : text = "" := by
    have hparts := String.append_eq_empty_iff.mp hempty.symm
    exact (String.append_eq_empty_iff.mp hparts.1).2
  exact Console.statusLine_ne hshown htext

theorem printed_of_mem {width : Nat} (h : List.Forall₂ (Shown width) lines texts)
    (hline : line ∈ lines) : Printed width (String.join texts) line := by
  induction h with
  | nil => cases hline
  | @cons first text lines texts hfirst _ ih =>
    rw [String.join_cons]
    rcases List.mem_cons.mp hline with rfl | hline
    · exact ⟨"", text, String.join texts, hfirst, by simp⟩
    · obtain ⟨before, text', after, hshown, hjoin⟩ := ih hline
      exact ⟨text ++ before, text', after, hshown, by simp [hjoin, String.append_assoc]⟩

/-- The report of a batch holds every line it owes. -/
theorem mem_reportLines (hfailed : b.succeeded = false ↔ b.failures ≠ []) (h : b.Owes line) :
    line ∈ reportLines s dir b := by
  unfold reportLines batchLines
  cases h with
  | @failure f hf =>
    have hnot : b.succeeded = false := hfailed.mpr (List.ne_nil_of_mem hf)
    rw [hnot]
    exact List.mem_append_right _ (List.mem_map_of_mem hf)
  | @skipped r artifact hr hskipped =>
    refine List.mem_append_left _ (List.mem_append_right _ ?_)
    exact List.mem_flatMap.mpr ⟨r, hr, List.mem_map_of_mem hskipped⟩

/-- What is printed of a batch, by what became of its artifacts. -/
structure Reports (s : Surroundings) (c : Config) (v : Volume) (b : Batch) (printed : String)
    (ending : Ending) : Prop where
  /-- Where writing failed nothing is printed, so no line that is owed. -/
  refused : (∃ t, (b.writeOutputs c.outputDir v).1 = .error t) →
    printed = "" ∧ ∀ line, b.Owes line → ¬ Printed s.width printed line
  /-- Where it did not, and the report can be shown, every line that is owed is printed. -/
  reported : (∀ t, (b.writeOutputs c.outputDir v).1 ≠ .error t) →
    (∀ line ∈ reportLines s c.outputDir b, ∃ text, Shown s.width line text) →
    ∀ line, b.Owes line → Printed s.width printed line
  /-- A line that cannot be shown ends the run, with the lines before it printed. -/
  cut : (∀ t, (b.writeOutputs c.outputDir v).1 ≠ .error t) →
    (∃ line ∈ reportLines s c.outputDir b, ∀ text, ¬ Shown s.width line text) →
    ∃ before line after e, reportLines s c.outputDir b = before ++ line :: after ∧
      (∀ l ∈ before, Printed s.width printed l) ∧
      Console.statusLine s.width line.1 line.2 = .error e ∧ ending = .crashed e.trouble

theorem reports_refused {t : Trouble} (h : b.writeOutputs c.outputDir v = (.error t, v'))
    (ending : Ending) : Reports s c v b "" ending where
  refused _ := ⟨rfl, fun _ _ => not_printed_empty s.width⟩
  reported hnone := absurd (by rw [h]) (hnone t)
  cut hnone := absurd (by rw [h]) (hnone t)

theorem reports_written (hfailed : b.succeeded = false ↔ b.failures ≠ [])
    (h : Written c.outputDir b.outputs v v') (records : List Record) :
    Reports s c v b (finishBatch s c.outputDir v records b).printed
      (finishBatch s c.outputDir v records b).ending := by
  obtain ⟨paths, hpaths⟩ := written_iff.mp h
  have hok : b.writeOutputs c.outputDir v = (.ok paths, v') := hpaths
  rw [finishBatch_written h]
  obtain ⟨texts, hprinted, hend⟩ := printLines_cases s.width (reportLines s c.outputDir b)
  dsimp only
  rw [hprinted]
  refine ⟨fun ⟨t, ht⟩ => absurd ht (by simp [hok]), fun _ hshown line howes => ?_, fun _ hnot => ?_⟩
  · rcases hend with ⟨htexts, -⟩ | ⟨before, stop, after, e, hlines, -, herror, -⟩
    · exact printed_of_mem htexts (mem_reportLines hfailed howes)
    · obtain ⟨text, htext⟩ := hshown stop (by simp [hlines])
      rw [Shown, herror] at htext
      cases htext
  · rcases hend with ⟨htexts, -⟩ | ⟨before, stop, after, e, hlines, htexts, herror, htrouble⟩
    · obtain ⟨line, hline, hno⟩ := hnot
      obtain ⟨-, text, -, hshown, -⟩ := printed_of_mem htexts hline
      exact absurd hshown (hno text)
    · exact ⟨before, stop, after, e, hlines, fun l hl => printed_of_mem htexts hl, herror,
        by rw [htrouble]⟩

/-- However its workers came to a batch, a build reports it in this way. -/
theorem ComesTo.reports {catalog : Catalog} {requested : Option (List String)}
    (h : ComesTo s catalog v c requested b) (records : List Record) :
    Reports s c v b (finishBatch s c.outputDir v records b).printed
      (finishBatch s c.outputDir v records b).ending := by
  rcases written_or_refused b c.outputDir v with ⟨v', hwritten⟩ | ⟨cause, subject, v', hrefused⟩
  · exact reports_written h.accounted.failed hwritten records
  · rw [finishBatch_refused hrefused]
    exact reports_refused hrefused _

/-- **Failures are reported once the artifacts are written.** For every command line that asks for a
build and comes to a batch, each failure is printed with its unit and its message, and each skipped
artifact is printed, if the artifacts could be written and the lines of the report can be shown.
Where an artifact was refused nothing is printed, and where a line cannot be shown the run ends
there. The same goes for a batch that workers come to in any other way. -/
theorem run_reports {args : List String} {json : Bool} {level : String} {r : BuildRequest}
    (hargs : readInvocation v args = .run json level (.build r))
    (hreach : Reaches s .standard v r c b) :
    Reports s c v b (run s v args).printed (run s v args).ending ∧
    ∀ b', ComesTo s .standard v c r.requested b' → ∀ records,
      Reports s c v b' (finishBatch s c.outputDir v records b').printed
        (finishBatch s c.outputDir v records b').ending := by
  refine ⟨?_, fun b' hcomes records => hcomes.reports records⟩
  obtain ⟨records, logs, hrun⟩ := hreach.run_eq hargs
  rw [hrun]
  exact (comesTo_executeMany hreach.batch).reports records

theorem run_reports_server :
    readInvocation (workshop .dir) serverArgs = .run false "WARNING" (.build serverRequest) ∧
      Reaches testlessSurroundings .standard (workshop .dir) serverRequest {} serverBatch ∧
      Reports testlessSurroundings {} (workshop .dir) serverBatch
        (run testlessSurroundings (workshop .dir) serverArgs).printed
        (run testlessSurroundings (workshop .dir) serverArgs).ending :=
  ⟨readInvocation_server .dir, reaches_server .dir,
    (run_reports (readInvocation_server .dir) (reaches_server .dir)).1⟩

/-! ## A failure that goes unreported -/

/-- A file stands where the output directory should be. -/
theorem writeOutputs_blocked (content : List UInt8) (executable : Bool) :
    serverBatch.writeOutputs (Config.outputDir {}) (workshop (.file content executable)) =
      (.error (.atPath .exists (Config.outputDir {})), workshop (.file content executable)) := by
  have hspot : ∀ follow, (workshop (.file content executable)).look follow (Config.outputDir {}) =
      .ok (.there ["build"] (.file content executable)) := fun follow =>
    Volume.look_eq_ok_iff.mpr ⟨⟨by decide, by decide⟩, .file ⟨by decide, by decide⟩ rfl⟩
  have hmake : (workshop (.file content executable)).makeDir (Config.outputDir {}) =
      .error .exists := by
    have hallowed : (workshop (.file content executable)).unmakeable = [] := rfl
    simp [Volume.makeDir, hallowed, Volume.locateEntry, hspot]
  have hdirs : (workshop (.file content executable)).makeDirs (Config.outputDir {}) =
      (.error (.atPath .exists (Config.outputDir {})), workshop (.file content executable)) := by
    rw [Volume.makeDirs, hmake]
    simp [Volume.makeDirHere, hmake, Volume.locate, hspot]
  have houtputs : serverBatch.outputs =
      [⟨"SERVER_REPL", "server-repl.js", EntryPoint.serverReplMain.symbol, 0, [7]⟩] := rfl
  simp only [Batch.writeOutputs, houtputs, Batch.writeAll, Output.writeTo, hdirs]

/-- A build whose artifacts are refused says nothing of the tests that failed in it. -/
theorem unreported_server :
    Reaches testlessSurroundings .standard (workshop (.file [] false)) serverRequest {}
        serverBatch ∧
      serverBatch.Owes (.error, "SERVER_TESTS: Failed to " ++
        "compile 'server-tests.js' (entry point app.test.main, 0 files): compiler exited with " ++
        "status 3") ∧
      (run testlessSurroundings (workshop (.file [] false)) serverArgs).printed = "" ∧
      (run testlessSurroundings (workshop (.file [] false)) serverArgs).ending.code = 2 := by
  have hfailures : serverBatch.failures = [testsFailure] := rfl
  have howes : serverBatch.Owes (.error, testsFailure.unit ++ ": " ++ testsFailure.message) :=
    .failure (by simp [hfailures])
  have hmessage : testsFailure.unit ++ ": " ++ testsFailure.message = "SERVER_TESTS: Failed to " ++
      "compile 'server-tests.js' (entry point app.test.main, 0 files): compiler exited with " ++
      "status 3" := by decide +kernel
  obtain ⟨records, logs, hrun⟩ :=
    (reaches_server (.file [] false)).run_eq (readInvocation_server (.file [] false))
  rw [finishBatch_refused (writeOutputs_blocked [] false)] at hrun
  refine ⟨reaches_server _, hmessage ▸ howes, ?_, ?_⟩
  · rw [hrun]
  · rw [hrun]
    rfl

end Cli

end BundleBuild
