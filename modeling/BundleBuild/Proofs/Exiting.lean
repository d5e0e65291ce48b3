/-
What the exit code of a build says. It is put together from the result of the batch, the kinds of
its failures and what becomes of writing the artifacts, and comes to this: zero when everything was
compiled and written, two when the sources could not be listed or an artifact was refused, and one
otherwise. That the code for failures is the one for trouble with files exactly when the scan failed
is what `Failing` is for; where the scan failed there is nothing to write, so the two reasons for
the code never meet.
-/
import BundleBuild.Proofs.Failing
import BundleBuild.Proofs.Finishing
import BundleBuild.Proofs.Showing

namespace BundleBuild.Cli

variable {s : Surroundings} {catalog : Catalog} {v v' : Volume} {c : Config} {b : Batch}
  {requested : Option (List String)}

/-! ## The exit code -/

/-- What the exit code of a build says of the bundles it was asked for, of the batch it came to and
of the files after it. -/
structure ExitTells (c : Config) (v : Volume) (wanted : List Bundle) (b : Batch) (code : Nat)
    (after : Volume) : Prop where
  /-- Zero: every bundle was compiled and every output written. -/
  zero : code = 0 ↔ (∀ x ∈ wanted, b.Compiled x) ∧ Written c.outputDir b.outputs v after
  /-- Two: the sources could not be listed, or the system refused an artifact. -/
  two : code = 2 ↔ (∃ t, (treeOf c).scanRoots v = .error t) ∨
    ∃ t, (b.writeOutputs c.outputDir v).1 = .error t ∧ t.BySystem
  /-- There is no other code but one. -/
  one : code ≠ 0 → code ≠ 2 → code = 1
  /-- Where writing did not fail every output is written, whatever the code. -/
  written : (∀ t, (b.writeOutputs c.outputDir v).1 ≠ .error t) →
    Written c.outputDir b.outputs v after
  /-- Then the file of an artifact holds the last output of its name, if no link stands in the
  directory under any of the names. -/
  files : (∀ t, (b.writeOutputs c.outputDir v).1 ≠ .error t) →
    (v.makeDirs c.outputDir).2.Unlinked c.outputDir (b.outputs.map (·.artifact)) →
    ∀ o ∈ b.outputs, ∃ content, lastContent o.artifact b.outputs = some content ∧
      after.read (c.outputDir.joinText o.artifact) = .ok content

theorem code_endWriting (dir : Path) (cause : SystemCause) (subject : String) :
    (endWriting dir (.system cause subject)).code = if cause = .nullByte then 1 else 2 := by
  cases cause <;> rfl

/-- The failures count as trouble with files when each of them is. -/
theorem failuresCode_tree {failures : List Failure} (hsome : failures ≠ [])
    (h : ∀ f ∈ failures, f.errorKind = "SourceTreeError") : failuresCode failures = 2 := by
  have hall : failures.all (·.errorKind == "SourceTreeError") = true := by simpa using h
  simp [failuresCode, hsome, hall, systemError]

theorem failuresCode_other {failures : List Failure}
    (h : ∀ f ∈ failures, f.errorKind ≠ "SourceTreeError") : failuresCode failures = 1 := by
  cases failures with
  | nil => rfl
  | cons f failures =>
    have hf := h f List.mem_cons_self
    simp [failuresCode, hf, userError]

namespace ComesTo

theorem code_unlisted (h : ComesTo s catalog v c requested b)
    (hsome : requested.getD catalog.names ≠ [])
    (hdirs : ∀ d ∈ (treeOf c).askedDirs, ∃ there, v.isDir d = .ok there) {t : Trouble}
    (hscan : (treeOf c).scanRoots v = .error t) : (batchEnding b).code = 2 := by
  obtain ⟨-, hfailed, hkinds⟩ := h.unlisted hsome hscan
  have hkind : t.kind = "SourceTreeError" := by
    refine (SourceTree.kind_files_error (SourceTree.files_of_scanRoots_error rfl hscan)).mpr ?_
    intro d hd herror
    obtain ⟨there, hthere⟩ := hdirs d hd
    rw [hthere] at herror
    cases herror
  have hne := h.accounted.failed.mp hfailed
  simp only [batchEnding, hfailed, Ending.code]
  exact failuresCode_tree hne fun f hf => (hkinds f hf).trans hkind

theorem code_listed (h : ComesTo s catalog v c requested b) {found : List Path}
    (hscan : (treeOf c).scanRoots v = .ok found) :
    (batchEnding b).code = if b.succeeded then 0 else 1 := by
  unfold batchEnding
  split
  · rfl
  · exact failuresCode_other (h.listed hscan)

/-- The end of a batch whose artifacts were refused. -/
theorem exitTells_refused (h : ComesTo s catalog v c requested b)
    (hsome : requested.getD catalog.names ≠ []) {cause : SystemCause} {subject : String}
    (hrefused : b.writeOutputs c.outputDir v = (.error (.system cause subject), v')) :
    ExitTells c v (catalog.bundles (requested.getD catalog.names)) b
      (endWriting c.outputDir (.system cause subject)).code v' := by
  have hnot : ¬ Written c.outputDir b.outputs v v' := by
    intro hwritten
    obtain ⟨paths, hpaths⟩ := written_iff.mp hwritten
    have hok : b.writeOutputs c.outputDir v = (.ok paths, v') := hpaths
    rw [hrefused] at hok
    cases hok
  -- Sources that cannot be listed leave nothing to write.
  have hlisted : ¬ ∃ t, (treeOf c).scanRoots v = .error t := by
    rintro ⟨t, hscan⟩
    rw [Batch.writeOutputs, (h.unlisted hsome hscan).1] at hrefused
    cases hrefused
  have herror : ¬ ∀ t, (b.writeOutputs c.outputDir v).1 ≠ .error t := fun hnone =>
    hnone (.system cause subject) (by rw [hrefused])
  rw [code_endWriting]
  refine ⟨?_, ?_, ?_, fun hnone => absurd hnone herror, fun hnone => absurd hnone herror⟩
  · split <;> simp [hnot]
  · rw [hrefused, or_iff_right hlisted]
    split
    · next hnull => simp [Trouble.BySystem, hnull]
    · next hcause => exact ⟨fun _ => ⟨_, rfl, cause, subject, rfl, hcause⟩, fun _ => rfl⟩
  · split <;> simp

/-- The end of a batch whose artifacts were written. -/
theorem exitTells_written (h : ComesTo s catalog v c requested b)
    (hsome : requested.getD catalog.names ≠ [])
    (hdirs : ∀ d ∈ (treeOf c).askedDirs, ∃ there, v.isDir d = .ok there)
    (hnames : ∀ o ∈ b.outputs, Path.IsName o.artifact)
    (hwritten : Written c.outputDir b.outputs v v') :
    ExitTells c v (catalog.bundles (requested.getD catalog.names)) b (batchEnding b).code v' := by
  have hcompiled : b.succeeded = true ↔
      ∀ x ∈ catalog.bundles (requested.getD catalog.names), b.Compiled x :=
    h.accounted.succeeded_iff
  obtain ⟨paths, hpaths⟩ := written_iff.mp hwritten
  have hok : b.writeOutputs c.outputDir v = (.ok paths, v') := hpaths
  have hfiles : (v.makeDirs c.outputDir).2.Unlinked c.outputDir (b.outputs.map (·.artifact)) →
      ∀ o ∈ b.outputs, ∃ content, lastContent o.artifact b.outputs = some content ∧
        v'.read (c.outputDir.joinText o.artifact) = .ok content := by
    intro hlinks o ho
    obtain ⟨content, hlast⟩ := exists_lastContent ho
    exact ⟨content, hlast, Batch.writeAll_last hok hnames hlinks hlast⟩
  have htwo : (∃ t, (b.writeOutputs c.outputDir v).1 = .error t ∧ t.BySystem) ↔ False := by
    rw [hok]
    simp
  cases hscan : (treeOf c).scanRoots v with
  | error t =>
    have hcode := h.code_unlisted hsome hdirs hscan
    have hfailed := (h.unlisted hsome hscan).2.1
    refine ⟨?_, ?_, ?_, fun _ => hwritten, fun _ => hfiles⟩
    · rw [hcode, ← hcompiled, hfailed]
      simp
    · rw [hcode, hscan]
      simp
    · simp [hcode]
  | ok found =>
    have hcode := h.code_listed hscan
    refine ⟨?_, ?_, ?_, fun _ => hwritten, fun _ => hfiles⟩
    · rw [hcode, ← hcompiled]
      cases b.succeeded <;> simp [hwritten]
    · rw [hcode, htwo, hscan]
      cases b.succeeded <;> simp
    · rw [hcode]
      cases b.succeeded <;> simp

/-- However its workers came to a batch, the end of a build tells what became of it. -/
theorem exitTells (h : ComesTo s catalog v c requested b)
    (hsome : requested.getD catalog.names ≠ [])
    (hdirs : ∀ d ∈ (treeOf c).askedDirs, ∃ there, v.isDir d = .ok there)
    (hnames : ∀ o ∈ b.outputs, Path.IsName o.artifact)
    (hshown : ∀ line ∈ reportLines s c.outputDir b, ∃ text, Shown s.width line text)
    (records : List Record) :
    ExitTells c v (catalog.bundles (requested.getD catalog.names)) b
      (finishBatch s c.outputDir v records b).ending.code
      (finishBatch s c.outputDir v records b).volume := by
  rcases written_or_refused b c.outputDir v with ⟨v', hwritten⟩ | ⟨cause, subject, v', hrefused⟩
  · rw [finishBatch_written hwritten, printLines_shown hshown]
    exact h.exitTells_written hsome hdirs hnames hwritten
  · rw [finishBatch_refused hrefused]
    exact h.exitTells_refused hsome hrefused

/-- The artifacts of the standard catalog are named as files are. -/
theorem isName_standard (h : ComesTo s .standard v c requested b) :
    ∀ o ∈ b.outputs, Path.IsName o.artifact := by
  have hown : ∀ x ∈ Catalog.standard.units,
      x.2.artifact ≠ "" ∧ x.2.artifact ≠ "." ∧ '/' ∉ x.2.artifact.toList := by
    decide +kernel
  intro o ho
  obtain ⟨u, hu, hi⟩ := h.accounted.mem_outputs ho
  rcases List.mem_cons.mp hi with hi | hi
  · rw [show o.artifact = u.artifact from congrArg Input.artifact hi]
    exact Path.isName_iff.mpr (hown _ (Entries.mem_of_get? hu))
  · exact Catalog.plain_companion u.platform o.input (List.mem_filter.mp hi).1

end ComesTo

/-- The names that a build of the standard catalog is for. -/
def BuildRequest.names (r : BuildRequest) : List String :=
  r.requested.getD Catalog.standard.names

theorem Reaches.names_ne_nil {r : BuildRequest} (h : Reaches s .standard v r c b) :
    r.names ≠ [] := by
  have hstandard : Catalog.standard.names ≠ [] := by decide
  unfold BuildRequest.names BuildRequest.requested
  cases hall : r.all with
  | true => exact hstandard
  | false => exact h.asked.resolve_right (by simp [hall])

/-- **The exit code tells the outcome.** For every command line that asks for a build and comes to a
batch, on files where it can be asked what is a directory, the exit code is zero exactly when every
bundle of every requested unit was compiled and every output written, two exactly when the sources
could not be listed or the system refused an artifact, and one otherwise; and unless writing failed
every output has been written, whatever the code. This supposes that the lines of the report can be
shown. The same goes for a batch that any number of workers come to in any order, with any end of
the command for each bundle. -/
theorem run_exitTells {args : List String} {json : Bool} {level : String} {r : BuildRequest}
    (hargs : readInvocation v args = .run json level (.build r))
    (hreach : Reaches s .standard v r c b)
    (hdirs : ∀ d ∈ (treeOf c).askedDirs, ∃ there, v.isDir d = .ok there) :
    ((∀ line ∈ reportLines s c.outputDir b, ∃ text, Shown s.width line text) →
      ExitTells c v (Catalog.standard.bundles r.names) b (run s v args).ending.code
        (run s v args).volume) ∧
    ∀ selected jobs workers p,
      (executorOf s c .standard).prepare r.requested = .ok (selected, jobs) → 0 < workers →
      Pool.Run c.failFast workers (MayEnd c v) (Pool.opened jobs) p →
      (∀ q, ¬ Pool.Step c.failFast workers (MayEnd c v) p q) →
      ∃ b', (Executor.conclude selected p.outcomes).result = .ok b' ∧
        ((∀ line ∈ reportLines s c.outputDir b', ∃ text, Shown s.width line text) →
          ∀ records, ExitTells c v (Catalog.standard.bundles r.names) b'
            (finishBatch s c.outputDir v records b').ending.code
            (finishBatch s c.outputDir v records b').volume) := by
  have hsome := hreach.names_ne_nil
  constructor
  · intro hshown
    have hcomes := comesTo_executeMany hreach.batch
    obtain ⟨records, logs, hrun⟩ := hreach.run_eq hargs
    rw [hrun]
    exact hcomes.exitTells hsome hdirs hcomes.isName_standard hshown records
  · intro selected jobs workers p hplan hworkers hrun hstuck
    obtain ⟨b', hb', hcomes⟩ := comesTo_interleaved hplan hworkers hrun hstuck
    exact ⟨b', hb', hcomes.exitTells hsome hdirs hcomes.isName_standard⟩

/-! ## A build that fails in part -/

/-- Source roots without files, and something under the name of the output directory. -/
def workshop (build : Item) : Volume where
  items := [(["lib"], .dir), (["src"], .dir), (["build"], build)]
  home := []

/-- A compiler that fails on test bundles. -/
def testlessLaunch : CommandLine.Launch := fun _ _ _ args =>
  let symbol := args[5]?
  .ok {
    ending := .exited (if symbol = some "--entry_point=goog:app.test.main" then 3 else 0)
    out := [7] }

/-- What surrounds a run with this compiler. -/
def testlessSurroundings : Surroundings where
  duration := "12"
  launch := testlessLaunch

def serverRequest : BuildRequest where
  units := ["SERVER_REPL", "SERVER_TESTS"]
  all := false
  config := none
  output := none
  jobs := none
  failFast := false

/-- A job of one of the two units. -/
def serverJob (unit artifact : String) (entry : EntryPoint) : Job :=
  ⟨unit, .server, ⟨artifact, entry.symbol⟩, .ofPlatform .server entry.symbol⟩

def replJob : Job := serverJob "SERVER_REPL" "server-repl.js" .serverReplMain
def testsJob : Job := serverJob "SERVER_TESTS" "server-tests.js" .testMain

/-- What is kept of the tests that failed. -/
def testsFailure : Failure :=
  testsJob.failure 0 (.fault (.compile {
    entrySymbol := EntryPoint.testMain.symbol, fileCount := 0, cause := .exited 3,
    details := none, artifact := some "server-tests.js" }))

def serverBatch : Batch where
  results := [
    { unit := "SERVER_REPL", inputCount := 1
      outputs := [⟨"SERVER_REPL", "server-repl.js", EntryPoint.serverReplMain.symbol, 0, [7]⟩] },
    { unit := "SERVER_TESTS", inputCount := 1
      failures := [testsFailure] }]

def replUnit : BuildUnit := ⟨"server-repl.js", .server, .serverReplMain, [], false⟩
def testsUnit : BuildUnit := ⟨"server-tests.js", .server, .testMain, [], false⟩

theorem prepare_server : (executorOf testlessSurroundings {} .standard).prepare
    (some ["SERVER_REPL", "SERVER_TESTS"]) =
    .ok ([("SERVER_REPL", replUnit), ("SERVER_TESTS", testsUnit)], [replJob, testsJob]) := by
  rfl

def serverArgs : List String :=
  ["build", "SERVER_REPL", "SERVER_TESTS"]

theorem readInvocation_server (build : Item) : readInvocation (workshop build) serverArgs =
    .run false "WARNING" (.build serverRequest) := by
  rfl

theorem locate_workshop (build : Item) {name : String} (hsegment : isSegment name = true)
    (hsay : Volume.Sayable (Path.relative [name])) (hproper : Volume.Proper name)
    (hdir : (workshop build).item? [name] = some .dir) :
    (workshop build).locate ((Path.ofText ".").join (Path.relative [name])) =
      .ok (.there [name] .dir) := by
  have hpath : (Path.ofText ".").join (Path.relative [name]) = Path.relative [name] :=
    Path.ext rfl rfl
  rw [hpath, Volume.locate, Volume.look_eq_ok_iff,
    Path.segments_relative (by simpa using hsegment)]
  exact ⟨hsay, .enter hproper hdir .done⟩

theorem locate_lib (build : Item) :
    (workshop build).locate ((Path.ofText ".").join (Path.relative ["lib"])) =
      .ok (.there ["lib"] .dir) :=
  locate_workshop build (by decide) ⟨by decide, by decide⟩ ⟨by decide, by decide⟩ rfl

theorem locate_src (build : Item) :
    (workshop build).locate ((Path.ofText ".").join (Path.relative ["src"])) =
      .ok (.there ["src"] .dir) :=
  locate_workshop build (by decide) ⟨by decide, by decide⟩ ⟨by decide, by decide⟩ rfl

theorem load_workshop (build : Item) :
    (Config.load (workshop build) none none).result = .ok {} := by
  have hvacant : (workshop build).locate Config.standardFile =
      .ok (.vacant ["splitbuild.yaml"]) :=
    Volume.look_eq_ok_iff.mpr ⟨⟨by decide, by decide⟩, .vacant ⟨by decide, by decide⟩ rfl⟩
  have hnone : Config.resolve (workshop build) none none = .ok none := by
    simp [Config.resolve, nonEmpty?, Volume.exists?, Volume.find?, hvacant, Except.map]
  simp only [Config.load, hnone, Logged.result_bind, Logged.result_lift]
  rfl

theorem isDir_workshop (build : Item) :
    ∀ d ∈ (treeOf {}).askedDirs, (workshop build).isDir d = .ok true := by
  have hroot : (workshop build).locate (Path.ofText ".") = .ok (.there [] .dir) :=
    Volume.look_eq_ok_iff.mpr ⟨⟨by decide, by decide⟩, .done⟩
  intro d hd
  have hcases : d = Path.ofText "." ∨ d = (Path.ofText ".").join (Path.relative ["lib"]) ∨
      d = (Path.ofText ".").join (Path.relative ["src"]) := by
    simpa [SourceTree.askedDirs, SourceTree.declaredRoots, treeOf, sessionOf, Layout.standard]
      using hd
  rcases hcases with rfl | rfl | rfl
  · exact Volume.isDir_of_locate hroot
  · exact Volume.isDir_of_locate (locate_lib build)
  · exact Volume.isDir_of_locate (locate_src build)

theorem listRefusal?_workshop (build : Item) {name : String}
    (hempty : (workshop build).below [name] = [])
    (hopen : (workshop build).listRefusal? ((Path.ofText ".").join (Path.relative [name])) = none) :
    ∀ names ∈ (workshop build).visited [name], (workshop build).listRefusal?
      (((Path.ofText ".").join (Path.relative [name])).join (Path.relative names)) = none := by
  intro names hnames
  obtain rfl : names = [] := by simpa [hempty] using Volume.mem_visited.mp hnames
  have hself (p : Path) : p.join (Path.relative []) = p := Path.ext rfl (List.append_nil _)
  rw [hself]
  exact hopen

theorem scanRoots_workshop (build : Item) : (treeOf {}).scanRoots (workshop build) = .ok [] := by
  have hscan : ∀ names ∈ (treeOf {}).declaredRoots,
      (treeOf {}).scanRoot (workshop build) names = .ok [] := by
    have hlib := locate_lib build
    have hsrc := locate_src build
    intro names hnames
    have hcases : names = ["lib"] ∨ names = ["src"] := by
      simpa [SourceTree.declaredRoots, treeOf, sessionOf, Layout.standard] using hnames
    rcases hcases with rfl | rfl
    · simp only [SourceTree.scanRoot, treeOf, sessionOf, Volume.isDir_of_locate hlib,
        Volume.listFiles_of_locate hlib (listRefusal?_workshop build rfl rfl)]
      rfl
    · simp only [SourceTree.scanRoot, treeOf, sessionOf, Volume.isDir_of_locate hsrc,
        Volume.listFiles_of_locate hsrc (listRefusal?_workshop build rfl rfl)]
      rfl
  have hroot := isDir_workshop build (treeOf {}).root List.mem_cons_self
  have hroots : (treeOf {}).declaredRoots.mapM ((treeOf {}).scanRoot (workshop build)) =
      .ok [[], []] :=
    mapM_eq_ok_iff.mpr (.cons (hscan _ (by simp [SourceTree.declaredRoots]))
      (.cons (hscan _ (by simp [SourceTree.declaredRoots])) .nil))
  simp only [SourceTree.scanRoots, hroot, hroots]
  rfl

theorem handed_texts (texts : List String) :
    CommandLine.handed (texts.map .text) = .ok texts := by
  refine mapM_eq_ok_iff.mpr ?_
  rw [List.forall₂_map_left_iff, List.forall₂_same]
  exact fun _ _ => rfl

theorem exists_mapM_texts {α : Type} {f : α → Except Trouble Word} : ∀ {xs : List α},
    (∀ x ∈ xs, ∃ text, f x = .ok (.text text)) →
    ∃ texts : List String, xs.mapM f = .ok (texts.map .text)
  | [], _ => ⟨[], rfl⟩
  | x :: xs, h => by
    obtain ⟨⟨text, htext⟩, hxs⟩ := List.forall_mem_cons.mp h
    obtain ⟨texts, hrest⟩ := exists_mapM_texts hxs
    exact ⟨text :: texts, by rw [List.mapM_cons, htext, hrest]; rfl⟩

/-- The options of a platform can be written as arguments, and the sixth of them has the entry
symbol. -/
theorem exists_arguments (command : List String) (files : List Path) (p : Platform)
    (symbol : String) : ∃ front tail, front.length = 5 ∧
      CompileRequest.arguments command ⟨files, symbol, .ofPlatform p symbol⟩ =
        .ok ((command ++ front ++ ("--entry_point=goog:" ++ symbol) :: tail).map .text) := by
  let r : CompileRequest := ⟨files, symbol, .ofPlatform p symbol⟩
  obtain ⟨front, hlength, hfront⟩ : ∃ front : List String, front.length = 5 ∧
      r.settingArguments = (front ++ ["--entry_point=goog:" ++ symbol]).map .text :=
    ⟨[_, _, _, _, _], rfl, rfl⟩
  obtain ⟨defines, hdefines⟩ : ∃ defines : List String,
      r.defineArguments = .ok (defines.map .text) := by
    refine exists_mapM_texts fun x hx => ?_
    simp only [sortByName, List.mem_mergeSort, List.mem_cons, List.not_mem_nil, or_false] at hx
    rcases hx with rfl | rfl <;> exact ⟨_, rfl⟩
  have hflags : r.flagArguments = .ok [] := by
    have hlist : r.options.flags.list = .ok [] := rfl
    simp [CompileRequest.flagArguments, hlist, Except.mapError, sortByName, bind, Except.bind,
      pure, Except.pure]
  obtain ⟨named, hnamed⟩ : ∃ named : List String, r.fileArguments = named.map .text :=
    ⟨_, (List.map_map ..).symm⟩
  refine ⟨front, defines ++ named, hlength, ?_⟩
  have harguments : r.arguments command = .ok (command.map .text ++ r.settingArguments ++
      defines.map .text ++ [] ++ r.fileArguments) := by
    rw [CompileRequest.arguments, hdefines, hflags]
    rfl
  rw [harguments, hfront, hnamed]
  simp [List.map_append, List.append_assoc]

theorem answer_testless (v : Volume) (files : List Path) (symbol : String) (p : Platform) :
    answer {} testlessLaunch v ⟨files, symbol, .ofPlatform p symbol⟩ =
      if "--entry_point=goog:" ++ symbol = "--entry_point=goog:app.test.main" then
        .error (CommandLine.compileFault ⟨files, symbol, .ofPlatform p symbol⟩ (.exited 3) none)
      else .ok [7] := by
  obtain ⟨front, tail, hlength, harguments⟩ :=
    exists_arguments ["google-closure-compiler"] files p symbol
  have hcommand : (Config.commandLine {}).command = ["google-closure-compiler"] := rfl
  have hsixth : (front ++ ("--entry_point=goog:" ++ symbol) :: tail)[5]? =
      some ("--entry_point=goog:" ++ symbol) := by
    rw [← hlength, List.getElem?_append_right (Nat.le_refl _), Nat.sub_self,
      List.getElem?_cons_zero]
  have hlaunch : testlessLaunch v (Config.commandLine {}).sourceRoot "google-closure-compiler"
      (front ++ ("--entry_point=goog:" ++ symbol) :: tail) = .ok {
        ending := .exited (if "--entry_point=goog:" ++ symbol = "--entry_point=goog:app.test.main"
          then 3 else 0)
        out := [7] } := by
    simp only [testlessLaunch, hsixth, Option.some.injEq]
  rw [answer, CommandLine.result_compileWith, hcommand, harguments]
  simp only [bind, Except.bind, handed_texts, List.cons_append, List.nil_append, hlaunch]
  split <;> rfl

theorem relevantFiles_workshop (build : Item) (p : Platform) : ∃ tree,
    ((treeOf {}).relevantFiles (workshop build) p).result = .ok ([], tree) := by
  have hempty : SourceTree.inOrder [] = [] := by simp [SourceTree.inOrder, sortSegments]
  have hfiles := SourceTree.files_of_scanRoots rfl (scanRoots_workshop build)
  rw [hempty] at hfiles
  exact ⟨_, SourceTree.relevantFiles_of_files hfiles p⟩

theorem outcome_repl (build : Item) :
    Executor.outcomeOf (answer {} testlessLaunch (workshop build)) (workshop build) (treeOf {})
      replJob = .built (replJob.output 0 [7]) := by
  obtain ⟨tree, hfiles⟩ := relevantFiles_workshop build .server
  have hanswer := answer_testless (workshop build) [] EntryPoint.serverReplMain.symbol .server
  rw [if_neg (by decide)] at hanswer
  simp only [Executor.outcomeOf, replJob, serverJob, hfiles, Executor.requestOf, hanswer]
  rfl

theorem outcome_tests (build : Item) :
    Executor.outcomeOf (answer {} testlessLaunch (workshop build)) (workshop build) (treeOf {})
      testsJob = .failed testsFailure := by
  obtain ⟨tree, hfiles⟩ := relevantFiles_workshop build .server
  have hanswer := answer_testless (workshop build) [] EntryPoint.testMain.symbol .server
  rw [if_pos (by decide)] at hanswer
  simp only [Executor.outcomeOf, testsJob, serverJob, hfiles, Executor.requestOf, hanswer]
  rfl

theorem reaches_server (build : Item) :
    Reaches testlessSurroundings .standard (workshop build) serverRequest {} serverBatch where
  asked := .inl (by decide)
  loaded := ⟨{}, load_workshop build, rfl⟩
  batch := by
    have hbatch := Executor.executeMany_alone (s := sessionOf {})
      (e := executorOf testlessSurroundings {} .standard) (v := workshop build)
      (f := answer {} testlessLaunch (workshop build)) (fun _ _ => rfl)
      (fun _ _ h => (CommandLine.foreign_compileWith h).recordable) rfl rfl prepare_server
    have hrequested : serverRequest.requested = some ["SERVER_REPL", "SERVER_TESTS"] := rfl
    have hrepl : [replJob, testsJob].filter (·.unit = "SERVER_REPL") = [replJob] := rfl
    have htests : [replJob, testsJob].filter (·.unit = "SERVER_TESTS") = [testsJob] := rfl
    rw [hrequested, hbatch]
    simp only [List.map_cons, List.map_nil, hrepl, htests, Executor.resultAlone, resultOf]
    rw [show (sessionOf {}).tree = treeOf {} from rfl, outcome_repl, outcome_tests]
    rfl

theorem shown_server :
    ∀ line ∈ reportLines testlessSurroundings (Config.outputDir {}) serverBatch,
      ∃ text, Shown testlessSurroundings.width line text := by
  have hplain : ∀ line ∈ reportLines testlessSurroundings (Config.outputDir {}) serverBatch,
      '[' ∉ line.2.toList := by decide +kernel
  exact fun line hline => Console.exists_statusLine _ line.1 (hplain line hline)

theorem run_exitTells_server :
    readInvocation (workshop .dir) serverArgs = .run false "WARNING" (.build serverRequest) ∧
      Reaches testlessSurroundings .standard (workshop .dir) serverRequest {} serverBatch ∧
      (∀ d ∈ (treeOf {}).askedDirs, ∃ there, (workshop .dir).isDir d = .ok there) ∧
      ExitTells {} (workshop .dir) (Catalog.standard.bundles serverRequest.names) serverBatch
        (run testlessSurroundings (workshop .dir) serverArgs).ending.code
        (run testlessSurroundings (workshop .dir) serverArgs).volume := by
  have hdirs : ∀ d ∈ (treeOf {}).askedDirs, ∃ there, (workshop .dir).isDir d = .ok there :=
    fun d hd => ⟨true, isDir_workshop .dir d hd⟩
  exact ⟨readInvocation_server .dir, reaches_server .dir, hdirs,
    (run_exitTells (readInvocation_server .dir) (reaches_server .dir) hdirs).1 shown_server⟩

end BundleBuild.Cli
