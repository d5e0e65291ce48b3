/-
Where the outputs of a batch are written. An artifact name is any text that says something, but it
is joined to the output directory as a path: slashes in it lead to other directories, and a lone dot
is the directory itself. So an output stands directly in the directory under its artifact name
exactly when the name has no slash and is not a lone dot (`Path.joinText_directlyIn_iff`), and a
catalog keeps all its outputs there exactly when its units have such names.

For such names, and where no link stands in the directory under any of them, each output has a file
of its own there and nothing else on the volume changes (`OpenDir.writeAll_frame`).
-/
import BundleBuild.Proofs.Reordering
import BundleBuild.Proofs.Sharing

namespace BundleBuild

/-! ## Names and paths -/

namespace Path

/-- A text that leads to no other directory and is not the directory itself. -/
def Plain (name : String) : Prop :=
  name ≠ "." ∧ '/' ∉ name.toList

theorem isSegment_iff {name : String} : isSegment name = true ↔ name ≠ "" ∧ Plain name := by
  simp [isSegment, Plain, and_assoc]

theorem leadOf_of_not_mem {cs : List Char} (h : '/' ∉ cs) : leadOf cs = .relative := by
  cases cs with
  | nil => rfl
  | cons c cs =>
    have hc : c ≠ '/' := fun he => h (he ▸ List.mem_cons_self)
    unfold leadOf
    split
    all_goals simp_all

/-- One segment of a path is a plain name that says something. -/
theorem isName_iff {name : String} : IsName name ↔ name ≠ "" ∧ Plain name := by
  constructor
  · intro h
    have hown : name ∈ (ofText name).segments := by simp [h.2]
    exact isSegment_iff.mp (List.all_eq_true.mp (ofText name).normal name hown)
  · rintro ⟨hne, hdot, hslash⟩
    refine ⟨leadOf_of_not_mem hslash, ?_⟩
    simp [ofText, segmentsOf, splitText, splitChars_of_not_mem hslash, hne, hdot]

/-- Joined to a directory, a name stands directly in it exactly when it is one segment. -/
theorem joinText_directlyIn_iff {dir : Path} {name : String} :
    (dir.joinText name).DirectlyIn dir name ↔ IsName name := by
  constructor
  · intro h
    have hown : name ∈ (dir.joinText name).segments := by simp [h.2]
    exact isName_iff.mpr
      (isSegment_iff.mp (List.all_eq_true.mp (dir.joinText name).normal name hown))
  · intro h
    exact directlyIn_joinText h dir

/-- Different names are different paths in a directory. -/
theorem joinText_inj {dir : Path} {a b : String} (ha : IsName a) (hb : IsName b)
    (h : dir.joinText a = dir.joinText b) : a = b := by
  have hsegments : dir.segments ++ [a] = dir.segments ++ [b] := by
    rw [← (directlyIn_joinText ha dir).2, ← (directlyIn_joinText hb dir).2, h]
  simpa using hsegments

end Path

/-! ## Outputs of a batch -/

variable {v v' : Volume} {dir : Path} {l : Location} {names : List String}

theorem Output.path_writeTo {o : Output} {path : Path} (h : o.writeTo dir v = (.ok path, v')) :
    path = dir.joinText o.artifact := by
  unfold writeTo at h
  split at h
  · cases h
  · dsimp only at h
    split at h
    · cases h
      rfl
    · cases h

theorem Output.writeTo_eq {o : Output}
    (hdir : v.locate dir = .ok (.there l .dir))
    (hw : v.write (dir.joinText o.artifact) o.content = .ok v') :
    o.writeTo dir v = (.ok (dir.joinText o.artifact), v') := by
  simp [writeTo, Volume.makeDirs_of_locate hdir, hw]

/-- Each output is written to the path of its artifact name seen from the directory. -/
theorem Batch.paths_writeAll : ∀ {os : List Output} {v v' : Volume} {paths : List Path},
    writeAll dir os v = (.ok paths, v') → paths = os.map fun o => dir.joinText o.artifact
  | [], v, v', paths, h => by
    cases h
    rfl
  | o :: os, v, v', paths, h => by
    obtain ⟨path, later, middle, rfl, hfirst, hrest⟩ := writeAll_cons_eq_ok h
    rw [List.map_cons, Output.path_writeTo hfirst, paths_writeAll hrest]

/-- Writing outputs under names without links changes nothing but the files of these names. -/
theorem Volume.OpenDir.writeAll_frame (hnames : ∀ a ∈ names, Path.IsName a) :
    ∀ {os : List Output} {v v' : Volume} {paths : List Path}, OpenDir v dir l names →
      (∀ o ∈ os, o.artifact ∈ names) → Batch.writeAll dir os v = (.ok paths, v') →
      OpenDir v' dir l names ∧
        ∀ at_, (∀ o ∈ os, at_ ≠ l ++ [o.artifact]) → v'.item? at_ = v.item? at_
  | [], v, v', paths, hdir, _, h => by
    cases h
    exact ⟨hdir, fun _ _ => rfl⟩
  | o :: os, v, v', paths, hdir, hos, h => by
    obtain ⟨later, middle, hw, hrest⟩ := hdir.writeAll_cons h
    obtain ⟨ho, hos⟩ := List.forall_mem_cons.mp hos
    have hafter := hdir.after_write ho (hnames _ ho) hw
    obtain ⟨-, executable, rfl⟩ := hdir.write ho (hnames _ ho) hw
    obtain ⟨hend, hframe⟩ := writeAll_frame hnames hafter hos hrest
    refine ⟨hend, fun at_ hat => ?_⟩
    obtain ⟨hfirst, hothers⟩ := List.forall_mem_cons.mp hat
    rw [hframe at_ hothers, item?_place_other _ hfirst]

/-- **Files of their own.** Outputs under plain names, none of them a link in the directory, are
files of this directory under these names, each with the content of the last output of its name, and
nothing else changes once the directory is made. -/
theorem Batch.writeAll_placed {os : List Output} {paths : List Path}
    (h : writeAll dir os v = (.ok paths, v')) (hnames : ∀ o ∈ os, Path.IsName o.artifact)
    (hlinks : (v.makeDirs dir).2.Unlinked dir (os.map (·.artifact))) (hsome : os ≠ []) :
    ∃ l, v'.locate dir = .ok (.there l .dir) ∧
      (∀ o ∈ os, ∃ content executable, lastContent o.artifact os = some content ∧
        v'.locate (dir.joinText o.artifact) =
          .ok (.there (l ++ [o.artifact]) (.file content executable))) ∧
      ∀ at_, (∀ o ∈ os, at_ ≠ l ++ [o.artifact]) →
        v'.item? at_ = (v.makeDirs dir).2.item? at_ := by
  obtain ⟨made, l, hmade, hdir, hw⟩ := writeAll_open h hlinks hsome
  have hisName : ∀ a ∈ os.map (·.artifact), Path.IsName a := List.forall_mem_map.mpr hnames
  obtain ⟨hend, hframe⟩ := hdir.writeAll_frame hisName (fun o ho => List.mem_map_of_mem ho) hw
  refine ⟨l, hend.there, fun o ho => ?_, fun at_ hat => by rw [hframe at_ hat, hmade]⟩
  obtain ⟨content, hlast⟩ := exists_lastContent ho
  obtain ⟨at_, executable, hspot⟩ :=
    Volume.read_eq_ok_iff.mp (writeAll_last h hnames hlinks hlast)
  have hat := hend.writeAt (List.mem_map_of_mem ho) (hnames o ho) hspot rfl
  exact ⟨content, executable, hlast, hat ▸ hspot⟩

/-! ## Batches of a catalog -/

/-- The results of one of the batches that can be built of the units of a catalog. -/
def Catalog.Builds (c : Catalog) (b : Batch) : Prop :=
  ∃ (e : Executor) (v : Volume) (s : Session) (requested : Option (List String)),
    e.catalog = c ∧ (e.executeMany v s requested).1.result = .ok b

namespace Executor

/-- Every output of a batch is for a bundle of a declared unit whose options can be settled. -/
theorem mem_outputs_executeMany {e : Executor} {v : Volume} {s : Session}
    {requested : Option (List String)} {b : Batch}
    (h : (e.executeMany v s requested).1.result = .ok b) {o : Output} (ho : o ∈ b.outputs) :
    ∃ name u, e.catalog.units.get? name = some u ∧ e.catalog.Settles u ∧
      ∃ i ∈ u.inputs, o.artifact = i.artifact := by
  obtain ⟨selected, jobs, hplan, -, hset, hb⟩ := executeMany_recorded h
  have hplanned := planned_of_prepare hplan
  have hrec := hset.recorded
  rw [conclude_eq fun x hx => (hrec x hx).whole] at hb
  cases hb
  obtain ⟨r, hr, hor⟩ := List.mem_flatMap.mp ho
  obtain ⟨x, hx, rfl⟩ := List.mem_map.mp hr
  obtain ⟨y, hy, hout⟩ := List.mem_filterMap.mp hor
  obtain ⟨hin, hunit⟩ := List.mem_filter.mp hy
  have hinput := (hrec y hin).input_eq hout
  have hown := hplanned.own x hx
  have hjob : y.1 ∈ jobs.filter (·.unit = x.1) :=
    List.mem_filter.mpr ⟨hset.plan ▸ List.mem_map_of_mem hin, hunit⟩
  exact ⟨x.1, x.2, hplanned.declared x hx, exists_planUnit_iff.mp ⟨_, hown⟩, y.1.input,
    (mem_planUnit hown hjob).2.2.1, congrArg Input.artifact hinput⟩

/-- Builds the units of a catalog with a compiler that always gives an empty bundle. -/
def blank (c : Catalog) : Executor where
  catalog := c
  compile _ _ _ := ⟨[], .ok (.bytes [])⟩
  workers := .ofInt 1
  failFast := false

/-- A declared unit whose options can be settled has an output for its own artifact in some
batch. -/
theorem exists_own_output {c : Catalog} {name : String} {u : BuildUnit}
    (hu : c.units.get? name = some u) (hsettles : c.Settles u) :
    ∃ b, c.Builds b ∧ ∃ o ∈ b.outputs, o.artifact = u.artifact := by
  obtain ⟨own, hown⟩ : ∃ own, (blank c).planUnit name u = .ok own :=
    exists_planUnit_iff.mpr hsettles
  have hplan : (blank c).prepare (some [name]) = .ok ([(name, u)], own) := prepare_one hu hown
  have hbatch := executeMany_alone (f := fun _ => .ok []) (s := listedSession) (v := .empty)
    (fun _ _ => rfl) (fun _ _ h => by cases h) rfl rfl hplan
  have hinput : u.ownInput ∈ own.map (·.input) := by
    rw [inputs_of_planUnit hown]
    exact List.mem_cons_self
  obtain ⟨j, hj, hinput⟩ := List.mem_map.mp hinput
  refine ⟨_, ⟨blank c, .empty, listedSession, some [name], rfl, hbatch⟩, ?_⟩
  refine ⟨_, (mem_outputs_alone (planned_of_prepare hplan)).mpr ⟨j, hj, rfl⟩, ?_⟩
  exact congrArg Input.artifact hinput

end Executor

/-! ## Artifacts stay in the output directory -/

namespace Catalog

variable {c : Catalog}

theorem spelled_ne {name : ArtifactName} (h : name.flaw? = none) : name.spelled ≠ "" := by
  cases name with
  | unpaired => cases h
  | text | bytes => simpa [ArtifactName.flaw?] using h

theorem artifact_ne {name : String} {u : BuildUnit} (hu : c.units.get? name = some u) :
    u.artifact ≠ "" :=
  spelled_ne (c.valid.spelled _ (Entries.mem_of_get? hu))

theorem plain_companion (p : Platform) : ∀ i ∈ p.companions, Path.IsName i.artifact := by
  have hplain : ∀ i ∈ p.companions,
      i.artifact ≠ "" ∧ i.artifact ≠ "." ∧ '/' ∉ i.artifact.toList := by
    cases p <;> decide
  exact fun i hi => Path.isName_iff.mpr (hplain i hi)

/-- An output has the artifact name of a declared unit, or is one of the companions. -/
theorem Builds.mem_outputs {b : Batch} (h : c.Builds b) {o : Output} (ho : o ∈ b.outputs) :
    (∃ name u, c.units.get? name = some u ∧ c.Settles u ∧ o.artifact = u.artifact) ∨
      Path.IsName o.artifact := by
  obtain ⟨e, v, s, requested, rfl, hb⟩ := h
  obtain ⟨name, u, hu, hsettles, i, hi, hartifact⟩ := Executor.mem_outputs_executeMany hb ho
  rcases List.mem_cons.mp hi with rfl | hi
  · exact .inl ⟨name, u, hu, hsettles, hartifact⟩
  · exact .inr (hartifact ▸ plain_companion _ i (List.mem_filter.mp hi).1)

theorem Builds.isName_iff {b : Batch} (h : c.Builds b) {o : Output} (ho : o ∈ b.outputs) :
    Path.IsName o.artifact ↔ Path.Plain o.artifact := by
  rcases h.mem_outputs ho with ⟨name, u, hu, -, hartifact⟩ | hname
  · rw [Path.isName_iff, hartifact]
    exact and_iff_right (artifact_ne hu)
  · exact ⟨fun h => (Path.isName_iff.mp h).2, fun _ => hname⟩

/-- Where the outputs of the batches of a catalog end up. -/
structure Placement (c : Catalog) : Prop where
  /-- Each path written is that of the artifact name seen from the directory. It stands directly in
  the directory under this name exactly when the name is plain. -/
  paths : ∀ b, c.Builds b → ∀ dir w paths w', b.writeOutputs dir w = (.ok paths, w') →
    List.Forall₂ (fun o p => p = dir.joinText o.artifact ∧
      (p.DirectlyIn dir o.artifact ↔ Path.Plain o.artifact)) b.outputs paths
  /-- So it is for every output of every batch exactly when the artifact names of the units that can
  be built are plain. -/
  plain : (∀ name u, c.units.get? name = some u → c.Settles u → Path.Plain u.artifact) ↔
    ∀ b, c.Builds b → ∀ o ∈ b.outputs, ∀ dir : Path,
      (dir.joinText o.artifact).DirectlyIn dir o.artifact
  /-- Plain names that differ are different paths. -/
  apart : ∀ b, c.Builds b → ∀ o ∈ b.outputs, ∀ o' ∈ b.outputs, Path.Plain o.artifact →
    Path.Plain o'.artifact → ∀ dir : Path,
      dir.joinText o.artifact = dir.joinText o'.artifact → o.artifact = o'.artifact
  /-- Where no link stands in the directory under any of them, they are different files there, and
  nothing else changes. -/
  files : ∀ b, c.Builds b → (∀ o ∈ b.outputs, Path.Plain o.artifact) → b.outputs ≠ [] →
    ∀ dir w paths w', b.writeOutputs dir w = (.ok paths, w') →
    (w.makeDirs dir).2.Unlinked dir (b.outputs.map (·.artifact)) →
    ∃ l, w'.locate dir = .ok (.there l .dir) ∧
      (∀ o ∈ b.outputs, ∃ content executable, lastContent o.artifact b.outputs = some content ∧
        w'.locate (dir.joinText o.artifact) =
          .ok (.there (l ++ [o.artifact]) (.file content executable))) ∧
      ∀ at_, (∀ o ∈ b.outputs, at_ ≠ l ++ [o.artifact]) →
        w'.item? at_ = (w.makeDirs dir).2.item? at_

/-- **Artifacts stay in the output directory** exactly where their names are names of files. -/
theorem outputs_placed (c : Catalog) : Placement c where
  paths b hb dir w paths w' h := by
    rw [Batch.paths_writeAll h, List.forall₂_map_right_iff, List.forall₂_same]
    intro o ho
    exact ⟨rfl, Path.joinText_directlyIn_iff.trans (hb.isName_iff ho)⟩
  plain := by
    constructor
    · intro hplain b hb o ho dir
      rw [Path.joinText_directlyIn_iff]
      rcases hb.mem_outputs ho with ⟨name, u, hu, hsettles, hartifact⟩ | hname
      · exact (hb.isName_iff ho).mpr (hartifact ▸ hplain name u hu hsettles)
      · exact hname
    · intro hinside name u hu hsettles
      obtain ⟨b, hb, o, ho, hartifact⟩ := Executor.exists_own_output hu hsettles
      have hname := Path.joinText_directlyIn_iff.mp (hinside b hb o ho (Path.relative []))
      exact hartifact ▸ (Path.isName_iff.mp hname).2
  apart b hb o ho o' ho' hplain hplain' dir h :=
    Path.joinText_inj ((hb.isName_iff ho).mpr hplain) ((hb.isName_iff ho').mpr hplain') h
  files b hb hplain hsome dir w paths w' h hlinks :=
    Batch.writeAll_placed h (fun o ho => (hb.isName_iff ho).mpr (hplain o ho)) hlinks hsome

theorem outputs_placed_standard :
    Placement standard ∧ ∀ b, standard.Builds b → ∀ o ∈ b.outputs, ∀ dir : Path,
      (dir.joinText o.artifact).DirectlyIn dir o.artifact := by
  have hplaced := outputs_placed standard
  have hplain : ∀ x ∈ standard.units, x.2.artifact ≠ "." ∧ '/' ∉ x.2.artifact.toList := by decide
  exact ⟨hplaced, hplaced.plain.mp fun name u hu _ => hplain _ (Entries.mem_of_get? hu)⟩

/-! ## Names that are not names of files -/

/-- Two names of one file, and one that leads out of the directory. -/
def looseCatalog : Catalog where
  units := [
    ("A", ⟨"a.js", .server, .serverReplMain, [], false⟩),
    ("B", ⟨"./a.js", .server, .testMain, [], false⟩),
    ("C", ⟨"../up.js", .server, .testMain, [], false⟩)]
  valid := by decide

/-- Builds these units with a compiler whose bundles tell tests from the rest. -/
def looseExecutor : Executor :=
  { Executor.blank looseCatalog with
    compile := fun _ _ r =>
      ⟨[], .ok (.bytes [if r.entrySymbol = EntryPoint.testMain.symbol then 1 else 0])⟩ }

/-- An output of one of these units. -/
def looseOutput (unit artifact : String) (entry : EntryPoint) (byte : UInt8) : Output :=
  ⟨unit, artifact, entry.symbol, 0, [byte]⟩

def looseBatch : Batch where
  results := [
    ⟨"A", 1, [looseOutput "A" "a.js" .serverReplMain 0], [], []⟩,
    ⟨"B", 1, [looseOutput "B" "./a.js" .testMain 1], [], []⟩,
    ⟨"C", 1, [looseOutput "C" "../up.js" .testMain 1], [], []⟩]

theorem ofDeclarations_looseCatalog :
    ofDeclarations (looseCatalog.units.map fun x => (x.1, .unit x.2)) = .ok looseCatalog := by
  refine ofDeclarations_eq_ok_iff.mpr
    ⟨looseCatalog.units.map fun x => (x.1, x.2.draft), ?_, rfl⟩
  exact {
    declarations := rfl
    artifacts := rfl
    unique := rfl
    producers := rfl
    references := checkReferences_eq_ok_iff.mpr (by decide) }

theorem builds_looseBatch : looseCatalog.Builds looseBatch :=
  ⟨looseExecutor, .empty, ⟨⟨Path.relative ["tree"], {}, some []⟩, []⟩, none, rfl, rfl⟩

/-- A volume with an output directory, and perhaps one file in it. -/
def outVolume (written : List (Location × Item)) : Volume where
  items := [(["work"], .dir), (["work", "out"], .dir)] ++ written
  home := ["work"]

theorem locate_outVolume (written : List (Location × Item)) :
    (outVolume written).locate (Path.relative ["out"]) = .ok (.there ["work", "out"] .dir) :=
  Volume.look_eq_ok_iff.mpr ⟨⟨by decide, by decide⟩, .enter ⟨by decide, by decide⟩ rfl .done⟩

/-- Two outputs of different names are written to one file, and the third one to a file that is not
in the directory. -/
theorem writeOutputs_looseBatch :
    ∃ w, looseBatch.writeOutputs (Path.relative ["out"]) (outVolume []) =
      (.ok [Path.relative ["out", "a.js"], Path.relative ["out", "a.js"],
        Path.relative ["out", "..", "up.js"]], w) ∧
      w.read (Path.relative ["out", "a.js"]) = .ok [1] ∧
      w.read (Path.relative ["up.js"]) = .ok [1] := by
  let here : Location := ["work", "out", "a.js"]
  have hfirst : (outVolume []).write (Path.relative ["out", "a.js"]) [0] =
      .ok (outVolume [(here, .file [0] false)]) := by
    have hspot : (outVolume []).locate (Path.relative ["out", "a.js"]) = .ok (.vacant here) :=
      Volume.look_eq_ok_iff.mpr ⟨⟨by decide, by decide⟩,
        .enter ⟨by decide, by decide⟩ rfl (.vacant ⟨by decide, by decide⟩ rfl)⟩
    rw [Volume.write, hspot]
    rfl
  have hsecond : (outVolume [(here, .file [0] false)]).write (Path.relative ["out", "a.js"]) [1] =
      .ok (outVolume [(here, .file [1] false)]) := by
    have hspot : (outVolume [(here, .file [0] false)]).locate (Path.relative ["out", "a.js"]) =
        .ok (.there here (.file [0] false)) :=
      Volume.look_eq_ok_iff.mpr ⟨⟨by decide, by decide⟩,
        .enter ⟨by decide, by decide⟩ rfl (.file ⟨by decide, by decide⟩ rfl)⟩
    rw [Volume.write, hspot]
    rfl
  have hthird : (outVolume [(here, .file [1] false)]).write (Path.relative ["out", "..", "up.js"])
      [1] = .ok (outVolume [(here, .file [1] false), (["work", "up.js"], .file [1] false)]) := by
    have hspot : (outVolume [(here, .file [1] false)]).locate
        (Path.relative ["out", "..", "up.js"]) = .ok (.vacant ["work", "up.js"]) :=
      Volume.look_eq_ok_iff.mpr ⟨⟨by decide, by decide⟩,
        .enter ⟨by decide, by decide⟩ rfl (.up (.vacant ⟨by decide, by decide⟩ rfl))⟩
    rw [Volume.write, hspot]
    rfl
  refine ⟨outVolume [(here, .file [1] false), (["work", "up.js"], .file [1] false)], ?_, ?_, ?_⟩
  · have hA : (looseOutput "A" "a.js" .serverReplMain 0).writeTo (Path.relative ["out"]) _ = _ :=
      Output.writeTo_eq (locate_outVolume _) hfirst
    have hB : (looseOutput "B" "./a.js" .testMain 1).writeTo (Path.relative ["out"]) _ = _ :=
      Output.writeTo_eq (locate_outVolume _) hsecond
    have hC : (looseOutput "C" "../up.js" .testMain 1).writeTo (Path.relative ["out"]) _ = _ :=
      Output.writeTo_eq (locate_outVolume _) hthird
    have houtputs : looseBatch.outputs = [looseOutput "A" "a.js" .serverReplMain 0,
      looseOutput "B" "./a.js" .testMain 1, looseOutput "C" "../up.js" .testMain 1] := rfl
    simp only [Batch.writeOutputs, houtputs, Batch.writeAll, hA, hB, hC]
    rfl
  · exact Volume.read_eq_ok_iff.mpr ⟨here, false, Volume.look_eq_ok_iff.mpr ⟨⟨by decide, by decide⟩,
      .enter ⟨by decide, by decide⟩ rfl (.file ⟨by decide, by decide⟩ rfl)⟩⟩
  · exact Volume.read_eq_ok_iff.mpr ⟨["work", "up.js"], false,
      Volume.look_eq_ok_iff.mpr ⟨⟨by decide, by decide⟩, .file ⟨by decide, by decide⟩ rfl⟩⟩

/-- A catalog that passes its checks can have artifacts that leave the output directory, or that are
written over each other. -/
theorem outputs_escape :
    ofDeclarations (looseCatalog.units.map fun x => (x.1, .unit x.2)) = .ok looseCatalog ∧
      looseCatalog.Builds looseBatch ∧
      looseBatch.outputs.map (·.artifact) = ["a.js", "./a.js", "../up.js"] ∧
      ∃ w, looseBatch.writeOutputs (Path.relative ["out"]) (outVolume []) =
        (.ok [Path.relative ["out", "a.js"], Path.relative ["out", "a.js"],
          Path.relative ["out", "..", "up.js"]], w) ∧
        w.read (Path.relative ["out", "a.js"]) = .ok [1] ∧
        w.read (Path.relative ["up.js"]) = .ok [1] :=
  ⟨ofDeclarations_looseCatalog, builds_looseBatch, rfl, writeOutputs_looseBatch⟩

end Catalog

end BundleBuild
