/-
What a scan of a source tree finds, and what stops it. A file of the tree is what the declared
roots lead down to through real directories alone (`Volume.Descends`), unless it is a directory or
a link to one. The scan lists exactly these files, in order and each once, however the declared
roots lie in one another and wherever links lead (`Lists`); or it fails, and then with the first
thing that is wrong (`FirstProblem`).

A listing looks at the table of the volume, not from directory to directory: that it comes to the
same is `mem_below_iff`. It visits directories in the order of their names, so the refusal it ends
with is that of the least directory that cannot be listed (`listFiles_eq_error`).
-/
import BundleBuild.Proofs.Lookup
import BundleBuild.Proofs.Ordering
import BundleBuild.Proofs.Remembering

namespace BundleBuild

/-! ## Below a directory -/

namespace Volume

variable {v : Volume}

/-- From a location the names lead down to an item, each but the last through a real directory. -/
inductive Descends (v : Volume) : Location → List String → Item → Prop
  | entry {at_ name item} (there : v.item? (at_ ++ [name]) = some item) :
    Descends v at_ [name] item
  | enter {at_ name rest item} (dir : v.item? (at_ ++ [name]) = some .dir)
    (next : Descends v (at_ ++ [name]) rest item) : Descends v at_ (name :: rest) item

theorem Descends.ne_nil {at_ : Location} {names : List String} {item : Item}
    (h : v.Descends at_ names item) : names ≠ [] := by
  cases h <;> simp

theorem descends_iff : ∀ {names : List String} {at_ : Location} {item : Item},
    v.Descends at_ names item ↔ names ≠ [] ∧ v.throughDirs at_ names = true ∧
      v.item? (at_ ++ names) = some item
  | [], at_, item => ⟨fun h => absurd rfl h.ne_nil, fun h => absurd rfl h.1⟩
  | [name], at_, item => by
    constructor
    · rintro (hthere | ⟨-, hnext⟩)
      · exact ⟨by simp, rfl, hthere⟩
      · exact absurd rfl hnext.ne_nil
    · rintro ⟨-, -, hthere⟩
      exact .entry hthere
  | name :: next :: rest, at_, item => by
    have ih := @descends_iff (next :: rest) (at_ ++ [name]) item
    rw [List.append_assoc, List.singleton_append] at ih
    simp only [throughDirs, Bool.and_eq_true, beq_iff_eq]
    constructor
    · rintro (_ | ⟨hdir, hnext⟩)
      obtain ⟨-, hthrough, hthere⟩ := ih.mp hnext
      exact ⟨by simp, ⟨hdir, hthrough⟩, hthere⟩
    · rintro ⟨-, ⟨hdir, hthrough⟩, hthere⟩
      exact .enter hdir (ih.mpr ⟨by simp, hthrough, hthere⟩)

theorem mem_items_of_item? {at_ : Location} {item : Item} (hat : at_ ≠ [])
    (h : v.item? at_ = some item) : (at_, item) ∈ v.items := by
  have hempty : at_.isEmpty = false := by simpa using hat
  simp only [item?, hempty] at h
  obtain ⟨⟨l, item'⟩, hfind, rfl⟩ := Option.map_eq_some_iff.mp h
  have hl : l = at_ := by simpa using List.find?_some hfind
  exact hl ▸ List.mem_of_find?_eq_some hfind

/-- The table of the volume shows below a location what the way down shows. -/
theorem mem_below_iff {at_ : Location} {names : List String} {item : Item} :
    (names, item) ∈ v.below at_ ↔ v.Descends at_ names item := by
  rw [descends_iff, below, List.mem_filterMap]
  constructor
  · rintro ⟨⟨l, _⟩, -, hnames⟩
    dsimp only at hnames
    split at hnames
    · next hshown =>
      simp only [Bool.and_eq_true, List.isPrefixOf_iff_prefix, Bool.not_eq_true'] at hshown
      obtain ⟨⟨⟨tail, rfl⟩, htail⟩, hthrough⟩ := hshown
      obtain ⟨item', hitem, heq⟩ := Option.map_eq_some_iff.mp hnames
      cases heq
      rw [List.drop_left] at htail hthrough ⊢
      exact ⟨by simpa using htail, hthrough, hitem⟩
    · cases hnames
  · rintro ⟨hsome, hthrough, hitem⟩
    have hat : at_ ++ names ≠ [] := by simp [hsome]
    refine ⟨(at_ ++ names, item), mem_items_of_item? hat hitem, ?_⟩
    simp [hsome, hthrough, hitem]

/-- A directory that a listing of the location visits: this itself, or a real directory below. -/
def Visits (v : Volume) (at_ : Location) (names : List String) : Prop :=
  names = [] ∨ v.Descends at_ names .dir

theorem mem_visited_iff {at_ : Location} {names : List String} :
    names ∈ v.visited at_ ↔ v.Visits at_ names := by
  rw [mem_visited, mem_below_iff, Visits]

/-- Directories are visited in the order of their names, so each after those above it. -/
theorem visited_increasing (v : Volume) (at_ : Location) :
    (v.visited at_).Pairwise fun a b => a < b := by
  refine List.pairwise_cons.mpr ⟨fun names hnames => ?_, sortSegments_increasing _⟩
  have hsome : names ≠ [] := by
    obtain ⟨⟨_, item⟩, hbelow, hdir⟩ := List.mem_filterMap.mp (mem_sortSegments.mp hnames)
    simp only [Option.ite_none_right_eq_some, Option.some.injEq] at hdir
    obtain ⟨rfl, rfl⟩ := hdir
    exact (mem_below_iff.mp hbelow).ne_nil
  obtain ⟨name, rest, rfl⟩ := List.exists_cons_of_ne_nil hsome
  exact List.nil_lt_cons name rest

/-! ## Listing a directory -/

/-- Every directory visited from the location, which the path leads to, can be listed. -/
def Readable (v : Volume) (p : Path) (at_ : Location) : Prop :=
  ∀ names, v.Visits at_ names → v.listRefusal? (p.join (Path.relative names)) = none

/-- The refusal of the first directory visited that cannot be listed. -/
def FirstRefusal (v : Volume) (p : Path) (at_ : Location) (refusal : Trouble) : Prop :=
  ∃ names cause, v.Visits at_ names ∧
    v.listRefusal? (p.join (Path.relative names)) = some cause ∧
    refusal = .atPath cause (p.join (Path.relative names)) ∧
    ∀ others, v.Visits at_ others → others < names →
      v.listRefusal? (p.join (Path.relative others)) = none

/-- What stands at the path is listed as a file: it is no directory, and no link that leads to
one. -/
def CountsAsFile (v : Volume) (p : Path) (item : Item) : Prop :=
  item ≠ .dir ∧ ∀ target, item = .link target → ∀ l, v.locate p ≠ .ok (.there l .dir)

theorem showsDir_eq_false_iff {p : Path} {item : Item} :
    v.showsDir p item = false ↔ v.CountsAsFile p item := by
  cases item with
  | dir => simp [showsDir, CountsAsFile]
  | file _ _ => simp [showsDir, CountsAsFile]
  | link target =>
    simp only [showsDir, CountsAsFile, ne_eq, reduceCtorEq, not_false_eq_true, true_and,
      Item.link.injEq, forall_eq']
    constructor
    · intro h l hl
      rw [hl] at h
      cases h
    · intro h
      split
      · next l hl => exact absurd hl (h l)
      · rfl

theorem isDir_eq_true_iff {p : Path} :
    v.isDir p = .ok true ↔ ∃ l, v.locate p = .ok (.there l .dir) := by
  constructor
  · intro h
    obtain ⟨found, hfound, hdir⟩ := map_eq_ok_iff.mp h
    unfold find? at hfound
    split at hfound
    · next l item hl =>
      cases hfound
      obtain rfl : item = .dir := by simpa using hdir
      exact ⟨l, hl⟩
    · cases hfound
      simp at hdir
    · split at hfound
      · cases hfound
        simp at hdir
      · cases hfound
  · rintro ⟨l, hl⟩
    exact isDir_of_locate hl

/-- Where all directories can be listed, the listing has what is to be listed below the directory.
-/
theorem listFiles_eq_ok {p : Path} {l : Location} (h : v.locate p = .ok (.there l .dir))
    (hreadable : v.Readable p l) : ∃ found, v.listFiles p = .ok found ∧
      ∀ names, names ∈ found ↔ ∃ item, v.Descends l names item ∧
        v.CountsAsFile (p.join (Path.relative names)) item := by
  refine ⟨_, listFiles_of_locate h fun names hnames => hreadable names (mem_visited_iff.mp hnames),
    fun names => ?_⟩
  rw [List.mem_filterMap]
  constructor
  · rintro ⟨⟨names', item⟩, hbelow, hshown⟩
    dsimp only at hshown
    split at hshown
    · cases hshown
    · next hlists =>
      cases hshown
      exact ⟨item, mem_below_iff.mp hbelow,
        showsDir_eq_false_iff.mp (Bool.eq_false_iff.mpr hlists)⟩
  · rintro ⟨item, hdescends, hlists⟩
    exact ⟨(names, item), mem_below_iff.mpr hdescends, by simp [showsDir_eq_false_iff.mpr hlists]⟩

/-- Where some directory cannot be listed, the listing ends with the first such refusal. -/
theorem listFiles_eq_error {p : Path} {l : Location} (h : v.locate p = .ok (.there l .dir))
    (hreadable : ¬ v.Readable p l) : ∃ refusal, v.listFiles p = .error refusal ∧
      v.FirstRefusal p l refusal := by
  let refusal? (names : List String) : Option Trouble :=
    (v.listRefusal? (p.join (Path.relative names))).map fun cause =>
      .atPath cause (p.join (Path.relative names))
  cases hfind : (v.visited l).findSome? refusal? with
  | none =>
    refine absurd (fun names hnames => ?_) hreadable
    have hnone := List.findSome?_eq_none_iff.mp hfind names (mem_visited_iff.mpr hnames)
    exact Option.map_eq_none_iff.mp hnone
  | some refusal =>
    obtain ⟨before, names, after, hvisited, hrefusal, hbefore⟩ :=
      List.findSome?_eq_some_iff.mp hfind
    obtain ⟨cause, hcause, rfl⟩ := Option.map_eq_some_iff.mp hrefusal
    refine ⟨_, by simp only [listFiles, h]; rw [hfind], names, cause, ?_, hcause, rfl, ?_⟩
    · exact mem_visited_iff.mp (by simp [hvisited])
    · intro others hothers hlt
      -- What is visited before `names` is less; what is visited after is greater.
      have hincreasing := v.visited_increasing l
      rw [hvisited, List.pairwise_append, List.pairwise_cons] at hincreasing
      have hmem : others ∈ before ++ names :: after := hvisited ▸ mem_visited_iff.mpr hothers
      rcases List.mem_append.mp hmem with hmem | hmem
      · exact Option.map_eq_none_iff.mp (hbefore others hmem)
      · rcases List.mem_cons.mp hmem with rfl | hmem
        · exact absurd hlt (lt_irrefl _)
        · exact absurd hlt (lt_asymm (hincreasing.2.1.1 others hmem))

end Volume

/-! ## Declared roots -/

namespace SourceTree

variable {t : SourceTree} {v : Volume} {names : List String}

/-- The path of a declared root. -/
def rootPath (t : SourceTree) (names : List String) : Path :=
  t.root.join (Path.relative names)

/-- The declared root is a directory, and every directory visited from there can be listed. -/
def Open (t : SourceTree) (v : Volume) (names : List String) : Prop :=
  ∃ l, v.locate (t.rootPath names) = .ok (.there l .dir) ∧ v.Readable (t.rootPath names) l

/-- A file below the declared root, seen from the root of the tree. -/
def FileBelow (t : SourceTree) (v : Volume) (names : List String) (file : Path) : Prop :=
  ∃ l rest item, v.locate (t.rootPath names) = .ok (.there l .dir) ∧ v.Descends l rest item ∧
    v.CountsAsFile (t.root.join file) item ∧ file = Path.relative (names ++ rest)

/-- What is wrong with a declared root: it is missing, or it cannot be read to its end. -/
inductive RootProblem (t : SourceTree) (v : Volume) (names : List String) : Trouble → Prop
  | missing (no : v.isDir (t.rootPath names) = .ok false) :
    RootProblem t v names (fault .rootMissing (t.rootPath names) none)
  | unreadable {l : Location} {refusal : Trouble}
    (there : v.locate (t.rootPath names) = .ok (.there l .dir))
    (refused : v.FirstRefusal (t.rootPath names) l refusal) :
    RootProblem t v names (fault .unreadable (t.rootPath names) (some refusal.text))

theorem rootPath_join (t : SourceTree) (names rest : List String) :
    (t.rootPath names).join (Path.relative rest) = t.root.join (Path.relative (names ++ rest)) := by
  rw [rootPath, ← Path.join_assoc, Path.relative_join]

theorem scanRoot_open (h : t.Open v names) : ∃ found, t.scanRoot v names = .ok found ∧
    ∀ file, file ∈ found ↔ t.FileBelow v names file := by
  obtain ⟨l, hl, hreadable⟩ := h
  obtain ⟨below, hbelow, hmem⟩ := Volume.listFiles_eq_ok hl hreadable
  refine ⟨below.map fun rest => Path.relative (names ++ rest), ?_, fun file => ?_⟩
  · simp only [rootPath] at hl hbelow
    simp only [scanRoot, Volume.isDir_of_locate hl, hbelow, bind, Except.bind, if_true]
  · simp only [List.mem_map, hmem, rootPath_join]
    constructor
    · rintro ⟨rest, ⟨item, hdescends, hfile⟩, rfl⟩
      exact ⟨l, rest, item, hl, hdescends, hfile, rfl⟩
    · rintro ⟨l', rest, item, hl', hdescends, hfile, rfl⟩
      rw [hl] at hl'
      cases hl'
      exact ⟨rest, ⟨item, hdescends, hfile⟩, rfl⟩

theorem scanRoot_problem (hanswer : ∃ there, v.isDir (t.rootPath names) = .ok there)
    (h : ¬ t.Open v names) : ∃ trouble, t.scanRoot v names = .error trouble ∧
      t.RootProblem v names trouble := by
  obtain ⟨there, hthere⟩ := hanswer
  cases there with
  | false =>
    refine ⟨_, ?_, .missing hthere⟩
    simp only [rootPath] at hthere ⊢
    simp [scanRoot, hthere, bind, Except.bind]
  | true =>
    obtain ⟨l, hl⟩ := Volume.isDir_eq_true_iff.mp hthere
    have hunreadable : ¬ v.Readable (t.rootPath names) l := fun hr => h ⟨l, hl, hr⟩
    obtain ⟨refusal, hrefusal, hfirst⟩ := Volume.listFiles_eq_error hl hunreadable
    refine ⟨_, ?_, .unreadable hl hfirst⟩
    simp only [rootPath] at hthere hrefusal ⊢
    simp [scanRoot, hthere, hrefusal, bind, Except.bind]

/-! ## The whole tree -/

/-- The root of the tree is a directory, and both declared roots are open. -/
def AllOpen (t : SourceTree) (v : Volume) : Prop :=
  v.isDir t.root = .ok true ∧ t.Open v t.layout.libraryRoot ∧ t.Open v t.layout.sourceRoot

/-- The first problem of a scan: the tree is missing, or else something is wrong with the library
root, or else with the source root. -/
inductive FirstProblem (t : SourceTree) (v : Volume) : Trouble → Prop
  | tree (no : v.isDir t.root = .ok false) : FirstProblem t v (fault .treeMissing t.root none)
  | library {trouble : Trouble} (root : v.isDir t.root = .ok true)
    (problem : t.RootProblem v t.layout.libraryRoot trouble) : FirstProblem t v trouble
  | source {trouble : Trouble} (root : v.isDir t.root = .ok true)
    (library : t.Open v t.layout.libraryRoot)
    (problem : t.RootProblem v t.layout.sourceRoot trouble) : FirstProblem t v trouble

/-- A listing of all files below the declared roots, in strictly increasing order of their
segments. -/
structure Lists (t : SourceTree) (v : Volume) (listed : List Path) : Prop where
  increasing : listed.Pairwise fun a b => a.segments < b.segments
  files : ∀ file, file ∈ listed ↔
    t.FileBelow v t.layout.libraryRoot file ∨ t.FileBelow v t.layout.sourceRoot file

theorem inOrder_increasing (found : List Path) :
    (inOrder found).Pairwise fun a b => a.segments < b.segments := by
  have hback : ∀ segs ∈ sortSegments (found.map (·.segments)),
      (Path.relative segs).segments = segs := by
    intro segs hsegs
    obtain ⟨file, -, rfl⟩ := List.mem_map.mp (mem_sortSegments.mp hsegs)
    exact Path.segments_relative (List.all_eq_true.mp file.normal)
  refine List.pairwise_map.mpr ((sortSegments_increasing _).imp_of_mem fun ha hb hlt => ?_)
  rwa [hback _ ha, hback _ hb]

theorem mem_inOrder {found : List Path} (h : ∀ file ∈ found, file.lead = .relative) {file : Path} :
    file ∈ inOrder found ↔ file ∈ found := by
  have hback : ∀ f ∈ found, Path.relative f.segments = f := fun f hf =>
    Path.relative_segments (h f hf)
  simp only [inOrder, List.mem_map, mem_sortSegments]
  constructor
  · rintro ⟨_, ⟨f, hf, rfl⟩, rfl⟩
    exact (hback f hf).symm ▸ hf
  · intro hf
    exact ⟨file.segments, ⟨file, hf, rfl⟩, hback file hf⟩

theorem lead_fileBelow {file : Path} (h : t.FileBelow v names file) : file.lead = .relative := by
  obtain ⟨_, _, _, _, _, _, rfl⟩ := h
  rfl

theorem scanRoots_open (h : t.AllOpen v) :
    ∃ found, t.scanRoots v = .ok found ∧ t.Lists v (inOrder found) := by
  obtain ⟨hroot, hlibrary, hsource⟩ := h
  obtain ⟨libraryFiles, hlibraryScan, hlibraryFiles⟩ := scanRoot_open hlibrary
  obtain ⟨sourceFiles, hsourceScan, hsourceFiles⟩ := scanRoot_open hsource
  have hscans : t.declaredRoots.mapM (t.scanRoot v) = .ok [libraryFiles, sourceFiles] :=
    mapM_eq_ok_iff.mpr (.cons hlibraryScan (.cons hsourceScan .nil))
  have hmem : ∀ file, file ∈ [libraryFiles, sourceFiles].flatten ↔
      t.FileBelow v t.layout.libraryRoot file ∨ t.FileBelow v t.layout.sourceRoot file := by
    simp [hlibraryFiles, hsourceFiles]
  refine ⟨[libraryFiles, sourceFiles].flatten, ?_, inOrder_increasing _, fun file => ?_⟩
  · simp only [scanRoots, hroot, hscans]
    rfl
  · rw [mem_inOrder fun f hf => ?_, hmem]
    rcases (hmem f).mp hf with hf | hf <;> exact lead_fileBelow hf

theorem scanRoots_problem (hanswers : ∀ d ∈ t.askedDirs, ∃ there, v.isDir d = .ok there)
    (h : ¬ t.AllOpen v) : ∃ trouble, t.scanRoots v = .error trouble ∧
      t.FirstProblem v trouble := by
  obtain ⟨there, hroot⟩ := hanswers t.root (by simp [askedDirs])
  cases there with
  | false => exact ⟨_, by simp [scanRoots, hroot, bind, Except.bind], .tree hroot⟩
  | true =>
    have hfails : ∀ {trouble}, t.declaredRoots.mapM (t.scanRoot v) = .error trouble →
        t.scanRoots v = .error trouble := by
      intro trouble hmap
      simp only [scanRoots, hroot, hmap]
      rfl
    -- The library root comes first: the source root matters only where that one is open.
    by_cases hlibrary : t.Open v t.layout.libraryRoot
    · have hsource : ¬ t.Open v t.layout.sourceRoot := fun hs => h ⟨hroot, hlibrary, hs⟩
      obtain ⟨libraryFiles, hlibraryScan, -⟩ := scanRoot_open hlibrary
      obtain ⟨trouble, hsourceScan, hproblem⟩ :=
        scanRoot_problem (hanswers _ (by simp [askedDirs, declaredRoots, rootPath])) hsource
      refine ⟨trouble, hfails ?_, .source hroot hlibrary hproblem⟩
      simp [declaredRoots, hlibraryScan, hsourceScan, bind, Except.bind]
    · obtain ⟨trouble, hlibraryScan, hproblem⟩ :=
        scanRoot_problem (hanswers _ (by simp [askedDirs, declaredRoots, rootPath])) hlibrary
      refine ⟨trouble, hfails ?_, .library hroot hproblem⟩
      simp [declaredRoots, hlibraryScan, bind, Except.bind]

/-- **A scan lists exactly the files under the declared roots, or tells the first problem.** On
every volume on which it can be asked what is a directory, a tree that is asked for the first time
gives all files below its declared roots, strictly increasing, where these roots can be read; where
they cannot, it fails with what is wrong first. -/
theorem files_scanned (root : Path) (layout : Layout) (v : Volume)
    (hanswers : ∀ d ∈ askedDirs { root := root, layout := layout },
      ∃ there, v.isDir d = .ok there) :
    let t : SourceTree := { root := root, layout := layout }
    (t.AllOpen v → ∃ listed,
      (t.files v).result = .ok (listed, t.keeping listed) ∧ t.Lists v listed) ∧
    (¬ t.AllOpen v → ∃ trouble,
      (t.files v).result = .error trouble ∧ t.FirstProblem v trouble) := by
  intro t
  constructor
  · intro hopen
    obtain ⟨found, hscan, hlists⟩ := scanRoots_open hopen
    exact ⟨inOrder found, files_of_scanRoots rfl hscan, hlists⟩
  · intro hclosed
    obtain ⟨trouble, hscan, hproblem⟩ := scanRoots_problem hanswers hclosed
    exact ⟨trouble, files_of_scanRoots_error rfl hscan, hproblem⟩

/-- One declared root lies in the other; one link leads back up to a directory, one to a file, and
one nowhere. -/
def knottedVolume : Volume where
  items := [(["src"], .dir), (["src", "lib"], .dir), (["src", "lib", "a.js"], .file [] false),
    (["src", "lib", "up"], .link (Path.relative [".."])),
    (["src", "lib.js"], .link (Path.relative ["lib", "a.js"])),
    (["src", "gone"], .link (Path.relative ["nowhere"]))]
  home := []

def knottedTree : SourceTree where
  root := Path.relative []
  layout := { Layout.standard with libraryRoot := ["src", "lib"], library_inner := by decide }

theorem locate_knottedVolume {p : Path} {spot : Spot} (hsay : Volume.Sayable p)
    (hleads : knottedVolume.Leads true Volume.linkLimit (knottedVolume.start p) p.segments spot) :
    knottedVolume.locate p = .ok spot :=
  Volume.look_eq_ok_iff.mpr ⟨hsay, hleads⟩

theorem locate_knottedLibrary :
    knottedVolume.locate (knottedTree.rootPath ["src", "lib"]) = .ok (.there ["src", "lib"] .dir) :=
  locate_knottedVolume ⟨by decide, by decide⟩
    (.enter ⟨by decide, by decide⟩ rfl (.enter ⟨by decide, by decide⟩ rfl .done))

theorem locate_knottedSource :
    knottedVolume.locate (knottedTree.rootPath ["src"]) = .ok (.there ["src"] .dir) :=
  locate_knottedVolume ⟨by decide, by decide⟩ (.enter ⟨by decide, by decide⟩ rfl .done)

theorem allOpen_knottedTree : knottedTree.AllOpen knottedVolume := by
  have hroot : knottedVolume.isDir knottedTree.root = .ok true :=
    Volume.isDir_of_locate (locate_knottedVolume ⟨by decide, by decide⟩ .done)
  refine ⟨hroot, ⟨_, locate_knottedLibrary, fun names hnames => ?_⟩,
    ⟨_, locate_knottedSource, fun names hnames => ?_⟩⟩
  · have hbelow : knottedVolume.below ["src", "lib"] =
        [(["a.js"], .file [] false), (["up"], .link (Path.relative [".."]))] := rfl
    obtain rfl : names = [] := by
      simpa [Volume.Visits, ← Volume.mem_below_iff, hbelow] using hnames
    rfl
  · have hbelow : knottedVolume.below ["src"] =
        [(["lib"], .dir), (["lib", "a.js"], .file [] false),
          (["lib", "up"], .link (Path.relative [".."])),
          (["lib.js"], .link (Path.relative ["lib", "a.js"])),
          (["gone"], .link (Path.relative ["nowhere"]))] := rfl
    have hcases : names = [] ∨ names = ["lib"] := by
      simpa [Volume.Visits, ← Volume.mem_below_iff, hbelow] using hnames
    rcases hcases with rfl | rfl <;> rfl

theorem askedDirs_knottedTree : ∀ d ∈ knottedTree.askedDirs,
    ∃ there, knottedVolume.isDir d = .ok there := by
  intro d hd
  have hcases : d = knottedTree.root ∨ d = knottedTree.rootPath ["src", "lib"] ∨
      d = knottedTree.rootPath ["src"] := by
    simpa [askedDirs, declaredRoots, rootPath, knottedTree, Layout.standard] using hd
  rcases hcases with rfl | rfl | rfl
  · exact ⟨true, allOpen_knottedTree.1⟩
  · exact ⟨true, Volume.isDir_of_locate locate_knottedLibrary⟩
  · exact ⟨true, Volume.isDir_of_locate locate_knottedSource⟩

theorem fileBelow_knottedLink :
    knottedTree.FileBelow knottedVolume ["src"] (Path.relative ["src", "lib.js"]) := by
  have hfile : knottedVolume.locate (knottedTree.root.join (Path.relative ["src", "lib.js"])) =
      .ok (.there ["src", "lib", "a.js"] (.file [] false)) :=
    locate_knottedVolume ⟨by decide, by decide⟩
      (.enter ⟨by decide, by decide⟩ rfl (.follow ⟨by decide, by decide⟩ rfl (fun _ => rfl)
        (.enter ⟨by decide, by decide⟩ rfl (.file ⟨by decide, by decide⟩ rfl))))
  refine ⟨["src"], ["lib.js"], _, locate_knottedSource, .entry rfl, ⟨by simp, ?_⟩, rfl⟩
  intro target _ l hdir
  rw [hfile] at hdir
  cases hdir

theorem files_scanned_knottedTree :
    (∀ d ∈ knottedTree.askedDirs, ∃ there, knottedVolume.isDir d = .ok there) ∧
    knottedTree.AllOpen knottedVolume ∧
    ∃ listed, (knottedTree.files knottedVolume).result =
      .ok (listed, knottedTree.keeping listed) ∧ knottedTree.Lists knottedVolume listed ∧
      Path.relative ["src", "lib.js"] ∈ listed := by
  obtain ⟨listed, hlisted, hlists⟩ := (files_scanned knottedTree.root knottedTree.layout
    knottedVolume askedDirs_knottedTree).1 allOpen_knottedTree
  exact ⟨askedDirs_knottedTree, allOpen_knottedTree, listed, hlisted, hlists,
    (hlists.files _).mpr (.inr fileBelow_knottedLink)⟩

end SourceTree

end BundleBuild
