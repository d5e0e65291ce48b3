/-
What listing a source tree leaves behind. A listing that succeeds is kept in the tree and gives
every platform its files; one that fails leaves the tree as it was, so it is tried again.

A listing fails with a fault of the source tree, but for one gap: where the question whether a root
is a directory is itself refused, that refusal comes through as it is (`kind_files_error`).
-/
import BundleBuild.SourceTree
import BundleBuild.Proofs.Sequencing

namespace BundleBuild.SourceTree

/-- A tree that was listed keeps the listing and is otherwise as before. -/
theorem files_keeps {t t' : SourceTree} {v : Volume} {listed : List Path}
    (h : (t.files v).result = .ok (listed, t')) : t' = { t with listing := some listed } := by
  unfold files at h
  cases hl : t.listing with
  | some found =>
    simp only [hl, pure, Except.ok.injEq, Prod.mk.injEq] at h
    obtain ⟨rfl, rfl⟩ := h
    rw [← hl]
  | none =>
    cases hs : t.scanRoots v with
    | error e => simp [hl, hs, bind, Logged.lift, Logged.raise] at h
    | ok found =>
      simp only [hl, hs, bind, Logged.lift, Logged.tell, pure, Except.ok.injEq,
        Prod.mk.injEq] at h
      obtain ⟨rfl, rfl⟩ := h
      rfl

/-- A first listing gives what the scan found, in order. -/
theorem files_of_scanRoots {t : SourceTree} {v : Volume} {found : List Path}
    (hlisting : t.listing = none) (h : t.scanRoots v = .ok found) :
    (t.files v).result = .ok (inOrder found, { t with listing := some (inOrder found) }) := by
  simp only [files, hlisting, h, bind, Logged.lift, Logged.tell, pure]

theorem files_of_scanRoots_error {t : SourceTree} {v : Volume} {trouble : Trouble}
    (hlisting : t.listing = none) (h : t.scanRoots v = .error trouble) :
    (t.files v).result = .error trouble := by
  simp [files, hlisting, h, bind, Logged.lift, Logged.raise]

/-- A listing that was kept is given again, whatever has become of the files. -/
theorem files_again {t t' : SourceTree} {v : Volume} {listed : List Path}
    (h : (t.files v).result = .ok (listed, t')) (w : Volume) :
    (t'.files w).result = .ok (listed, t') := by
  rw [files_keeps h]
  rfl

/-- The files of a platform are those of the listing that belong to it. -/
theorem relevantFiles_of_files {t t' : SourceTree} {v : Volume} {listed : List Path}
    (h : (t.files v).result = .ok (listed, t')) (p : Platform) :
    (t.relevantFiles v p).result = .ok (t.relevantAmong p listed, t') := by
  simp [relevantFiles, bind, h, pure]

theorem files_of_relevantFiles {t t' : SourceTree} {v : Volume} {p : Platform} {files : List Path}
    (h : (t.relevantFiles v p).result = .ok (files, t')) :
    ∃ listed, (t.files v).result = .ok (listed, t') := by
  cases hl : (t.files v).result with
  | error e => simp [relevantFiles, bind, hl] at h
  | ok found =>
    obtain ⟨listed, t''⟩ := found
    rw [relevantFiles_of_files hl] at h
    cases h
    exact ⟨listed, rfl⟩

theorem mem_relevantAmong {t : SourceTree} {p : Platform} {listed : List Path} {f : Path} :
    f ∈ t.relevantAmong p listed ↔ f ∈ listed ∧ relevant t.layout p f.text = true := by
  simp [relevantAmong]

/-! ## Why a listing fails -/

/-- The paths a scan asks about: the root of the tree and the declared roots. -/
def askedDirs (t : SourceTree) : List Path :=
  t.root :: t.declaredRoots.map fun names => t.root.join (Path.relative names)

theorem scanRoot_error {t : SourceTree} {v : Volume} {names : List String} {trouble : Trouble}
    (h : t.scanRoot v names = .error trouble) :
    (∃ cause path details, trouble = .fault (.sourceTree cause path details)) ∨
      v.isDir (t.root.join (Path.relative names)) = .error trouble := by
  unfold scanRoot at h
  cases hdir : v.isDir (t.root.join (Path.relative names)) with
  | error e =>
    simp only [hdir, bind, Except.bind] at h
    cases h
    exact .inr rfl
  | ok there =>
    refine .inl ?_
    simp only [hdir, bind, Except.bind] at h
    split at h
    · split at h
      · cases h
      · cases h
        exact ⟨_, _, _, rfl⟩
    · cases h
      exact ⟨_, _, _, rfl⟩

theorem scanRoots_error {t : SourceTree} {v : Volume} {trouble : Trouble}
    (h : t.scanRoots v = .error trouble) :
    (∃ cause path details, trouble = .fault (.sourceTree cause path details)) ∨
      ∃ d ∈ t.askedDirs, v.isDir d = .error trouble := by
  unfold scanRoots at h
  cases hdir : v.isDir t.root with
  | error e =>
    simp only [hdir, bind, Except.bind] at h
    cases h
    exact .inr ⟨t.root, by simp [askedDirs], hdir⟩
  | ok there =>
    simp only [hdir, bind, Except.bind] at h
    split at h
    · cases hscan : t.declaredRoots.mapM (t.scanRoot v) with
      | ok found => rw [hscan] at h; cases h
      | error e =>
        rw [hscan] at h
        cases h
        obtain ⟨names, hnames, herror⟩ := mapM_eq_error hscan
        refine (scanRoot_error herror).imp_right fun hd => ?_
        exact ⟨_, List.mem_cons_of_mem _ (List.mem_map_of_mem hnames), hd⟩
    · cases h
      exact .inl ⟨_, _, _, rfl⟩

theorem files_error {t : SourceTree} {v : Volume} {trouble : Trouble}
    (h : (t.files v).result = .error trouble) : t.scanRoots v = .error trouble := by
  unfold files at h
  cases hl : t.listing with
  | some found => simp [hl, pure] at h
  | none =>
    cases hs : t.scanRoots v with
    | error e => simpa [hl, hs, bind, Logged.lift, Logged.raise] using h
    | ok found => simp [hl, hs, bind, Logged.lift, Logged.tell, pure] at h

theorem kind_system (cause : SystemCause) (subject : String) :
    (Trouble.system cause subject).kind ≠ "SourceTreeError" := by
  cases cause <;> exact of_decide_eq_true rfl

theorem kind_isDir_error {v : Volume} {d : Path} {trouble : Trouble}
    (h : v.isDir d = .error trouble) : trouble.kind ≠ "SourceTreeError" := by
  unfold Volume.isDir Volume.find? at h
  split at h
  · cases h
  · cases h
  · next cause _ =>
    split at h
    · cases h
    · cases h
      exact kind_system cause _

/-- The trouble of a listing is always handled as an error. -/
theorem unhandled?_files_error {t : SourceTree} {v : Volume} {trouble : Trouble}
    (h : (t.files v).result = .error trouble) : trouble.unhandled? = none := by
  rcases scanRoots_error (files_error h) with ⟨cause, path, details, rfl⟩ | ⟨d, -, herror⟩
  · rfl
  · unfold Volume.isDir Volume.find? at herror
    split at herror
    · cases herror
    · cases herror
    · split at herror
      · cases herror
      · cases herror
        rfl

theorem unhandled?_relevantFiles_error {t : SourceTree} {v : Volume} {p : Platform}
    {trouble : Trouble} (h : (t.relevantFiles v p).result = .error trouble) :
    trouble.unhandled? = none := by
  cases hfiles : (t.files v).result with
  | ok listed => simp [relevantFiles, bind, hfiles, pure] at h
  | error trouble' =>
    simp only [relevantFiles, bind, hfiles, Except.error.injEq] at h
    exact h ▸ unhandled?_files_error hfiles

/-- A listing fails with a fault of the source tree exactly when its failure is not that of a
question which was refused. -/
theorem kind_files_error {t : SourceTree} {v : Volume} {trouble : Trouble}
    (h : (t.files v).result = .error trouble) :
    trouble.kind = "SourceTreeError" ↔ ∀ d ∈ t.askedDirs, v.isDir d ≠ .error trouble := by
  constructor
  · intro hkind d _ hd
    exact kind_isDir_error hd hkind
  · intro hnone
    rcases scanRoots_error (files_error h) with ⟨cause, path, details, rfl⟩ | ⟨d, hd, herror⟩
    · rfl
    · exact absurd herror (hnone d hd)

end BundleBuild.SourceTree
