/-
Whether a layout keeps the platforms' folders apart. A file in a folder among the platform folders
that is not called as the platform should belong to it only as library code (`Layout.Separates`).

The path of such a file is put together from the layout's own names and taken apart again by the
decision. The roots of a layout are made of ordinary names, which come back as they are
(`pathSegments_intercalate`); the name of the platform folder has no slashes, but may be a lone dot,
which is lost on the way. Then nothing is left by which the folders could be told from other code,
and the layout separates nothing unless all of its sources are library code.
-/
import BundleBuild.Proofs.Belonging

namespace BundleBuild

/-! ## Putting together and taking apart -/

theorem not_mem_intercalate {c : Char} {segs : List String} (hc : c ≠ '/')
    (h : ∀ s ∈ segs, c ∉ s.toList) : c ∉ ("/".intercalate segs).toList := by
  induction segs with
  | nil => simp
  | cons first segs ih =>
    obtain ⟨hfirst, hrest⟩ := List.forall_mem_cons.mp h
    cases segs with
    | nil => simpa using hfirst
    | cons second segs =>
      rw [String.intercalate_cons_cons]
      simp only [String.toList_append, List.mem_append, not_or]
      exact ⟨⟨hfirst, by simpa using hc⟩, ih hrest⟩

/-- Texts without slashes come back from the path they make, but for those that say nothing. -/
theorem pathSegments_intercalate {segs : List String} (hsome : segs ≠ [])
    (h : ∀ s ∈ segs, Slashless s) :
    pathSegments ("/".intercalate segs) = segs.filter fun s => s ≠ "" ∧ s ≠ "." := by
  have hback : '\\' ∉ ("/".intercalate segs).toList :=
    not_mem_intercalate (by decide) fun s hs => (h s hs).2
  have hpieces : (("/".intercalate segs).toList.splitOn '/') = segs.map String.toList := by
    rw [String.toList_intercalate]
    refine List.splitOn_intercalate '/' ?_ (by simpa using hsome)
    rintro _ hpiece
    obtain ⟨s, hs, rfl⟩ := List.mem_map.mp hpiece
    exact (h s hs).1
  rw [pathSegments, slashed_eq_toList hback, hpieces]
  simp

/-- Texts without slashes make a path that begins with none, unless the first says nothing. -/
theorem relative_intercalate {first : String} {segs : List String} (hfirst : first ≠ "")
    (h : ∀ s ∈ first :: segs, Slashless s) :
    ¬ ['/'] <+: slashed ("/".intercalate (first :: segs)) := by
  have hback : '\\' ∉ ("/".intercalate (first :: segs)).toList :=
    not_mem_intercalate (by decide) fun s hs => (h s hs).2
  obtain ⟨c, cs, hcs⟩ : ∃ c cs, first.toList = c :: cs :=
    List.exists_cons_of_ne_nil (by simpa using hfirst)
  have hc : c ≠ '/' := fun he => (h first List.mem_cons_self).1 (by simp [hcs, he])
  rw [slashed_eq_toList hback]
  cases segs with
  | nil => simpa [hcs, List.cons_prefix_iff] using hc
  | cons second segs =>
    rw [String.intercalate_cons_cons]
    simpa [hcs, List.cons_prefix_iff] using hc

namespace Layout

/-! ## Folders among the platform folders -/

/-- The path of a file in a folder among the platform folders. -/
def folderPath (l : Layout) (folder file : String) : String :=
  l.sourceText ++ "/" ++ l.platformDir ++ "/" ++ folder ++ "/" ++ file

/-- The path leads to library code. -/
def InLibrary (l : Layout) (path : String) : Prop :=
  ∃ rest, rest ≠ [] ∧ pathSegments path = l.libraryRoot ++ rest

/-- A file in a folder that is not called as a platform belongs to that platform as library code,
or not at all. -/
def Separates (l : Layout) : Prop :=
  ∀ (p : Platform) (folder file : String), Ordinary folder → Ordinary file → folder ≠ p.dirName →
    relevant l p (l.folderPath folder file) = true → l.InLibrary (l.folderPath folder file)

variable {l : Layout} {folder file : String}

/-- The source root of a layout is made of ordinary names. -/
theorem ordinary_sourceRoot (l : Layout) : l.sourceRoot ≠ [] ∧ ∀ s ∈ l.sourceRoot, Ordinary s :=
  isInner_iff.mp l.source_inner

/-- The platform folder of a layout has a name without slashes. -/
theorem slashless_platformDir (l : Layout) : l.platformDir ≠ "" ∧ Slashless l.platformDir :=
  isFolderName_iff.mp l.folder_named

theorem folderPath_eq (l : Layout) (folder file : String) : l.folderPath folder file =
    "/".intercalate (l.sourceRoot ++ [l.platformDir, folder, file]) := by
  rw [String.intercalate_append_of_ne_nil l.ordinary_sourceRoot.1 (by simp)]
  simp [folderPath, sourceText, String.append_assoc]

/-- The names of the path come back, but for a platform folder that is a lone dot. -/
theorem pathSegments_folderPath (hfolder : Ordinary folder)
    (hfile : Ordinary file) : pathSegments (l.folderPath folder file) =
      l.sourceRoot ++ (if l.platformDir = "." then [] else [l.platformDir]) ++ [folder, file] := by
  obtain ⟨hsome, hroot⟩ := l.ordinary_sourceRoot
  obtain ⟨hdir, hslashless⟩ := l.slashless_platformDir
  have hall : ∀ s ∈ l.sourceRoot ++ [l.platformDir, folder, file], Slashless s := by
    simp only [List.forall_mem_append, List.forall_mem_cons]
    exact ⟨fun s hs => (hroot s hs).slashless, hslashless, hfolder.slashless, hfile.slashless,
      by simp⟩
  have hkept : l.sourceRoot.filter (fun s => s ≠ "" ∧ s ≠ ".") = l.sourceRoot :=
    List.filter_eq_self.mpr fun s hs => by simp [(hroot s hs).nonempty, (hroot s hs).notHere]
  rw [folderPath_eq, pathSegments_intercalate (by simp) hall, List.filter_append, hkept]
  by_cases hdot : l.platformDir = "."
  · simp [hdot, hfolder.nonempty, hfolder.notHere, hfile.nonempty, hfile.notHere]
  · simp [hdot, hdir, hfolder.nonempty, hfolder.notHere, hfile.nonempty, hfile.notHere]

theorem below_concat_iff {root segs : List String} (last : String) :
    (∃ rest, rest ≠ [] ∧ segs ++ [last] = root ++ rest) ↔ root <+: segs := by
  constructor
  · rintro ⟨rest, hrest, hsegs⟩
    obtain ⟨front, x, rfl⟩ := (List.eq_nil_or_concat rest).resolve_left hrest
    rw [List.concat_eq_append, ← List.append_assoc] at hsegs
    exact ⟨front, (List.append_inj_left' hsegs rfl).symm⟩
  · rintro ⟨front, rfl⟩
    exact ⟨front ++ [last], by simp, by simp⟩

theorem inLibrary_folderPath_iff (hfolder : Ordinary folder)
    (hfile : Ordinary file) : l.InLibrary (l.folderPath folder file) ↔ l.libraryRoot <+:
      l.sourceRoot ++ (if l.platformDir = "." then [] else [l.platformDir]) ++ [folder] := by
  rw [InLibrary, pathSegments_folderPath hfolder hfile, ← below_concat_iff file]
  simp

/-- Such a path starts at the root of the tree: its first name begins with no slash. -/
theorem relative_folderPath (hfolder : Ordinary folder)
    (hfile : Ordinary file) : ¬ ['/'] <+: slashed (l.folderPath folder file) := by
  obtain ⟨hsome, hroot⟩ := l.ordinary_sourceRoot
  rw [folderPath_eq]
  obtain ⟨first, more, hfirst⟩ := List.exists_cons_of_ne_nil hsome
  rw [hfirst] at hroot ⊢
  obtain ⟨hordinary, hmore⟩ := List.forall_mem_cons.mp hroot
  refine relative_intercalate hordinary.nonempty ?_
  simp only [List.append_eq, List.forall_mem_cons, List.forall_mem_append]
  exact ⟨hordinary.slashless, fun s hs => (hmore s hs).slashless, (l.slashless_platformDir).2,
    hfolder.slashless, hfile.slashless, by simp⟩

/-- Where the platform folder has a name of its own, a file in a folder among the platform folders
belongs to the platform it is called as, or is library code. -/
theorem inLibrary_of_relevant (hdot : l.platformDir ≠ ".") {p : Platform}
    (hfolder : Ordinary folder) (hfile : Ordinary file) (hother : folder ≠ p.dirName)
    (hrelevant : relevant l p (l.folderPath folder file) = true) :
    l.InLibrary (l.folderPath folder file) := by
  obtain ⟨-, -, hsegments⟩ := relevant_iff_segments.mp hrelevant
  rcases (relevantSegments_iff.mp hsegments).2 with hlibrary | ⟨rest, -, hsegs, howned⟩
  · exact hlibrary
  · rw [pathSegments_folderPath hfolder hfile, if_neg hdot, List.append_assoc,
      List.append_cancel_left_eq] at hsegs
    subst hsegs
    simp [hother] at howned

/-- Where the platform folder is a lone dot, every source in such a folder belongs to every
platform. -/
theorem relevant_folderPath_of_dot (hdot : l.platformDir = ".")
    (hfolder : Ordinary folder) (hfile : Ordinary file)
    (hextension : l.extension.toList <:+ file.toList ∧ l.extension.length < file.length)
    (p : Platform) : relevant l p (l.folderPath folder file) = true := by
  have hsegs := @pathSegments_folderPath l folder file hfolder hfile
  rw [if_pos hdot, List.append_nil] at hsegs
  obtain ⟨hsome, hroot⟩ := l.ordinary_sourceRoot
  refine relevant_iff_segments.mpr ⟨relative_folderPath hfolder hfile, isInner_iff.mpr ?_,
    relevantSegments_iff.mpr ⟨⟨file, by simp [hsegs], hextension⟩, .inr ⟨[folder, file], ?_⟩⟩⟩
  · simp only [hsegs, List.forall_mem_append, List.forall_mem_cons]
    exact ⟨by simp, hroot, hfolder, hfile, by simp⟩
  · exact ⟨by simp, hsegs, .inr (.inr (.inl rfl))⟩

theorem slashless_of_isExtension {s : String} (h : isExtension s = true) : Slashless s := by
  unfold isExtension at h
  split at h
  · next c rest hs =>
    have halnum : ∀ x ∈ s.toList, x = '.' ∨ x.isAlphanum = true := by
      rw [hs]
      exact List.forall_mem_cons.mpr ⟨.inl rfl, fun x hx => .inr (List.all_eq_true.mp h x hx)⟩
    exact ⟨fun hc => absurd (halnum _ hc) (by decide), fun hc => absurd (halnum _ hc) (by decide)⟩
  · cases h

/-- With something in front, the extension of a layout makes the name of a file. -/
theorem ordinary_source (l : Layout) : Ordinary ("a" ++ l.extension) := by
  have hslashless := slashless_of_isExtension l.extension_dotted
  have hchars : ("a" ++ l.extension).toList = 'a' :: l.extension.toList := by simp
  refine ⟨fun he => ?_, ⟨?_, ?_⟩, fun he => ?_, fun he => ?_⟩
  · simp [he] at hchars
  · rw [hchars]
    simpa using hslashless.1
  · rw [hchars]
    simpa using hslashless.2
  · simp [he] at hchars
  · simp [he] at hchars

/-- **A layout keeps the platforms' folders apart exactly when its platform folder has a name of its
own**, or when all of its sources are library code. -/
theorem separates_iff (l : Layout) :
    l.Separates ↔ l.platformDir ≠ "." ∨ l.libraryRoot <+: l.sourceRoot := by
  constructor
  · intro hseparates
    by_contra hneither
    obtain ⟨hdot, hlibrary⟩ := not_or.mp hneither
    rw [not_not] at hdot
    -- At most one of two folders is the library root.
    obtain ⟨folder, hfolder, hother, hroot⟩ : ∃ folder, Ordinary folder ∧
        folder ≠ Platform.mobile.dirName ∧ l.libraryRoot ≠ l.sourceRoot ++ [folder] := by
      by_cases hbrowser : l.libraryRoot = l.sourceRoot ++ ["browser"]
      · exact ⟨"server", by decide, by decide, by simp [hbrowser]⟩
      · exact ⟨"browser", by decide, by decide, hbrowser⟩
    have hfile := l.ordinary_source
    have hin := hseparates .mobile folder _ hfolder hfile hother
      (relevant_folderPath_of_dot hdot hfolder hfile ⟨by simp, by simp; decide⟩ .mobile)
    rw [inLibrary_folderPath_iff hfolder hfile, if_pos hdot, List.append_nil,
      List.prefix_concat_iff] at hin
    exact hin.elim hroot hlibrary
  · rintro (hdot | hlibrary) p folder file hfolder hfile hother hrelevant
    · exact inLibrary_of_relevant hdot hfolder hfile hother hrelevant
    · rw [inLibrary_folderPath_iff hfolder hfile, List.append_assoc]
      exact hlibrary.trans (List.prefix_append _ _)

/-- A layout whose platform folder is a lone dot. -/
def dottedFolder : Datum :=
  .map [(.text "platform_dir", .text ".")]

/-- A layout that passes its checks may take the code of one platform for that of another. -/
theorem relevant_dottedFolder : ∃ l, check dottedFolder = .ok l ∧
    Ordinary "browser" ∧ Ordinary "a.js" ∧ "browser" ≠ Platform.mobile.dirName ∧
    relevant l .mobile (l.folderPath "browser" "a.js") = true ∧
    ¬ l.InLibrary (l.folderPath "browser" "a.js") := by
  have hdotted : check dottedFolder = .ok { platformDir := "." } := by rfl
  refine ⟨_, hdotted, by decide, by decide, by decide, ?_, ?_⟩
  · exact relevant_folderPath_of_dot rfl (by decide) (by decide) (by decide) .mobile
  · rw [inLibrary_folderPath_iff (by decide) (by decide)]
    decide

end Layout

end BundleBuild
