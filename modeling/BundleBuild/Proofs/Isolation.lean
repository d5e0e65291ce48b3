/-
Platform isolation: a listed file belongs to every platform, to exactly one, or to none.

All of it comes from one case distinction on a file that belongs to some platform
(`relevantSegments_cases`): below the library root, or below the source root outside the platform
folders, the platform was never looked at, so the file belongs to all; otherwise the file stands in
a folder called as the platform, and no two platforms are called alike. The roots may lie in one
another or be the same: the library root is asked first, and only what it leaves over reaches the
platform folders.
-/
import Mathlib.Logic.ExistsUnique
import BundleBuild.Proofs.Listing
import BundleBuild.Proofs.Lookup

namespace BundleBuild

theorem below?_eq_some_iff {root segs rest : List String} :
    below? root segs = some rest ↔ rest ≠ [] ∧ segs = root ++ rest := by
  unfold below?
  constructor
  · intro h
    split at h
    · next hc =>
      simp only [Bool.and_eq_true, List.isPrefixOf_iff_prefix, decide_eq_true_eq] at hc
      obtain ⟨⟨tail, rfl⟩, hlen⟩ := hc
      simp only [List.drop_left, Option.some.injEq] at h
      subst h
      refine ⟨?_, rfl⟩
      rintro rfl
      simp at hlen
    · cases h
  · rintro ⟨hne, rfl⟩
    have hpos : 0 < rest.length := List.length_pos_iff.mpr hne
    simp [hpos]

/-! ## Who a file belongs to -/

/-- First-party code that belongs to a platform belongs to all of them, or stands in the
platform's own folder and belongs to no other. -/
theorem ownedBy_cases {l : Layout} {p : Platform} {rest : List String}
    (h : ownedBy l p rest = true) :
    (∀ q, ownedBy l q rest = true) ∨
      ((∃ tail, tail ≠ [] ∧ rest = l.platformDir :: p.dirName :: tail) ∧
        ∀ q, ownedBy l q rest = true → q = p) := by
  -- Only paths of three segments and more are asked for their folder.
  match rest, h with
  | [], _ => exact .inl fun _ => rfl
  | [_], _ => exact .inl fun _ => rfl
  | [_, _], _ => exact .inl fun _ => rfl
  | dir :: owner :: file :: more, h =>
    simp only [ownedBy, Bool.or_eq_true, bne_iff_ne, beq_iff_eq] at h ⊢
    by_cases hdir : dir = l.platformDir
    · have howner : owner = p.dirName := h.resolve_left fun hne => hne hdir
      subst hdir howner
      refine .inr ⟨⟨file :: more, by simp, rfl⟩, fun q hq => ?_⟩
      have hname : p.dirName = q.dirName := hq.resolve_left fun hne => hne rfl
      exact (Platform.dirName_inj.mp hname).symm
    · exact .inl fun _ => .inl hdir

/-- The same of a file given by its segments. -/
theorem relevantSegments_cases {l : Layout} {p : Platform} {segs : List String}
    (h : relevantSegments l p segs = true) :
    (∀ q, relevantSegments l q segs = true) ∨
      ((∃ rest, rest ≠ [] ∧ segs = l.sourceRoot ++ [l.platformDir, p.dirName] ++ rest) ∧
        ∀ q, relevantSegments l q segs = true → q = p) := by
  unfold relevantSegments at h ⊢
  cases hlast : segs.getLast? with
  | none => rw [hlast] at h; cases h
  | some file =>
    simp only [hlast, Bool.and_eq_true, Bool.or_eq_true] at h ⊢
    obtain ⟨hext, hplace⟩ := h
    by_cases hlib : (below? l.libraryRoot segs).isSome = true
    · exact .inl fun _ => ⟨hext, .inl hlib⟩
    · have hsource := hplace.resolve_left hlib
      cases hbelow : below? l.sourceRoot segs with
      | none => rw [hbelow] at hsource; cases hsource
      | some rest =>
        simp only [hbelow] at hsource ⊢
        obtain ⟨-, hsegs⟩ := below?_eq_some_iff.mp hbelow
        rcases ownedBy_cases hsource with hall | ⟨⟨tail, htail, rfl⟩, hone⟩
        · exact .inl fun q => ⟨hext, .inr (hall q)⟩
        · refine .inr ⟨⟨tail, htail, by simpa using hsegs⟩, fun q hq => ?_⟩
          exact hone q (hq.2.resolve_left hlib)

/-- The same of a path text, whose segments are those after backslashes became slashes. -/
theorem relevant_cases {l : Layout} {p : Platform} {path : String} (h : relevant l p path = true) :
    (∀ q, relevant l q path = true) ∨
      ((∃ rest, rest ≠ [] ∧ Path.segmentsOf (forwardSlashes path) =
          l.sourceRoot ++ [l.platformDir, p.dirName] ++ rest) ∧
        ∀ q, relevant l q path = true → q = p) := by
  unfold relevant at h ⊢
  cases hin : innerSegments? (Path.ofText (forwardSlashes path)) with
  | none => rw [hin] at h; cases h
  | some segs =>
    simp only [hin] at h ⊢
    obtain ⟨-, hsegs⟩ := innerSegments?_eq_some_iff.mp hin
    simp only [Path.ofText] at hsegs
    rw [hsegs]
    exact relevantSegments_cases h

/-! ## Listings -/

namespace SourceTree

/-- The listed files dealt out to the platforms: what two of them share is what all share, and the
rest of a platform's files stands in its own folder below the source root. -/
structure Isolated (l : Layout) (listed : List Path) (files : Platform → List Path) : Prop where
  among : ∀ p, ∀ f ∈ files p, f ∈ listed
  common : ∀ p q, p ≠ q → ∀ f ∈ listed, (f ∈ files p ∧ f ∈ files q ↔ ∀ r, f ∈ files r)
  own : ∀ p, ∀ f ∈ files p, (¬ ∀ r, f ∈ files r) →
    (∃ rest, rest ≠ [] ∧ Path.segmentsOf (forwardSlashes f.text) =
      l.sourceRoot ++ [l.platformDir, p.dirName] ++ rest) ∧
    ∀ q, q ≠ p → f ∉ files q
  split : ∀ f ∈ listed, (∀ r, f ∈ files r) ∨ (∃! p, f ∈ files p) ∨ ∀ r, f ∉ files r

/-- What `relevant_cases` says, in terms of membership. -/
theorem mem_relevantAmong_cases {t : SourceTree} {p : Platform} {listed : List Path} {f : Path}
    (h : f ∈ t.relevantAmong p listed) :
    (∀ r, f ∈ t.relevantAmong r listed) ∨
      ((∃ rest, rest ≠ [] ∧ Path.segmentsOf (forwardSlashes f.text) =
          t.layout.sourceRoot ++ [t.layout.platformDir, p.dirName] ++ rest) ∧
        ∀ q, f ∈ t.relevantAmong q listed → q = p) := by
  obtain ⟨hlisted, hrel⟩ := mem_relevantAmong.mp h
  rcases relevant_cases hrel with hall | ⟨hseg, hone⟩
  · exact .inl fun r => mem_relevantAmong.mpr ⟨hlisted, hall r⟩
  · exact .inr ⟨hseg, fun q hq => hone q (mem_relevantAmong.mp hq).2⟩

/-- **Platform isolation.** Once the files of a tree can be listed, each platform has its files
among them, and they are isolated: what two different platforms have in common is what all have in
common, a file of a platform outside that common core stands in the platform's own folder below the
source root and belongs to no other, and so each listed file belongs to all platforms, to exactly
one, or to none. -/
theorem relevantFiles_isolated {t t' : SourceTree} {v : Volume} {listed : List Path}
    (h : (t.files v).result = .ok (listed, t')) :
    ∃ files : Platform → List Path,
      (∀ p, (t.relevantFiles v p).result = .ok (files p, t')) ∧ Isolated t.layout listed files := by
  refine ⟨fun p => t.relevantAmong p listed, relevantFiles_of_files h, ?_, ?_, ?_, ?_⟩
  · intro p f hf
    exact (mem_relevantAmong.mp hf).1
  · intro p q hpq f _
    refine ⟨fun ⟨hp, hq⟩ => ?_, fun hall => ⟨hall p, hall q⟩⟩
    rcases mem_relevantAmong_cases hp with hall | ⟨-, hone⟩
    · exact hall
    · exact absurd (hone q hq).symm hpq
  · intro p f hf hcore
    obtain ⟨hseg, hone⟩ := (mem_relevantAmong_cases hf).resolve_left hcore
    exact ⟨hseg, fun q hqp hq => hqp (hone q hq)⟩
  · intro f _
    by_cases hsome : ∃ p, f ∈ t.relevantAmong p listed
    · obtain ⟨p, hp⟩ := hsome
      rcases mem_relevantAmong_cases hp with hall | ⟨-, hone⟩
      · exact .inl hall
      · exact .inr (.inl ⟨p, hp, hone⟩)
    · exact .inr (.inr fun r hr => hsome ⟨r, hr⟩)

/-- A library file and a file of the browser's own. -/
def mixedVolume : Volume where
  items := [(["lib"], .dir), (["lib", "a.js"], .file [] false),
    (["src"], .dir), (["src", "p"], .dir), (["src", "p", "browser"], .dir),
    (["src", "p", "browser", "b.js"], .file [] false)]
  home := []

def mixedTree : SourceTree where
  root := Path.relative []
  layout := { Layout.standard with platformDir := "p", folder_named := by decide }

def mixedListing : List Path :=
  [Path.relative ["lib", "a.js"], Path.relative ["src", "p", "browser", "b.js"]]

theorem locate_mixedVolume {name : String} (hsegment : isSegment name = true)
    (hsay : Volume.Sayable (Path.relative [name])) (hproper : Volume.Proper name)
    (hdir : mixedVolume.item? [name] = some .dir) :
    mixedVolume.locate (mixedTree.root.join (Path.relative [name])) = .ok (.there [name] .dir) := by
  have hpath : mixedTree.root.join (Path.relative [name]) = Path.relative [name] :=
    Path.ext rfl rfl
  rw [hpath, Volume.locate, Volume.look_eq_ok_iff,
    Path.segments_relative (by simpa using hsegment)]
  exact ⟨hsay, .enter hproper hdir .done⟩

theorem files_mixedTree : (mixedTree.files mixedVolume).result =
    .ok (mixedListing, { mixedTree with listing := some mixedListing }) := by
  have hroot : mixedVolume.locate mixedTree.root = .ok (.there [] .dir) :=
    Volume.look_eq_ok_iff.mpr ⟨⟨by decide, by decide⟩, .done⟩
  have hlib : mixedVolume.locate (mixedTree.root.join (Path.relative ["lib"])) =
      .ok (.there ["lib"] .dir) :=
    locate_mixedVolume (by decide) ⟨by decide, by decide⟩ ⟨by decide, by decide⟩ rfl
  have hsrc : mixedVolume.locate (mixedTree.root.join (Path.relative ["src"])) =
      .ok (.there ["src"] .dir) :=
    locate_mixedVolume (by decide) ⟨by decide, by decide⟩ ⟨by decide, by decide⟩ rfl
  have hopenLib : ∀ names ∈ mixedVolume.visited ["lib"], mixedVolume.listRefusal?
      ((mixedTree.root.join (Path.relative ["lib"])).join (Path.relative names)) = none := by
    intro names hnames
    have hcases : names = [] := by
      simpa [show mixedVolume.below ["lib"] = [(["a.js"], .file [] false)] from rfl] using
        Volume.mem_visited.mp hnames
    subst hcases
    rfl
  have hopenSrc : ∀ names ∈ mixedVolume.visited ["src"], mixedVolume.listRefusal?
      ((mixedTree.root.join (Path.relative ["src"])).join (Path.relative names)) = none := by
    intro names hnames
    have hcases : names = [] ∨ names = ["p"] ∨ names = ["p", "browser"] := by
      simpa [show mixedVolume.below ["src"] = [(["p"], .dir), (["p", "browser"], .dir),
        (["p", "browser", "b.js"], .file [] false)] from rfl] using Volume.mem_visited.mp hnames
    rcases hcases with rfl | rfl | rfl <;> rfl
  have hscanLib : mixedTree.scanRoot mixedVolume ["lib"] =
      .ok [Path.relative ["lib", "a.js"]] := by
    simp only [scanRoot, Volume.isDir_of_locate hlib, Volume.listFiles_of_locate hlib hopenLib]
    rfl
  have hscanSrc : mixedTree.scanRoot mixedVolume ["src"] =
      .ok [Path.relative ["src", "p", "browser", "b.js"]] := by
    simp only [scanRoot, Volume.isDir_of_locate hsrc, Volume.listFiles_of_locate hsrc hopenSrc]
    rfl
  have hscans : mixedTree.declaredRoots.mapM (mixedTree.scanRoot mixedVolume) =
      .ok (mixedListing.map ([·])) :=
    mapM_eq_ok_iff.mpr (.cons hscanLib (.cons hscanSrc .nil))
  have hscan : mixedTree.scanRoots mixedVolume = .ok mixedListing := by
    simp only [scanRoots, Volume.isDir_of_locate hroot, hscans]
    rfl
  have horder : inOrder mixedListing = mixedListing := by
    have hsorted : sortSegments (mixedListing.map (·.segments)) = mixedListing.map (·.segments) :=
      List.mergeSort_of_pairwise (by decide)
    rw [inOrder, hsorted]
    rfl
  have hfiles := files_of_scanRoots rfl hscan
  rwa [horder] at hfiles

theorem relevantFiles_isolated_mixedTree :
    (mixedTree.files mixedVolume).result =
      .ok (mixedListing, { mixedTree with listing := some mixedListing }) ∧
    ∃ files : Platform → List Path,
      (∀ p, (mixedTree.relevantFiles mixedVolume p).result =
        .ok (files p, { mixedTree with listing := some mixedListing })) ∧
      Isolated mixedTree.layout mixedListing files :=
  ⟨files_mixedTree, relevantFiles_isolated files_mixedTree⟩

end SourceTree

end BundleBuild
