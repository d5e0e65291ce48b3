/-
The roots of a layout as they are stored. A root may be given with slashes of both kinds, doubled
ones and lone dots; it is stored as its segments with single slashes between them. These are the
segments of the text that was given (`checkRoot_eq_ok_iff`), and all of them are ordinary names. So
a stored root is taken apart into the same segments again (`parts_intercalate`), from which it
follows that a stored layout passes its checks unchanged, and that roots are stored alike exactly
where they have the same segments.
-/
import BundleBuild.Proofs.Separating

namespace BundleBuild

/-! ## Paths of ordinary names -/

theorem forwardSlashes_eq_self {path : String} (h : '\\' ∉ path.toList) :
    forwardSlashes path = path := by
  rw [← String.toList_inj, toList_forwardSlashes, slashed_eq_toList h]

section Intercalate

variable {segs : List String}

theorem pathSegments_ordinary (hsome : segs ≠ []) (h : ∀ s ∈ segs, Ordinary s) :
    pathSegments ("/".intercalate segs) = segs := by
  rw [pathSegments_intercalate hsome fun s hs => (h s hs).slashless, List.filter_eq_self]
  intro s hs
  simp [(h s hs).nonempty, (h s hs).notHere]

theorem relative_ordinary (hsome : segs ≠ []) (h : ∀ s ∈ segs, Ordinary s) :
    ¬ ['/'] <+: slashed ("/".intercalate segs) := by
  obtain ⟨first, more, rfl⟩ := List.exists_cons_of_ne_nil hsome
  exact relative_intercalate (h first List.mem_cons_self).nonempty fun s hs => (h s hs).slashless

/-- A path that is put together from ordinary names has these for its parts. -/
theorem parts_intercalate (hsome : segs ≠ []) (h : ∀ s ∈ segs, Ordinary s) :
    (Path.ofText ("/".intercalate segs)).parts = segs := by
  have hback : '\\' ∉ ("/".intercalate segs).toList :=
    not_mem_intercalate (by decide) fun s hs => (h s hs).slashless.2
  have hlead : Path.leadOf ("/".intercalate segs).toList = .relative := by
    rw [← slashed_eq_toList hback, leadOf_eq_relative_iff]
    exact relative_ordinary hsome h
  have hsegments : Path.segmentsOf ("/".intercalate segs) = segs := by
    rw [← forwardSlashes_eq_self hback, segmentsOf_forwardSlashes, pathSegments_ordinary hsome h]
  simp only [Path.parts, Path.isAbsolute, Path.ofText, hlead, hsegments]
  rfl

end Intercalate

/-! ## Stored layouts -/

namespace Layout

theorem checkName_eq_ok_iff {d : Datum} {s : String} :
    checkName d = .ok s ↔ checkText d = .ok s ∧ s ≠ "" := by
  rw [checkName, bind_eq_ok_iff]
  constructor
  · rintro ⟨text, htext, h⟩
    split at h
    · cases h
    · next hsome =>
      cases h
      exact ⟨htext, by simpa using hsome⟩
  · rintro ⟨htext, hsome⟩
    exact ⟨s, htext, if_neg (by simpa using hsome)⟩

/-- A root is accepted when it starts at the root of the tree, leads somewhere and never upwards,
and it is kept as the segments of its text. -/
theorem checkRoot_eq_ok_iff {d : Datum} {segs : {segs : List String // isInner segs = true}} :
    checkRoot d = .ok segs ↔ ∃ text, checkText d = .ok text ∧ ¬ ['/'] <+: slashed text ∧
      pathSegments text = segs := by
  simp only [← innerSegments?_forwardSlashes, checkRoot, bind_eq_ok_iff, checkName_eq_ok_iff]
  constructor
  · rintro ⟨text, ⟨htext, -⟩, h⟩
    split at h
    · next found hfound =>
      cases h
      exact ⟨text, htext, hfound⟩
    · cases h
  · rintro ⟨text, htext, hfound⟩
    -- A text that leads somewhere is not empty.
    have hsome : text ≠ "" := by
      rintro rfl
      have hsegs : ([] : List String) = segs := (innerSegments?_forwardSlashes.mp hfound).2
      exact absurd (hsegs ▸ segs.2) (by decide)
    exact ⟨text, ⟨htext, hsome⟩, by rw [hfound]; rfl⟩

theorem checkRoot_intercalate (segs : {segs : List String // isInner segs = true}) :
    checkRoot (.text ("/".intercalate segs.1)) = .ok segs := by
  obtain ⟨hsome, hordinary⟩ := isInner_iff.mp segs.2
  exact checkRoot_eq_ok_iff.mpr
    ⟨_, rfl, relative_ordinary hsome hordinary, pathSegments_ordinary hsome hordinary⟩

/-- The two roots of a layout. -/
inductive Root where
  | library
  | source

def Root.field : Root → String
  | .library => "library_root"
  | .source => "source_root"

def rootSegments (l : Layout) : Root → {segs : List String // isInner segs = true}
  | .library => ⟨l.libraryRoot, l.library_inner⟩
  | .source => ⟨l.sourceRoot, l.source_inner⟩

/-- A root as it is stored. -/
def rootText (l : Layout) : Root → String
  | .library => l.libraryText
  | .source => l.sourceText

/-- The fields of a layout as they are stored. -/
def stored (l : Layout) : Datum :=
  .map [(.text "library_root", .text l.libraryText), (.text "source_root", .text l.sourceText),
    (.text "platform_dir", .text l.platformDir), (.text "extension", .text l.extension)]

/-- The data give a root by this text. -/
def GivesRoot (d : Datum) (root : Root) (text : String) : Prop :=
  ∃ r given, d = .map r ∧ RawRecord.get? r root.field = some given ∧ checkText given = .ok text

variable {d : Datum} {l : Layout}

theorem rootText_eq (l : Layout) (root : Root) :
    l.rootText root = "/".intercalate (l.rootSegments root).1 := by
  cases root <;> rfl

/-- Each root is what the data give for it, or its default. -/
theorem fieldOr_root (h : check d = .ok l) : ∃ r, d = .map r ∧ ∀ root : Root,
    fieldOr r root.field checkRoot (standard.rootSegments root) =
      .ok (l.rootSegments root) := by
  obtain ⟨r, hd, hfields⟩ := checkRecord_eq_ok h
  obtain ⟨⟨⟨library, source⟩, dir, extension⟩, hall, rfl⟩ := map_eq_ok_iff.mp hfields
  obtain ⟨hroots, -⟩ := Checked.both_eq_ok_iff.mp hall
  obtain ⟨hlibrary, hsource⟩ := Checked.both_eq_ok_iff.mp hroots
  refine ⟨r, hd, fun root => ?_⟩
  cases root with
  | library => exact hlibrary
  | source => exact hsource

/-- A root that is given is kept as the segments of its text. -/
theorem rootSegments_of_gives (h : check d = .ok l) {root : Root} {text : String}
    (hgives : GivesRoot d root text) : l.rootSegments root = pathSegments text := by
  obtain ⟨r, rfl, hroot⟩ := fieldOr_root h
  obtain ⟨r', given, hrecord, hget, htext⟩ := hgives
  cases hrecord
  have hfield := hroot root
  rw [fieldOr, hget] at hfield
  obtain ⟨text', htext', -, hsegs⟩ := checkRoot_eq_ok_iff.mp (Checked.under_eq_ok_iff.mp hfield)
  cases htext.symm.trans htext'
  exact hsegs.symm

theorem parts_rootText (l : Layout) (root : Root) :
    (Path.ofText (l.rootText root)).parts = l.rootSegments root := by
  obtain ⟨hsome, hordinary⟩ := isInner_iff.mp (l.rootSegments root).2
  rw [rootText_eq, parts_intercalate hsome hordinary]

theorem checkRoot_rootText (l : Layout) (root : Root) :
    checkRoot (.text (l.rootText root)) = .ok (l.rootSegments root) := by
  rw [rootText_eq, checkRoot_intercalate]

theorem checkPlatformDir_stored (l : Layout) :
    checkPlatformDir (.text l.platformDir) = .ok ⟨l.platformDir, l.folder_named⟩ := by
  have hname : checkName (.text l.platformDir) = .ok l.platformDir :=
    checkName_eq_ok_iff.mpr ⟨rfl, l.slashless_platformDir.1⟩
  rw [checkPlatformDir, hname]
  exact dif_pos l.folder_named

theorem checkExtension_stored (l : Layout) :
    checkExtension (.text l.extension) = .ok ⟨l.extension, l.extension_dotted⟩ :=
  dif_pos l.extension_dotted

/-- A layout passes the checks again as it is stored. -/
theorem check_stored (l : Layout) : check l.stored = .ok l := by
  have hfields : checkFields [(.text "library_root", .text l.libraryText),
      (.text "source_root", .text l.sourceText), (.text "platform_dir", .text l.platformDir),
      (.text "extension", .text l.extension)] = .ok l := by
    have hlibrary : checkRoot (.text l.libraryText) = .ok ⟨l.libraryRoot, l.library_inner⟩ :=
      l.checkRoot_rootText .library
    have hsource : checkRoot (.text l.sourceText) = .ok ⟨l.sourceRoot, l.source_inner⟩ :=
      l.checkRoot_rootText .source
    simp [checkFields, fieldOr, RawRecord.get?, Datum.text?, hlibrary, hsource,
      l.checkPlatformDir_stored, l.checkExtension_stored, Checked.under, Checked.both, Except.map]
  simp [check, checkRecord, stored, hfields, isUnpaired, noUnknownKeys, unknownKeys, Datum.text?,
    fieldNames, Checked.both, Except.map]

/-- What is stored of the data of a layout. -/
structure Normalized (d : Datum) (l : Layout) : Prop where
  /-- A stored root is its parts with slashes between them, of which there are some, and all of them
  ordinary names. -/
  normal : ∀ root, l.rootText root = "/".intercalate (Path.ofText (l.rootText root)).parts ∧
    (Path.ofText (l.rootText root)).parts ≠ [] ∧
    ∀ s ∈ (Path.ofText (l.rootText root)).parts, Ordinary s
  /-- The parts are the segments of the text that was given. -/
  given : ∀ root text, GivesRoot d root text →
    (Path.ofText (l.rootText root)).parts = pathSegments text
  /-- What is stored is stored as the same layout again. -/
  again : check l.stored = .ok l
  /-- Roots of any two layouts are stored alike exactly where they have the same segments. -/
  alike : ∀ d' l', check d' = .ok l' → ∀ root root' text text', GivesRoot d root text →
    GivesRoot d' root' text' →
    (l.rootText root = l'.rootText root' ↔ pathSegments text = pathSegments text')

/-- **Roots are stored in normal form.** Of every layout that passes its checks, each root is stored
as its segments with slashes between them, and nothing but these segments matters: they are what is
left of the text that was given, and a text with the same segments is stored in the same way. -/
theorem check_normalized (h : check d = .ok l) : Normalized d l where
  normal root := by
    rw [parts_rootText]
    exact ⟨rootText_eq l root, isInner_iff.mp (l.rootSegments root).2⟩
  given root text hgives := by
    rw [parts_rootText, rootSegments_of_gives h hgives]
  again := check_stored l
  alike d' l' h' root root' text text' hgives hgives' := by
    rw [← rootSegments_of_gives h hgives, ← rootSegments_of_gives h' hgives']
    constructor
    · intro hsame
      rw [← parts_rootText, hsame, parts_rootText]
    · intro hsame
      rw [rootText_eq, hsame, rootText_eq]

/-- Both roots are the same folder, given in different ways. -/
def tangledRoots : Datum :=
  .map [(.text "library_root", .text "./vendor\\closure/"),
    (.text "source_root", .text "vendor//./closure")]

theorem check_normalized_tangledRoots :
    let l : Layout := { libraryRoot := ["vendor", "closure"], sourceRoot := ["vendor", "closure"] }
    check tangledRoots = .ok l ∧ Normalized tangledRoots l ∧
      GivesRoot tangledRoots .library "./vendor\\closure/" ∧
      GivesRoot tangledRoots .source "vendor//./closure" ∧
      l.rootText .library = l.rootText .source := by
  intro l
  have hcheck : check tangledRoots = .ok l := by rfl
  have hlibrary : GivesRoot tangledRoots .library "./vendor\\closure/" :=
    ⟨_, _, rfl, rfl, rfl⟩
  have hsource : GivesRoot tangledRoots .source "vendor//./closure" := ⟨_, _, rfl, rfl, rfl⟩
  have hnormal := check_normalized hcheck
  have halike := hnormal.alike _ l hcheck .library .source _ _ hlibrary hsource
  exact ⟨hcheck, hnormal, hlibrary, hsource, halike.mpr (by decide)⟩

end Layout

end BundleBuild
