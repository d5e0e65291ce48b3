/-
The layout of a source tree: where shared library code and first-party code stand, the name of
the folder that holds platform code, and the extension of source files. Roots are kept as
segments. No root is empty or leaves the tree, the folder is a single name, and the extension has
one dot: a layout carries this with it.
-/
import BundleBuild.Form

namespace BundleBuild

/-- The name of a folder has no slashes of either kind. -/
def isFolderName (s : String) : Bool :=
  s ≠ "" && s.toList.all fun c => c ≠ '/' && c ≠ '\\'

/-- Whether the segments are those of a path that stays inside a tree: there are some, each of them
the name of a folder or a file, and none steps upwards. -/
def isInner (segs : List String) : Bool :=
  !segs.isEmpty && segs.all fun s => isFolderName s && s ≠ "." && s ≠ ".."

/-- The segments of a path that stays inside the tree; nothing for an absolute path, one that
steps upwards, or one without segments. -/
def innerSegments? (p : Path) : Option {segs : List String // isInner segs = true} :=
  if h : isInner p.segments = true ∧ p.lead = .relative then some ⟨p.segments, h.1⟩ else none

theorem innerSegments?_eq_some_iff {p : Path} {segs : {segs : List String // isInner segs = true}} :
    innerSegments? p = some segs ↔ p.lead = .relative ∧ p.segments = segs := by
  unfold innerSegments?
  split
  · next h => simp [h.2, Subtype.ext_iff]
  · next h =>
    refine ⟨nofun, fun ⟨hlead, hsegs⟩ => absurd ⟨?_, hlead⟩ h⟩
    rw [hsegs]
    exact segs.2

/-- An extension is a dot and then letters or digits. -/
def isExtension (s : String) : Bool :=
  match s.toList with
  | '.' :: c :: rest => (c :: rest).all fun c => c.isAlphanum
  | _ => false

structure Layout where
  libraryRoot : List String := ["lib"]
  sourceRoot : List String := ["src"]
  platformDir : String := "platform"
  extension : String := ".js"
  library_inner : isInner libraryRoot = true := by decide
  source_inner : isInner sourceRoot = true := by decide
  folder_named : isFolderName platformDir = true := by decide
  extension_dotted : isExtension extension = true := by decide
  deriving DecidableEq, Repr

namespace Layout

/-- The layout that holds where nothing else is said. -/
def standard : Layout := {}

def platformDirPattern : String := "^[^/\\\\]+$"

def extensionPattern : String := "^\\.[A-Za-z0-9]+$"

def checkRoot (d : Datum) : Checked {segs : List String // isInner segs = true} := do
  let s ← checkName d
  match innerSegments? (Path.ofText (forwardSlashes s)) with
  | some segs => return segs
  | none =>
    Checked.flawed (.refused ("root must be a relative path inside the tree, got " ++ quoteText s))

/-- A text with a property that a pattern describes. -/
def checkPattern (pattern : String) (holds : String → Bool) (s : String) :
    Checked {s : String // holds s = true} :=
  if h : holds s = true then .ok ⟨s, h⟩ else Checked.flawed (.patternMismatch pattern)

def checkPlatformDir (d : Datum) : Checked {s : String // isFolderName s = true} := do
  let s ← checkName d
  checkPattern platformDirPattern isFolderName s

def checkExtension (d : Datum) : Checked {s : String // isExtension s = true} := do
  let s ← checkText d
  checkPattern extensionPattern isExtension s

def fieldNames : List String :=
  ["library_root", "source_root", "platform_dir", "extension"]

def checkFields (r : RawRecord) : Checked Layout :=
  let absent := standard
  let roots := Checked.both
    (fieldOr r "library_root" checkRoot ⟨absent.libraryRoot, absent.library_inner⟩)
    (fieldOr r "source_root" checkRoot ⟨absent.sourceRoot, absent.source_inner⟩)
  let names := Checked.both
    (fieldOr r "platform_dir" checkPlatformDir ⟨absent.platformDir, absent.folder_named⟩)
    (fieldOr r "extension" checkExtension ⟨absent.extension, absent.extension_dotted⟩)
  (Checked.both roots names).map fun ((library, source), (dir, ext)) =>
    ⟨library, source, dir, ext, library.2, source.2, dir.2, ext.2⟩

/-- A layout from data; what is left out takes its default. -/
def check : Datum → Checked Layout :=
  checkRecord "SourceLayout" fieldNames checkFields

/-- The library root as one path text. -/
def libraryText (l : Layout) : String :=
  "/".intercalate l.libraryRoot

/-- The source root as one path text. -/
def sourceText (l : Layout) : String :=
  "/".intercalate l.sourceRoot

end Layout

end BundleBuild
