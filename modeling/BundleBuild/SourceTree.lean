/-
Source trees: the files under the declared roots, listed once, and the part of them that belongs
to a platform. A listing that succeeded is kept; one that failed is tried again.
-/
import BundleBuild.Relevance
import BundleBuild.Journal
import BundleBuild.Volume

namespace BundleBuild

structure SourceTree where
  root : Path
  layout : Layout := .standard
  /-- The files found by the first listing that succeeded. -/
  listing : Option (List Path) := none

namespace SourceTree

/-- The library root and the first-party root. -/
def declaredRoots (t : SourceTree) : List (List String) :=
  [t.layout.libraryRoot, t.layout.sourceRoot]

def fault (cause : SourceTreeCause) (p : Path) (details : Option String) : Trouble :=
  .fault (.sourceTree cause (some p.text) details)

/-- The files below one declared root, seen from the root of the tree. -/
def scanRoot (t : SourceTree) (v : Volume) (names : List String) :
    Except Trouble (List Path) := do
  let declared := t.root.join (Path.relative names)
  if ← v.isDir declared then
    match v.listFiles declared with
    | .ok found => .ok (found.map fun rest => Path.relative (names ++ rest))
    | .error e => .error (fault .unreadable declared (some e.text))
  else .error (fault .rootMissing declared none)

/-- Every file below the declared roots, one below both counted twice. -/
def scanRoots (t : SourceTree) (v : Volume) : Except Trouble (List Path) := do
  if ← v.isDir t.root then
    let found ← t.declaredRoots.mapM (t.scanRoot v)
    return found.flatten
  else .error (fault .treeMissing t.root none)

/-- The files in order, each once. -/
def inOrder (files : List Path) : List Path :=
  (sortSegments (files.map (·.segments))).map Path.relative

/-- The files under the declared roots and the tree that remembers them. -/
def files (t : SourceTree) (v : Volume) : Logged (List Path × SourceTree) :=
  match t.listing with
  | some found => pure (found, t)
  | none => do
    let found ← Logged.lift (t.scanRoots v)
    Logged.tell {
      channel := .sourceTree
      level := .debug
      event := "source_tree_scanned"
      fields := [("root", .text t.root.text), ("files", .int found.length)] }
    let listed := inOrder found
    return (listed, { t with listing := some listed })

/-- The files of a listing that belong to the platform. -/
def relevantAmong (t : SourceTree) (p : Platform) (listed : List Path) : List Path :=
  listed.filter fun file => relevant t.layout p file.text

/-- The files that belong to the platform's build. -/
def relevantFiles (t : SourceTree) (v : Volume) (p : Platform) :
    Logged (List Path × SourceTree) := do
  let (listed, t') ← t.files v
  return (t.relevantAmong p listed, t')

/-- What a tree is asked for. -/
inductive Query where
  | files
  | relevantFiles (p : Platform)

/-- The answer to a query, and the tree after it; an answer that fails leaves the tree as it was. -/
def ask (t : SourceTree) (v : Volume) (q : Query) : Except Trouble (List Path) × SourceTree :=
  let answered := match q with
    | .files => t.files v
    | .relevantFiles p => t.relevantFiles v p
  match answered.result with
  | .ok (found, t') => (.ok found, t')
  | .error trouble => (.error trouble, t)

end SourceTree

end BundleBuild
