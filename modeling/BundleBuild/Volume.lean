/-
Files on disk: what stands at each location, and where relative paths start. A location is the
list of names from the top down to it, and no location in the table passes through a link.
Looking a path up follows links; listing never does. Some directories may be marked as refusing
to be listed or made.

Two things that a disk may have are left out. There are no hard links: each location has a content
of its own, so writing a file changes what stands at one location only. And nothing carries rights
but for those marks: whatever can be found can be read, and a file that is there, or whose directory
is, can be written.
-/
import BundleBuild.Text.Order
import BundleBuild.Trouble

namespace BundleBuild

/-- What stands at a location. -/
inductive Item where
  | file (content : List UInt8) (executable : Bool)
  | link (target : Path)
  | dir
  deriving DecidableEq, Repr

abbrev Location := List String

structure Volume where
  /-- What stands where; the top itself is not listed. -/
  items : List (Location × Item)
  /-- The working directory. -/
  home : Location
  /-- Paths that refuse to be listed. -/
  unlistable : List String := []
  /-- Paths that refuse to be made. -/
  unmakeable : List String := []

/-- Where a path leads. -/
inductive Spot where
  /-- Something stands there. -/
  | there (at_ : Location) (item : Item)
  /-- Nothing does, but its directory is there. -/
  | vacant (at_ : Location)

namespace Volume

/-- A volume with nothing but an empty working directory. -/
def empty : Volume where
  items := [(["work"], .dir)]
  home := ["work"]

def item? (v : Volume) (at_ : Location) : Option Item :=
  if at_.isEmpty then some .dir
  else (v.items.find? fun (l, _) => l == at_).map (·.2)

/-- How many links one look-up follows at most. -/
def linkLimit : Nat := 40

/-- How many bytes a name has at most. -/
def nameLimit : Nat := 255

/-- How many bytes the text of a path has at most. -/
def pathLimit : Nat := 4095

/-- Where the names lead from a directory. A last name that is a link is followed when `follow`
says so. -/
def walk (v : Volume) (follow : Bool) (links : Nat) (here : Location) (names : List String) :
    Except SystemCause Spot :=
  match names with
  | [] => .ok (.there here .dir)
  | ".." :: rest => walk v follow links here.dropLast rest
  | name :: rest =>
    if nameLimit < name.utf8ByteSize then .error .nameTooLong
    else
    let next := here ++ [name]
    match v.item? next with
    | none => if rest.isEmpty then .ok (.vacant next) else .error .notFound
    | some .dir => walk v follow links next rest
    | some (.file content executable) =>
      if rest.isEmpty then .ok (.there next (.file content executable)) else .error .notDirectory
    | some (.link target) =>
      if rest.isEmpty && !follow then .ok (.there next (.link target))
      else match links with
        | 0 => .error .tooManyLinks
        | links + 1 =>
          walk v follow links (if target.isAbsolute then [] else here) (target.segments ++ rest)
termination_by (links, names.length)

/-- Where a path leads; what its text cannot say is refused before any look-up. -/
def look (v : Volume) (follow : Bool) (p : Path) : Except SystemCause Spot :=
  if p.text.toList.contains '\x00' then .error .nullByte
  else if pathLimit < p.text.utf8ByteSize then .error .nameTooLong
  else v.walk follow linkLimit (if p.isAbsolute then [] else v.home) p.segments

/-- Where a path leads, links followed. -/
def locate (v : Volume) (p : Path) : Except SystemCause Spot :=
  v.look true p

/-- Where a path leads, a last link not followed. -/
def locateEntry (v : Volume) (p : Path) : Except SystemCause Spot :=
  v.look false p

/-- What a look-up finds; a refusal that only shows that nothing is there finds nothing. -/
def find? (v : Volume) (p : Path) : Except Trouble (Option Item) :=
  match v.locate p with
  | .ok (.there _ item) => .ok (some item)
  | .ok (.vacant _) => .ok none
  | .error e => if e.meansAbsent then .ok none else .error (.atPath e p)

def isDir (v : Volume) (p : Path) : Except Trouble Bool :=
  (v.find? p).map (· == some .dir)

def exists? (v : Volume) (p : Path) : Except Trouble Bool :=
  (v.find? p).map Option.isSome

/-- The content of a file. -/
def read (v : Volume) (p : Path) : Except SystemCause (List UInt8) :=
  match v.locate p with
  | .ok (.there _ (.file content _)) => .ok content
  | .ok (.there _ _) => .error .isDirectory
  | .ok (.vacant _) => .error .notFound
  | .error e => .error e

/-! ## Changes -/

/-- The volume with an item put at a location. -/
def place (v : Volume) (at_ : Location) (item : Item) : Volume :=
  { v with items := (v.items.filter fun (l, _) => l != at_) ++ [(at_, item)] }

/-- The volume without a location and all below it. -/
def clear (v : Volume) (at_ : Location) : Volume :=
  { v with items := v.items.filter fun (l, _) => !at_.isPrefixOf l }

/-- Writes a file, over an older one if there is one. -/
def write (v : Volume) (p : Path) (content : List UInt8) : Except SystemCause Volume :=
  match v.locate p with
  | .ok (.there at_ (.file _ executable)) => .ok (v.place at_ (.file content executable))
  | .ok (.there _ _) => .error .isDirectory
  | .ok (.vacant at_) => .ok (v.place at_ (.file content false))
  | .error e => .error e

/-- Makes one directory. -/
def makeDir (v : Volume) (p : Path) : Except SystemCause Volume :=
  if v.unmakeable.contains p.text then .error .permission
  else match v.locateEntry p with
    | .ok (.there _ _) => .error .exists
    | .ok (.vacant at_) => .ok (v.place at_ .dir)
    | .error e => .error e

/-- Makes a directory unless there is one, without the directories above it. -/
def makeDirHere (v : Volume) (p : Path) : Except Trouble Unit × Volume :=
  match v.makeDir p with
  | .ok v' => (.ok (), v')
  | .error e =>
    match v.locate p with
    | .ok (.there _ .dir) => (.ok (), v)
    | _ => (.error (.atPath e p), v)

/-- Makes a directory unless there is one, and the missing directories above it. What was made
before a refusal stays. -/
def makeDirs (v : Volume) (p : Path) : Except Trouble Unit × Volume :=
  match v.makeDir p with
  | .error .notFound =>
    match _hs : p.segments with
    | [] => (.error (.atPath .notFound p), v)
    | _ :: _ =>
      match makeDirs v p.parent with
      | (.ok (), v') => v'.makeDirHere p
      | (.error t, v') => (.error t, v')
  | _ => v.makeDirHere p
termination_by p.segments.length
decreasing_by
  simp [Path.parent, _hs]

/-- Puts an item at a path, in place of what stands there, and makes the missing directories
above it. -/
def put (v : Volume) (p : Path) (item : Item) : Except Trouble Volume :=
  match v.makeDirs p.parent with
  | (.error t, _) => .error t
  | (.ok (), v') =>
    match v'.locateEntry p with
    | .ok (.there at_ _) => .ok (v'.place at_ item)
    | .ok (.vacant at_) => .ok (v'.place at_ item)
    | .error e => .error (.atPath e p)

/-- Writes a file and makes the missing directories above it. -/
def writeDeep (v : Volume) (p : Path) (content : List UInt8) : Except Trouble Volume :=
  match v.makeDirs p.parent with
  | (.error t, _) => .error t
  | (.ok (), v') => (v'.write p content).mapError fun e => .atPath e p

/-! ## Listing -/

/-- Whether all names but the last lead through directories, none of them a link. -/
def throughDirs (v : Volume) (here : Location) : List String → Bool
  | [] => true
  | [_] => true
  | name :: rest => v.item? (here ++ [name]) == some .dir && throughDirs v (here ++ [name]) rest

/-- What stands below a location and is reached through directories alone, with the names that
lead to it from there. -/
def below (v : Volume) (at_ : Location) : List (Location × Item) :=
  v.items.filterMap fun (l, _) =>
    let names := l.drop at_.length
    if at_.isPrefixOf l && !names.isEmpty && v.throughDirs at_ names then
      (v.item? l).map fun item => (names, item)
    else none

/-- Whether a listing shows what stands at a path as a directory: a link to one counts. -/
def showsDir (v : Volume) (p : Path) : Item → Bool
  | .dir => true
  | .file _ _ => false
  | .link _ =>
    match v.locate p with
    | .ok (.there _ .dir) => true
    | _ => false

/-- Why a directory cannot be listed, if it cannot: it refuses, or its path is too long to be
named. -/
def listRefusal? (v : Volume) (p : Path) : Option SystemCause :=
  if v.unlistable.contains p.text then some .permission
  else if pathLimit < p.text.utf8ByteSize then some .nameTooLong
  else none

/-- The directories that a listing visits below a location, itself first and then in order, by the
names that lead to them from there. -/
def visited (v : Volume) (at_ : Location) : List (List String) :=
  [] :: sortSegments ((v.below at_).filterMap fun (names, item) =>
    if item = .dir then some names else none)

/-- The files below a directory, in no particular order. Linked directories are neither entered
nor listed; linked files are listed, also when the link leads nowhere. The first directory visited
that cannot be listed ends the listing. -/
def listFiles (v : Volume) (p : Path) : Except Trouble (List Location) :=
  match v.locate p with
  | .ok (.there at_ .dir) =>
    let pathOf (names : List String) : Path := p.join (Path.relative names)
    let refusal? (names : List String) : Option Trouble :=
      (v.listRefusal? (pathOf names)).map fun cause => .atPath cause (pathOf names)
    match (v.visited at_).findSome? refusal? with
    | some refusal => .error refusal
    | none => .ok ((v.below at_).filterMap fun (names, item) =>
        if v.showsDir (pathOf names) item then none else some names)
  | .ok (.there _ _) => .error (.atPath .notDirectory p)
  | .ok (.vacant _) => .error (.atPath .notFound p)
  | .error e => .error (.atPath e p)

end Volume

end BundleBuild
