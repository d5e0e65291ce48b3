/-
Which source files belong to a platform's build. The rule looks at path segments only: library
files belong to every platform, first-party files too unless they stand in a platform's own
folder, and those belong to that platform alone. Texts that name no file inside the tree belong
to none.
-/
import BundleBuild.Layout

namespace BundleBuild

/-- The extension of a file name: the text from its last dot on, when the dot is neither its
first nor its last character. -/
def suffixChars (name : List Char) : List Char :=
  match (name.reverse.span (· ≠ '.')) with
  | (_, []) => []
  | (after, _ :: before) => if after.isEmpty || before.isEmpty then [] else '.' :: after.reverse

def suffix (name : String) : String :=
  String.ofList (suffixChars name.toList)

/-- What stands below `root`; nothing unless at least one segment does. -/
def below? (root segs : List String) : Option (List String) :=
  if root.isPrefixOf segs && root.length < segs.length then some (segs.drop root.length) else none

/-- Whether first-party code below the source root belongs to the platform. -/
def ownedBy (l : Layout) (p : Platform) : List String → Bool
  | dir :: owner :: _ :: _ => dir != l.platformDir || owner == p.dirName
  | _ => true

/-- Whether the file with these segments belongs to the platform's build. -/
def relevantSegments (l : Layout) (p : Platform) (segs : List String) : Bool :=
  match segs.getLast? with
  | none => false
  | some file =>
    suffix file == l.extension &&
      ((below? l.libraryRoot segs).isSome ||
        match below? l.sourceRoot segs with
        | some rest => ownedBy l p rest
        | none => false)

/-- Whether the file at this path, seen from the root of the tree, belongs to the platform's
build. Backslashes count as slashes. -/
def relevant (l : Layout) (p : Platform) (path : String) : Bool :=
  match innerSegments? (Path.ofText (forwardSlashes path)) with
  | some segs => relevantSegments l p segs
  | none => false

end BundleBuild
