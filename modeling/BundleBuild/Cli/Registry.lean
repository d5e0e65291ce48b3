/-
Commands by name. Some are at hand, others are known only by where they are found and are looked
up when they are first needed. A command at hand goes before one of the same name that is not.
-/
import BundleBuild.Text.Order
import BundleBuild.Trouble

namespace BundleBuild.Cli

structure Registry where
  atHand : List String := []
  /-- Where the other commands are found: a module and a member of it, joined by a dot. -/
  deferred : Entries Datum := []

/-- What can be loaded: how the members of a module are shown, and whether it holds modules. -/
structure CommandModule where
  members : Entries String := []
  holdsModules : Bool := false

/-- The modules that can be loaded, by their full names. -/
abbrev Library := Entries CommandModule

namespace Registry

/-- Every name, in order. -/
def names (r : Registry) : List String :=
  sortTexts (r.atHand ++ r.deferred.names).eraseDups

/-- A location cut at its last dot. -/
def splitLocation (location : String) : String × String :=
  let cs := location.toList.reverse
  let member := cs.takeWhile (· ≠ '.')
  let rest := (cs.drop (member.length + 1)).reverse
  (String.ofList rest, String.ofList member.reverse)

/-- Finds a module from the outermost name inwards; `outer` holds the names found so far. -/
def findModule (library : Library) (outer : List String) :
    List String → Except Trouble CommandModule
  | [] => .error (.raised "ValueError" "Empty module name")
  | step :: rest =>
    let name := ".".intercalate (outer ++ [step])
    match library.get? name, rest with
    | some found, [] => .ok found
    | some found, next :: _ =>
      if found.holdsModules then findModule library (outer ++ [step]) rest
      else .error (.raised "ModuleNotFoundError"
        ("No module named " ++ quoteText (name ++ "." ++ next) ++ "; " ++ quoteText name ++
          " is not a package"))
    | none, _ => .error (.raised "ModuleNotFoundError" ("No module named " ++ quoteText name))

/-- Loads what is at a location and tells how it is shown. -/
def load (library : Library) (location : String) : Except Trouble String :=
  let (module, member) := splitLocation location
  if module.isEmpty then .error (.raised "ValueError" "Empty module name")
  else if module.startsWith "." then
    .error (.raised "TypeError"
      ("the 'package' argument is required to perform a relative import for " ++ quoteText module))
  else do
    let found ← findModule library [] (splitText '.' module)
    match found.members.get? member with
    | some command => return command
    | none => .error (.raised "AttributeError"
        ("module '" ++ module ++ "' has no attribute '" ++ member ++ "'"))

/-- How the command of a name is shown; nothing when there is none. -/
def find (library : Library) (r : Registry) (name : Datum) : Except Trouble (Option String) :=
  match name.lookupTrouble?, name.text? with
  | some t, _ => .error t
  | none, none => .ok none
  | none, some name =>
    if r.atHand.contains name then .ok (some name)
    else match r.deferred.get? name with
      | none => .ok none
      | some .null => .ok none
      | some location =>
        match location.text? with
        | some place => (load library place).map some
        | none => .error (.lacks location.kind "rpartition")

end Registry

end BundleBuild.Cli
