/-
Starting a process from outside. A name without a slash is looked for among the programs of the
system; a path leads to one of them or to a script that names the program to run it.
-/
import BundleBuild.Shell.Run

namespace BundleBuild.Shell

/-- How a process ended. -/
inductive Ending where
  | exited (status : Nat)
  | killed (signal : Nat)
  deriving DecidableEq, Repr

/-- The status a parent sees: signals count below zero. -/
def Ending.status : Ending → Int
  | .exited n => n
  | .killed n => -n

/-- What a process did. -/
structure Finished where
  ending : Ending
  out : List UInt8 := []
  err : List UInt8 := []
  /-- The time it took. -/
  milliseconds : Nat := 0
  deriving DecidableEq, Repr

/-- The variables a process finds. -/
def firstBindings (home : Location) : Entries Variable :=
  [("PATH", "/usr/local/sbin:/usr/local/bin:/usr/sbin:/usr/bin:/sbin:/bin"), ("HOME", "/root"),
    ("PWD", Act.locationPath home)].map fun (k, v) =>
      (k, { value := some v, exported := true })

def firstState (v : Volume) : State where
  shell := {
    name := "sh"
    home := v.home
    directory := Act.locationPath v.home
    bindings := firstBindings v.home }
  world := { volume := v }

/-- What is started for a name. -/
def startOf (v : Volume) (name : String) (args : List String) : Except SystemCause Start :=
  if name.isEmpty then .error .permission
  else if name.toList.contains '/' then resolve v 5 name args
  else if Act.isProgram name then .ok ⟨name, name, args⟩
  else .error .notFound

/-- What a process leaves behind. -/
def finishedOf (stop : Option Stop) (s : State) : Finished where
  ending := match stop with
    | some (.killed _ n) => .killed n
    | _ => .exited (s.shell.status % 256)
  out := toBytes (String.ofList s.world.out.toList)
  err := toBytes (String.ofList s.world.err.toList)
  milliseconds := match stop with
    | some .endless => foreverMilliseconds
    | _ => max s.world.clock s.world.lingering

/-- How many bytes one argument has at most. -/
def argumentLimit : Nat := 131071

/-- Runs a program by name with arguments. -/
def launch (v : Volume) (name : String) (args : List String) : Except SystemCause Finished := do
  let words := args.map octets
  if argumentLimit < (octets name).length || words.any fun w => argumentLimit < w.length then
    throw .argumentTooLong
  let st ← startOf v (octets name) words
  match Act.runStart depthLimit st true (firstState v) with
  | .ok _ s => return finishedOf none s
  | .error stop s => return finishedOf (some stop) s

end BundleBuild.Shell
