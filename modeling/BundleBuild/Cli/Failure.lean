/-
How faults end the command line: with a message and an exit code. One is a mistake of the user or
a failed build, two is trouble with files.
-/
import BundleBuild.Fault

namespace BundleBuild.Cli

/-- A message that ends the program. -/
structure Exit where
  message : String
  code : Nat := 1
  deriving DecidableEq, Repr

def userError : Nat := 1

def systemError : Nat := 2

/-- The exit code for failures: trouble with files only when nothing else failed. -/
def failuresCode (failures : List Failure) : Nat :=
  if !failures.isEmpty && failures.all (·.errorKind == "SourceTreeError") then systemError
  else userError

/-- The exit code of a fault. -/
def exitCode : Fault → Nat
  | .sourceTree _ _ _ => systemError
  | .buildFailed failures => failuresCode failures
  | _ => userError

/-- The end a fault leads to. -/
def exitOf (f : Fault) : Exit :=
  if f.isConfiguration then ⟨"Invalid build catalog or configuration: " ++ f.message, userError⟩
  else ⟨f.message, exitCode f⟩

/-- The end a refused permission leads to. -/
def permissionExit (path operation : String) : Exit :=
  ⟨"Permission denied: Cannot " ++ operation ++ " " ++ path, systemError⟩

end BundleBuild.Cli
