/-
What can go wrong in a build, as causes. A fault is one of the errors the library reports itself:
an invalid catalog or configuration, an unknown unit, an unreadable source tree, a rejected
compilation, a failed batch. `Fault.message` is the one place where causes become words; details
are kept apart from the message and are for the log only.
-/
import BundleBuild.Failure
import BundleBuild.Options

namespace BundleBuild

/-- The text when it says anything. -/
def nonEmpty? : Option String → Option String
  | some s => if s.isEmpty then none else some s
  | none => none

/-- One side of a clash over an artifact name. -/
structure Producer where
  unit : String
  platform : Platform
  entrySymbol : String
  deriving DecidableEq, Repr

def Producer.text (p : Producer) : String :=
  p.unit ++ " (" ++ p.platform.dirName ++ ", " ++ p.entrySymbol ++ ")"

/-- Why a catalog, a unit or a configuration file is refused. -/
inductive ConfigurationCause where
  | emptyArtifact
  | unknownPlatform (given : Datum)
  | unknownEntryPoint (given : Datum)
  | notCallable
  | builderUsed
  | entryPointMissing
  | customizerFailed (customizer text : String)
  | customizerResult (customizer kind : String)
  | emptyUnitName
  | notUnit (kind : String)
  | duplicateArtifact (artifact : String) (owners : List String)
  | clashingArtifact (artifact : String) (first second : Producer)
  | fileNotFound
  | invalidDocument
  | notMapping
  | invalidField (flaw : Flaw)
  | stated (text : String)

def ConfigurationCause.text : ConfigurationCause → String
  | .emptyArtifact => "Build artifact name must be a non-empty string"
  | .unknownPlatform d => "Unknown platform " ++ d.quoted
  | .unknownEntryPoint d => "Unknown entry point " ++ d.quoted
  | .notCallable => "Option customizer must be callable"
  | .builderUsed => "Builder already used; start a new one with CompilationUnit.of()"
  | .entryPointMissing => "Entry point must be set before build()"
  | .customizerFailed name text => "Option customizer '" ++ name ++ "' failed: " ++ text
  | .customizerResult name kind =>
    "Option customizer '" ++ name ++ "' must return CompilerOptions, got " ++ kind
  | .emptyUnitName => "Unit names must be non-empty"
  | .notUnit kind => "Expected a CompilationUnit, got " ++ kind
  | .duplicateArtifact artifact owners =>
    "Duplicate build artifact name '" ++ artifact ++ "' declared by " ++ ", ".intercalate owners
  | .clashingArtifact artifact first second =>
    "Build artifact name '" ++ artifact ++ "' is produced by " ++ first.text ++ " and " ++
      second.text
  | .fileNotFound => "Configuration file not found"
  | .invalidDocument => "Invalid YAML"
  | .notMapping => "Configuration must be a mapping"
  | .invalidField flaw => "Invalid configuration: " ++ flaw.message
  | .stated text => text

/-- A configuration fault: its cause, and the unit, file and field it concerns. -/
structure ConfigurationFault where
  cause : ConfigurationCause
  unit : Option String := none
  file : Option String := none
  field : Option String := none
  details : Option String := none

/-- The unit, file and field a fault concerns, as far as they are known. -/
def ConfigurationFault.context (f : ConfigurationFault) : List String :=
  ((nonEmpty? f.unit).map fun u => "unit '" ++ u ++ "'").toList ++
  ((nonEmpty? f.file).map fun p => "in " ++ p).toList ++
  ((nonEmpty? f.field).map fun p => "field '" ++ p ++ "'").toList

def ConfigurationFault.message (f : ConfigurationFault) : String :=
  match f.context with
  | [] => f.cause.text
  | parts => f.cause.text ++ " (" ++ ", ".intercalate parts ++ ")"

/-- Why a source tree cannot be read. -/
inductive SourceTreeCause where
  | treeMissing
  | rootMissing
  | unreadable
  | stated (text : String)
  deriving DecidableEq, Repr

def SourceTreeCause.text : SourceTreeCause → String
  | .treeMissing => "Source tree not found"
  | .rootMissing => "Declared source root is missing"
  | .unreadable => "Source tree is not readable"
  | .stated text => text

/-- Why the compiler gave no bundle. -/
inductive CompileCause where
  | unspecified
  | commandMissing (command : String)
  | timedOut (seconds : String)
  | exited (status : Int)
  | stated (text : String)
  deriving DecidableEq, Repr

def CompileCause.text : CompileCause → String
  | .unspecified => "compilation failed"
  | .commandMissing command => "compiler command not found: " ++ command
  | .timedOut seconds => "compiler timed out after " ++ seconds ++ "s"
  | .exited status => "compiler exited with status " ++ writeInt status
  | .stated text => text

/-- A rejected compilation. The compiler does not know which artifact it builds; `tagged` adds
it. -/
structure CompileFault where
  entrySymbol : String
  artifact : Option String := none
  fileCount : Int := 0
  cause : CompileCause := .unspecified
  details : Option String := none
  deriving DecidableEq, Repr

def CompileFault.message (f : CompileFault) : String :=
  let target := match nonEmpty? f.artifact with
    | some a => "'" ++ a ++ "' (entry point " ++ f.entrySymbol ++ ", " ++ writeInt f.fileCount ++
        " files)"
    | none => "entry point " ++ f.entrySymbol ++ " (" ++ writeInt f.fileCount ++ " files)"
  "Failed to compile " ++ target ++ ": " ++ f.cause.text

/-- The same rejection, with the artifact and the number of files it was for. -/
def CompileFault.tagged (artifact : String) (fileCount : Int) (f : CompileFault) : CompileFault :=
  { f with artifact := some artifact, fileCount := fileCount }

inductive Fault where
  | general (text : String) (details : Option String)
  | configuration (f : ConfigurationFault)
  | unknownUnit (unit : Datum) (available : List String) (referencedBy : Option String)
  | sourceTree (cause : SourceTreeCause) (path details : Option String)
  | compile (f : CompileFault)
  | buildFailed (failures : List Failure)

namespace Fault

/-- The name of the kind of a fault. -/
def kind : Fault → String
  | .general _ _ => "SplitbuildError"
  | .configuration _ => "ConfigurationError"
  | .unknownUnit _ _ _ => "UnknownUnitError"
  | .sourceTree _ _ _ => "SourceTreeError"
  | .compile _ => "CompileError"
  | .buildFailed _ => "BuildFailedError"

/-- The message to the user. -/
def message : Fault → String
  | .general text _ => text
  | .configuration f => f.message
  | .unknownUnit unit available referencedBy =>
    let known := if available.isEmpty then "none" else ", ".intercalate available
    let base := "Unknown compilation unit '" ++ unit.plain ++ "'. Available: " ++ known
    match nonEmpty? referencedBy with
    | some by_ => base ++ ". Referenced by '" ++ by_ ++ "'"
    | none => base
  | .sourceTree cause path _ => match nonEmpty? path with
    | some p => cause.text ++ ": " ++ p
    | none => cause.text
  | .compile f => f.message
  | .buildFailed failures => "\n".intercalate (
      (Nat.repr failures.length ++ " build(s) failed:") ::
        failures.map fun f => "  - " ++ f.unit ++ ": " ++ f.message)

/-- Technical details, which only the log shows. -/
def details : Fault → Option String
  | .general _ d => d
  | .configuration f => f.details
  | .unknownUnit _ _ _ => none
  | .sourceTree _ _ d => d
  | .compile f => f.details
  | .buildFailed _ => none

/-- Whether the catalog or the configuration itself is at fault. -/
def isConfiguration : Fault → Bool
  | .configuration _ => true
  | .unknownUnit _ _ _ => true
  | _ => false

end Fault

end BundleBuild
