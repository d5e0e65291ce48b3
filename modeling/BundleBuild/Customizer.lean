/-
Customizers: named transforms of option sets. One that embeds the artifact name of another unit
records that unit by name, and the name is looked up when the options are made, so the other
unit need not be declared first.
-/
import BundleBuild.Text.Order
import BundleBuild.Trouble

namespace BundleBuild

/-- The artifact name of every declared unit, as it was given. -/
abbrev ArtifactNames := Entries Datum

/-- What a transform gives back: options, or something of another kind. -/
inductive Transformed where
  | options (o : Options)
  | other (kind : String)

abbrev Transform := Options → ArtifactNames → Except Trouble Transformed

/-- A named transform. Two customizers are the same when they carry the same tag. -/
structure Customizer where
  tag : Nat
  name : String
  references : List String
  transform : Transform

namespace Customizer

/-- The options after the transform. Every referenced unit has to be declared; the library's own
faults pass through, and any other error of the transform is a configuration fault. -/
def apply (c : Customizer) (o : Options) (names : ArtifactNames) : Except Trouble Options :=
  match c.references.find? fun r => !names.names.contains r with
  | some missing =>
    .error (.fault (.unknownUnit (.text missing) (sortTexts names.names) (some c.name)))
  | none =>
    match c.transform o names with
    | .ok (.options o') => .ok o'
    | .ok (.other kind) =>
      .error (.fault (.configuration { cause := .customizerResult c.name kind }))
    | .error (.fault f) => .error (.fault f)
    | .error t => match t.unhandled? with
      | some t' => .error t'
      | none => .error (.fault (.configuration {
          cause := .customizerFailed c.name t.text
          details := some (t.kind ++ ": " ++ t.text) }))

/-- A define set in the options a transform works on. -/
def define (name : String) (value : Datum) (o : Options) : Except Trouble Transformed :=
  match o.withDefine name value with
  | .ok o' => .ok (.options o')
  | .error flaw => .error (.badOption flaw)

/-- Sets a define to a literal value. -/
def literal (tag : Nat) (name : String) (value : Datum) : Customizer where
  tag := tag
  name := "define " ++ name
  references := []
  transform o _ := define name value o

/-- Sets a define to the artifact name of another unit. -/
def artifactOf (tag : Nat) (name unit : String) : Customizer where
  tag := tag
  name := "define " ++ name ++ " = artifact of " ++ unit
  references := [unit]
  transform o names :=
    match names.get? unit with
    | some artifact => define name artifact o
    | none => .error (.raised "KeyError" (quoteText unit))

/-- A plain function from options to options, under the first name that says anything. -/
def plain (tag : Nat) (given function : Option String)
    (f : Options → Except Trouble Transformed) : Customizer where
  tag := tag
  name := match nonEmpty? given with
    | some n => n
    | none => function.getD "custom"
  references := []
  transform o _ := f o

/-- The options after every customizer in turn. -/
def applyAll (cs : List Customizer) (names : ArtifactNames) (o : Options) :
    Except Trouble Options :=
  cs.foldlM (fun o c => c.apply o names) o

end Customizer

end BundleBuild
