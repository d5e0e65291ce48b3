/-
Builders: a unit under construction. A builder is opened with an artifact name and a platform,
needs an entry point, takes customizers in order and makes exactly one unit. It is called any number
of times, and a call that is refused leaves it as it was.
-/
import BundleBuild.Text.Blank
import BundleBuild.BuildUnit

namespace BundleBuild

/-- What a builder is offered as a customizer. -/
inductive Offer where
  | customizer (c : Customizer)
  /-- A plain function and its name, if it has one. -/
  | function (tag : Nat) (name : Option String) (f : Options → Except Trouble Transformed)
  /-- What cannot be called. -/
  | other

/-- The customizer in an offer; a plain function is wrapped in one. -/
def Offer.customizer? : Offer → Option Customizer
  | .customizer c => some c
  | .function tag name f => some (Customizer.plain tag none name f)
  | .other => none

/-- Whether a name is made of blanks only. -/
def ArtifactName.isBlank : ArtifactName → Bool
  | .unpaired ps => ps.all isBlankNumber
  | name => isBlankText name.spelled

structure Builder where
  name : ArtifactName
  platform : Platform
  entryPoint : Option EntryPoint := none
  customizers : List Customizer := []
  used : Bool := false

namespace Builder

def refuse {α : Type} (cause : ConfigurationCause) (unit : Option String) : Except Trouble α :=
  .error (.fault (.configuration { cause := cause, unit := unit }))

/-- A text as the name of an artifact. One with halves of surrogate pairs passes here; it is refused
where bundles are listed. -/
def name? (d : Datum) : Option ArtifactName :=
  (ArtifactName.ofDatum? d).filter ArtifactName.isText

/-- Opens a builder. The artifact name has to be a text that is not blank, the platform a
declared one. -/
def start (artifact platform : Datum) : Except Trouble Builder :=
  match name? artifact with
  | none => refuse .emptyArtifact none
  | some name =>
    if name.isBlank then refuse .emptyArtifact none
    else match platform with
      | .platform p => .ok { name := name, platform := p }
      | other => refuse (.unknownPlatform other) (some name.shown)

/-- A builder that has made its unit takes no more changes. -/
def ensureOpen (b : Builder) : Except Trouble Unit :=
  if b.used then refuse .builderUsed (some b.name.shown) else .ok ()

def setEntryPoint (b : Builder) (entry : Datum) : Except Trouble Builder := do
  b.ensureOpen
  match entry with
  | .entryPoint e => return { b with entryPoint := some e }
  | other => refuse (.unknownEntryPoint other) (some b.name.shown)

/-- Appends a customizer; nothing stands for a value that is none. -/
def customize (b : Builder) (c : Option Customizer) : Except Trouble Builder := do
  b.ensureOpen
  match c with
  | some c => return { b with customizers := b.customizers ++ [c] }
  | none => refuse .notCallable (some b.name.shown)

/-- The unit, and the builder, which is used from then on. -/
def build (b : Builder) : Except Trouble (BuildUnit × Builder) := do
  b.ensureOpen
  match b.entryPoint with
  | some e =>
    let unit : BuildUnit := {
      name := b.name, platform := b.platform, entryPoint := e, customizers := b.customizers }
    return (unit, { b with used := true })
  | none => refuse .entryPointMissing (some b.name.shown)

/-! ## Calls -/

inductive Call where
  | entryPoint (entry : Datum)
  | customize (offer : Offer)
  | build

/-- What a call gives back: the builder itself, or the unit. -/
inductive Reply where
  | itself
  | unit (u : BuildUnit)

/-- Carries out a call, unless it is refused. -/
def perform (b : Builder) : Call → Except Trouble (Reply × Builder)
  | .entryPoint entry => (b.setEntryPoint entry).map fun b' => (.itself, b')
  | .customize offer => (b.customize offer.customizer?).map fun b' => (.itself, b')
  | .build => b.build.map fun (u, b') => (.unit u, b')

/-- The answer to a call, and the builder after it. -/
def call (b : Builder) (c : Call) : Except Trouble Reply × Builder :=
  match b.perform c with
  | .ok (reply, b') => (.ok reply, b')
  | .error t => (.error t, b)

end Builder

end BundleBuild
