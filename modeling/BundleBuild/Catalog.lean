/-
Catalogs: the declared units by name, in the order they were declared. A catalog is made only
from a valid set: no two units share an artifact name, an artifact that several units produce is
the same bundle in each, and every unit a customizer refers to is declared. So an invalid set is
refused before anything is compiled.
-/
import BundleBuild.Catalog.Validity

namespace BundleBuild

/-- A set of declared units. -/
structure Catalog where
  units : Entries BuildUnit
  valid : Catalog.Valid units

namespace Catalog

/-- The catalog of a set of declarations, when it is valid. -/
def ofDeclarations (ds : Entries Declaration) : Except Trouble Catalog :=
  match h : validate ds with
  | .ok us => .ok ⟨us, valid_of_validate h⟩
  | .error t => .error t

def names (c : Catalog) : List String :=
  c.units.names

def size (c : Catalog) : Nat :=
  c.units.length

def contains (c : Catalog) (name : Datum) : Except Trouble Bool := do
  pass name.lookupTrouble?
  return (name.text?.map c.names.contains).getD false

def artifactNames (c : Catalog) : ArtifactNames :=
  c.units.map fun (name, u) => (name, u.givenArtifact)

def get (c : Catalog) (name : String) : Except Trouble BuildUnit :=
  match c.units.get? name with
  | some u => .ok u
  | none => .error (.fault (.unknownUnit (.text name) c.names none))

/-- A datum as the name of a declared unit. -/
def nameOfDatum (c : Catalog) (d : Datum) : Except Trouble String := do
  pass d.lookupTrouble?
  match d.text?.filter c.names.contains with
  | some name => return name
  | none => .error (.fault (.unknownUnit d c.names none))

/-- The requested units, each once, in the order they were first named. -/
def select (c : Catalog) (requested : List String) : Except Trouble (Entries BuildUnit) :=
  go requested []
where
  go : List String → Entries BuildUnit → Except Trouble (Entries BuildUnit)
    | [], selected => .ok selected
    | name :: rest, selected =>
      if selected.names.contains name then go rest selected
      else do
        let u ← c.get name
        go rest (selected ++ [(name, u)])

/-- The name a unit is declared under. -/
def nameOf (c : Catalog) (u : BuildUnit) : Except Trouble String :=
  match c.units.find? fun (_, declared) => declared.same u with
  | some (name, _) => .ok name
  | none => .error (.fault (.unknownUnit u.givenArtifact c.names none))

/-- The name that a unit of these fields is declared under. -/
def nameOfFields (c : Catalog) (f : UnitFields) : Except Trouble String :=
  match c.units.find? fun (_, declared) => f.describes declared with
  | some (name, _) => .ok name
  | none => .error (.fault (.unknownUnit f.artifact c.names none))

def optionsFor (c : Catalog) (u : BuildUnit) (input : Input) : Except Trouble Options :=
  u.optionsFor c.artifactNames input

/-! ## The declared units -/

/-- The define the browser client reads to find the worker bundle. -/
def workerScriptDefine : String := "app.platform.browser.Client.WORKER_SCRIPT"

/-- Every declared build target. The page units start the worker, so they need its name. -/
def standard : Catalog where
  units := [
    ("MOBILE_REPL", ⟨"mobile.js", .mobile, .mobileMain, [], false⟩),
    ("MOBILE_TESTS", ⟨"mobile-tests.js", .mobile, .testMain, [], false⟩),
    ("BROWSER_TEST_RUNNER", ⟨"browser-tests.js", .browser, .testMain,
      [Customizer.artifactOf 0 workerScriptDefine "BROWSER_WORKER"], false⟩),
    ("BROWSER_REPL", ⟨"browser-repl.js", .browser, .browserReplMain,
      [Customizer.artifactOf 1 workerScriptDefine "BROWSER_WORKER"], false⟩),
    ("BROWSER_WORKER", ⟨"worker.js", .browser, .browserWorker, [], false⟩),
    ("EMBEDDED_TESTS", ⟨"embedded-tests.js", .embedded, .testMain, [], false⟩),
    ("SERVER_REPL", ⟨"server-repl.js", .server, .serverReplMain, [], false⟩),
    ("SERVER_TESTS", ⟨"server-tests.js", .server, .testMain, [], false⟩)]
  valid := by decide

end Catalog

end BundleBuild
