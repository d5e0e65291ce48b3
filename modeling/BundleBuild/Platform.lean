/-
Platforms: the closed set of deployment targets, each with the bundles it declares by default.
The first bundle of a platform is its primary one; the others are companions built beside it.
-/
import BundleBuild.EntryPoint

namespace BundleBuild

/-- One compiler input: the artifact it produces and the symbol it is compiled from. -/
structure Input where
  artifact : String
  entrySymbol : String
  deriving DecidableEq, Repr

/-- A deployment target. -/
inductive Platform where
  | mobile
  | browser
  | server
  | embedded
  deriving DecidableEq, Repr

namespace Platform

def all : List Platform :=
  [.mobile, .browser, .server, .embedded]

/-- The name a platform is declared under. -/
def name : Platform → String
  | .mobile => "MOBILE"
  | .browser => "BROWSER"
  | .server => "SERVER"
  | .embedded => "EMBEDDED"

/-- The platform's own word, which is also the name of its folder in a source tree. -/
def dirName : Platform → String
  | .mobile => "mobile"
  | .browser => "browser"
  | .server => "server"
  | .embedded => "embedded"

def ofName? (s : String) : Option Platform :=
  all.find? (·.name == s)

def ofDirName? (s : String) : Option Platform :=
  all.find? (·.dirName == s)

/-- The bundle whose place a unit's own artifact takes. -/
def primary : Platform → Input
  | .mobile => ⟨"app-mobile.js", EntryPoint.testMain.symbol⟩
  | .browser => ⟨"app-browser.js", EntryPoint.testMain.symbol⟩
  | .server => ⟨"app-server.js", EntryPoint.testMain.symbol⟩
  | .embedded => ⟨"app-embedded.js", EntryPoint.testMain.symbol⟩

/-- The bundles built next to the primary one. -/
def companions : Platform → List Input
  | .browser => [⟨"worker.js", EntryPoint.browserWorker.symbol⟩]
  | _ => []

/-- The declared bundles, primary first. -/
def inputs (p : Platform) : List Input :=
  p.primary :: p.companions

theorem dirName_inj {p q : Platform} : p.dirName = q.dirName ↔ p = q := by
  cases p <;> cases q <;> decide

end Platform

end BundleBuild
