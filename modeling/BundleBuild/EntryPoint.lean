/-
Entry points: the closed set of root symbols the compiler keeps reachable when it prunes dead
code.
-/

namespace BundleBuild

/-- A root symbol of a bundle. -/
inductive EntryPoint where
  | testMain
  | mobileMain
  | browserWorker
  | browserReplMain
  | serverReplMain
  | embeddedMain
  deriving DecidableEq, Repr

namespace EntryPoint

def all : List EntryPoint :=
  [.testMain, .mobileMain, .browserWorker, .browserReplMain, .serverReplMain, .embeddedMain]

/-- The name an entry point is declared under. -/
def name : EntryPoint → String
  | .testMain => "TEST_MAIN"
  | .mobileMain => "MOBILE_MAIN"
  | .browserWorker => "BROWSER_WORKER"
  | .browserReplMain => "BROWSER_REPL_MAIN"
  | .serverReplMain => "SERVER_REPL_MAIN"
  | .embeddedMain => "EMBEDDED_MAIN"

/-- The symbol handed to the compiler. -/
def symbol : EntryPoint → String
  | .testMain => "app.test.main"
  | .mobileMain => "app.platform.mobile.main"
  | .browserWorker => "app.platform.browser.Worker"
  | .browserReplMain => "app.platform.browser.replMain"
  | .serverReplMain => "app.platform.server.replMain"
  | .embeddedMain => "app.platform.embedded.main"

def ofName? (s : String) : Option EntryPoint :=
  all.find? (·.name == s)

def ofSymbol? (s : String) : Option EntryPoint :=
  all.find? (·.symbol == s)

end EntryPoint

end BundleBuild
