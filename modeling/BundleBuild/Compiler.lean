/-
The external compiler, run as a command in the directory of the sources. Its output is the
bundle; a command that is missing, that runs out of time or that ends with another status than
zero is a compile fault.
-/
import BundleBuild.Journal
import BundleBuild.Volume
import BundleBuild.Command.Arguments
import BundleBuild.Shell.Launch

namespace BundleBuild

/-- A compiler command line. -/
structure CommandLine where
  /-- The working directory of the command. -/
  sourceRoot : Path
  command : List String := ["google-closure-compiler"]
  /-- How many seconds one run may take. -/
  timeout : Option Datum := none

/-- Why a command did not start. -/
inductive StartFailure where
  | command (cause : SystemCause)
  | directory (cause : SystemCause)
  deriving DecidableEq, Repr

namespace CommandLine

/-- The volume as a process in this directory sees it. -/
def seenFrom (v : Volume) (at_ : Location) : Volume :=
  { v with home := at_ }

/-- Starts a command line in a directory. -/
def start (v : Volume) (dir : Path) (name : String) (args : List String) :
    Except StartFailure Shell.Finished :=
  if (name :: args).any fun word => word.toList.contains '\x00' then .error (.command .nullByte)
  else match v.locate dir with
  | .ok (.there at_ .dir) =>
    match Shell.launch (seenFrom v at_) name args with
    | .ok f => .ok f
    | .error e => .error (.command e)
  | .ok (.there _ _) => .error (.directory .notDirectory)
  | .ok (.vacant _) => .error (.directory .notFound)
  | .error e => .error (.directory e)

/-- A time limit of a whole number of seconds times a power of two, compared in thousandths. -/
def scaled (m : Nat) (q : Int) (milliseconds : Nat) : Nat × Nat :=
  if 0 ≤ q then (1000 * m * Nat.pow 2 q.toNat, milliseconds)
  else (1000 * m, milliseconds * Nat.pow 2 (-q).toNat)

/-- Whether a run of so many thousandths of a second is longer than allowed. -/
def outlasts (milliseconds : Nat) : Datum → Bool
  | .float x => match viewDouble x with
    | .finite negative m q =>
      let (limit, spent) := scaled m q milliseconds
      negative || limit ≤ spent
    | .infinite negative => negative
    | .nan => false
  | d => match d.whole? with
    | some n => n * 1000 ≤ milliseconds
    | none => false

/-- How many thousandths of a second one wait takes at most. -/
def waitLimit : Nat := 2147483647

/-- How many thousandths of a second the clock counts at most. -/
def clockLimit : Nat := 9223372036854

/-- What is wrong with so many seconds as a limit, given as a whole number times a power of
two. -/
def lengthFlaw? (m : Nat) (q : Int) : Option LimitFlaw :=
  let beyond (milliseconds : Nat) : Bool :=
    let (limit, bound) := scaled m q milliseconds
    bound < limit
  if beyond (Nat.pow 2 1024 - Nat.pow 2 970 - 1) then some .infinite
  else if beyond clockLimit then some .beyondClock
  else if beyond waitLimit then some .beyondWait
  else none

/-- What is wrong with a time limit. -/
def limitFlaw? : Datum → Option LimitFlaw
  | .float x => match viewDouble x with
    | .finite negative m q => if negative then none else lengthFlaw? m q
    | .infinite negative => if negative then none else some .infinite
    | .nan => some .notANumber
  | d => match d.whole? with
    | some n =>
      if Nat.pow 2 1024 - Nat.pow 2 970 ≤ n.natAbs then some .beyondDouble
      else if n ≤ 0 then none
      else lengthFlaw? n.natAbs 0
    | none => some (.notNumber d.kind)

/-- How a command line is started in a directory. -/
abbrev Launch := Volume → Path → String → List String → Except StartFailure Shell.Finished

/-- The refusal of a word with halves of surrogate pairs: the first run of them is told by its
place. -/
def unencodable (ps : Points) : Trouble :=
  let start := (ps.takeWhile isCharNumber).length
  let run := (ps.drop start).takeWhile (!isCharNumber ·)
  let told := match run with
    | [half] => "character " ++ quotePoints [half] ++ " in position " ++ Nat.repr start
    | _ => "characters in position " ++ Nat.repr start ++ "-" ++
        Nat.repr (start + run.length - 1)
  .raised "UnicodeEncodeError" ("'utf-8' codec can't encode " ++ told ++ ": surrogates not allowed")

/-- The texts that a command is handed. -/
def handed (words : List Word) : Except Trouble (List String) :=
  words.mapM fun word => match word with
    | .text s => .ok s
    | .unpaired ps => .error (unencodable ps)

def compileFault (r : CompileRequest) (cause : CompileCause) (details : Option String) : Trouble :=
  .fault (.compile {
    entrySymbol := r.entrySymbol, fileCount := r.fileCount, cause := cause, details := details })

/-- The refusal to start, as the compiler reports it. -/
def startTrouble (c : CommandLine) (r : CompileRequest) (name : String) : StartFailure → Trouble
  | .command .notFound => missing (quoteText name)
  | .command cause => .system cause (quoteText name)
  | .directory .notFound => missing (directorySubject c)
  | .directory cause => .system cause (directorySubject c)
where
  directorySubject (c : CommandLine) : String :=
    "PosixPath(" ++ quoteText c.sourceRoot.text ++ ")"
  missing (subject : String) : Trouble :=
    match c.command with
    | [] => .emptyCommand
    | word :: _ => compileFault r (.commandMissing word) (some (SystemCause.notFound.text subject))

/-- What a command line gives for its run. -/
def outcome (c : CommandLine) (r : CompileRequest) (f : Shell.Finished) :
    Except Trouble (List UInt8) :=
  match c.timeout.bind limitFlaw? with
  | some flaw => .error (.badLimit flaw)
  | none =>
  match c.timeout.filter (outlasts f.milliseconds) with
  | some limit => .error (compileFault r (.timedOut limit.plain) none)
  | none =>
    if f.ending.status = 0 then .ok f.out
    else
      let said := nonEmpty? (some (decodeUtf8Lossy f.err))
      .error (compileFault r (.exited f.ending.status) said)

/-- Runs the compiler through `launch` and gives the bundle. -/
def compileWith (launch : Launch) (c : CommandLine) (v : Volume) (r : CompileRequest) :
    Logged (List UInt8) := do
  let args ← Logged.lift (r.arguments c.command)
  Logged.tell {
    channel := .compiler
    level := .debug
    event := "compiler_invoked"
    fields := [("entry_symbol", .text r.entrySymbol), ("files", .int r.fileCount)] }
  match ← Logged.lift (handed args) with
  | [] => Logged.raise .emptyCommand
  | name :: rest =>
    match launch v c.sourceRoot name rest with
    | .error e => Logged.raise (c.startTrouble r name e)
    | .ok f => Logged.lift (c.outcome r f)

/-- Runs the compiler and gives the bundle. -/
def compile (c : CommandLine) : Volume → CompileRequest → Logged (List UInt8) :=
  c.compileWith start

end CommandLine

end BundleBuild
