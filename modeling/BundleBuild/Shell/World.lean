/-
Running shells and what they share. Every shell, and every subshell of it, has its own variables,
arguments, descriptors and place in the tree of files; files, pipes and time are common to all of
them.
-/
import BundleBuild.Entries
import BundleBuild.Volume
import BundleBuild.Shell.Octets
import BundleBuild.Shell.Script

namespace BundleBuild.Shell

/-- Where what is written goes, and where what is read comes from. -/
inductive Place where
  /-- The output of the whole run. -/
  | out
  /-- Its complaints. -/
  | err
  | nowhere
  | file (at_ : Location)
  | pipe (number : Nat)
  deriving DecidableEq, Repr

/-- A file as it was opened; descriptors that are copies of each other share it. -/
structure OpenFile where
  place : Place
  offset : Nat := 0
  appends : Bool := false
  deriving DecidableEq, Repr

/-- What all shells of a run share. -/
structure World where
  volume : Volume
  out : Array Char := #[]
  err : Array Char := #[]
  pipes : Array (Array Char) := #[]
  files : Array OpenFile := #[⟨.nowhere, 0, false⟩, ⟨.out, 0, false⟩, ⟨.err, 0, false⟩]
  documents : Array Word := #[]
  /-- Thousandths of a second since the start. -/
  clock : Nat := 0
  /-- When the last background command ends. -/
  lingering : Nat := 0
  /-- How many processes have been numbered. -/
  processes : Nat := 1

structure Variable where
  value : Option String
  exported : Bool := false
  fixed : Bool := false
  deriving DecidableEq, Repr

/-- A shell or a subshell. -/
structure Interpreter where
  /-- The name in its complaints. -/
  name : String
  args : List String := []
  bindings : Entries Variable := []
  functions : Entries Command := []
  aliases : Entries String := []
  /-- The letters of the options that are on. -/
  options : List Char := []
  /-- The options without a letter that are on. -/
  namedOptions : List String := []
  /-- The open file behind each descriptor. -/
  descriptors : List (Nat × Nat) := [(0, 0), (1, 1), (2, 2)]
  home : Location
  /-- The path that led there. -/
  directory : String
  /-- The rights that new files do not get. -/
  mask : Nat := 18
  /-- What to run at a signal, or at the end under `0`. -/
  traps : List (Nat × String) := []
  /-- The traps of the shell that a subshell came from. -/
  outerTraps : List (Nat × String) := []
  /-- Signals that have come and whose traps have not been run. -/
  caught : List Nat := []
  status : Nat := 0
  /-- The status of the last command whose output was taken. -/
  outputStatus : Nat := 0
  line : Nat := 0
  /-- The builtin command that is running, for complaints. -/
  command : Option String := none
  process : Nat := 1
  lastBackground : Option Nat := none
  /-- The background commands: their processes, their status and when they end. -/
  jobs : List (Nat × Nat × Nat) := []
  isSubshell : Bool := false
  loops : Nat := 0
  /-- How far the options of the argument at hand have been read. -/
  optionPlace : Nat := 0
  calls : Nat := 0
  /-- The variables that a function call has hidden, with what they were before, for each call. -/
  hidden : List (List (String × Option Variable)) := []

structure State where
  shell : Interpreter
  world : World

/-- Why commands are not run to their end. -/
inductive Stop where
  /-- So many loops are left. -/
  | leave (loops : Nat)
  /-- So many loops are left but for the last, which goes on. -/
  | resume (loops : Nat)
  /-- A function or a script in a file is left. -/
  | return
  | exit
  /-- A mistake ends the shell. -/
  | fault
  /-- A signal ends a process. -/
  | killed (process signal : Nat)
  /-- Nothing ends the run. -/
  | endless
  deriving DecidableEq, Repr

abbrev Act := EStateM Stop State

namespace Act

def shell : Act Interpreter := do return (← get).shell

def world : Act World := do return (← get).world

def modifyShell (f : Interpreter → Interpreter) : Act Unit :=
  modify fun s => { s with shell := f s.shell }

def modifyWorld (f : World → World) : Act Unit :=
  modify fun s => { s with world := f s.world }

def setStatus (n : Nat) : Act Unit :=
  modifyShell fun sh => { sh with status := n }

/-- The files as this shell sees them. -/
def volume : Act Volume := do
  return { (← world).volume with home := (← shell).home }

def setVolume (v : Volume) : Act Unit :=
  modifyWorld fun w => { w with volume := { v with home := w.volume.home } }

/-- Spends time. -/
def spend (milliseconds : Nat) : Act Unit :=
  modifyWorld fun w => { w with clock := w.clock + milliseconds }

def isOn (option : Char) : Act Bool := do
  return (← shell).options.contains option

/-! ## Descriptors -/

/-- The open file behind a descriptor, by number. -/
def fileOf? (descriptor : Nat) : Act (Option Nat) := do
  return ((← shell).descriptors.find? fun (d, _) => d == descriptor).map (·.2)

def setDescriptor (descriptor : Nat) (file : Option Nat) : Act Unit :=
  modifyShell fun sh =>
    let others := sh.descriptors.filter fun (d, _) => d != descriptor
    { sh with descriptors := match file with
        | some f => (descriptor, f) :: others
        | none => others }

/-- A new open file. -/
def openFile (f : OpenFile) : Act Nat := do
  let w ← world
  modifyWorld fun w => { w with files := w.files.push f }
  return w.files.size

/-- A new pipe. -/
def openPipe : Act Nat := do
  let w ← world
  modifyWorld fun w => { w with pipes := w.pipes.push #[] }
  return w.pipes.size

def contentAt (at_ : Location) : Act (List UInt8) := do
  match (← world).volume.item? at_ with
  | some (.file content _) => return content
  | _ => return []

/-- The content with a text written over it from an offset on. -/
def overwrite (content : List UInt8) (offset : Nat) (text : List UInt8) : List UInt8 :=
  let gap := List.replicate (offset - content.length) 0
  content.take offset ++ gap ++ text ++ content.drop (offset + text.length)

/-- Writes to an open file. -/
def writeFile (number : Nat) (cs : List Char) : Act Unit := do
  match (← world).files[number]? with
  | none => pure ()
  | some f =>
    match f.place with
    | .out => modifyWorld fun w => { w with out := w.out ++ cs }
    | .err => modifyWorld fun w => { w with err := w.err ++ cs }
    | .nowhere => pure ()
    | .pipe k => modifyWorld fun w => { w with pipes := w.pipes.modify k (· ++ cs) }
    | .file at_ =>
      match (← world).volume.item? at_ with
      | some (.file content executable) =>
        let offset := if f.appends then content.length else f.offset
        let text := toBytes (String.ofList cs)
        modifyWorld fun w => { w with
          volume := w.volume.place at_ (.file (overwrite content offset text) executable)
          files := w.files.modify number fun f => { f with offset := offset + text.length } }
      | _ => pure ()

/-- Writes to a descriptor; false when it is closed. -/
def write (descriptor : Nat) (cs : List Char) : Act Bool := do
  match ← fileOf? descriptor with
  | some f => writeFile f cs; return true
  | none => return false

/-- All that is left to read from a descriptor. -/
def readRest (descriptor : Nat) : Act (List Char) := do
  match ← fileOf? descriptor with
  | none => return []
  | some number =>
    match (← world).files[number]? with
    | none => return []
    | some f =>
      let content ← match f.place with
        | .pipe k => do pure (((← world).pipes[k]?.getD #[]).toList)
        | .file at_ => do pure ((ofBytes (← contentAt at_)).toList)
        | _ => pure []
      return content.drop f.offset

/-- Passes over so many characters of what is left to read. -/
def skipRead (descriptor count : Nat) : Act Unit := do
  match ← fileOf? descriptor with
  | none => pure ()
  | some number => modifyWorld fun w =>
      { w with files := w.files.modify number fun f => { f with offset := f.offset + count } }

/-! ## Complaints -/

/-- Writes a complaint of the shell. -/
def complain (text : String) : Act Unit := do
  let sh ← shell
  let subject := match sh.command with
    | some c => c ++ ": "
    | none => ""
  let line := sh.name ++ ": " ++ Nat.repr sh.line ++ ": " ++ subject ++ text ++ "\n"
  let _ ← write 2 line.toList

/-- A mistake: a complaint, and the shell or the builtin command ends with status 2. -/
def fail {α : Type} (text : String) : Act α := do
  complain text
  setStatus 2
  throw .fault

/-! ## Variables -/

def binding? (name : String) : Act (Option Variable) := do
  return (← shell).bindings.get? name

def value? (name : String) : Act (Option String) := do
  return (← binding? name).bind (·.value)

/-- Sets a variable, unless it is fixed. -/
def assign (name value : String) : Act Unit := do
  let old := (← binding? name).getD { value := none }
  if old.fixed then fail (name ++ ": is read only")
  else
    let exported := old.exported || (← isOn 'a')
    modifyShell fun sh => { sh with
      bindings := sh.bindings.put name { old with value := some value, exported := exported } }

def setVariable (name : String) (v : Option Variable) : Act Unit :=
  modifyShell fun sh => { sh with bindings := match v with
    | some v => sh.bindings.put name v
    | none => sh.bindings.filter fun (k, _) => k != name }

/-- The characters that cut fields. -/
def separators : Act (List Char) := do
  return ((← value? "IFS").getD " \t\n").toList

/-- The variables that programs get to see. -/
def environment : Act (Entries String) := do
  return (← shell).bindings.filterMap fun (k, v) =>
    if v.exported then v.value.map fun s => (k, s) else none

end Act

end BundleBuild.Shell
