/-
The program on the files of this computer. The working directory is read before the run, and what
the run wrote is put back after it.
-/
import BundleBuild.Cli.Program

namespace BundleBuild

/-- The text of an absolute location. -/
def Location.text (at_ : Location) : String :=
  "/" ++ "/".intercalate at_

/-- What stands at a location and below it. Links lead to where they end; what cannot be read is
left out. -/
partial def readItems (at_ : Location) : IO (List (Location × Item)) := do
  let path ← IO.FS.realPath at_.text
  if path.toString ≠ at_.text then return [(at_, .link (Path.ofText path.toString))]
  if ← path.isDir then
    let mut items := [(at_, Item.dir)]
    for entry in ← path.readDir do
      items := items ++ (← readItems (at_ ++ [entry.fileName]))
    return items
  try
    let content ← IO.FS.readBinFile path
    return [(at_, .file content.toList true)]
  catch _ => return []

/-- The directories above a location. -/
def directoriesAbove (at_ : Location) : List (Location × Item) :=
  (List.range at_.length).tail.map fun n => (at_.take n, .dir)

def readVolume : IO Volume := do
  let home := (Path.ofText (← IO.currentDir).toString).segments
  return { items := directoriesAbove home ++ (← readItems home), home := home }

/-- Puts what is new in a volume on disk. -/
def writeChanges (before after : Volume) : IO Unit := do
  for (at_, item) in after.items do
    if before.item? at_ ≠ some item then
      match item with
      | .dir => IO.FS.createDirAll at_.text
      | .file content _ => IO.FS.writeBinFile at_.text (ByteArray.mk content.toArray)
      | .link _ => pure ()

/-- What is said about the end of a run. -/
def Cli.Ending.message? : Cli.Ending → Option String
  | .done => none
  | .usageError => some "Usage: splitbuild [OPTIONS] COMMAND [ARGS]..."
  | .refused e => some e.message
  | .crashed t => some (t.kind ++ ": " ++ t.text)

end BundleBuild

open BundleBuild in
def main (args : List String) : IO UInt32 := do
  let before ← readVolume
  let configFile ← IO.getEnv "SPLITBUILD_CONFIG"
  let columns ← IO.getEnv "COLUMNS"
  let s : Cli.Surroundings :=
    { configFile := configFile, width := (columns.bind String.toNat?).getD 80, duration := "" }
  let started ← IO.monoMsNow
  let (stage, logs) ← IO.lazyPure fun _ => Cli.start s before args
  let ended ← IO.monoMsNow
  let r := stage.finish { s with duration := Nat.repr (ended - started) }
  for n in { r with logs := logs }.notices do
    IO.eprintln (if logs.asObjects then n.objectLine none else "\n".intercalate n.lines)
  writeChanges before r.volume
  IO.print r.printed
  if let some message := r.ending.message? then IO.eprintln message
  return UInt32.ofNat r.ending.code
