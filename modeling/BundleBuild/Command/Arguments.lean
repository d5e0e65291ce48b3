/-
The command line of one compilation: the configured words, the settings, the defines and flags in
order of their names, and the files in order. Values may hold halves of surrogate pairs, and then
the words they stand in do; such a word can be written, but no command can be handed it.
-/
import BundleBuild.Text.Order
import BundleBuild.Trouble

namespace BundleBuild

/-- A word of a command line. -/
inductive Word where
  | text (s : String)
  /-- A word with halves of surrogate pairs. -/
  | unpaired (ps : Points)
  deriving DecidableEq, Repr

/-- The word with a text in front. -/
def Word.after (front : String) : Word → Word
  | .text s => .text (front ++ s)
  | .unpaired ps => .unpaired (points front ++ ps)

/-- The form a datum takes inside a word. -/
def Datum.word : Datum → Word
  | .unpaired ps => .unpaired ps
  | d => .text d.plain

/-- A backslash in front of every occurrence of a character. -/
def escapeEvery (c : Char) (cs : List Char) : List Char :=
  cs.flatMap fun d => if d = c then ['\\', d] else [d]

/-- A text as a literal between single quotes: first every backslash is escaped, then every single
quote. -/
def textLiteral (s : String) : String :=
  "'" ++ String.ofList (escapeEvery '\'' (escapeEvery '\\' s.toList)) ++ "'"

/-- The quotes are escaped after the backslashes, so no backslash that stands before a quote is
escaped again: one pass comes to the same. -/
theorem escapeEvery_escapeEvery (cs : List Char) :
    escapeEvery '\'' (escapeEvery '\\' cs) =
      cs.flatMap fun c => if c = '\\' || c = '\'' then ['\\', c] else [c] := by
  induction cs with
  | nil => rfl
  | cons c cs ih =>
    simp only [escapeEvery, List.flatMap_cons, List.flatMap_append] at ih ⊢
    rw [ih]
    by_cases hbackslash : c = '\\'
    · simp [hbackslash]
    · by_cases hquote : c = '\''
      · simp [hquote]
      · simp [hbackslash, hquote]

/-- A backslash in front of every backslash and every single quote. -/
def escapePoints (ps : Points) : Points :=
  ps.flatMap fun n => if n = 92 || n = 39 then [92, n] else [n]

/-- The literal of a text with halves of surrogate pairs. -/
def pointsLiteral (ps : Points) : Points :=
  39 :: escapePoints ps ++ [39]

/-- The literal of a define: truth values and numbers as they are, texts in quotes. A whole number
has one unless it is too long to be written. -/
def defineLiteral : Datum → Except Trouble Word
  | .bool b => .ok (.text (if b then "true" else "false"))
  | .int n =>
    if n.natAbs < Nat.pow 10 digitLimit then .ok (.text (writeInt n))
    else .error (.raised "ValueError" longNumberMessage)
  | .float x => .ok (.text (writeDouble x))
  | .bytes _ => .error (.badLiteral "a bytes-like object is required, not 'str'")
  | .unpaired ps => .ok (.unpaired (pointsLiteral ps))
  | d => match d.text? with
    | some s => .ok (.text (textLiteral s))
    | none => .error (.noLiteral d.kind)

/-- The argument that sets a define. -/
def defineArgument (name : String) (value : Datum) : Except Trouble Word := do
  let literal ← defineLiteral value
  return literal.after ("--define=" ++ name ++ "=")

/-- Files in order, each once. -/
def sortPaths (files : List Path) : List Path :=
  files.eraseDups.mergeSort fun a b => segmentsInOrder a.parts b.parts

/-- What the compiler is asked to do: the files, the symbol to keep reachable and the options. -/
structure CompileRequest where
  files : List Path
  entrySymbol : String
  options : Options

namespace CompileRequest

def settingArguments (r : CompileRequest) : List Word := [
  r.options.compilationLevel.word.after "--compilation_level=",
  r.options.environment.word.after "--env=",
  r.options.languageIn.word.after "--language_in=",
  r.options.languageOut.word.after "--language_out=",
  r.options.dependencyMode.word.after "--dependency_mode=",
  .text ("--entry_point=goog:" ++ r.entrySymbol)]

def defineArguments (r : CompileRequest) : Except Trouble (List Word) := do
  let defines ← r.options.defines.list.mapError .badOption
  (sortByName defines).mapM fun (name, value) => defineArgument name value

def flagArguments (r : CompileRequest) : Except Trouble (List Word) := do
  let flags ← r.options.flags.list.mapError .badOption
  return (sortByName flags).map fun (name, value) => value.word.after ("--" ++ name ++ "=")

def fileArguments (r : CompileRequest) : List Word :=
  (sortPaths r.files).map fun file => .text ("--js=" ++ file.text)

/-- The whole command line. -/
def arguments (command : List String) (r : CompileRequest) : Except Trouble (List Word) := do
  let defines ← r.defineArguments
  let flags ← r.flagArguments
  return command.map .text ++ r.settingArguments ++ defines ++ flags ++ r.fileArguments

/-- The number of different files. -/
def fileCount (r : CompileRequest) : Nat :=
  r.files.eraseDups.length

end CompileRequest

end BundleBuild
