/-
Option sets for the compiler: six settings, compile-time defines and extra flags. Changing one
gives a new option set. Settings come from checked data, but a customizer may put any datum in
their place, so they are kept as data.
-/
import BundleBuild.Form

namespace BundleBuild

/-- Why a define or a flag cannot be set or listed. -/
inductive OptionFlaw where
  /-- A define without a name. -/
  | namelessDefine
  /-- Nothing can be set in a datum of this kind. -/
  | notMapping (kind : String)
  /-- A datum of this kind has nothing to list. -/
  | noEntries (kind : String)
  deriving DecidableEq, Repr

/-- Named data, or another datum that a customizer has put in their place. -/
inductive NamedData where
  | entries (es : Entries Datum)
  | stray (d : Datum)

namespace NamedData

/-- The named data. -/
def list : NamedData → Except OptionFlaw (Entries Datum)
  | .entries es => .ok es
  | .stray d => .error (.noEntries d.kind)

/-- The named data with one more. -/
def put (name : String) (value : Datum) : NamedData → Except OptionFlaw NamedData
  | .entries es => .ok (.entries (es.put name value))
  | .stray d => .error (.notMapping d.kind)

def get? (name : String) : NamedData → Option Datum
  | .entries es => es.get? name
  | .stray _ => none

end NamedData

structure Options where
  entrySymbol : Datum
  compilationLevel : Datum := .text "ADVANCED"
  environment : Datum := .text "CUSTOM"
  languageIn : Datum := .text "ECMASCRIPT_2017"
  languageOut : Datum := .text "ECMASCRIPT5"
  dependencyMode : Datum := .text "PRUNE"
  defines : NamedData := .entries []
  flags : NamedData := .entries []

/-- The define that holds the platform's word in every bundle. -/
def platformNameDefine : String := "app.platform.NAME"

/-- The define that switches debug code on. -/
def debugDefine : String := "goog.DEBUG"

/-- A datum as named data; the keys of a map are texts. -/
def NamedData.ofDatum : Datum → NamedData
  | .map r => .entries (Entries.ofList (r.filterMap fun (k, v) => k.text?.map fun s => (s, v)))
  | d => .stray d

namespace Options

/-- The options with one more define, which needs a name. -/
def withDefine (name : String) (value : Datum) (o : Options) : Except OptionFlaw Options :=
  if name.isEmpty then .error .namelessDefine
  else (o.defines.put name value).map fun defines => { o with defines := defines }

def withFlag (name : String) (value : Datum) (o : Options) : Except OptionFlaw Options :=
  (o.flags.put name value).map fun flags => { o with flags := flags }

/-- The options with a field replaced, unchecked. Names of no field change nothing. -/
def replace (field : String) (value : Datum) (o : Options) : Options :=
  match field with
  | "entry_symbol" => { o with entrySymbol := value }
  | "compilation_level" => { o with compilationLevel := value }
  | "environment" => { o with environment := value }
  | "language_in" => { o with languageIn := value }
  | "language_out" => { o with languageOut := value }
  | "dependency_mode" => { o with dependencyMode := value }
  | "defines" => { o with defines := .ofDatum value }
  | "flags" => { o with flags := .ofDatum value }
  | _ => o

/-- Setting a field in place, which no option set allows. -/
def assign (_ : Options) (field : String) (_ : Datum) : Checked Options :=
  Checked.under field (Checked.flawed .frozen)

/-! ## Options from data -/

def levels : List String := ["BUNDLE", "WHITESPACE_ONLY", "SIMPLE", "ADVANCED"]

def environments : List String := ["BROWSER", "CUSTOM"]

def dependencyModes : List String := ["NONE", "SORT_ONLY", "PRUNE_LEGACY", "PRUNE"]

/-- A define is a text, a truth value, a whole number or a double, and stays what it is. What is
none of them fails as each. -/
def checkDefine : Datum → Checked Datum
  | .bool b => .ok (.bool b)
  | .int n => .ok (.int n)
  | .float x => .ok (.float x)
  | d => match checkText d with
    | .ok s => .ok (.text s)
    | .error ps => .error (
        (ps.map fun p => { p with path := "str" :: p.path }) ++
        problemsUnder "bool" (checkTruth d) ++
        problemsUnder "int" (checkInteger d) ++
        problemsUnder "float" (checkNumber d))
where
  problemsUnder {α : Type} (step : String) (x : Checked α) : List Problem :=
    match Checked.under step x with
    | .ok _ => []
    | .error ps => ps

/-- Every entry, each under its key. -/
def checkEachEntry (check : Datum → Checked Datum) : RawRecord → Checked (List (String × Datum))
  | [] => .ok []
  | (k, d) :: rest =>
    (Checked.both (Checked.under (keyName k) (check d)) (checkEachEntry check rest)).map
      fun (v, es) => (k.text?.getD (keyName k), v) :: es

/-- A map of named data. -/
def checkEntries (check : Datum → Checked Datum) : Datum → Checked (Entries Datum)
  | .map r => (checkEachEntry check r).map Entries.ofList
  | _ => Checked.flawed .notMap

def checkFlag (d : Datum) : Checked Datum :=
  (checkText d).map .text

def fieldNames : List String :=
  ["entry_symbol", "compilation_level", "environment", "language_in", "language_out",
    "dependency_mode", "defines", "flags"]

def checkFields (r : RawRecord) : Checked Options :=
  let among (choices : List String) (d : Datum) : Checked Datum := (checkAmong choices d).map .text
  let plain (d : Datum) : Checked Datum := (checkText d).map .text
  let absent : Options := { entrySymbol := .null }
  let head := Checked.both
    (field r "entry_symbol" fun d => (checkName d).map .text)
    (Checked.both
      (fieldOr r "compilation_level" (among levels) absent.compilationLevel)
      (fieldOr r "environment" (among environments) absent.environment))
  let middle := Checked.both
    (fieldOr r "language_in" plain absent.languageIn)
    (Checked.both
      (fieldOr r "language_out" plain absent.languageOut)
      (fieldOr r "dependency_mode" (among dependencyModes) absent.dependencyMode))
  let tables := Checked.both
    (fieldOr r "defines" (checkEntries checkDefine) [])
    (fieldOr r "flags" (checkEntries checkFlag) [])
  (Checked.both head (Checked.both middle tables)).map
    fun ((entry, level, env), (lin, lout, mode), (defines, flags)) =>
      ⟨entry, level, env, lin, lout, mode, .entries defines, .entries flags⟩

/-- An option set from data. -/
def check : Datum → Checked Options :=
  checkRecord "CompilerOptions" fieldNames checkFields

/-- The options every bundle of a platform starts with. Test bundles have debug code switched
on. -/
def ofPlatform (p : Platform) (entrySymbol : String) : Options :=
  { entrySymbol := .text entrySymbol
    environment := .text (if p = .browser then "BROWSER" else "CUSTOM")
    defines := .entries [
      (platformNameDefine, .text p.dirName),
      (debugDefine, .bool (entrySymbol == EntryPoint.testMain.symbol))] }

/-- The starting options for a platform and an entry symbol, which has to be a text that is not
empty. -/
def default (p : Platform) (entrySymbol : Datum) : Checked Options :=
  (Checked.under "entry_symbol" (checkName entrySymbol)).map (ofPlatform p)

end Options

end BundleBuild
