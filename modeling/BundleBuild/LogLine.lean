/-
The log as it is printed. A threshold keeps the less serious notices out; each notice is printed for
people, with its level, its event, its logger and its fields in order of their names, or for
machines as one object. Some names of fields have a meaning of their own.
-/
import BundleBuild.Text.Order
import BundleBuild.Text.Json
import BundleBuild.Text.Casing
import BundleBuild.Journal

namespace BundleBuild

/-- The least serious level that is printed, as a number. -/
abbrev Threshold := Nat

/-- The form of a line when none is asked for; it goes by a name like those of the levels. -/
def basicForm : String := "%(levelname)s:%(name)s:%(message)s"

/-- The styles a form can be written in; they go by a name like those of the levels. -/
def formStyles : String :=
  "\x7b'%': (<class 'logging.PercentStyle'>, " ++ quoteText basicForm ++
  "), '\x7b': (<class 'logging.StrFormatStyle'>, " ++
  "'\x7blevelname\x7d:\x7bname\x7d:\x7bmessage\x7d'), " ++
  "'$': (<class 'logging.StringTemplateStyle'>, " ++
  "'$\x7blevelname\x7d:$\x7bname\x7d:$\x7bmessage\x7d')\x7d"

/-- The number of a level name in capitals. -/
def thresholdOf (name : String) : Except Trouble Threshold :=
  match name with
  | "NOTSET" => .ok 0
  | "DEBUG" => .ok 10
  | "INFO" => .ok 20
  | "WARNING" => .ok 30
  | "WARN" => .ok 30
  | "ERROR" => .ok 40
  | "CRITICAL" => .ok 50
  | "FATAL" => .ok 50
  | "BASIC_FORMAT" => .error (.badLevel "ValueError" ("Unknown level: " ++ quoteText basicForm))
  | "_STYLES" => .error (.badLevel "TypeError"
      ("Level not an integer or a valid string: " ++ formStyles))
  | _ => .error (.unknownLevel name)

/-- How a program is asked to print its log. -/
structure LogSettings where
  level : Datum := .text "INFO"
  asObjects : Bool := false
  timestamps : Bool := true

/-- The threshold asked for, in any case. -/
def LogSettings.threshold (s : LogSettings) : Except Trouble Threshold :=
  match s.level.text? with
  | some name => thresholdOf (upperText name)
  | none => .error (.lacks s.level.kind "upper")

/-- The notices serious enough to be printed. -/
def printedNotices (threshold : Threshold) (rs : List Record) : List Notice :=
  (notices rs).filter fun n => threshold ≤ n.level.rank

/-! ## Fields with a meaning of their own -/

/-- Text that is printed on lines of its own has to be text. -/
def textTrouble? : Option Datum → Option Trouble
  | some .null => none
  | some d =>
    if d.text?.isSome then none
    else some (.misfit ("can only concatenate str (not \"" ++ d.kind ++ "\") to str"))
  | none => none

/-- Why a notice with these fields cannot be printed. -/
def LogSettings.fieldTrouble? (s : LogSettings) (fields : Entries Datum) : Option Trouble :=
  match (fields.get? "_record").getD .null with
  | .null =>
    if s.asObjects then none
    else (textTrouble? (fields.get? "stack")).or (textTrouble? (fields.get? "exception"))
  | d => some (.lacks d.kind "name")

/-- A span whose notices are printed; one that cannot be printed ends it before it starts. -/
def LogSettings.span {α : Type} (s : LogSettings) (settled : Bool) (name : String)
    (attributes : Entries Datum) (body : Logged α) : Logged α :=
  match s.fieldTrouble? attributes with
  | some t => Logged.fail t
  | none => Logged.spanOf settled name attributes body

/-- The fields of a notice as they are printed. Its level and its logger win over fields of those
names, and so does the time if it is told. -/
def Notice.entries (time : Option Datum) (n : Notice) : Entries Datum :=
  let given : Entries Datum := n.fields.filter fun (name, _) => name ≠ "stack_info" && name ≠ "exc_info"
  let timed := match time with
    | some t => given.put "timestamp" t
    | none => given
  (timed.put "level" (.text n.level.name)).put "logger" (.text n.channel.name)

/-! ## Lines for people -/

/-- The value of a field: texts with blanks, quotes or an equals sign are quoted. -/
def fieldText : Datum → String
  | .text s =>
    if s.toList.any [' ', '\t', '=', '\r', '\n', '"', '\''].contains then quoteText s else s
  | d => d.quoted

/-- The text filled up with blanks to a width. -/
def fillTo (width : Nat) (s : String) : String :=
  s ++ String.ofList (List.replicate (width - s.length) ' ')

/-- The names of the fields that have a place of their own. -/
def placedNames : List String :=
  ["timestamp", "level", "event", "logger", "logger_name", "stack", "exception"]

/-- The text of a notice; a stack and an exception follow on lines of their own. -/
def Notice.text (n : Notice) : String :=
  let all := n.entries none
  let brackets (s : String) := "[" ++ s ++ "]"
  let placed (name : String) (form : String → String) : List String :=
    ((all.get? name).map fun d => form d.plain).toList
  let fields := (sortByName (all.filter fun (name, _) => !placedNames.contains name)).map
    fun (name, value) => name ++ "=" ++ fieldText value
  let line := " ".intercalate (placed "timestamp" id ++ placed "level" (brackets ∘ fillTo 9) ++
    [fillTo 30 n.event] ++ placed "logger" brackets ++ placed "logger_name" brackets ++ fields)
  let stack := (all.get? "stack").bind Datum.text?
  let exception := (all.get? "exception").bind Datum.text?
  let divider := if stack.isSome && exception.isSome
    then "\n\n" ++ String.ofList (List.replicate 79 '=') ++ "\n" else ""
  let below (s : Option String) : String := (s.map ("\n" ++ ·)).getD ""
  line ++ below stack ++ divider ++ below exception

/-- The text without the codes that change the colour. -/
def dropColours : List Char → List Char
  | '\x1b' :: '[' :: rest =>
    match _h : rest.dropWhile fun c => c.isDigit || c = ';' with
    | 'm' :: after => dropColours after
    | _ => '\x1b' :: '[' :: dropColours rest
  | c :: rest => c :: dropColours rest
  | [] => []
termination_by cs => cs.length
decreasing_by
  · have shorter := (List.dropWhile_suffix (l := rest) fun c => c.isDigit || c = ';').length_le
    rw [_h] at shorter
    simp only [List.length_cons] at shorter ⊢
    omega
  · simp only [List.length_cons]
    omega
  · simp

/-- Characters that end a line; a carriage return with its line feed is one end. -/
def breakLines : List Char → List Char
  | '\r' :: '\n' :: rest => '\n' :: breakLines rest
  | c :: rest =>
    (if isAmong [(0xA, 0xD), (0x1C, 0x1E), (0x85, 0x85), (0x2028, 0x2029)] c.toNat then '\n' else c)
      :: breakLines rest
  | [] => []

/-- The lines of a text; an end at the very end begins no line. -/
def linesOf (cs : List Char) : List (List Char) :=
  match (splitChars '\n' (breakLines cs)).reverse with
  | [] :: before => before.reverse
  | all => all.reverse

/-- The lines a notice is printed as, without colours and trailing blanks. -/
def Notice.lines (n : Notice) : List String :=
  (linesOf (dropColours (n.text.toList ++ ['\n']))).map fun line =>
    String.ofList (line.reverse.dropWhile isBlank).reverse

/-! ## Objects for machines -/

/-- A notice as one object. -/
def Notice.object (time : Option Datum) (n : Notice) : Entries Datum :=
  (n.entries time).put "event" (.text n.event)

/-- A notice as the text of one object. -/
def Notice.objectLine (time : Option Datum) (n : Notice) : String :=
  jsonObject ((n.object time).map fun (name, value) => (name, value.json))

end BundleBuild
