/-
Tags of YAML nodes, and the tag a plain scalar has by the look of its text: truth words, whole
numbers in four bases and in minutes and seconds, decimals with a point, days and moments, null.
-/
import BundleBuild.Number.Numeral

namespace BundleBuild.Yaml

inductive Tag where
  | null
  | bool
  | int
  | float
  | binary
  | timestamp
  | omap
  | pairs
  | set
  | str
  | seq
  | map
  | merge
  | value
  | other
  deriving DecidableEq, Repr

/-- The start of the names of the standard tags. -/
def standardStart : String := "tag:yaml.org,2002:"

/-- The tag of a full name. -/
def Tag.ofName (name : String) : Tag :=
  let known : List (String × Tag) := [
    ("null", .null), ("bool", .bool), ("int", .int), ("float", .float), ("binary", .binary),
    ("timestamp", .timestamp), ("omap", .omap), ("pairs", .pairs), ("set", .set), ("str", .str),
    ("seq", .seq), ("map", .map), ("merge", .merge), ("value", .value)]
  match known.find? fun (word, _) => standardStart ++ word == name with
  | some (_, t) => t
  | none => .other

/-! ## The look of numbers -/

def isDigitOrJoiner (c : Char) : Bool :=
  isDigit c || c = '_'

/-- At least one character, all of a class. -/
def isRun (p : Char → Bool) (cs : List Char) : Bool :=
  !cs.isEmpty && cs.all p

/-- A digit, and after it digits and underscores. -/
def isCount (cs : List Char) : Bool :=
  match cs with
  | c :: rest => isDigit c && rest.all isDigitOrJoiner
  | [] => false

/-- The same, not starting with a zero. -/
def isPositiveCount (cs : List Char) : Bool :=
  isCount cs && cs.head? ≠ some '0'

/-- Minutes or seconds: one digit, or two of which the first is at most five. -/
def isSixty : List Char → Bool
  | [a] => isDigit a
  | [a, b] => '0' ≤ a && a ≤ '5' && isDigit b
  | _ => false

/-- The text cut at colons. -/
def atColons (cs : List Char) : List (List Char) :=
  cs.foldr (fun c pieces => if c = ':' then [] :: pieces
    else match pieces with
      | [] => [[c]]
      | p :: ps => (c :: p) :: ps) [[]]

def looksInt (cs : List Char) : Bool :=
  let body := (splitSign cs).2
  match body with
  | '0' :: 'b' :: ds => isRun (fun c => c = '0' || c = '1' || c = '_') ds
  | '0' :: 'x' :: ds => isRun (fun c => (digitValue? 16 c).isSome || c = '_') ds
  | ['0'] => true
  | '0' :: ds => ds.all fun c => (digitValue? 8 c).isSome || c = '_'
  | _ => match atColons body with
    | [first] => isPositiveCount first
    | first :: rest => isPositiveCount first && rest.all isSixty
    | [] => false

/-- An exponent: its mark, a sign and digits; or nothing at all. -/
def isExponent : List Char → Bool
  | [] => true
  | e :: sign :: ds => (e = 'e' || e = 'E') && (sign = '-' || sign = '+') && isRun isDigit ds
  | _ => false

/-- The text before the first point and the text after it, if there is one. -/
def atPoint? (cs : List Char) : Option (List Char × List Char) :=
  match cs.dropWhile (· ≠ '.') with
  | _ :: after => some (cs.takeWhile (· ≠ '.'), after)
  | [] => none

def looksFloat (cs : List Char) : Bool :=
  let body := (splitSign cs).2
  let signed := body.length ≠ cs.length
  match atPoint? body with
  | none => false
  | some ([], after) =>
    [['i', 'n', 'f'], ['I', 'n', 'f'], ['I', 'N', 'F']].contains after ||
      (!signed && ([['n', 'a', 'n'], ['N', 'a', 'N'], ['N', 'A', 'N']].contains after ||
        (isCount (after.takeWhile isDigitOrJoiner) &&
          isExponent (after.dropWhile isDigitOrJoiner))))
  | some (before, after) =>
    match atColons before with
    | [first] => isCount first && isExponent (after.dropWhile isDigitOrJoiner)
    | first :: rest => isCount first && rest.all isSixty && after.all isDigitOrJoiner
    | [] => false

/-! ## Days and moments -/

/-- The parts of a moment as they are written. -/
structure MomentText where
  hour : List Char
  minute : List Char
  second : List Char
  fraction : List Char
  /-- Nothing, universal time, or an offset: its sign, hours and minutes. -/
  zone : Option (Option (Char × List Char × List Char))

structure TimestampText where
  year : List Char
  month : List Char
  day : List Char
  moment : Option MomentText

/-- From `least` to `most` digits at the front, and what follows. -/
def takeDigits? (least most : Nat) (cs : List Char) : Option (List Char × List Char) :=
  let ds := (cs.takeWhile isDigit).take most
  if least ≤ ds.length then some (ds, cs.drop ds.length) else none

def expect? (c : Char) : List Char → Option (List Char)
  | d :: rest => if d = c then some rest else none
  | [] => none

def isInlineGap (c : Char) : Bool :=
  c = ' ' || c = '\t'

/-- The zone at the end of a moment, blanks in front of it allowed. -/
def readZone? (cs : List Char) : Option (Option (Option (Char × List Char × List Char))) :=
  if cs.isEmpty then some none
  else match cs.dropWhile isInlineGap with
    | ['Z'] => some (some none)
    | sign :: rest =>
      if sign = '-' || sign = '+' then do
        let (hours, rest) ← takeDigits? 1 2 rest
        match rest with
        | [] => some (some (some (sign, hours, [])))
        | ':' :: rest => do
          let (minutes, rest) ← takeDigits? 2 2 rest
          if rest.isEmpty then some (some (some (sign, hours, minutes))) else none
        | _ => none
      else none
    | [] => none

/-- The time of day behind a day: a letter T or blanks, then the clock. -/
def readClock? (cs : List Char) : Option MomentText := do
  let rest ← match cs with
    | c :: rest =>
      if c = 'T' || c = 't' then some rest
      else if isInlineGap c then some (rest.dropWhile isInlineGap)
      else none
    | [] => none
  let (hour, rest) ← takeDigits? 1 2 rest
  let rest ← expect? ':' rest
  let (minute, rest) ← takeDigits? 2 2 rest
  let rest ← expect? ':' rest
  let (second, rest) ← takeDigits? 2 2 rest
  let (fraction, rest) := match rest with
    | '.' :: rest => (rest.takeWhile isDigit, rest.dropWhile isDigit)
    | _ => ([], rest)
  let zone ← readZone? rest
  return ⟨hour, minute, second, fraction, zone⟩

/-- A day, or a moment of one. -/
def readTimestamp? (cs : List Char) : Option TimestampText := do
  let (year, rest) ← takeDigits? 4 4 cs
  let rest ← expect? '-' rest
  let (month, rest) ← takeDigits? 1 2 rest
  let rest ← expect? '-' rest
  let (day, rest) ← takeDigits? 1 2 rest
  if rest.isEmpty then return ⟨year, month, day, none⟩
  else
    let moment ← readClock? rest
    return ⟨year, month, day, some moment⟩

/-- A day alone has two digits for its month and two for its day. -/
def looksTimestamp (cs : List Char) : Bool :=
  match readTimestamp? cs with
  | some t => t.moment.isSome || (t.month.length = 2 && t.day.length = 2)
  | none => false

/-! ## Words -/

/-- The truth value of a word in lower case. -/
def truthWord? : String → Option Bool
  | "yes" => some true
  | "no" => some false
  | "true" => some true
  | "false" => some false
  | "on" => some true
  | "off" => some false
  | _ => none

/-- A truth word in lower case, in upper case or with a capital. -/
def looksBool (s : String) : Bool :=
  ["yes", "Yes", "YES", "no", "No", "NO", "true", "True", "TRUE", "false", "False", "FALSE", "on",
    "On", "ON", "off", "Off", "OFF"].contains s

/-- The text without one line feed at its end. -/
def dropLineFeed (cs : List Char) : List Char :=
  if cs.getLast? = some '\n' then cs.dropLast else cs

/-- The tag of a scalar by the look of its text. A line feed at its end makes no difference,
unless it is all there is. -/
def Tag.ofLook (text : String) : Tag :=
  let cs := dropLineFeed text.toList
  let s := String.ofList cs
  if text = "\n" then .str
  else if looksBool s then .bool
  else if looksFloat cs then .float
  else if looksInt cs then .int
  else if s = "<<" then .merge
  else if ["~", "null", "Null", "NULL", ""].contains s then .null
  else if looksTimestamp cs then .timestamp
  else if s = "=" then .value
  else if ["!", "&", "*"].contains s then .other
  else .str

end BundleBuild.Yaml
