/-
The values of tagged scalars. A text that spells no value of its tag is an error of the document
or of the value, as each reader says.
-/
import BundleBuild.Text.Casing
import BundleBuild.Number.Spelling
import BundleBuild.Datum
import BundleBuild.Yaml.Tag
import BundleBuild.Yaml.Token

namespace BundleBuild.Yaml

abbrev Valued := Except DocumentError Datum

/-- The text spells a value that does not exist. -/
def valueless {α : Type} (kind text : String) : Except DocumentError α :=
  .error (.valueless kind text)

/-! ## Numbers -/

/-- The text without underscores. -/
def withoutJoiners (ps : Points) : Points :=
  ps.filter (· ≠ 95)

/-- A leading sign and what follows it. -/
def splitSignPoint : Points → Bool × Points
  | 45 :: rest => (true, rest)
  | 43 :: rest => (false, rest)
  | ps => (false, ps)

/-- The text cut at colons. -/
def pointsAtColons (ps : Points) : List Points :=
  ps.foldr (fun n pieces => if n = 58 then [] :: pieces
    else match pieces with
      | [] => [[n]]
      | p :: rest => (n :: p) :: rest) [[]]

/-- A whole number in a base. -/
def readBase (base : Nat) (ps : Points) : Except DocumentError Int :=
  match readInt base ps with
  | .ok n => .ok n
  | .error e => valueless "ValueError" (e.message base ps)

/-- Places of sixty, the first one counting most. -/
def sixties (digits : List Int) : Int :=
  digits.foldl (fun acc d => acc * 60 + d) 0

def readMagnitude (body : Points) : Except DocumentError Int :=
  if body = points "0" then .ok 0
  else if (points "0b").isPrefixOf body then readBase 2 (body.drop 2)
  else if (points "0x").isPrefixOf body then readBase 16 (body.drop 2)
  else if (points "0").isPrefixOf body then readBase 8 body
  else if body.isEmpty then valueless "IndexError" "string index out of range"
  else if body.contains 58 then (pointsAtColons body).mapM (readBase 10) |>.map sixties
  else readBase 10 body

/-- A whole number. -/
def intValue (text : Points) : Except DocumentError Int := do
  let (negative, body) := splitSignPoint (withoutJoiners text)
  let n ← readMagnitude body
  return if negative then -n else n

def readDecimal (ps : Points) : Except DocumentError Float :=
  match readDoublePoints? ps with
  | some x => .ok x
  | none => valueless "ValueError" ("could not convert string to float: " ++ quotePoints ps)

/-- Places of sixty added up from the last one on; `base` is what the next one counts. -/
def addSixties (sum : Float) (base : Nat) : List Float → Except DocumentError Float
  | [] => .ok sum
  | d :: rest =>
    let unit := doubleOfInt base
    if (viewDouble unit).isFinite then addSixties (sum + d * unit) (base * 60) rest
    else valueless "OverflowError" "int too large to convert to float"

/-- A decimal. -/
def floatValue (text : Points) : Except DocumentError Float := do
  let (negative, body) := splitSignPoint (lowerPoints (withoutJoiners text))
  let x ←
    if body.isEmpty && (withoutJoiners text).isEmpty then
      valueless "IndexError" "string index out of range"
    else if body = points ".inf" then pure (infiniteDouble false)
    else if body = points ".nan" then pure nanDouble
    else if body.contains 58 then do
      let digits ← (pointsAtColons body).mapM readDecimal
      addSixties 0.0 1 digits.reverse
    else readDecimal body
  return if negative then -x else x

/-! ## Days and moments -/

def makeDate (year month day : Nat) : Except DocumentError Date :=
  if year = 0 then valueless "ValueError" "year 0 is out of range"
  else if month = 0 || 12 < month then valueless "ValueError" "month must be in 1..12"
  else if day = 0 || daysIn year month < day then
    valueless "ValueError" "day is out of range for month"
  else .ok ⟨year, month, day⟩

/-- A span of minutes, in days and seconds. -/
def quoteSpan (minutes : Int) : String :=
  let days := minutes.fdiv 1440
  let seconds := minutes.fmod 1440 * 60
  let parts := (if days = 0 then [] else ["days=" ++ writeInt days]) ++
    (if seconds = 0 then [] else ["seconds=" ++ writeInt seconds])
  "datetime.timedelta(" ++ (if parts.isEmpty then "0" else ", ".intercalate parts) ++ ")"

/-- An offset has to be less than a day. -/
def makeOffset (sign : Char) (hours minutes : List Char) : Except DocumentError Int :=
  let total : Int := digitsValue 10 hours * 60 + digitsValue 10 minutes
  let offset := if sign = '-' then -total else total
  if total < 1440 then .ok offset
  else valueless "ValueError" ("offset must be a timedelta strictly between " ++
    "-timedelta(hours=24) and timedelta(hours=24), not " ++ quoteSpan offset ++ ".")

/-- Six places of a fraction of a second. -/
def microseconds (fraction : List Char) : Nat :=
  digitsValue 10 ((fraction ++ ['0', '0', '0', '0', '0', '0']).take 6)

def makeMoment (year month day : Nat) (m : MomentText) : Except DocumentError Moment := do
  let offset ← match m.zone with
    | none => pure none
    | some none => pure (some 0)
    | some (some (sign, hours, minutes)) => (makeOffset sign hours minutes).map some
  let date ← makeDate year month day
  let hour := digitsValue 10 m.hour
  let minute := digitsValue 10 m.minute
  let second := digitsValue 10 m.second
  if 23 < hour then valueless "ValueError" "hour must be in 0..23"
  else if 59 < minute then valueless "ValueError" "minute must be in 0..59"
  else if 59 < second then valueless "ValueError" "second must be in 0..59"
  else return ⟨date, hour, minute, second, microseconds m.fraction, offset⟩

/-- A day or a moment; a line feed at the end of its text makes no difference. -/
def timestampValue (text : Points) : Valued :=
  match text.text? >>= fun s => readTimestamp? (dropLineFeed s.toList) with
  | none => valueless "AttributeError" "'NoneType' object has no attribute 'groupdict'"
  | some t =>
    let year := digitsValue 10 t.year
    let month := digitsValue 10 t.month
    let day := digitsValue 10 t.day
    match t.moment with
    | none => (makeDate year month day).map .date
    | some m => (makeMoment year month day m).map .moment

/-! ## Bytes -/

/-- The six bits a character of the base-64 alphabet stands for. -/
def sixBits? (c : Char) : Option Nat :=
  let n := c.toNat
  if 'A' ≤ c && c ≤ 'Z' then some (n - 65)
  else if 'a' ≤ c && c ≤ 'z' then some (n - 71)
  else if '0' ≤ c && c ≤ '9' then some (n + 4)
  else if c = '+' then some 62
  else if c = '/' then some 63
  else none

/-- The bytes of base-64 text. `place` counts the characters of the current four, `carry` holds
the bits not yet used, `pads` the padding characters in a row. Other characters are passed over. -/
def readBase64 (place carry pads : Nat) : List Char → Option (List UInt8)
  | [] => if place = 0 then some [] else none
  | c :: rest =>
    if c = '=' then
      if 2 ≤ place && 4 ≤ place + pads + 1 then some []
      else readBase64 place carry (if 2 ≤ place then pads + 1 else pads) rest
    else match sixBits? c with
      | none => readBase64 place carry pads rest
      | some v =>
        match place with
        | 0 => readBase64 1 v 0 rest
        | 1 => (readBase64 2 (v % 16) 0 rest).map (UInt8.ofNat (carry * 4 + v / 16) :: ·)
        | 2 => (readBase64 3 (v % 4) 0 rest).map (UInt8.ofNat (carry * 16 + v / 4) :: ·)
        | _ => (readBase64 0 0 0 rest).map (UInt8.ofNat (carry * 64 + v) :: ·)

def binaryValue (text : Points) : Valued :=
  if text.all (· < 128) then
    match readBase64 0 0 0 (text.map Char.ofNat) with
    | some bs => .ok (.bytes bs)
    | none => .error .malformed
  else .error .malformed

/-! ## Scalars -/

/-- A text, which may be none proper. -/
def textDatum (text : Points) : Datum :=
  match text.text? with
  | some s => .text s
  | none => .unpaired text

def boolValue (text : Points) : Valued :=
  let word := lowerPoints text
  match word.text? >>= truthWord? with
  | some b => .ok (.bool b)
  | none => valueless "KeyError" (quotePoints word)

/-- The value of a scalar. -/
def scalarValue (tag : Tag) (text : Points) : Valued :=
  match tag with
  | .null => .ok .null
  | .bool => boolValue text
  | .int => (intValue text).map .int
  | .float => (floatValue text).map .float
  | .binary => binaryValue text
  | .timestamp => timestampValue text
  | .str => .ok (textDatum text)
  | _ => .error .malformed

end BundleBuild.Yaml
