/-
Moments as records take them: a day and a time of day in one text, a day alone, or a count of
seconds since the start of 1970, in a text or as a number. A large count is one of milliseconds.
-/
import BundleBuild.Calendar
import BundleBuild.Number.Numeral

namespace BundleBuild

/-- Why a datum names no moment. -/
inductive InstantFlaw where
  | tooShort
  | extraCharacters
  | separator
  | yearCharacter
  | monthCharacter
  | dayCharacter
  | monthRange
  | dayRange
  | tooEarly
  | tooLate
  | notNumber
  /-- A moment of the year zero, which no calendar has. -/
  | yearZero
  deriving DecidableEq, Repr

def InstantFlaw.message : InstantFlaw → String
  | .tooShort => "input is too short"
  | .extraCharacters => "unexpected extra characters at the end of the input"
  | .separator => "invalid date separator, expected `-`"
  | .yearCharacter => "invalid character in year"
  | .monthCharacter => "invalid character in month"
  | .dayCharacter => "invalid character in day"
  | .monthRange => "month value is outside expected range of 1-12"
  | .dayRange => "day value is outside expected range"
  | .tooEarly => "dates before 0000 are not supported as unix timestamps"
  | .tooLate => "dates after 9999 are not supported as unix timestamps"
  | .notNumber => "NaN values not permitted"
  | .yearZero => "year 0 is out of range"

/-! ## Counts of seconds -/

/-- Counts beyond this one are of milliseconds. -/
def millisecondsFrom : Int := 20000000000

/-- The first second of the year zero. -/
def firstSecond : Int := -62167219200

/-- The first second of the year one. -/
def firstOfYearOne : Int := -62135596800

/-- The last second of the year 9999. -/
def lastSecond : Int := 253402300799

/-- Whether a count names a moment. -/
def checkCount (n : Int) : Except InstantFlaw Unit :=
  if -millisecondsFrom ≤ n && n ≤ millisecondsFrom then .ok ()
  else
    let second := n.fdiv 1000
    if second < firstSecond then .error .tooEarly
    else if second < firstOfYearOne then .error .yearZero
    else if lastSecond < second then .error .tooLate
    else .ok ()

/-- The greatest whole number not above `m · 2 ^ q`, negated when `negative`. -/
def floorOf (negative : Bool) (m : Nat) (q : Int) : Int :=
  let signed : Int := if negative then -(m : Int) else m
  if 0 ≤ q then signed * (Nat.pow 2 q.natAbs : Nat)
  else signed.fdiv (Nat.pow 2 q.natAbs : Nat)

/-- Whether a double counts to a moment. -/
def checkDoubleCount (x : Float) : Except InstantFlaw Unit :=
  match viewDouble x with
  | .nan => .error .notNumber
  | .infinite negative => .error (if negative then .tooEarly else .tooLate)
  | .finite negative m q => checkCount (floorOf negative m q)

/-! ## Texts -/

def isDigitByte (b : UInt8) : Bool :=
  48 ≤ b.toNat && b.toNat ≤ 57

def bytesValue (bs : List UInt8) : Nat :=
  bs.foldl (fun n b => n * 10 + (b.toNat - 48)) 0

/-- A number of `n` digits at the front, and what follows. -/
def takeNumber? (n : Nat) (bs : List UInt8) : Option (Nat × List UInt8) :=
  let ds := bs.take n
  if ds.length = n && ds.all isDigitByte then some (bytesValue ds, bs.drop n) else none

/-- The hyphen at the front of the bytes. -/
def takeHyphen : List UInt8 → Except InstantFlaw (List UInt8)
  | 45 :: rest => .ok rest
  | _ => .error .separator

/-- The number at the front, or a flaw. -/
def takeNumber (n : Nat) (flaw : InstantFlaw) (bs : List UInt8) :
    Except InstantFlaw (Nat × List UInt8) :=
  match takeNumber? n bs with
  | some r => .ok r
  | none => .error flaw

/-- A day at the front, and what follows. -/
def takeDay (bs : List UInt8) : Except InstantFlaw (Date × List UInt8) := do
  if bs.length < 10 then .error .tooShort
  else
    let (year, rest) ← takeNumber 4 .yearCharacter bs
    let rest ← takeHyphen rest
    let (month, rest) ← takeNumber 2 .monthCharacter rest
    let rest ← takeHyphen rest
    let (day, rest) ← takeNumber 2 .dayCharacter rest
    if month = 0 || 12 < month then .error .monthRange
    else if day = 0 || daysIn year month < day then .error .dayRange
    else return (⟨year, month, day⟩, rest)

/-- Hours and minutes of an offset, a colon between them allowed; less than a day. -/
def isOffset (bs : List UInt8) : Bool :=
  match takeNumber? 2 bs with
  | none => false
  | some (hours, rest) =>
    let rest := match rest with
      | 58 :: more => more
      | _ => rest
    match takeNumber? 2 rest with
    | some (minutes, []) => minutes < 60 && hours < 24
    | _ => false

/-- The end of a time of day: nothing, the letter for universal time, or an offset behind a plus
sign, a hyphen or a minus sign. -/
def isZone : List UInt8 → Bool
  | [] => true
  | [90] => true
  | [122] => true
  | 226 :: 136 :: 146 :: rest => isOffset rest
  | sign :: rest => (sign = 43 || sign = 45) && isOffset rest

/-- Behind the minutes of a time of day: seconds, a fraction and a zone. -/
def isClockEnd : List UInt8 → Bool
  | 58 :: rest =>
    match takeNumber? 2 rest with
    | none => false
    | some (seconds, rest) => seconds < 60 && match rest with
      | mark :: more =>
        if mark = 46 || mark = 44 then
          let fraction := more.takeWhile isDigitByte
          !fraction.isEmpty && isZone (more.drop fraction.length)
        else isZone rest
      | [] => true
  | rest => isZone rest

/-- Hours and minutes, and what may follow them. -/
def isClock (bs : List UInt8) : Bool :=
  match takeNumber? 2 bs with
  | some (hours, 58 :: rest) => hours < 24 && match takeNumber? 2 rest with
    | some (minutes, rest) => minutes < 60 && isClockEnd rest
    | none => false
  | _ => false

/-- A day with a time of day. -/
def dayWithClock? (bs : List UInt8) : Option Date :=
  match takeDay bs with
  | .ok (day, sep :: rest) =>
    if (sep = 84 || sep = 116 || sep = 32 || sep = 95) && isClock rest then some day else none
  | _ => none

/-- Whether the calendar has the day. -/
def checkYear (day : Date) : Except InstantFlaw Unit :=
  if day.year = 0 then .error .yearZero else .ok ()

/-- A count that a text spells. -/
inductive SpelledCount where
  | whole (n : Int)
  | decimal (x : Float)

def SpelledCount.check : SpelledCount → Except InstantFlaw Unit
  | .whole n => checkCount n
  | .decimal x => checkDoubleCount x

/-- The count a text spells: digits after an optional sign, or a decimal with a point. -/
def countOf? (bs : List UInt8) : Option SpelledCount :=
  let (negative, body) := match bs with
    | 45 :: rest => (true, rest)
    | 43 :: rest => (false, rest)
    | _ => (false, bs)
  let ds := body.takeWhile isDigitByte
  let n : Int := if negative then -(bytesValue ds : Int) else bytesValue ds
  if 9223372036854775807 < bytesValue ds then none
  else match body.drop ds.length with
    | [] => if ds.isEmpty then none else some (.whole n)
    | 46 :: places =>
      if places.contains 95 then none
      else (readSigned? (bs.map fun b => Char.ofNat b.toNat)).map .decimal
    | _ => none

/-- A day alone, or a count of the seconds up to the start of one. -/
def checkDay (bs : List UInt8) : Except InstantFlaw Unit :=
  let day : Except InstantFlaw Unit := match takeDay bs with
    | .ok (day, []) => checkYear day
    | .ok _ => .error .extraCharacters
    | .error e => .error e
  match day, countOf? bs with
  | .error _, some (.whole n) => checkCount n
  | r, _ => r

/-- Whether a text names a moment. What is wrong with a text that names none is what is wrong
with it as a day. -/
def checkInstantText (bs : List UInt8) : Except InstantFlaw Unit :=
  match dayWithClock? bs with
  | some day => checkYear day
  | none => match (countOf? bs).map SpelledCount.check with
    | some (.ok ()) => .ok ()
    | some (.error .yearZero) => .error .yearZero
    | _ => checkDay bs

end BundleBuild
