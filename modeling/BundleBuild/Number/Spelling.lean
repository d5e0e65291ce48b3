/-
Numbers spelled in texts of any script. Digits of every script and white space of every kind are
understood, a single underscore may stand between two digits, a sign in front. Whole numbers are
read in any base; one in a base that is no power of two may have 4300 digits at most.
-/
import BundleBuild.Text.Blank
import BundleBuild.Text.Digit
import BundleBuild.Text.Points
import BundleBuild.Number.Numeral

namespace BundleBuild

/-- A character of a numeral in plain ASCII; a question mark for one that no numeral has. -/
def plainPoint (n : Nat) : Char :=
  if n < 127 then Char.ofNat n
  else if isWhiteNumber n then ' '
  else match decimalDigit? n with
    | some d => Char.ofNat (48 + d)
    | none => '?'

/-- A numeral in plain ASCII. -/
def plainSpelling (ps : Points) : List Char :=
  ps.map plainPoint

/-- The white space of ASCII. -/
def isPlainWhite (c : Char) : Bool :=
  c.toNat < 128 && isWhite c

/-- Why a text is no whole number. -/
inductive NumeralFlaw where
  | unreadable
  | tooLong (digits : Nat)
  deriving DecidableEq, Repr

/-- The most digits of a numeral whose base is no power of two. -/
def digitLimit : Nat := 4300

/-- The letters that may stand between a zero and the digits of a base. -/
def baseLetters (base : Nat) : List Char :=
  match base with
  | 2 => ['b', 'B']
  | 8 => ['o', 'O']
  | 16 => ['x', 'X']
  | _ => []

/-- What follows a zero and a letter for the base, with an underscore behind them. -/
def dropBaseMark (base : Nat) : List Char → List Char
  | '0' :: c :: rest =>
    if (baseLetters base).contains c then
      match rest with
      | '_' :: rest' => rest'
      | _ => rest
    else '0' :: c :: rest
  | cs => cs

/-- A whole number in a base. -/
def readInt (base : Nat) (ps : Points) : Except NumeralFlaw Int :=
  let (negative, body) := splitSign ((plainSpelling ps).dropWhile isPlainWhite)
  let body := dropBaseMark base body
  let run := body.takeWhile fun c => (digitValue? base c).isSome || c = '_'
  let count := (run.filter (· ≠ '_')).length
  if !isDigitRun base run then .error .unreadable
  else if (baseLetters base).isEmpty && digitLimit < count then .error (.tooLong count)
  else if (body.drop run.length).all isPlainWhite then
    .ok (withSign negative (digitsValue base run))
  else .error .unreadable

/-- A whole number in base ten. -/
def readInt? (s : String) : Option Int :=
  (readInt 10 (points s)).toOption

/-- A double, or a word for one that is not finite. -/
def readDoublePoints? (ps : Points) : Option Float :=
  readSigned? (trimWhile isPlainWhite (plainSpelling ps))

def readDouble? (s : String) : Option Float :=
  readDoublePoints? (points s)

/-- What is said about a numeral that is too long. -/
def longNumeralMessage (digits : Nat) : String :=
  "Exceeds the limit (" ++ Nat.repr digitLimit ++ " digits) for integer string conversion: " ++
    "value has " ++ Nat.repr digits ++
    " digits; use sys.set_int_max_str_digits() to increase the limit"

/-- What is said about a whole number that is too long to be written. -/
def longNumberMessage : String :=
  "Exceeds the limit (" ++ Nat.repr digitLimit ++ " digits) for integer string conversion; " ++
    "use sys.set_int_max_str_digits() to increase the limit"

/-- What is said about a text that is no whole number; long texts are cut. -/
def NumeralFlaw.message (base : Nat) (ps : Points) : NumeralFlaw → String
  | .unreadable => "invalid literal for int() with base " ++ Nat.repr base ++ ": " ++
      String.ofList ((quotePoints ps).toList.take 200)
  | .tooLong digits => longNumeralMessage digits

end BundleBuild
