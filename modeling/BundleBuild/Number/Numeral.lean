/-
Numerals in plain digits: signs, runs of digits with single underscores between them, and
decimals with an optional exponent, as the number they spell.
-/
import BundleBuild.Number.Double

namespace BundleBuild

/-- The value of a digit in a base of at most thirty-six. -/
def digitValue? (base : Nat) (c : Char) : Option Nat :=
  let n := c.toNat
  let v :=
    if 48 ≤ n && n ≤ 57 then n - 48
    else if 97 ≤ n && n ≤ 122 then n - 87
    else if 65 ≤ n && n ≤ 90 then n - 55
    else 36
  if v < base then some v else none

def isDigit (c : Char) : Bool :=
  (digitValue? 10 c).isSome

/-- The number its digits spell; characters that are no digits are passed over. -/
def digitsValue (base : Nat) (cs : List Char) : Nat :=
  cs.foldl (fun acc c => match digitValue? base c with
    | some v => acc * base + v
    | none => acc) 0

/-- Digits with single underscores between them; at least one digit. -/
def isDigitRun (base : Nat) : List Char → Bool
  | [] => false
  | [c] => (digitValue? base c).isSome
  | c :: '_' :: rest => (digitValue? base c).isSome && isDigitRun base rest
  | c :: rest => (digitValue? base c).isSome && isDigitRun base rest

/-- A leading sign and what follows it. -/
def splitSign : List Char → Bool × List Char
  | '-' :: rest => (true, rest)
  | '+' :: rest => (false, rest)
  | cs => (false, cs)

def withSign (negative : Bool) (n : Nat) : Int :=
  if negative then -(n : Int) else n

/-- `digits · 10 ^ exponent` as the nearest double. An exponent that already decides the answer
is not raised to a power. -/
def doubleOfDecimal (negative : Bool) (digits : Nat) (exponent : Int) : Float :=
  let size := (Nat.toDigits 10 digits).length
  if digits = 0 then nearestDouble negative 0 1
  else if 400 < exponent + size then infiniteDouble negative
  else if exponent + size < -400 then nearestDouble negative 0 1
  else if exponent < 0 then nearestDouble negative digits (Nat.pow 10 exponent.natAbs)
  else nearestDouble negative (digits * Nat.pow 10 exponent.natAbs) 1

/-- Whole digits, optional point with more digits; digits on at least one side of the point. -/
def readMantissa? (cs : List Char) : Option (Nat × Nat) :=
  let whole := cs.takeWhile (· ≠ '.')
  match cs.dropWhile (· ≠ '.') with
  | [] => if isDigitRun 10 whole then some (digitsValue 10 whole, 0) else none
  | _ :: frac =>
    let wholeOk := whole.isEmpty || isDigitRun 10 whole
    let fracOk := frac.isEmpty || isDigitRun 10 frac
    if wholeOk && fracOk && !(whole.isEmpty && frac.isEmpty) then
      some (digitsValue 10 (whole ++ frac), (frac.filter isDigit).length)
    else none

/-- A decimal, an optional exponent. -/
def readDecimal? (negative : Bool) (cs : List Char) : Option Float :=
  let isMark (c : Char) : Bool := c = 'e' || c = 'E'
  let mantissa := cs.takeWhile fun c => !isMark c
  match readMantissa? mantissa, cs.dropWhile fun c => !isMark c with
  | some (digits, places), [] => some (doubleOfDecimal negative digits (-(places : Int)))
  | some (digits, places), _ :: e =>
    let (down, es) := splitSign e
    if isDigitRun 10 es then
      some (doubleOfDecimal negative digits (withSign down (digitsValue 10 es) - places))
    else none
  | none, _ => none

/-- A decimal, or a word for infinity or not-a-number in any case; a sign may stand in front. -/
def readSigned? (cs : List Char) : Option Float :=
  let (negative, body) := splitSign cs
  let word := String.ofList (body.map Char.toLower)
  if word = "inf" || word = "infinity" then some (infiniteDouble negative)
  else if word = "nan" then some nanDouble
  else readDecimal? negative body

end BundleBuild
