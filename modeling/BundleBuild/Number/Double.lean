/-
Doubles seen exactly: a finite double is a whole number times a power of two. `viewDouble` takes
one apart, `nearestDouble` finds the double nearest to a fraction of whole numbers, and
`Float.toWhole?` reads back a double that is a whole number. All of it is arithmetic on natural
numbers.
-/

namespace BundleBuild

/-- A double taken apart; a finite one is `m · 2 ^ q`, negated when `negative`. -/
inductive DoubleView where
  | nan
  | infinite (negative : Bool)
  | finite (negative : Bool) (m : Nat) (q : Int)
  deriving DecidableEq, Repr

/-- Sign bit, eleven exponent bits, fifty-two fraction bits. -/
def viewBits (bits : Nat) : DoubleView :=
  let negative := bits / Nat.pow 2 63 % 2 = 1
  let e : Nat := bits / Nat.pow 2 52 % 2048
  let f := bits % Nat.pow 2 52
  if e = 2047 then
    if f = 0 then .infinite negative else .nan
  else if e = 0 then .finite negative f (-1074)
  else .finite negative (Nat.pow 2 52 + f) ((e : Int) - 1075)

def viewDouble (x : Float) : DoubleView :=
  viewBits x.toBits.toNat

/-- The whole number nearest to `num / den`, a half going to the even one. -/
def roundDiv (num den : Nat) : Nat :=
  let n := num / den
  let r := num % den
  if 2 * r < den then n
  else if den < 2 * r then n + 1
  else if n % 2 = 0 then n else n + 1

/-- The power of two that leaves `num / den` a significand of fifty-three bits, held above the
least exponent a double has. -/
def scaleOf (num den : Nat) : Int :=
  let guess : Int := (num.log2 : Int) - (den.log2 : Int) - 52
  let num' := if guess < 0 then num * Nat.pow 2 guess.natAbs else num
  let den' := if guess < 0 then den else den * Nat.pow 2 guess.natAbs
  let q := if num' / den' < Nat.pow 2 52 then guess - 1 else guess
  max q (-1074)

/-- The bits of the double nearest to `num / den`, ties to even; too large a fraction is
infinite. -/
def nearestBits (negative : Bool) (num den : Nat) : Nat :=
  let sign := if negative then Nat.pow 2 63 else 0
  if num = 0 || den = 0 then sign
  else
    let q := scaleOf num den
    let m := if q < 0 then roundDiv (num * Nat.pow 2 q.natAbs) den
      else roundDiv num (den * Nat.pow 2 q.natAbs)
    let (m, q) := if m = Nat.pow 2 53 then (Nat.pow 2 52, q + 1) else (m, q)
    if m < Nat.pow 2 52 then sign + m
    else
      let e := q + 1075
      if 2047 ≤ e then sign + 2047 * Nat.pow 2 52
      else sign + e.natAbs * Nat.pow 2 52 + (m - Nat.pow 2 52)

def nearestDouble (negative : Bool) (num den : Nat) : Float :=
  Float.ofBits (UInt64.ofNat (nearestBits negative num den))

/-- The double nearest to a whole number. -/
def doubleOfInt (n : Int) : Float :=
  nearestDouble (n < 0) n.natAbs 1

def infiniteDouble (negative : Bool) : Float :=
  Float.ofBits (UInt64.ofNat ((if negative then Nat.pow 2 63 else 0) + 2047 * Nat.pow 2 52))

def nanDouble : Float :=
  Float.ofBits (UInt64.ofNat (2047 * Nat.pow 2 52 + Nat.pow 2 51))

/-- The whole number a view stands for, if it is one. -/
def DoubleView.toWhole? : DoubleView → Option Int
  | .finite negative m q =>
    let signed (n : Nat) : Int := if negative then -(n : Int) else n
    if 0 ≤ q then some (signed (m * Nat.pow 2 q.natAbs))
    else if m % Nat.pow 2 q.natAbs = 0 then some (signed (m / Nat.pow 2 q.natAbs))
    else none
  | _ => none

def DoubleView.isFinite : DoubleView → Bool
  | .finite .. => true
  | _ => false

/-- Strictly above zero; a NaN is not. -/
def DoubleView.isPositive : DoubleView → Bool
  | .nan => false
  | .infinite negative => !negative
  | .finite negative m _ => !negative && m != 0

end BundleBuild
