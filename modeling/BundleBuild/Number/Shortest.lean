/-
The shortest decimal that reads back as a given double. For one digit, two digits and so on, the
two neighbours of the value on the grid of that many digits are tried against the interval of
reals that round to the double; the first grid with a hit wins, the nearer neighbour if both
hit, the even one if they are equally near.
-/
import BundleBuild.Number.Double

namespace BundleBuild

/-- A decimal `digits · 10 ^ exponent`. -/
structure Decimal where
  digits : Nat
  exponent : Int
  deriving DecidableEq, Repr

/-- A positive fraction of natural numbers. -/
structure Ratio where
  num : Nat
  den : Nat

/-- `n · 2 ^ q` as a fraction. -/
def Ratio.ofDyadic (n : Nat) (q : Int) : Ratio :=
  if q < 0 then ⟨n, Nat.pow 2 q.natAbs⟩ else ⟨n * Nat.pow 2 q.natAbs, 1⟩

/-- `r · 10 ^ e`. -/
def Ratio.scale10 (r : Ratio) (e : Int) : Ratio :=
  if e < 0 then ⟨r.num, r.den * Nat.pow 10 e.natAbs⟩ else ⟨r.num * Nat.pow 10 e.natAbs, r.den⟩

/-- The exponent of the leading decimal digit. -/
def Ratio.magnitude (r : Ratio) : Int :=
  if r.den ≤ r.num then ((Nat.toDigits 10 (r.num / r.den)).length : Int) - 1
  else
    let len := (Nat.toDigits 10 (r.den / r.num)).length
    if r.den ≤ r.num * Nat.pow 10 (len - 1) then -((len : Int) - 1) else -(len : Int)

/-- `n ≤ r`, strictly unless `closed`. -/
def Ratio.isBelow (closed : Bool) (n : Nat) (r : Ratio) : Bool :=
  if closed then n * r.den ≤ r.num else n * r.den < r.num

/-- `r ≤ n`, strictly unless `closed`. -/
def Ratio.isAbove (closed : Bool) (n : Nat) (r : Ratio) : Bool :=
  if closed then r.num ≤ n * r.den else r.num < n * r.den

/-- The best point for the value on the grid of `n` digits, if one lies in the interval from `lo`
to `hi`; `magnitude` is the exponent of the value's leading digit. -/
def gridPoint? (closed : Bool) (lo value hi : Ratio) (magnitude : Int) (n : Nat) : Option Decimal :=
  let unit := magnitude - (n : Int) + 1
  let v := value.scale10 (-unit)
  let l := lo.scale10 (-unit)
  let h := hi.scale10 (-unit)
  let a := v.num / v.den
  let b := a + 1
  let hits (x : Nat) : Bool := Ratio.isAbove closed x l && Ratio.isBelow closed x h
  let toA := v.num - a * v.den
  let toB := b * v.den - v.num
  let pick :=
    if hits a && hits b then
      if toA < toB then some a else if toB < toA then some b
      else if a % 2 = 0 then some a else some b
    else if hits a then some a
    else if hits b then some b
    else none
  pick.map fun x => ⟨x, unit⟩

/-- The decimal without trailing zeros; `fuel` bounds how many there are. -/
def Decimal.strip : Nat → Decimal → Decimal
  | 0, d => d
  | fuel + 1, d =>
    if d.digits ≠ 0 && d.digits % 10 = 0 then
      Decimal.strip fuel ⟨d.digits / 10, d.exponent + 1⟩
    else d

/-- The shortest decimal that rounds to `m · 2 ^ q`, for a double's significand and exponent. -/
def shortestDecimal (m : Nat) (q : Int) : Decimal :=
  let closed := m % 2 = 0
  let value := Ratio.ofDyadic (4 * m) (q - 2)
  let lo := Ratio.ofDyadic (if m = Nat.pow 2 52 && q ≠ -1074 then 4 * m - 1 else 4 * m - 2) (q - 2)
  let hi := Ratio.ofDyadic (4 * m + 2) (q - 2)
  let magnitude := value.magnitude
  match (List.range 17).findSome? fun i => gridPoint? closed lo value hi magnitude (i + 1) with
  | some d => d.strip 20
  | none => ⟨m, 0⟩

end BundleBuild
