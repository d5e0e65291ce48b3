/-
How doubles are written in messages and arguments: the shortest digits that read back,
positionally from 0.0001 up to below 10 ^ 16 and with an exponent of at least two digits
otherwise; a whole number keeps its `.0`.
-/
import BundleBuild.Number.Shortest

namespace BundleBuild

/-- Where numbers are written positionally and how the exponent looks. -/
structure NumberFormat where
  /-- Least exponent of the leading digit that is written positionally. -/
  least : Int
  /-- Greatest exponent of the leading digit that is written positionally. -/
  greatest : Int
  /-- Least number of exponent digits. -/
  exponentDigits : Nat

/-- Positional from `1e-4` to below `1e16`, exponents of two digits. -/
def plainNumbers : NumberFormat := ⟨-4, 15, 2⟩

def zeros (n : Nat) : List Char :=
  List.replicate n '0'

/-- The digits with the point after the first `1 + lead` of them. -/
def positional (ds : List Char) (lead : Int) : List Char :=
  if lead < 0 then '0' :: '.' :: zeros (lead.natAbs - 1) ++ ds
  else
    let n := lead.natAbs + 1
    if ds.length ≤ n then ds ++ zeros (n - ds.length) ++ ['.', '0']
    else ds.take n ++ '.' :: ds.drop n

/-- One digit before the point, then the exponent. -/
def exponential (f : NumberFormat) (ds : List Char) (lead : Int) : List Char :=
  let mantissa := match ds with
    | [] => []
    | [d] => [d]
    | d :: rest => d :: '.' :: rest
  let e := Nat.toDigits 10 lead.natAbs
  mantissa ++ 'e' :: (if lead < 0 then '-' else '+') :: zeros (f.exponentDigits - e.length) ++ e

/-- A non-negative decimal. -/
def NumberFormat.write (f : NumberFormat) (d : Decimal) : List Char :=
  let ds := Nat.toDigits 10 d.digits
  let lead := (ds.length : Int) - 1 + d.exponent
  if f.least ≤ lead && lead ≤ f.greatest then positional ds lead else exponential f ds lead

def writeView : DoubleView → List Char
  | .nan => ['n', 'a', 'n']
  | .infinite negative => (if negative then ['-'] else []) ++ ['i', 'n', 'f']
  | .finite negative m q =>
    (if negative then ['-'] else []) ++
      if m = 0 then ['0', '.', '0'] else plainNumbers.write (shortestDecimal m q)

/-- The text of a double. -/
def writeDouble (x : Float) : String :=
  String.ofList (writeView (viewDouble x))

/-- The text of a whole number. -/
def writeInt : Int → String
  | .ofNat n => String.ofList (Nat.toDigits 10 n)
  | .negSucc n => String.ofList ('-' :: Nat.toDigits 10 (n + 1))

end BundleBuild
