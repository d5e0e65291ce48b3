/-
Texts as the numbers of their characters. Unlike a `String` such a text may hold halves of
surrogate pairs, which stand for no character; an escape in a document can name one. `points` and
`Points.text?` go from one form to the other.
-/
import BundleBuild.Text.Quoted

namespace BundleBuild

/-- The numbers of the characters of a text. -/
abbrev Points := List Nat

def points (s : String) : Points :=
  s.toList.map Char.toNat

/-- Whether the number stands for a character. -/
def isCharNumber (n : Nat) : Bool :=
  n < 0xD800 || (0xDFFF < n && n < 0x110000)

/-- The text of the numbers, when each of them stands for a character. -/
def Points.text? (ps : Points) : Option String :=
  if ps.all isCharNumber then some (String.ofList (ps.map Char.ofNat)) else none

/-- How a number stands inside quotes `q`; halves of pairs are escaped. -/
def escapePoint (q : Char) (n : Nat) : List Char :=
  if isCharNumber n then escapeChar q (Char.ofNat n) else '\\' :: 'u' :: hexDigits 4 n

/-- The text with halves of pairs written as escapes. -/
def showPoints (ps : Points) : String :=
  String.ofList (ps.flatMap fun n =>
    if isCharNumber n then [Char.ofNat n] else '\\' :: 'u' :: hexDigits 4 n)

/-- The text in quotes. -/
def quotePoints (ps : Points) : String :=
  let q := if ps.contains 39 && !ps.contains 34 then '"' else '\''
  String.ofList (q :: ps.flatMap (escapePoint q) ++ [q])

end BundleBuild
