/-
Numbers as records take them from texts. A whole number may have a sign, zeros in front of it and
behind it, underscores between its digits and a point with zeros behind it; a decimal may have underscores
anywhere inside.
-/
import BundleBuild.Text.Blank
import BundleBuild.Number.Spelling

namespace BundleBuild

/-- The text without underscores, if none stands at an end or next to another. -/
def dropJoiners? (cs : List Char) : Option (List Char) :=
  let doubled := (cs.zip (cs.drop 1)).any fun (a, b) => a = '_' && b = '_'
  if cs.head? = some '_' || cs.getLast? = some '_' || doubled then none
  else some (cs.filter (· ≠ '_'))

/-- What is left of a numeral behind a zero; `last` is the character before. Zeros and underscores
are passed over, but the last of them stays when no other digit and no minus sign follows. -/
def dropMoreZeros (last : Char) : List Char → Option (List Char)
  | [] => some [last]
  | c :: rest =>
    if c = '0' || c = '_' then dropMoreZeros c rest
    else if isDigit c || c = '-' then some (c :: rest)
    else if c = '.' then some (last :: c :: rest)
    else none

/-- A numeral without zeros in front; one that starts with a minus sign is left as it is. -/
def dropFirstZeros : List Char → Option (List Char)
  | [] => none
  | c :: rest =>
    if c = '0' then dropMoreZeros '0' rest
    else if isDigit c || c = '-' then some (c :: rest)
    else none

/-- A numeral without zeros in front of its minus sign and of its digits. -/
def dropZeros (cs : List Char) : Option (List Char) :=
  match dropFirstZeros cs with
  | some ('-' :: rest) => (dropFirstZeros rest).map ('-' :: ·)
  | r => r

/-- A numeral without a point and zeros behind it; anything else behind a point is refused. -/
def dropZeroPlaces (cs : List Char) : Option (List Char) :=
  match cs.dropWhile (· ≠ '.') with
  | [] => some cs
  | _ :: places =>
    if !places.isEmpty && places.all (· = '0') then some (cs.takeWhile (· ≠ '.')) else none

/-- Digits without zeros in front, a minus sign before them; 4300 characters at most. -/
def readPlainWhole (cs : List Char) : Except NumeralFlaw Int :=
  let (negative, ds) := match cs with
    | '-' :: rest => (true, rest)
    | _ => (false, cs)
  if ds.isEmpty || !ds.all isDigit || (ds.head? = some '0' && 1 < ds.length) then
    .error .unreadable
  else if digitLimit < cs.length then .error (.tooLong cs.length)
  else .ok (withSign negative (digitsValue 10 ds))

/-- A plus sign in front of a numeral, but not of a minus sign. -/
def dropPlus : List Char → Option (List Char)
  | '+' :: '-' :: _ => none
  | '+' :: rest => some rest
  | cs => some cs

/-- The whole number a text stands for. -/
def readWhole (s : String) : Except NumeralFlaw Int :=
  match dropPlus (trimWhile isWhite s.toList) >>= dropZeros >>= dropZeroPlaces >>= dropJoiners? with
  | some cs => readPlainWhole cs
  | none => .error .unreadable

/-- The decimal a text stands for. -/
def readNumber? (s : String) : Option Float :=
  let plain (cs : List Char) : Option Float := if cs.contains '_' then none else readSigned? cs
  match plain (trimWhile isWhite s.toList) with
  | some x => some x
  | none => (dropJoiners? s.toList).bind plain

end BundleBuild
