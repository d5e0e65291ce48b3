/-
Escapes in quoted texts: what may be wrong with them. Positions count the characters of the body;
those beyond ASCII count for ten, as they would if written as escapes.
-/
import BundleBuild.Literal.Term

namespace BundleBuild.Literal

/-- The body of a text with everything beyond ASCII written as escapes. -/
def spellOut : List Char → List Char
  | [] => []
  | '\\' :: c :: rest =>
    if c.toNat < 0x80 then '\\' :: c :: spellOut rest
    else "\\u005c".toList ++ '\\' :: 'U' :: hexDigits 8 c.toNat ++ spellOut rest
  | c :: rest =>
    if c.toNat < 0x80 then c :: spellOut rest
    else '\\' :: 'U' :: hexDigits 8 c.toNat ++ spellOut rest

/-- The hexadecimal digits at the front, so many at most. -/
def hexRun (most : Nat) (cs : List Char) : List Char :=
  (cs.take most).takeWhile fun c => (digitValue? 16 c).isSome

/-- What is wrong with an escape of so many hexadecimal digits; `start` is where it starts. -/
def hexFlaw? (start count : Nat) (short : EscapeFlaw) (cs : List Char) : Option Flaw :=
  let digits := hexRun count cs
  let last := start + 1 + digits.length
  if digits.length < count then some (.badEscape start last short)
  else if 0x10FFFF < digits.foldl (fun n c => n * 16 + (digitValue? 16 c).getD 0) 0 then
    some (.badEscape start last .beyondLast)
  else none

/-- What is wrong with an escape by name. No names are kept here, so none is known. -/
def nameFlaw (start : Nat) (cs : List Char) : Flaw :=
  match cs with
  | '\x7b' :: rest =>
    let name := rest.takeWhile (· ≠ '\x7d')
    if name.length = rest.length then .badEscape start (start + 2 + name.length) .malformedName
    else if name.isEmpty then .badEscape start (start + 2) .malformedName
    else .badEscape start (start + 3 + name.length) .unknownName
  | _ => .badEscape start (start + 1) .malformedName

/-- The first flaw of the escapes in a text from a position on. -/
def textFlawFrom? (position : Nat) : List Char → Option Flaw
  | '\\' :: c :: rest =>
    let flaw := match c with
      | 'x' => hexFlaw? position 2 .shortTwo rest
      | 'u' => hexFlaw? position 4 .shortFour rest
      | 'U' => hexFlaw? position 8 .shortEight rest
      | 'N' => some (nameFlaw position rest)
      | _ => none
    match flaw with
    | some f => some f
    | none => textFlawFrom? (position + 2) rest
  | _ :: rest => textFlawFrom? (position + 1) rest
  | [] => none

/-- The first flaw of the escapes in bytes from a position on. -/
def bytesFlawFrom? (position : Nat) : List Char → Option Flaw
  | '\\' :: c :: rest =>
    if c = 'x' && (hexRun 2 rest).length < 2 then some (.badByteEscape position)
    else bytesFlawFrom? (position + 2) rest
  | _ :: rest => bytesFlawFrom? (position + 1) rest
  | [] => none

/-- What is wrong with a quoted text that has no places to fill in. -/
def Quoted.flaw? (q : Quoted) : Option Flaw :=
  if q.isBytes then
    if q.body.any (0x80 ≤ ·.toNat) then some .foreignByte
    else if q.isRaw then none
    else bytesFlawFrom? 0 q.body
  else if q.isRaw then none
  else textFlawFrom? 0 (spellOut q.body)

end BundleBuild.Literal
