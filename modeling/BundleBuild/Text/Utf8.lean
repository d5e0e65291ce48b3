/-
Reading UTF-8. `decodeUtf8` refuses the first ill-formed sequence and says where it stands and
what is wrong with it; `decodeUtf8Lossy` puts one replacement character for each maximal
ill-formed sequence and never fails.
-/
import BundleBuild.Text.Quoted

namespace BundleBuild

/-- What is wrong with an ill-formed sequence. -/
inductive Utf8Flaw where
  | badStart
  | badContinuation
  | endOfData
  deriving DecidableEq, Repr

/-- An ill-formed sequence: its first byte, where it starts and how many bytes it spans. -/
structure Utf8Error where
  first : UInt8
  start : Nat
  width : Nat
  flaw : Utf8Flaw
  deriving DecidableEq, Repr

/-- The number of continuation bytes a lead byte asks for, with the interval its first
continuation byte must lie in; `none` for a byte that cannot lead. -/
def leadShape (b : Nat) : Option (Nat × Nat × Nat) :=
  if 0xC2 ≤ b && b ≤ 0xDF then some (1, 0x80, 0xBF)
  else if b = 0xE0 then some (2, 0xA0, 0xBF)
  else if b = 0xED then some (2, 0x80, 0x9F)
  else if 0xE1 ≤ b && b ≤ 0xEF then some (2, 0x80, 0xBF)
  else if b = 0xF0 then some (3, 0x90, 0xBF)
  else if b = 0xF4 then some (3, 0x80, 0x8F)
  else if 0xF1 ≤ b && b ≤ 0xF3 then some (3, 0x80, 0xBF)
  else none

/-- The payload bits of a lead byte that asks for `n` continuation bytes. -/
def leadBits (n b : Nat) : Nat :=
  if n = 1 then b % 0x20 else if n = 2 then b % 0x10 else b % 0x08

/-- What stands at the head of the bytes: a character, or a flaw, with the number of bytes it
takes up (at least one). -/
inductive Utf8Head where
  | char (c : Char) (width : Nat)
  | flawed (flaw : Utf8Flaw) (width : Nat)

/-- Reads the continuation bytes of a sequence; `seen` of them have been read into `acc`. -/
def readContinuation (lo hi : Nat) : Nat → Nat → Nat → List UInt8 → Utf8Head
  | 0, seen, acc, _ => .char (Char.ofNat acc) seen
  | _ + 1, seen, _, [] => .flawed .endOfData seen
  | n + 1, seen, acc, b :: rest =>
    if lo ≤ b.toNat && b.toNat ≤ hi then
      readContinuation 0x80 0xBF n (seen + 1) (acc * 64 + b.toNat % 64) rest
    else .flawed .badContinuation seen

/-- The head of a non-empty byte list. -/
def utf8Head (b : UInt8) (rest : List UInt8) : Utf8Head :=
  if b.toNat < 0x80 then .char (Char.ofNat b.toNat) 1
  else match leadShape b.toNat with
    | none => .flawed .badStart 1
    | some (n, lo, hi) => readContinuation lo hi n 1 (leadBits n b.toNat) rest

/-- Decodes with the position of the first byte at hand; `fuel` is at least the byte count. -/
def decodeUtf8From : Nat → Nat → List UInt8 → Except Utf8Error (List Char)
  | 0, _, _ => .ok []
  | _ + 1, _, [] => .ok []
  | fuel + 1, pos, b :: rest =>
    match utf8Head b rest with
    | .char c w => do
      let cs ← decodeUtf8From fuel (pos + w) (rest.drop (w - 1))
      return c :: cs
    | .flawed flaw w => .error ⟨b, pos, w, flaw⟩

/-- The text of well-formed bytes, or the first ill-formed sequence. -/
def decodeUtf8 (bytes : List UInt8) : Except Utf8Error String :=
  (decodeUtf8From bytes.length 0 bytes).map String.ofList

def decodeUtf8LossyFrom : Nat → List UInt8 → List Char
  | 0, _ => []
  | _ + 1, [] => []
  | fuel + 1, b :: rest =>
    match utf8Head b rest with
    | .char c w => c :: decodeUtf8LossyFrom fuel (rest.drop (w - 1))
    | .flawed _ w => '�' :: decodeUtf8LossyFrom fuel (rest.drop (w - 1))

/-- The text of any bytes, ill-formed sequences replaced. -/
def decodeUtf8Lossy (bytes : List UInt8) : String :=
  String.ofList (decodeUtf8LossyFrom bytes.length bytes)

/-- The UTF-8 bytes of a text. -/
def encodeUtf8 (s : String) : List UInt8 :=
  s.toUTF8.toList

def Utf8Flaw.message : Utf8Flaw → String
  | .badStart => "invalid start byte"
  | .badContinuation => "invalid continuation byte"
  | .endOfData => "unexpected end of data"

/-- One byte is named by its value and place, several by their places. -/
def Utf8Error.message (e : Utf8Error) : String :=
  let place :=
    if e.width = 1 then
      "byte 0x" ++ String.ofList (hexDigits 2 e.first.toNat) ++ " in position " ++ Nat.repr e.start
    else
      "bytes in position " ++ Nat.repr e.start ++ "-" ++ Nat.repr (e.start + e.width - 1)
  "'utf-8' codec can't decode " ++ place ++ ": " ++ e.flaw.message

end BundleBuild
