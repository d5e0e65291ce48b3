/-
Texts as processes pass them on: one character for each byte. A script is read, cut and compared
byte by byte, so bytes that are no text go through it unharmed.
-/
import BundleBuild.Text.Utf8

namespace BundleBuild.Shell

/-- Bytes as a text of one character each. -/
def ofBytes (bs : List UInt8) : String :=
  String.ofList (bs.map fun b => Char.ofNat b.toNat)

/-- The bytes that a text of one character each stands for. -/
def toBytes (s : String) : List UInt8 :=
  s.toList.map fun c => UInt8.ofNat c.toNat

/-- A text with one character for each byte of its encoding. -/
def octets (s : String) : String :=
  ofBytes (encodeUtf8 s)

/-- The text that bytes encode. -/
def decoded (s : String) : String :=
  decodeUtf8Lossy (toBytes s)

end BundleBuild.Shell
