/-
Bytes written as pairs of hexadecimal digits, and read back.
-/
import BundleBuild.Text.Quoted
import BundleBuild.Number.Numeral

namespace BundleBuild

/-- Two digits for each byte. -/
def hexText (bytes : List UInt8) : String :=
  String.ofList (bytes.flatMap fun b => hexDigits 2 b.toNat)

/-- The bytes of pairs of digits; a digit left over at the end is dropped. -/
def hexBytes : List Char → List UInt8
  | high :: low :: rest =>
    let value (c : Char) : Nat := (digitValue? 16 c).getD 0
    UInt8.ofNat (value high * 16 + value low) :: hexBytes rest
  | _ => []

end BundleBuild
