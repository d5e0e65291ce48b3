/-
Data as text for machines: objects, lists and scalars, with every character outside the plain ones
written as an escape. Data that have no form of their own are written as messages show them.
-/
import BundleBuild.Datum
import BundleBuild.Form

namespace BundleBuild

/-- The escape of one sixteen-bit unit. -/
def unitEscape (n : Nat) : List Char :=
  '\\' :: 'u' :: hexDigits 4 n

/-- A character inside double quotes; those beyond sixteen bits take two units. -/
def jsonChar (c : Char) : List Char :=
  let n := c.toNat
  if c = '"' || c = '\\' then ['\\', c]
  else if c = '\n' then ['\\', 'n']
  else if c = '\r' then ['\\', 'r']
  else if c = '\t' then ['\\', 't']
  else if 0x20 ≤ n && n < 0x7f then [c]
  else if n < 0x10000 then unitEscape n
  else
    let m := n - 0x10000
    unitEscape (0xd800 + m / 0x400) ++ unitEscape (0xdc00 + m % 0x400)

def jsonText (s : String) : String :=
  "\"" ++ String.ofList (s.toList.flatMap jsonChar) ++ "\""

/-- Named values as an object. -/
def jsonObject (fields : List (String × String)) : String :=
  "\x7b" ++ ", ".intercalate (fields.map fun (k, v) => jsonText k ++ ": " ++ v) ++ "\x7d"

namespace Datum

mutual

/-- A datum as text for machines. -/
def json : Datum → String
  | .null => "null"
  | .bool b => if b then "true" else "false"
  | .int n => writeInt n
  | .float x => writeDouble x
  | .list items => "[" ++ ", ".intercalate (jsonItems items) ++ "]"
  | .tuple items => "[" ++ ", ".intercalate (jsonItems items) ++ "]"
  | .map entries => jsonObject (jsonEntries entries)
  | d => jsonText (d.text?.getD d.quoted)

def jsonItems : List Datum → List String
  | [] => []
  | d :: ds => json d :: jsonItems ds

def jsonEntries : List (Datum × Datum) → List (String × String)
  | [] => []
  | (k, v) :: rest => (keyName k, json v) :: jsonEntries rest

end

end Datum

end BundleBuild
