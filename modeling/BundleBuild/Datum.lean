/-
Data as documents and callers hand it over, before anything is known about its shape. Option
values and configuration documents are made of it. `Datum.quoted` is the form messages show a
datum in, `Datum.plain` the form it takes inside running text.
-/
import BundleBuild.Text.Points
import BundleBuild.Number.Written
import BundleBuild.Calendar
import BundleBuild.Platform

namespace BundleBuild

/-- A datum of any shape. -/
inductive Datum where
  | null
  | bool (b : Bool)
  | int (n : Int)
  | float (x : Float)
  | text (s : String)
  /-- A text with halves of surrogate pairs, which is no text proper. -/
  | unpaired (ps : Points)
  | bytes (bs : List UInt8)
  | platform (p : Platform)
  | entryPoint (e : EntryPoint)
  | date (d : Date)
  | moment (m : Moment)
  | list (items : List Datum)
  | tuple (items : List Datum)
  | set (items : List Datum)
  | map (entries : List (Datum × Datum))

namespace Datum

instance : Inhabited Datum := ⟨.null⟩

/-- The word messages use for the kind of a datum. -/
def kind : Datum → String
  | .null => "NoneType"
  | .bool _ => "bool"
  | .int _ => "int"
  | .float _ => "float"
  | .text _ => "str"
  | .unpaired _ => "str"
  | .bytes _ => "bytes"
  | .platform _ => "Platform"
  | .entryPoint _ => "EntryPoint"
  | .date _ => "date"
  | .moment _ => "datetime"
  | .list _ => "list"
  | .tuple _ => "tuple"
  | .set _ => "set"
  | .map _ => "dict"

end Datum

def quoteDate (d : Date) : String :=
  "datetime.date(" ++ Nat.repr d.year ++ ", " ++ Nat.repr d.month ++ ", " ++ Nat.repr d.day ++ ")"

/-- An offset in minutes, counted in days and seconds. -/
def quoteOffset (minutes : Int) : String :=
  if minutes = 0 then "datetime.timezone.utc"
  else
    let days := if minutes < 0 then "days=-1, " else ""
    let seconds := (minutes % 1440) * 60
    "datetime.timezone(datetime.timedelta(" ++ days ++ "seconds=" ++ writeInt seconds ++ "))"

/-- Seconds and microseconds are left out from the end while they are zero. -/
def quoteMoment (m : Moment) : String :=
  let base := [m.date.year, m.date.month, m.date.day, m.hour, m.minute]
  let parts :=
    if m.microsecond ≠ 0 then base ++ [m.second, m.microsecond]
    else if m.second ≠ 0 then base ++ [m.second]
    else base
  let zone := match m.offset with
    | none => ""
    | some o => ", tzinfo=" ++ quoteOffset o
  "datetime.datetime(" ++ ", ".intercalate (parts.map Nat.repr) ++ zone ++ ")"

namespace Datum

mutual

/-- The form messages show a datum in. -/
def quoted : Datum → String
  | .null => "None"
  | .bool b => if b then "True" else "False"
  | .int n => writeInt n
  | .float x => writeDouble x
  | .text s => quoteText s
  | .unpaired ps => quotePoints ps
  | .bytes bs => quoteBytes bs
  | .platform p => "<Platform." ++ p.name ++ ": " ++ quoteText p.dirName ++ ">"
  | .entryPoint e => "<EntryPoint." ++ e.name ++ ": " ++ quoteText e.symbol ++ ">"
  | .date d => quoteDate d
  | .moment m => quoteMoment m
  | .list items => "[" ++ ", ".intercalate (quotedItems items) ++ "]"
  | .tuple [item] => "(" ++ quoted item ++ ",)"
  | .tuple items => "(" ++ ", ".intercalate (quotedItems items) ++ ")"
  | .set [] => "set()"
  | .set items => "\x7b" ++ ", ".intercalate (quotedItems items) ++ "\x7d"
  | .map entries => "\x7b" ++ ", ".intercalate (quotedEntries entries) ++ "\x7d"

def quotedItems : List Datum → List String
  | [] => []
  | d :: ds => quoted d :: quotedItems ds

def quotedEntries : List (Datum × Datum) → List String
  | [] => []
  | (k, v) :: rest => (quoted k ++ ": " ++ quoted v) :: quotedEntries rest

end

/-- The form a datum takes inside running text: texts stand without quotes. -/
def plain : Datum → String
  | .text s => s
  | .platform p => "Platform." ++ p.name
  | .entryPoint e => "EntryPoint." ++ e.name
  | d => d.quoted

/-- The text a datum stands for where a text is wanted: named symbols stand for their own word. -/
def text? : Datum → Option String
  | .text s => some s
  | .platform p => some p.dirName
  | .entryPoint e => some e.symbol
  | _ => none

/-- The number a datum stands for as a key: truth values count as one and zero, a double that is
a whole number as that number. -/
def whole? : Datum → Option Int
  | .bool b => some (if b then 1 else 0)
  | .int n => some n
  | .float x => (viewDouble x).toWhole?
  | _ => none

def isNumber : Datum → Bool
  | .bool _ => true
  | .int _ => true
  | .float _ => true
  | _ => false

/-- Whether a datum is the double that is not a number. -/
def isNaN : Datum → Bool
  | .float x => x.isNaN
  | _ => false

/-- Whether a datum counts as none given: zero, and what has nothing in it. -/
def isVoid : Datum → Bool
  | .null => true
  | .bytes bs => bs.isEmpty
  | .list items => items.isEmpty
  | .tuple items => items.isEmpty
  | .set items => items.isEmpty
  | .map entries => entries.isEmpty
  | d => d.whole? == some 0 || d.text? == some ""

/-- Whether two scalar data are the same key of a map. -/
def sameKey (a b : Datum) : Bool :=
  match a.whole?, b.whole? with
  | some m, some n => m == n
  | none, none =>
    match a, b with
    | .null, .null => true
    | .float x, .float y => x == y
    | .unpaired s, .unpaired t => s == t
    | .bytes s, .bytes t => s == t
    | .date d, .date e => d == e
    | .moment m, .moment n => m == n
    | a, b => match a.text?, b.text? with
      | some s, some t => s == t
      | _, _ => false
  | _, _ => false

/-- The map with `k` set to `v`: a key already there keeps its place. -/
def putKey {α : Type} (k : Datum) (v : α) : List (Datum × α) → List (Datum × α)
  | [] => [(k, v)]
  | (k', v') :: rest => if sameKey k' k then (k', v) :: rest else (k', v') :: putKey k v rest

end Datum

end BundleBuild
