/-
Checking data against the shape a record expects. A check yields a value or the list of all
problems found, each with the path of the field it stands at; fields are checked in the order
the record declares them and unknown keys come last. Checks are generous: a text that spells a
number is a number, and so on, as each check says.
-/
import BundleBuild.Text.Utf8
import BundleBuild.Number.Entry
import BundleBuild.Instant
import BundleBuild.Datum
import BundleBuild.Path
import BundleBuild.Entries

namespace BundleBuild

/-- What is wrong with a datum. -/
inductive Flaw where
  | notText
  | notUnicode
  | emptyText
  | patternMismatch (pattern : String)
  | refused (reason : String)
  | notInteger
  | unreadableInteger
  | oversizedInteger
  | fractionalInteger
  | notFinite
  | belowLeast (least : Int)
  | aboveGreatest (greatest : Int)
  | notAbove (bound : Int)
  | notNumber
  | unreadableNumber
  | notTruth
  | unreadableTruth
  | notBytes
  | notInstant
  | unreadableInstant (flaw : InstantFlaw)
  | unreadableDay (flaw : InstantFlaw)
  | notPath
  | notTuple
  | notList
  | emptyTuple
  | notMap
  | notRecord (name : String)
  | missing
  | notAmong (choices : List String)
  | notMember (choices : List String)
  | unknownKey
  | keyNotText
  | frozen
  deriving DecidableEq, Repr

/-- The choices in quotes, the last two joined by `or`. -/
def listChoices : List String → String
  | [] => ""
  | [a] => quoteText a
  | [a, b] => quoteText a ++ " or " ++ quoteText b
  | a :: rest => quoteText a ++ ", " ++ listChoices rest

namespace Flaw

/-- The short name of a flaw. -/
def code : Flaw → String
  | .notText => "string_type"
  | .notUnicode => "string_unicode"
  | .emptyText => "string_too_short"
  | .patternMismatch _ => "string_pattern_mismatch"
  | .refused _ => "value_error"
  | .notInteger => "int_type"
  | .unreadableInteger => "int_parsing"
  | .oversizedInteger => "int_parsing_size"
  | .fractionalInteger => "int_from_float"
  | .notFinite => "finite_number"
  | .belowLeast _ => "greater_than_equal"
  | .aboveGreatest _ => "less_than_equal"
  | .notAbove _ => "greater_than"
  | .notNumber => "float_type"
  | .unreadableNumber => "float_parsing"
  | .notTruth => "bool_type"
  | .unreadableTruth => "bool_parsing"
  | .notBytes => "bytes_type"
  | .notInstant => "datetime_type"
  | .unreadableInstant _ => "datetime_parsing"
  | .unreadableDay _ => "datetime_from_date_parsing"
  | .notPath => "path_type"
  | .notTuple => "tuple_type"
  | .notList => "list_type"
  | .emptyTuple => "too_short"
  | .notMap => "dict_type"
  | .notRecord _ => "model_type"
  | .missing => "missing"
  | .notAmong _ => "literal_error"
  | .notMember _ => "enum"
  | .unknownKey => "extra_forbidden"
  | .keyNotText => "invalid_key"
  | .frozen => "frozen_instance"

/-- What a flaw says to the user. -/
def message : Flaw → String
  | .notText => "Input should be a valid string"
  | .notUnicode => "Input should be a valid string, unable to parse raw data as a unicode string"
  | .emptyText => "String should have at least 1 character"
  | .patternMismatch pattern => "String should match pattern '" ++ pattern ++ "'"
  | .refused reason => "Value error, " ++ reason
  | .notInteger => "Input should be a valid integer"
  | .unreadableInteger => "Input should be a valid integer, unable to parse string as an integer"
  | .oversizedInteger => "Unable to parse input string as an integer, exceeded maximum size"
  | .fractionalInteger => "Input should be a valid integer, got a number with a fractional part"
  | .notFinite => "Input should be a finite number"
  | .belowLeast n => "Input should be greater than or equal to " ++ writeInt n
  | .aboveGreatest n => "Input should be less than or equal to " ++ writeInt n
  | .notAbove n => "Input should be greater than " ++ writeInt n
  | .notNumber => "Input should be a valid number"
  | .unreadableNumber => "Input should be a valid number, unable to parse string as a number"
  | .notTruth => "Input should be a valid boolean"
  | .unreadableTruth => "Input should be a valid boolean, unable to interpret input"
  | .notBytes => "Input should be a valid bytes"
  | .notInstant => "Input should be a valid datetime"
  | .unreadableInstant flaw => "Input should be a valid datetime, " ++ flaw.message
  | .unreadableDay flaw => "Input should be a valid datetime or date, " ++ flaw.message
  | .notPath => "Input is not a valid path for <class 'pathlib.Path'>"
  | .notTuple => "Input should be a valid tuple"
  | .notList => "Input should be a valid list"
  | .emptyTuple => "Tuple should have at least 1 item after validation, not 0"
  | .notMap => "Input should be a valid dictionary"
  | .notRecord name => "Input should be a valid dictionary or instance of " ++ name
  | .missing => "Field required"
  | .notAmong choices => "Input should be " ++ listChoices choices
  | .notMember choices => "Input should be " ++ listChoices choices
  | .unknownKey => "Extra inputs are not permitted"
  | .keyNotText => "Keys should be strings"
  | .frozen => "Instance is frozen"

end Flaw

/-- A flaw and the path of the field it was found at. -/
structure Problem where
  path : List String
  flaw : Flaw
  deriving DecidableEq, Repr

/-- The path with dots between its steps. -/
def Problem.place (p : Problem) : String :=
  ".".intercalate p.path

/-- A value, or every problem found. -/
abbrev Checked (α : Type) := Except (List Problem) α

namespace Checked

variable {α β : Type}

def flawed (f : Flaw) : Checked α :=
  .error [⟨[], f⟩]

/-- The check of what stands under `step`. -/
def under (step : String) : Checked α → Checked α
  | .ok a => .ok a
  | .error ps => .error (ps.map fun p => { p with path := step :: p.path })

/-- Both values, or the problems of both. -/
def both : Checked α → Checked β → Checked (α × β)
  | .ok a, .ok b => .ok (a, b)
  | .ok _, .error qs => .error qs
  | .error ps, .ok _ => .error ps
  | .error ps, .error qs => .error (ps ++ qs)

/-- Every item checked, numbered from `i`. -/
def itemsFrom (check : Datum → Checked α) : Nat → List Datum → Checked (List α)
  | _, [] => .ok []
  | i, d :: ds =>
    (both (under (Nat.repr i) (check d)) (itemsFrom check (i + 1) ds)).map fun (a, as) => a :: as

def items (check : Datum → Checked α) (ds : List Datum) : Checked (List α) :=
  itemsFrom check 0 ds

end Checked

open Checked

/-! ## Single data -/

def checkText : Datum → Checked String
  | .unpaired _ => flawed .notUnicode
  | .bytes bs => match decodeUtf8 bs with
    | .ok s => .ok s
    | .error _ => flawed .notUnicode
  | d => match d.text? with
    | some s => .ok s
    | none => flawed .notText

/-- A text of at least one character. -/
def checkName (d : Datum) : Checked String := do
  let s ← checkText d
  if s.isEmpty then flawed .emptyText else return s

/-- What a datum spells a value with. -/
inductive Spelled where
  | text (s : String)
  /-- Bytes that are no text. -/
  | bytes
  /-- A text that is none proper. -/
  | unpaired
  | nothing

def Datum.spelled : Datum → Spelled
  | .bytes bs => match decodeUtf8 bs with
    | .ok s => .text s
    | .error _ => .bytes
  | .unpaired _ => .unpaired
  | d => match d.text? with
    | some s => .text s
    | none => .nothing

/-- The value a datum spells, read by `read`; `unread` is the flaw of a text that spells none and
`wrong` that of a datum that is no text. -/
def checkSpelled {α : Type} (read : String → Checked α) (unread wrong : Flaw) (d : Datum) :
    Checked α :=
  match d.spelled with
  | .text s => read s
  | .bytes => flawed unread
  | .unpaired => flawed .notUnicode
  | .nothing => flawed wrong

/-- Whether a number fits a signed word of sixty-four bits. -/
def fitsWord (n : Int) : Bool :=
  -9223372036854775808 ≤ n && n ≤ 9223372036854775807

/-- Doubles are turned into whole numbers only strictly inside the range of words. -/
def checkWholeDouble (x : Float) : Checked Int :=
  let v := viewDouble x
  if !v.isFinite then flawed .notFinite
  else match v.toWhole? with
    | none => flawed .fractionalInteger
    | some n => if -9223372036854775808 < n && fitsWord n then .ok n else flawed .oversizedInteger

def checkIntegerText (s : String) : Checked Int :=
  match readWhole s with
  | .ok n => .ok n
  | .error .unreadable => flawed .unreadableInteger
  | .error (.tooLong _) => flawed .oversizedInteger

/-- Whole numbers; truth values as one and zero, doubles without a fraction, texts that spell a
whole number. -/
def checkInteger : Datum → Checked Int
  | .bool b => .ok (if b then 1 else 0)
  | .int n => .ok n
  | .float x => checkWholeDouble x
  | d => checkSpelled checkIntegerText .unreadableInteger .notInteger d

/-- A whole number no less than `least`. -/
def checkAtLeast (least : Int) (d : Datum) : Checked Int := do
  let n ← checkInteger d
  if n < least then flawed (.belowLeast least) else return n

/-- A whole number from `least` to `greatest`. -/
def checkBetween (least greatest : Int) (d : Datum) : Checked Int := do
  let n ← checkInteger d
  if n < least then flawed (.belowLeast least)
  else if greatest < n then flawed (.aboveGreatest greatest)
  else return n

/-- The nearest double of a whole number, unless that is beyond all of them. -/
def checkIntegerAsNumber (n : Int) : Checked Float :=
  let x := doubleOfInt n
  if (viewDouble x).isFinite then .ok x else flawed .notNumber

def checkNumberText (s : String) : Checked Float :=
  match readNumber? s with
  | some x => .ok x
  | none => flawed .unreadableNumber

/-- Doubles; whole numbers and truth values as the nearest double, texts that spell a number. -/
def checkNumber : Datum → Checked Float
  | .bool b => checkIntegerAsNumber (if b then 1 else 0)
  | .int n => checkIntegerAsNumber n
  | .float x => .ok x
  | d => checkSpelled checkNumberText .unreadableNumber .notNumber d

/-- A number strictly above zero. -/
def checkPositive (d : Datum) : Checked Float := do
  let x ← checkNumber d
  if (viewDouble x).isPositive then return x else flawed (.notAbove 0)

/-- The truth value a word spells, in any case. -/
def truthWord? (s : String) : Option Bool :=
  let w := String.ofList (s.toList.map Char.toLower)
  if ["0", "off", "f", "false", "n", "no"].contains w then some false
  else if ["1", "on", "t", "true", "y", "yes"].contains w then some true
  else none

def checkTruthText (s : String) : Checked Bool :=
  match truthWord? s with
  | some b => .ok b
  | none => flawed .unreadableTruth

/-- Truth values; one and zero, words for yes and no. -/
def checkTruth : Datum → Checked Bool
  | .bool b => .ok b
  | .int n =>
    if n = 0 then .ok false
    else if n = 1 then .ok true
    else flawed (if fitsWord n then .unreadableTruth else .notTruth)
  | .float x => match (viewDouble x).toWhole? with
    | some n => if n = 0 then .ok false else if n = 1 then .ok true else flawed .notTruth
    | none => flawed .notTruth
  | d => checkSpelled checkTruthText .unreadableTruth .notTruth d

def checkBytes : Datum → Checked (List UInt8)
  | .bytes bs => .ok bs
  | .unpaired _ => flawed .notUnicode
  | d => match d.text? with
    | some s => .ok (encodeUtf8 s)
    | none => flawed .notBytes

def instantOf (flaw : InstantFlaw → Flaw) : Except InstantFlaw Unit → Checked Unit
  | .ok () => .ok ()
  | .error .yearZero => flawed (.unreadableInstant .yearZero)
  | .error e => flawed (flaw e)

/-- A moment: a text that names one, or a count of seconds. -/
def checkInstant : Datum → Checked Unit
  | .bool _ => flawed .notInstant
  | .int n =>
    if (viewDouble (doubleOfInt n)).isFinite then instantOf .unreadableInstant (checkCount n)
    else flawed .notInstant
  | .float x => instantOf .unreadableInstant (checkDoubleCount x)
  | .bytes bs => instantOf .unreadableDay (checkInstantText bs)
  | .unpaired _ => flawed .notUnicode
  | .date _ => .ok ()
  | .moment _ => .ok ()
  | d => match d.text? with
    | some s => instantOf .unreadableDay (checkInstantText (encodeUtf8 s))
    | none => flawed .notInstant

def checkPath (d : Datum) : Checked Path :=
  match d.text? with
  | some s => .ok (Path.ofText s)
  | none => flawed .notPath

/-- One of the given words. -/
def checkAmong (choices : List String) (d : Datum) : Checked String :=
  match d with
  | .text s => if choices.contains s then .ok s else flawed (.notAmong choices)
  | _ => flawed (.notAmong choices)

/-- A platform, or the word of one. -/
def checkPlatform (d : Datum) : Checked Platform :=
  let found := match d with
    | .platform p => some p
    | .text s => Platform.ofDirName? s
    | _ => none
  match found with
  | some p => .ok p
  | none => flawed (.notMember (Platform.all.map Platform.dirName))

/-- Nothing, or what the check accepts. -/
def checkOptional {α : Type} (check : Datum → Checked α) : Datum → Checked (Option α)
  | .null => .ok none
  | d => (check d).map some

/-! ## Collections -/

def sequence? : Datum → Option (List Datum)
  | .list ds => some ds
  | .tuple ds => some ds
  | .set ds => some ds
  | _ => none

def checkList {α : Type} (check : Datum → Checked α) (d : Datum) : Checked (List α) :=
  match sequence? d with
  | some ds => items check ds
  | none => flawed .notList

/-- How many of the items pass the check. -/
def countPassing {α : Type} (check : Datum → Checked α) (ds : List Datum) : Nat :=
  ds.countP fun d => match check d with
    | .ok _ => true
    | .error _ => false

/-- At least one item has to pass; when none does, that comes after the problems of the items. -/
def checkSome {α : Type} (check : Datum → Checked α) (d : Datum) : Checked (List α) :=
  match sequence? d with
  | some ds =>
    let short : Checked Unit := if countPassing check ds = 0 then flawed .emptyTuple else .ok ()
    (both (items check ds) short).map (·.1)
  | none => flawed .notTuple

/-! ## Records -/

abbrev RawRecord := List (Datum × Datum)

def RawRecord.get? (r : RawRecord) (name : String) : Option Datum :=
  (r.find? fun (k, _) => k.text? == some name).map (·.2)

/-- The field `name`, or `absent` when the record has none. -/
def fieldOr {α : Type} (r : RawRecord) (name : String) (check : Datum → Checked α) (absent : α) :
    Checked α :=
  match r.get? name with
  | some d => under name (check d)
  | none => .ok absent

/-- The field `name`, which has to be there. -/
def field {α : Type} (r : RawRecord) (name : String) (check : Datum → Checked α) : Checked α :=
  match r.get? name with
  | some d => under name (check d)
  | none => under name (flawed .missing)

/-- How a key is named in a path. A whole number that is too long to be written has no name of
its own. -/
def keyName : Datum → String
  | .bool b => if b then "1" else "0"
  | .int n => if n.natAbs < Nat.pow 10 digitLimit then writeInt n else "<unprintable int object>"
  | d => d.text?.getD d.quoted

/-- Keys other than the declared ones, in the order they stand. -/
def unknownKeys (declared : List String) : RawRecord → List Problem
  | [] => []
  | (k, _) :: rest =>
    match k.text? with
    | some s => if declared.contains s then unknownKeys declared rest
      else ⟨[s], .unknownKey⟩ :: unknownKeys declared rest
    | none => ⟨[keyName k], .keyNotText⟩ :: unknownKeys declared rest

def noUnknownKeys (declared : List String) (r : RawRecord) : Checked Unit :=
  match unknownKeys declared r with
  | [] => .ok ()
  | ps => .error ps

def isUnpaired : Datum → Bool
  | .unpaired _ => true
  | _ => false

/-- A record: a map with text keys, all of them declared. Where a key is no text proper, that is
all that is said about the record. -/
def checkRecord {α : Type} (name : String) (declared : List String) (fields : RawRecord → Checked α)
    (d : Datum) : Checked α :=
  match d with
  | .map r =>
    if r.any fun (k, _) => isUnpaired k then flawed .notUnicode
    else (both (fields r) (noUnknownKeys declared r)).map (·.1)
  | _ => flawed (.notRecord name)

/-! ## Laws of the collector -/

theorem Checked.both_eq_ok_iff {α β : Type} {x : Checked α} {y : Checked β} {a : α} {b : β} :
    both x y = .ok (a, b) ↔ x = .ok a ∧ y = .ok b := by
  cases x <;> cases y <;> simp [both]

theorem Checked.under_eq_ok_iff {α : Type} {step : String} {x : Checked α} {a : α} :
    under step x = .ok a ↔ x = .ok a := by
  cases x <;> simp [under]

/-- A field has its value from a check, or is absent. -/
theorem fieldOr_eq_ok {α : Type} {r : RawRecord} {name : String} {check : Datum → Checked α}
    {absent a : α} (h : fieldOr r name check absent = .ok a) :
    a = absent ∨ ∃ d, check d = .ok a := by
  unfold fieldOr at h
  split at h
  · exact .inr ⟨_, Checked.under_eq_ok_iff.mp h⟩
  · exact .inl (Except.ok.inj h).symm

/-- What was made of a record was made of its fields. -/
theorem checkRecord_eq_ok {α : Type} {name : String} {declared : List String}
    {fields : RawRecord → Checked α} {d : Datum} {a : α}
    (h : checkRecord name declared fields d = .ok a) : ∃ r, d = .map r ∧ fields r = .ok a := by
  unfold checkRecord at h
  split at h
  · next r =>
    split at h
    · cases h
    · cases hboth : both (fields r) (noUnknownKeys declared r) with
      | error ps => rw [hboth] at h; cases h
      | ok pair =>
        rw [hboth] at h
        cases h
        exact ⟨r, rfl, (Checked.both_eq_ok_iff.mp hboth).1⟩
  · cases h

end BundleBuild
