/-
What literals stand for, as far as it can be told apart: numbers, values that never change, and those
that cannot be looked up by.
-/
import BundleBuild.Literal.Reading

namespace BundleBuild.Literal

/-- What a literal stands for. -/
inductive Shape where
  | number (n : Number)
  /-- A value that may stand in a set, or as a key. -/
  | fixed
  /-- A value that may not, and the name of its kind. -/
  | changing (kind : String)
  deriving DecidableEq, Repr

/-- Why a well-formed term stands for nothing. -/
inductive ValueFlaw where
  | malformed
  /-- A dictionary takes up all the entries of another. -/
  | unpacked
  | unhashable (kind : String)
  | tooLarge
  deriving DecidableEq, Repr

def ValueFlaw.message : ValueFlaw → String
  | .malformed => "malformed node or string"
  | .unpacked => "malformed node or string: None"
  | .unhashable kind => "unhashable type: '" ++ kind ++ "'"
  | .tooLarge => "int too large to convert to float"

/-- The least whole number that is beyond all doubles. -/
def beyondDoubles : Nat :=
  Nat.pow 2 1024 - Nat.pow 2 970

/-- A number without a sign. -/
def Term.number? : Term → Except ValueFlaw Number
  | .number n => .ok n
  | _ => .error .malformed

/-- A number that may have one sign. -/
def Term.signedNumber? : Term → Except ValueFlaw Number
  | .signed _ t => t.number?
  | t => t.number?

/-- The sum of a number and an imaginary one. -/
def complexSum (left right : Number) : Except ValueFlaw Shape :=
  match left, right with
  | .whole n, .imaginary => if n < beyondDoubles then .ok (.number .imaginary) else .error .tooLarge
  | .fraction, .imaginary => .ok (.number .imaginary)
  | _, _ => .error .malformed

/-- A value in a set or as a key. -/
def Shape.checkFixed : Shape → Except ValueFlaw Unit
  | .changing kind => .error (.unhashable kind)
  | _ => .ok ()

/-- A tuple is as fixed as its parts. -/
def tupleShape (parts : List Shape) : Shape :=
  (parts.find? fun | .changing _ => true | _ => false).getD .fixed

mutual

/-- What a term stands for. -/
def Term.shape : Term → Except ValueFlaw Shape
  | .number n => .ok (.number n)
  | .text => .ok .fixed
  | .bytes => .ok .fixed
  | .constant _ => .ok .fixed
  | .tuple parts => (tupleParts parts).map tupleShape
  | .set parts => (setParts parts).map fun _ => .changing "set"
  | .dictionary entries => (dictionaryEntries entries).map fun _ => .changing "dict"
  | .call (.name "set") (.arguments [] []) => .ok (.changing "set")
  | .signed _ t => t.number?.map .number
  | .sum _ left right => do
    let l ← left.signedNumber?
    let r ← right.number?
    complexSum l r
  | _ => .error .malformed

def tupleParts : List Term → Except ValueFlaw (List Shape)
  | [] => .ok []
  | t :: rest => do
    let s ← t.shape
    let others ← tupleParts rest
    .ok (s :: others)

/-- The parts of a set are put into it one by one. -/
def setParts : List Term → Except ValueFlaw Unit
  | [] => .ok ()
  | t :: rest => do
    let s ← t.shape
    s.checkFixed
    setParts rest

/-- The entries of a dictionary are put into it one by one. -/
def dictionaryEntries : List Term → Except ValueFlaw Unit
  | [] => .ok ()
  | .entry .absent _ :: _ => .error .unpacked
  | .entry key value :: rest => do
    let k ← key.shape
    let _ ← value.shape
    k.checkFixed
    dictionaryEntries rest
  | _ :: _ => .error .malformed

end

/-- What is wrong with a literal. -/
inductive Complaint where
  | spelling (flaw : Flaw)
  /-- Its rules are nested too deep. -/
  | exhausted
  | value (flaw : ValueFlaw)
  deriving DecidableEq, Repr

/-- What is wrong with a literal, if anything; blanks in front of it do not count. -/
def complaint? (cs : List Char) : Option Complaint :=
  match readTerm (cs.dropWhile fun c => c = ' ' || c = '\t') with
  | .error (some flaw) => some (.spelling flaw)
  | .error none => some .exhausted
  | .ok t => match t.shape with
    | .ok _ => none
    | .error flaw => some (.value flaw)

end BundleBuild.Literal
