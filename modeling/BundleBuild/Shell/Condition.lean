/-
The conditions of `test`. With three or four arguments the place of an operator decides, with any
other number the grammar does: `-o` binds weakest, then `-a`, then `!`.
-/
import BundleBuild.Shell.Arithmetic

namespace BundleBuild.Shell

/-- The kinds of operators. -/
inductive ConditionOperator where
  /-- One operand follows. -/
  | unary
  /-- It stands between two operands. -/
  | binary
  /-- It joins or reverses conditions. -/
  | joint
  | bracket
  deriving DecidableEq, Repr

def conditionOperator? (s : String) : Option ConditionOperator :=
  if ["-r", "-w", "-x", "-e", "-f", "-d", "-c", "-b", "-p", "-u", "-g", "-k", "-s", "-t", "-z", "-n",
      "-h", "-O", "-G", "-L", "-S"].contains s then some .unary
  else if ["=", "!=", "<", ">", "-eq", "-ne", "-ge", "-gt", "-le", "-lt", "-nt", "-ot",
      "-ef"].contains s then some .binary
  else if ["!", "-a", "-o"].contains s then some .joint
  else if ["(", ")"].contains s then some .bracket
  else none

/-- A condition being checked: its words and the place reached. -/
structure Checking where
  words : List String
  place : Nat := 0
  /-- Whether a file, a text or a descriptor has the property of a letter. -/
  holds : Char → String → Bool
  /-- Whether two paths lead to one file. -/
  agree : String → String → Bool

abbrev Check := EStateM String Checking

namespace Check

def word? (offset : Nat) : Check (Option String) := do
  let s ← get
  return s.words[s.place + offset]?

def advance (n : Nat) : Check Unit :=
  modify fun s => { s with place := s.place + n }

def complain {α : Type} (subject text : String) : Check α :=
  throw (if subject.isEmpty then text else subject ++ ": " ++ text)

/-- The operator that the word at an offset is, where it can be one: what follows may make an
operand of it. -/
def operator? (offset : Nat) : Check (Option (String × ConditionOperator)) := do
  match ← word? offset with
  | none => return none
  | some s =>
    let after ← word? (offset + 1)
    let second ← word? (offset + 2)
    match conditionOperator? s with
    | none => return none
    | some .unary =>
      let isOperand : Bool := match after with
        | none => true
        | some t => second.isSome && conditionOperator? t == some .binary
      return if isOperand then none else some (s, .unary)
    | some .bracket =>
      return if s == "(" && after.isNone then none else some (s, .bracket)
    | some kind => return some (s, kind)

def number (s : String) : Check Int :=
  match wholeNumber? false s with
  | some n => return n
  | none => complain "" ("Illegal number: " ++ s)

def compare (op a b : String) : Check Bool := do
  match op with
  | "=" => return a == b
  | "!=" => return a != b
  | "<" => return a < b
  | ">" => return b < a
  | "-eq" => return (← number a) == (← number b)
  | "-ne" => return (← number a) != (← number b)
  | "-ge" => let m ← number a; let n ← number b; return n ≤ m
  | "-gt" => let m ← number a; let n ← number b; return n < m
  | "-le" => let m ← number a; let n ← number b; return m ≤ n
  | "-lt" => let m ← number a; let n ← number b; return m < n
  | "-ef" => return (← get).agree a b
  | _ => return false

def property (op operand : String) : Check Bool := do
  match op with
  | "-z" => return operand.isEmpty
  | "-n" => return !operand.isEmpty
  | "-t" => let _ ← number operand; return false
  | _ => return (← get).holds (op.toList.getLast?.getD 'e') operand

mutual

/-- Conditions joined by `-o`; the place is on the first word. -/
def disjunction : Nat → Check Bool
  | 0 => return false
  | n + 1 => do
    let a ← conjunction n
    if (← operator? 1).map (·.1) == some "-o" then
      advance 2
      let b ← disjunction n
      return a || b
    else return a

def conjunction : Nat → Check Bool
  | 0 => return false
  | n + 1 => do
    let a ← reversal n
    if (← operator? 1).map (·.1) == some "-a" then
      advance 2
      let b ← conjunction n
      return a && b
    else return a

def reversal : Nat → Check Bool
  | 0 => return false
  | n + 1 => do
    if (← operator? 0).map (·.1) == some "!" then
      if (← word? 1).isSome then
        advance 1
        return !(← reversal n)
      else return true
    else primary n

def primary : Nat → Check Bool
  | 0 => return false
  | n + 1 => do
    match ← word? 0, ← operator? 0 with
    | none, _ => return false
    | some _, some ("(", _) =>
      advance 1
      if (← operator? 0).map (·.1) == some ")" then return false
      else
        let result ← disjunction n
        advance 1
        if (← operator? 0).map (·.1) ≠ some ")" then complain "" "closing paren expected"
        return result
    | some op, some (_, .unary) =>
      advance 1
      match ← word? 0 with
      | none => complain op "argument expected"
      | some operand => property op operand
    | some a, _ =>
      match ← operator? 1 with
      | some (op, .binary) =>
        advance 2
        match ← word? 0 with
        | none => complain op "argument expected"
        | some b => compare op a b
      | _ => return !a.isEmpty

end

/-- The condition with the place of its words taken care of. -/
def whole (n : Nat) : Check Bool := do
  let result ← disjunction n
  match ← word? 0, ← word? 1 with
  | some op, some _ => complain op "unexpected operator"
  | _, _ => return result

/-- The condition of a list of words; a leading `!` of three or four reverses the rest. -/
def words : List String → Check Bool
  | [] => return false
  | "!" :: rest => do
    let all := "!" :: rest
    let operatorSecond := all.length = 3 &&
      (all[1]?.bind conditionOperator?) == some .binary
    if operatorSecond then
      set { ← get with words := all, place := 0 }
      match all with
      | [a, op, b] => compare op a b
      | _ => return false
    else if all.length = 3 || all.length = 4 then
      return !(← words rest)
    else
      set { ← get with words := all, place := 0 }
      whole (8 * all.length + 8)
  | all => do
    set { ← get with words := all, place := 0 }
    match all with
    | [a, op, b] =>
      if conditionOperator? op == some .binary then compare op a b
      else if a == "(" && b == ")" then
        set { ← get with words := [op], place := 0 }
        whole 16
      else whole 32
    | ["(", a, b, ")"] =>
      set { ← get with words := [a, b], place := 0 }
      whole 32
    | _ => whole (8 * all.length + 8)

end Check

/-- Whether a condition holds, or what is wrong with it. -/
def testCondition (holds : Char → String → Bool) (agree : String → String → Bool)
    (args : List String) : Except String Bool :=
  match Check.words args { words := args, holds := holds, agree := agree } with
  | .ok b _ => .ok b
  | .error e _ => .error e

end BundleBuild.Shell
