/-
Arithmetic in scripts: whole numbers of 64 bits with the operators and the precedence of C, and
assignment to variables. What is not evaluated, because a condition went the other way, is still
read.
-/
import BundleBuild.Shell.Script

namespace BundleBuild.Shell

/-- A whole number as 64 bits hold it. -/
def wrap (n : Int) : Int :=
  Int.bmod n (Nat.pow 2 64)

def longMax : Int := 9223372036854775807

def longMin : Int := -9223372036854775808

def digitValue (c : Char) : Nat :=
  if c.isDigit then c.toNat - '0'.toNat
  else if 'a' ≤ c && c ≤ 'z' then c.toNat - 'a'.toNat + 10
  else if 'A' ≤ c && c ≤ 'Z' then c.toNat - 'A'.toNat + 10
  else 36

/-- The digits of a base that a text starts with, as a number, and what follows them. -/
def readDigits (base : Nat) (cs : List Char) : Nat × List Char :=
  let ds := cs.takeWhile fun c => digitValue c < base
  (ds.foldl (fun n c => n * base + digitValue c) 0, cs.dropWhile fun c => digitValue c < base)

/-- A number without a sign: octal after a zero, hexadecimal after `0x`. -/
def readNatural (cs : List Char) : Nat × List Char :=
  match cs with
  | '0' :: x :: d :: rest =>
    if (x = 'x' || x = 'X') && digitValue d < 16 then readDigits 16 (d :: rest)
    else readDigits 8 cs
  | '0' :: _ => readDigits 8 cs
  | _ => readDigits 10 cs

/-- A number at the start of a text after blanks and a sign, and what follows it; nothing is
taken where there is none. -/
def readNumber (anyBase : Bool) (cs : List Char) : Int × List Char :=
  let body := cs.dropWhile fun c => c = ' ' || ('\t' ≤ c && c ≤ '\r')
  let (negative, digits) := match body with
    | '-' :: rest => (true, rest)
    | '+' :: rest => (false, rest)
    | _ => (false, body)
  if (digits.headD 'z').isDigit then
    let (n, rest) := if anyBase then readNatural digits else readDigits 10 digits
    (if negative then -(n : Int) else n, rest)
  else (0, cs)

/-- The value of a text that has to be a number; `anyBase` also takes an empty one as zero. -/
def wholeNumber? (anyBase : Bool) (s : String) : Option Int :=
  let cs := s.toList
  let (n, rest) := readNumber anyBase cs
  let blank := rest.all fun c => c = ' ' || ('\t' ≤ c && c ≤ '\r')
  if n < longMin || longMax < n then none
  else if !blank then none
  else if !anyBase && rest.length = cs.length then none
  else some n

inductive Lexeme where
  | number (n : Int)
  | name (s : String)
  | sign (s : String)
  | bad
  | finish
  deriving DecidableEq, Repr

/-- The signs of expressions, longer ones first. -/
def arithmeticSigns : List String :=
  ["<<=", ">>=", "<<", ">>", "<=", ">=", "==", "!=", "&&", "||", "+=", "-=", "*=", "/=", "%=", "&=",
    "|=", "^=", "=", "<", ">", "!", "&", "|", "+", "-", "*", "/", "%", "^", "~", "(", ")", "?", ":"]

/-- The next lexeme and what follows it. -/
def lexeme (cs : List Char) : Lexeme × List Char :=
  let body := cs.dropWhile fun c => c = ' ' || c = '\t' || c = '\n'
  match body with
  | [] => (.finish, [])
  | c :: rest =>
    if c.isDigit then
      let (n, after) := readNatural body
      (.number (min n longMax), after)
    else if isNameStart c then
      (.name (String.ofList (c :: rest.takeWhile isNameChar)), rest.dropWhile isNameChar)
    else match arithmeticSigns.find? fun s => s.toList.isPrefixOf body with
      | some s => (.sign s, body.drop s.length)
      | none => (.bad, body)

/-- What can go wrong in an expression. -/
inductive ArithmeticFault where
  /-- A word of the complaint about the whole expression. -/
  | complaint (text : String)
  /-- A variable that holds no number. -/
  | illegalNumber (value : String)
  deriving DecidableEq, Repr

/-- An expression being evaluated: the lexemes at hand, and the variables. -/
structure Evaluation where
  /-- The lexeme after the operand that was read last. -/
  last : Lexeme := .finish
  rest : List Char
  lookUp : String → Option String
  assigned : List (String × Int) := []

abbrev Evaluate := EStateM ArithmeticFault Evaluation

namespace Evaluate

def next : Evaluate Lexeme := do
  let s ← get
  let (l, rest) := lexeme s.rest
  set { s with rest := rest }
  return l

def setLast (l : Lexeme) : Evaluate Unit :=
  modify fun s => { s with last := l }

def valueOf (name : String) : Evaluate Int := do
  let s ← get
  match s.assigned.find? fun (k, _) => k == name with
  | some (_, n) => return n
  | none =>
    let text := (s.lookUp name).getD ""
    match wholeNumber? true text with
    | some n => return n
    | none => throw (.illegalNumber text)

/-- The rank of an operator of two operands, the tightest first. -/
def rank? : Lexeme → Option Nat
  | .sign s =>
    if ["*", "/", "%"].contains s then some 0
    else if ["+", "-"].contains s then some 1
    else if ["<<", ">>"].contains s then some 2
    else if ["<", "<=", ">", ">="].contains s then some 3
    else if ["==", "!="].contains s then some 4
    else if s == "&" then some 5
    else if s == "^" then some 6
    else if s == "|" then some 7
    else none
  | _ => none

def truth (b : Bool) : Int := if b then 1 else 0

/-- A number as 64 bits without a sign. -/
def bits (n : Int) : Nat :=
  (n % (Nat.pow 2 64 : Nat)).toNat

def calculate (op : String) (a b : Int) : Evaluate Int :=
  match op with
  | "*" => return wrap (a * b)
  | "/" => if b = 0 then throw (.complaint "division by zero") else return wrap (Int.tdiv a b)
  | "%" => if b = 0 then throw (.complaint "division by zero") else return wrap (Int.tmod a b)
  | "+" => return wrap (a + b)
  | "-" => return wrap (a - b)
  | "<<" => return wrap (a * (Nat.pow 2 (bits b % 64) : Nat))
  | ">>" => return Int.fdiv a (Nat.pow 2 (bits b % 64) : Nat)
  | "<" => return truth (a < b)
  | "<=" => return truth (a ≤ b)
  | ">" => return truth (b < a)
  | ">=" => return truth (b ≤ a)
  | "==" => return truth (a == b)
  | "!=" => return truth (a != b)
  | "&" => return wrap (Nat.land (bits a) (bits b))
  | "^" => return wrap (Nat.xor (bits a) (bits b))
  | _ => return wrap (Nat.lor (bits a) (bits b))

/-- The operator inside an assignment. -/
def assignment? : Lexeme → Option (Option String)
  | .sign s =>
    if s == "=" then some none
    else if ["<<=", ">>=", "+=", "-=", "*=", "/=", "%=", "&=", "|=", "^="].contains s then
      some (some (String.ofList s.toList.dropLast))
    else none
  | _ => none

mutual

/-- An assignment or a condition; its first lexeme is at hand. `skip`: the value is not wanted. -/
def assignment : Nat → Lexeme → Bool → Evaluate Int
  | 0, _, _ => throw (.complaint "expecting primary")
  | n + 1, first, skip => do
    let op ← next
    match first, assignment? op with
    | .name name, some inner =>
      let result ← assignment n (← next) skip
      if skip then return result
      else
        let value ← match inner with
          | none => pure result
          | some op => do calculate op (← valueOf name) result
        modify fun s => { s with assigned := (name, value) :: s.assigned }
        return value
    | _, _ => condition n first op skip

/-- A choice by a condition. -/
def condition : Nat → Lexeme → Lexeme → Bool → Evaluate Int
  | 0, _, _, _ => throw (.complaint "expecting primary")
  | n + 1, first, op, skip => do
    let a ← disjunction n first op skip
    if (← get).last ≠ .sign "?" then return a
    else
      let yes ← assignment n (← next) (skip || a = 0)
      if (← get).last ≠ .sign ":" then throw (.complaint "expecting ':'")
      let first' ← next
      let no ← condition n first' (← next) (skip || a ≠ 0)
      return if a ≠ 0 then yes else no

def disjunction : Nat → Lexeme → Lexeme → Bool → Evaluate Int
  | 0, _, _, _ => throw (.complaint "expecting primary")
  | n + 1, first, op, skip => do
    let a ← conjunction n first op skip
    if (← get).last ≠ .sign "||" then return a
    else
      let first' ← next
      let b ← disjunction n first' (← next) (skip || a ≠ 0)
      return truth (a ≠ 0 || b ≠ 0)

def conjunction : Nat → Lexeme → Lexeme → Bool → Evaluate Int
  | 0, _, _, _ => throw (.complaint "expecting primary")
  | n + 1, first, op, skip => do
    let a ← operand n first op skip
    let a' ← match rank? (← get).last with
      | some _ => operators n a 8 skip
      | none => pure a
    if (← get).last ≠ .sign "&&" then return a'
    else
      let first' ← next
      let b ← conjunction n first' (← next) (skip || a' = 0)
      return truth (a' ≠ 0 && b ≠ 0)

/-- Operators of a rank below `bound`, with the first operand at hand. -/
def operators : Nat → Int → Nat → Bool → Evaluate Int
  | 0, _, _, _ => throw (.complaint "expecting primary")
  | n + 1, a, bound, skip => do
    match (← get).last with
    | .sign op =>
      let first ← next
      let b ← operand n first (← next) skip
      let own := (rank? (.sign op)).getD 0
      let b' ← match rank? (← get).last with
        | some r => if r < own then operators n b own skip else pure b
        | none => pure b
      let a' ← if skip then pure b' else calculate op a b'
      match rank? (← get).last with
      | some r => if r < bound then operators n a' bound skip else return a'
      | none => return a'
    | _ => return a

/-- An operand; its first lexeme and the one after that are at hand. -/
def operand : Nat → Lexeme → Lexeme → Bool → Evaluate Int
  | 0, _, _, _ => throw (.complaint "expecting primary")
  | n + 1, first, op, skip => do
    match first with
    | .sign "(" =>
      let value ← assignment n op skip
      if (← get).last ≠ .sign ")" then throw (.complaint "expecting ')'")
      setLast (← next)
      return value
    | .number value => setLast op; return value
    | .name name => setLast op; if skip then return 0 else valueOf name
    | .sign "+" => operand n op (← next) skip
    | .sign "-" => return wrap (-(← operand n op (← next) skip))
    | .sign "!" => return truth ((← operand n op (← next) skip) = 0)
    | .sign "~" => return wrap (-(← operand n op (← next) skip) - 1)
    | _ => throw (.complaint "expecting primary")

end

end Evaluate

/-- The value of an expression and the variables it sets, the last set first. -/
def evaluate (lookUp : String → Option String) (expression : String) :
    Except ArithmeticFault (Int × List (String × Int)) :=
  let cs := expression.toList
  let whole : Evaluate Int := do
    let value ← Evaluate.assignment (8 * cs.length + 16) (← Evaluate.next) false
    if (← get).last ≠ .finish then throw (.complaint "expecting EOF")
    return value
  match whole { rest := cs, lookUp := lookUp } with
  | .ok value s => .ok (value, s.assigned)
  | .error e _ => .error e

end BundleBuild.Shell
