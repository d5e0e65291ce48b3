/-
What the rules of literals build: terms, with the names messages have for their kinds, and the parts
of terms that are none themselves.
-/
import BundleBuild.Literal.Token

namespace BundleBuild.Literal

/-- A term, or a part of one. Of operations only as much is kept as their value or a message needs. -/
inductive Term where
  /-- A part that may be missing, and is. -/
  | absent
  /-- A sign between other parts. -/
  | mark (spelling : String)
  /-- A quoted text that stands alone. -/
  | quoted (q : Quoted)
  /-- Parts of the same form in a row. -/
  | several (parts : List Term)
  | name (word : String)
  /-- One of the words for truth values and for nothing, or the three points. -/
  | constant (word : String)
  | number (n : Number)
  | text
  | bytes
  /-- A text with places to fill in. -/
  | pattern
  | tuple (parts : List Term)
  | set (parts : List Term)
  | dictionary (entries : List Term)
  /-- An entry of a dictionary; one without a key stands for all entries of its value. -/
  | entry (key value : Term)
  | starred (t : Term)
  /-- A term behind a plus or a minus sign. -/
  | signed (isMinus : Bool) (t : Term)
  /-- A sum or a difference. -/
  | sum (isMinus : Bool) (left right : Term)
  | operation
  | comparison (left : Term) (isMembership : Bool)
  | conditional
  | function
  | call (callee : Term) (arguments : Term)
  /-- The arguments of a call; those by name stand apart. -/
  | arguments (given named : List Term)
  /-- An argument by name, or many that a value holds. -/
  | named (unpacks : Bool)
  | member
  | yielded
  | awaited
  | generator
  | setOf
  | dictionaryOf
  | assignment
  deriving Repr

/-- What messages call a term. -/
def Term.kind : Term → String
  | .member => "attribute"
  | .starred _ => "starred"
  | .name _ => "name"
  | .tuple _ => "tuple"
  | .function => "lambda"
  | .call _ _ => "function call"
  | .signed _ _ => "expression"
  | .sum _ _ _ => "expression"
  | .operation => "expression"
  | .generator => "generator expression"
  | .yielded => "yield expression"
  | .awaited => "await expression"
  | .setOf => "set comprehension"
  | .dictionaryOf => "dict comprehension"
  | .dictionary _ => "dict literal"
  | .set _ => "set display"
  | .pattern => "f-string expression"
  | .constant word => if word = "..." then "ellipsis" else word
  | .comparison _ _ => "comparison"
  | .conditional => "conditional expression"
  | .assignment => "named expression"
  | _ => "literal"

/-- The parts of a row. -/
def Term.parts : Term → List Term
  | .several ts => ts
  | .absent => []
  | t => [t]

mutual

/-- The first part of a term that cannot stand where names are bound one after the other. -/
def Term.unbindable? : Term → Option Term
  | .tuple parts => firstUnbindable? parts
  | .starred t => t.unbindable?
  | .comparison left isMembership => if isMembership then left.unbindable? else none
  | .name _ => none
  | .member => none
  | t => some t

def firstUnbindable? : List Term → Option Term
  | [] => none
  | t :: rest => match t.unbindable? with
    | some bad => some bad
    | none => firstUnbindable? rest

end

/-- Whether a term is one of the two words that used to stand before their arguments. -/
def Term.isOldCommand : Term → Bool
  | .name word => word = "print" || word = "exec"
  | _ => false

end BundleBuild.Literal
