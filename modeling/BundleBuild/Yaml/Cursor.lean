/-
Reading a YAML text character by character: a cursor knows what is left of the text and the line
and column it stands at. The classes of characters that end words and lines are here too; the end
of the text belongs to all of them.
-/

namespace BundleBuild.Yaml

/-- The characters that end a line. -/
def isBreak (c : Char) : Bool :=
  c = '\n' || c = '\u0085' || c = '\u2028' || c = '\u2029'

/-- Spaces, tabs and line ends. -/
def isGap (c : Char) : Bool :=
  c = ' ' || c = '\t' || isBreak c

/-- The end of the text or of a line. -/
def endsLine : Option Char → Bool
  | none => true
  | some c => isBreak c

/-- The end of the text or a gap. -/
def endsWord : Option Char → Bool
  | none => true
  | some c => isGap c

/-- The end of the text, of a line, or a space. -/
def endsProperty : Option Char → Bool
  | none => true
  | some c => c = ' ' || isBreak c

/-- The letters, digits and joiners of names. -/
def isNameChar (c : Char) : Bool :=
  c.isAlphanum || c = '-' || c = '_'

structure Cursor where
  rest : List Char
  index : Nat := 0
  line : Nat := 0
  column : Nat := 0

namespace Cursor

def ofText (s : String) : Cursor :=
  { rest := s.toList }

/-- The character `n` places ahead. -/
def peek (c : Cursor) (n : Nat) : Option Char :=
  c.rest[n]?

/-- The character the cursor stands at. -/
def head (c : Cursor) : Option Char :=
  c.rest.head?

/-- One character further. A byte order mark takes up no column. -/
def next (c : Cursor) : Cursor :=
  match c.rest with
  | [] => c
  | ch :: rest =>
    if isBreak ch then ⟨rest, c.index + 1, c.line + 1, 0⟩
    else if ch = '\ufeff' then ⟨rest, c.index + 1, c.line, c.column⟩
    else ⟨rest, c.index + 1, c.line, c.column + 1⟩

def skip : Nat → Cursor → Cursor
  | 0, c => c
  | n + 1, c => skip n c.next

/-- The characters from here on that belong to a class, and the cursor behind them. -/
def takeWhile (c : Cursor) (p : Char → Bool) : List Char × Cursor :=
  let cs := c.rest.takeWhile p
  (cs, c.skip cs.length)

def skipWhile (c : Cursor) (p : Char → Bool) : Cursor :=
  (c.takeWhile p).2

def skipSpaces (c : Cursor) : Cursor :=
  c.skipWhile (· = ' ')

/-- Behind a comment, at the end of its line, if one starts here. -/
def skipComment (c : Cursor) : Cursor :=
  if c.head = some '#' then c.skipWhile (!isBreak ·) else c

/-- The line end the cursor stands at, if any, and the cursor behind it. The next-line control
reads as a line feed. -/
def lineBreak (c : Cursor) : Option Char × Cursor :=
  match c.head with
  | some ch =>
    if ch = '\n' || ch = '\u0085' then (some '\n', c.next)
    else if isBreak ch then (some ch, c.next)
    else (none, c)
  | none => (none, c)

/-- Whether a line that starts or ends a document stands here. -/
def atSeparator (c : Cursor) : Bool :=
  (c.rest.take 3 == ['-', '-', '-'] || c.rest.take 3 == ['.', '.', '.']) && endsWord (c.peek 3)

end Cursor

end BundleBuild.Yaml
