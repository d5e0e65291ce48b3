/-
Scalars of YAML texts: plain ones, quoted ones and blocks. Line ends inside a scalar fold into
spaces, except in literal blocks and where lines are empty or indented further.
-/
import BundleBuild.Text.Points
import BundleBuild.Number.Numeral
import BundleBuild.Yaml.Cursor
import BundleBuild.Yaml.Token

namespace BundleBuild.Yaml

def malformed {α : Type} : Except DocumentError α :=
  .error .malformed

/-- What a line end and the empty lines after it fold to. -/
def foldBreaks (first : Char) (more : List Char) : List Char :=
  if first ≠ '\n' then first :: more
  else if more.isEmpty then [' ']
  else more

/-! ## Quoted scalars -/

/-- The character a one-letter escape stands for. -/
def escaped? : Char → Option Char
  | '0' => some '\x00'
  | 'a' => some '\x07'
  | 'b' => some '\x08'
  | 't' => some '\t'
  | '\t' => some '\t'
  | 'n' => some '\n'
  | 'v' => some '\x0b'
  | 'f' => some '\x0c'
  | 'r' => some '\r'
  | 'e' => some '\x1b'
  | ' ' => some ' '
  | '"' => some '"'
  | '\\' => some '\\'
  | '/' => some '/'
  | 'N' => some '\u0085'
  | '_' => some '\u00a0'
  | 'L' => some '\u2028'
  | 'P' => some '\u2029'
  | _ => none

/-- How many digits follow a numbered escape. -/
def escapeWidth? : Char → Option Nat
  | 'x' => some 2
  | 'u' => some 4
  | 'U' => some 8
  | _ => none

/-- The number of a character, or half of a pair of numbers for one. -/
def charNumber (n : Nat) : Except DocumentError Nat :=
  if n < 0x110000 then .ok n
  else if n < 0x80000000 then
    .error (.valueless "ValueError" "chr() arg not in range(0x110000)")
  else .error (.valueless "OverflowError" "Python int too large to convert to C int")

def codes (cs : List Char) : Points :=
  cs.map Char.toNat

/-- The line ends of a quoted scalar from here on, blanks around them dropped. -/
def quotedBreaks : Nat → Cursor → Except DocumentError (List Char × Cursor)
  | 0, c => .ok ([], c)
  | fuel + 1, c =>
    if c.atSeparator then malformed
    else
      let c := c.skipWhile fun ch => ch = ' ' || ch = '\t'
      match c.lineBreak with
      | (some b, c') => (quotedBreaks fuel c').map fun (bs, end_) => (b :: bs, end_)
      | (none, _) => .ok ([], c)

/-- The blanks of a quoted scalar from here on, folded when a line ends among them. -/
def quotedSpaces (c : Cursor) : Except DocumentError (List Char × Cursor) :=
  let (blanks, c) := c.takeWhile fun ch => ch = ' ' || ch = '\t'
  match c.head with
  | none => malformed
  | some _ =>
    match c.lineBreak with
    | (some b, c') => (quotedBreaks (c'.rest.length + 1) c').map fun (bs, end_) =>
        (foldBreaks b bs, end_)
    | (none, _) => .ok (blanks, c)

/-- The text of a quoted scalar up to the next blank or its closing quote. -/
def quotedWord (double : Bool) : Nat → Cursor → Except DocumentError (Points × Cursor)
  | 0, _ => malformed
  | fuel + 1, c =>
    let (plain, c) := c.takeWhile fun ch => !(isGap ch || ['\'', '"', '\\'].contains ch)
    let add (ps : Points) (c : Cursor) : Except DocumentError (Points × Cursor) :=
      (quotedWord double fuel c).map fun (more, end_) => (codes plain ++ ps ++ more, end_)
    let go (cs : List Char) (c : Cursor) : Except DocumentError (Points × Cursor) :=
      add (codes cs) c
    match c.head with
    | some '\'' =>
      if double then go ['\''] c.next
      else if c.peek 1 = some '\'' then go ['\''] (c.skip 2)
      else .ok (codes plain, c)
    | some '"' => if double then .ok (codes plain, c) else go ['"'] c.next
    | some '\\' =>
      if !double then go ['\\'] c.next
      else
        let c := c.next
        match c.head with
        | none => malformed
        | some e =>
          match escaped? e, escapeWidth? e with
          | some ch, _ => go [ch] c.next
          | none, some width =>
            let c := c.next
            let digits := c.rest.take width
            if digits.length = width && digits.all fun d => (digitValue? 16 d).isSome then do
              let n ← charNumber (digitsValue 16 digits)
              add [n] (c.skip width)
            else malformed
          | none, none =>
            match c.lineBreak with
            | (some _, c') => do
              let (bs, c'') ← quotedBreaks (c'.rest.length + 1) c'
              go bs c''
            | (none, _) => malformed
    | _ => .ok (codes plain, c)

/-- The words and blanks of a quoted scalar up to its closing quote. -/
def quotedRest (double : Bool) : Nat → Cursor → Except DocumentError (Points × Cursor)
  | 0, _ => malformed
  | fuel + 1, c =>
    if c.head = some (if double then '"' else '\'') then .ok ([], c.next)
    else do
      let (blanks, c1) ← quotedSpaces c
      let (word, c2) ← quotedWord double (c1.rest.length + 1) c1
      let (more, c3) ← quotedRest double fuel c2
      return (codes blanks ++ word ++ more, c3)

/-- A quoted scalar; the cursor stands at its opening quote. -/
def readQuoted (double : Bool) (c : Cursor) : Except DocumentError (Points × Cursor) := do
  let c0 := c.next
  let (word, c1) ← quotedWord double (c0.rest.length + 1) c0
  let (more, c2) ← quotedRest double (c1.rest.length + 1) c1
  return (word ++ more, c2)

/-! ## Plain scalars -/

def isFlowMark (c : Char) : Bool :=
  [',', '[', ']', '\x7b', '\x7d'].contains c

/-- Whether a plain scalar goes on with this character, given the one after it. -/
def inPlain (flow : Bool) (ch : Char) (after : Option Char) : Bool :=
  !(isGap ch ||
    (ch = ':' && (endsWord after || (flow && (after.map isFlowMark).getD false))) ||
    (flow && (isFlowMark ch || ch = '?')))

/-- The characters of a plain scalar up to a gap or a mark. -/
def plainWord (flow : Bool) : List Char → List Char
  | [] => []
  | ch :: rest => if inPlain flow ch rest.head? then ch :: plainWord flow rest else []

/-- What stands between two words of a plain scalar. -/
structure PlainGap where
  /-- What the gap folds to. -/
  text : List Char
  /-- Whether a line ended in it. -/
  broken : Bool
  cursor : Cursor

/-- The empty lines of a plain scalar from here on; nothing when a document ends among them. -/
def plainBreaks : Nat → Cursor → Option (List Char) × Cursor
  | 0, c => (some [], c)
  | fuel + 1, c =>
    if c.head = some ' ' then plainBreaks fuel c.next
    else match c.lineBreak with
      | (none, _) => (some [], c)
      | (some b, c') =>
        if c'.atSeparator then (none, c')
        else
          let (bs, end_) := plainBreaks fuel c'
          (bs.map (b :: ·), end_)

/-- The gap after a word of a plain scalar. -/
def plainGap (c : Cursor) : PlainGap :=
  let (spaces, c) := c.takeWhile (· = ' ')
  match c.lineBreak with
  | (none, _) => ⟨spaces, false, c⟩
  | (some b, c') =>
    if c'.atSeparator then ⟨[], true, c'⟩
    else match plainBreaks (c'.rest.length + 1) c' with
      | (none, end_) => ⟨[], true, end_⟩
      | (some bs, end_) => ⟨foldBreaks b bs, true, end_⟩

/-- The words of a plain scalar, with whether the last gap held a line end. In block context the
scalar ends where a line is indented less than `indent`. -/
def plainRest (flow : Bool) (indent : Int) : Nat → List Char → Bool → Cursor →
    List Char × Bool × Cursor
  | 0, _, broken, c => ([], broken, c)
  | fuel + 1, gap, broken, c =>
    if c.head = some '#' then ([], broken, c)
    else match plainWord flow c.rest with
      | [] => ([], broken, c)
      | word =>
        let after := plainGap (c.skip word.length)
        if after.text.isEmpty || after.cursor.head = some '#' ||
            (!flow && (after.cursor.column : Int) < indent) then
          (gap ++ word, after.broken, after.cursor)
        else
          let (more, broken', end_) :=
            plainRest flow indent fuel after.text after.broken after.cursor
          (gap ++ word ++ more, broken', end_)

/-- A plain scalar, and whether a line ended behind its last word. -/
def readPlain (flow : Bool) (indent : Int) (c : Cursor) : Points × Bool × Cursor :=
  let (cs, broken, end_) := plainRest flow indent (c.rest.length + 1) [] false c
  (codes cs, broken, end_)

/-! ## Block scalars -/

/-- What happens to the line ends at the end of a block. -/
inductive Chomping where
  | strip
  | clip
  | keep
  deriving DecidableEq, Repr

def chompingOf? : Option Char → Option Chomping
  | some '+' => some .keep
  | some '-' => some .strip
  | _ => none

/-- The indentation digit of a block header; zero is refused. -/
def incrementOf? (c : Option Char) : Except DocumentError (Option Nat) :=
  match c.bind (digitValue? 10) with
  | some 0 => malformed
  | other => .ok other

/-- The header of a block: the two indicators in either order. -/
def blockHeader (c : Cursor) : Except DocumentError ((Chomping × Option Nat) × Cursor) := do
  let (chomping, increment, c) ← match chompingOf? c.head with
    | some chomping => do
      let c := c.next
      match ← incrementOf? c.head with
      | some n => pure (chomping, some n, c.next)
      | none => pure (chomping, none, c)
    | none => do
      match ← incrementOf? c.head with
      | some n =>
        let c := c.next
        match chompingOf? c.head with
        | some chomping => pure (chomping, some n, c.next)
        | none => pure (Chomping.clip, some n, c)
      | none => pure (Chomping.clip, none, c)
  if endsProperty c.head then return ((chomping, increment), c) else malformed

/-- Behind the rest of a line that may hold a comment and nothing else. -/
def endLine (c : Cursor) : Except DocumentError Cursor :=
  let c := c.skipSpaces.skipComment
  if endsLine c.head then .ok c.lineBreak.2 else malformed

/-- The empty lines before a block and the widest indentation among them and of its first line. -/
def blockIndentation : Nat → Nat → Cursor → List Char × Nat × Cursor
  | 0, widest, c => ([], widest, c)
  | fuel + 1, widest, c =>
    if c.head = some ' ' then
      let c := c.next
      blockIndentation fuel (max widest c.column) c
    else match c.lineBreak with
      | (some b, c') =>
        let (bs, w, end_) := blockIndentation fuel widest c'
        (b :: bs, w, end_)
      | (none, _) => ([], widest, c)

/-- Behind the spaces that indent a line, up to column `indent`. -/
def skipIndent (indent : Nat) (c : Cursor) : Cursor :=
  c.skip (min (c.rest.takeWhile (· = ' ')).length (indent - c.column))

/-- The empty lines inside a block. -/
def blockBreaks (indent : Nat) : Nat → Cursor → List Char × Cursor
  | 0, c => ([], c)
  | fuel + 1, c =>
    let c := skipIndent indent c
    match c.lineBreak with
    | (some b, c') =>
      let (bs, end_) := blockBreaks indent fuel c'
      (b :: bs, end_)
    | (none, _) => ([], c)

/-- What a block scalar reads: its text but for the tail, the last line end and the empty lines
after it. -/
structure BlockText where
  text : List Char
  lastBreak : List Char
  breaks : List Char
  cursor : Cursor

def isMoreIndented : Option Char → Bool
  | some ' ' => true
  | some '\t' => true
  | _ => false

/-- The lines of a block from here on, after the empty lines `breaks`. -/
def blockLines (folded : Bool) (indent : Nat) : Nat → List Char → Cursor → BlockText
  | 0, breaks, c => ⟨[], [], breaks, c⟩
  | fuel + 1, breaks, c =>
    if c.column ≠ indent || c.head.isNone then ⟨[], [], breaks, c⟩
    else
      let indented := isMoreIndented c.head
      let (line, c1) := c.takeWhile (!isBreak ·)
      let (b, c2) := c1.lineBreak
      let (breaks', c3) := blockBreaks indent (c2.rest.length + 1) c2
      if c3.column = indent && c3.head.isSome then
        let joint :=
          if folded && b = some '\n' && !indented && !isMoreIndented c3.head then
            if breaks'.isEmpty then [' '] else []
          else b.toList
        let rest := blockLines folded indent fuel breaks' c3
        { rest with text := breaks ++ line ++ joint ++ rest.text }
      else ⟨breaks ++ line, b.toList, breaks', c3⟩

/-- A block scalar in a collection indented by `parent`; the cursor stands at its mark. -/
def readBlock (folded : Bool) (parent : Int) (c : Cursor) :
    Except DocumentError (Points × Cursor) := do
  let ((chomping, increment), c) ← blockHeader c.next
  let c ← endLine c
  let least := (max (parent + 1) 1).toNat
  let (indent, breaks, c) := match increment with
    | some n =>
      let indent := least + n - 1
      let (bs, c) := blockBreaks indent (c.rest.length + 1) c
      (indent, bs, c)
    | none =>
      let (bs, widest, c) := blockIndentation (c.rest.length + 1) 0 c
      (max least widest, bs, c)
  let block := blockLines folded indent (c.rest.length + 1) breaks c
  let tail := match chomping with
    | .strip => []
    | .clip => block.lastBreak
    | .keep => block.lastBreak ++ block.breaks
  return (codes (block.text ++ tail), block.cursor)

end BundleBuild.Yaml
