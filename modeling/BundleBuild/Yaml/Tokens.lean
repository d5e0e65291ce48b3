/-
From YAML text to tokens. Indentation turns into start and end tokens of collections. A key is
recognised only at the colon behind it, so places where a key may have started are remembered,
one for each level of brackets, and the key token is put there afterwards.
-/
import BundleBuild.Text.Utf8
import BundleBuild.Number.Spelling
import BundleBuild.Yaml.Scalar

namespace BundleBuild.Yaml

/-- A place where a key may have started. -/
structure PossibleKey where
  /-- The number of tokens before it. -/
  position : Nat
  /-- Whether something other than a key is an error there. -/
  required : Bool
  index : Nat
  line : Nat
  column : Nat

structure Scan where
  cursor : Cursor
  /-- How many brackets are open. -/
  flow : Nat := 0
  /-- The column of the current block collection. -/
  indent : Int := -1
  /-- The columns of the collections around it. -/
  indents : List Int := []
  /-- Whether a key may start here. -/
  keyAllowed : Bool := true
  /-- Where keys may have started, by level of brackets. -/
  keys : List (Nat × PossibleKey) := []
  tokens : List Token := []

namespace Scan

abbrev Step := Except DocumentError Scan

def push (s : Scan) (t : Token) : Scan :=
  { s with tokens := s.tokens ++ [t] }

/-- Passes `n` characters and adds a token. -/
def take (s : Scan) (n : Nat) (t : Token) : Scan :=
  { s.push t with cursor := s.cursor.skip n }

/-! ## Possible keys -/

/-- The longest text between the start of a key and its colon. -/
def keyLimit : Nat := 1024

def isStale (s : Scan) (k : PossibleKey) : Bool :=
  k.line ≠ s.cursor.line || keyLimit < s.cursor.index - k.index

/-- Forgets the places too far back to start a key; one that was required is an error. -/
def dropStale (s : Scan) : Step :=
  if s.keys.any fun (_, k) => s.isStale k && k.required then malformed
  else .ok { s with keys := s.keys.filter fun (_, k) => !s.isStale k }

def possibleKey? (s : Scan) : Option PossibleKey :=
  (s.keys.find? fun (level, _) => level = s.flow).map (·.2)

/-- Forgets the possible key of this level; one that was required is an error. -/
def dropKey (s : Scan) : Step :=
  match s.possibleKey? with
  | some k =>
    if k.required then malformed
    else .ok { s with keys := s.keys.filter fun (level, _) => level ≠ s.flow }
  | none => .ok s

/-- Remembers this place if a key may start here. -/
def saveKey (s : Scan) : Step :=
  if s.keyAllowed then do
    let s ← s.dropKey
    let k : PossibleKey := {
      position := s.tokens.length
      required := s.flow = 0 && s.indent = s.cursor.column
      index := s.cursor.index
      line := s.cursor.line
      column := s.cursor.column }
    return { s with keys := (s.flow, k) :: s.keys }
  else .ok s

/-! ## Indentation -/

/-- Ends the block collections indented further than `column`. -/
def unwind (column : Int) : List Int → Scan → Scan
  | [], s => s
  | outer :: rest, s =>
    if column < s.indent then
      unwind column rest { s.push .blockEnd with indent := outer, indents := rest }
    else s

/-- Brackets hold their content together whatever its indentation. -/
def unwindTo (column : Int) (s : Scan) : Scan :=
  if s.flow = 0 then unwind column s.indents s else s

/-- The scan inside a collection at `column`, if that is further than the current one. -/
def indentTo? (column : Nat) (s : Scan) : Option Scan :=
  if s.indent < column then
    some { s with indents := s.indent :: s.indents, indent := column }
  else none

/-- The start token of a block collection here, if one starts. -/
def startBlock (s : Scan) (t : Token) : Scan :=
  match s.indentTo? s.cursor.column with
  | some s' => s'.push t
  | none => s

/-! ## Gaps -/

/-- Behind spaces, comments and line ends. After a line end a key may start. -/
def skipGaps : Nat → Scan → Scan
  | 0, s => s
  | fuel + 1, s =>
    let c := s.cursor.skipSpaces.skipComment
    match c.lineBreak with
    | (some _, c') =>
      skipGaps fuel { s with cursor := c', keyAllowed := s.keyAllowed || s.flow = 0 }
    | (none, _) => { s with cursor := c }

/-- Behind a byte order mark at the very start. -/
def skipMark (s : Scan) : Scan :=
  if s.cursor.index = 0 && s.cursor.head = some '\ufeff' then { s with cursor := s.cursor.next }
  else s

/-! ## Directives, tags and anchors -/

def readNumber (c : Cursor) : Except DocumentError (Nat × Cursor) :=
  match c.takeWhile isDigit with
  | ([], _) => malformed
  | (ds, c') =>
    if digitLimit < ds.length then
      .error (.valueless "ValueError" (longNumeralMessage ds.length))
    else .ok (digitsValue 10 ds, c')

/-- The characters of a tag outside its escapes. -/
def isTagChar (c : Char) : Bool :=
  c.isAlphanum || "-;/?:@&=+$,_.!~*'()[]".toList.contains c

/-- Escaped bytes of a tag from here on. -/
def readTagBytes : Nat → Cursor → Except DocumentError (List UInt8 × Cursor)
  | 0, _ => malformed
  | fuel + 1, c =>
    if c.head = some '%' then
      let digits := (c.rest.drop 1).take 2
      if digits.length = 2 && digits.all fun d => (digitValue? 16 d).isSome then
        (readTagBytes fuel (c.skip 3)).map fun (bs, end_) =>
          (UInt8.ofNat (digitsValue 16 digits) :: bs, end_)
      else malformed
    else .ok ([], c)

/-- The pieces of a tag from here on. -/
def readTagPieces : Nat → Cursor → Except DocumentError (List Char × Cursor)
  | 0, _ => malformed
  | fuel + 1, c =>
    let (plain, c) := c.takeWhile isTagChar
    if c.head = some '%' then do
      let (bytes, c') ← readTagBytes (c.rest.length + 1) c
      match decodeUtf8 bytes with
      | .error _ => malformed
      | .ok s => do
        let (more, end_) ← readTagPieces fuel c'
        return (plain ++ s.toList ++ more, end_)
    else .ok (plain, c)

/-- The text of a tag, at least one character. -/
def readTagText (c : Cursor) : Except DocumentError (String × Cursor) := do
  let (cs, c') ← readTagPieces (c.rest.length + 1) c
  if c'.rest.length = c.rest.length then malformed else return (String.ofList cs, c')

/-- The handle of a tag: a name between two exclamation marks, or one alone. -/
def readHandle (c : Cursor) : Except DocumentError (String × Cursor) :=
  if c.head ≠ some '!' then malformed
  else if c.peek 1 = some ' ' then .ok ("!", c.next)
  else
    let (name, c') := c.next.takeWhile isNameChar
    if c'.head = some '!' then .ok (String.ofList ('!' :: name ++ ['!']), c'.next) else malformed

def readDirective (c : Cursor) : Except DocumentError (Directive × Cursor) := do
  let (name, c) := c.next.takeWhile isNameChar
  if name.isEmpty || !endsProperty c.head then malformed
  else
    let (directive, c) ← match String.ofList name with
      | "YAML" => do
        let (major, c) ← readNumber c.skipSpaces
        if c.head ≠ some '.' then malformed
        else
          let (minor, c) ← readNumber c.next
          if endsProperty c.head then pure (Directive.version major minor, c) else malformed
      | "TAG" => do
        let (handle, c) ← readHandle c.skipSpaces
        if c.head ≠ some ' ' then malformed
        else
          let (start, c) ← readTagText c.skipSpaces
          if endsProperty c.head then pure (Directive.tag handle start, c) else malformed
      | _ => pure (Directive.other, c.skipWhile (!isBreak ·))
    let c ← endLine c
    return (directive, c)

/-- The name of an anchor or an alias; the cursor stands at its mark. -/
def readName (c : Cursor) : Except DocumentError (String × Cursor) :=
  let (name, c) := c.next.takeWhile isNameChar
  let ended := match c.head with
    | none => true
    | some ch => isGap ch || ['?', ':', ',', ']', '\x7d', '%', '@', '\x60'].contains ch
  if name.isEmpty || !ended then malformed else .ok (String.ofList name, c)

def readTag (c : Cursor) : Except DocumentError (TagText × Cursor) := do
  let (tag, c) ←
    if c.peek 1 = some '<' then do
      let (suffix, c) ← readTagText (c.skip 2)
      if c.head = some '>' then pure (TagText.mk none suffix, c.next) else malformed
    else if endsWord (c.peek 1) then pure (TagText.mk none "!", c.next)
    else do
      let word := (c.rest.drop 1).takeWhile fun ch => !(ch = ' ' || isBreak ch)
      let (handle, c) ← if word.contains '!' then readHandle c else pure ("!", c.next)
      let (suffix, c) ← readTagText c
      pure (TagText.mk (some handle) suffix, c)
  if endsProperty c.head then return (tag, c) else malformed

/-! ## Single tokens -/

def fetchDirective (s : Scan) : Step := do
  let s ← (s.unwindTo (-1)).dropKey
  let (d, c) ← readDirective s.cursor
  return { s.push (.directive d) with cursor := c, keyAllowed := false }

def fetchSeparator (s : Scan) (t : Token) : Step := do
  let s ← (s.unwindTo (-1)).dropKey
  return { s.take 3 t with keyAllowed := false }

def fetchFlowStart (s : Scan) (t : Token) : Step := do
  let s ← s.saveKey
  return { s.take 1 t with flow := s.flow + 1, keyAllowed := true }

def fetchFlowEnd (s : Scan) (t : Token) : Step := do
  let s ← s.dropKey
  return { s.take 1 t with flow := s.flow - 1, keyAllowed := false }

def fetchFlowEntry (s : Scan) : Step := do
  let s ← s.dropKey
  return { s.take 1 .flowEntry with keyAllowed := true }

def fetchBlockEntry (s : Scan) : Step := do
  if s.flow = 0 && !s.keyAllowed then malformed
  else
    let s := if s.flow = 0 then s.startBlock .blockSequenceStart else s
    let s ← s.dropKey
    return { s.take 1 .blockEntry with keyAllowed := true }

def fetchKey (s : Scan) : Step := do
  if s.flow = 0 && !s.keyAllowed then malformed
  else
    let s := if s.flow = 0 then s.startBlock .blockMappingStart else s
    let s ← s.dropKey
    return { s.take 1 .key with keyAllowed := s.flow = 0 }

/-- The tokens with some more put in at a position. -/
def insertAt (position : Nat) (more ts : List Token) : List Token :=
  ts.take position ++ more ++ ts.drop position

/-- A colon: what stands at the possible key of this level was a key, if there is one. -/
def fetchValue (s : Scan) : Step :=
  match s.possibleKey? with
  | some k =>
    let s := { s with keys := s.keys.filter fun (level, _) => level ≠ s.flow }
    let (start, s) := match if s.flow = 0 then s.indentTo? k.column else none with
      | some s' => ([Token.blockMappingStart, .key], s')
      | none => ([.key], s)
    let s := { s with tokens := insertAt k.position start s.tokens }
    .ok { s.take 1 .value with keyAllowed := false }
  | none => do
    if s.flow = 0 && !s.keyAllowed then malformed
    else
      let s := if s.flow = 0 then s.startBlock .blockMappingStart else s
      let s ← s.dropKey
      return { s.take 1 .value with keyAllowed := s.flow = 0 }

def fetchAlias (s : Scan) : Step := do
  let s ← s.saveKey
  let (name, c) ← readName s.cursor
  return { s.push (.alias name) with cursor := c, keyAllowed := false }

def fetchAnchor (s : Scan) : Step := do
  let s ← s.saveKey
  let (name, c) ← readName s.cursor
  return { s.push (.anchor name) with cursor := c, keyAllowed := false }

def fetchTag (s : Scan) : Step := do
  let s ← s.saveKey
  let (tag, c) ← readTag s.cursor
  return { s.push (.tag tag) with cursor := c, keyAllowed := false }

def fetchBlock (s : Scan) (folded : Bool) : Step := do
  let s ← s.dropKey
  let (text, c) ← readBlock folded s.indent s.cursor
  return { s.push (.scalar text false) with cursor := c, keyAllowed := true }

def fetchQuoted (s : Scan) (double : Bool) : Step := do
  let s ← s.saveKey
  let (text, c) ← readQuoted double s.cursor
  return { s.push (.scalar text false) with cursor := c, keyAllowed := false }

def fetchPlain (s : Scan) : Step := do
  let s ← s.saveKey
  let (text, broken, c) := readPlain (s.flow ≠ 0) (s.indent + 1) s.cursor
  return { s.push (.scalar text true) with cursor := c, keyAllowed := broken }

/-- Whether a plain scalar may start with this character, given the one after it. -/
def startsPlain (flow : Bool) (ch : Char) (after : Option Char) : Bool :=
  !(isGap ch || "-?:,[]\x7b\x7d#&*!|>'\"%@\x60".toList.contains ch) ||
    (!endsWord after && (ch = '-' || (!flow && (ch = '?' || ch = ':'))))

/-- The token that starts with `ch`, where the scan stands. -/
def fetch (s : Scan) (ch : Char) : Step :=
  let after := s.cursor.peek 1
  let atStart := s.cursor.column = 0
  if ch = '%' && atStart then s.fetchDirective
  else if ch = '-' && atStart && s.cursor.atSeparator then s.fetchSeparator .documentStart
  else if ch = '.' && atStart && s.cursor.atSeparator then s.fetchSeparator .documentEnd
  else if ch = '[' then s.fetchFlowStart .flowSequenceStart
  else if ch = '\x7b' then s.fetchFlowStart .flowMappingStart
  else if ch = ']' then s.fetchFlowEnd .flowSequenceEnd
  else if ch = '\x7d' then s.fetchFlowEnd .flowMappingEnd
  else if ch = ',' then s.fetchFlowEntry
  else if ch = '-' && endsWord after then s.fetchBlockEntry
  else if ch = '?' && (s.flow ≠ 0 || endsWord after) then s.fetchKey
  else if ch = ':' && (s.flow ≠ 0 || endsWord after) then s.fetchValue
  else if ch = '*' then s.fetchAlias
  else if ch = '&' then s.fetchAnchor
  else if ch = '!' then s.fetchTag
  else if ch = '|' && s.flow = 0 then s.fetchBlock false
  else if ch = '>' && s.flow = 0 then s.fetchBlock true
  else if ch = '\'' then s.fetchQuoted false
  else if ch = '"' then s.fetchQuoted true
  else if startsPlain (s.flow ≠ 0) ch after then s.fetchPlain
  else malformed

/-- Up to the next token: behind the gaps, with the collections that end there ended. -/
def advance (s : Scan) : Step := do
  let s := s.skipMark
  let s ← (skipGaps (s.cursor.rest.length + 1) s).dropStale
  return s.unwindTo s.cursor.column

def finish (s : Scan) : Step := do
  let s ← (s.unwindTo (-1)).dropKey
  return s.push .streamEnd

/-- The tokens that are settled where the text goes wrong: those before the first place that may
still become a key. -/
def settled (s : Scan) : List Token :=
  let live := s.keys.filter fun (_, k) => !s.isStale k
  s.tokens.take ((live.map fun (_, k) => k.position).foldl min s.tokens.length)

/-- The tokens of what is left; where the text goes wrong they end in a failure. -/
def run : Nat → Scan → List Token
  | 0, s => s.tokens ++ [.failure .malformed]
  | fuel + 1, s =>
    match s.advance with
    | .error e => s.settled ++ [.failure e]
    | .ok ahead =>
      match ahead.cursor.head with
      | none => match ahead.finish with
        | .ok done => done.tokens
        | .error e => s.settled ++ [.failure e]
      | some ch => match ahead.fetch ch with
        | .ok next => run fuel next
        | .error e => s.settled ++ [.failure e]

end Scan

/-- The characters a text may hold. -/
def isAllowed (c : Char) : Bool :=
  let n := c.toNat
  n = 9 || n = 10 || n = 13 || (0x20 ≤ n && n ≤ 0x7E) || n = 0x85 || (0xA0 ≤ n && n ≤ 0xD7FF) ||
    (0xE000 ≤ n && n ≤ 0xFFFD) || 0x10000 ≤ n

/-- The tokens of a text. -/
def tokensOf (s : String) : List Token :=
  if s.toList.all isAllowed then Scan.run (s.length + 2) { cursor := Cursor.ofText s }
  else [.failure .malformed]

end BundleBuild.Yaml
