/-
Literals as tokens: names, numbers, quoted texts, signs and reserved words, line ends and the first
blanks of lines. Lines end only outside brackets. `scan` hands out the tokens up to the end of the
literal or to the first thing that is none.
-/
import BundleBuild.Literal.Flaw
import BundleBuild.Number.Numeral
import BundleBuild.Text.Letter

namespace BundleBuild.Literal

/-- What a number stands for, as far as it matters. -/
inductive Number where
  | whole (n : Nat)
  | fraction
  | imaginary
  deriving DecidableEq, Repr

/-- A quoted text: the letters before its quotes and what stands between them. -/
structure Quoted where
  isBytes : Bool
  isRaw : Bool
  isPattern : Bool
  body : List Char
  deriving DecidableEq, Repr

inductive Lexeme where
  | name (word : String)
  | number (n : Number)
  /-- A whole decimal number with too many digits to be read. -/
  | longNumber (digits : Nat)
  | text (q : Quoted)
  /-- An operator, a bracket or a reserved word. -/
  | sign (spelling : String)
  | newline
  | indent
  | finish
  deriving DecidableEq, Repr

structure Token where
  lexeme : Lexeme
  line : Nat
  /-- How many brackets are open behind it. -/
  level : Nat
  deriving DecidableEq, Repr

/-- A bracket that is open, and its line. -/
structure Bracket where
  char : Char
  line : Nat
  deriving DecidableEq, Repr

/-- How the tokens end. -/
inductive Ending where
  /-- With the end of the literal. -/
  | whole
  /-- With a flaw that stands above all those of the tokens before it. -/
  | wrong (flaw : Flaw)
  /-- With a flaw that counts only when the tokens are read so far; a bracket may be open. The last
  token may have been read up to the end of the literal. -/
  | cut (flaw : Flaw) (opened : Option Bracket) (isTouched : Bool)
  deriving DecidableEq, Repr

def reservedWords : List String :=
  ["False", "None", "True", "and", "as", "assert", "async", "await", "break", "class", "continue",
    "def", "del", "elif", "else", "except", "finally", "for", "from", "global", "if", "import",
    "in", "is", "lambda", "nonlocal", "not", "or", "pass", "raise", "return", "try", "while",
    "with", "yield"]

/-- Operators of several characters, the longest first. -/
def longSigns : List String :=
  ["**=", "//=", "<<=", ">>=", "!=", "%=", "&=", "**", "*=", "+=", "-=", "->", "//", "/=", ":=",
    "<<", "<=", "<>", "==", ">=", ">>", "@=", "^=", "|="]

/-- Whether a character belongs to a run that may be a name. -/
def inWord (c : Char) : Bool :=
  c.isAlphanum || c = '_' || 0x80 ≤ c.toNat

/-- Digits of a notation with single underscores between them, and what follows; `needed` says that
a digit has to come next. -/
def skipDigits (isDigit : Char → Bool) (flaw : Option Char → Flaw) :
    Bool → List Char → Except Flaw (List Char)
  | true, [] => .error (flaw none)
  | true, c :: rest =>
    if isDigit c then skipDigits isDigit flaw false rest else .error (flaw (some c))
  | false, [] => .ok []
  | false, c :: rest =>
    if c = '_' then skipDigits isDigit flaw true rest
    else if isDigit c then skipDigits isDigit flaw false rest
    else .ok (c :: rest)

def skipDecimals (cs : List Char) : Except Flaw (List Char) :=
  skipDigits Char.isDigit (fun _ => .badNumber .decimal) false cs

/-- Whether a word that may follow a number stands right behind it. -/
def wordBehindNumber (rest : List Char) : Bool :=
  ["and", "else", "for", "or", "not"].any (fun word =>
    word.toList.isPrefixOf rest && !((rest.drop word.length).head?.map inWord).getD false) ||
  ["if", "in", "is"].any (·.toList.isPrefixOf rest)

/-- A number ends where no letter follows, but for some words. -/
def endNumber (form : NumberForm) (rest : List Char) : Except Flaw (List Char) :=
  match rest with
  | c :: _ =>
    if (c.isAlphanum || c = '_') && !wordBehindNumber rest then .error (.badNumber form)
    else .ok rest
  | [] => .ok rest

/-- The digits of a number behind `0x`, `0o` or `0b`. -/
def basedNumber (form : NumberForm) (isDigit : Char → Bool) (rest : List Char) :
    Except Flaw (List Char) := do
  let flaw : Option Char → Flaw
    | some c => if c.isDigit && form ≠ .hexadecimal then .badDigit c form else .badNumber form
    | none => .badNumber form
  let rest := match rest with
    | '_' :: more => more
    | _ => rest
  match ← skipDigits isDigit flaw true rest with
  | c :: more =>
    if c.isDigit && form ≠ .hexadecimal then .error (.badDigit c form)
    else endNumber form (c :: more)
  | [] => .ok []

/-- The end of a number that may be imaginary. -/
def endDecimal (plain : Number) : List Char → Except Flaw (Number × List Char)
  | c :: rest =>
    if c = 'j' || c = 'J' then (endNumber .imaginary rest).map (Number.imaginary, ·)
    else (endNumber .decimal (c :: rest)).map (plain, ·)
  | [] => .ok (plain, [])

/-- What may follow the digits of a number: an exponent and the mark of an imaginary one. A letter
that starts no exponent ends the number. -/
def afterDigits (plain : Number) : List Char → Except Flaw (Number × List Char)
  | e :: rest =>
    if e = 'e' || e = 'E' then
      match rest with
      | c :: more =>
        if c = '+' || c = '-' then do
          let rest ← skipDigits Char.isDigit (fun _ => .badNumber .decimal) true more
          endDecimal .fraction rest
        else if c.isDigit then do
          let rest ← skipDecimals rest
          endDecimal .fraction rest
        else (endNumber .decimal (e :: rest)).map (plain, ·)
      | [] => .error (.badNumber .decimal)
    else endDecimal plain (e :: rest)
  | [] => .ok (plain, [])

/-- What follows the point of a number. -/
def afterPoint (rest : List Char) : Except Flaw (Number × List Char) :=
  match rest with
  | c :: _ =>
    if c.isDigit then do
      let rest ← skipDecimals rest
      afterDigits .fraction rest
    else afterDigits .fraction rest
  | [] => .ok (.fraction, [])

/-- What follows the zeros at the start of a number. -/
def skipZeros : List Char → Except Flaw (List Char)
  | '_' :: c :: rest =>
    if !c.isDigit then .error (.badNumber .decimal)
    else if c = '0' then skipZeros rest
    else .ok (c :: rest)
  | ['_'] => .error (.badNumber .decimal)
  | '0' :: rest => skipZeros rest
  | cs => .ok cs

/-- The value of a run of digits with underscores. -/
def digitsValue (base : Nat) (digits : List Char) : Nat :=
  digits.foldl (fun n c => (digitValue? base c).elim n (n * base + ·)) 0

/-- A number from its first digit on. -/
def readNumber (cs : List Char) : Except Flaw (Number × List Char) :=
  let whole (base : Nat) (digits rest : List Char) : Number :=
    .whole (digitsValue base (digits.take (digits.length - rest.length)))
  match cs with
  | '0' :: x :: digits =>
    if x = 'x' || x = 'X' then do
      let rest ← basedNumber .hexadecimal (fun c => (digitValue? 16 c).isSome) digits
      .ok (whole 16 digits rest, rest)
    else if x = 'o' || x = 'O' then do
      let rest ← basedNumber .octal (fun c => (digitValue? 8 c).isSome) digits
      .ok (whole 8 digits rest, rest)
    else if x = 'b' || x = 'B' then do
      let rest ← basedNumber .binary (fun c => (digitValue? 2 c).isSome) digits
      .ok (whole 2 digits rest, rest)
    else do
      let behind ← skipZeros (x :: digits)
      let nonzero := (behind.head?.map Char.isDigit).getD false
      let behind ← if nonzero then skipDecimals behind else .ok behind
      match behind with
      | '.' :: more => afterPoint more
      | c :: _ =>
        if ['e', 'E', 'j', 'J'].contains c then afterDigits (.whole 0) behind
        else if nonzero then .error .leadingZeros
        else afterDigits (.whole 0) behind
      | [] => if nonzero then .error .leadingZeros else .ok (.whole 0, [])
  | _ => do
    let rest ← skipDecimals cs
    match rest with
    | '.' :: more => afterPoint more
    | _ => afterDigits (whole 10 cs rest) rest

/-- The most digits a whole number may have. -/
def digitLimit : Nat := 4300

/-- The body of a text behind its opening quote, up to a quote on the same line, and what follows;
`none` when there is no such quote. -/
def shortBody? (q : Char) : List Char → Option (List Char × List Char)
  | [] => none
  | '\\' :: c :: rest => (shortBody? q rest).map fun (body, after) => ('\\' :: c :: body, after)
  | c :: rest =>
    if c = q then some ([], rest)
    else if c = '\n' then none
    else (shortBody? q rest).map fun (body, after) => (c :: body, after)

/-- The body of a text up to three quotes. -/
def longBody? (q : Char) : List Char → Option (List Char × List Char)
  | [] => none
  | '\\' :: c :: rest => (longBody? q rest).map fun (body, after) => ('\\' :: c :: body, after)
  | c :: rest =>
    match rest with
    | a :: b :: after =>
      if c = q && a = q && b = q then some ([], after)
      else (longBody? q rest).map fun (body, after) => (c :: body, after)
    | _ => (longBody? q rest).map fun (body, after) => (c :: body, after)

def countLines (cs : List Char) : Nat :=
  cs.countP (· = '\n')

/-- The line that the last character of a text stands on, when its first one stands on `line`. -/
def lastLine (line : Nat) (cs : List Char) : Nat :=
  line + countLines cs.dropLast

/-- The line on which a text that is never closed was found to end: behind the first line end that is
not escaped. -/
def lineOfBreak (line : Nat) : List Char → Nat
  | [] => line
  | '\\' :: c :: rest =>
    if c = '\n' && !rest.isEmpty then lineOfBreak (line + 1) rest else lineOfBreak line rest
  | c :: rest => if c = '\n' then line else lineOfBreak line rest

/-- The body of a text from its opening quote on, and what follows. -/
def readQuoted (line : Nat) (q : Char) (rest : List Char) :
    Except Flaw (List Char × List Char) :=
  match rest with
  | a :: b :: more =>
    if a = q && b = q then
      (longBody? q more).elim (.error (.openLongText (lastLine line rest))) .ok
    else (shortBody? q rest).elim (.error (.openText (lineOfBreak line rest))) .ok
  | _ => (shortBody? q rest).elim (.error (.openText (lineOfBreak line rest))) .ok

/-- The letters that may stand right before a quote. -/
def isTextMark (word : List Char) : Bool :=
  ["b", "r", "u", "f", "br", "rb", "fr", "rf"].contains
    (String.ofList (word.map Char.toLower))

/-- The first character of a run that cannot stand there in a name. -/
def foreignChar? : List Char → Option Char
  | [] => none
  | c :: rest => if startsName c then rest.find? (!continuesName ·) else some c

def wordLexeme (word : List Char) : Except Flaw Lexeme :=
  match foreignChar? word with
  | some c => .error (if isShown c then .foreign c else .unprintable c)
  | none =>
    let name := String.ofList word
    .ok (if reservedWords.contains name then .sign name else .name name)

/-- A word, or a text that starts with one. -/
def readWord (line : Nat) (cs : List Char) : Except Flaw (Lexeme × List Char) := do
  let word := cs.takeWhile inWord
  let rest := cs.drop word.length
  let plain (_ : Unit) := (wordLexeme word).map (·, rest)
  match rest with
  | q :: quoted =>
    if (q = '\'' || q = '"') && isTextMark word then
      let (body, after) ← readQuoted line q quoted
      let small := word.map Char.toLower
      .ok (.text ⟨small.contains 'b', small.contains 'r', small.contains 'f', body⟩, after)
    else plain ()
  | [] => plain ()

/-- A number token; one of too many decimal digits is kept apart. -/
def numberLexeme (cs : List Char) : Except Flaw (Lexeme × List Char) := do
  let (n, rest) ← readNumber cs
  let digits := ((cs.take (cs.length - rest.length)).filter Char.isDigit).length
  match n with
  | .whole _ =>
    if cs.head? ≠ some '0' && digitLimit < digits then .ok (.longNumber digits, rest)
    else .ok (.number n, rest)
  | _ => .ok (.number n, rest)

def closerOf : Char → Char
  | '(' => ')'
  | '[' => ']'
  | _ => '\x7d'

/-- The most brackets that may be open at once. -/
def levelLimit : Nat := 200

/-- The brackets open behind a character. -/
def stepBrackets (line : Nat) (opened : List Bracket) (c : Char) : Except Flaw (List Bracket) :=
  if ['(', '[', '\x7b'].contains c then
    if levelLimit ≤ opened.length then .error .tooNested else .ok (⟨c, line⟩ :: opened)
  else if [')', ']', '\x7d'].contains c then
    match opened with
    | [] => .error (.unmatched c)
    | b :: others =>
      if closerOf b.char = c then .ok others
      else .error (.mismatched c b.char (if b.line = line then none else some b.line))
  else .ok opened

/-- Where a scan stands. -/
structure Cursor where
  rest : List Char
  line : Nat := 1
  atStart : Bool := true
  opened : List Bracket := []
  /-- How far the lines around this one are indented, with tabs of eight and of one, the innermost
  first. -/
  indents : List (Nat × Nat) := []
  /-- Whether the last token was read up to the end of the literal. -/
  isTouched : Bool := false
  deriving Repr

/-- The first blanks of a line. -/
structure Indent where
  /-- How far they go with tabs of eight. -/
  wide : Nat := 0
  /-- How far they go with tabs of one. -/
  narrow : Nat := 0
  /-- How far they went on the first of lines that are joined. -/
  joined : Nat := 0
  line : Nat
  deriving Repr

/-- How far a line is indented. -/
def Indent.measure (i : Indent) : Nat × Nat :=
  if i.joined = 0 then (i.wide, i.narrow) else (i.joined, i.joined)

/-- What joins a line to the next one; `opened` is the bracket that is open. -/
def joinLine (opened : Option Bracket) : List Char → Except Ending (List Char)
  | ['\n'] => .error (match opened with
    | none => .cut .endMissing none false
    | some b => .cut (.neverClosed b.char) (some b) false)
  | '\n' :: rest => .ok rest
  | _ => .error (.cut .strayBackslash opened false)

/-- Reads the first blanks of a line, and goes on where lines are joined. -/
def readIndent (opened : Option Bracket) : Nat → Indent → List Char →
    Except Ending (Indent × List Char)
  | 0, i, rest => .ok (i, rest)
  | fuel + 1, i, c :: rest =>
    match c with
    | ' ' => readIndent opened fuel { i with wide := i.wide + 1, narrow := i.narrow + 1 } rest
    | '\t' =>
      readIndent opened fuel { i with wide := (i.wide / 8 + 1) * 8, narrow := i.narrow + 1 } rest
    | '\x0c' => readIndent opened fuel { i with wide := 0, narrow := 0 } rest
    | '\\' => do
      let next ← joinLine opened rest
      let joined := if i.joined = 0 then i.wide else i.joined
      readIndent opened fuel { i with joined, line := i.line + 1 } next
    | _ => .ok (i, c :: rest)
  | _ + 1, i, [] => .ok (i, [])

/-- How a line is indented compared with those around it. -/
inductive IndentStep where
  | same
  | deeper
  /-- Back to lines that are indented so. -/
  | back (indents : List (Nat × Nat))
  | uneven

def compareIndent (indents : List (Nat × Nat)) (now : Nat × Nat) : IndentStep :=
  let last := indents.headD (0, 0)
  if now.1 = last.1 then if now.2 = last.2 then .same else .uneven
  else if last.1 < now.1 then if now.2 ≤ last.2 then .uneven else .deeper
  else
    let kept := indents.dropWhile (now.1 < ·.1)
    if kept.headD (0, 0) = now then .back kept else .uneven

/-- The token of the longest sign at the very front. -/
def signAt (c : Char) (rest : List Char) : String × List Char :=
  match longSigns.find? (·.toList.isPrefixOf (c :: rest)) with
  | some s => (s, rest.drop (s.length - 1))
  | none => (c.toString, rest)

/-- Whether a token ends only where something else is seen behind it. -/
def Lexeme.looksBehind : Lexeme → Bool
  | .text q => q.body.isEmpty
  | .sign s => s.length < 3 || reservedWords.contains s
  | _ => true

/-- The tokens from a place on. -/
def scanFrom : Nat → Cursor → List Token × Ending
  | 0, _ => ([], .cut .malformed none false)
  | fuel + 1, k =>
    let hand (lexeme : Lexeme) (k : Cursor) : List Token × Ending :=
      let isTouched := k.rest.isEmpty && lexeme.looksBehind
      let (ts, ending) := scanFrom fuel { k with isTouched }
      (⟨lexeme, k.line, k.opened.length⟩ :: ts, ending)
    let take (read : Except Flaw (Lexeme × List Char)) : List Token × Ending :=
      match read with
      | .error flaw => ([], .wrong flaw)
      | .ok (lexeme, rest) =>
        let passed := countLines (k.rest.take (k.rest.length - rest.length))
        let isTouched := rest.isEmpty && lexeme.looksBehind
        let (ts, ending) := scanFrom fuel { k with rest, line := k.line + passed, isTouched }
        (⟨lexeme, k.line, k.opened.length⟩ :: ts, ending)
    if k.atStart then
      match readIndent k.opened.head? k.rest.length { line := k.line } k.rest with
      | .error ending => ([], ending)
      | .ok (indent, rest) =>
      let k := { k with rest, line := indent.line, atStart := false }
      let blank := match rest with
        | c :: _ => c = '#' || c = '\n'
        | [] => true
      if blank || !k.opened.isEmpty then
        match rest with
        | '#' :: _ =>
          match rest.dropWhile (· ≠ '\n') with
          | _ :: rest => scanFrom fuel { k with rest, line := k.line + 1, atStart := true }
          | [] => scanFrom fuel { k with rest := [] }
        | '\n' :: rest => scanFrom fuel { k with rest, line := k.line + 1, atStart := true }
        | _ => scanFrom fuel k
      else match compareIndent k.indents indent.measure with
        | .same => scanFrom fuel k
        | .deeper => hand .indent { k with indents := indent.measure :: k.indents }
        | .back indents => scanFrom fuel { k with indents }
        | .uneven => ([], .cut .malformed none false)
    else match k.rest with
      | [] => match k.opened with
        | [] => ([⟨.finish, k.line, 0⟩], .whole)
        | b :: _ => ([], .cut (.neverClosed b.char) (some b) k.isTouched)
      | c :: rest =>
        if c = ' ' || c = '\t' || c = '\x0c' then scanFrom fuel { k with rest }
        else if c = '#' then scanFrom fuel { k with rest := rest.dropWhile (· ≠ '\n') }
        else if c = '\n' then
          let next := { k with rest, line := k.line + 1, atStart := true }
          if k.opened.isEmpty then
            let (ts, ending) := scanFrom fuel next
            (⟨.newline, k.line, 0⟩ :: ts, ending)
          else scanFrom fuel next
        else if c.isAlpha || c = '_' || 0x80 ≤ c.toNat then take (readWord k.line k.rest)
        else if c.isDigit then take (numberLexeme k.rest)
        else if c = '\'' || c = '"' then
          take ((readQuoted k.line c rest).map fun (body, after) =>
            (.text ⟨false, false, false, body⟩, after))
        else if c = '\\' then
          match joinLine k.opened.head? rest with
          | .error ending => ([], ending)
          | .ok rest => scanFrom fuel { k with rest, line := k.line + 1 }
        else if c = '.' then
          match rest with
          | '.' :: '.' :: rest => hand (.sign "...") { k with rest }
          | d :: _ =>
            if d.isDigit then
              take ((afterPoint rest).map fun (n, after) => (.number n, after))
            else hand (.sign ".") { k with rest }
          | [] => hand (.sign ".") { k with rest }
        else
          let (spelling, rest) := signAt c rest
          if 1 < spelling.length then hand (.sign spelling) { k with rest }
          else match stepBrackets k.line k.opened c with
            | .error flaw => ([], .wrong flaw)
            | .ok opened =>
              if isShown c then hand (.sign spelling) { k with rest, opened }
              else ([], .wrong (.unprintable c))

/-- Line ends of every kind as one character. -/
def unifyLineEnds : List Char → List Char
  | '\r' :: '\n' :: rest => '\n' :: unifyLineEnds rest
  | '\r' :: rest => '\n' :: unifyLineEnds rest
  | c :: rest => c :: unifyLineEnds rest
  | [] => []

/-- The tokens of a literal. -/
def scan (cs : List Char) : List Token × Ending :=
  let cs := unifyLineEnds cs
  scanFrom (2 * cs.length + 2) { rest := cs }

end BundleBuild.Literal
