/-
What `echo` and `printf` write. Both read escapes after a backslash; the shell's own `echo` always
does, the stand-alone one only when asked. `printf` uses its format again as long as arguments are
left.
-/
import BundleBuild.Number.Spelling
import BundleBuild.Shell.Arithmetic

namespace BundleBuild.Shell

def isOctal (c : Char) : Bool :=
  '0' ≤ c && c ≤ '7'

def isHex (c : Char) : Bool :=
  digitValue c < 16

/-- The byte of a number, as one character. -/
def byteChar (n : Nat) : Char :=
  Char.ofNat (n % 256)

/-- The character of a one-letter escape. -/
def letterEscape? : Char → Option Char
  | 'a' => some '\x07'
  | 'b' => some '\x08'
  | 'e' => some '\x1b'
  | 'f' => some '\x0c'
  | 'n' => some '\n'
  | 'r' => some '\r'
  | 't' => some '\t'
  | 'v' => some '\x0b'
  | '\\' => some '\\'
  | _ => none

/-- An octal number of three digits at most, and what follows it. -/
def readOctal (cs : List Char) : Char × List Char :=
  let ds := (cs.take 3).takeWhile isOctal
  (byteChar (readDigits 8 ds).1, cs.drop ds.length)

/-- The escape after a backslash and what follows it; where there is none the backslash stands for
itself. -/
def readEscape (cs : List Char) : Char × List Char :=
  match cs with
  | [] => ('\\', [])
  | c :: rest =>
    if isOctal c then readOctal cs
    else match letterEscape? c with
      | some e => (e, rest)
      | none => ('\\', cs)

/-- The text with its escapes read, and whether `\c` cut it short; a zero may stand before an
octal number. `n` is at least the length of the text. -/
def readEscapes : Nat → List Char → List Char × Bool
  | 0, _ => ([], false)
  | _ + 1, [] => ([], false)
  | n + 1, '\\' :: rest =>
    match rest with
    | 'c' :: _ => ([], true)
    | _ =>
      let body := match rest with
        | '0' :: d :: _ => if isOctal d then rest.drop 1 else rest
        | _ => rest
      let (c, after) := readEscape body
      let (cs, cut) := readEscapes n after
      (c :: cs, cut)
  | n + 1, c :: rest =>
    let (cs, cut) := readEscapes n rest
    (c :: cs, cut)

/-- The shell's own `echo`: escapes are read, `-n` leaves the line open. -/
def echoBuiltin (args : List String) : List Char :=
  let (open_, words) := match args with
    | "-n" :: rest => (true, rest)
    | _ => (false, args)
  let line := (" ".intercalate words).toList
  let (cs, cut) := readEscapes line.length line
  if cut || open_ then cs else cs ++ ['\n']

/-- The text with the escapes of the stand-alone `echo` read, which also knows hexadecimal
numbers. -/
def readEscapesOrHex : Nat → List Char → List Char × Bool
  | 0, _ => ([], false)
  | _ + 1, [] => ([], false)
  | n + 1, '\\' :: rest =>
    match rest with
    | 'c' :: _ => ([], true)
    | _ =>
      let (c, after) := match rest with
        | '0' :: d :: _ => if isOctal d then readEscape (rest.drop 1) else readEscape rest
        | 'x' :: d :: _ =>
          if isHex d then
            let ds := ((rest.drop 1).take 2).takeWhile isHex
            (byteChar (readDigits 16 ds).1, rest.drop (1 + ds.length))
          else readEscape rest
        | _ => readEscape rest
      let (cs, cut) := readEscapesOrHex n after
      (c :: cs, cut)
  | n + 1, c :: rest =>
    let (cs, cut) := readEscapesOrHex n rest
    (c :: cs, cut)

/-- The options of the stand-alone `echo`: letters `n`, `e` and `E` after a dash. The result says
whether the line is left open and whether escapes are read. -/
def echoOptions (open_ escapes : Bool) : List String → Bool × Bool × List String
  | [] => (open_, escapes, [])
  | arg :: rest =>
    match arg.toList with
    | '-' :: c :: cs =>
      if (c :: cs).all ['n', 'e', 'E'].contains then
        let step (e : Bool) (c : Char) : Bool :=
          if c = 'e' then true else if c = 'E' then false else e
        echoOptions (open_ || (c :: cs).contains 'n') ((c :: cs).foldl step escapes) rest
      else (open_, escapes, arg :: rest)
    | _ => (open_, escapes, arg :: rest)

/-- The stand-alone `echo`: escapes are read only under `-e`. -/
def echoProgram (args : List String) : List Char :=
  let (open_, escapes, words) := echoOptions false false args
  let line := (" ".intercalate words).toList
  let (cs, cut) := if escapes then readEscapesOrHex line.length line else (line, false)
  if cut || open_ then cs else cs ++ ['\n']

/-! ## Formats -/

/-- A directive of a format. -/
structure Directive where
  flags : List Char := []
  width : Nat := 0
  precision : Option Nat := none
  letter : Char
  deriving DecidableEq, Repr

namespace Directive

def has (d : Directive) (flag : Char) : Bool :=
  d.flags.contains flag

/-- The text filled up with blanks to the width. -/
def pad (d : Directive) (cs : List Char) : List Char :=
  let blanks := List.replicate (d.width - cs.length) ' '
  if d.has '-' then cs ++ blanks else blanks ++ cs

/-- A number from what stands before its digits and from its digits. -/
def padNumber (d : Directive) (lead digits : List Char) (zeros : Bool) : List Char :=
  if zeros && d.has '0' && !d.has '-' then
    lead ++ List.replicate (d.width - lead.length - digits.length) '0' ++ digits
  else d.pad (lead ++ digits)

def sign (d : Directive) (negative : Bool) : List Char :=
  if negative then ['-'] else if d.has '+' then ['+'] else if d.has ' ' then [' '] else []

/-- The digits of a whole number, as many as the precision asks for. -/
def digits (d : Directive) (base n : Nat) : List Char :=
  let ds := if n = 0 && d.precision == some 0 then [] else Nat.toDigits base n
  List.replicate (d.precision.getD 1 - ds.length) '0' ++ ds

def writeSigned (d : Directive) (n : Int) : List Char :=
  d.padNumber (d.sign (n < 0)) (d.digits 10 n.natAbs) d.precision.isNone

def writeUnsigned (d : Directive) (n : Nat) : List Char :=
  let zeros := d.precision.isNone
  match d.letter with
  | 'o' =>
    let ds := d.digits 8 n
    d.padNumber [] (if d.has '#' && ds.head? ≠ some '0' then '0' :: ds else ds) zeros
  | 'x' => d.padNumber (if d.has '#' && n ≠ 0 then ['0', 'x'] else []) (d.digits 16 n) zeros
  | 'X' =>
    d.padNumber (if d.has '#' && n ≠ 0 then ['0', 'X'] else []) ((d.digits 16 n).map Char.toUpper)
      zeros
  | _ => d.padNumber [] (d.digits 10 n) zeros

/-- A quotient rounded to the nearest whole number, a half to the even one. -/
def roundedDiv (a b : Nat) : Nat :=
  let q := a / b
  let r := a % b
  if b < 2 * r then q + 1 else if 2 * r = b then q + q % 2 else q

/-- A whole number times a power of two as a quotient. -/
def quotient (m : Nat) (q : Int) : Nat × Nat :=
  if 0 ≤ q then (m * Nat.pow 2 q.toNat, 1) else (m, Nat.pow 2 (-q).toNat)

/-- A quotient with so many places after the point. -/
def fixed (a b places : Nat) (point : Bool) : List Char :=
  let ds := Nat.toDigits 10 (roundedDiv (a * Nat.pow 10 places) b)
  let ds' := List.replicate (places + 1 - ds.length) '0' ++ ds
  let whole := ds'.take (ds'.length - places)
  if places = 0 then if point then whole ++ ['.'] else whole
  else whole ++ '.' :: ds'.drop (ds'.length - places)

/-- The power of ten below a quotient that is not zero. -/
def magnitude (a b : Nat) : Int :=
  let e : Int := (Nat.toDigits 10 a).length - (Nat.toDigits 10 b).length
  let above := if 0 ≤ e then b * Nat.pow 10 e.toNat ≤ a else b ≤ a * Nat.pow 10 (-e).toNat
  if above then e else e - 1

/-- The digits of a quotient, one more than so many places, and the power of ten of the first. -/
def scientificDigits (a b places : Nat) : List Char × Int :=
  if a = 0 then (List.replicate (places + 1) '0', 0)
  else
    let e := magnitude a b
    let shift : Int := places - e
    let n := if 0 ≤ shift then roundedDiv (a * Nat.pow 10 shift.toNat) b
      else roundedDiv a (b * Nat.pow 10 (-shift).toNat)
    let ds := Nat.toDigits 10 n
    if places + 1 < ds.length then (ds.take (places + 1), e + 1) else (ds, e)

def scientific (ds : List Char) (e : Int) (point : Bool) : List Char :=
  let mantissa := match ds with
    | [] => []
    | [c] => if point then [c, '.'] else [c]
    | c :: rest => c :: '.' :: rest
  let es := Nat.toDigits 10 e.natAbs
  mantissa ++ 'e' :: (if e < 0 then '-' else '+') :: List.replicate (2 - es.length) '0' ++ es

/-- The digits without zeros at the end of the places after the point. -/
def withoutZeros (cs : List Char) : List Char :=
  if cs.contains '.' then
    let kept := (cs.reverse.dropWhile (· = '0'))
    (match kept with
      | '.' :: rest => rest
      | _ => kept).reverse
  else cs

/-- The shorter of the two forms. -/
def general (a b places : Nat) (point : Bool) : List Char :=
  let p := if places = 0 then 1 else places
  let (ds, e) := scientificDigits a b (p - 1)
  if -4 ≤ e && e < p then
    let cs := fixed a b (p - 1 - e).toNat point
    if point then cs else withoutZeros cs
  else if point then scientific ds e true
  else
    let ds' := (ds.reverse.dropWhile (· = '0')).reverse
    scientific (if ds'.isEmpty then ['0'] else ds') e false

/-- The hexadecimal form of `m · 2 ^ q`: a first digit, thirteen places or as many as the precision
asks for, and the power of two. -/
def hexadecimal (d : Directive) (m : Nat) (q : Int) : List Char :=
  let shift := 53 - (if m = 0 then 0 else Nat.log2 m + 1)
  let steps := min shift (q + 1074).toNat
  let scaled := m * Nat.pow 2 steps
  let e : Int := if m = 0 then 0 else q - steps + 52
  let places := d.precision.getD 13
  let rounded := if places < 13 then roundedDiv scaled (Nat.pow 16 (13 - places))
    else scaled * Nat.pow 16 (places - 13)
  let first := rounded / Nat.pow 16 places
  let ds := Nat.toDigits 16 (rounded % Nat.pow 16 places)
  let all := List.replicate (places - ds.length) '0' ++ (if places = 0 then [] else ds)
  let shown := if d.precision.isSome then all else (all.reverse.dropWhile (· = '0')).reverse
  let point := if shown.isEmpty && !d.has '#' then [] else ['.']
  Nat.digitChar first :: point ++ shown ++ 'p' :: (if e < 0 then '-' else '+') ::
    Nat.toDigits 10 e.natAbs

/-- A number as it was read: its sign, which one that is no number has, too, and its value. -/
structure Reading where
  negative : Bool
  value : DoubleView
  deriving DecidableEq, Repr

def writeDouble (d : Directive) (r : Reading) : List Char :=
  let cased (cs : List Char) := if d.letter.isUpper then cs.map Char.toUpper else cs
  let sign := d.sign r.negative
  match r.value with
  | .nan => d.pad (sign ++ cased ['n', 'a', 'n'])
  | .infinite _ => d.pad (sign ++ cased ['i', 'n', 'f'])
  | .finite _ m q =>
    let (a, b) := quotient m q
    let places := d.precision.getD 6
    let point := d.has '#'
    match d.letter.toLower with
    | 'a' => d.padNumber (sign ++ cased ['0', 'x']) (cased (d.hexadecimal m q)) true
    | 'f' => d.padNumber sign (cased (fixed a b places point)) true
    | 'e' =>
      let (ds, e) := scientificDigits a b places
      d.padNumber sign (cased (scientific ds e point)) true
    | _ => d.padNumber sign (cased (general a b places point)) true

def writeText (d : Directive) (cs : List Char) : List Char :=
  d.pad (match d.precision with
    | some n => cs.take n
    | none => cs)

end Directive

/-- What `printf` has done. -/
structure Printing where
  /-- The arguments left. -/
  args : List String
  /-- What was written, last first. -/
  written : List Char := []
  /-- Complaints about arguments, last first. -/
  complaints : List String := []

/-- Why `printf` stopped: at the cut that an escape asks for, or at a mistake. -/
inductive PrintingStop where
  | cut
  | mistake (text : String)

abbrev Print := EStateM PrintingStop Printing

namespace Print

def write (cs : List Char) : Print Unit :=
  modify fun s => { s with written := cs.reverse ++ s.written }

/-- The next argument. -/
def argument : Print (Option String) := do
  let s ← get
  match s.args with
  | [] => return none
  | a :: rest =>
    set { s with args := rest }
    return some a

def complain (text : String) : Print Unit :=
  modify fun s => { s with complaints := text :: s.complaints }

/-- The complaint about what follows a number in an argument. -/
def checkRest (arg : String) (rest : List Char) (inRange : Bool) : Print Unit := do
  if !rest.isEmpty then
    if rest.length = arg.length then complain (arg ++ ": expected numeric value")
    else complain (arg ++ ": not completely converted")
  else if !inRange then complain (arg ++ ": Numerical result out of range")

/-- The code of a character after a quotation mark. -/
def quotedCode? (arg : String) : Option Nat :=
  match arg.toList with
  | '"' :: rest => some ((rest.head?.map Char.toNat).getD 0)
  | '\'' :: rest => some ((rest.head?.map Char.toNat).getD 0)
  | _ => none

def signedArgument : Print Int := do
  match ← argument with
  | none => return 0
  | some arg =>
    match quotedCode? arg with
    | some code => return code
    | none =>
      let (n, rest) := readNumber true arg.toList
      checkRest arg rest (longMin ≤ n && n ≤ longMax)
      return max longMin (min longMax n)

def unsignedArgument : Print Nat := do
  match ← argument with
  | none => return 0
  | some arg =>
    match quotedCode? arg with
    | some code => return code
    | none =>
      let (n, rest) := readNumber true arg.toList
      let top := Nat.pow 2 64
      checkRest arg rest (n.natAbs < top)
      return if n.natAbs < top then (n % top).toNat else top - 1

/-- The exponent behind a letter, and what follows it. -/
def exponent? (letter : Char) : List Char → Option (Int × List Char)
  | c :: rest =>
    let (negative, ds) := match rest with
      | '-' :: ds => (true, ds)
      | '+' :: ds => (false, ds)
      | _ => (false, rest)
    let digits := ds.takeWhile Char.isDigit
    if c.toLower = letter && !digits.isEmpty then
      let n : Int := (readDigits 10 digits).1
      some (if negative then -n else n, ds.drop digits.length)
    else none
  | [] => none

/-- The digits before and after a point, at least one of them, and what follows. -/
def mantissa? (isDigit : Char → Bool) (cs : List Char) :
    Option (List Char × List Char × List Char) :=
  let whole := cs.takeWhile isDigit
  let after := cs.drop whole.length
  let (part, rest) := match after with
    | '.' :: more => (more.takeWhile isDigit, more.dropWhile isDigit)
    | _ => ([], after)
  if whole.isEmpty && part.isEmpty then none else some (whole, part, rest)

def isHexDigit (c : Char) : Bool :=
  (digitValue? 16 c).isSome

/-- The double nearest to a quotient, and whether it lies in the range of precise ones: it is not
infinite, and below the least normal double it is exact. -/
def nearestInRange (a b : Nat) : DoubleView × Bool :=
  let view := viewDouble (nearestDouble false a b)
  match view with
  | .finite _ m q =>
    let (a', b') := Directive.quotient m q
    (view, b ≤ a * Nat.pow 2 1022 || a * b' = a' * b)
  | _ => (view, false)

/-- The quotient of a decimal number; a power too far from any double is cut. -/
def decimalQuotient (digits : Nat) (e : Int) : Nat × Nat :=
  if digits = 0 then (0, 1)
  else if 0 ≤ e then (digits * Nat.pow 10 (min e.toNat 400), 1)
  else (digits, Nat.pow 10 (min (-e).toNat (400 + (Nat.toDigits 10 digits).length)))

/-- A number without its sign at the start of a text, whether it is in range, and what follows. -/
def magnitudeStart? (cs : List Char) : Option ((DoubleView × Bool) × List Char) :=
  let lower := cs.map Char.toLower
  let word (s : String) : Bool := s.toList.isPrefixOf lower
  if word "infinity" then some ((.infinite false, true), cs.drop 8)
  else if word "inf" then some ((.infinite false, true), cs.drop 3)
  else if word "nan" then
    let rest := cs.drop 3
    let inner := (rest.drop 1).takeWhile fun c => c.isAlphanum || c = '_'
    let after := rest.drop (inner.length + 1)
    if rest.head? == some '(' && after.head? == some ')' then some ((.nan, true), after.drop 1)
    else some ((.nan, true), rest)
  else
    match if word "0x" then mantissa? isHexDigit (cs.drop 2) else none with
    | some (whole, part, rest) =>
      let (e, after) := (exponent? 'p' rest).getD (0, rest)
      let (a, b) := Directive.quotient (digitsValue 16 (whole ++ part)) (e - 4 * part.length)
      some (nearestInRange a b, after)
    | none => (mantissa? Char.isDigit cs).map fun (whole, part, rest) =>
      let (e, after) := (exponent? 'e' rest).getD (0, rest)
      let (a, b) := decimalQuotient (digitsValue 10 (whole ++ part)) (e - part.length)
      (nearestInRange a b, after)

/-- A number at the start of a text, and what follows it. -/
def numberStart? (cs : List Char) : Option (Directive.Reading × Bool × List Char) :=
  let body := cs.dropWhile fun c => c = ' ' || ('\t' ≤ c && c ≤ '\r')
  let (negative, rest) := match body with
    | '-' :: rest => (true, rest)
    | '+' :: rest => (false, rest)
    | _ => (false, body)
  (magnitudeStart? rest).map fun ((value, inRange), after) => (⟨negative, value⟩, inRange, after)

def doubleArgument : Print Directive.Reading := do
  let zero : Directive.Reading := ⟨false, .finite false 0 0⟩
  match ← argument with
  | none => return zero
  | some arg =>
    match quotedCode? arg with
    | some code => return ⟨false, .finite false code 0⟩
    | none =>
      match numberStart? arg.toList with
      | none =>
        checkRest arg arg.toList true
        return zero
      | some (r, inRange, rest) =>
        checkRest arg rest inRange
        return r

/-- A count in a directive: digits, or a star for the next argument. -/
def count (cs : List Char) : Print (Option Int × List Char) := do
  match cs with
  | '*' :: rest => return (some (← signedArgument), rest)
  | _ =>
    let ds := cs.takeWhile Char.isDigit
    return (if ds.isEmpty then none else some (readDigits 10 ds).1, cs.dropWhile Char.isDigit)

/-- Writes what one directive asks for. -/
def directive (d : Directive) (text : List Char) : Print Unit := do
  match d.letter with
  | 's' => write (d.writeText ((← argument).getD "").toList)
  | 'b' =>
    let cs := ((← argument).getD "").toList
    let (bs, cut) := readEscapes cs.length cs
    write (d.writeText bs)
    if cut then throw .cut
  | 'c' => write (d.pad [(((← argument).getD "").toList.head?).getD '\x00'])
  | 'd' | 'i' => write (d.writeSigned (← signedArgument))
  | 'o' | 'u' | 'x' | 'X' => write (d.writeUnsigned (← unsignedArgument))
  | 'a' | 'A' | 'e' | 'E' | 'f' | 'F' | 'g' | 'G' => write (d.writeDouble (← doubleArgument))
  | _ => throw (.mistake (String.ofList text ++ ": invalid directive"))

/-- One pass over the format; `n` is at least its length. -/
def pass : Nat → List Char → Print Unit
  | 0, _ => pure ()
  | _ + 1, [] => pure ()
  | n + 1, '\\' :: rest => do
    let (c, after) := readEscape rest
    write [c]
    pass n after
  | n + 1, '%' :: '%' :: rest => do
    write ['%']
    pass n rest
  | n + 1, '%' :: rest => do
    let isFlag (c : Char) : Bool := ['#', '-', '+', ' ', '0'].contains c
    let flags := rest.takeWhile isFlag
    let (width, rest') ← count (rest.dropWhile isFlag)
    let (precision, rest'') ← match rest' with
      | '.' :: more => do
        let (p, after) ← count more
        pure (some (p.getD 0), after)
      | _ => pure (none, rest')
    match rest'' with
    | [] => throw (.mistake "missing format character")
    | letter :: after =>
      let negative := (width.getD 0) < 0
      directive {
        flags := if negative then '-' :: flags else flags
        width := (width.getD 0).natAbs
        precision := precision.bind fun p => if p < 0 then none else some p.toNat
        letter := letter } ('%' :: rest.take (rest.length - after.length))
      pass n after
  | n + 1, c :: rest => do
    write [c]
    pass n rest

/-- The passes over a format, as long as arguments are left and are used up. -/
def passes (format : List Char) : Nat → Print Unit
  | 0 => pure ()
  | n + 1 => do
    let before := (← get).args.length
    pass format.length format
    let left := (← get).args.length
    if 0 < left && left < before then passes format n

end Print

/-- What `printf` writes for a format and arguments, its complaints, and the mistake that stopped
it. -/
def printFormatted (format : String) (args : List String) :
    List Char × List String × Option String :=
  match Print.passes format.toList (args.length + 1) { args := args } with
  | .ok _ s => (s.written.reverse, s.complaints.reverse, none)
  | .error .cut s => (s.written.reverse, s.complaints.reverse, none)
  | .error (.mistake text) s => (s.written.reverse, s.complaints.reverse, some text)

end BundleBuild.Shell
