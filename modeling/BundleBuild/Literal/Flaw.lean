/-
What may be wrong with the spelling of a literal, and the words that say so.
-/
import BundleBuild.Text.Quoted

namespace BundleBuild.Literal

/-- How a number is written. -/
inductive NumberForm where
  | decimal
  | hexadecimal
  | octal
  | binary
  | imaginary
  deriving DecidableEq, Repr

def NumberForm.name : NumberForm → String
  | .decimal => "decimal"
  | .hexadecimal => "hexadecimal"
  | .octal => "octal"
  | .binary => "binary"
  | .imaginary => "imaginary"

/-- What is wrong with the parameters of a nameless function. -/
inductive ParameterFlaw where
  | defaultFirst
  | bracketed
  | slashFirst
  | slashTwice
  | slashBehindStar
  | slashBeforeStar
  | bareStar
  | starDefault
  | starTwice
  | unpackedDefault
  | behindUnpacked
  | noDefault
  deriving DecidableEq, Repr

def ParameterFlaw.message : ParameterFlaw → String
  | .defaultFirst => "non-default argument follows default argument"
  | .bracketed => "Lambda expression parameters cannot be parenthesized"
  | .slashFirst => "at least one argument must precede /"
  | .slashTwice => "/ may appear only once"
  | .slashBehindStar => "/ must be ahead of *"
  | .slashBeforeStar => "expected comma between / and *"
  | .bareStar => "named arguments must follow bare *"
  | .starDefault => "var-positional argument cannot have default value"
  | .starTwice => "* argument may appear only once"
  | .unpackedDefault => "var-keyword argument cannot have default value"
  | .behindUnpacked => "arguments cannot follow var-keyword argument"
  | .noDefault => "expected default value expression"

/-- Why an escape in a text cannot be read. -/
inductive EscapeFlaw where
  | shortTwo
  | shortFour
  | shortEight
  | beyondLast
  | malformedName
  | unknownName
  deriving DecidableEq, Repr

def EscapeFlaw.message : EscapeFlaw → String
  | .shortTwo => "truncated \\xXX escape"
  | .shortFour => "truncated \\uXXXX escape"
  | .shortEight => "truncated \\UXXXXXXXX escape"
  | .beyondLast => "illegal Unicode character"
  | .malformedName => "malformed \\N character escape"
  | .unknownName => "unknown Unicode character name"

/-- What is wrong with a text that has places to fill in. -/
inductive PatternFlaw where
  | singleBrace
  | missingBrace
  | tooDeep
  | backslash
  | comment
  | tooNested
  | unmatched (c : Char)
  | mismatched (close opening : Char)
  | openText
  | conversion
  | empty
  | emptyBefore (c : Char)
  deriving DecidableEq, Repr

def PatternFlaw.message : PatternFlaw → String
  | .singleBrace => "f-string: single '\x7d' is not allowed"
  | .missingBrace => "f-string: expecting '\x7d'"
  | .tooDeep => "f-string: expressions nested too deeply"
  | .backslash => "f-string expression part cannot include a backslash"
  | .comment => "f-string expression part cannot include '#'"
  | .tooNested => "f-string: too many nested parenthesis"
  | .unmatched c => "f-string: unmatched '" ++ c.toString ++ "'"
  | .mismatched close opening => "f-string: closing parenthesis '" ++ close.toString ++
      "' does not match opening parenthesis '" ++ opening.toString ++ "'"
  | .openText => "f-string: unterminated string"
  | .conversion => "f-string: invalid conversion character: expected 's', 'r', or 'a'"
  | .empty => "f-string: empty expression not allowed"
  | .emptyBefore c => "f-string: expression required before '" ++ c.toString ++ "'"

/-- What is wrong with a literal. A `kind` says in words what stands in the wrong place. -/
inductive Flaw where
  | malformed
  | nullCharacter
  | unprintable (c : Char)
  | foreign (c : Char)
  | openText (line : Nat)
  | openLongText (line : Nat)
  | unmatched (close : Char)
  /-- A bracket closed by another one; a line stands here when it was opened on an earlier one. -/
  | mismatched (close opening : Char) (line : Option Nat)
  | neverClosed (opening : Char)
  | tooNested
  | strayBackslash
  | endMissing
  | indented
  | badNumber (form : NumberForm)
  | badDigit (digit : Char) (form : NumberForm)
  | leadingZeros
  | longNumber (digits : Nat)
  | badEscape (first last : Nat) (why : EscapeFlaw)
  | badByteEscape (position : Nat)
  | foreignByte
  | mixedTexts
  | missingComma
  | missingElse
  | missingCall (name : String)
  | assignedWith (kind : String)
  | assignedHere (kind : String)
  | assigned (kind : String)
  | meantEquality
  | assignedInCall
  | bareGenerator
  | starredBehindUnpacked
  | positionalBehindKeyword
  | positionalBehindUnpacked
  | starredComprehension
  | bareTarget
  | unpackedComprehension
  | starredAlone
  | unpackedAlone
  | starAlone
  | keyWithoutColon
  | keyWithoutValue
  | starredValue
  | parameter (f : ParameterFlaw)
  | pattern (f : PatternFlaw)
  /-- A flaw of what fills a place in a text. -/
  | inPlace (f : Flaw)
  deriving DecidableEq, Repr

/-- The number of a character in capital hexadecimal digits, four at least. -/
def charNumber (c : Char) : String :=
  "U+" ++ String.ofList ((hexDigits 4 c.toNat).map Char.toUpper)

def Flaw.message : Flaw → String
  | .malformed => "invalid syntax"
  | .nullCharacter => "source code string cannot contain null bytes"
  | .unprintable c => "invalid non-printable character " ++ charNumber c
  | .foreign c => "invalid character '" ++ c.toString ++ "' (" ++ charNumber c ++ ")"
  | .openText line =>
    "unterminated string literal (detected at line " ++ Nat.repr line ++ ")"
  | .openLongText line =>
    "unterminated triple-quoted string literal (detected at line " ++ Nat.repr line ++ ")"
  | .unmatched close => "unmatched '" ++ close.toString ++ "'"
  | .mismatched close opening line => "closing parenthesis '" ++ close.toString ++
      "' does not match opening parenthesis '" ++ opening.toString ++ "'" ++
      (line.elim "" fun n => " on line " ++ Nat.repr n)
  | .neverClosed opening => "'" ++ opening.toString ++ "' was never closed"
  | .tooNested => "too many nested parentheses"
  | .strayBackslash => "unexpected character after line continuation character"
  | .endMissing => "unexpected EOF while parsing"
  | .indented => "unexpected indent"
  | .badNumber form => "invalid " ++ form.name ++ " literal"
  | .badDigit digit form =>
    "invalid digit '" ++ digit.toString ++ "' in " ++ form.name ++ " literal"
  | .leadingZeros => "leading zeros in decimal integer literals are not permitted; " ++
      "use an 0o prefix for octal integers"
  | .longNumber digits => "Exceeds the limit (4300 digits) for integer string conversion: " ++
      "value has " ++ Nat.repr digits ++ " digits; use sys.set_int_max_str_digits() to increase " ++
      "the limit - Consider hexadecimal for huge integer literals to avoid decimal conversion " ++
      "limits."
  | .badEscape first last why => "(unicode error) 'unicodeescape' codec can't decode bytes in " ++
      "position " ++ Nat.repr first ++ "-" ++ Nat.repr last ++ ": " ++ why.message
  | .badByteEscape position =>
    "(value error) invalid \\x escape at position " ++ Nat.repr position
  | .foreignByte => "bytes can only contain ASCII literal characters"
  | .mixedTexts => "cannot mix bytes and nonbytes literals"
  | .missingComma => "invalid syntax. Perhaps you forgot a comma?"
  | .missingElse => "expected 'else' after 'if' expression"
  | .missingCall name =>
    "Missing parentheses in call to '" ++ name ++ "'. Did you mean " ++ name ++ "(...)?"
  | .assignedWith kind => "cannot use assignment expressions with " ++ kind
  | .assignedHere kind =>
    "cannot assign to " ++ kind ++ " here. Maybe you meant '==' instead of '='?"
  | .assigned kind => "cannot assign to " ++ kind
  | .meantEquality => "invalid syntax. Maybe you meant '==' or ':=' instead of '='?"
  | .assignedInCall => "expression cannot contain assignment, perhaps you meant \"==\"?"
  | .bareGenerator => "Generator expression must be parenthesized"
  | .starredBehindUnpacked =>
    "iterable argument unpacking follows keyword argument unpacking"
  | .positionalBehindKeyword => "positional argument follows keyword argument"
  | .positionalBehindUnpacked => "positional argument follows keyword argument unpacking"
  | .starredComprehension => "iterable unpacking cannot be used in comprehension"
  | .bareTarget => "did you forget parentheses around the comprehension target?"
  | .unpackedComprehension => "dict unpacking cannot be used in dict comprehension"
  | .starredAlone => "cannot use starred expression here"
  | .unpackedAlone => "cannot use double starred expression here"
  | .starAlone => "Invalid star expression"
  | .keyWithoutColon => "':' expected after dictionary key"
  | .keyWithoutValue => "expression expected after dictionary key and ':'"
  | .starredValue => "cannot use a starred expression in a dictionary value"
  | .parameter f => f.message
  | .pattern f => f.message
  | .inPlace f => "f-string: " ++ f.message

end BundleBuild.Literal
