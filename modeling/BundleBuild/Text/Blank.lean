/-
White space of texts: the characters that trimming removes and that make a name blank. Four
separator controls count as blank where names are looked at, but are no white space proper.
-/

namespace BundleBuild

/-- White space proper: the ASCII controls from tab to carriage return, the plain space, the
next-line control and the space separators. -/
def isWhiteNumber (n : Nat) : Bool :=
  (9 ≤ n && n ≤ 13) || n == 32 || n == 0x85 || n == 0xA0 || n == 0x1680 ||
    (0x2000 ≤ n && n ≤ 0x200A) || n == 0x2028 || n == 0x2029 || n == 0x202F || n == 0x205F ||
    n == 0x3000

def isWhite (c : Char) : Bool :=
  isWhiteNumber c.toNat

/-- White space proper and the four separators U+001C to U+001F. -/
def isBlankNumber (n : Nat) : Bool :=
  isWhiteNumber n || (28 ≤ n && n ≤ 31)

def isBlank (c : Char) : Bool :=
  isBlankNumber c.toNat

/-- The characters without those of a class at either end. -/
def trimWhile (p : Char → Bool) (cs : List Char) : List Char :=
  ((cs.dropWhile p).reverse.dropWhile p).reverse

/-- The characters without blanks at either end. -/
def trimChars (cs : List Char) : List Char :=
  trimWhile isBlank cs

/-- A word in front of others; an empty one is none. -/
def consWord (word : List Char) (words : List (List Char)) : List (List Char) :=
  if word.isEmpty then words else word :: words

/-- The words between blanks. -/
def blankWords (cs : List Char) : List (List Char) :=
  let (word, words) := cs.foldr
    (fun c (word, words) => if isBlank c then ([], consWord word words) else (c :: word, words))
    ([], [])
  consWord word words

/-- A text of blanks only, the empty one included. -/
def isBlankText (s : String) : Bool :=
  s.toList.all isBlank

end BundleBuild
