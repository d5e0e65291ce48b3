/-
Patterns: a star for any characters, a question mark for one, a set in square brackets. Quoted
characters stand for themselves. A bracket that is not closed stands for itself as well.
-/

namespace BundleBuild.Shell

/-- What a set of characters is made of. -/
inductive Member where
  | range (low high : Char)
  | kind (name : String)
  deriving DecidableEq, Repr

inductive PatternItem where
  | star
  | any
  | char (c : Char)
  | set (reversed : Bool) (members : List Member)
  deriving DecidableEq, Repr

abbrev Pattern := List PatternItem

def isBlankChar (c : Char) : Bool :=
  c = ' ' || ('\t' ≤ c && c ≤ '\r')

/-- The characters of a named kind. -/
def kindHas? (name : String) : Option (Char → Bool) :=
  match name with
  | "alnum" => some Char.isAlphanum
  | "alpha" => some Char.isAlpha
  | "blank" => some fun c => c = ' ' || c = '\t'
  | "cntrl" => some fun c => c < ' ' || c = '\x7f'
  | "digit" => some Char.isDigit
  | "graph" => some fun c => ' ' < c && c < '\x7f'
  | "lower" => some Char.isLower
  | "print" => some fun c => ' ' ≤ c && c < '\x7f'
  | "punct" => some fun c => ' ' < c && c < '\x7f' && !c.isAlphanum
  | "space" => some isBlankChar
  | "upper" => some Char.isUpper
  | "xdigit" => some fun c => c.isDigit || ('a' ≤ c && c ≤ 'f') || ('A' ≤ c && c ≤ 'F')
  | _ => none

def Member.has (c : Char) : Member → Bool
  | .range low high => low ≤ c && c ≤ high
  | .kind name => match kindHas? name with
    | some p => p c
    | none => false

/-- A character of a pattern and whether it was quoted. -/
abbrev PatternChar := Char × Bool

/-- The name of a kind after its opening, and what follows its closing. -/
def readKind? (cs : List PatternChar) : Option (String × List PatternChar) :=
  let name := String.ofList ((cs.takeWhile fun (c, _) => c.isAlpha).map (·.1))
  match cs.dropWhile fun (c, _) => c.isAlpha with
  | (':', false) :: (']', false) :: rest =>
    if (kindHas? name).isSome then some (name, rest) else none
  | _ => none

/-- A member that starts with this character, and what follows it. -/
def rangeFrom (c : Char) (rest : List PatternChar) : Member × List PatternChar :=
  match rest with
  | ('-', false) :: (']', false) :: _ => (.range c c, rest)
  | ('-', false) :: ('\\', false) :: (high, _) :: rest' => (.range c high, rest')
  | ('-', false) :: (high, _) :: rest' => (.range c high, rest')
  | _ => (.range c c, rest)

/-- The first member of a set and what follows it; no member where the set is closed. A closing
bracket that comes first is a member. -/
def readMember? (first : Bool) (cs : List PatternChar) :
    Option (Option Member × List PatternChar) :=
  let member (r : Member × List PatternChar) := some (some r.1, r.2)
  match cs with
  | [] => none
  | (']', false) :: rest => if first then member (rangeFrom ']' rest) else some (none, rest)
  | ('[', false) :: (':', false) :: rest =>
    match readKind? rest with
    | some (name, after) => member (.kind name, after)
    | none => member (rangeFrom '[' ((':', false) :: rest))
  | [('\\', false)] => none
  | ('\\', false) :: (e, _) :: rest => member (rangeFrom e rest)
  | (c, _) :: rest => member (rangeFrom c rest)

/-- The members of a set after its opening, and what follows its closing. -/
def readMembers? : Nat → Bool → List PatternChar → Option (List Member × List PatternChar)
  | 0, _, _ => none
  | n + 1, first, cs =>
    match readMember? first cs with
    | none => none
    | some (none, rest) => some ([], rest)
    | some (some m, rest) =>
      (readMembers? n false rest).map fun (ms, after) => (m :: ms, after)

/-- The pattern of a list of characters; `n` is at least their number. -/
def readPattern : Nat → List PatternChar → Pattern
  | 0, _ => []
  | _ + 1, [] => []
  | n + 1, (c, true) :: rest => .char c :: readPattern n rest
  | n + 1, ('*', false) :: rest => .star :: readPattern n rest
  | n + 1, ('?', false) :: rest => .any :: readPattern n rest
  | n + 1, ('\\', false) :: (e, _) :: rest => .char e :: readPattern n rest
  | n + 1, ('[', false) :: rest =>
    let (reversed, members) := match rest with
      | ('!', false) :: rest' => (true, rest')
      | _ => (false, rest)
    match readMembers? (members.length + 1) true members with
    | some (ms, after) => .set reversed ms :: readPattern n after
    | none => .char '[' :: readPattern n rest
  | n + 1, (c, false) :: rest => .char c :: readPattern n rest

namespace Pattern

def ofChars (cs : List PatternChar) : Pattern :=
  readPattern cs.length cs

/-- Whether a text matches a pattern. -/
def fits (p : Pattern) (cs : List Char) : Bool :=
  match p, cs with
  | [], [] => true
  | [], _ :: _ => false
  | .star :: p', [] => fits p' []
  | .star :: p', c :: cs' => fits p' (c :: cs') || fits (.star :: p') cs'
  | .any :: p', _ :: cs' => fits p' cs'
  | .char c :: p', c' :: cs' => c == c' && fits p' cs'
  | .set reversed ms :: p', c :: cs' => (ms.any (·.has c) != reversed) && fits p' cs'
  | _ :: _, [] => false
termination_by p.length + cs.length

/-- Whether a pattern stands for anything but one text. -/
def isOpen (p : Pattern) : Bool :=
  p.any fun item => match item with
    | .char _ => false
    | _ => true

/-- The text without a beginning that matches, the longest or the shortest one. -/
def trimStart (p : Pattern) (longest : Bool) (cs : List Char) : List Char :=
  let lengths := List.range (cs.length + 1)
  let tried := if longest then lengths.reverse else lengths
  match tried.find? fun n => fits p (cs.take n) with
  | some n => cs.drop n
  | none => cs

/-- The text without an end that matches, the longest or the shortest one. -/
def trimEnd (p : Pattern) (longest : Bool) (cs : List Char) : List Char :=
  let lengths := List.range (cs.length + 1)
  let tried := if longest then lengths else lengths.reverse
  match tried.find? fun n => fits p (cs.drop n) with
  | some n => cs.take n
  | none => cs

end Pattern

end BundleBuild.Shell
