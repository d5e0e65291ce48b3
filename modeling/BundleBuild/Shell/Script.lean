/-
Shell scripts as trees. A word is a list of parts, so that what stood in quotes can be told from
what stood bare: only bare text is cut into fields or read as a pattern. The text of a
here-document comes after the command that wants it, so a redirection names it by number.
-/

namespace BundleBuild.Shell

/-- What a parameter gives way to. -/
inductive Fallback where
  /-- The word, where the parameter is not set. -/
  | missing
  /-- The word, where the parameter is set. -/
  | alternative
  /-- The word, which the parameter is set to. -/
  | assign
  /-- A complaint, where the parameter is not set. -/
  | demand
  deriving DecidableEq, Repr

/-- Where a redirection leads. -/
inductive RedirectKind where
  | input
  | output
  /-- Over an old file even where that is refused. -/
  | overwrite
  | append
  | both
  /-- To a copy of another descriptor. -/
  | copy
  /-- From the here-document of this number. -/
  | document (number : Nat)
  deriving DecidableEq, Repr

mutual

inductive Part where
  | text (cs : List Char) (quoted : Bool)
  /-- A quotation mark. A word with one is a field even if nothing else is in it. -/
  | mark
  | param (name : String) (use : Use) (quoted : Bool)
  /-- What commands write. -/
  | output (body : Command) (quoted : Bool)
  /-- The value of an arithmetic expression. -/
  | sum (expression : List Part) (quoted : Bool)

/-- How a parameter is used. -/
inductive Use where
  | value
  | length
  /-- `orEmpty`: an empty parameter counts as one that is not set. -/
  | fallback (kind : Fallback) (orEmpty : Bool) (word : List Part)
  | trim (atEnd longest : Bool) (pattern : List Part)
  | bad

inductive Command where
  | simple (line : Nat) (settings : List (String × List Part)) (words : List (List Part))
      (redirects : List Redirect)
  | seq (commands : List Command)
  | background (line : Nat) (body : Command)
  | both (first second : Command)
  | either (first second : Command)
  | negated (body : Command)
  | pipeline (stages : List Command)
  | cond (test yes no : Command)
  /-- Runs as long as the test succeeds, or fails if it is so reversed. -/
  | loop (reversed : Bool) (test body : Command)
  | each (line : Nat) (name : String) (words : List (List Part)) (body : Command)
  | choice (line : Nat) (subject : List Part) (arms : List (List (List Part) × Command))
  | subshell (line : Nat) (body : Command) (redirects : List Redirect)
  | redirected (line : Nat) (body : Command) (redirects : List Redirect)
  | define (name : String) (body : Command)

inductive Redirect where
  | mk (descriptor : Nat) (kind : RedirectKind) (target : List Part)

end

abbrev Word := List Part

/-- No command. -/
def Command.nothing : Command :=
  .seq []

def Redirect.descriptor : Redirect → Nat
  | .mk n _ _ => n

def Redirect.kind : Redirect → RedirectKind
  | .mk _ k _ => k

def Redirect.target : Redirect → Word
  | .mk _ _ w => w

def isNameStart (c : Char) : Bool :=
  c.isAlpha || c = '_'

def isNameChar (c : Char) : Bool :=
  c.isAlphanum || c = '_'

def isName (s : String) : Bool :=
  match s.toList with
  | [] => false
  | c :: cs => isNameStart c && cs.all isNameChar

/-- A parameter of one sign or digit. -/
def isSpecialParam (c : Char) : Bool :=
  c.isDigit || ['$', '?', '#', '*', '@', '!', '-'].contains c

namespace Word

/-- The word of parts that come last first; neighbouring texts of one kind are joined. -/
def ofParts (parts : List Part) : Word :=
  parts.foldl (fun (w : Word) (p : Part) => match p, w with
    | .text cs quoted, .text cs' quoted' :: rest =>
      if quoted = quoted' then .text (cs ++ cs') quoted :: rest else .text cs quoted :: w
    | _, _ => p :: w) []

/-- Whether a part of the word stands in quotes. -/
def isQuoted (w : Word) : Bool :=
  w.any fun (p : Part) => match p with
    | .mark => true
    | .text _ quoted => quoted
    | _ => false

/-- The text of a word that is nothing but text. -/
def text? (w : Word) : Option String :=
  let texts : Option (List (List Char)) := w.mapM fun p => match p with
    | .text cs _ => some cs
    | .mark => some []
    | _ => none
  texts.map fun css => String.ofList css.flatten

/-- The text of a word of bare text. -/
def bare? (w : Word) : Option String :=
  if w.isQuoted then none else Word.text? w

/-- The bare characters that a word starts with, and the rest of it. -/
def bareStart : Word → List Char × Word
  | .text cs false :: rest =>
    let (more, rest') := bareStart rest
    (cs ++ more, rest')
  | w => ([], w)

/-- The name and the value of a word that sets a variable. -/
def setting? (w : Word) : Option (String × Word) :=
  let (cs, rest) := bareStart w
  let name := cs.takeWhile isNameChar
  match cs.dropWhile isNameChar with
  | '=' :: value =>
    if isName (String.ofList name) then
      some (String.ofList name, if value.isEmpty then rest else .text value false :: rest)
    else none
  | _ => none

end Word

end BundleBuild.Shell
