/-
Console markup: style tags in square brackets, which vanish when a text is shown without colours,
and names between colons, which become pictures. A tag starts with a small letter or one of three
signs; backslashes in front of it escape it. A closing tag has to match a tag that is open.
-/
import BundleBuild.Text.Blank
import BundleBuild.Trouble
import BundleBuild.Console.Action
import BundleBuild.Console.Emoji
import BundleBuild.Console.Style

namespace BundleBuild.Console

/-- A piece of a marked-up text. -/
inductive Piece where
  | text (cs : List Char)
  /-- A tag, where it stands and what is between its brackets. -/
  | tag (position : Nat) (content : List Char)
  deriving DecidableEq, Repr

/-- What a tag may start with. -/
def startsTag (c : Char) : Bool :=
  ('a' ≤ c && c ≤ 'z') || c = '#' || c = '/' || c = '@'

/-- The content of a tag after its opening bracket, and what follows its closing one. -/
def tagContent? : List Char → Option (List Char × List Char)
  | [] => none
  | c :: rest =>
    let content := rest.takeWhile fun c => c ≠ ']' && c ≠ '['
    match rest.drop content.length with
    | ']' :: after => if startsTag c then some (c :: content, after) else none
    | _ => none

/-- A tag at the very front with the backslashes before it. -/
def tagAt? (cs : List Char) : Option (Nat × List Char × List Char) :=
  let escapes := (cs.takeWhile (· = '\\')).length
  match cs.drop escapes with
  | '[' :: rest => (tagContent? rest).map fun (content, after) => (escapes, content, after)
  | _ => none

/-- The pieces of a text from a position on; `before` is plain text not yet handed out. -/
def piecesFrom : Nat → Nat → List Char → List Char → List Piece
  | 0, _, before, _ => [.text before]
  | _ + 1, _, before, [] => [.text before]
  | fuel + 1, position, before, c :: rest =>
    match tagAt? (c :: rest) with
    | none => piecesFrom fuel (position + 1) (before ++ [c]) rest
    | some (escapes, content, after) =>
      let halves := List.replicate (escapes / 2) '\\'
      let next := position + escapes + content.length + 2
      if escapes % 2 = 1 then
        .text before :: .text halves :: .text ('[' :: content ++ [']']) ::
          piecesFrom fuel next [] after
      else
        .text before :: .text halves :: .tag (position + escapes) content ::
          piecesFrom fuel next [] after

def pieces (cs : List Char) : List Piece :=
  piecesFrom (cs.length + 1) 0 [] cs

/-- A bracket escaped outside a tag. -/
def unescapeBrackets : List Char → List Char
  | '\\' :: '[' :: rest => '[' :: unescapeBrackets rest
  | c :: rest => c :: unescapeBrackets rest
  | [] => []

/-- Why marked-up text cannot be shown. -/
inductive MarkupError where
  | unmatched (markup : String) (position : Nat)
  | nothingOpen (position : Nat)
  /-- An action with parameters that are not well formed. -/
  | badAction (complaint : String)
  /-- A colour with a numeral that cannot be read. -/
  | badNumeral (complaint : String)
  deriving DecidableEq, Repr

def MarkupError.text : MarkupError → String
  | .unmatched markup position => "closing tag '" ++ markup ++ "' at position " ++
      Nat.repr position ++ " doesn't match any open tag"
  | .nothingOpen position =>
    "closing tag '[/]' at position " ++ Nat.repr position ++ " has nothing to close"
  | .badAction complaint => complaint
  | .badNumeral complaint => complaint

def MarkupError.trouble (e : MarkupError) : Trouble :=
  match e with
  | .badNumeral complaint => .raised "ValueError" complaint
  | _ => .raised "MarkupError" e.text

/-- A tag that is open: the name it is matched by and its parameters. -/
structure OpenTag where
  name : String
  parameters : List Char
  deriving DecidableEq, Repr

/-- Closes a tag; an action is read only now. -/
def OpenTag.close (t : OpenTag) : Except MarkupError Unit :=
  if t.name.startsWith "@" then
    match actionComplaint? t.parameters with
    | some complaint => .error (.badAction complaint)
    | none => .ok ()
  else .ok ()

def nameOf (cs : List Char) : Except MarkupError String :=
  (styleName cs).mapError .badNumeral

/-- The tags that stay open behind a closing one; they come the innermost first. -/
def closeTag (opened : List OpenTag) (position : Nat) (content closing : List Char) :
    Except MarkupError (List OpenTag) :=
  if (trimChars closing).isEmpty then
    match opened with
    | [] => .error (.nothingOpen position)
    | t :: others => t.close.map fun _ => others
  else do
    let name ← nameOf closing
    match opened.find? (·.name == name) with
    | some t => t.close.map fun _ => opened.erase t
    | none => .error (.unmatched (String.ofList ('[' :: content ++ [']'])) position)

/-- The text of the pieces; `opened` are the tags open so far, the innermost first. -/
def showPieces (opened : List OpenTag) : List Piece → Except MarkupError (List Char)
  | [] => .ok []
  | .text cs :: rest =>
    (showPieces opened rest).map (replaceEmoji (unescapeBrackets cs) ++ ·)
  | .tag position content :: rest => do
    let name := content.takeWhile (· ≠ '=')
    match name with
    | '/' :: closing =>
      let others ← closeTag opened position content closing
      showPieces others rest
    | _ =>
      let known ← nameOf name
      showPieces (⟨known, content.drop (name.length + 1)⟩ :: opened) rest

/-- Controls that are never shown. -/
def isStripped (c : Char) : Bool :=
  [7, 8, 11, 12, 13].contains c.toNat

/-- The text without its markup. A text without brackets has none, but may have pictures. -/
def showMarkup (s : String) : Except MarkupError String :=
  let shown := if s.toList.contains '[' then showPieces [] (pieces s.toList)
    else .ok (replaceEmoji s.toList)
  shown.map fun cs => String.ofList (cs.filter (!isStripped ·))

end BundleBuild.Console
