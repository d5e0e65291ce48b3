/-
Status lines: a message behind a sign for success, failure or a warning, or a plain one. Messages
are marked-up text, and one that is wider than the console goes on in the next line.
-/
import BundleBuild.Path
import BundleBuild.Console.Markup
import BundleBuild.Console.Wrapping

namespace BundleBuild.Console

/-- A piece of text with blanks up to the next eighth column, one at least. -/
def fillTab (column : Nat) (piece : List Char) : List Char :=
  let width := charsWidth (piece ++ [' '])
  piece ++ blanks (1 + (8 - (column + width) % 8) % 8)

/-- The pieces between tabs put together, each tab filled up to an eighth column. -/
def joinTabbed (column : Nat) : List (List Char) → List Char
  | [] => []
  | [piece] => piece
  | piece :: rest =>
    let filled := fillTab column piece
    filled ++ joinTabbed (column + charsWidth filled) rest

/-- The text with its tabs filled up to every eighth column. -/
def expandTabs (cs : List Char) : List Char :=
  joinTabbed 0 (splitChars '\t' cs)

/-- The line cut where it is too long. -/
def crop (width : Nat) (line : List Char) : List Char :=
  if width < charsWidth line then fit width line else line

/-- The lines of a text in a number of columns. -/
def shownLines (width : Nat) (cs : List Char) : List (List Char) :=
  (splitChars '\n' cs).flatMap fun line => (wrapLine true width (expandTabs line)).map (crop width)

/-- The kind of a status line. -/
inductive Sign where
  | success
  | error
  | warning
  | none
  deriving DecidableEq, Repr

/-- What stands in front of the message. -/
def Sign.markup : Sign → String
  | .success => "[green]✓[/green] "
  | .error => "[red]✗[/red] "
  | .warning => "[yellow]⚠[/yellow] "
  | .none => ""

/-- A status line as it is printed on a console of so many columns. -/
def statusLine (width : Nat) (sign : Sign) (message : String) : Except MarkupError String :=
  (showMarkup (sign.markup ++ message)).map fun text =>
    String.ofList ((shownLines width text.toList).flatMap (· ++ ['\n']))

end BundleBuild.Console
