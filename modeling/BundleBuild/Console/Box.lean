/-
The box around the message that ends the program. It is as wide as the console.
-/
import BundleBuild.Console.Table

namespace BundleBuild.Console

/-- The message between the sides of the box. It is plain text; what it has of tags is shown. -/
def boxSides (width : Nat) (message : String) : List (List Char) :=
  let shown := message.toList.filter (!isStripped ·)
  (shownLines (width - 4) shown).map fun line =>
    ['│', ' '] ++ fit (width - 4) line ++ [' ', '│']

/-- The box with its title. -/
def errorBox (width : Nat) (message : String) : List (List Char) :=
  let title := "╭─ Error ".toList
  [title ++ List.replicate (width - 1 - title.length) '─' ++ ['╮']] ++ boxSides width message ++
    [['╰'] ++ List.replicate (width - 2) '─' ++ ['╯']]

/-- What stands between the two sides of a line of a box. -/
def betweenSides? (line : List Char) : Option (List Char) :=
  match line with
  | '│' :: ' ' :: rest =>
    match rest.reverse with
    | '│' :: ' ' :: inner => some (inner.dropWhile isBlank).reverse
    | _ => none
  | _ => none

/-- The message as it is read back from its box, line by line. A line that another line end breaks
up has no two sides any more and is lost. -/
def boxContent (width : Nat) (message : String) : List String :=
  ((errorBox width message).flatMap fun line => line.splitOnP endsLine).filterMap fun line =>
    (betweenSides? line).map String.ofList

end BundleBuild.Console
