/-
Tables drawn with box characters: a heavy box around the headings, a light one around the rows,
and a title centred above. Every column is as wide as its widest line, unless the console has not
that many columns, and what does not fit after its tabs are filled up is put into more lines or cut;
short rows are filled up with empty cells, long ones add columns without a heading.
-/
import BundleBuild.Console.Line

namespace BundleBuild.Console

structure Table where
  title : String
  columns : List String
  rows : List (List String)

/-- Characters that end a line when a text is measured. -/
def endsLine (c : Char) : Bool :=
  isAmong [(0xA, 0xD), (0x1C, 0x1E), (0x85, 0x85), (0x2028, 0x2029)] c.toNat

/-- The columns the widest line of a text takes up, tabs none. -/
def textMeasure (cs : List Char) : Nat :=
  ((cs.splitOnP endsLine).map charsWidth).foldl max 0

/-- The lines of a cell. What is too long for its column ends in an ellipsis; a column without
width shows nothing. -/
def cellLines (width : Nat) (cs : List Char) : List (List Char) :=
  if width = 0 then [[]]
  else ((splitChars '\n' cs).flatMap fun line =>
      wrapLine false width (expandTabs line)).map fun line =>
    if width < charsWidth line then fit (width - 1) line ++ ['…'] else line

/-- The line in the middle; an odd blank goes to the right. -/
def centre (width : Nat) (line : List Char) : List Char :=
  let shown := dropTrailingBlanks line
  let cut := crop width shown
  padRight width (blanks ((width - charsWidth cut) / 2) ++ cut)

/-- The lines of a title over a table of a width. -/
def titleLines (width : Nat) (cs : List Char) : List (List Char) :=
  ((splitChars '\n' cs).flatMap fun line => wrapLine true width (expandTabs line)).map
    (centre width)

/-! ## Widths

The width of a column counts the blank on either side of its cells.
-/

/-- The quotient rounded to the nearest number, a half to the even one. -/
def nearestQuotient (a b : Nat) : Nat :=
  let q := a / b
  let r := a % b
  if b < 2 * r || (b = 2 * r && q % 2 = 1) then q + 1 else q

/-- Takes an amount off the values that a flag marks, in even shares and from each at most a limit.
`count` is how many marked values are left. -/
def takeEvenly : Nat → Nat → List (Bool × Nat × Nat) → List Nat
  | _, _, [] => []
  | amount, count, (marked, limit, value) :: rest =>
    if marked && 0 < count then
      let share := min limit (nearestQuotient amount count)
      (value - share) :: takeEvenly (amount - share) (count - 1) rest
    else value :: takeEvenly amount count rest

/-- Shrinks the widest columns, first to the width of the next widest, until all of them fit. -/
def shrinkWidest (room : Nat) : Nat → List Nat → List Nat
  | 0, widths => widths
  | fuel + 1, widths =>
    let excess := widths.foldl (· + ·) 0 - room
    let widest := widths.foldl max 0
    let next := (widths.filter (· ≠ widest)).foldl max 0
    if excess = 0 || widest = next then widths
    else
      let limit := min excess (widest - next)
      let marks := widths.map fun w => (w == widest, limit, w)
      shrinkWidest room fuel (takeEvenly excess (widths.countP (· = widest)) marks)

/-- Shrinks all columns alike if they do not fit. -/
def shrinkEvenly (room : Nat) (widths : List Nat) : List Nat :=
  let excess := widths.foldl (· + ·) 0 - room
  if excess = 0 then widths
  else takeEvenly excess (widths.countP (0 < ·)) (widths.map fun w => (decide (0 < w), w, w))

/-- The width a column takes up of the columns it may have. -/
def columnWidth (room : Nat) (cells : List (List Char)) : Nat :=
  if room < 3 then room
  else min room ((cells.map fun cs => textMeasure cs + 2).foldl max 0)

/-- The widths of the columns of a table that is to fit. -/
def columnWidths (room : Nat) (piles : List (List (List Char))) : List Nat :=
  let widths := piles.map (columnWidth room)
  if widths.foldl (· + ·) 0 ≤ room then widths
  else
    let shrunk := shrinkEvenly room (shrinkWidest room (widths.length + 1) widths)
    (shrunk.zip piles).map fun (w, cells) => columnWidth w cells

/-! ## Drawing -/

/-- The characters of one horizontal rule. -/
structure Rule where
  left : Char
  fill : Char
  joint : Char
  right : Char

def Rule.draw (r : Rule) (widths : List Nat) : List Char :=
  let lines := widths.map fun w => List.replicate w r.fill
  r.left :: ([r.joint].intercalate lines ++ [r.right])

def topRule : Rule := ⟨'┏', '━', '┳', '┓'⟩

def headRule : Rule := ⟨'┡', '━', '╇', '┩'⟩

def bottomRule : Rule := ⟨'└', '─', '┴', '┘'⟩

/-- One line of a row, given that line of every cell. -/
def drawLine (bar : Char) (widths : List Nat) (cells : List (List Char)) : List Char :=
  let padded := (widths.zip cells).map fun (w, cell) =>
    fit w (' ' :: padRight (w - 2) cell ++ [' '])
  bar :: ([bar].intercalate padded ++ [bar])

def heightOf (cells : List (List (List Char))) : Nat :=
  (cells.map List.length).foldl max 1

/-- The lines of a row as high as its highest cell. -/
def drawRow (bar : Char) (widths : List Nat) (cells : List (List (List Char))) :
    List (List Char) :=
  (List.range (heightOf cells)).map fun i =>
    drawLine bar widths (cells.map fun lines => lines[i]?.getD [])

/-- The lines of the headings, which stand at the foot of their row. -/
def drawHead (widths : List Nat) (cells : List (List (List Char))) : List (List Char) :=
  drawRow '┃' widths (cells.map fun lines =>
    List.replicate (heightOf cells - lines.length) [] ++ lines)

/-- The rows and the headings with as many cells as the widest of them. -/
def Table.filled (t : Table) : List String × List (List String) :=
  let count := (t.rows.map List.length).foldl max t.columns.length
  let fill (cells : List String) := cells ++ List.replicate (count - cells.length) ""
  (fill t.columns, t.rows.map fill)

def shownChars (s : String) : Except MarkupError (List Char) :=
  (showMarkup s).map String.toList

/-- The cells of each column from its heading down. -/
def Table.piles (t : Table) : List (List String) :=
  let (headings, rows) := t.filled
  (List.range headings.length).map fun i => (headings :: rows).map fun cells => cells[i]?.getD ""

/-- The lines of a table in a number of columns. Of several cells that cannot be shown the first
one of the first column is reported. -/
def Table.lines (t : Table) (width : Nat) : Except MarkupError (List (List Char)) := do
  let piles ← t.piles.mapM fun cells => cells.mapM shownChars
  let edges := piles.length + 1
  let widths := columnWidths (width - edges) piles
  let total := widths.foldl (· + ·) edges
  let title ← shownChars t.title
  let top := if t.title.isEmpty then [] else titleLines total title
  let row (i : Nat) := (widths.zip piles).map fun (w, cells) =>
    cellLines (w - 2) (cells[i]?.getD [])
  return top ++ [topRule.draw widths] ++ drawHead widths (row 0) ++ [headRule.draw widths] ++
    (List.range t.rows.length).flatMap (fun i => drawRow '│' widths (row (i + 1))) ++
    [bottomRule.draw widths]

/-- A table as it is printed on a console of so many columns; one without columns of its own is an
empty line. -/
def Table.draw (t : Table) (width : Nat) : Except MarkupError String :=
  if t.filled.1.isEmpty then .ok "\n"
  else (t.lines width).map fun lines =>
    String.ofList (lines.flatMap fun line => crop width line ++ ['\n'])

end BundleBuild.Console
