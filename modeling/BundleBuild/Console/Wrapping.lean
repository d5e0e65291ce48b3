/-
Putting text into lines of a given width. Text is cut between words, and inside a word that is too
long for a line of its own if it may be folded. What shows as one character is never cut.
-/
import BundleBuild.Path
import BundleBuild.Text.Blank
import BundleBuild.Console.CellWidth

namespace BundleBuild.Console

/-- What shows as one character, and the columns it takes up. -/
structure Cluster where
  chars : List Char
  width : Nat
  deriving DecidableEq, Repr

/-- The clusters of a text behind those already found, the last of which comes first. `last` is the
character measured last. -/
def clustersAfter (found : List Cluster) (last : Option Char) : List Char → List Cluster
  | [] => found.reverse
  | c :: rest =>
    match found with
    | [] => clustersAfter [⟨[c], charWidth c⟩] (if charWidth c = 0 then none else some c) rest
    | before :: others =>
      if c = joiner then
        match rest with
        | [] => clustersAfter (⟨before.chars ++ [c], before.width⟩ :: others) last []
        | d :: rest' => clustersAfter (⟨before.chars ++ [c, d], before.width⟩ :: others) last rest'
      else if c = pictureSelector then
        let wider := (last.map fun l => isAmong widened l.toNat).getD false
        clustersAfter (⟨before.chars ++ [c], before.width + if wider then 1 else 0⟩ :: others)
          (if wider then none else last) rest
      else if charWidth c = 0 then
        clustersAfter (⟨before.chars ++ [c], before.width⟩ :: others) last rest
      else clustersAfter (⟨[c], charWidth c⟩ :: found) (some c) rest

def clusters (cs : List Char) : List Cluster :=
  clustersAfter [] none cs

/-- The clusters up to a number of columns; a cluster that crosses it leaves a blank. -/
def cutAt : Nat → List Cluster → List Char
  | _, [] => []
  | 0, _ => []
  | room + 1, cluster :: rest =>
    if cluster.width ≤ room + 1 then cluster.chars ++ cutAt (room + 1 - cluster.width) rest
    else [' ']

def blanks (n : Nat) : List Char :=
  List.replicate n ' '

/-- The line filled up on the right. -/
def padRight (width : Nat) (line : List Char) : List Char :=
  line ++ blanks (width - charsWidth line)

/-- The line cut or filled up to a number of columns. -/
def fit (width : Nat) (line : List Char) : List Char :=
  if charsWidth line ≤ width then padRight width line else cutAt width (clusters line)

/-! ## Words -/

/-- The words of a line, each with the blanks after it; the first with those before it. -/
def wordsOf : Nat → List Char → List (List Char)
  | 0, _ => []
  | fuel + 1, cs =>
    let lead := cs.takeWhile isBlank
    let body := (cs.drop lead.length).takeWhile (!isBlank ·)
    let tail := (cs.drop (lead.length + body.length)).takeWhile isBlank
    if body.isEmpty then []
    else (lead ++ body ++ tail) ::
      wordsOf fuel (cs.drop (lead.length + body.length + tail.length))

def dropTrailingBlanks (cs : List Char) : List Char :=
  (cs.reverse.dropWhile isBlank).reverse

/-- Clusters put into pieces that fit, behind the piece begun. -/
def chopAfter (width : Nat) (piece : List Char) (used : Nat) : List Cluster → List (List Char)
  | [] => [piece]
  | cluster :: rest =>
    if width < used + cluster.width then
      piece :: chopAfter width cluster.chars cluster.width rest
    else chopAfter width (piece ++ cluster.chars) (used + cluster.width) rest

/-- A word cut into pieces that fit. -/
def chop (width : Nat) (word : List Char) : List (List Char) :=
  chopAfter width [] 0 (clusters word)

/-- Lines being filled: those done, the one begun, and the columns it has used. -/
structure Filling where
  done : List (List Char) := []
  line : List Char := []
  used : Nat := 0

def Filling.lines (f : Filling) : List (List Char) :=
  f.done ++ [f.line]

/-- Ends the line, unless nothing was ever put into it, and begins one with a piece. -/
def Filling.startLine (f : Filling) (piece : List Char) : Filling where
  done := if f.done.isEmpty && f.line.isEmpty then [] else f.lines
  line := piece
  used := charsWidth piece

/-- One more word. A word too long for any line is folded or stands as it is. -/
def Filling.add (folds : Bool) (width : Nat) (f : Filling) (word : List Char) : Filling :=
  let size := charsWidth (dropTrailingBlanks word)
  if f.used + size ≤ width then
    { f with line := f.line ++ word, used := f.used + charsWidth word }
  else if width < size then
    if folds then (chop width word).foldl Filling.startLine f else f.startLine word
  else f.startLine word

/-- The line without the blanks at its end that are beyond the width. -/
def cropBlanks (width : Nat) (line : List Char) : List Char :=
  let tail := (line.reverse.takeWhile isBlank).length
  line.take (line.length - min tail (line.length - width))

/-- The lines of a line of text. -/
def wrapLine (folds : Bool) (width : Nat) (line : List Char) : List (List Char) :=
  match wordsOf (line.length + 1) line with
  | [] => [cropBlanks width line]
  | words => ((words.foldl (Filling.add folds width) {}).lines).map (cropBlanks width)

end BundleBuild.Console
