/-
Styles of console markup: attributes, colours and links, given by words in any order. A style has
one spelling by which tags are matched: attributes in a fixed order, the colour, the background,
the link.
-/
import BundleBuild.Path
import BundleBuild.Text.Blank
import BundleBuild.Text.Casing
import BundleBuild.Number.Spelling

namespace BundleBuild.Console

/-- The attributes in the order a style is spelled in. -/
def attributes : List String := [
  "bold", "dim", "italic", "underline", "blink", "blink2", "reverse", "conceal", "strike",
  "underline2", "frame", "encircle", "overline"]

/-- The full name of an attribute given by a short one. -/
def fullAttribute : String → String
  | "b" => "bold"
  | "d" => "dim"
  | "i" => "italic"
  | "u" => "underline"
  | "r" => "reverse"
  | "c" => "conceal"
  | "s" => "strike"
  | "uu" => "underline2"
  | "o" => "overline"
  | name => name

def attribute? (word : String) : Option String :=
  if attributes.contains (fullAttribute word) then some (fullAttribute word) else none

/-- The names of the colours, those of the greys apart. -/
def colourLines : List String := [
  "black red green yellow blue magenta cyan white bright_black bright_red bright_green",
  "bright_yellow bright_blue bright_magenta bright_cyan bright_white navy_blue dark_blue",
  "blue3 blue1 dark_green deep_sky_blue4 dodger_blue3 dodger_blue2 green4 spring_green4",
  "turquoise4 deep_sky_blue3 dodger_blue1 green3 spring_green3 dark_cyan light_sea_green",
  "deep_sky_blue2 deep_sky_blue1 spring_green2 cyan3 dark_turquoise turquoise2 green1",
  "spring_green1 medium_spring_green cyan2 cyan1 dark_red deep_pink4 purple4 purple3",
  "blue_violet orange4 medium_purple4 slate_blue3 royal_blue1 chartreuse4 dark_sea_green4",
  "pale_turquoise4 steel_blue steel_blue3 cornflower_blue chartreuse3 cadet_blue sky_blue3",
  "steel_blue1 pale_green3 sea_green3 aquamarine3 medium_turquoise chartreuse2 sea_green2",
  "sea_green1 aquamarine1 dark_slate_gray2 dark_magenta dark_violet purple light_pink4 plum4",
  "medium_purple3 slate_blue1 yellow4 wheat4 light_slate_grey light_slate_gray medium_purple",
  "light_slate_blue dark_olive_green3 dark_sea_green light_sky_blue3 sky_blue2",
  "dark_sea_green3 dark_slate_gray3 sky_blue1 chartreuse1 light_green pale_green1",
  "dark_slate_gray1 red3 medium_violet_red magenta3 dark_orange3 indian_red hot_pink3",
  "medium_orchid3 medium_orchid medium_purple2 dark_goldenrod light_salmon3 rosy_brown",
  "medium_purple1 gold3 dark_khaki navajo_white3 light_steel_blue3 light_steel_blue yellow3",
  "dark_sea_green2 light_cyan3 light_sky_blue1 green_yellow dark_olive_green2 dark_sea_green1",
  "pale_turquoise1 deep_pink3 magenta2 hot_pink2 orchid medium_orchid1 orange3 light_pink3",
  "pink3 plum3 violet light_goldenrod3 tan misty_rose3 thistle3 plum2 khaki3 light_goldenrod2",
  "light_yellow3 light_steel_blue1 yellow2 dark_olive_green1 honeydew2 light_cyan1 red1",
  "deep_pink2 deep_pink1 magenta1 orange_red1 indian_red1 hot_pink dark_orange salmon1",
  "light_coral pale_violet_red1 orchid2 orchid1 orange1 sandy_brown light_salmon1 light_pink1",
  "pink1 plum1 gold1 navajo_white1 misty_rose1 thistle1 yellow1 light_goldenrod1 khaki1",
  "wheat1 cornsilk1"]

/-- The shades of grey that have a name. -/
def greys : List String := [
  "0", "37", "53", "63", "69", "84", "100", "3", "7", "11", "15", "19", "23", "27", "30", "35",
  "39", "42", "46", "50", "54", "58", "62", "66", "70", "74", "78", "82", "85", "89", "93"]

def isColourName (word : String) : Bool :=
  word == "default" ||
  colourLines.any (fun line => (splitText ' ' line).contains word) ||
  greys.any fun shade => word == "grey" ++ shade || word == "gray" ++ shade

/-- What stands between a name with an opening bracket and a closing bracket. -/
def bracketed? (name : String) (word : String) : Option (List Char) :=
  let open_ := (name ++ "(").toList
  let cs := word.toList
  if open_.isPrefixOf cs && cs.getLast? == some ')' then
    some ((cs.drop open_.length).dropLast)
  else none

def isHexDigit (c : Char) : Bool :=
  c.isDigit || ('a' ≤ c && c ≤ 'f')

/-- Six hexadecimal digits behind a number sign. -/
def isHexColour (word : String) : Bool :=
  match word.toList with
  | '#' :: digits => digits.length = 6 && digits.all isHexDigit
  | _ => false

/-- A number of the palette, of at most three digits. -/
def isPaletteColour (word : String) : Bool :=
  match bracketed? "color" word with
  | some digits => 1 ≤ digits.length && digits.length ≤ 3 && digits.all Char.isDigit &&
      ((readInt? (String.ofList digits)).getD 256) ≤ 255
  | none => false

/-- A part of a mixed colour; the complaint about a numeral that is none. -/
def readPart (part : List Char) : Except String Int :=
  let ps := part.map Char.toNat
  (readInt 10 ps).mapError (NumeralFlaw.message 10 ps)

/-- Whether a word is a colour mixed of three parts. -/
def isMixedColour (word : String) : Except String Bool :=
  match bracketed? "rgb" word with
  | some inner =>
    if !inner.isEmpty && inner.all fun c => c = ',' || (decimalDigit? c.toNat).isSome then
      match splitChars ',' inner with
      | [red, green, blue] => do
        let parts ← [red, green, blue].mapM readPart
        return parts.all (· ≤ 255)
      | _ => .ok false
    else .ok false
  | none => .ok false

/-- Whether a word in lower case is a colour. -/
def isColour (word : String) : Except String Bool :=
  if isColourName word || isHexColour word || isPaletteColour word then .ok true
  else isMixedColour word

structure Style where
  /-- The attributes set, switched on or off. -/
  switches : List (String × Bool) := []
  colour : Option String := none
  background : Option String := none
  link : Option String := none

/-- The spelling by which a style is known. -/
def Style.spelling (s : Style) : String :=
  let switched := attributes.filterMap fun name =>
    (s.switches.find? (·.1 == name)).map fun (_, on) => if on then name else "not " ++ name
  let colours := s.colour.toList ++ (s.background.map ("on " ++ ·)).toList
  let words := switched ++ colours ++ (s.link.map ("link " ++ ·)).toList
  if words.isEmpty then "none" else " ".intercalate words

/-- The style with one more word that stands for itself. -/
def Style.addWord (s : Style) (word : String) : Except String (Option Style) :=
  match attribute? word with
  | some a => .ok (some { s with switches := (a, true) :: s.switches })
  | none => (isColour word).map fun known =>
      if known then some { s with colour := some word } else none

/-- The style with a word that another one announces. -/
def Style.addAfter (s : Style) (announced word : String) : Except String (Option Style) :=
  match announced with
  | "on" =>
    let name := lowerText word
    (isColour name).map fun known =>
      if known then some { s with background := some name } else none
  | "not" => .ok ((attribute? word).map fun a => { s with switches := (a, false) :: s.switches })
  | _ => .ok (some { s with link := some word })

/-- The style that words add to another; nothing when a word is no part of a style. -/
def Style.add (s : Style) : List String → Except String (Option Style)
  | [] => .ok (some s)
  | [word] =>
    if ["on", "not", "link"].contains (lowerText word) then .ok none
    else s.addWord (lowerText word)
  | word :: next :: rest => do
    if ["on", "not", "link"].contains (lowerText word) then
      match ← s.addAfter (lowerText word) next with
      | some s' => s'.add rest
      | none => return none
    else
      match ← s.addWord (lowerText word) with
      | some s' => s'.add (next :: rest)
      | none => return none

/-- The name tags are matched by: the spelling of the style, or what was written if it is none. -/
def styleName (cs : List Char) : Except String String := do
  let trimmed := trimChars cs
  if String.ofList trimmed = "none" then return "none"
  else
    match ← Style.add {} ((blankWords cs).map String.ofList) with
    | some s => return s.spelling
    | none => return lowerText (String.ofList trimmed)

end BundleBuild.Console
