/-
  Muffle.Console.StyleName

  Names of styles in markup. A name is a list of words: attributes, colours, a background after
  `on`, a link after `link`. Names of the same style have one normal form, which lists the
  attributes in a fixed order and then the colours; a name that is no style keeps its own words in
  lower case.
-/

import Muffle.Text.Case
import Muffle.Text.Integer

namespace Muffle.Console

/-! ## Attributes -/

/-- The attributes in the order of the normal form, each with its short name if it has one. -/
def attributeNames : List (String × Option String) :=
  [("bold", some "b"), ("dim", some "d"), ("italic", some "i"), ("underline", some "u"),
   ("blink", none), ("blink2", none), ("reverse", some "r"), ("conceal", some "c"),
   ("strike", some "s"), ("underline2", some "uu"), ("frame", none), ("encircle", none),
   ("overline", some "o")]

/-- The attribute that a word names. -/
def attributeOf? (word : String) : Option String :=
  (attributeNames.find? fun a => a.1 == word || a.2 == some word).map Prod.fst

/-! ## Colours -/

/-- Colours of which there is only one by this name. -/
def plainColours : List String :=
  ["default", "black", "red", "green", "yellow", "blue", "magenta", "cyan", "white",
   "bright_black", "bright_red", "bright_green", "bright_yellow", "bright_blue", "bright_magenta",
   "bright_cyan", "bright_white", "grey0", "gray0", "navy_blue", "dark_blue", "blue3", "blue1",
   "dark_green", "deep_sky_blue4", "dodger_blue3", "dodger_blue2", "green4", "spring_green4",
   "turquoise4", "deep_sky_blue3", "dodger_blue1", "green3", "spring_green3", "dark_cyan",
   "light_sea_green", "deep_sky_blue2", "deep_sky_blue1", "spring_green2", "cyan3",
   "dark_turquoise", "turquoise2", "green1", "spring_green1", "medium_spring_green", "cyan2",
   "cyan1", "dark_red", "deep_pink4", "purple4", "purple3", "blue_violet", "orange4", "grey37",
   "gray37", "medium_purple4", "slate_blue3", "royal_blue1", "chartreuse4", "dark_sea_green4",
   "pale_turquoise4", "steel_blue", "steel_blue3", "cornflower_blue", "chartreuse3", "cadet_blue",
   "sky_blue3", "steel_blue1", "pale_green3", "sea_green3", "aquamarine3", "medium_turquoise",
   "chartreuse2", "sea_green2", "sea_green1", "aquamarine1", "dark_slate_gray2", "dark_magenta",
   "dark_violet", "purple", "light_pink4", "plum4", "medium_purple3", "slate_blue1", "yellow4",
   "wheat4", "grey53", "gray53", "light_slate_grey", "light_slate_gray", "medium_purple",
   "light_slate_blue", "dark_olive_green3", "dark_sea_green", "light_sky_blue3", "sky_blue2",
   "dark_sea_green3", "dark_slate_gray3", "sky_blue1", "chartreuse1", "light_green",
   "pale_green1", "dark_slate_gray1", "red3", "medium_violet_red", "magenta3", "dark_orange3",
   "indian_red", "hot_pink3", "medium_orchid3", "medium_orchid", "medium_purple2",
   "dark_goldenrod", "light_salmon3", "rosy_brown", "grey63", "gray63", "medium_purple1", "gold3",
   "dark_khaki", "navajo_white3", "grey69", "gray69", "light_steel_blue3", "light_steel_blue",
   "yellow3", "dark_sea_green2", "light_cyan3", "light_sky_blue1", "green_yellow",
   "dark_olive_green2", "dark_sea_green1", "pale_turquoise1", "deep_pink3", "magenta2",
   "hot_pink2", "orchid", "medium_orchid1", "orange3", "light_pink3", "pink3", "plum3", "violet",
   "light_goldenrod3", "tan", "misty_rose3", "thistle3", "plum2", "khaki3", "light_goldenrod2",
   "light_yellow3", "grey84", "gray84", "light_steel_blue1", "yellow2", "dark_olive_green1",
   "honeydew2", "light_cyan1", "red1", "deep_pink2", "deep_pink1", "magenta1", "orange_red1",
   "indian_red1", "hot_pink", "dark_orange", "salmon1", "light_coral", "pale_violet_red1",
   "orchid2", "orchid1", "orange1", "sandy_brown", "light_salmon1", "light_pink1", "pink1",
   "plum1", "gold1", "navajo_white1", "misty_rose1", "thistle1", "yellow1", "light_goldenrod1",
   "khaki1", "wheat1", "cornsilk1", "grey100", "gray100", "grey3", "gray3", "grey7", "gray7",
   "grey11", "gray11", "grey15", "gray15", "grey19", "gray19", "grey23", "gray23", "grey27",
   "gray27", "grey30", "gray30", "grey35", "gray35", "grey39", "gray39", "grey42", "gray42",
   "grey46", "gray46", "grey50", "gray50", "grey54", "gray54", "grey58", "gray58", "grey62",
   "gray62", "grey66", "gray66", "grey70", "gray70", "grey74", "gray74", "grey78", "gray78",
   "grey82", "gray82", "grey85", "gray85", "grey89", "gray89", "grey93", "gray93"]

/-- The text between an opening word and the last character, which has to be a closing bracket. -/
def argumentOf? (opening : String) (cs : List Char) : Option (List Char) :=
  let body := cs.drop opening.length
  if opening.toList.isPrefixOf cs ∧ body.getLast? = some ')' then some body.dropLast else none

/-- A number that a part of a colour can have. -/
def isColourPart (cs : List Char) : Bool :=
  cs.all (·.isDigit) &&
    match Text.digitsFrom 10 0 false cs with
    | some n => n ≤ 255
    | none => false

/-- Whether a word in lower case names a colour: by its name, its number, or its three parts. -/
def isColour (word : String) : Bool :=
  let cs := word.toList
  plainColours.contains word ||
    (match cs with
     | '#' :: digits => digits.length == 6 && digits.all fun c => (Text.hexValue? c).isSome
     | _ => false) ||
    (match argumentOf? "color(" cs with
     | some digits => digits.length ≤ 3 && isColourPart digits
     | none => false) ||
    (match argumentOf? "rgb(" cs with
     | some parts =>
       let parts := Text.splitAtChar ',' parts
       parts.length == 3 && parts.all isColourPart
     | none => false)

/-! ## Styles -/

/-- What a name says about a style. -/
structure Style where
  attributes : List (String × Bool) := []
  colour : Option String := none
  background : Option String := none
  link : Option String := none

namespace Style

/-- Switches an attribute on or off. -/
def switch (s : Style) (name : String) (on : Bool) : Style :=
  { s with attributes := (name, on) :: s.attributes }

/-- Reads words into a style; none if one of them has no meaning at its place. -/
def ofWords? (s : Style) : List String → Option Style
  | [] => some s
  | word :: rest =>
    let key := String.ofList (Text.lower word.toList)
    if key = "on" then
      match rest with
      | colour :: rest =>
        if isColour (String.ofList (Text.lower colour.toList)) then
          ofWords? { s with background := some colour } rest
        else none
      | [] => none
    else if key = "not" then
      match rest with
      | word :: rest =>
        match attributeOf? word with
        | some a => ofWords? (s.switch a false) rest
        | none => none
      | [] => none
    else if key = "link" then
      match rest with
      | link :: rest => ofWords? { s with link := some link } rest
      | [] => none
    else
      match attributeOf? key with
      | some a => ofWords? (s.switch a true) rest
      | none => if isColour key then ofWords? { s with colour := some key } rest else none

/-- The words of a style in normal form. -/
def words (s : Style) : List String :=
  attributeNames.flatMap (fun a =>
    match s.attributes.lookup a.1 with
    | some true => [a.1]
    | some false => ["not " ++ a.1]
    | none => []) ++
  s.colour.toList ++
  (s.background.map fun c => "on " ++ String.ofList (Text.lower c.toList)).toList ++
  (s.link.map fun l => "link " ++ l).toList

end Style

/-- The words of a text. -/
def wordsOf (cs : List Char) : List String :=
  ((cs.splitBy fun a b => !Text.isBlank a && !Text.isBlank b).filter
    fun w => !w.all Text.isBlank).map String.ofList

/-- The normal form of a style name. -/
def styleName (cs : List Char) : String :=
  if Text.strip cs = "none".toList then "none"
  else
    match Style.ofWords? {} (wordsOf cs) with
    | some s => if s.words.isEmpty then "none" else " ".intercalate s.words
    | none => String.ofList (Text.lower (Text.strip cs))

end Muffle.Console
