import CodeGraph.Text.Blank
import CodeGraph.Text.Case

/-!
# Names of styles

A style is named by words: attributes, colours, `on` with a background, `not` with an attribute,
`link` with a target. Two names mean the same style if their normal forms agree.

## Main definitions

* `Terminal.Style.ofName?`: the style that words name.
* `Terminal.Style.normalize`: the normal form of a name.
-/

namespace CodeGraph.Terminal

/-- A style: attributes set or unset, colour, background and link. -/
structure Style where
  attributes : List (String × Bool) := []
  colour : Option String := none
  background : Option String := none
  link : Option String := none
deriving DecidableEq, Repr, Inhabited

namespace Style

/-- The attributes in the order in which normal forms list them. -/
def attributeNames : List String :=
  ["bold", "dim", "italic", "underline", "blink", "blink2", "reverse", "conceal", "strike",
   "underline2", "frame", "encircle", "overline"]

/-- Short names of attributes. -/
def attributeLetters : List (String × String) :=
  [("b", "bold"), ("d", "dim"), ("i", "italic"), ("u", "underline"), ("r", "reverse"),
   ("c", "conceal"), ("s", "strike"), ("uu", "underline2"), ("o", "overline")]

/-- The attribute that a word names. -/
def attribute? (word : String) : Option String :=
  if word ∈ attributeNames then some word else attributeLetters.lookup word

/-- Names of colours, several on a line. -/
def colourLines : List String :=
  ["black red green yellow blue magenta cyan white bright_black bright_red bright_green",
   "bright_yellow bright_blue bright_magenta bright_cyan bright_white grey0 gray0 navy_blue",
   "dark_blue blue3 blue1 dark_green deep_sky_blue4 dodger_blue3 dodger_blue2 green4",
   "spring_green4 turquoise4 deep_sky_blue3 dodger_blue1 green3 spring_green3 dark_cyan",
   "light_sea_green deep_sky_blue2 deep_sky_blue1 spring_green2 cyan3 dark_turquoise",
   "turquoise2 green1 spring_green1 medium_spring_green cyan2 cyan1 dark_red deep_pink4",
   "purple4 purple3 blue_violet orange4 grey37 gray37 medium_purple4 slate_blue3 royal_blue1",
   "chartreuse4 dark_sea_green4 pale_turquoise4 steel_blue steel_blue3 cornflower_blue",
   "chartreuse3 cadet_blue sky_blue3 steel_blue1 pale_green3 sea_green3 aquamarine3",
   "medium_turquoise chartreuse2 sea_green2 sea_green1 aquamarine1 dark_slate_gray2",
   "dark_magenta dark_violet purple light_pink4 plum4 medium_purple3 slate_blue1 yellow4",
   "wheat4 grey53 gray53 light_slate_grey light_slate_gray medium_purple light_slate_blue",
   "dark_olive_green3 dark_sea_green light_sky_blue3 sky_blue2 dark_sea_green3",
   "dark_slate_gray3 sky_blue1 chartreuse1 light_green pale_green1 dark_slate_gray1 red3",
   "medium_violet_red magenta3 dark_orange3 indian_red hot_pink3 medium_orchid3",
   "medium_orchid medium_purple2 dark_goldenrod light_salmon3 rosy_brown grey63 gray63",
   "medium_purple1 gold3 dark_khaki navajo_white3 grey69 gray69 light_steel_blue3",
   "light_steel_blue yellow3 dark_sea_green2 light_cyan3 light_sky_blue1 green_yellow",
   "dark_olive_green2 dark_sea_green1 pale_turquoise1 deep_pink3 magenta2 hot_pink2 orchid",
   "medium_orchid1 orange3 light_pink3 pink3 plum3 violet light_goldenrod3 tan misty_rose3",
   "thistle3 plum2 khaki3 light_goldenrod2 light_yellow3 grey84 gray84 light_steel_blue1",
   "yellow2 dark_olive_green1 honeydew2 light_cyan1 red1 deep_pink2 deep_pink1 magenta1",
   "orange_red1 indian_red1 hot_pink dark_orange salmon1 light_coral pale_violet_red1",
   "orchid2 orchid1 orange1 sandy_brown light_salmon1 light_pink1 pink1 plum1 gold1",
   "navajo_white1 misty_rose1 thistle1 yellow1 light_goldenrod1 khaki1 wheat1 cornsilk1",
   "grey100 gray100 grey3 gray3 grey7 gray7 grey11 gray11 grey15 gray15 grey19 gray19 grey23",
   "gray23 grey27 gray27 grey30 gray30 grey35 gray35 grey39 gray39 grey42 gray42 grey46",
   "gray46 grey50 gray50 grey54 gray54 grey58 gray58 grey62 gray62 grey66 gray66 grey70",
   "gray70 grey74 gray74 grey78 gray78 grey82 gray82 grey85 gray85 grey89 gray89 grey93",
   "gray93"]

/-- Whether digits write a number of at most 255. -/
def isByte (digits : String) : Bool :=
  digits ≠ "" && digits.toList.all Char.isDigit
    && digits.toList.foldl (fun n c => n * 10 + (c.toNat - 48)) 0 ≤ 255

/-- A hexadecimal digit in lower case. -/
def isHex (c : Char) : Bool :=
  c.isDigit || ('a' ≤ c && c ≤ 'f')

/-- What stands between a start and a closing parenthesis. -/
def enclosed? (start word : String) : Option String :=
  if Text.startsWith start word && Text.endsWith ")" word then
    some (Text.dropEnd 1 (Text.drop (Text.length start) word))
  else none

/-- Whether a word in lower case is a colour: by name, by number, or by its components. -/
def isColour (word : String) : Bool :=
  word = "default" || colourLines.any (fun line => word ∈ Text.segments ' ' line)
    || (Text.startsWith "#" word && Text.length word = 7 && (Text.drop 1 word).toList.all isHex)
    || ((enclosed? "color(" word).map fun n => decide (Text.length n ≤ 3) && isByte n).getD false
    || ((enclosed? "rgb(" word).map fun cs =>
        decide ((Text.split ',' cs).length = 3) && (Text.split ',' cs).all isByte).getD false

/-- The colour that a word names. -/
def colour? (word : String) : Option String :=
  let word := Text.lower word
  if isColour word then some word else none

/-- Set or unset an attribute. -/
def withAttribute (s : Style) (name : String) (value : Bool) : Style :=
  { s with attributes := (name, value) :: s.attributes.filter (·.1 ≠ name) }

/-- The style of words, starting from one. -/
def ofWords? (s : Style) : List String → Option Style
  | [] => some s
  | word :: words =>
    let lower := Text.lower word
    if lower = "on" then
      match words with
      | [] => none
      | w :: ws => (colour? w).bind fun c => ofWords? { s with background := some c } ws
    else if lower = "not" then
      match words with
      | [] => none
      | w :: ws => (attribute? w).bind fun a => ofWords? (s.withAttribute a false) ws
    else if lower = "link" then
      match words with
      | [] => none
      | w :: ws => ofWords? { s with link := some w } ws
    else
      match attribute? lower with
      | some a => ofWords? (s.withAttribute a true) words
      | none => (colour? lower).bind fun c => ofWords? { s with colour := some c } words

/-- The words of a text. -/
def words (s : String) : List String :=
  let cs := s.toList.map fun c => if Text.isBlank c then ' ' else c
  Text.segments ' ' (String.ofList cs)

/-- The style that a name stands for. -/
def ofName? (name : String) : Option Style :=
  if words name = ["none"] then some {} else ofWords? {} (words name)

/-- The words of a style: attributes in their order, colour, background, link. -/
def render (s : Style) : String :=
  let attributes := attributeNames.filterMap fun a =>
    (s.attributes.lookup a).map fun set => if set then a else "not " ++ a
  let parts := attributes ++ s.colour.toList ++ (s.background.map ("on " ++ ·)).toList
    ++ (s.link.map ("link " ++ ·)).toList
  if parts.isEmpty then "none" else Text.join " " parts

/-- The normal form of a name; a name of no style is only put in lower case. -/
def normalize (name : String) : String :=
  match ofName? name with
  | some s => s.render
  | none => Text.lower (Text.trim name)

end Style

end CodeGraph.Terminal
