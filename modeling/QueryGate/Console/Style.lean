import QueryGate.Text.Blank
import QueryGate.Text.CaseMap
import QueryGate.Number.Read
import QueryGate.Json.Reader
/-! The names of styles in markup. Two spellings of one style have one name. -/

namespace QueryGate

/-- The attributes of a style in the order in which they are named, each with its spellings. -/
def styleAttributes : List (String × List String) :=
  [("bold", ["bold", "b"]), ("dim", ["dim", "d"]), ("italic", ["italic", "i"]),
   ("underline", ["underline", "u"]), ("blink", ["blink"]), ("blink2", ["blink2"]),
   ("reverse", ["reverse", "r"]), ("conceal", ["conceal", "c"]), ("strike", ["strike", "s"]),
   ("underline2", ["underline2", "uu"]), ("frame", ["frame"]), ("encircle", ["encircle"]),
   ("overline", ["overline", "o"])]

def styleAttribute? (word : String) : Option String :=
  (styleAttributes.find? (·.2.contains word)).map (·.1)

/-- The named colours, with blanks between them. -/
def colourNames : String := "
black red green yellow blue magenta cyan white bright_black bright_red bright_green
bright_yellow bright_blue bright_magenta bright_cyan bright_white grey0 gray0 navy_blue
dark_blue blue3 blue1 dark_green deep_sky_blue4 dodger_blue3 dodger_blue2 green4 spring_green4
turquoise4 deep_sky_blue3 dodger_blue1 green3 spring_green3 dark_cyan light_sea_green
deep_sky_blue2 deep_sky_blue1 spring_green2 cyan3 dark_turquoise turquoise2 green1 spring_green1
medium_spring_green cyan2 cyan1 dark_red deep_pink4 purple4 purple3 blue_violet orange4 grey37
gray37 medium_purple4 slate_blue3 royal_blue1 chartreuse4 dark_sea_green4 pale_turquoise4
steel_blue steel_blue3 cornflower_blue chartreuse3 cadet_blue sky_blue3 steel_blue1 pale_green3
sea_green3 aquamarine3 medium_turquoise chartreuse2 sea_green2 sea_green1 aquamarine1
dark_slate_gray2 dark_magenta dark_violet purple light_pink4 plum4 medium_purple3 slate_blue1
yellow4 wheat4 grey53 gray53 light_slate_grey light_slate_gray medium_purple light_slate_blue
dark_olive_green3 dark_sea_green light_sky_blue3 sky_blue2 dark_sea_green3 dark_slate_gray3
sky_blue1 chartreuse1 light_green pale_green1 dark_slate_gray1 red3 medium_violet_red magenta3
dark_orange3 indian_red hot_pink3 medium_orchid3 medium_orchid medium_purple2 dark_goldenrod
light_salmon3 rosy_brown grey63 gray63 medium_purple1 gold3 dark_khaki navajo_white3 grey69
gray69 light_steel_blue3 light_steel_blue yellow3 dark_sea_green2 light_cyan3 light_sky_blue1
green_yellow dark_olive_green2 dark_sea_green1 pale_turquoise1 deep_pink3 magenta2 hot_pink2
orchid medium_orchid1 orange3 light_pink3 pink3 plum3 violet light_goldenrod3 tan misty_rose3
thistle3 plum2 khaki3 light_goldenrod2 light_yellow3 grey84 gray84 light_steel_blue1 yellow2
dark_olive_green1 honeydew2 light_cyan1 red1 deep_pink2 deep_pink1 magenta1 orange_red1
indian_red1 hot_pink dark_orange salmon1 light_coral pale_violet_red1 orchid2 orchid1 orange1
sandy_brown light_salmon1 light_pink1 pink1 plum1 gold1 navajo_white1 misty_rose1 thistle1
yellow1 light_goldenrod1 khaki1 wheat1 cornsilk1 grey100 gray100 grey3 gray3 grey7 gray7 grey11
gray11 grey15 gray15 grey19 gray19 grey23 gray23 grey27 gray27 grey30 gray30 grey35 gray35
grey39 gray39 grey42 gray42 grey46 gray46 grey50 gray50 grey54 gray54 grey58 gray58 grey62
gray62 grey66 gray66 grey70 gray70 grey74 gray74 grey78 gray78 grey82 gray82 grey85 gray85
grey89 gray89 grey93 gray93
"

def isColourCode (word : List Char) : Bool :=
  match word with
  | '#' :: digits => digits.length = 6 && digits.all (hexValue? · |>.isSome)
  | _ =>
    match "color(".toList.isPrefixOf word, word.reverse with
    | true, ')' :: _ =>
      let digits := (word.drop 6).dropLast
      0 < digits.length && digits.length ≤ 3 && digits.all isAsciiDigit && natOfDigits digits ≤ 255
    | _, _ => false

def isColour (word : String) : Bool :=
  word = "default" || (words colourNames).contains word || isColourCode word.toList

/-- A style put together from its words. -/
structure StyleParts where
  attributes : List (String × Bool) := []
  colour : Option String := none
  ground : Option String := none
  link : Option String := none

def StyleParts.setAttribute (p : StyleParts) (named : String) (on : Bool) : StyleParts :=
  { p with attributes := (named, on) :: p.attributes }

/-- What a word that stands by itself adds to a style. -/
def StyleParts.addWord (p : StyleParts) (word : String) : Option StyleParts :=
  match styleAttribute? word with
  | some name => some (p.setAttribute name true)
  | none => if isColour word then some { p with colour := some word } else none

/-- What a word adds that says how the word before it is meant. -/
def StyleParts.addPair (p : StyleParts) (word next : String) : Option StyleParts :=
  match word with
  | "on" =>
    if isColour (toLowerText next) then some { p with ground := some (toLowerText next) } else none
  | "not" => (styleAttribute? next).map (p.setAttribute · false)
  | _ => some { p with link := some next }

/-- Reads the words of a style, or nothing if one of them is none. -/
def StyleParts.read (p : StyleParts) : List String → Option StyleParts
  | [] => some p
  | [word] => p.addWord (toLowerText word)
  | word :: next :: rest =>
    if toLowerText word ∈ ["on", "not", "link"] then do
      (← p.addPair (toLowerText word) next).read rest
    else do (← p.addWord (toLowerText word)).read (next :: rest)

def StyleParts.name (p : StyleParts) : String :=
  let attributes := styleAttributes.filterMap fun (name, _) =>
    (List.lookup name p.attributes).map fun on => if on then name else "not " ++ name
  let parts := attributes ++ p.colour.toList ++ (p.ground.map ("on " ++ ·)).toList
    ++ (p.link.map ("link " ++ ·)).toList
  if parts.isEmpty then "none" else " ".intercalate parts

/-- The name of a style; what is no style is its own name in small letters. -/
def styleName (definition : String) : String :=
  if trimText definition = "none" || isBlankText definition then "none"
  else
    match StyleParts.read {} (words definition) with
    | some p => p.name
    | none => toLowerText (trimText definition)

end QueryGate
