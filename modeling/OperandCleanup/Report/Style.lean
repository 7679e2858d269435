import OperandCleanup.Number.Hexadecimal
import OperandCleanup.Text.Blank
import OperandCleanup.Text.Lines
import OperandCleanup.Text.Uppercase

/-!
# Names of styles

A style is named by words: attributes, which may be negated, a colour, a colour of the background,
and a link. Names of one style have one canonical form, whatever the order and the abbreviations of
their words. Every other name is its own canonical form, without regard to case.
-/

namespace OperandCleanup.Report

/-- The attributes of a style, in canonical order, each with its abbreviation. -/
def styleAttributes : List (String × String) :=
  [("bold", "b"), ("dim", "d"), ("italic", "i"), ("underline", "u"), ("blink", "blink"),
    ("blink2", "blink2"), ("reverse", "r"), ("conceal", "c"), ("strike", "s"),
    ("underline2", "uu"), ("frame", "frame"), ("encircle", "encircle"), ("overline", "o")]

/-- The attribute that a word names. -/
def styleAttribute? (word : String) : Option String :=
  (styleAttributes.find? fun (name, short) => name == word || short == word).map (·.1)

/-- The names of colours. -/
def colourTable : String := "
  black red green yellow blue magenta cyan white bright_black bright_red bright_green
  bright_yellow bright_blue bright_magenta bright_cyan bright_white grey0 gray0 navy_blue
  dark_blue blue3 blue1 dark_green deep_sky_blue4 dodger_blue3 dodger_blue2 green4 spring_green4
  turquoise4 deep_sky_blue3 dodger_blue1 green3 spring_green3 dark_cyan light_sea_green
  deep_sky_blue2 deep_sky_blue1 spring_green2 cyan3 dark_turquoise turquoise2 green1 spring_green1
  medium_spring_green cyan2 cyan1 dark_red deep_pink4 purple4 purple3 blue_violet orange4 grey37
  gray37 medium_purple4 slate_blue3 royal_blue1 chartreuse4 dark_sea_green4 pale_turquoise4
  steel_blue steel_blue3 cornflower_blue chartreuse3 cadet_blue sky_blue3 steel_blue1 pale_green3
  sea_green3 aquamarine3 medium_turquoise chartreuse2 sea_green2 sea_green1 aquamarine1
  dark_slate_gray2 dark_magenta dark_violet purple light_pink4 plum4 medium_purple3 slate_blue1
  yellow4 wheat4 grey53 gray53 light_slate_grey light_slate_gray medium_purple light_slate_blue
  dark_olive_green3 dark_sea_green light_sky_blue3 sky_blue2 dark_sea_green3 dark_slate_gray3
  sky_blue1 chartreuse1 light_green pale_green1 dark_slate_gray1 red3 medium_violet_red magenta3
  dark_orange3 indian_red hot_pink3 medium_orchid3 medium_orchid medium_purple2 dark_goldenrod
  light_salmon3 rosy_brown grey63 gray63 medium_purple1 gold3 dark_khaki navajo_white3 grey69
  gray69 light_steel_blue3 light_steel_blue yellow3 dark_sea_green2 light_cyan3 light_sky_blue1
  green_yellow dark_olive_green2 dark_sea_green1 pale_turquoise1 deep_pink3 magenta2 hot_pink2
  orchid medium_orchid1 orange3 light_pink3 pink3 plum3 violet light_goldenrod3 tan misty_rose3
  thistle3 plum2 khaki3 light_goldenrod2 light_yellow3 grey84 gray84 light_steel_blue1 yellow2
  dark_olive_green1 honeydew2 light_cyan1 red1 deep_pink2 deep_pink1 magenta1 orange_red1
  indian_red1 hot_pink dark_orange salmon1 light_coral pale_violet_red1 orchid2 orchid1 orange1
  sandy_brown light_salmon1 light_pink1 pink1 plum1 gold1 navajo_white1 misty_rose1 thistle1
  yellow1 light_goldenrod1 khaki1 wheat1 cornsilk1 grey100 gray100 grey3 gray3 grey7 gray7 grey11
  gray11 grey15 gray15 grey19 gray19 grey23 gray23 grey27 gray27 grey30 gray30 grey35 gray35
  grey39 gray39 grey42 gray42 grey46 gray46 grey50 gray50 grey54 gray54 grey58 gray58 grey62
  gray62 grey66 gray66 grey70 gray70 grey74 gray74 grey78 gray78 grey82 gray82 grey85 gray85
  grey89 gray89 grey93 gray93
"

/-- The words of a text between blanks. -/
def blankSeparated (s : String) : List String :=
  ((s.toList.map fun c => if Text.isBlank c then ' ' else c) |> Text.pieces ' ').filterMap
    fun word => if word.isEmpty then none else some (String.ofList word)

def lowerCase (s : String) : String := String.ofList (s.toList.map Char.toLower)

/-- What stands between two marks that a text begins and ends with. -/
def between? (start : String) (stop : Char) (s : String) : Option (List Char) :=
  if s.startsWith start then
    match (s.toList.drop start.length).reverse with
    | c :: inner => if c = stop then some inner.reverse else none
    | [] => none
  else none

/-- The number that up to a byte's worth of decimal digits write. -/
def byte? (digits : List Char) : Option Nat :=
  if digits.isEmpty || !digits.all Char.isDigit then none
  else
    let value := digits.foldl (fun value c => 10 * value + (c.toNat - '0'.toNat)) 0
    if value ≤ 255 then some value else none

/-- Whether a word in lower case names a colour: by name, by number, or by its components. -/
def isColour (word : String) : Bool :=
  word == "default" || (blankSeparated colourTable).contains word ||
    (word.length == 7 && word.startsWith "#" &&
      (word.toList.drop 1).all fun c => c.isDigit || ('a' ≤ c && c ≤ 'f')) ||
    ((between? "color(" ')' word).any fun digits => digits.length ≤ 3 && (byte? digits).isSome) ||
    ((between? "rgb(" ')' word).any fun components =>
      let parts := Text.pieces ',' components
      parts.length == 3 && parts.all fun digits => (byte? digits).isSome)

/-- The colour that a word names, in lower case. -/
def colour? (word : String) : Option String :=
  let name := lowerCase word
  if isColour name then some name else none

/-- A style by its parts. -/
structure Style where
  attributes : List (String × Bool) := []
  colour : Option String := none
  background : Option String := none
  link : Option String := none
deriving DecidableEq, Repr, Inhabited

namespace Style

/-- The style with an attribute set or unset. -/
def withAttribute (style : Style) (name : String) (value : Bool) : Style :=
  { style with attributes := (name, value) :: style.attributes }

/-- The style that words name in addition to a style. -/
def addWords (style : Style) : List String → Option Style
  | [] => some style
  | [word] =>
    match styleAttribute? (lowerCase word) with
    | some name => some (style.withAttribute name true)
    | none =>
      if ["on", "not", "link"].contains (lowerCase word) then none
      else (colour? word).map fun colour => { style with colour := some colour }
  | word :: next :: rest =>
    match lowerCase word with
    | "on" =>
      (colour? next).bind fun colour => addWords { style with background := some colour } rest
    | "not" =>
      (styleAttribute? next).bind fun name => addWords (style.withAttribute name false) rest
    | "link" => addWords { style with link := some next } rest
    | lower =>
      match styleAttribute? lower with
      | some name => addWords (style.withAttribute name true) (next :: rest)
      | none =>
        (colour? word).bind fun colour =>
          addWords { style with colour := some colour } (next :: rest)
termination_by words => words.length

/-- The words of a style in canonical order. -/
def words (style : Style) : List String :=
  (styleAttributes.filterMap fun (name, _) =>
      (style.attributes.lookup name).map fun value => if value then name else "not " ++ name) ++
    style.colour.toList ++ (style.background.toList.map fun colour => "on " ++ colour) ++
    style.link.toList.map fun link => "link " ++ link

/-- The canonical form of a name. -/
def canonicalName (name : String) : String :=
  let words := blankSeparated name
  if words = ["none"] then "none"
  else
    match addWords {} words with
    | some style => if style.words.isEmpty then "none" else Text.joined " " style.words
    | none => Text.trim (lowerCase name)

end Style

end OperandCleanup.Report
