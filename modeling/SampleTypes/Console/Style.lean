import SampleTypes.Json.Reader
import SampleTypes.Number.Integer
import SampleTypes.Text.LowerCase
import SampleTypes.Text.Split
/-!
# Styles of the console

A style is defined by words: features such as `bold`, with `not` before one that is off, a color, another
one after `on` for the background, and an address after `link`. The order of the words does not matter, and
a feature may go by a shorter name, so a definition has a normal form. Words that define no style have
only themselves for a normal form, in small letters.
-/

set_option autoImplicit false

namespace SampleTypes

/-- What may be on or off in a style. -/
inductive StyleFeature where
  | bold | dim | italic | underline | blink | rapidBlink | reverse | conceal | strike
  | doubleUnderline | frame | encircle | overline
deriving DecidableEq, Repr

namespace StyleFeature

/-- All features, in the order of a normal form. -/
def all : List StyleFeature :=
  [bold, dim, italic, underline, blink, rapidBlink, reverse, conceal, strike, doubleUnderline, frame,
   encircle, overline]

/-- The names of a feature. The first one stands in a normal form. -/
def names : StyleFeature → List Text
  | bold => ["bold", "b"]
  | dim => ["dim", "d"]
  | italic => ["italic", "i"]
  | underline => ["underline", "u"]
  | blink => ["blink"]
  | rapidBlink => ["blink2"]
  | reverse => ["reverse", "r"]
  | conceal => ["conceal", "c"]
  | strike => ["strike", "s"]
  | doubleUnderline => ["underline2", "uu"]
  | frame => ["frame"]
  | encircle => ["encircle"]
  | overline => ["overline", "o"]

def ofName? (name : Text) : Option StyleFeature := all.find? fun feature => feature.names.contains name

end StyleFeature

/-- The names of the colors, beside `default`. -/
def colorNames : String :=
  "black red green yellow blue magenta cyan white bright_black bright_red bright_green bright_yellow
bright_blue bright_magenta bright_cyan bright_white grey0 gray0 navy_blue dark_blue blue3 blue1
dark_green deep_sky_blue4 dodger_blue3 dodger_blue2 green4 spring_green4 turquoise4 deep_sky_blue3
dodger_blue1 green3 spring_green3 dark_cyan light_sea_green deep_sky_blue2 deep_sky_blue1
spring_green2 cyan3 dark_turquoise turquoise2 green1 spring_green1 medium_spring_green cyan2 cyan1
dark_red deep_pink4 purple4 purple3 blue_violet orange4 grey37 gray37 medium_purple4 slate_blue3
royal_blue1 chartreuse4 dark_sea_green4 pale_turquoise4 steel_blue steel_blue3 cornflower_blue
chartreuse3 cadet_blue sky_blue3 steel_blue1 pale_green3 sea_green3 aquamarine3 medium_turquoise
chartreuse2 sea_green2 sea_green1 aquamarine1 dark_slate_gray2 dark_magenta dark_violet purple
light_pink4 plum4 medium_purple3 slate_blue1 yellow4 wheat4 grey53 gray53 light_slate_grey
light_slate_gray medium_purple light_slate_blue dark_olive_green3 dark_sea_green light_sky_blue3
sky_blue2 dark_sea_green3 dark_slate_gray3 sky_blue1 chartreuse1 light_green pale_green1
dark_slate_gray1 red3 medium_violet_red magenta3 dark_orange3 indian_red hot_pink3 medium_orchid3
medium_orchid medium_purple2 dark_goldenrod light_salmon3 rosy_brown grey63 gray63 medium_purple1
gold3 dark_khaki navajo_white3 grey69 gray69 light_steel_blue3 light_steel_blue yellow3
dark_sea_green2 light_cyan3 light_sky_blue1 green_yellow dark_olive_green2 dark_sea_green1
pale_turquoise1 deep_pink3 magenta2 hot_pink2 orchid medium_orchid1 orange3 light_pink3 pink3 plum3
violet light_goldenrod3 tan misty_rose3 thistle3 plum2 khaki3 light_goldenrod2 light_yellow3 grey84
gray84 light_steel_blue1 yellow2 dark_olive_green1 honeydew2 light_cyan1 red1 deep_pink2 deep_pink1
magenta1 orange_red1 indian_red1 hot_pink dark_orange salmon1 light_coral pale_violet_red1 orchid2
orchid1 orange1 sandy_brown light_salmon1 light_pink1 pink1 plum1 gold1 navajo_white1 misty_rose1
thistle1 yellow1 light_goldenrod1 khaki1 wheat1 cornsilk1 grey100 gray100 grey3 gray3 grey7 gray7
grey11 gray11 grey15 gray15 grey19 gray19 grey23 gray23 grey27 gray27 grey30 gray30 grey35 gray35
grey39 gray39 grey42 gray42 grey46 gray46 grey50 gray50 grey54 gray54 grey58 gray58 grey62 gray62
grey66 gray66 grey70 gray70 grey74 gray74 grey78 gray78 grey82 gray82 grey85 gray85 grey89 gray89
grey93 gray93"

/-- The colors that have a name. -/
def namedColors : List Text := (Text.ofString colorNames).splitBlank

/-- A number in a color that cannot be read. -/
inductive ColorFault where
  | missingNumber
  | numberTooLong (digits : Nat)
deriving DecidableEq, Repr

def ColorFault.message : ColorFault → Text
  | missingNumber => "invalid literal for int() with base 10: ''"
  | numberTooLong digits => Json.integerTooLongMessage digits

namespace Color

/-- The greatest value of a component, and the greatest number of a color. -/
def greatest : Nat := 255

/-- What stands in parentheses after a keyword. -/
def argument? (keyword t : Text) : Option Text :=
  let start := keyword ++ ("(" : Text)
  if start.isPrefixOf t && t.getLast? = some (.scalar ')') then some (t.drop start.length).dropLast
  else none

/-- Whether a text is six hexadecimal digits after a number sign. -/
def isHexadecimal : Text → Bool
  | .scalar '#' :: digits => digits.length = 6 && digits.all fun c => (Json.hexDigit? c.toChar).isSome
  | _ => false

def isNumbered (t : Text) : Bool :=
  match argument? "color" t with
  | some digits =>
    !digits.isEmpty && digits.length ≤ 3 && digits.all (fun c => c.toChar.isDigit) &&
      (natural? digits).any (· ≤ greatest)
  | none => false

def component (digits : Text) : Except ColorFault Nat :=
  if digits.isEmpty then .error .missingNumber
  else
    match natural? digits with
    | some n => .ok n
    | none => .error (.numberTooLong digits.length)

def isComponentChar : CodePoint → Bool
  | .scalar c => c = ',' || (decimalValue? c).isSome
  | .surrogate _ => false

/-- Whether a text is a color by its three components. -/
def isMixed (t : Text) : Except ColorFault Bool :=
  match argument? "rgb" t with
  | some argument => do
    let components := argument.splitOn (.scalar ',')
    if argument.all isComponentChar && components.length = 3 then
      return (← components.mapM component).all (· ≤ greatest)
    else return false
  | none => return false

/-- The color that a word names, as it stands in a normal form. -/
def ofWord (word : Text) : Except ColorFault (Option Text) := do
  let color := word.lowerCase
  if color = ("default" : Text) || namedColors.contains color || isHexadecimal color
      || isNumbered color || (← isMixed color) then
    return some color
  else return none

end Color

/-- A style as it is defined. -/
structure ConsoleStyle where
  /-- The features that are on or off, the last one first. -/
  features : List (StyleFeature × Bool) := []
  color : Option Text := none
  background : Option Text := none
  link : Option Text := none
deriving DecidableEq, Repr

namespace ConsoleStyle

/-- Adds what words define, or gives `none` if they define nothing. -/
def define (style : ConsoleStyle) : List Text → Except ColorFault (Option ConsoleStyle)
  | [] => return some style
  | word :: words => do
    let key := word.lowerCase
    if key = ("on" : Text) then
      match words with
      | word :: words =>
        match ← Color.ofWord word with
        | some color => define { style with background := some color } words
        | none => return none
      | [] => return none
    else if key = ("not" : Text) then
      match words with
      | word :: words =>
        -- Only here the word has to be in small letters as it stands.
        match StyleFeature.ofName? word with
        | some feature =>
          define { style with features := (feature, false) :: style.features } words
        | none => return none
      | [] => return none
    else if key = ("link" : Text) then
      match words with
      | word :: words => define { style with link := some word } words
      | [] => return none
    else
      match StyleFeature.ofName? key with
      | some feature =>
        define { style with features := (feature, true) :: style.features } words
      | none =>
        match ← Color.ofWord key with
        | some color => define { style with color := some color } words
        | none => return none

/-- The words for a feature in a normal form. -/
def featureWords (style : ConsoleStyle) (feature : StyleFeature) : List Text :=
  match style.features.find? fun entry => entry.1 == feature with
  | some (_, true) => feature.names.take 1
  | some (_, false) => ("not" : Text) :: feature.names.take 1
  | none => []

/-- The words of the normal form. -/
def words (style : ConsoleStyle) : List Text :=
  StyleFeature.all.flatMap style.featureWords ++ style.color.toList ++
    (style.background.map fun color => [("on" : Text), color]).getD [] ++
    (style.link.map fun address => [("link" : Text), address]).getD []

/-- The normal form of a style. -/
def display (style : ConsoleStyle) : Text :=
  if style.words.isEmpty then ("none" : Text) else Text.join " " style.words

def normalForm (definition : Text) : Except ColorFault Text := do
  if definition.trim = ("none" : Text) then return ("none" : Text)
  match ← define {} definition.splitBlank with
  | some style => return style.display
  | none => return definition.trim.lowerCase

end ConsoleStyle

end SampleTypes
