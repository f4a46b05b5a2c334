import PictureReport.Number.Numeral
import PictureReport.Text.Case

/-!
# Styles

A style is written in words: attributes, `not` before attributes that are switched off, a colour,
`on` before the colour of the background, and `link` before an address. Words of the same style in
another order or under other names have one normal form.
-/

namespace PictureReport

structure Style where
  /-- The attributes that are switched on or off. -/
  attributes : List (String × Bool)
  color : Option Text
  background : Option Text
  link : Option Text
deriving DecidableEq, Repr

namespace Style

/-- The attributes in the order of the normal form. -/
def attributeNames : List String :=
  ["bold", "dim", "italic", "underline", "blink", "blink2", "reverse", "conceal", "strike",
    "underline2", "frame", "encircle", "overline"]

/-- Short names of attributes. -/
def shortNames : List (String × String) :=
  [("d", "dim"), ("b", "bold"), ("i", "italic"), ("u", "underline"), ("r", "reverse"),
    ("c", "conceal"), ("s", "strike"), ("uu", "underline2"), ("o", "overline")]

def attribute? (word : Text) : Option String :=
  (attributeNames.find? (·.toList = word)).or
    ((shortNames.find? (·.1.toList = word)).map (·.2))

/-- The colours that have names. -/
def colorNames : List String := [
  "black red green yellow blue magenta cyan white bright_black bright_red bright_green",
  "bright_yellow bright_blue bright_magenta bright_cyan bright_white grey0 gray0 navy_blue",
  "dark_blue blue3 blue1 dark_green deep_sky_blue4 dodger_blue3 dodger_blue2 green4 spring_green4",
  "turquoise4 deep_sky_blue3 dodger_blue1 green3 spring_green3 dark_cyan light_sea_green",
  "deep_sky_blue2 deep_sky_blue1 spring_green2 cyan3 dark_turquoise turquoise2 green1 spring_green1",
  "medium_spring_green cyan2 cyan1 dark_red deep_pink4 purple4 purple3 blue_violet orange4 grey37",
  "gray37 medium_purple4 slate_blue3 royal_blue1 chartreuse4 dark_sea_green4 pale_turquoise4",
  "steel_blue steel_blue3 cornflower_blue chartreuse3 cadet_blue sky_blue3 steel_blue1 pale_green3",
  "sea_green3 aquamarine3 medium_turquoise chartreuse2 sea_green2 sea_green1 aquamarine1",
  "dark_slate_gray2 dark_magenta dark_violet purple light_pink4 plum4 medium_purple3 slate_blue1",
  "yellow4 wheat4 grey53 gray53 light_slate_grey light_slate_gray medium_purple light_slate_blue",
  "dark_olive_green3 dark_sea_green light_sky_blue3 sky_blue2 dark_sea_green3 dark_slate_gray3",
  "sky_blue1 chartreuse1 light_green pale_green1 dark_slate_gray1 red3 medium_violet_red magenta3",
  "dark_orange3 indian_red hot_pink3 medium_orchid3 medium_orchid medium_purple2 dark_goldenrod",
  "light_salmon3 rosy_brown grey63 gray63 medium_purple1 gold3 dark_khaki navajo_white3 grey69",
  "gray69 light_steel_blue3 light_steel_blue yellow3 dark_sea_green2 light_cyan3 light_sky_blue1",
  "green_yellow dark_olive_green2 dark_sea_green1 pale_turquoise1 deep_pink3 magenta2 hot_pink2",
  "orchid medium_orchid1 orange3 light_pink3 pink3 plum3 violet light_goldenrod3 tan misty_rose3",
  "thistle3 plum2 khaki3 light_goldenrod2 light_yellow3 grey84 gray84 light_steel_blue1 yellow2",
  "dark_olive_green1 honeydew2 light_cyan1 red1 deep_pink2 deep_pink1 magenta1 orange_red1",
  "indian_red1 hot_pink dark_orange salmon1 light_coral pale_violet_red1 orchid2 orchid1 orange1",
  "sandy_brown light_salmon1 light_pink1 pink1 plum1 gold1 navajo_white1 misty_rose1 thistle1",
  "yellow1 light_goldenrod1 khaki1 wheat1 cornsilk1 grey100 gray100 grey3 gray3 grey7 gray7 grey11",
  "gray11 grey15 gray15 grey19 gray19 grey23 gray23 grey27 gray27 grey30 gray30 grey35 gray35",
  "grey39 gray39 grey42 gray42 grey46 gray46 grey50 gray50 grey54 gray54 grey58 gray58 grey62",
  "gray62 grey66 gray66 grey70 gray70 grey74 gray74 grey78 gray78 grey82 gray82 grey85 gray85",
  "grey89 gray89 grey93 gray93"]

def isHexDigit (c : Char) : Bool :=
  (48 ≤ c.toNat && c.toNat ≤ 57) || (97 ≤ c.toNat && c.toNat ≤ 102)

/-- Is the text a decimal number of at most 255? -/
def isByte (digits : Text) : Bool :=
  !digits.isEmpty && digits.all Char.isDigit &&
    digits.foldl (fun n c => 10 * n + (c.toNat - 48)) 0 ≤ 255

/-- What stands between the front `front` and a closing parenthesis. -/
def enclosedBy? (front : Text) (word : Text) : Option Text :=
  if front.isPrefixOf word && word.getLast? = some ')' then some (word.dropLast.drop front.length)
  else none

/-- Is the word in lower case a colour that has a name, six hexadecimal digits or a number? -/
def isSingleColor (word : Text) : Bool :=
  word = "default".toList || colorNames.any (fun row => (Text.separate ' ' row.toList).contains word) ||
    (word.head? = some '#' && word.length = 7 && (word.drop 1).all isHexDigit) ||
    (match enclosedBy? "color(".toList word with
      | some number => number.length ≤ 3 && isByte number
      | none => false)

/-- Do the characters between parentheses, digits of any script and commas, write the three parts of a colour?
There must not be an empty part among three. -/
def isMixture (parts : Text) : Except NumberFault Bool :=
  let pieces := Text.separate ',' parts
  if parts.all (fun c => c = ',' || (Digit.value? c).isSome) && pieces.length = 3 then do
    let numbers ← pieces.mapM Numeral.integer
    pure (numbers.all (· ≤ 255))
  else pure false

/-- Is the word in lower case a colour? -/
def isColor (word : Text) : Except NumberFault Bool :=
  match enclosedBy? "rgb(".toList word with
  | some parts => isMixture parts
  | none => pure (isSingleColor word)

/-- Switch an attribute on or off. -/
def switch (style : Style) (name : String) (on : Bool) : Style :=
  { style with attributes := (name, on) :: style.attributes.filter (·.1 ≠ name) }

/-- The style with what words add to it, if they are words of a style. -/
def addWords (style : Style) : List Text → Except NumberFault (Option Style)
  | [] => pure (some style)
  | word :: rest =>
    let plain := word.lower
    if plain = "on".toList then
      match rest with
      | color :: rest => do
        if ← isColor color.lower then addWords { style with background := some color.lower } rest
        else pure none
      | [] => pure none
    else if plain = "not".toList then
      match rest with
      | name :: rest =>
        match attribute? name with
        | some name => addWords (style.switch name false) rest
        | none => pure none
      | [] => pure none
    else if plain = "link".toList then
      match rest with
      | address :: rest => addWords { style with link := some address } rest
      | [] => pure none
    else match attribute? plain with
      | some name => addWords (style.switch name true) rest
      | none => do
        if ← isColor plain then addWords { style with color := some plain } rest else pure none

/-- The words of a style in their order. -/
def words (style : Style) : List Text :=
  (attributeNames.filterMap fun name =>
    (style.attributes.lookup name).map fun on =>
      if on then name.toList else "not ".toList ++ name.toList) ++
    style.color.toList ++
    (style.background.elim [] fun color => ["on".toList, color]) ++
    (style.link.elim [] fun address => ["link".toList, address])

/-- The normal form of the words of a style.  Words that are no style are only trimmed and written in lower
case. -/
def normal (t : Text) : Except NumberFault Text := do
  if t.trim = "none".toList then pure "none".toList
  else match ← addWords ⟨[], none, none, none⟩ t.words with
    | none => pure t.trim.lower
    | some style =>
      pure (if style.words.isEmpty then "none".toList else Text.joinWith [' '] style.words)

end Style

end PictureReport
