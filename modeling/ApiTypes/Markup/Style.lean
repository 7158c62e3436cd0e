import ApiTypes.Fault
import ApiTypes.Number.Numeral
import ApiTypes.Text.Blank
import ApiTypes.Text.SmallForm

/-!
# Styles of marked-up text

A style is a row of words: attributes, which `not` takes back, colours for the
text and behind `on` for its ground, and a link. Styles that say the same have
one normal form. A text that is no style stands for itself in small letters.
-/

set_option autoImplicit false

namespace ApiTypes.Markup

def attributes : List (String × List String) :=
  [("bold", ["b"]), ("dim", ["d"]), ("italic", ["i"]), ("underline", ["u"]), ("blink", []),
    ("blink2", []), ("reverse", ["r"]), ("conceal", ["c"]), ("strike", ["s"]),
    ("underline2", ["uu"]), ("frame", []), ("encircle", []), ("overline", ["o"])]

def attribute? (name : String) : Option String :=
  (attributes.find? fun a => a.1 = name || a.2.contains name).map (·.1)

def colorNames : String :=
  "aquamarine1 aquamarine3 black blue blue1 blue3 blue_violet bright_black bright_blue " ++
  "bright_cyan bright_green bright_magenta bright_red bright_white bright_yellow cadet_blue " ++
  "chartreuse1 chartreuse2 chartreuse3 chartreuse4 cornflower_blue cornsilk1 cyan cyan1 cyan2 " ++
  "cyan3 dark_blue dark_cyan dark_goldenrod dark_green dark_khaki dark_magenta " ++
  "dark_olive_green1 dark_olive_green2 dark_olive_green3 dark_orange dark_orange3 dark_red " ++
  "dark_sea_green dark_sea_green1 dark_sea_green2 dark_sea_green3 dark_sea_green4 " ++
  "dark_slate_gray1 dark_slate_gray2 dark_slate_gray3 dark_turquoise dark_violet deep_pink1 " ++
  "deep_pink2 deep_pink3 deep_pink4 deep_sky_blue1 deep_sky_blue2 deep_sky_blue3 " ++
  "deep_sky_blue4 dodger_blue1 dodger_blue2 dodger_blue3 gold1 gold3 gray0 gray100 gray11 " ++
  "gray15 gray19 gray23 gray27 gray3 gray30 gray35 gray37 gray39 gray42 gray46 gray50 gray53 " ++
  "gray54 gray58 gray62 gray63 gray66 gray69 gray7 gray70 gray74 gray78 gray82 gray84 gray85 " ++
  "gray89 gray93 green green1 green3 green4 green_yellow grey0 grey100 grey11 grey15 grey19 " ++
  "grey23 grey27 grey3 grey30 grey35 grey37 grey39 grey42 grey46 grey50 grey53 grey54 grey58 " ++
  "grey62 grey63 grey66 grey69 grey7 grey70 grey74 grey78 grey82 grey84 grey85 grey89 grey93 " ++
  "honeydew2 hot_pink hot_pink2 hot_pink3 indian_red indian_red1 khaki1 khaki3 light_coral " ++
  "light_cyan1 light_cyan3 light_goldenrod1 light_goldenrod2 light_goldenrod3 light_green " ++
  "light_pink1 light_pink3 light_pink4 light_salmon1 light_salmon3 light_sea_green " ++
  "light_sky_blue1 light_sky_blue3 light_slate_blue light_slate_gray light_slate_grey " ++
  "light_steel_blue light_steel_blue1 light_steel_blue3 light_yellow3 magenta magenta1 " ++
  "magenta2 magenta3 medium_orchid medium_orchid1 medium_orchid3 medium_purple medium_purple1 " ++
  "medium_purple2 medium_purple3 medium_purple4 medium_spring_green medium_turquoise " ++
  "medium_violet_red misty_rose1 misty_rose3 navajo_white1 navajo_white3 navy_blue orange1 " ++
  "orange3 orange4 orange_red1 orchid orchid1 orchid2 pale_green1 pale_green3 pale_turquoise1 " ++
  "pale_turquoise4 pale_violet_red1 pink1 pink3 plum1 plum2 plum3 plum4 purple purple3 " ++
  "purple4 red red1 red3 rosy_brown royal_blue1 salmon1 sandy_brown sea_green1 sea_green2 " ++
  "sea_green3 sky_blue1 sky_blue2 sky_blue3 slate_blue1 slate_blue3 spring_green1 " ++
  "spring_green2 spring_green3 spring_green4 steel_blue steel_blue1 steel_blue3 tan thistle1 " ++
  "thistle3 turquoise2 turquoise4 violet wheat1 wheat4 white yellow yellow1 yellow2 yellow3 " ++
  "yellow4"

def between? (beginning : String) (s : List Char) : Option (List Char) :=
  (Text.dropFront? beginning.toList s).bind (Text.dropEnd? [')'])

def isSixDigits (s : List Char) : Bool :=
  s.length = 6 && s.all fun c => c.isDigit || ('a' ≤ c && c ≤ 'f')

def isColorNumber (s : List Char) : Bool :=
  0 < s.length && s.length ≤ 3 && s.all Char.isDigit &&
    s.foldl (fun n c => 10 * n + (c.toNat - 0x30)) 0 ≤ 255

def colorPart (s : List Char) : Except Fault Int :=
  match Numeral.read (String.ofList s) with
  | .value n => .ok n
  | .malformed => .error (.numeral 10 (String.ofList s))
  | .tooLong digits => .error (.numeralTooLong digits)

def areColorParts (s : List Char) : Except Fault Bool :=
  match Text.split ',' s with
  | [red, green, blue] => do
    let parts ← [red, green, blue].mapM colorPart
    return parts.all (· ≤ 255)
  | _ => .ok false

def isDigitRow (s : List Char) : Bool :=
  !s.isEmpty && s.all fun c => c = ',' || (Text.digitValue? c).isSome

def isColor (word : List Char) : Except Fault Bool :=
  if word = "default".toList || (Text.split ' ' colorNames.toList).contains word then .ok true
  else match word, between? "color(" word, between? "rgb(" word with
    | '#' :: digits, _, _ => .ok (isSixDigits digits)
    | _, some number, _ => .ok (isColorNumber number)
    | _, _, some parts => if isDigitRow parts then areColorParts parts else .ok false
    | _, _, _ => .ok false

structure Style where
  attributes : List (String × Bool)
  color : Option (List Char)
  ground : Option (List Char)
  link : Option (List Char)

namespace Style

def plain : Style := ⟨[], none, none, none⟩

def setAttribute (s : Style) (name : String) (value : Bool) : Style :=
  { s with attributes := (name, value) :: s.attributes }

def lower (word : List Char) : List Char := Text.smallForm word

/-- Reads the words of a style; no answer if they are none. -/
def read : Style → List (List Char) → Except Fault (Option Style)
  | s, [] => .ok (some s)
  | s, word :: rest =>
    let name := String.ofList (lower word)
    if name = "on" then
      match rest with
      | [] => .ok none
      | ground :: rest => do
        if ← isColor (lower ground) then read { s with ground := some (lower ground) } rest
        else return none
    else if name = "not" then
      match rest with
      | [] => .ok none
      | taken :: rest =>
        match attribute? (String.ofList taken) with
        | some a => read (s.setAttribute a false) rest
        | none => .ok none
    else if name = "link" then
      match rest with
      | [] => .ok none
      | link :: rest => read { s with link := some link } rest
    else match attribute? name with
      | some a => read (s.setAttribute a true) rest
      | none => do
        if ← isColor (lower word) then read { s with color := some (lower word) } rest
        else return none

def words (s : Style) : List String :=
  ((Markup.attributes.filterMap fun a => (s.attributes.lookup a.1).map fun value =>
      if value then a.1 else "not " ++ a.1) ++
    (s.color.map String.ofList).toList) ++
    (match s.ground with | some ground => ["on", String.ofList ground] | none => []) ++
    (match s.link with | some link => ["link", String.ofList link] | none => [])

def text (s : Style) : String := if s.words.isEmpty then "none" else Text.join " " s.words

end Style

def wordsOf (s : List Char) : List (List Char) :=
  (Text.split ' ' (s.map fun c => if Text.isBlank c then ' ' else c)).filter fun w => !w.isEmpty

def normalStyle (s : List Char) : Except Fault String := do
  if Text.strip s = "none".toList then return Style.plain.text
  match ← Style.read .plain (wordsOf s) with
  | some style => return style.text
  | none => return String.ofList (Text.smallForm (Text.strip s))

end ApiTypes.Markup
