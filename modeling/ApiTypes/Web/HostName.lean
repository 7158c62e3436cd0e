import ApiTypes.Text.Composed
import ApiTypes.Text.Direction
import ApiTypes.Text.Joining
import ApiTypes.Text.Pieces
import ApiTypes.Text.Punycode
import ApiTypes.Text.Script
import ApiTypes.Web.HostLetter

/-!
# Names of hosts in all scripts

The name of a host is a row of labels. The network knows only ASCII, so a label
with other characters is spelled in it behind `xn--`. The rules of labels say
which characters they have, where some of them may stand, and that a label in a
script from right to left is so throughout.
-/

set_option autoImplicit false

namespace ApiTypes.HostName

/-- Why a label is none: its form, a character that labels never have, one that may not stand where
it does, or its direction. -/
inductive LabelFault where
  | form | letter | place | direction
  deriving DecidableEq, Repr

def longestLabel : Nat := 63

def nonJoiner : Char := '\u200c'
def joiner : Char := '\u200d'
def middleDot : Char := '\u00b7'
def greekNumeralSign : Char := '\u0375'
def hebrewSigns : List Char := ['\u05f3', '\u05f4']
def japaneseDot : Char := '\u30fb'
def isArabicDigit (c : Char) : Bool := 0x660 ≤ c.toNat && c.toNat ≤ 0x669
def isEasternDigit (c : Char) : Bool := 0x6f0 ≤ c.toNat && c.toNat ≤ 0x6f9

def isBehindJoiningSign (before : List Char) : Bool :=
  match before with
  | c :: _ => Text.markOrder c = Text.joiningOrder
  | [] => false

def nearestIs (kind : Char → Bool) (s : List Char) : Bool :=
  match s.dropWhile Text.isPassedInJoins with
  | c :: _ => kind c
  | [] => false

/-- May a character that is no letter stand between the text before it, nearest first, and the
text behind it? -/
def mayStand (before : List Char) (c : Char) (behind : List Char) : Bool :=
  if c = nonJoiner then
    isBehindJoiningSign before ||
      (nearestIs Text.joinsForward before && nearestIs Text.joinsBackward behind)
  else if c = joiner then isBehindJoiningSign before
  else if c = middleDot then before.head? = some 'l' && behind.head? = some 'l'
  else if c = greekNumeralSign then
    match behind with
    | d :: _ => Text.greekRanges.contains d
    | [] => false
  else if hebrewSigns.contains c then
    match before with
    | d :: _ => Text.hebrewRanges.contains d
    | [] => false
  else if c = japaneseDot then (before ++ behind).any Text.japaneseRanges.contains
  else if isArabicDigit c then !(before ++ behind).any isEasternDigit
  else if isEasternDigit c then !(before ++ behind).any isArabicDigit
  else false

def hasPlaces (c : Char) : Bool :=
  [nonJoiner, joiner, middleDot, greekNumeralSign, japaneseDot].contains c ||
    hebrewSigns.contains c || isArabicDigit c || isEasternDigit c

def characterFault? : List Char → List Char → Option LabelFault
  | _, [] => none
  | before, c :: r =>
    if isLetter c || mayStand before c r then characterFault? (c :: before) r
    else some (if hasPlaces c then .place else .letter)

/-- A label with letters from right to left begins and ends with one or with a number, has no
letters from left to right, and no two kinds of numbers. -/
def hasOneDirection (label : List Char) : Bool :=
  let directions := label.map Text.direction
  let last := (directions.reverse.dropWhile (· = .mark)).head?
  !(directions.any fun d => d = .rightToLeft || d = .arabic || d = .arabicNumber) ||
    ([some .rightToLeft, some .arabic].contains directions.head? &&
      !directions.contains .leftToRight &&
      !(directions.contains .number && directions.contains .arabicNumber) &&
      [some .rightToLeft, some .arabic, some .number, some .arabicNumber].contains last)

def hasSoundHyphens (label : List Char) : Bool :=
  (label.drop 2).take 2 ≠ ['-', '-'] && label.head? ≠ some '-' && label.getLast? ≠ some '-'

def beginsWithLetter : List Char → Bool
  | c :: _ => !Text.isMark c
  | [] => false

def fault? (label : List Char) : Option LabelFault :=
  if !(Text.isComposed label && hasSoundHyphens label && beginsWithLetter label) then some .form
  else (characterFault? [] label).or (if hasOneDirection label then none else some .direction)

def checked (label : List Char) : Except LabelFault (List Char) :=
  match fault? label with
  | none => .ok label
  | some fault => .error fault

def spellingMark : List Char := "xn--".toList

def labelOf (s : List Char) : Except LabelFault (List Char) :=
  let s := s.map Char.toLower
  match Text.dropFront? spellingMark s with
  | none => checked s
  | some spelling =>
    if spelling.getLast? = some '-' then .error .form
    else match Punycode.decode? spelling with
      | some label => checked label
      | none => .error .form

def spellingOf (label : List Char) : Except LabelFault (List Char) := do
  let spelling ←
    if label.all Punycode.isBasic then (labelOf label).map fun _ => label
    else (checked label).map fun label => spellingMark ++ Punycode.encode label
  if longestLabel < spelling.length then throw .form
  return spelling

def isDot (c : Char) : Bool := c = '.' || c = '\u3002' || c = '\uff0e' || c = '\uff61'

def longest : Nat := 253

def changeLabels (change : List Char → Except LabelFault (List Char)) (name : List Char) :
    Except LabelFault (List Char) := do
  let labels := Text.split '.' (name.map fun c => if isDot c then '.' else c)
  let isEnded := labels.getLast? = some []
  if longest + 1 < name.length then throw .form
  let changed ← (if isEnded then labels.dropLast else labels).mapM change
  return (Text.join "." (changed.map String.ofList)).toList ++ (if isEnded then ['.'] else [])

def spell (name : List Char) : Except LabelFault (List Char) := do
  let spelled ← changeLabels spellingOf name
  if longest + 1 < spelled.length then throw .form
  if spelled.length = longest + 1 && spelled.getLast? ≠ some '.' then throw .form
  return spelled

def read (spelled : List Char) : Except LabelFault (List Char) := changeLabels labelOf spelled

end ApiTypes.HostName
