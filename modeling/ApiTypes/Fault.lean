import ApiTypes.Text.Quoted
import ApiTypes.Text.Pieces
import ApiTypes.Value.Basic

/-!
# Faults of malformed documents

The places where a document holds a value of a kind that cannot serve there, or
a scalar whose text denotes no value of its type, each with the message that
reports it.
-/

set_option autoImplicit false

namespace ApiTypes

/-- The parts of a date and of a time of day, from the longest to the shortest. -/
inductive StampPart where
  | year (n : Nat)
  | month | day | hour | minute | second
  deriving DecidableEq, Repr

inductive Fault where
  /-- The value has no operation of that name. -/
  | noOperation (kind : Kind) (name : String)
  /-- The value cannot be gone through. -/
  | notIterable (kind : Kind)
  /-- The value cannot be asked whether it holds another. -/
  | notContainer (kind : Kind)
  /-- The value cannot be a key. -/
  | unhashable (kind : Kind)
  /-- A text or a list is asked for the entry under a name. -/
  | textIndex
  | listIndex
  /-- Something other than a sequence of texts is to be joined. -/
  | joinsNothing
  | joinsItem (index : Nat) (kind : Kind)
  /-- An item that is to become an entry of a mapping is no pair. -/
  | pairLength (index length : Nat)
  | pairKind (index : Nat)
  /-- A text is no numeral of the base. -/
  | numeral (base : Nat) (text : String)
  | numeralTooLong (digits : Nat)
  /-- A text is no number with a fraction. -/
  | decimal (text : String)
  /-- A sexagesimal place weighs more than a floating point number can. -/
  | placeTooLarge
  /-- The text of a scalar ends in front of its first digit. -/
  | noDigits
  /-- A text is none of the words for true and false. -/
  | truthWord (text : String)
  /-- A part of a date or a time is out of its range. -/
  | stampPart (part : StampPart)
  /-- A time zone is a day or more from universal time. -/
  | zone (minutes : Int)
  /-- What is to be a date has not the form of one, or is no text. -/
  | noStamp
  | stampOfMap
  /-- An escape names no code point, or a number beyond all of them. -/
  | codePoint
  | codeNumber
  /-- An integer has more digits than are written. -/
  | integerTooLong
  /-- A collection that holds itself would be gone through without end. -/
  | endless
  /-- The name of a setting is no text, or one that is taken. -/
  | settingName
  | settingTaken (name : String)
  /-- A value cannot be the path of a file. -/
  | notPath (kind : Kind)
  /-- A path holds an empty character. -/
  | emptyCharacter
  /-- A text holds halves of surrogate pairs, from a place on. -/
  | halves (place count : Nat) (first : Nat)
  /-- No encoding has the name, or only one that is not of texts. -/
  | unknownEncoding (name : String)
  | notTextEncoding (name : String)
  /-- The name of an encoding is no text. -/
  | encodingKind (kind : Kind)
  /-- A failure of a hook, in its own words. -/
  | hook (message : String)
  deriving DecidableEq, Repr

/-- The families of faults: missing operations, wrong kinds, wrong values, unknown words, places
behind an end, numbers beyond a range, endless ways, texts without an encoded form, and unknown
names. -/
inductive Fault.Family where
  | operation | kind | value | word | place | range | depth | encoding | name
  deriving DecidableEq, Repr

namespace Fault

def family : Fault → Family
  | .noOperation _ _ => .operation
  | .pairLength _ _ => .value
  | .numeral _ _ => .value
  | .numeralTooLong _ => .value
  | .decimal _ => .value
  | .placeTooLarge => .range
  | .noDigits => .place
  | .truthWord _ => .word
  | .stampPart _ => .value
  | .zone _ => .value
  | .noStamp => .operation
  | .codePoint => .value
  | .codeNumber => .range
  | .integerTooLong => .value
  | .endless => .depth
  | .emptyCharacter => .value
  | .halves _ _ _ => .encoding
  | .unknownEncoding _ => .name
  | .notTextEncoding _ => .name
  | .hook _ => .value
  | _ => .kind

def apostrophes (s : String) : String := "'" ++ s ++ "'"

def partMessage : StampPart → String
  | .year n => "year " ++ toString n ++ " is out of range"
  | .month => "month must be in 1..12"
  | .day => "day is out of range for month"
  | .hour => "hour must be in 0..23"
  | .minute => "minute must be in 0..59"
  | .second => "second must be in 0..59"

def distance (minutes : Int) : String :=
  let days := minutes.fdiv 1440
  let seconds := (minutes - days * 1440) * 60
  "datetime.timedelta(days=" ++ toString days ++
    (if seconds = 0 then "" else ", seconds=" ++ toString seconds) ++ ")"

def shownNumeral : Nat := 200

def message : Fault → String
  | .noOperation kind name => apostrophes kind.word ++ " object has no attribute " ++ apostrophes name
  | .notIterable kind => apostrophes kind.word ++ " object is not iterable"
  | .notContainer kind => "argument of type " ++ apostrophes kind.word ++ " is not iterable"
  | .unhashable kind => "unhashable type: " ++ apostrophes kind.word
  | .textIndex => "string indices must be integers, not 'str'"
  | .listIndex => "list indices must be integers or slices, not str"
  | .joinsNothing => "can only join an iterable"
  | .joinsItem index kind =>
    "sequence item " ++ toString index ++ ": expected str instance, " ++ kind.word ++ " found"
  | .pairLength index length =>
    "dictionary update sequence element #" ++ toString index ++ " has length " ++ toString length ++
      "; 2 is required"
  | .pairKind index =>
    "cannot convert dictionary update sequence element #" ++ toString index ++ " to a sequence"
  | .numeral base text =>
    "invalid literal for int() with base " ++ toString base ++ ": " ++
      String.ofList ((Text.quoted text).toList.take shownNumeral)
  | .numeralTooLong digits =>
    "Exceeds the limit (4300 digits) for integer string conversion: value has " ++ toString digits ++
      " digits; use sys.set_int_max_str_digits() to increase the limit"
  | .decimal text => "could not convert string to float: " ++ Text.quoted text
  | .placeTooLarge => "int too large to convert to float"
  | .noDigits => "string index out of range"
  | .truthWord text => Text.quoted text
  | .stampPart part => partMessage part
  | .zone minutes =>
    "offset must be a timedelta strictly between -timedelta(hours=24) and timedelta(hours=24), not " ++
      distance minutes ++ "."
  | .noStamp => "'NoneType' object has no attribute 'groupdict'"
  | .stampOfMap => "expected string or bytes-like object, got 'list'"
  | .codePoint => "chr() arg not in range(0x110000)"
  | .codeNumber => "Python int too large to convert to C int"
  | .integerTooLong =>
    "Exceeds the limit (4300 digits) for integer string conversion; use " ++
      "sys.set_int_max_str_digits() to increase the limit"
  | .endless => "maximum recursion depth exceeded"
  | .settingName => "keywords must be strings"
  | .settingTaken name =>
    "BaseSettings.__init__() got multiple values for argument " ++ apostrophes name
  | .notPath kind => "expected str, bytes or os.PathLike object, not " ++ kind.word
  | .emptyCharacter => "embedded null byte"
  | .halves place count first =>
    "'utf-8' codec can't encode " ++
      (if count = 1 then
        "character '\\u" ++ String.ofList (Text.Quoted.hexDigits 4 first) ++ "' in position " ++
          toString place
      else "characters in position " ++ toString place ++ "-" ++ toString (place + count - 1)) ++
      ": surrogates not allowed"
  | .unknownEncoding name => "unknown encoding: " ++ name
  | .notTextEncoding name =>
    apostrophes name ++ " is not a text encoding; use codecs.open() to handle arbitrary codecs"
  | .encodingKind kind => "open() argument 'encoding' must be str or None, not " ++ kind.word
  | .hook message => message

def ofText? (s : String) : Option Fault :=
  (Text.firstHalves? (fun _ => true) 0 s.toList).map fun (place, count, first) =>
    .halves place count first

def ofPath? (s : String) : Option Fault :=
  match Text.firstHalves? (fun n => !Text.isByteHalf n) 0 s.toList with
  | some (place, count, first) => some (.halves place count first)
  | none => if s.toList.contains '\x00' then some .emptyCharacter else none

end Fault

namespace Value

def elements (v : Value) : Except Fault (List Value) :=
  match v.elements?, v with
  | some items, _ => .ok items
  | none, .again _ _ _ => .error .endless
  | none, v => .error (.notIterable v.kind)

def asKey : Value → Except Fault Scalar
  | .scalar s => .ok s
  | v => .error (.unhashable v.kind)

def entriesFor (operation : String) (v : Value) : Except Fault Entries :=
  match v.opened with
  | .map entries => .ok entries
  | .again true _ _ => .error .endless
  | v => .error (.noOperation v.kind operation)

end Value

end ApiTypes
