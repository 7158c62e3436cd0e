import ApiTypes.Number.Decimal
import ApiTypes.Text.Pieces
import ApiTypes.Value.Basic
import ApiTypes.Yaml.Token

/-!
# Types of scalars

A plain scalar gets its type from its form. Integers are decimal, octal behind a
zero, hexadecimal, binary or sexagesimal, with underscores anywhere; a number
with a fraction needs its point, and an exponent its sign.
-/

set_option autoImplicit false

namespace ApiTypes.Yaml

inductive Tag where
  | null | bool | int | float | timestamp | merge | value | str | seq | map
  | other (name : String)
  deriving DecidableEq, Repr

def Tag.common : String := "tag:yaml.org,2002:"

def Tag.ofName (name : String) : Tag :=
  match [("null", Tag.null), ("bool", .bool), ("int", .int), ("float", .float),
      ("timestamp", .timestamp), ("merge", .merge), ("value", .value), ("str", .str),
      ("seq", .seq), ("map", .map)].find? fun p => Tag.common ++ p.1 = name with
  | some p => p.2
  | none => .other name

namespace Form

def inNumber (p : Char → Bool) (c : Char) : Bool := p c || c = '_'

def withoutBreak (s : List Char) : List Char := if s.getLast? = some '\n' then s.dropLast else s

def unsigned : List Char → List Char
  | '-' :: r => r
  | '+' :: r => r
  | r => r

def isBinaryDigit (c : Char) : Bool := c = '0' || c = '1'

def isOctalDigit (c : Char) : Bool := '0' ≤ c && c ≤ '7'

def isHexDigit (c : Char) : Bool := (Text.hexDigit? c).isSome

def isSixty : List Char → Bool
  | [a] => a.isDigit
  | [a, b] => '0' ≤ a && a ≤ '5' && b.isDigit
  | _ => false

def nonEmptyOf (p : Char → Bool) (s : List Char) : Bool := !s.isEmpty && s.all (inNumber p)

def startsWith (first : Char → Bool) : List Char → Bool
  | c :: r => first c && r.all (inNumber Char.isDigit)
  | [] => false

def isPositiveDigit (c : Char) : Bool := '1' ≤ c && c ≤ '9'

def isInt (s : List Char) : Bool :=
  match unsigned s with
  | '0' :: 'b' :: r => nonEmptyOf isBinaryDigit r
  | '0' :: 'x' :: r => nonEmptyOf isHexDigit r
  | ['0'] => true
  | '0' :: r => nonEmptyOf isOctalDigit r
  | r =>
    match Text.split ':' r with
    | [whole] => startsWith isPositiveDigit whole
    | first :: rest => startsWith isPositiveDigit first && rest.all isSixty
    | [] => false

def isExponent : List Char → Bool
  | [] => true
  | e :: sign :: r => (e = 'e' || e = 'E') && (sign = '-' || sign = '+') && !r.isEmpty && r.all Char.isDigit
  | _ => false

def isFractionTail (s : List Char) : Bool := isExponent (s.dropWhile (inNumber Char.isDigit))

def isSixtyFloat (whole fraction : List Char) : Bool :=
  match Text.split ':' whole with
  | first :: part :: rest =>
    startsWith Char.isDigit first && (part :: rest).all isSixty && fraction.all (inNumber Char.isDigit)
  | _ => false

def isInfinity (s : List Char) : Bool :=
  [".inf".toList, ".Inf".toList, ".INF".toList].contains s

def isUndefined (s : List Char) : Bool :=
  [".nan".toList, ".NaN".toList, ".NAN".toList].contains s

def isFloat (s : List Char) : Bool :=
  match s with
  | '.' :: c :: r =>
    (c.isDigit && isFractionTail r) || isInfinity s || isUndefined s
  | _ =>
    let body := unsigned s
    match Text.cut '.' body with
    | (whole, some fraction) =>
      (startsWith Char.isDigit whole && isFractionTail fraction) || isSixtyFloat whole fraction ||
        isInfinity body
    | (_, none) => false

def isBool (s : List Char) : Bool :=
  ["yes", "Yes", "YES", "no", "No", "NO", "true", "True", "TRUE", "false", "False", "FALSE",
    "on", "On", "ON", "off", "Off", "OFF"].contains (String.ofList s)

def isNull (s : List Char) : Bool := ["", "~", "null", "Null", "NULL"].contains (String.ofList s)

end Form

/-- The parts of a time stamp as they are written. -/
structure Stamp where
  year : List Char
  month : List Char
  day : List Char
  time : Option (List Char × List Char × List Char)
  fraction : List Char
  zone : Option (Option (Char × List Char × List Char))

namespace Stamp

def digits? (low high : Nat) (s : List Char) : Option (List Char × List Char) :=
  let ds := (s.take high).takeWhile Char.isDigit
  if ds.length < low then none else some (ds, s.drop ds.length)

def mark? (c : Char) : List Char → Option (List Char)
  | d :: r => if c = d then some r else none
  | [] => none

def separator? : List Char → Option (List Char)
  | 'T' :: r => some r
  | 't' :: r => some r
  | c :: r => if c = ' ' || c = '\t' then some (r.dropWhile fun d => d = ' ' || d = '\t') else none
  | [] => none

/-- A time zone up to the end of the text; the inner part is absent for universal time. -/
def zone? (s : List Char) : Option (Option (Option (Char × List Char × List Char))) :=
  match s.dropWhile fun d => d = ' ' || d = '\t' with
  | [] => if s.isEmpty then some none else none
  | ['Z'] => some (some none)
  | sign :: r =>
    if sign ≠ '-' && sign ≠ '+' then none
    else do
      let (hour, r) ← digits? 1 2 r
      match r with
      | [] => return some (some (sign, hour, []))
      | _ =>
        let (minute, r) ← digits? 2 2 (← mark? ':' r)
        if r.isEmpty then return some (some (sign, hour, minute)) else none

def fractionDigits : List Char → List Char × List Char
  | '.' :: r => (r.takeWhile Char.isDigit, r.dropWhile Char.isDigit)
  | r => ([], r)

def ofChars (s : List Char) : Option Stamp := do
  let (year, r) ← digits? 4 4 s
  let (month, r) ← digits? 1 2 (← mark? '-' r)
  let (day, r) ← digits? 1 2 (← mark? '-' r)
  match r with
  | [] => return ⟨year, month, day, none, [], none⟩
  | _ =>
    let (hour, r) ← digits? 1 2 (← separator? r)
    let (minute, r) ← digits? 2 2 (← mark? ':' r)
    let (second, r) ← digits? 2 2 (← mark? ':' r)
    let (fraction, r) := fractionDigits r
    return ⟨year, month, day, some (hour, minute, second), fraction, ← zone? r⟩

def number (ds : List Char) : Nat := Text.digitsValue 10 (ds.filterMap Text.asciiDigit?)

def micros (ds : List Char) : Nat := number ((ds ++ List.replicate 6 '0').take 6)

def offset : Option (Option (Char × List Char × List Char)) → Except Fault (Option Int)
  | none => .ok none
  | some none => .ok (some 0)
  | some (some (sign, hour, minute)) =>
    let size : Int := number hour * 60 + number minute
    let minutes := if sign = '-' then -size else size
    if size < 1440 then .ok (some minutes) else .error (.zone minutes)

def date (t : Stamp) : Except Fault Date :=
  let d : Date := ⟨number t.year, number t.month, number t.day⟩
  if d.year = 0 then .error (.stampPart (.year d.year))
  else if d.month = 0 || 12 < d.month then .error (.stampPart .month)
  else if d.isValid then .ok d
  else .error (.stampPart .day)

def scalar (t : Stamp) : Except Fault Scalar :=
  match t.time with
  | none => t.date.map .date
  | some (hour, minute, second) => do
    let offset ← offset t.zone
    let date ← t.date
    let m : Moment :=
      ⟨date, number hour, number minute, number second, micros t.fraction, offset⟩
    if 24 ≤ m.hour then throw (.stampPart .hour)
    if 60 ≤ m.minute then throw (.stampPart .minute)
    if 60 ≤ m.second then throw (.stampPart .second)
    return .moment m

def isPlain (t : Stamp) : Bool := t.time.isSome || (t.month.length = 2 && t.day.length = 2)

end Stamp

def Tag.ofPlain (text : String) : Tag :=
  let s := Form.withoutBreak text.toList
  if text = "\n" then .str
  else if Form.isBool s then .bool
  else if Form.isFloat s then .float
  else if Form.isInt s then .int
  else if s = "<<".toList then .merge
  else if Form.isNull s then .null
  else if (Stamp.ofChars s).any Stamp.isPlain then .timestamp
  else if s = "=".toList then .value
  else .str

namespace Meaning

def sign? : List Char → Option (Bool × List Char)
  | [] => none
  | '-' :: r => some (true, r)
  | '+' :: r => some (false, r)
  | r => some (false, r)

def withoutUnderscores (s : List Char) : List Char := s.filter (· ≠ '_')

def inBase (base : Nat) (s : List Char) : Except Fault Int :=
  match Numeral.readIn base (String.ofList s) with
  | .value n => .ok n
  | .malformed => .error (.numeral base (String.ofList s))
  | .tooLong digits => .error (.numeralTooLong digits)

def sixties (parts : List Int) : Int := parts.foldl (fun n p => n * 60 + p) 0

def magnitude (s : List Char) : Except Fault Int :=
  match s with
  | [] => .error .noDigits
  | ['0'] => .ok 0
  | '0' :: 'b' :: r => inBase 2 r
  | '0' :: 'x' :: r => inBase 16 r
  | '0' :: _ => inBase 8 s
  | _ =>
    if s.contains ':' then do return sixties (← (Text.split ':' s).mapM (inBase 10))
    else inBase 10 s

def int (text : String) : Except Fault Int :=
  match sign? (withoutUnderscores text.toList) with
  | none => .error .noDigits
  | some (negative, s) => (magnitude s).map fun n => if negative then -n else n

def decimal (s : List Char) : Except Fault Binary64 :=
  match Decimal.read? s with
  | some x => .ok x
  | none => .error (.decimal (String.ofList s))

def sixtyFloat (sum : Float) (weight : Nat) : List Binary64 → Except Fault Binary64
  | [] => .ok (.ofFloat sum)
  | x :: rest =>
    let factor := Binary64.ofDecimal weight 0
    if factor.isFinite then
      sixtyFloat (sum + x.toFloat * factor.toFloat) (weight * 60) rest
    else .error .placeTooLarge

def floatMagnitude (s : List Char) : Except Fault Binary64 :=
  if s = ".inf".toList then .ok .infinity
  else if s = ".nan".toList then .ok .undefined
  else if s.contains ':' then do
    sixtyFloat 0 1 (← (Text.split ':' s).mapM decimal).reverse
  else decimal s

def float (text : String) : Except Fault Binary64 :=
  match sign? (Text.lower (String.ofList (withoutUnderscores text.toList))).toList with
  | none => .error .noDigits
  | some (negative, s) => (floatMagnitude s).map fun x => if negative then x.neg else x

def bool (text : String) : Except Fault Bool :=
  let s := Text.lower text
  if ["yes", "true", "on"].contains s then .ok true
  else if ["no", "false", "off"].contains s then .ok false
  else .error (.truthWord s)

def timestamp (text : String) : Except Fault Scalar :=
  match Stamp.ofChars (Form.withoutBreak text.toList) with
  | some stamp => stamp.scalar
  | none => .error .noStamp

def scalar (tag : Tag) (text : String) : Except Error Scalar :=
  let known (r : Except Fault Scalar) : Except Error Scalar := r.mapError .fault
  match tag with
  | .null => .ok .null
  | .bool => known ((bool text).map .bool)
  | .int => known ((int text).map .int)
  | .float => known ((float text).map .float)
  | .timestamp => known (timestamp text)
  | .str => .ok (.text text)
  | _ => .error .malformed

end Meaning

end ApiTypes.Yaml
