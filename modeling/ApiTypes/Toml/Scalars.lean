import ApiTypes.Number.Numeral
import ApiTypes.Text.Pieces
import ApiTypes.Value.Basic

/-!
# Scalars of table documents

Texts in four kinds of quotes, numbers, dates and times. Every reader takes its
scalar from the front of a text and answers with it and the rest. A decimal
integer of more than 4300 digits is a fault of its own.
-/

set_option autoImplicit false

namespace ApiTypes.Toml

inductive Error where
  | malformed
  | numeralTooLong (digits : Nat)
  deriving DecidableEq, Repr

def needed {α : Type} : Option α → Except Error α
  | some a => .ok a
  | none => .error .malformed

def isSpace (c : Char) : Bool := c = ' ' || c = '\t'

def skipSpaces (s : List Char) : List Char := s.dropWhile isSpace

def isControl (c : Char) : Bool := (c.toNat < 0x20 && c ≠ '\t') || c.toNat = 0x7F

def startsWith (mark : String) (s : List Char) : Bool := mark.toList.isPrefixOf s

namespace Quote

def escaped? : Char → Option Char
  | 'b' => some '\x08'
  | 't' => some '\t'
  | 'n' => some '\n'
  | 'f' => some '\x0c'
  | 'r' => some '\r'
  | '"' => some '"'
  | '\\' => some '\\'
  | _ => none

def hexChar (width : Nat) (s : List Char) : Option (Char × List Char) := do
  let digits := (s.take width).filterMap Text.hexDigit?
  let n := Text.digitsValue 16 digits
  if digits.length ≠ width || 0x110000 ≤ n || (0xD800 ≤ n && n < 0xE000) then none
  else some (Char.ofNat n, s.drop width)

def joinLines (s : List Char) : Option (List Char) :=
  match skipSpaces s with
  | '\n' :: r => some (r.dropWhile fun c => isSpace c || c = '\n')
  | [] => some []
  | _ => none

def escape (multiline : Bool) : List Char → Option (List Char × List Char)
  | 'u' :: r => (hexChar 4 r).map fun (c, r) => ([c], r)
  | 'U' :: r => (hexChar 8 r).map fun (c, r) => ([c], r)
  | c :: r =>
    if multiline && (isSpace c || c = '\n') then (joinLines (c :: r)).map fun r => ([], r)
    else (escaped? c).map fun d => ([d], r)
  | [] => none

/-- A text with escapes, up to its closing quotes. The first argument bounds the steps. -/
def basic (multiline : Bool) : Nat → List Char → Option (List Char × List Char)
  | 0, _ => none
  | _, [] => none
  | n + 1, c :: r =>
    if c = '"' && !multiline then some ([], r)
    else if startsWith "\"\"\"" (c :: r) && multiline then some ([], r.drop 2)
    else if c = '\\' then do
      let (piece, r) ← escape multiline r
      let (text, r) ← basic multiline n r
      return (piece ++ text, r)
    else if isControl c && !(multiline && c = '\n') then none
    else do
      let (text, r) ← basic multiline n r
      return (c :: text, r)

def literal (multiline : Bool) : List Char → Option (List Char × List Char)
  | [] => none
  | c :: r =>
    if c = '\'' && !multiline then some ([], r)
    else if startsWith "\x27\x27\x27" (c :: r) && multiline then some ([], r.drop 2)
    else if isControl c && !(multiline && c = '\n') then none
    else (literal multiline r).map fun (text, r) => (c :: text, r)

def extraQuotes (quote : Char) (text s : List Char) : List Char × List Char :=
  let extra := (s.take 2).takeWhile (· = quote)
  (text ++ extra, s.drop extra.length)

def dropBreak : List Char → List Char
  | '\n' :: r => r
  | r => r

def line : List Char → Option (String × List Char)
  | '"' :: r => (basic false (r.length + 1) r).map fun (t, r) => (String.ofList t, r)
  | '\'' :: r => (literal false r).map fun (t, r) => (String.ofList t, r)
  | _ => none

def read (s : List Char) : Option (String × List Char) :=
  match s with
  | '"' :: '"' :: '"' :: r => do
    let (t, r) ← basic true (r.length + 1) (dropBreak r)
    let (t, r) := extraQuotes '"' t r
    return (String.ofList t, r)
  | '\'' :: '\'' :: '\'' :: r => do
    let (t, r) ← literal true (dropBreak r)
    let (t, r) := extraQuotes '\'' t r
    return (String.ofList t, r)
  | _ => line s

end Quote

namespace Stamp

def digits (count : Nat) (s : List Char) : Option (Nat × List Char) :=
  let ds := (s.take count).filterMap Text.asciiDigit?
  if ds.length = count then some (Text.digitsValue 10 ds, s.drop count) else none

def mark (c : Char) : List Char → Option (List Char)
  | d :: r => if c = d then some r else none
  | [] => none

def date (s : List Char) : Option (Date × List Char) := do
  let (year, r) ← digits 4 s
  let (month, r) ← digits 2 (← mark '-' r)
  let (day, r) ← digits 2 (← mark '-' r)
  if 1 ≤ month && month ≤ 12 && 1 ≤ day && day ≤ 31 then some (⟨year, month, day⟩, r) else none

/-- The fraction of a second in millionths; more than six digits are cut off. -/
def micros (s : List Char) : Nat × List Char :=
  match s with
  | '.' :: r =>
    let ds := (r.takeWhile Char.isDigit).filterMap Text.asciiDigit?
    if ds.isEmpty then (0, s)
    else (Text.digitsValue 10 ((ds ++ List.replicate 6 0).take 6), r.dropWhile Char.isDigit)
  | _ => (0, s)

def time (day : Date) (s : List Char) : Option (Moment × List Char) := do
  let (hour, r) ← digits 2 s
  let (minute, r) ← digits 2 (← mark ':' r)
  let (second, r) ← digits 2 (← mark ':' r)
  let (fraction, r) := micros r
  let m : Moment := ⟨day, hour, minute, second, fraction, none⟩
  if hour < 24 && minute < 60 && second < 60 then some (m, r) else none

def zone (s : List Char) : Option Int × List Char :=
  match s with
  | 'Z' :: r => (some 0, r)
  | 'z' :: r => (some 0, r)
  | sign :: r =>
    let numeric : Option (Int × List Char) := do
      let (hour, r) ← digits 2 r
      let (minute, r) ← digits 2 (← mark ':' r)
      let minutes : Int := hour * 60 + minute
      if (sign = '+' || sign = '-') && hour < 24 && minute < 60 then
        some (if sign = '-' then -minutes else minutes, r)
      else none
    match numeric with
    | some (minutes, r) => (some minutes, r)
    | none => (none, s)
  | [] => (none, [])

def timeOf (day : Date) (s : List Char) : Option (Moment × List Char) :=
  match s with
  | c :: r =>
    if c = 'T' || c = 't' || c = ' ' then do
      let (m, r) ← time day r
      let (offset, r) := zone r
      return ({ m with offset := offset }, r)
    else none
  | [] => none

def anyDay : Date := ⟨1900, 1, 1⟩

/-- A date, a moment or a time. The outer answer says whether one is written here at all. -/
def read (s : List Char) : Option (Option (Scalar × List Char)) :=
  match date s with
  | some (day, r) =>
    match timeOf day r with
    | some (m, r) => some (if day.isValid then some (.moment m, r) else none)
    | none => some (if day.isValid then some (.date day, r) else none)
  | none => (time anyDay s).map fun (m, r) => some (.moment m, r)

end Stamp

namespace Number

def digits (p : Char → Bool) : List Char → List Char × List Char
  | c :: '_' :: d :: r =>
    if !p c then ([], c :: '_' :: d :: r)
    else if !p d then ([c], '_' :: d :: r)
    else let (ds, rest) := digits p (d :: r); (c :: ds, rest)
  | c :: r =>
    if p c then let (ds, rest) := digits p r; (c :: ds, rest) else ([], c :: r)
  | [] => ([], [])

def inBase (base : Nat) (s : List Char) : Option (Except Error Scalar × List Char) :=
  let p (c : Char) : Bool := match Text.hexDigit? c with | some d => d < base | none => false
  let (ds, r) := digits p s
  if ds.isEmpty then none
  else some (.ok (.int (Text.digitsValue base (ds.filterMap Text.hexDigit?))), r)

def decimalDigits (s : List Char) : List Char × List Char := digits Char.isDigit s

def whole : List Char → Option (List Char × List Char)
  | '0' :: r => some (['0'], r)
  | s => let (ds, r) := decimalDigits s; if ds.isEmpty then none else some (ds, r)

def fraction : List Char → Option (List Char × List Char)
  | '.' :: r => let (ds, r) := decimalDigits r; if ds.isEmpty then none else some (ds, r)
  | _ => none

def value (ds : List Char) : Nat := Text.digitsValue 10 (ds.filterMap Text.asciiDigit?)

def exponent : List Char → Option (Int × List Char)
  | e :: r =>
    if e = 'e' || e = 'E' then
      let (negative, r) := match r with
        | '-' :: r => (true, r)
        | '+' :: r => (false, r)
        | r => (false, r)
      let (ds, r) := decimalDigits r
      if ds.isEmpty then none
      else some (if negative then -(value ds : Int) else value ds, r)
    else none
  | [] => none

def unsigned (negative : Bool) (s : List Char) : Option (Except Error Scalar × List Char) := do
  let (ds, r) ← whole s
  let decimals := fraction r
  let r := (decimals.map (·.2)).getD r
  let power := exponent r
  let r := (power.map (·.2)).getD r
  if decimals.isNone && power.isNone then
    if Numeral.maxDigits < ds.length then return (.error (.numeralTooLong ds.length), r)
    else return (.ok (.int (if negative then -(value ds : Int) else value ds)), r)
  else
    let tail := (decimals.map (·.1)).getD []
    let x := Binary64.ofDecimal (value (ds ++ tail)) ((power.map (·.1)).getD 0 - tail.length)
    return (.ok (.float (if negative then x.neg else x)), r)

def special (negative : Bool) (s : List Char) : Option (Except Error Scalar × List Char) :=
  if startsWith "inf" s then
    some (.ok (.float (if negative then Binary64.infinity.neg else .infinity)), s.drop 3)
  else if startsWith "nan" s then some (.ok (.float .undefined), s.drop 3)
  else none

/-- Reads a number. The outer answer says whether one is written here at all. -/
def read (s : List Char) : Option (Except Error Scalar × List Char) :=
  let signed (negative : Bool) (r : List Char) : Option (Except Error Scalar × List Char) :=
    (unsigned negative r).orElse fun _ => special negative r
  match s with
  | '0' :: 'x' :: r => (inBase 16 r).orElse fun _ => unsigned false s
  | '0' :: 'b' :: r => (inBase 2 r).orElse fun _ => unsigned false s
  | '0' :: 'o' :: r => (inBase 8 r).orElse fun _ => unsigned false s
  | '-' :: r => signed true r
  | '+' :: r => signed false r
  | _ => signed false s

end Number

def readScalar (s : List Char) : Except Error (Scalar × List Char) :=
  if startsWith "true" s then .ok (.bool true, s.drop 4)
  else if startsWith "false" s then .ok (.bool false, s.drop 5)
  else match Stamp.read s with
    | some answer => needed answer
    | none =>
      match Number.read s with
      | some (number, r) => number.map fun n => (n, r)
      | none => .error .malformed

end ApiTypes.Toml
