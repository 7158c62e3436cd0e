import ApiTypes.Number.Numeral
import ApiTypes.Text.Half
import ApiTypes.Value.Basic

/-!
# Reading JSON documents

A number without fraction and exponent is an integer of up to 4300 digits, any
other a binary64 number; `NaN` and the infinities are read too. A repeated key
keeps its first place and its last value. A byte order mark is refused.
-/

set_option autoImplicit false

namespace ApiTypes.Json

inductive Error where
  | malformed
  | numeralTooLong (digits : Nat)
  deriving DecidableEq, Repr

def isSpace (c : Char) : Bool := c = ' ' || c = '\t' || c = '\n' || c = '\r'

def skipSpace (s : List Char) : List Char := s.dropWhile isSpace

def fourDigits? (a b c d : Char) : Option Nat := do
  let digits ← [a, b, c, d].mapM Text.hexDigit?
  return Text.digitsValue 16 digits

def escapeCode? : Char → Option Nat
  | '"' => some 34
  | '\\' => some 92
  | '/' => some 47
  | 'b' => some 8
  | 'f' => some 12
  | 'n' => some 10
  | 'r' => some 13
  | 't' => some 9
  | _ => none

def codes? : List Char → Option (List Nat × List Char)
  | [] => none
  | '"' :: r => some ([], r)
  | '\\' :: 'u' :: a :: b :: c :: d :: r =>
    match fourDigits? a b c d, codes? r with
    | some n, some (rest, behind) => some (n :: rest, behind)
    | _, _ => none
  | '\\' :: c :: r =>
    match escapeCode? c, codes? r with
    | some n, some (rest, behind) => some (n :: rest, behind)
    | _, _ => none
  | c :: r =>
    if c.toNat < 0x20 then none
    else match codes? r with
      | some (rest, behind) => some (c.toNat :: rest, behind)
      | none => none

/-- The characters of a row of code units; two surrogates that form a pair are one character. -/
def charsOfCodes : List Nat → List Char
  | [] => []
  | [n] => [Text.charOfCode n]
  | n :: m :: r =>
    if Text.isLeadingHalf n && Text.isTrailingHalf m then
      Char.ofNat (0x10000 + (n - 0xD800) * 0x400 + (m - 0xDC00)) :: charsOfCodes r
    else Text.charOfCode n :: charsOfCodes (m :: r)

def readString (s : List Char) : Except Error (String × List Char) :=
  match codes? s with
  | some (codes, rest) => .ok (String.ofList (charsOfCodes codes), rest)
  | none => .error .malformed

def wholePart : List Char → Option (List Char × List Char)
  | '0' :: r => some (['0'], r)
  | s =>
    let ds := s.takeWhile Char.isDigit
    if ds.isEmpty then none else some (ds, s.dropWhile Char.isDigit)

def fractionPart : List Char → Option (List Char × List Char)
  | '.' :: r =>
    let ds := r.takeWhile Char.isDigit
    if ds.isEmpty then none else some (ds, r.dropWhile Char.isDigit)
  | _ => none

def exponentDigits (negative : Bool) (s : List Char) : Option (Int × List Char) :=
  let ds := s.takeWhile Char.isDigit
  if ds.isEmpty then none
  else
    let n : Int := Text.digitsValue 10 (ds.filterMap Text.asciiDigit?)
    some (if negative then -n else n, s.dropWhile Char.isDigit)

def exponentPart : List Char → Option (Int × List Char)
  | c :: r =>
    if c = 'e' || c = 'E' then
      match r with
      | '-' :: r' => exponentDigits true r'
      | '+' :: r' => exponentDigits false r'
      | _ => exponentDigits false r
    else none
  | [] => none

def readNumber (negative : Bool) (s : List Char) : Except Error (Value × List Char) :=
  match wholePart s with
  | none => .error .malformed
  | some (whole, s) =>
    let fraction := fractionPart s
    let (decimals, s) := fraction.getD ([], s)
    let power := exponentPart s
    let (exponent, s) := power.getD (0, s)
    let mantissa := Text.digitsValue 10 ((whole ++ decimals).filterMap Text.asciiDigit?)
    if fraction.isNone && power.isNone then
      if Numeral.maxDigits < whole.length then .error (.numeralTooLong whole.length)
      else .ok (.scalar (.int (if negative then -(mantissa : Int) else mantissa)), s)
    else
      let x := Binary64.ofDecimal mantissa (exponent - decimals.length)
      .ok (.scalar (.float (if negative then x.neg else x)), s)

mutual

/-- Reads one value. The first argument bounds the number of steps. -/
def readValue : Nat → List Char → Except Error (Value × List Char)
  | 0, _ => .error .malformed
  | n + 1, s =>
    match s with
    | '"' :: r => (readString r).map fun (t, rest) => (.text t, rest)
    | '\x7b' :: r =>
      match skipSpace r with
      | '\x7d' :: rest => .ok (.map [], rest)
      | r' => (readEntries n r').map fun (entries, rest) => (.map (Entries.ofPairs entries), rest)
    | '[' :: r =>
      match skipSpace r with
      | ']' :: rest => .ok (.list [], rest)
      | r' => (readItems n r').map fun (items, rest) => (.list items, rest)
    | 'n' :: 'u' :: 'l' :: 'l' :: r => .ok (.null, r)
    | 't' :: 'r' :: 'u' :: 'e' :: r => .ok (.scalar (.bool true), r)
    | 'f' :: 'a' :: 'l' :: 's' :: 'e' :: r => .ok (.scalar (.bool false), r)
    | 'N' :: 'a' :: 'N' :: r => .ok (.scalar (.float .undefined), r)
    | 'I' :: 'n' :: 'f' :: 'i' :: 'n' :: 'i' :: 't' :: 'y' :: r => .ok (.scalar (.float .infinity), r)
    | '-' :: 'I' :: 'n' :: 'f' :: 'i' :: 'n' :: 'i' :: 't' :: 'y' :: r =>
      .ok (.scalar (.float Binary64.infinity.neg), r)
    | '-' :: r => readNumber true r
    | r => readNumber false r

def readItems : Nat → List Char → Except Error (List Value × List Char)
  | 0, _ => .error .malformed
  | n + 1, s => do
    let (item, r) ← readValue n s
    match skipSpace r with
    | ',' :: r' =>
      let (items, rest) ← readItems n (skipSpace r')
      return (item :: items, rest)
    | ']' :: rest => return ([item], rest)
    | _ => throw .malformed

def readEntries : Nat → List Char → Except Error (Entries × List Char)
  | 0, _ => .error .malformed
  | n + 1, s =>
    match s with
    | '"' :: r => do
      let (key, r) ← readString r
      match skipSpace r with
      | ':' :: r =>
        let (value, r) ← readValue n (skipSpace r)
        match skipSpace r with
        | ',' :: r' =>
          let (entries, rest) ← readEntries n (skipSpace r')
          return ((.text key, value) :: entries, rest)
        | '\x7d' :: rest => return ([(.text key, value)], rest)
        | _ => throw .malformed
      | _ => throw .malformed
    | _ => .error .malformed

end

/-- Reads a whole text. Every step consumes a character or precedes one that does, so that twice
the length of the text bounds the number of steps. -/
def read (text : String) : Except Error Value := do
  let s := skipSpace text.toList
  let (value, rest) ← readValue (2 * s.length + 2) s
  if (skipSpace rest).isEmpty then return value else throw .malformed

end ApiTypes.Json
