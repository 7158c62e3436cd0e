import ApiTypes.Text.Half
import ApiTypes.Text.Lenient
import ApiTypes.Text.Punycode

/-!
# Texts with escapes

Bytes are the characters of their numbers, and a backslash begins an escape. In
the short form only the numbers of code points are escaped. One replacement
character stands for an escape that cannot be read.
-/

set_option autoImplicit false

namespace ApiTypes.Encoding

def letterEscapes : List (Char × Char) :=
  [('\\', '\\'), ('\'', '\''), ('"', '"'), ('a', '\x07'), ('b', '\x08'), ('f', '\x0c'), ('n', '\n'),
    ('r', '\r'), ('t', '\t'), ('v', '\x0b')]

def numberSize? (isShort : Bool) (c : Char) : Option Nat :=
  if c = 'u' then some 4
  else if c = 'U' then some 8
  else if c = 'x' && !isShort then some 2
  else none

def isOctal (c : Char) : Bool := '0' ≤ c && c ≤ '7'

def isHex (c : Char) : Bool := c.isDigit || ('a' ≤ c && c ≤ 'f') || ('A' ≤ c && c ≤ 'F')

def digitValue (c : Char) : Nat :=
  if c.isDigit then c.toNat - 0x30 else c.toLower.toNat - 0x61 + 10

def numeral (base : Nat) (digits : List Char) : Nat :=
  digits.foldl (fun n c => n * base + digitValue c) 0

def charOfNumber (n : Nat) : Char := if n ≤ 0x10FFFF then Text.charOfCode n else Text.replacement

def escapeMeaning (isShort : Bool) (s : List Char) : List Char × Nat :=
  match s with
  | [] => ([Text.replacement], 0)
  | c :: r =>
    match numberSize? isShort c with
    | some size =>
      let digits := (r.take size).takeWhile isHex
      (if digits.length = size then [charOfNumber (numeral 16 digits)] else [Text.replacement],
        digits.length + 1)
    | none =>
      if isShort then (['\\', c], 1)
      else if c = '\n' then ([], 1)
      else if isOctal c then
        let digits := (s.take 3).takeWhile isOctal
        ([charOfNumber (numeral 8 digits)], digits.length)
      else match letterEscapes.lookup c with
        | some d => ([d], 1)
        | none => (['\\', c], 1)

/-- The text with its escapes resolved. A backslash at the end of the short form stands for itself. -/
def resolveEscapes (isShort : Bool) : List Char → List Char
  | [] => []
  | c :: r =>
    if c = '\\' && !(isShort && r.isEmpty) then
      let (s, size) := escapeMeaning isShort r
      s ++ resolveEscapes isShort (r.drop size)
    else c :: resolveEscapes isShort r
termination_by s => s.length
decreasing_by
  all_goals
    simp only [List.length_cons, List.length_drop]
    omega

/-- Puts the characters of numerals in their places as far as the numerals can be read. The place is
the one behind the last character put in. A question mark stands for a code point that is too
large. -/
def insertSpelled (text : List Char) (place code bias : Nat) (isFirst : Bool) (s : List Char) :
    List Char :=
  if s.isEmpty then text
  else match _h : Punycode.readDistance? bias 0 1 0 s with
    | none => text
    | some (distance, r) =>
      let room := text.length + 1
      let next := code + (place + distance) / room
      let code := if 0x10FFFF < next then '?'.toNat else next
      let place := (place + distance) % room
      insertSpelled (text.take place ++ Text.charOfCode code :: text.drop place) (place + 1) code
        (Punycode.adapt distance isFirst room) false r
termination_by s.length
decreasing_by exact Punycode.readDistance?_length _h

/-- The text that bytes spell with the characters beyond ASCII behind a hyphen, unless there is a
byte beyond ASCII among those. -/
def decodeSpelled? (bytes : List UInt8) : Option (List Char) :=
  let isHyphen (b : UInt8) : Bool := b.toNat = '-'.toNat
  let numerals := (bytes.reverse.takeWhile (!isHyphen ·)).reverse
  let basic := bytes.take (bytes.length - numerals.length - 1)
  if numerals.any (0x80 ≤ ·.toNat) then none
  else
    let text := basic.map fun b => if b.toNat < 0x80 then Char.ofNat b.toNat else Text.replacement
    some (insertSpelled text 0 0x80 72 true (numerals.map fun b => Char.ofNat b.toNat))

end ApiTypes.Encoding
