import ApiTypes.Encoding.Set.Jis0208
import ApiTypes.Encoding.Set.Jis0212
import ApiTypes.Encoding.Set.Jis0213
import ApiTypes.Encoding.Set.Vendor

/-!
# Japanese encodings

The Japanese sets are spelled in two ways: with one byte above ASCII for the row
and one for the cell, or with bytes that leave room for the narrow kana, where a
leading byte stands for two rows. The extended sets came in two editions.
-/

set_option autoImplicit false

namespace ApiTypes.Encoding

inductive Edition where
  | first | second
  deriving DecidableEq, Repr

def lateCells : List (Nat × Nat) :=
  [(14, 1), (15, 94), (47, 52), (47, 94), (84, 7), (94, 90), (94, 91), (94, 92), (94, 93), (94, 94)]

def isLate (edition : Edition) (row cell : Nat) : Bool :=
  edition = .first && lateCells.contains (row, cell)

def firstPlane? (edition : Edition) (row cell : Nat) : Option (List Char) :=
  if isLate edition row cell then none
  else (((jis0208.at? row cell).or (jis0213.at? row cell)).map ([·])).or
    (CharacterSet.pairAt? jis0213Pairs row cell)

/-- What two bytes for a cell of the first plane spell. A cell that is left out takes both bytes. -/
def firstPlaneFront (edition : Edition) (row cell : Nat) : Front :=
  if isLate edition row cell then .wrong 2 else .ofChars? 2 (firstPlane? edition row cell)

/-- The character in a cell of the second plane. The editions differ in one. -/
def secondPlane? (edition : Edition) (row cell : Nat) : Option Char :=
  if edition = .first && row = 93 && cell = 27 then some '鬝' else jis0213Second.at? row cell

def kanaShift : Nat := 0xFEC0

def narrowKana? (b : Nat) : Option Char :=
  if 0xA1 ≤ b && b ≤ 0xDF then some (Char.ofNat (kanaShift + b)) else none

def romanChar (b : Nat) : Char :=
  if b = 0x5C then '¥' else if b = 0x7E then '‾' else Char.ofNat b

def shifted? (a b : Nat) : Option (Nat × Nat) :=
  let leads := (0x81 ≤ a && a ≤ 0x9F) || (0xE0 ≤ a && a ≤ 0xFC)
  if leads && 0x40 ≤ b && b ≤ 0xFC && b ≠ 0x7F then
    let row := 2 * (a - if a < 0xE0 then 0x81 else 0xC1)
    let cell := b - if b < 0x7F then 0x40 else 0x41
    some (row + cell / 94 + 1, cell % 94 + 1)
  else none

def shiftedFront (cell : Nat → Nat → Front) (b : Nat) (r : List UInt8) : Front :=
  match r with
  | [] => .cut
  | c :: _ =>
    match shifted? b c.toNat with
    | some (row, place) => cell row place
    | none => .wrong 1

namespace Japanese

def shifted (b : UInt8) (r : List UInt8) : Front :=
  let n := b.toNat
  if n < 0x80 then .chars [Char.ofNat n] 1
  else match narrowKana? n with
    | some c => .chars [c] 1
    | none => shiftedFront (fun row cell => .ofChar? 2 (jis0208.at? row cell)) n r

def rowsBehind : List Nat := [1, 8, 3, 4, 5, 12, 13, 14, 15] ++ List.range' 78 17

/-- What two bytes for a cell in rows of both planes spell. The backslash has no byte of its own. -/
def planesFront (edition : Edition) (row cell : Nat) : Front :=
  if row = 1 && cell = 32 then .chars ['\\'] 2
  else if row ≤ 94 then firstPlaneFront edition row cell
  else .ofChar? 2 (rowsBehind[row - 95]?.bind fun row => secondPlane? edition row cell)

def shiftedExtended (edition : Edition) (b : UInt8) (r : List UInt8) : Front :=
  let n := b.toNat
  if n < 0x80 then .chars [romanChar n] 1
  else match narrowKana? n with
    | some c => .chars [c] 1
    | none => shiftedFront (planesFront edition) n r

def privateRow (row : Nat) : Bool := 95 ≤ row && row ≤ 114

def vendorAt? (row cell : Nat) : Option Char :=
  if privateRow row then some (Char.ofNat (0xE000 + (row - 95) * 94 + (cell - 1)))
  else (vendorJapanese.at? row cell).or (jis0208.at? row cell)

def shiftedVendor (b : UInt8) (r : List UInt8) : Front :=
  let n := b.toNat
  if n ≤ 0x80 then .chars [Char.ofNat n] 1
  else if n = 0xA0 then .chars [Char.ofNat 0xF8F0] 1
  else if 0xFD ≤ n then .chars [Char.ofNat (0xF8F1 + (n - 0xFD))] 1
  else match narrowKana? n with
    | some c => .chars [c] 1
    | none => shiftedFront (fun row cell => .ofChar? 2 (vendorAt? row cell)) n r

/-- What stands in front of bytes where a byte 0x8E leads narrow kana, a byte 0x8F the characters
of a further set, and other bytes above ASCII those of the main one. -/
def above (main : Nat → Nat → Front) (further : Nat → Nat → Option Char)
    (b : UInt8) (r : List UInt8) : Front :=
  let n := b.toNat
  if n < 0x80 then .chars [Char.ofNat n] 1
  else match r with
    | [] => .cut
    | c :: r' =>
      if n = 0x8E then .ofChar? 2 (narrowKana? c.toNat)
      else if n = 0x8F then
        match r' with
        | [] => .cut
        | d :: _ => .ofChar? 3 (further (c.toNat - 0xA0) (d.toNat - 0xA0))
      else main (n - 0xA0) (c.toNat - 0xA0)

def plain : UInt8 → List UInt8 → Front :=
  above (fun row cell => .ofChar? 2 (jis0208.at? row cell)) jis0212.at?

/-- The tilde has a byte of its own, so that its cell holds the wide one. -/
def extended (edition : Edition) : UInt8 → List UInt8 → Front :=
  above
    (fun row cell =>
      if row = 2 && cell = 18 then .chars ['～'] 2 else firstPlaneFront edition row cell)
    fun row cell => (secondPlane? edition row cell).or (jis0212.at? row cell)

end Japanese

end ApiTypes.Encoding
