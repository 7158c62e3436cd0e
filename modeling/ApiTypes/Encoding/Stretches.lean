import ApiTypes.Encoding.Units

/-!
# Texts of seven bits

ASCII stands for itself. Between a plus sign and the first character that is no
digit of base 64 stand units of two bytes in those digits. A hyphen at the end of
such a stretch belongs to it, and a plus sign with a hyphen is a plus sign.
-/

set_option autoImplicit false

namespace ApiTypes.Encoding

def sixBits? (b : UInt8) : Option Nat :=
  let c := Char.ofNat b.toNat
  if c.isUpper then some (b.toNat - 0x41)
  else if c.isLower then some (b.toNat - 0x61 + 26)
  else if c.isDigit then some (b.toNat - 0x30 + 52)
  else if c = '+' then some 62
  else if c = '/' then some 63
  else none

/-- A stretch in the course of its reading: the bits that make up no unit yet, how many they are,
and a leading half without its other half. -/
structure Stretch where
  bits : Nat
  size : Nat
  half : Option Nat

def Stretch.start : Stretch := ⟨0, 0, none⟩

def Stretch.close (half : Option Nat) (unit : Nat) : List Char × Option Nat :=
  match half with
  | some h =>
    if Text.isTrailingHalf unit then ([Char.ofNat (joined h unit)], none)
    else if Text.isLeadingHalf unit then ([Text.charOfCode h], some unit)
    else ([Text.charOfCode h, Text.charOfCode unit], none)
  | none => if Text.isLeadingHalf unit then ([], some unit) else ([Text.charOfCode unit], none)

def Stretch.step (s : Stretch) (digit : Nat) : List Char × Stretch :=
  let bits := s.bits * 64 + digit
  let size := s.size + 6
  if size < 16 then ([], ⟨bits, size, s.half⟩)
  else
    let (out, half) := Stretch.close s.half (bits / Nat.pow 2 (size - 16))
    (out, ⟨bits % Nat.pow 2 (size - 16), size - 16, half⟩)

/-- Are all bits of a stretch used, but for zeros that fill up the last digit? -/
def Stretch.isWhole (s : Stretch) : Bool := s.size < 6 && s.bits = 0

def decodeStretches : Option Stretch → List UInt8 → List Char
  | none, [] => []
  | some s, [] => if s.isWhole && s.half.isNone then [] else [Text.replacement]
  | some s, b :: r =>
    match sixBits? b with
    | some digit =>
      let (out, s) := s.step digit
      out ++ decodeStretches (some s) r
    | none =>
      let isAscii := b.toNat < 0x80
      if !s.isWhole then Text.replacement :: decodeStretches none r
      else
        (if isAscii then (s.half.map Text.charOfCode).toList else []) ++
          (if b.toNat = '-'.toNat then [] else [if isAscii then Char.ofNat b.toNat else Text.replacement]) ++
          decodeStretches none r
  | none, b :: r =>
    if b.toNat = '+'.toNat then
      match r with
      | [] => decodeStretches (some .start) []
      | c :: r' =>
        if c.toNat = '-'.toNat then '+' :: decodeStretches none r'
        else if (sixBits? c).isNone then Text.replacement :: decodeStretches none r'
        else decodeStretches (some .start) (c :: r')
    else
      (if b.toNat < 0x80 then Char.ofNat b.toNat else Text.replacement) :: decodeStretches none r

end ApiTypes.Encoding
