import ApiTypes.Text.Half
import ApiTypes.Text.Lenient

/-!
# Encodings in units of more bytes

Texts in units of two or four bytes, with the lower or the higher byte first.
A character beyond the first 65536 takes two units of two bytes. One replacement
character stands for a unit that spells nothing and for what is cut off.
-/

set_option autoImplicit false

namespace ApiTypes.Encoding

def number (lowFirst : Bool) (bytes : List UInt8) : Nat :=
  (if lowFirst then bytes.reverse else bytes).foldl (fun n b => 256 * n + b.toNat) 0

def joined (leading trailing : Nat) : Nat :=
  0x10000 + (leading - 0xD800) * 0x400 + (trailing - 0xDC00)

def decodePairs (lowFirst : Bool) : List UInt8 → List Char
  | [] => []
  | [_] => [Text.replacement]
  | a :: b :: r =>
    let n := number lowFirst [a, b]
    if Text.isLeadingHalf n then
      match r with
      | c :: d :: r' =>
        let m := number lowFirst [c, d]
        if Text.isTrailingHalf m then Char.ofNat (joined n m) :: decodePairs lowFirst r'
        else Text.replacement :: decodePairs lowFirst (c :: d :: r')
      | _ => [Text.replacement]
    else if Text.isTrailingHalf n then Text.replacement :: decodePairs lowFirst r
    else Char.ofNat n :: decodePairs lowFirst r

def decodeFours (lowFirst : Bool) : List UInt8 → List Char
  | a :: b :: c :: d :: r =>
    let n := number lowFirst [a, b, c, d]
    (if n.isValidChar then Char.ofNat n else Text.replacement) :: decodeFours lowFirst r
  | [] => []
  | _ => [Text.replacement]

end ApiTypes.Encoding
