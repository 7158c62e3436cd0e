import ApiTypes.Text.DecimalDigit

/-!
# Percent codes

A percent sign and two hexadecimal digits stand for a byte.
-/

set_option autoImplicit false

namespace ApiTypes.Text

def capitalHex (n : Nat) : Char := if n < 10 then Char.ofNat (48 + n) else Char.ofNat (55 + n)

def percentCode (b : UInt8) : List Char := ['%', capitalHex (b.toNat / 16), capitalHex (b.toNat % 16)]

def percentBytes : List Char → List UInt8
  | [] => []
  | '%' :: a :: b :: r =>
    match hexDigit? a, hexDigit? b with
    | some m, some n => (16 * m + n).toUInt8 :: percentBytes r
    | _, _ => '%'.toNat.toUInt8 :: percentBytes (a :: b :: r)
  | c :: r => c.toString.toUTF8.toList ++ percentBytes r

end ApiTypes.Text
