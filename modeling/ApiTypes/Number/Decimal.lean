import ApiTypes.Number.Binary64
import ApiTypes.Number.Numeral
import ApiTypes.Text.Pieces

/-!
# Reading decimals

A decimal may be written with blanks around it, a sign, digits of any script
with a point among them, and an exponent. Infinity and the undefined value are
written as words in any case.
-/

set_option autoImplicit false

namespace ApiTypes.Decimal

def digits : List Char → List Nat × List Char
  | [] => ([], [])
  | c :: r =>
    match Text.digitValue? c with
    | some n => let (ds, rest) := digits r; (n :: ds, rest)
    | none => ([], c :: r)

def sign : List Char → Bool × List Char
  | '-' :: r => (true, r)
  | '+' :: r => (false, r)
  | r => (false, r)

def word? (s : List Char) : Option Binary64 :=
  let w := Text.lower (String.ofList s)
  if w = "inf" || w = "infinity" then some .infinity
  else if w = "nan" then some .undefined
  else none

def exponent? : List Char → Option Int
  | [] => some 0
  | e :: r =>
    let (negative, r) := sign r
    let (ds, rest) := digits r
    if (e = 'e' || e = 'E') && !ds.isEmpty && rest.isEmpty then
      let n : Int := Text.digitsValue 10 ds
      some (if negative then -n else n)
    else none

def unsigned? (s : List Char) : Option Binary64 :=
  let (whole, r) := digits s
  let (fraction, r) := match r with
    | '.' :: r => digits r
    | r => ([], r)
  if whole.isEmpty && fraction.isEmpty then word? s
  else (exponent? r).map fun n =>
    .ofDecimal (Text.digitsValue 10 (whole ++ fraction)) (n - fraction.length)

def read? (s : List Char) : Option Binary64 :=
  let (negative, r) := sign (Numeral.trim s)
  (unsigned? r).map fun x => if negative then x.neg else x

end ApiTypes.Decimal
