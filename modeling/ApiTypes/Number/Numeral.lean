import ApiTypes.Text.Blank
import ApiTypes.Text.DecimalDigit

/-!
# Numerals

A whole number may be written with blanks around it, a sign, decimal digits of
any script, letters as further digits of bases beyond ten, and single
underscores between two digits. The mark of a base of two, eight or sixteen may
stand in front of the digits. Numerals of more than 4300 digits are neither read
nor written, except for those in the three bases with a mark.
-/

set_option autoImplicit false

namespace ApiTypes.Numeral

def maxDigits : Nat := 4300

/-- The decimal numeral of an integer; there is none beyond the greatest length. -/
def write? (n : Int) : Option String :=
  if n.natAbs < Nat.pow 10 maxDigits then some (toString n) else none

inductive Reading where
  | value (n : Int)
  | malformed
  | tooLong (digits : Nat)
  deriving DecidableEq, Repr

def digit? (base : Nat) (c : Char) : Option Nat :=
  ((Text.digitValue? c).orElse fun _ => Text.letterDigit? c).filter (· < base)

/-- The digits in front of a text, and the rest behind them. Underscores stand alone between two
digits; the first argument says whether only a digit can come next. -/
def digits? (digit : Char → Option Nat) : Bool → List Char → Option (List Nat × List Char)
  | needsDigit, [] => if needsDigit then none else some ([], [])
  | needsDigit, c :: r =>
    match digit c with
    | some n => (digits? digit false r).map fun (ds, rest) => (n :: ds, rest)
    | none =>
      if needsDigit then none
      else if c = '_' then digits? digit true r
      else some ([], c :: r)

def marks : List (Nat × Char) := [(2, 'b'), (8, 'o'), (16, 'x')]

def dropMark (base : Nat) (s : List Char) : List Char :=
  match s, marks.lookup base with
  | '0' :: c :: r, some letter =>
    if c.toLower ≠ letter then s else if r.head? = some '_' then r.drop 1 else r
  | s, _ => s

def readUnsigned (base : Nat) (negative : Bool) (s : List Char) : Reading :=
  match digits? (digit? base) true (dropMark base s) with
  | none => .malformed
  | some (ds, rest) =>
    if maxDigits < ds.length && (marks.lookup base).isNone then .tooLong ds.length
    else if !rest.isEmpty then .malformed
    else
      let n : Int := Text.digitsValue base ds
      .value (if negative then -n else n)

def isPadding (c : Char) : Bool :=
  if c.toNat < 0x80 then c = ' ' || ('\t' ≤ c && c ≤ '\r') else Text.isBlank c

def trim (s : List Char) : List Char :=
  ((s.dropWhile isPadding).reverse.dropWhile isPadding).reverse

def readIn (base : Nat) (text : String) : Reading :=
  match trim text.toList with
  | '-' :: r => readUnsigned base true r
  | '+' :: r => readUnsigned base false r
  | r => readUnsigned base false r

def read (text : String) : Reading := readIn 10 text

end ApiTypes.Numeral
