/-!
# Halves of surrogate pairs

The escapes of a text may spell one half of a surrogate pair, a code point from
U+D800 to U+DFFF, which is no character. It is held as the private-use character
0x100000 above it. A text with such a character has no form in UTF-8.
-/

set_option autoImplicit false

namespace ApiTypes.Text

def isLeadingHalf (n : Nat) : Bool := 0xD800 ≤ n && n < 0xDC00

def isTrailingHalf (n : Nat) : Bool := 0xDC00 ≤ n && n < 0xE000

def isHalf (n : Nat) : Bool := isLeadingHalf n || isTrailingHalf n

def halfShift : Nat := 0x100000

def charOfCode (n : Nat) : Char := Char.ofNat (if isHalf n then n + halfShift else n)

def half? (c : Char) : Option Nat :=
  if halfShift ≤ c.toNat && isHalf (c.toNat - halfShift) then some (c.toNat - halfShift) else none

/-- The first row of halves in a text from the first half of a class on: its place, its length
and its first half. -/
def firstHalves? (counts : Nat → Bool) : Nat → List Char → Option (Nat × Nat × Nat)
  | _, [] => none
  | place, c :: r =>
    match (half? c).filter counts with
    | some n => some (place, 1 + (r.takeWhile fun d => (half? d).isSome).length, n)
    | none => firstHalves? counts (place + 1) r

/-- In the names of files a trailing half from U+DC80 to U+DCFF stands for a byte that is no text. -/
def isByteHalf (n : Nat) : Bool := 0xDC80 ≤ n && n ≤ 0xDCFF

end ApiTypes.Text
