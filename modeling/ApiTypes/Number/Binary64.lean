/-!
# Binary floating point numbers

A number of the binary64 format is kept as its bits, so that equality is
decidable and the two zeros and the undefined value stay apart. A finite number
is `significand * 2 ^ exponent` up to its sign.
-/

set_option autoImplicit false

namespace ApiTypes

structure Binary64 where
  bits : UInt64
  deriving DecidableEq, Repr

namespace Binary64

def ofFloat (x : Float) : Binary64 := ⟨x.toBits⟩

def toFloat (x : Binary64) : Float := Float.ofBits x.bits

def isNegative (x : Binary64) : Bool := x.bits >>> 63 == 1

def biasedExponent (x : Binary64) : Nat := ((x.bits >>> 52) &&& 0x7FF).toNat

def fraction (x : Binary64) : Nat := (x.bits &&& 0xFFFFFFFFFFFFF).toNat

def isFinite (x : Binary64) : Bool := x.biasedExponent != 0x7FF

def isUndefined (x : Binary64) : Bool := x.biasedExponent == 0x7FF && x.fraction != 0

def significand (x : Binary64) : Nat :=
  if x.biasedExponent = 0 then x.fraction else Nat.pow 2 52 + x.fraction

def exponent (x : Binary64) : Int :=
  if x.biasedExponent = 0 then -1074 else (x.biasedExponent : Int) - 1075

def isZero (x : Binary64) : Bool := x.isFinite && x.significand == 0

def infinity : Binary64 := ⟨0x7FF0000000000000⟩

def undefined : Binary64 := ⟨0x7FF8000000000000⟩

def neg (x : Binary64) : Binary64 := ⟨x.bits ^^^ 0x8000000000000000⟩

def toInt? (x : Binary64) : Option Int :=
  if !x.isFinite then none
  else
    let size := x.significand * Nat.pow 2 x.exponent.toNat
    let divisor := Nat.pow 2 (-x.exponent).toNat
    if size % divisor ≠ 0 then none
    else some (if x.isNegative then -(size / divisor : Int) else size / divisor)

/-- The number nearest to `mantissa * 10 ^ exponent`. Beyond the range of the format the
answer is infinite or zero, whatever the digits. -/
def ofDecimal (mantissa : Nat) (exponent : Int) : Binary64 :=
  let size := ((Nat.toDigits 10 mantissa).length : Int) + exponent
  if mantissa = 0 then ⟨0⟩
  else if size > 400 then infinity
  else if size < -400 then ⟨0⟩
  else ofFloat (Float.ofScientific mantissa (exponent < 0) exponent.natAbs)

end Binary64

end ApiTypes
