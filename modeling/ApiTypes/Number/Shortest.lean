import ApiTypes.Number.Binary64

/-!
# The shortest decimal of a number

Of all decimals that read back to a finite number the one with the fewest
digits is written, and of several with that many digits the nearest. A decimal
reads back exactly when it lies between the halfway points to the two
neighbours; the halfway points themselves count when the significand is even.
-/

set_option autoImplicit false

namespace ApiTypes.Shortest

structure Decimal where
  digits : Nat
  exponent : Int
  deriving DecidableEq, Repr

def compareExact (d : Nat) (e : Int) (b : Nat) (p : Int) : Ordering :=
  compare (d * Nat.pow 10 e.toNat * Nat.pow 2 (-p).toNat) (b * Nat.pow 2 p.toNat * Nat.pow 10 (-e).toNat)

/-- In units of a quarter of the last place: how far down the halfway point is. The gap below a
power of two is half as wide as the gap above it. -/
def gapBelow (x : Binary64) : Nat :=
  if x.fraction = 0 ∧ 1 < x.biasedExponent then 1 else 2

def readsBack (x : Binary64) (c : Decimal) : Bool :=
  let unit := x.exponent - 2
  let below := compareExact c.digits c.exponent (4 * x.significand - gapBelow x) unit
  let above := compareExact c.digits c.exponent (4 * x.significand + 2) unit
  let even := x.significand % 2 == 0
  (below == .gt || (even && below == .eq)) && (above == .lt || (even && above == .eq))

def wholeUnits (x : Binary64) (place : Int) : Nat :=
  (x.significand * Nat.pow 2 x.exponent.toNat * Nat.pow 10 (-place).toNat) /
    (Nat.pow 2 (-x.exponent).toNat * Nat.pow 10 place.toNat)

/-- The place of the leading digit: the greatest `k` with `10 ^ k` at most `x`, for `x` not zero. -/
def leadingPlace (x : Binary64) : Int :=
  let whole := wholeUnits x 0
  if whole ≠ 0 then ((Nat.toDigits 10 whole).length : Int) - 1
  else
    match (List.range 330).find? fun (j : Nat) => wholeUnits x (-(j : Int) - 1) ≠ 0 with
    | some j => -(j : Int) - 1
    | none => -330

/-- The nearer of the two neighbours of `x` on the grid of `10 ^ place` that read back; an exact
tie goes to the even one. -/
def onGrid (x : Binary64) (place : Int) : Option Decimal :=
  let low : Decimal := ⟨wholeUnits x place, place⟩
  let high : Decimal := ⟨low.digits + 1, place⟩
  match readsBack x low, readsBack x high with
  | false, false => none
  | true, false => some low
  | false, true => some high
  | true, true =>
    match compareExact (low.digits + high.digits) place (2 * x.significand) x.exponent with
    | .gt => some low
    | .lt => some high
    | .eq => some (if low.digits % 2 = 0 then low else high)

def stripZeros : Nat → Decimal → Decimal
  | 0, c => c
  | n + 1, c => if c.digits % 10 = 0 ∧ c.digits ≠ 0
      then stripZeros n ⟨c.digits / 10, c.exponent + 1⟩ else c

/-- The shortest decimal of a finite number that is not zero. Seventeen digits always suffice. -/
def decimal (x : Binary64) : Decimal :=
  let lead := leadingPlace x
  let found := (List.range 17).findSome? fun (n : Nat) => onGrid x (lead - n)
  stripZeros 20 (found.getD ⟨wholeUnits x (lead - 16), lead - 16⟩)

/-- How numbers are laid out: positionally while the leading digit stands at a place from
`plainFrom` to `plainTo`, otherwise with an exponent of at least two digits and its sign. -/
structure Layout where
  plainFrom : Int
  plainTo : Int
  exponentMark : String
  infinite : String
  undefined : String

def layout : Layout where
  plainFrom := -4
  plainTo := 15
  exponentMark := "e"
  infinite := "inf"
  undefined := "nan"

def zeros (n : Nat) : List Char := List.replicate n '0'

def exponentText (e : Int) : String :=
  let digits := Nat.toDigits 10 e.natAbs
  (if e < 0 then "-" else "+") ++ String.ofList (zeros (2 - digits.length) ++ digits)

def Layout.place (l : Layout) (c : Decimal) : String :=
  let ds := Nat.toDigits 10 c.digits
  let lead := c.exponent + ds.length - 1
  if l.plainFrom ≤ lead ∧ lead ≤ l.plainTo then
    if lead < 0 then "0." ++ String.ofList (zeros ((-lead).toNat - 1) ++ ds)
    else if 0 ≤ c.exponent then String.ofList (ds ++ zeros c.exponent.toNat) ++ ".0"
    else String.ofList (ds.take (lead.toNat + 1)) ++ "." ++ String.ofList (ds.drop (lead.toNat + 1))
  else
    let rest := ds.drop 1
    String.ofList (ds.take 1) ++ (if rest.isEmpty then "" else "." ++ String.ofList rest) ++
      l.exponentMark ++ exponentText lead

def Layout.render (l : Layout) (x : Binary64) : String :=
  if x.isUndefined then l.undefined
  else
    let size :=
      if !x.isFinite then l.infinite
      else if x.significand = 0 then "0.0"
      else l.place (decimal x)
    (if x.isNegative then "-" else "") ++ size

end ApiTypes.Shortest

namespace ApiTypes

def Binary64.text (x : Binary64) : String := Shortest.layout.render x

end ApiTypes
