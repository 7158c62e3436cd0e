/-!
# Sets of characters given by ranges

A character class is a list of closed ranges of code points.
-/

set_option autoImplicit false

namespace ApiTypes.Text

abbrev Ranges := List (Nat × Nat)

def Ranges.contains (ranges : Ranges) (c : Char) : Bool :=
  ranges.any fun r => r.1 ≤ c.toNat && c.toNat ≤ r.2

end ApiTypes.Text
