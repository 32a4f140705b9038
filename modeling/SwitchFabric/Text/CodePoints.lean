/-!
# Sets of code points

A set of characters as the ascending list of its ranges, both ends included.
-/

namespace SwitchFabric.Text

/-- Ranges by their first and their last code point. -/
abbrev CodePoints := List (Nat × Nat)

/-- Whether the set holds `c`. -/
def CodePoints.has (t : CodePoints) (c : Char) : Bool :=
  t.any fun r => r.1 ≤ c.toNat && c.toNat ≤ r.2

end SwitchFabric.Text
