/-!
# Classes of characters

A class of characters is given by the ranges of its code points.
-/
namespace PriceOverlay.Text

/-- Ranges of code points, ascending, with both ends. -/
abbrev Ranges := List (Nat × Nat)

/-- Whether a character is in one of the ranges. -/
def Ranges.has (rs : Ranges) (c : Char) : Bool :=
  rs.any fun r => decide (r.1 ≤ c.toNat ∧ c.toNat ≤ r.2)

end PriceOverlay.Text
