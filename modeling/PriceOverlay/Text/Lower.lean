/-!
# Lower case, as far as ASCII goes

Names are compared and made without regard to case, and only their ASCII letters matter.
-/
namespace PriceOverlay.Text

/-- Lower case, as far as it can reach ASCII: besides the capitals only the capital I with
a dot, which becomes `i` and a combining dot, and the Kelvin sign have an ASCII letter in
their lower case. Any other character stays itself. -/
def lower (c : Char) : List Char :=
  if 'A' ≤ c ∧ c ≤ 'Z' then [Char.ofNat (c.toNat + 32)]
  else if c = '\u0130' then ['i', '\u0307']
  else if c = '\u212A' then ['k']
  else [c]

/-- A text in lower case. -/
def lowered (s : String) : String := String.ofList (s.toList.flatMap lower)

end PriceOverlay.Text
