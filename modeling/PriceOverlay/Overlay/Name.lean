import PriceOverlay.Text.Blank
import PriceOverlay.Text.Lower
import PriceOverlay.Decimal.Reader
/-!
# Object names

An object name holds lower-case ASCII letters, digits, dashes and dots, and neither
starts nor ends with a dash or a dot. Any text becomes one: capitals are lowered, every
other character turns into a dash, and dashes and dots at the ends are cut.
-/
namespace PriceOverlay.Name

/-- The characters of an object name. -/
def allowed (c : Char) : Bool :=
  decide ('a' ≤ c ∧ c ≤ 'z') || Decimal.isDigit c || c == '-' || c == '.'

/-- Characters that may not stand at an end. -/
def isEdge (c : Char) : Bool := c == '-' || c == '.'

/-- The characters that a text contributes to a name. -/
def fold (cs : List Char) : List Char :=
  (cs.flatMap Text.lower).map fun c => if allowed c then c else '-'

/-- The object name made of a text. -/
def sanitize (s : String) : String :=
  String.ofList (Text.trimEnds isEdge (fold s.toList))

end PriceOverlay.Name
