import PriceOverlay.Decimal.Reader
/-!
# Tables of code points

A large table of characters is written as text: its rows are divided by semicolons, and a
row holds numbers in hexadecimal between blanks.
-/
namespace PriceOverlay.Text.Codes

def row (text : List Char) : List Nat :=
  (text.splitOnP fun c => c == ' ' || c == '\n').filterMap (Decimal.numberIn? 16)

def rows (text : String) : List (List Nat) := (text.toList.splitOn ';').map row

end PriceOverlay.Text.Codes
