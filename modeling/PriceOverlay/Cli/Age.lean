import PriceOverlay.Decimal.Text
/-!
# Ages for people

An age in seconds is shown in hours, minutes and seconds, from the largest unit that it
fills on.
-/
namespace PriceOverlay.Cli

/-- The text of an age: `1h2m3s`, `2m3s` or `3s`. -/
def ageText (seconds : Nat) : String :=
  let h := seconds / 3600
  let m := seconds % 3600 / 60
  let s := Decimal.natural (seconds % 60) ++ "s"
  if 0 < h then Decimal.natural h ++ "h" ++ Decimal.natural m ++ "m" ++ s
  else if 0 < m then Decimal.natural m ++ "m" ++ s
  else s

end PriceOverlay.Cli
