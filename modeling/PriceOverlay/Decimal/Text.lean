import PriceOverlay.Decimal.Shortest
/-!
# Decimal texts of doubles

Two texts: `plain`, the shortest digits written positionally and never with an exponent,
and `tenths`, one digit after the point, correctly rounded from the exact value. Both
keep the sign of minus zero.
-/
namespace PriceOverlay.Decimal

/-- The decimal digits of a number. -/
def digits (n : Nat) : List Char := Nat.toDigits 10 n

/-- A natural number in decimal. -/
def natural (n : Nat) : String := String.ofList (digits n)

/-- The number `ds · 10 ^ exponent` in positional notation, at least one digit before the point. -/
def positional (ds : List Char) (exponent : Int) : List Char :=
  if 0 ≤ exponent then ds ++ List.replicate exponent.toNat '0'
  else
    let places := (-exponent).toNat
    let padded := List.replicate (places + 1 - ds.length) '0' ++ ds
    padded.take (padded.length - places) ++ '.' :: padded.drop (padded.length - places)

/-- The text of a sign: nothing or a minus. -/
def sign (negative : Bool) : List Char := if negative then ['-'] else []

/-- An integer in decimal. -/
def integer (n : Int) : String := String.ofList (sign (decide (n < 0)) ++ digits n.natAbs)

/-- The shortest digits that read back, positional: `95`, `0.1`, `-0`, `inf`, `NaN`. -/
def plain (x : Float) : String :=
  String.ofList <|
    match x.toModel.unpack with
    | .notANumber => "NaN".toList
    | .infinity _ => sign (isNegative x) ++ "inf".toList
    | .zero _ => sign (isNegative x) ++ ['0']
    | .finite _ m e _ =>
      let s := shortest .up m e
      sign (isNegative x) ++ positional (digits s.digits) s.exponent

/-- One digit after the point, a tie going to the even neighbour: `95.0`, `-0.0`, `inf`. -/
def tenths (x : Float) : String :=
  match rational? x with
  | none => plain x
  | some q =>
    let q := if q < 0 then -q else q
    String.ofList (sign (isNegative x) ++ positional (digits (roundEven (10 * q)).toNat) (-1))

/-- How a format decides between positional and exponent notation. -/
structure Style where
  /-- The least place of the leading digit that is written positionally. -/
  lowest : Int
  /-- The greatest place of the leading digit that is written positionally. -/
  highest : Int
  tie : Tie

/-- The shortest digits with at least `.0`, in exponent notation outside the places of
the style: `-10.0`, `0.00001`, `1e-6`, `1.5e+19`; none unless finite. -/
def Style.text? (style : Style) (x : Float) : Option String :=
  match x.toModel.unpack with
  | .notANumber => none
  | .infinity _ => none
  | .zero _ => some (String.ofList (sign (isNegative x) ++ "0.0".toList))
  | .finite _ m e _ =>
    let s := shortest style.tie m e
    let ds := digits s.digits
    let place := s.exponent + ds.length - 1
    let body :=
      if style.lowest ≤ place ∧ place ≤ style.highest then
        positional ds s.exponent ++ (if 0 ≤ s.exponent then ".0".toList else [])
      else
        let fraction := ds.drop 1
        ds.take 1 ++ (if fraction.isEmpty then [] else '.' :: fraction) ++
          'e' :: (if place < 0 then '-' else '+') :: digits place.natAbs
    some (String.ofList (sign (isNegative x) ++ body))

end PriceOverlay.Decimal
