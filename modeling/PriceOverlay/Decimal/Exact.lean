/-!
# The exact value of a double, and rounding

Every finite double is a rational number. Texts, counts and durations are decided on
that number, never on a nearby one, so this module gives the number and the two ways it is
rounded to the nearest integer: a half goes away from zero or to the even neighbour.
-/
namespace PriceOverlay.Decimal

/-- The rational number that a finite double stands for; none for an infinity or NaN. -/
def rational? (x : Float) : Option Rat :=
  match x.toModel.unpack with
  | .finite .positive m e _ => some (m * (2 : Rat) ^ e)
  | .finite .negative m e _ => some (-(m * (2 : Rat) ^ e))
  | .zero _ => some 0
  | .infinity _ => none
  | .notANumber => none

def isFinite (x : Float) : Bool := (rational? x).isSome

/-- Whether the sign bit is set; minus zero is negative, NaN is not. -/
def isNegative (x : Float) : Bool :=
  match x.toModel.unpack with
  | .finite .negative _ _ _ => true
  | .zero .negative => true
  | .infinity .negative => true
  | _ => false

/-- The nearest integer; a half goes to the even neighbour. -/
def roundEven (q : Rat) : Int :=
  let low := q.floor
  let rest := q - low
  if rest < 1 / 2 then low
  else if 1 / 2 < rest then low + 1
  else if low % 2 = 0 then low else low + 1

/-- The nearest integer; a half goes away from zero. -/
def roundAway (q : Rat) : Int :=
  if q < 0 then -(-q + 1 / 2).floor else (q + 1 / 2).floor

/-- The integer nearest to a finite double, a half going away from zero. -/
def nearest? (x : Float) : Option Int := (rational? x).map roundAway

end PriceOverlay.Decimal
