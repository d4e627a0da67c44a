import PriceOverlay.Decimal.Exact
import PriceOverlay.Decimal.Word
/-!
# Durations

A duration is a whole number of nanoseconds.
-/
namespace PriceOverlay

structure Duration where
  nanos : Nat
  deriving DecidableEq, Repr, Inhabited

namespace Duration

/-- The nanoseconds of a second. -/
def secondNanos : Nat := 1000000000

def ofSeconds (n : Nat) : Duration := ⟨n * secondNanos⟩
def ofMillis (n : Nat) : Duration := ⟨n * 1000000⟩

/-- The whole seconds. -/
def seconds (d : Duration) : Nat := d.nanos / secondNanos

/-- The nanoseconds beyond the whole seconds. -/
def subsecond (d : Duration) : Nat := d.nanos % secondNanos

/-- The duration in seconds: the whole ones and the rest are converted each on its own. -/
def toFloat (d : Duration) : Float :=
  Float.ofNat d.seconds + Float.ofNat d.subsecond / Float.ofNat secondNanos

/-- The duration nearest to a number of seconds, a tie going to the even nanosecond; none
for less than nothing, and none if the seconds do not fit a word of 64 bits. -/
def ofFloat? (x : Float) : Option Duration :=
  (Decimal.rational? x).bind fun q =>
    if q < 0 then none
    else
      let n := (Decimal.roundEven (q * secondNanos)).toNat
      if Word.unsigned64.holds (n / secondNanos) then some ⟨n⟩ else none

end Duration
end PriceOverlay
