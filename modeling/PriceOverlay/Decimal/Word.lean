/-!
# Machine words

Some numbers have to fit in a machine word of 16, 32 or 64 bits, with or without a sign.
A word is given by the integers that it holds: those from `low` to `high`.
-/
namespace PriceOverlay

/-- A kind of machine word. -/
structure Word where
  low : Int
  high : Int
  deriving DecidableEq, Repr

namespace Word

def unsigned16 : Word := ⟨0, 0xFFFF⟩
def unsigned32 : Word := ⟨0, 0xFFFFFFFF⟩
def unsigned64 : Word := ⟨0, 0xFFFFFFFFFFFFFFFF⟩
def signed32 : Word := ⟨-0x80000000, 0x7FFFFFFF⟩
def signed64 : Word := ⟨-0x8000000000000000, 0x7FFFFFFFFFFFFFFF⟩

/-- Whether the word holds an integer. -/
def holds (w : Word) (n : Int) : Bool := decide (w.low ≤ n ∧ n ≤ w.high)

/-- The integer that the word holds nearest to `n`. -/
def clamp (w : Word) (n : Int) : Int := max w.low (min n w.high)

end Word
end PriceOverlay
