import PriceOverlay.Decimal.Word
/-!
# Punycode

A label with characters outside ASCII has a spelling in ASCII: its ASCII characters, a
hyphen, and the others as numbers that say where to insert which. A number is written with
digits of base 36, the least significant first, and ends with the first digit below a
threshold; the thresholds follow the size of the numbers before.
-/
namespace PriceOverlay.Http.Domain.Punycode

def digit? (c : Char) : Option Nat :=
  if 'a' ≤ c ∧ c ≤ 'z' then some (c.toNat - 'a'.toNat)
  else if 'A' ≤ c ∧ c ≤ 'Z' then some (c.toNat - 'A'.toNat)
  else if '0' ≤ c ∧ c ≤ '9' then some (c.toNat - '0'.toNat + 26)
  else none

/-- The value below which the digit at a place ends its number. -/
def threshold (place bias : Nat) : Nat := min 26 (max 1 (36 * place - bias))

/-- Reads a number onto `n`; numbers and the weights of their digits fit in 32 bits. -/
def number? (bias : Nat) : List Char → Nat → Nat → Nat → Option (Nat × List Char)
  | [], _, _, _ => none
  | c :: r, place, weight, n =>
    match digit? c with
    | none => none
    | some d =>
      let n := n + d * weight
      let t := threshold place bias
      if !Word.unsigned32.holds n then none
      else if d < t then some (n, r)
      else if !Word.unsigned32.holds (weight * (36 - t) : Nat) then none
      else number? bias r (place + 1) (weight * (36 - t)) n

theorem length_lt_of_number? {bias place weight n : Nat} {cs : List Char} {m : Nat × List Char}
    (h : number? bias cs place weight n = some m) : m.2.length < cs.length := by
  induction cs generalizing place weight n with
  | nil => simp [number?] at h
  | cons c r ih =>
    simp only [number?] at h
    split at h
    · cases h
    · split at h
      · cases h
      · split at h
        · cases h
          simp
        · split at h
          · cases h
          · exact Nat.lt_succ_of_lt (ih h)

/-- Divides by 35 until the number is small, counting the divisions. -/
def scaled (n count : Nat) : Nat × Nat :=
  if 455 < n then scaled (n / 35) (count + 1) else (n, count)
termination_by n
decreasing_by omega

/-- The bias after a number that inserted the last of some characters. -/
def nextBias (n characters : Nat) (isFirst : Bool) : Nat :=
  let n := if isFirst then n / 700 else n / 2
  let (n, count) := scaled (n + n / characters) 0
  36 * count + 36 * n / (n + 38)

/-- Inserts the characters that numbers stand for, each a code of at least `code` at a place
of the text so far, counted from `start`. -/
def inserted (bias code start : Nat) (text cs : List Char) : Option (List Char) :=
  if cs.isEmpty then some text
  else
    match _h : number? bias cs 1 1 start with
    | none => none
    | some (n, r) =>
      let size := text.length + 1
      let code := code + n / size
      let place := n % size
      if !code.isValidChar then none
      else
        inserted (nextBias (n - start) size (start == 0)) code (place + 1)
          (text.take place ++ Char.ofNat code :: text.drop place) r
termination_by cs.length
decreasing_by exact length_lt_of_number? _h

/-- The label that a spelling stands for. The last hyphen divides the ASCII characters from
the numbers, unless it comes first. -/
def decode? (cs : List Char) : Option (List Char) :=
  let numbers := (cs.reverse.takeWhile (· != '-')).reverse
  let ascii := (cs.take (cs.length - numbers.length)).dropLast
  if ascii.isEmpty then inserted 72 0x80 0 [] cs
  else inserted 72 0x80 0 ascii numbers

end PriceOverlay.Http.Domain.Punycode
