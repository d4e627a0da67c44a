import PriceOverlay.Decimal.Exact
import PriceOverlay.Decimal.Word
/-!
# Reading numbers

Integers with an optional sign, and doubles: an optional sign, then `inf`, `infinity` or
`nan` in any case, or digits with at most one point, at least one digit, and an optional
exponent. A number is read to the nearest double, a tie going to the even one.
-/
namespace PriceOverlay.Decimal

/-- The value of a character that is an ASCII digit. -/
def digit? (c : Char) : Option Nat :=
  if '0' ≤ c ∧ c ≤ '9' then some (c.toNat - '0'.toNat) else none

/-- The value of a digit in a base of at most 16. -/
def digitIn? (base : Nat) (c : Char) : Option Nat :=
  let n :=
    if '0' ≤ c ∧ c ≤ '9' then c.toNat - '0'.toNat
    else if 'a' ≤ c ∧ c ≤ 'f' then c.toNat - 'a'.toNat + 10
    else if 'A' ≤ c ∧ c ≤ 'F' then c.toNat - 'A'.toNat + 10
    else base
  if n < base then some n else none

def isDigit (c : Char) : Bool := decide ('0' ≤ c ∧ c ≤ '9')

/-- At least one character, and digits only. -/
def isDigits (cs : List Char) : Bool := !cs.isEmpty && cs.all isDigit

/-- The number that a run of digits stands for, on top of `start`. -/
def value (start : Nat) (cs : List Char) : Nat :=
  cs.foldl (fun n c => 10 * n + (digit? c).getD 0) start

/-- A run of digits, read as a number. -/
def natural? (cs : List Char) : Option Nat :=
  if isDigits cs then some (value 0 cs) else none

/-- Digits of a base, at least one. -/
def numberIn? (base : Nat) (cs : List Char) : Option Nat :=
  if cs.isEmpty then none
  else cs.foldlM (fun n c => (digitIn? base c).map (base * n + ·)) 0

/-- Splits an optional sign off. -/
def splitSign : List Char → Bool × List Char
  | '-' :: r => (true, r)
  | '+' :: r => (false, r)
  | r => (false, r)

/-- Digits with an optional sign. -/
def integer? (cs : List Char) : Option Int :=
  let (negative, r) := splitSign cs
  (natural? r).map fun n => if negative then -(n : Int) else n

/-- An integer of 64 bits with sign. -/
def int64? (cs : List Char) : Option Int :=
  (integer? cs).filter Word.signed64.holds

/-- Digits with an optional plus, an unsigned integer of 64 bits. -/
def unsigned64? (cs : List Char) : Option Nat :=
  let r := match cs with
    | '+' :: r => r
    | r => r
  (natural? r).filter (Word.unsigned64.holds ·)

/-- The double nearest to `digits · 10 ^ exponent`. -/
def ofScientific (digits : Nat) (exponent : Int) : Float :=
  Float.ofScientific digits (exponent < 0) exponent.natAbs

def infinity : Float := 1 / 0
def nan : Float := 0 / 0

/-- The exponent after a number: nothing, or `e` and an integer. -/
def exponent? : List Char → Option Int
  | [] => some 0
  | c :: r => if c = 'e' ∨ c = 'E' then integer? r else none

/-- An unsigned number with optional fraction and exponent. -/
def unsigned? (cs : List Char) : Option Float :=
  let whole := cs.takeWhile isDigit
  let (fraction, r) := match cs.dropWhile isDigit with
    | '.' :: r => (r.takeWhile isDigit, r.dropWhile isDigit)
    | r => ([], r)
  if whole.isEmpty && fraction.isEmpty then none
  else (exponent? r).map fun e =>
    ofScientific (value (value 0 whole) fraction) (e - fraction.length)

/-- A double. -/
def float? (cs : List Char) : Option Float :=
  let (negative, r) := splitSign cs
  let low := r.map Char.toLower
  let magnitude :=
    if low = "inf".toList ∨ low = "infinity".toList then some infinity
    else if low = "nan".toList then some nan
    else unsigned? r
  magnitude.map fun x => if negative then -x else x

end PriceOverlay.Decimal
