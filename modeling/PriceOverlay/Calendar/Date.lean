import PriceOverlay.Decimal.Text
/-!
# Dates

Days of the Gregorian calendar, also before it was in use. A date and its number of days
since 1970 tell the same day.
-/
namespace PriceOverlay.Calendar

def isLeap (year : Int) : Bool :=
  year % 4 == 0 && (year % 100 != 0 || year % 400 == 0)

/-- The length of a month; none has the length of a month that does not exist. -/
def daysIn (year : Int) (month : Nat) : Nat :=
  match month with
  | 1 | 3 | 5 | 7 | 8 | 10 | 12 => 31
  | 4 | 6 | 9 | 11 => 30
  | 2 => if isLeap year then 29 else 28
  | _ => 0

structure Date where
  year : Int
  month : Nat
  day : Nat
  deriving DecidableEq, Repr

/-- A number with zeros in front, as wide as asked for. -/
def padded (width n : Nat) : String :=
  let ds := Decimal.digits n
  String.ofList (List.replicate (width - ds.length) '0' ++ ds)

namespace Date

/-- Whether the day is one of its month. -/
def isReal (d : Date) : Bool := decide (1 ≤ d.day ∧ d.day ≤ daysIn d.year d.month)

/-- Days since 1970. Years are counted from March, so that the leap day is the last one. -/
def number (d : Date) : Int :=
  let year := if d.month ≤ 2 then d.year - 1 else d.year
  let month : Nat := (d.month + 9) % 12
  let dayOfYear : Int := ((153 * month + 2) / 5 + d.day - 1 : Nat)
  365 * year + year.fdiv 4 - year.fdiv 100 + year.fdiv 400 + dayOfYear - 719468

/-- The day that comes a number of days after the first of 1970. -/
def ofNumber (n : Int) : Date :=
  let n := n + 719468
  let era := n.fdiv 146097
  let inEra := (n - era * 146097).toNat
  let yearOfEra := (inEra - inEra / 1460 + inEra / 36524 - inEra / 146096) / 365
  let dayOfYear := inEra - (365 * yearOfEra + yearOfEra / 4 - yearOfEra / 100)
  let month := (5 * dayOfYear + 2) / 153
  let day := dayOfYear - (153 * month + 2) / 5 + 1
  let year := era * 400 + yearOfEra
  if month < 10 then ⟨year, month + 3, day⟩ else ⟨year + 1, month - 9, day⟩

/-- The text `YYYY-MM-DD`; a year of other than four digits has a sign. -/
def text (d : Date) : String :=
  let year :=
    if 0 ≤ d.year ∧ d.year ≤ 9999 then padded 4 d.year.toNat
    else (if d.year < 0 then "-" else "+") ++ padded 4 d.year.natAbs
  year ++ "-" ++ padded 2 d.month ++ "-" ++ padded 2 d.day

end Date
end PriceOverlay.Calendar
