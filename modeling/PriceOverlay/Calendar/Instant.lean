import PriceOverlay.Calendar.Date
import PriceOverlay.Decimal.Reader
import PriceOverlay.Text.Blank
/-!
# Instants

An instant is written as a date, a time of day and an offset from universal time. It is
read with some freedom (blanks between the parts, missing zeros) and written in universal
time, to the second.
-/
namespace PriceOverlay.Calendar

/-- Seconds since 1970; a leap second shares the number of the one before it. -/
structure Instant where
  seconds : Int
  isLeap : Bool
  deriving DecidableEq, Repr

namespace Instant

/-! A reading step yields a value and the text after it. -/

/-- At least one digit, and at most `width` of them. -/
def run? (width : Nat) (cs : List Char) : Option (Nat × List Char) :=
  let ds := (cs.take width).takeWhile Decimal.isDigit
  if ds.isEmpty then none else some (Decimal.value 0 ds, cs.drop ds.length)

/-- A run of digits, after blanks. -/
def digits? (width : Nat) (cs : List Char) : Option (Nat × List Char) :=
  run? width (Text.trimStart cs)

/-- A year: four digits, or any number of them after a sign. -/
def year? (cs : List Char) : Option (Int × List Char) :=
  match Text.trimStart cs with
  | '-' :: r => (run? r.length r).map fun p => (-(p.1 : Int), p.2)
  | '+' :: r => (run? r.length r).map fun p => ((p.1 : Int), p.2)
  | r => (run? 4 r).map fun p => ((p.1 : Int), p.2)

/-- A mark, after blanks. -/
def mark? (c : Char) (cs : List Char) : Option (List Char) :=
  match Text.trimStart cs with
  | d :: r => if c == d then some r else none
  | [] => none

/-- Two digits, and nothing before them. -/
def pair? : List Char → Option (Nat × List Char)
  | a :: b :: r => do pure (10 * (← Decimal.digit? a) + (← Decimal.digit? b), r)
  | _ => none

/-- An offset in seconds: `Z`, `UTC`, or a sign, hours and minutes. -/
def offset? (cs : List Char) : Option (Int × List Char) :=
  if (cs.take 3).map Char.toLower = ['u', 't', 'c'] then some (0, cs.drop 3)
  else match cs with
    | 'Z' :: r | 'z' :: r => some (0, r)
    | c :: r => do
      let sign : Int ←
        if c = '+' then some 1 else if c = '-' ∨ c = '\u2212' then some (-1) else none
      let (hours, r) ← pair? r
      let (minutes, r) ← pair? (r.dropWhile fun c => c == ':' || Text.isBlank c)
      if hours < 24 ∧ minutes < 60 then some (sign * (hours * 3600 + minutes * 60 : Nat), r)
      else none
    | [] => none

/-- The years that an instant may be in, both as it is written and in universal time. -/
def firstYear : Int := -262143
def lastYear : Int := 262142

def isInRange (year : Int) : Bool := decide (firstYear ≤ year ∧ year ≤ lastYear)

/-- The day of an instant in universal time. -/
def date (i : Instant) : Date := .ofNumber (i.seconds.fdiv 86400)

def ofText? (text : String) : Option Instant := do
  let (year, r) ← year? text.toList
  let (month, r) ← digits? 2 (← mark? '-' r)
  let (day, r) ← digits? 2 (← mark? '-' r)
  let r ← match r with
    | 'T' :: r | 't' :: r | ' ' :: r => some r
    | _ => none
  let (hour, r) ← digits? 2 r
  let (minute, r) ← digits? 2 (← mark? ':' r)
  let (second, r) ← digits? 2 (← mark? ':' r)
  let r ← match r with
    | '.' :: r =>
      if (r.head?.map Decimal.isDigit).getD false then some (r.dropWhile Decimal.isDigit)
      else none
    | r => some r
  let (offset, r) ← offset? (Text.trimStart r)
  let date : Date := ⟨year, month, day⟩
  let ofDay := hour * 3600 + minute * 60 + min second 59
  let instant : Instant := ⟨date.number * 86400 + (ofDay : Nat) - offset, second = 60⟩
  if (Text.trimStart r).isEmpty && date.isReal && isInRange year &&
      decide (hour < 24 ∧ minute < 60 ∧ second ≤ 60) && isInRange instant.date.year then
    some instant
  else none

/-- The text `YYYY-MM-DDThh:mm:ssZ`. -/
def text (i : Instant) : String :=
  let ofDay := (i.seconds.emod 86400).toNat
  i.date.text ++ "T" ++ padded 2 (ofDay / 3600) ++ ":" ++
    padded 2 (ofDay / 60 % 60) ++ ":" ++
    padded 2 (ofDay % 60 + if i.isLeap then 1 else 0) ++ "Z"

end Instant
end PriceOverlay.Calendar
