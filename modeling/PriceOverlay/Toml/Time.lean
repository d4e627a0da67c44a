import PriceOverlay.Calendar.Date
import PriceOverlay.Decimal.Reader
/-!
# Dates and times in TOML

A date, a time of day, or both with an optional offset. As a setting it is the text in
which it is usually written: `T` between date and time, no zeros at the end of a fraction,
and nine places of it at most.
-/
namespace PriceOverlay.Toml

/-- A number of a fixed count of digits. -/
def fixed? (width : Nat) (cs : List Char) : Option (Nat × List Char) :=
  let ds := cs.take width
  if ds.length = width ∧ ds.all Decimal.isDigit then some (Decimal.value 0 ds, cs.drop width)
  else none

/-- A number of two digits from `low` to `high`. -/
def pair? (low high : Nat) (cs : List Char) : Option (Nat × List Char) :=
  (fixed? 2 cs).filter fun p => decide (low ≤ p.1 ∧ p.1 ≤ high)

/-- What follows a mark. -/
def mark? (c : Char) : List Char → Option (List Char)
  | d :: r => if c == d then some r else none
  | [] => none

def date? (cs : List Char) : Option (Calendar.Date × List Char) := do
  let (year, r) ← fixed? 4 cs
  let (month, r) ← pair? 1 12 (← mark? '-' r)
  let (day, r) ← pair? 1 31 (← mark? '-' r)
  let d : Calendar.Date := ⟨year, month, day⟩
  if d.isReal then some (d, r) else none

/-- The text of a fraction: its digits without the zeros at the end. -/
def fractionText (ds : List Char) : String :=
  let ds := ((ds.take 9).reverse.dropWhile (· == '0')).reverse
  if ds.isEmpty then "" else "." ++ String.ofList ds

/-- A time of day, as text. -/
def clock? (cs : List Char) : Option (String × List Char) := do
  let (hour, r) ← pair? 0 23 cs
  let (minute, r) ← pair? 0 59 (← mark? ':' r)
  let (second, r) ← pair? 0 60 (← mark? ':' r)
  let text := Calendar.padded 2 hour ++ ":" ++ Calendar.padded 2 minute ++ ":" ++
    Calendar.padded 2 second
  match r with
  | '.' :: r =>
    let ds := r.takeWhile Decimal.isDigit
    if ds.isEmpty then none else pure (text ++ fractionText ds, r.drop ds.length)
  | r => pure (text, r)

/-- An offset, as text; no offset has a minus. -/
def offset? : List Char → Option (String × List Char)
  | 'Z' :: r | 'z' :: r => some ("Z", r)
  | c :: r => do
    let negative ← if c = '+' then some false else if c = '-' then some true else none
    let (hours, r) ← pair? 0 23 r
    let (minutes, r) ← pair? 0 59 (← mark? ':' r)
    let sign := if negative && decide (0 < hours + minutes) then "-" else "+"
    pure (sign ++ Calendar.padded 2 hours ++ ":" ++ Calendar.padded 2 minutes, r)
  | [] => none

/-- What separates a date from a time. -/
def isTimeMark (c : Char) : Bool := c == 'T' || c == 't' || c == ' '

/-- The time of day after a date, with its offset. -/
def timeAfterDate? : List Char → Option (String × List Char)
  | c :: r =>
    if isTimeMark c then do
      let (clock, r) ← clock? r
      match offset? r with
      | some (offset, r) => pure (clock ++ offset, r)
      | none => pure (clock, r)
    else none
  | [] => none

/-- A date, a time of day or both, as text. -/
def time? (cs : List Char) : Option (String × List Char) :=
  match date? cs with
  | some (d, r) =>
    match timeAfterDate? r with
    | some (t, r) => some (d.text ++ "T" ++ t, r)
    | none => some (d.text, r)
  | none => clock? cs

end PriceOverlay.Toml
