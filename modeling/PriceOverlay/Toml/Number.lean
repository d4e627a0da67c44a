import PriceOverlay.Settings.Setting
/-!
# Numbers in TOML

Integers of 64 bits in decimal, hexadecimal, octal or binary, and doubles. An underscore
may stand between two digits. A double beyond the greatest one is refused, except below
zero.
-/
namespace PriceOverlay.Toml

/-- The digits that follow a digit: each may have an underscore before it. -/
def moreDigits (base : Nat) : List Char → List Char × List Char
  | '_' :: c :: r =>
    if (Decimal.digitIn? base c).isSome then
      let (ds, rest) := moreDigits base r
      (c :: ds, rest)
    else ([], '_' :: c :: r)
  | c :: r =>
    if (Decimal.digitIn? base c).isSome then
      let (ds, rest) := moreDigits base r
      (c :: ds, rest)
    else ([], c :: r)
  | [] => ([], [])

/-- A run of digits, without its underscores, and what follows it. -/
def digitRun? (base : Nat) : List Char → Option (List Char × List Char)
  | c :: r =>
    if (Decimal.digitIn? base c).isSome then
      let (ds, rest) := moreDigits base r
      some (c :: ds, rest)
    else none
  | [] => none

/-- An integer in range. -/
def inRange? (n : Int) : Option Setting :=
  if Word.signed64.holds n then some (.int n) else none

/-- An integer of a base after its mark. -/
def basedInteger? (base : Nat) (cs : List Char) : Option (Setting × List Char) := do
  let (ds, r) ← digitRun? base cs
  let n := ds.foldl (fun n c => base * n + (Decimal.digitIn? base c).getD 0) 0
  pure (← inRange? n, r)

/-- The whole part of a number: no zero stands before another digit. -/
def whole? : List Char → Option (List Char × List Char)
  | '0' :: r => some (['0'], r)
  | cs => digitRun? 10 cs

/-- A fraction, if there is one. -/
def fraction (cs : List Char) : Option (List Char) × List Char :=
  match cs with
  | '.' :: r =>
    match digitRun? 10 r with
    | some (ds, rest) => (some ds, rest)
    | none => (none, cs)
  | _ => (none, cs)

/-- An exponent, if there is one. -/
def exponent (cs : List Char) : Option Int × List Char :=
  match cs with
  | c :: r =>
    if c == 'e' || c == 'E' then
      let (negative, r) := Decimal.splitSign r
      match digitRun? 10 r with
      | some (ds, rest) =>
        let n : Int := Decimal.value 0 ds
        (some (if negative then -n else n), rest)
      | none => (none, cs)
    else (none, cs)
  | [] => (none, [])

/-- A double that is not beyond the greatest one. -/
def double? (negative : Bool) (x : Float) : Option Setting :=
  if negative then some (.real (-x)) else if x.isInf then none else some (.real x)

/-- A decimal number. -/
def decimal? (cs : List Char) : Option (Setting × List Char) := do
  let (negative, r) := Decimal.splitSign cs
  match r with
  | 'i' :: 'n' :: 'f' :: r =>
    pure (.real (if negative then -Decimal.infinity else Decimal.infinity), r)
  | 'n' :: 'a' :: 'n' :: r => pure (.real Decimal.nan, r)
  | r =>
    let (ds, r) ← whole? r
    let (places, r) := fraction r
    let (power, r) := exponent r
    match places, power with
    | none, none =>
      let n : Int := Decimal.value 0 ds
      pure (← inRange? (if negative then -n else n), r)
    | _, _ =>
      let places := places.getD []
      let x := Decimal.ofScientific (Decimal.value (Decimal.value 0 ds) places)
        (power.getD 0 - places.length)
      pure (← double? negative x, r)

/-- A number. -/
def number? : List Char → Option (Setting × List Char)
  | '0' :: 'x' :: r => basedInteger? 16 r
  | '0' :: 'o' :: r => basedInteger? 8 r
  | '0' :: 'b' :: r => basedInteger? 2 r
  | cs => decimal? cs

end PriceOverlay.Toml
