import PriceOverlay.Json.Basic
import PriceOverlay.Decimal.Reader
/-!
# Reading JSON

A total reader for JSON texts. Numbers without fraction and exponent are integers if
they fit 64 bits; any other number is the leading digits that fit an unsigned word,
scaled by a power of ten in double arithmetic. Nothing but white space may follow the
value.
-/
namespace PriceOverlay.Json

/-! A reading step yields a value and the text after it. -/

/-- The four characters that JSON allows between tokens. -/
def isSpace (c : Char) : Bool := c == ' ' || c == '\n' || c == '\t' || c == '\r'

def skip (cs : List Char) : List Char := cs.dropWhile isSpace

/-! ## Numbers -/

/-- Takes digits onto `word` while it stays an unsigned word; also the digits left. -/
def takeWord (word : Nat) : List Char → Nat × List Char
  | [] => (word, [])
  | c :: r =>
    let next := 10 * word + (Decimal.digit? c).getD 0
    if Word.unsigned64.holds next then takeWord next r else (word, c :: r)

/-- The double `x · 10 ^ e`, by one multiplication or division by a power of ten for each
308 places; none beyond the doubles. -/
def scale (x : Float) (e : Int) : Option Float :=
  if 308 < e then if x == 0 then some x else none
  else if 0 ≤ e then
    let y := x * Float.ofScientific 1 false e.toNat
    if y.isInf then none else some y
  else if -308 ≤ e then some (x / Float.ofScientific 1 false e.natAbs)
  else if x == 0 then some x
  else scale (x / Float.ofScientific 1 false 308) (e + 308)
termination_by (-e).toNat

/-- The value of a number from its parts; `fraction` and `exponent` are none if the
literal has none. -/
def number (negative : Bool) (whole : List Char) (fraction : Option (List Char))
    (exponent : Option (Bool × List Char)) : Json :=
  let signed (x : Float) : Json := .real (if negative then -x else x)
  let (word, left) := takeWord 0 whole
  match fraction, exponent, left with
  | none, none, [] =>
    if !negative then .int word
    else if 0 < word ∧ Word.signed64.holds (-word) then .int (-word)
    else signed (Float.ofNat word)
  | _, _, _ =>
    let (word, dropped) := takeWord word (fraction.getD [])
    let places : Int := left.length - ((fraction.getD []).length - dropped.length : Nat)
    let shift : Option Int :=
      match exponent with
      | none => some places
      | some (below, ds) =>
        let e : Int := Decimal.value 0 ds
        if Word.signed32.holds e then some (if below then places - e else places + e)
        else if word == 0 || below then none
        else some (Word.signed32.high + 1)
    match shift with
    | none => signed 0
    | some e =>
      match scale (Float.ofNat word) e with
      | some x => signed x
      | none => .invalid

/-- A number literal. -/
def readNumber (cs : List Char) : Option (Json × List Char) :=
  let (negative, cs) := match cs with
    | '-' :: r => (true, r)
    | r => (false, r)
  let whole := match cs with
    | '0' :: _ => ['0']
    | r => r.takeWhile Decimal.isDigit
  let cs := cs.drop whole.length
  if whole.isEmpty || (whole == ['0'] && (cs.head?.map Decimal.isDigit).getD false) then none
  else
    let fraction : Option (Option (List Char) × List Char) := match cs with
      | '.' :: r =>
        let ds := r.takeWhile Decimal.isDigit
        if ds.isEmpty then none else some (some ds, r.drop ds.length)
      | r => some (none, r)
    fraction.bind fun (fraction, cs) =>
      let exponent : Option (Option (Bool × List Char) × List Char) := match cs with
        | c :: r =>
          if c == 'e' || c == 'E' then
            let (below, r) := Decimal.splitSign r
            let ds := r.takeWhile Decimal.isDigit
            if ds.isEmpty then none else some (some (below, ds), r.drop ds.length)
          else some (none, c :: r)
        | [] => some (none, [])
      exponent.map fun (exponent, cs) => (number negative whole fraction exponent, cs)

/-! ## Texts -/

/-- The character of a one-letter escape. -/
def escape? : Char → Option Char
  | '"' => some '"'
  | '\\' => some '\\'
  | '/' => some '/'
  | 'b' => some '\x08'
  | 'f' => some '\x0c'
  | 'n' => some '\n'
  | 'r' => some '\r'
  | 't' => some '\t'
  | _ => none

/-- Code points of a text after its opening quote, and the rest after the closing one.
An escaped surrogate is kept as it stands. -/
def readPoints : List Char → Option (List Nat × List Char)
  | [] => none
  | '"' :: r => some ([], r)
  | '\\' :: 'u' :: a :: b :: c :: d :: r => do
    let n ← Decimal.numberIn? 16 [a, b, c, d]
    let (ps, r) ← readPoints r
    pure (n :: ps, r)
  | '\\' :: c :: r => do
    let e ← escape? c
    let (ps, r) ← readPoints r
    pure (e.toNat :: ps, r)
  | c :: r => if c.toNat < 0x20 then none else do
    let (ps, r) ← readPoints r
    pure (c.toNat :: ps, r)

/-- Joins surrogate pairs; none if a surrogate stands alone. -/
def joinPairs : List Nat → Option (List Char)
  | [] => some []
  | p :: q :: r =>
    if 0xD800 ≤ p ∧ p < 0xDC00 then
      if 0xDC00 ≤ q ∧ q < 0xE000 then
        (joinPairs r).map (Char.ofNat (0x10000 + (p - 0xD800) * 0x400 + (q - 0xDC00)) :: ·)
      else none
    else if 0xDC00 ≤ p ∧ p < 0xE000 then none
    else (joinPairs (q :: r)).map (Char.ofNat p :: ·)
  | [p] => if 0xD800 ≤ p ∧ p < 0xE000 then none else some [Char.ofNat p]

/-- A text after its opening quote; none inside for a lone surrogate. -/
def readText (cs : List Char) : Option (Option String × List Char) :=
  (readPoints cs).map fun (ps, r) => ((joinPairs ps).map String.ofList, r)

/-! ## Values -/

/-- Containers nested this deep are not read. -/
def depthLimit : Nat := 128

/-- A word such as `true`. -/
def readWord (word : String) (j : Json) (cs : List Char) : Option (Json × List Char) :=
  if word.toList.isPrefixOf cs then some (j, cs.drop word.length) else none

/-- An object whose names can all be read, unless nested too deep. -/
def objectAt (depth : Nat) (fs : List (Option String × Json)) : Json :=
  match fs.mapM (fun f => f.1.map (·, f.2)) with
  | some fs => if depth < depthLimit then .obj fs else .invalid
  | none => .invalid

mutual
/-- One value, after any white space. -/
def readValue (fuel depth : Nat) (cs : List Char) : Option (Json × List Char) :=
  match fuel with
  | 0 => none
  | fuel + 1 =>
    match skip cs with
    | '"' :: r => (readText r).map fun (s, r) => ((s.map Json.str).getD .invalid, r)
    | '[' :: r =>
      (match skip r with
        | ']' :: r => some ([], r)
        | r => readItems fuel (depth + 1) r).map fun (xs, r) =>
          (if depth + 1 < depthLimit then .arr xs else .invalid, r)
    | '\x7b' :: r =>
      (match skip r with
        | '\x7d' :: r => some ([], r)
        | r => readFields fuel (depth + 1) r).map fun (fs, r) => (objectAt (depth + 1) fs, r)
    | 't' :: r => readWord "rue" (.bool true) r
    | 'f' :: r => readWord "alse" (.bool false) r
    | 'n' :: r => readWord "ull" .null r
    | r => readNumber r

/-- The items of a list from the first one on, and its closing bracket. -/
def readItems (fuel depth : Nat) (cs : List Char) : Option (List Json × List Char) :=
  match fuel with
  | 0 => none
  | fuel + 1 => do
    let (x, r) ← readValue fuel depth cs
    match skip r with
    | ',' :: r =>
      let (xs, r) ← readItems fuel depth r
      pure (x :: xs, r)
    | ']' :: r => pure ([x], r)
    | _ => none

/-- The fields of an object from the first one on, and its closing brace. -/
def readFields (fuel depth : Nat) (cs : List Char) :
    Option (List (Option String × Json) × List Char) :=
  match fuel with
  | 0 => none
  | fuel + 1 => do
    let '"' :: r := skip cs | none
    let (name, r) ← readText r
    let ':' :: r := skip r | none
    let (x, r) ← readValue fuel depth r
    match skip r with
    | ',' :: r =>
      let (fs, r) ← readFields fuel depth r
      pure ((name, x) :: fs, r)
    | '\x7d' :: r => pure ([(name, x)], r)
    | _ => none
end

/-- The value that a text holds; none if the text is not JSON. Each step uses up a
character or enters a value of at least one, so twice the length bounds the nesting of
calls. -/
def read? (text : String) : Option Json :=
  let cs := text.toList
  match readValue (2 * cs.length + 2) 0 cs with
  | some (j, r) => if (skip r).isEmpty then some j else none
  | none => none

end PriceOverlay.Json
