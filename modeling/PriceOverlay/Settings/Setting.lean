import PriceOverlay.Decimal.Reader
import PriceOverlay.Decimal.Text
import PriceOverlay.Text.Lower
/-!
# Settings

A setting is a value of no fixed type: it is turned into the type of the field that it is
for. Texts stand for numbers and flags, flags for numbers, and numbers for texts. Settings
are gathered into tables, whose keys are in lower case.
-/
namespace PriceOverlay

inductive Setting where
  | null
  | bool (b : Bool)
  | int (n : Int)
  | real (x : Float)
  | text (s : String)
  | list (items : List Setting)
  | table (fields : List (String × Setting))
  deriving Inhabited

namespace Setting

/-! ## Tables -/

/-- The table without settings. -/
def empty : Setting := .table []

/-- The fields of a table; none of any other setting. -/
def fields : Setting → List (String × Setting)
  | .table fs => fs
  | _ => []

def items : Setting → List Setting
  | .list l => l
  | _ => []

/-- The setting of a key. -/
def get? (t : Setting) (key : String) : Option Setting :=
  (t.fields.find? (·.1 == key)).map (·.2)

/-- The fields with one of them replaced or added. -/
def put (key : String) (s : Setting) : List (String × Setting) → List (String × Setting)
  | [] => [(key, s)]
  | f :: r => if f.1 == key then (key, s) :: r else f :: put key s r

/-- The table with one setting changed or added; anything but a table counts as an empty
one. -/
def alter (t : Setting) (key : String) (change : Option Setting → Setting) : Setting :=
  let key := Text.lowered key
  .table (put key (change (t.get? key)) t.fields)

mutual
/-- A setting laid over the one that is there. A table is laid over field by field, so that
an empty one changes nothing. -/
def overlaid (old : Option Setting) : Setting → Setting
  | .table [] => old.getD empty
  | .table fs => overlaidFields (.table ((old.getD empty).fields)) fs
  | s => s

def overlaidFields (old : Setting) : List (String × Setting) → Setting
  | [] => old
  | (key, s) :: r => overlaidFields (old.alter key fun o => overlaid o s) r
end

/-- Sets an item of a list, which grows to hold it. A negative number counts from the end. -/
def setItem (s : Setting) (index : Int) (change : Option Setting → Setting) : Setting :=
  let l := s.items
  let i := (if index < 0 then l.length + index else index).toNat
  let l := l ++ List.replicate (i + 1 - l.length) .null
  .list (l.set i (change l[i]?))

/-! ## Conversions -/

/-- The texts that stand for yes and no. -/
def word? (s : String) : Option Bool :=
  let s := Text.lowered s
  if s = "true" ∨ s = "on" ∨ s = "yes" then some true
  else if s = "false" ∨ s = "off" ∨ s = "no" then some false
  else none

/-- The integer that a word holds nearest to a double; for NaN it is zero. -/
def nearest (w : Word) (x : Float) : Int :=
  match Decimal.nearest? x with
  | some n => w.clamp n
  | none => if x.isNaN then 0 else if x < 0 then w.low else w.high

/-- An integer of 64 bits with sign. -/
def int? : Setting → Option Int
  | .int n => some n
  | .bool b => some (if b then 1 else 0)
  | .real x => some (nearest .signed64 x)
  | .text s =>
    match word? s with
    | some b => some (if b then 1 else 0)
    | none => Decimal.int64? s.toList
  | _ => none

/-- An unsigned integer of 64 bits. -/
def nat? : Setting → Option Nat
  | .int n => if 0 ≤ n then some n.toNat else none
  | .bool b => some (if b then 1 else 0)
  | .real x => some (nearest .unsigned64 x).toNat
  | .text s =>
    match word? s with
    | some b => some (if b then 1 else 0)
    | none => Decimal.unsigned64? s.toList
  | _ => none

/-- An unsigned integer that a word holds. -/
def natIn? (w : Word) (s : Setting) : Option Nat := s.nat?.filter (w.holds ·)

/-- An integer of 32 bits with sign. -/
def int32? (s : Setting) : Option Int :=
  s.int?.filter Word.signed32.holds

def bool? : Setting → Option Bool
  | .bool b => some b
  | .int n => some (n != 0)
  | .real x => some (x != 0)
  | .text s => if s = "1" then some true else if s = "0" then some false else word? s
  | _ => none

def float? : Setting → Option Float
  | .real x => some x
  | .int n => some (Float.ofInt n)
  | .bool b => some (if b then 1 else 0)
  | .text s =>
    match word? s with
    | some b => some (if b then 1 else 0)
    | none => Decimal.float? s.toList
  | _ => none

def text? : Setting → Option String
  | .text s => some s
  | .bool b => some (if b then "true" else "false")
  | .int n => some (Decimal.integer n)
  | .real x => some (Decimal.plain x)
  | _ => none

/-- A setting that may be null. -/
def optional? {α : Type} (read : Setting → Option α) : Setting → Option (Option α)
  | .null => some none
  | s => (read s).map some

/-! ## Records -/

/-- The fields of a record: by name in a table, by place in a list. -/
def record? (names : List String) : Setting → Option (List (Option Setting))
  | .table fs => some (names.map fun n => (Setting.table fs).get? n)
  | .list l => some (names.zipIdx.map fun n => l[n.2]?)
  | _ => none

/-- The value of a field, or the standard one if it is missing. -/
def orElse {α : Type} (standard : α) (read : Setting → Option α) : Option Setting → Option α
  | none => some standard
  | some s => read s

end Setting
end PriceOverlay
