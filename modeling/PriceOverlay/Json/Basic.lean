import PriceOverlay.Decimal.Word
/-!
# JSON values

A value keeps its object fields in the order they were written, repeated names included,
since what a repeated name means is up to the reader of the object. A literal that is
well-formed but has no value of its own (a number beyond the doubles, a text with half of
a surrogate pair, a container nested too deep) is `invalid`: harmless where it is ignored,
an error where it is read.
-/
namespace PriceOverlay

inductive Json where
  | null
  | bool (b : Bool)
  | int (n : Int)
  | real (x : Float)
  | str (s : String)
  | arr (items : List Json)
  | obj (fields : List (String × Json))
  | invalid
  deriving Inhabited

namespace Json

/-- The fields of an object; none for any other value. -/
def fields? : Json → Option (List (String × Json))
  | .obj fs => some fs
  | _ => none

def items? : Json → Option (List Json)
  | .arr xs => some xs
  | _ => none

def str? : Json → Option String
  | .str s => some s
  | _ => none

def bool? : Json → Option Bool
  | .bool b => some b
  | _ => none

/-- An integer literal that a word holds. -/
def intIn? (w : Word) : Json → Option Int
  | .int n => if w.holds n then some n else none
  | _ => none

/-- Any number. -/
def float? : Json → Option Float
  | .int n => some (Float.ofInt n)
  | .real x => some x
  | _ => none

def isNull : Json → Bool
  | .null => true
  | _ => false

/-- The value of the last field of a name. -/
def lookup (name : String) (fs : List (String × Json)) : Option Json :=
  (fs.filter (·.1 == name)).getLast?.map (·.2)

/-- The value of a field; `null` for a missing one. -/
def get (j : Json) (name : String) : Json :=
  ((j.fields?.getD []) |> lookup name).getD .null

/-- The value unless it is `null`. -/
def present? : Json → Option Json
  | .null => none
  | j => some j

mutual
/-- Whether every part of the value can be read. -/
def valid : Json → Bool
  | .invalid => false
  | .arr items => validItems items
  | .obj fields => validFields fields
  | _ => true

def validItems : List Json → Bool
  | [] => true
  | j :: r => valid j && validItems r

def validFields : List (String × Json) → Bool
  | [] => true
  | (_, j) :: r => valid j && validFields r
end

/-! ## Records -/

/-- A field of a record: its name, and whether a record may leave it out. -/
structure Field where
  name : String
  optional : Bool

/-- A record is written as an object, in which no field is repeated and unknown ones are
ignored, or as the list of its fields in order, of which the optional ones may be missing
at the end. The result has one entry per field. -/
def record? (spec : List Field) : Json → Option (List (Option Json))
  | .obj fs =>
    if spec.all (fun f => decide ((fs.filter (·.1 == f.name)).length ≤ 1)) then
      let found := spec.map fun f => lookup f.name fs
      if (spec.zip found).all (fun p => p.1.optional || p.2.isSome) then some found else none
    else none
  | .arr items =>
    if items.length ≤ spec.length ∧ (spec.drop items.length).all (·.optional) then
      some (items.map some ++ (spec.drop items.length).map fun _ => none)
    else none
  | _ => none

/-- One of several names: written as it is, or as an object with this name alone, over
`null`. -/
def choice? : Json → Option String
  | .str name => some name
  | .obj [(name, .null)] => some name
  | _ => none

/-- A list, each of whose items can be read. -/
def list? {α : Type} (item : Json → Option α) (j : Json) : Option (List α) :=
  j.items?.bind (·.mapM item)

end Json
end PriceOverlay
