import PriceOverlay.Settings.Setting
/-!
# Paths to settings

A key may lead into tables and lists: `weights.reserved`, `owners[0].name`. A key that is
no such path names one setting as it stands.
-/
namespace PriceOverlay

/-- A step on the way to a setting. -/
inductive KeyStep where
  | key (name : String)
  | item (index : Int)
  deriving DecidableEq, Repr

namespace KeyStep

/-- The characters of a name in a path. -/
def inName (c : Char) : Bool :=
  decide (('a' ≤ c ∧ c ≤ 'z') ∨ ('A' ≤ c ∧ c ≤ 'Z')) || Decimal.isDigit c ||
    c == ' ' || c == '_' || c == '-'

/-- The number between brackets, which spaces may surround. -/
def index? (cs : List Char) : Option Int :=
  match cs.dropWhile (fun c => c == ' ' || c == '\t') with
  | '+' :: _ => none
  | r =>
    Decimal.int64?
      ((r.reverse.dropWhile fun c => c == ' ' || c == '\t').reverse)

/-- The steps after the first one. -/
def rest? (fuel : Nat) (cs : List Char) : Option (List KeyStep) :=
  match fuel with
  | 0 => none
  | fuel + 1 =>
    match cs with
    | [] => some []
    | '.' :: r =>
      let name := r.takeWhile inName
      if name.isEmpty then none
      else (rest? fuel (r.drop name.length)).map (.key (String.ofList name) :: ·)
    | '[' :: r =>
      let inside := r.takeWhile (· != ']')
      match r.drop inside.length, index? inside with
      | ']' :: r, some i => (rest? fuel r).map (.item i :: ·)
      | _, _ => none
    | _ => none

/-- The steps of a path. -/
def path? (cs : List Char) : Option (List KeyStep) :=
  let name := cs.takeWhile inName
  if name.isEmpty then none
  else (rest? (cs.length + 1) (cs.drop name.length)).map (.key (String.ofList name) :: ·)

/-- The steps of a key. -/
def ofKey (key : String) : List KeyStep := (path? key.toList).getD [.key key]

end KeyStep

namespace Setting

/-- Lays a setting over the one at the end of some steps; an item of a list is replaced. -/
def assign (s : Setting) : List KeyStep → Option Setting → Setting
  | [], old => overlaid old s
  | [.item i], old => (old.getD empty).setItem i fun _ => s
  | .key name :: r, old => (old.getD empty).alter name (assign s r)
  | .item i :: r, old => (old.getD empty).setItem i (assign s r)

/-- Sets the setting of a key. -/
def set (old : Setting) (key : String) (s : Setting) : Setting :=
  assign s (KeyStep.ofKey key) (some old)

end Setting
end PriceOverlay
