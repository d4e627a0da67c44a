import PriceOverlay.Capacity.Commitment
import PriceOverlay.Decimal.Reader
import PriceOverlay.Overlay.Label
import PriceOverlay.Overlay.Requirement
import PriceOverlay.Text.Blank
/-!
# Overlays

An overlay changes the price of the instances that meet its requirements. `Overlay` is
one that is wanted, with the decision or preference it comes from; `StoredOverlay` is one
that a store holds, with its version. `Overlay.check` tells whether a wanted overlay may
be written.
-/
namespace PriceOverlay

/-- The two sorts of overlays this controller writes. -/
inductive OverlayKind where
  | costDecision
  | preference
  deriving DecidableEq, Repr

namespace OverlayKind

/-- The value of the label `Label.kind`. -/
def text : OverlayKind → String
  | costDecision => "cost-decision"
  | preference => "preference"

def ofText? (s : String) : Option OverlayKind :=
  if s = "cost-decision" then some costDecision
  else if s = "preference" then some preference
  else none

theorem ofText?_text (k : OverlayKind) : ofText? k.text = some k := by
  cases k <;> decide

end OverlayKind

/-- Where an overlay comes from. -/
inductive Origin where
  | decision (commitment : Commitment)
  | preference (nodePool : String) (number : Nat)
  deriving DecidableEq, Repr

namespace Origin

def kind : Origin → OverlayKind
  | decision _ => .costDecision
  | preference _ _ => .preference

/-- The value of the label `Label.source`. -/
def source : Origin → String
  | decision c => c.text
  | preference nodePool _ => nodePool

end Origin

/-- An overlay as it is wanted. -/
structure Overlay where
  name : String
  labels : Labels
  requirements : List Requirement
  weight : Int
  price : String
  origin : Origin
  owners : List Owner
  deriving DecidableEq

/-- An overlay as a store holds it. -/
structure StoredOverlay where
  name : String
  labels : Labels
  owners : List Owner
  version : Option String
  requirements : List Requirement
  weight : Int
  price : String
  deriving DecidableEq

/-- Labels with the values they must have. -/
abbrev Selector := Labels

namespace StoredOverlay

/-- Whether every label of the selector is there with its value. -/
def matchesSelector (o : StoredOverlay) (s : Selector) : Bool :=
  s.entries.all fun e => o.labels.get? e.1 == some e.2

/-- Whether this controller wrote the overlay. -/
def isManaged (o : StoredOverlay) : Bool := o.labels.get? Label.managedBy == some Label.manager

end StoredOverlay

/-- Why an overlay may not be written. -/
inductive OverlayFlaw where
  | emptyName
  | noRequirements (name : String)
  | badRequirement (name key reason : String)
  | badPrice (name value : String)
  deriving DecidableEq, Repr

namespace OverlayFlaw

def message : OverlayFlaw → String
  | emptyName => "overlay name is empty"
  | noRequirements name => "overlay '" ++ name ++ "' has no requirements"
  | badRequirement name key reason =>
    "overlay '" ++ name ++ "' requirement on '" ++ key ++ "' is invalid: " ++ reason
  | badPrice name value =>
    "overlay '" ++ name ++ "' has malformed price adjustment '" ++ value ++ "'"

end OverlayFlaw

namespace Requirement

/-- What is wrong with a requirement, if anything is. -/
def fault? (r : Requirement) : Option String :=
  if r.key.isEmpty then some "empty key"
  else match r.comparison with
    | .isIn | .notIn =>
      if r.values.isEmpty then some "at least one value is required" else none
    | .above | .below =>
      match r.values with
      | [v] =>
        if (Decimal.int64? v.toList).isSome then none
        else some "exactly one integer value is required"
      | _ => some "exactly one integer value is required"
    | .present | .absent =>
      if r.values.isEmpty then none else some "values must be empty"
    | .other text => some ("unsupported operator '" ++ text ++ "'")

end Requirement

namespace Overlay

/-- A price adjustment ends in a percent sign; before it stand an optional sign and digits
with at most one point among them. -/
def isPrice (s : String) : Bool :=
  match Text.before? ['%'] s.toList with
  | none => false
  | some body =>
    let magnitude := match body with
      | '+' :: r => r
      | '-' :: r => r
      | r => r
    !magnitude.isEmpty && magnitude.head? != some '.' && magnitude.getLast? != some '.' &&
      magnitude.all (fun c => Decimal.isDigit c || c == '.') &&
      decide (magnitude.count '.' ≤ 1)

/-- The first thing wrong with the overlay, if anything is. -/
def check (o : Overlay) : Except OverlayFlaw Unit :=
  if o.name.isEmpty then .error .emptyName
  else if o.requirements.isEmpty then .error (.noRequirements o.name)
  else
    match o.requirements.findSome? (fun r => r.fault?.map fun f => (r.key, f)) with
    | some (key, reason) => .error (.badRequirement o.name key reason)
    | none => if isPrice o.price then .ok () else .error (.badPrice o.name o.price)

/-- The overlay as it is first written. -/
def toStored (o : Overlay) : StoredOverlay where
  name := o.name
  labels := o.labels
  owners := o.owners
  version := none
  requirements := o.requirements
  weight := o.weight
  price := o.price

end Overlay
end PriceOverlay
