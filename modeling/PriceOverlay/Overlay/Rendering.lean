import PriceOverlay.Capacity.Decision
import PriceOverlay.Overlay.Basic
import PriceOverlay.Preference.Annotation
/-!
# Rendering overlays

Decisions and preferences become overlays. Both carry the labels that mark them as
managed; while disabled, both also require a label that no instance has, so that they
apply to nothing.
-/
namespace PriceOverlay

/-- Whether overlays are rendered so that they apply to nothing. -/
structure Rendering where
  disabled : Bool := false
  deriving DecidableEq, Repr

/-- The name of the overlay for a preference. -/
def preferenceOverlayName (nodePool : String) (number : Nat) : String :=
  Name.sanitize (nodePool ++ "-preference-" ++ Decimal.natural number)

/-- The label requirements of a scope beyond paying as one goes. -/
def DecisionScope.requirements : DecisionScope → List Requirement
  | .global => []
  | .family name region => [.is Label.instanceFamily name, .is Label.region region]
  | .instanceType name region => [.is Label.instanceType name, .is Label.region region]

namespace Rendering

/-- Adds the labels of a managed overlay, and the unsatisfiable requirement if disabled. -/
def finish (r : Rendering) (o : Overlay) : Overlay :=
  let labels := ((o.labels.insert Label.managedBy Label.manager).insert
    Label.kind o.origin.kind.text).insert Label.source o.origin.source
  if r.disabled then
    { o with
      labels := labels.insert Label.disabled "true"
      requirements := .is Label.disabled "true" :: o.requirements }
  else { o with labels }

/-- The overlay for a decision, whether or not it should exist. -/
def decision (r : Rendering) (d : Decision) : Overlay :=
  r.finish
    { name := d.name
      labels := ∅
      requirements := .is Label.capacityType Label.onDemand :: d.scope.requirements
      weight := d.weight
      price := d.price
      origin := .decision d.commitment
      owners := [] }

/-- The overlay for a preference. It applies within the NodePool only, and its weight is
the number of the preference, as far as 32 bits hold it. -/
def preference (r : Rendering) (p : Preference) : Overlay :=
  r.finish
    { name := preferenceOverlayName p.nodePool p.number
      labels := (∅ : Labels).insert Label.preferenceNumber (Decimal.natural p.number)
      requirements := .is Label.nodePool p.nodePool :: p.matchers.map Matcher.requirement
      weight := Word.signed32.clamp p.number
      price := p.adjustment.text
      origin := .preference p.nodePool p.number
      owners := [] }

/-- The overlays that a NodePool asks for; it owns them if its uid is known. -/
def nodePool (r : Rendering) (p : NodePool) : List Overlay :=
  p.declared.preferences.map fun pref =>
    let o := r.preference pref
    match p.uid with
    | some uid => { o with owners := o.owners ++ [.nodePool p.name uid] }
    | none => o

end Rendering
end PriceOverlay
