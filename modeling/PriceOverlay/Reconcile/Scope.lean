import PriceOverlay.Overlay.Basic
/-!
# Scopes

A pass is responsible for one scope: the managed overlays of one kind, of one source or
of all.
-/
namespace PriceOverlay

structure Scope where
  kind : OverlayKind
  source : Option String
  deriving DecidableEq, Repr

namespace Scope

/-- The overlays of decisions on one commitment. -/
def commitment (c : Commitment) : Scope := ⟨.costDecision, some c.text⟩

/-- The preference overlays of one NodePool. -/
def nodePool (name : String) : Scope := ⟨.preference, some name⟩

/-- The labels that overlays of the scope have. -/
def selector (s : Scope) : Selector :=
  let base := (∅ : Selector).insert Label.managedBy Label.manager |>.insert Label.kind s.kind.text
  match s.source with
  | some source => base.insert Label.source source
  | none => base

/-- Kind and source: `preference/general`, or `preference/*` for every source. -/
def text (s : Scope) : String := s.kind.text ++ "/" ++ s.source.getD "*"

end Scope
end PriceOverlay
