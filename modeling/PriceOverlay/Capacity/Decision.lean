import PriceOverlay.Capacity.Aggregate
import PriceOverlay.Decimal.Text
import PriceOverlay.Overlay.Name
/-!
# Decisions

A decision says whether the overlay for one key of committed capacity should exist: for
savings plans while they are used below the threshold and something remains, for reserved
instances while there are any.
-/
namespace PriceOverlay

/-- The weights of overlays, by commitment; the more specific commitment weighs more. -/
structure Weights where
  computePlan : Int := 10
  instancePlan : Int := 20
  reserved : Int := 30
  deriving DecidableEq, Repr

namespace Weights

def of (w : Weights) : Commitment → Int
  | .computePlan => w.computePlan
  | .instancePlan => w.instancePlan
  | .reserved => w.reserved

end Weights

/-- What decisions go by. -/
structure DecisionRules where
  /-- The use, in percent, from which on a plan counts as used up. -/
  threshold : Float := 95
  weights : Weights := {}
  deriving DecidableEq

/-- The instances a decision is about. -/
inductive DecisionScope where
  | global
  | family (family region : String)
  | instanceType (instanceType region : String)
  deriving DecidableEq, Repr

/-- The verdict on one key. -/
structure Decision where
  name : String
  commitment : Commitment
  scope : DecisionScope
  shouldExist : Bool
  reason : String
  weight : Int
  price : String
  deriving DecidableEq, Repr

/-- Committed capacity costs nothing more when it is used. -/
def freePrice : String := "-100%"

/-- The name of the overlay for a key of savings plans. -/
def PlanKey.overlayName : PlanKey → String
  | .global => "savings-plan-global"
  | .regional family region => Name.sanitize ("savings-plan-" ++ family ++ "-" ++ region)

/-- The name of the overlay for a key of reserved instances. -/
def ReservedKey.overlayName (k : ReservedKey) : String :=
  Name.sanitize ("reserved-instance-" ++ k.instanceType ++ "-" ++ k.region)

/-- The commitment that a key of savings plans belongs to. -/
def PlanKey.commitment : PlanKey → Commitment
  | .global => .computePlan
  | .regional _ _ => .instancePlan

/-- The instances that a key of savings plans covers. -/
def PlanKey.scope : PlanKey → DecisionScope
  | .global => .global
  | .regional family region => .family family region

namespace DecisionRules

/-- Whether plans so used, with so much remaining, still offer capacity, and why. The
threshold itself counts as used up, and less than nothing remaining counts as nothing. -/
def planVerdict (r : DecisionRules) (t : PlanTotal) : Bool × String :=
  if r.threshold ≤ t.utilization then
    (false, "utilization " ++ Decimal.tenths t.utilization ++ "% at/above threshold " ++
      Decimal.tenths r.threshold ++ "%")
  else if t.remaining ≤ 0 then (false, "no remaining capacity")
  else
    (true, "utilization " ++ Decimal.tenths t.utilization ++ "% below threshold " ++
      Decimal.tenths r.threshold ++ "%, capacity available")

/-- The decision on a key of savings plans. -/
def plan (r : DecisionRules) (k : PlanKey) (t : PlanTotal) : Decision where
  name := k.overlayName
  commitment := k.commitment
  scope := k.scope
  shouldExist := (r.planVerdict t).1
  reason := (r.planVerdict t).2
  weight := r.weights.of k.commitment
  price := freePrice

/-- The decision on a key of reserved instances. -/
def reserved (r : DecisionRules) (k : ReservedKey) (count : Nat) : Decision where
  name := k.overlayName
  commitment := .reserved
  scope := .instanceType k.instanceType k.region
  shouldExist := decide (0 < count)
  reason :=
    if 0 < count then Decimal.natural count ++ " reserved instances available"
    else "no reserved instances available"
  weight := r.weights.of .reserved
  price := freePrice

end DecisionRules
end PriceOverlay
