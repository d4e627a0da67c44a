import PriceOverlay.Capacity.Analysis
import PriceOverlay.Json.Basic
/-!
# Settings of the analysis, written as JSON

The rules of decisions and the freshness ceilings are records in which every field may be
missing. A field that is there must have the right type: an integer will do for a number,
but nothing else for an integer.
-/
namespace PriceOverlay

namespace Json

/-- An integer of 32 bits with sign. -/
def int32? (j : Json) : Option Int := j.intIn? .signed32

/-- An unsigned integer of 64 bits. -/
def word? (j : Json) : Option Nat := (j.intIn? .unsigned64).map Int.toNat

/-- The value of an optional field: the standard one if it is missing. -/
def orElse {α : Type} (standard : α) (read : Json → Option α) : Option Json → Option α
  | none => some standard
  | some j => read j

end Json

namespace Weights

def ofJson? (j : Json) : Option Weights := do
  let [a, b, c] ← j.record? [⟨"compute_savings_plan", true⟩,
    ⟨"ec2_instance_savings_plan", true⟩, ⟨"reserved_instance", true⟩] | none
  let standard : Weights := {}
  pure
    { computePlan := ← Json.orElse standard.computePlan Json.int32? a
      instancePlan := ← Json.orElse standard.instancePlan Json.int32? b
      reserved := ← Json.orElse standard.reserved Json.int32? c }

end Weights

namespace DecisionRules

def ofJson? (j : Json) : Option DecisionRules := do
  let [a, b] ← j.record? [⟨"utilization_threshold", true⟩, ⟨"weights", true⟩] | none
  let standard : DecisionRules := {}
  pure
    { threshold := ← Json.orElse standard.threshold Json.float? a
      weights := ← Json.orElse standard.weights Weights.ofJson? b }

end DecisionRules

namespace Freshness

def ofJson? (j : Json) : Option Freshness := do
  let [a, b] ← j.record? [⟨"savings_plans_max_age_secs", true⟩,
    ⟨"reserved_instances_max_age_secs", true⟩] | none
  let standard : Freshness := {}
  pure
    { savingsPlans := ← Json.orElse standard.savingsPlans Json.word? a
      reservedInstances := ← Json.orElse standard.reservedInstances Json.word? b }

end Freshness
end PriceOverlay
