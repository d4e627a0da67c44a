import PriceOverlay.Cluster.Metadata
import PriceOverlay.Overlay.Basic
/-!
# NodeOverlays

The form that an overlay has in a cluster. Comparisons are kept as they are written there,
so that an overlay with one that is not known is written back as it was read.

**Results**
* `toStored_ofStored`: an overlay with readable comparisons survives the cluster form.
-/
namespace PriceOverlay.Cluster

/-- A requirement, with its comparison as it is written. -/
structure NodeRequirement where
  key : String
  operator : String
  values : List String
  deriving DecidableEq, Repr

namespace NodeRequirement

def ofJson? (j : Json) : Option NodeRequirement := do
  let [key, operator, values] ←
    j.record? [⟨"key", false⟩, ⟨"operator", false⟩, ⟨"values", true⟩] | none
  let values ← match values with
    | none => some []
    | some v => v.list? Json.str?
  pure ⟨← (← key).str?, ← (← operator).str?, values⟩

def json (r : NodeRequirement) : Json :=
  .obj [("key", .str r.key), ("operator", .str r.operator), ("values", .arr (r.values.map .str))]

def ofRequirement (r : Requirement) : NodeRequirement := ⟨r.key, r.comparison.text, r.values⟩

def requirement (r : NodeRequirement) : Requirement := ⟨r.key, .ofText r.operator, r.values⟩

theorem ofRequirement_requirement (r : NodeRequirement) : ofRequirement r.requirement = r := by
  simp [ofRequirement, requirement, Comparison.text_ofText]

end NodeRequirement

structure NodeOverlay where
  metadata : Metadata
  requirements : List NodeRequirement
  price : Option String
  weight : Option Int

namespace NodeOverlay

def apiVersion : String := "karpenter.sh/v1alpha1"
def kind : String := "NodeOverlay"

/-- A weight: an integer of 32 bits with sign. -/
def weight? (j : Json) : Option Int := j.intIn? .signed32

/-- A field of the specification that may be missing or `null`. -/
def optional? {α : Type} (read : Json → Option α) (j : Option Json) : Option (Option α) :=
  match j.bind Json.present? with
  | none => some none
  | some j => (read j).map some

/-- Reads the cluster form; its version and its kind are not looked at. -/
def ofJson? (j : Json) : Option NodeOverlay := do
  let [metadata, spec] ← j.record? [⟨"metadata", false⟩, ⟨"spec", false⟩] | none
  let [requirements, price, weight] ← (← spec).record?
    [⟨"requirements", true⟩, ⟨"priceAdjustment", true⟩, ⟨"weight", true⟩] | none
  let requirements ← match requirements with
    | none => some []
    | some r => r.list? NodeRequirement.ofJson?
  pure
    { metadata := ← Metadata.ofJson? (← metadata)
      requirements
      price := ← optional? Json.str? price
      weight := ← optional? weight? weight }

def json (o : NodeOverlay) : Json :=
  .obj [("apiVersion", .str apiVersion), ("kind", .str kind), ("metadata", o.metadata.json),
    ("spec", present
      [("requirements", some (.arr (o.requirements.map NodeRequirement.json))),
        ("priceAdjustment", o.price.map .str),
        ("weight", o.weight.map .int)])]

/-- The cluster form of an overlay. -/
def ofStored (o : StoredOverlay) : NodeOverlay where
  metadata :=
    { name := some o.name
      labels := some o.labels
      ownerReferences :=
        if o.owners.isEmpty then none else some (o.owners.map OwnerReference.ofOwner)
      resourceVersion := o.version }
  requirements := o.requirements.map NodeRequirement.ofRequirement
  price := some o.price
  weight := some o.weight

/-- The overlay that a cluster form stands for. -/
def toStored (o : NodeOverlay) : StoredOverlay where
  name := o.metadata.objectName
  labels := o.metadata.labels.getD ∅
  owners := (o.metadata.ownerReferences.getD []).map OwnerReference.owner
  version := o.metadata.resourceVersion
  requirements := o.requirements.map NodeRequirement.requirement
  weight := o.weight.getD 0
  price := o.price.getD ""

theorem owners_ofStored (o : StoredOverlay) : (ofStored o).toStored.owners = o.owners := by
  simp only [toStored, ofStored]
  split
  · simp_all
  · simp [Function.comp_def, OwnerReference.owner_ofOwner]

/-- An overlay survives if reading each written comparison gives the comparison again. -/
theorem toStored_ofStored (o : StoredOverlay)
    (h : ∀ r ∈ o.requirements, Comparison.ofText r.comparison.text = r.comparison) :
    (ofStored o).toStored = o := by
  have hr : (ofStored o).toStored.requirements = o.requirements := by
    simp only [toStored, ofStored, List.map_map]
    refine (List.map_congr_left fun r hr => ?_).trans (List.map_id _)
    simp [NodeRequirement.ofRequirement, NodeRequirement.requirement, h r hr]
  have ho := owners_ofStored o
  cases o
  simp_all [toStored, ofStored, Metadata.objectName]

end NodeOverlay
end PriceOverlay.Cluster
