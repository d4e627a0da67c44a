import PriceOverlay.Cluster.NodeOverlay
/-!
# Overlays to the cluster and back

The controller works on stored overlays, the cluster has their cluster form. An overlay goes there
and back unchanged if none of its comparisons is a known one that is spelled out as unknown, and
reading never makes such a comparison. The other way round the cluster form may lose what the
controller does not go by: that a reference blocks a deletion, annotations, and whether labels,
owners, price and weight were empty or not there.

**Results**
* `Comparison.isCanonical_iff`: the comparisons that are read back from their written form.
* `toStored_ofStored_toStored`: what is written back is read as the same overlay again.
* `conversion_faithful`: what there and back keeps, from either side.
-/
namespace PriceOverlay

namespace Comparison

/-- The comparisons that have a meaning. -/
def known : List Comparison := [isIn, notIn, above, below, present, absent]

/-- An unknown comparison is not written like a known one. -/
def IsCanonical : Comparison → Prop
  | other s => ∀ c ∈ known, c.text ≠ s
  | _ => True

theorem ofText_text_of_mem_known : ∀ c ∈ known, ofText c.text = c := by decide

/-- A text that no known comparison has is kept. -/
theorem ofText_of_unknown {s : String} (h : ∀ c ∈ known, c.text ≠ s) : ofText s = other s := by
  simp only [known, List.forall_mem_cons, text] at h
  obtain ⟨hin, hnotIn, habove, hbelow, hpresent, habsent, -⟩ := h
  simp only [ofText, hin.symm, hnotIn.symm, habove.symm, hbelow.symm, hpresent.symm, habsent.symm,
    if_false]

/-- Reading gives a known comparison, or an unknown one with a text of its own. -/
theorem isCanonical_ofText (s : String) : (ofText s).IsCanonical := by
  by_cases h : ∀ c ∈ known, c.text ≠ s
  · rw [ofText_of_unknown h]
    exact h
  · obtain ⟨c, hc, rfl⟩ : ∃ c ∈ known, c.text = s := by simpa using h
    have hcanonical : ∀ c ∈ known, c.IsCanonical := by simp [known, IsCanonical]
    rw [ofText_text_of_mem_known c hc]
    exact hcanonical c hc

theorem isCanonical_iff {c : Comparison} : c.IsCanonical ↔ ofText c.text = c := by
  constructor
  · intro h
    cases c with
    | other s => exact ofText_of_unknown h
    | _ => exact ofText_text_of_mem_known _ (by decide)
  · intro h
    exact h ▸ isCanonical_ofText c.text

instance (c : Comparison) : Decidable c.IsCanonical := decidable_of_iff _ isCanonical_iff.symm

end Comparison

namespace Cluster

namespace OwnerReference

/-- What tells the owner: the version and the kind of its record, its name and its uid. -/
def identity (w : OwnerReference) : String × String × String × String :=
  (w.apiVersion, w.kind, w.name, w.uid)

theorem identity_ofOwner_owner (w : OwnerReference) : (ofOwner w.owner).identity = w.identity := rfl

end OwnerReference

namespace NodeOverlay

/-- The owners in order; none if there is no list of them. -/
def owners (n : NodeOverlay) : List OwnerReference := n.metadata.ownerReferences.getD []

/-- The labels; none if there is no table of them. -/
def labels (n : NodeOverlay) : Labels := n.metadata.labels.getD ∅

/-- Another cluster form that is the same for the controller, and applies to the same instances. -/
structure Keeps (n back : NodeOverlay) : Prop where
  name : back.metadata.name = n.metadata.name
  labels : back.labels = n.labels
  version : back.metadata.resourceVersion = n.metadata.resourceVersion
  owners : back.owners.map OwnerReference.identity = n.owners.map OwnerReference.identity
  requirements : back.requirements = n.requirements

/-- No list of owners is written for none, and none is read from no list. -/
theorem owners_ofStored_eq (o : StoredOverlay) :
    (ofStored o).owners = o.owners.map OwnerReference.ofOwner := by
  unfold owners ofStored
  dsimp only
  split
  · rename_i h
    rw [List.isEmpty_iff.1 h]
    rfl
  · rfl

theorem requirements_ofStored_toStored (n : NodeOverlay) :
    (ofStored n.toStored).requirements = n.requirements := by
  calc
    (ofStored n.toStored).requirements
      = n.requirements.map fun r => NodeRequirement.ofRequirement r.requirement := List.map_map
    _ = n.requirements.map id :=
      List.map_congr_left fun r _ => NodeRequirement.ofRequirement_requirement r
    _ = n.requirements := List.map_id _

theorem identities_ofStored_toStored (n : NodeOverlay) :
    (ofStored n.toStored).owners.map OwnerReference.identity =
      n.owners.map OwnerReference.identity := by
  rw [owners_ofStored_eq]
  calc
    (n.toStored.owners.map OwnerReference.ofOwner).map OwnerReference.identity
      = n.owners.map fun w => (OwnerReference.ofOwner w.owner).identity := by
        simp only [toStored, owners, List.map_map, Function.comp_def]
    _ = n.owners.map OwnerReference.identity :=
      List.map_congr_left fun w _ => OwnerReference.identity_ofOwner_owner w

/-- What was read is written so that it is read again as it is. -/
theorem toStored_ofStored_toStored (n : NodeOverlay) :
    (ofStored n.toStored).toStored = n.toStored := by
  refine toStored_ofStored _ fun r hr => ?_
  obtain ⟨q, -, rfl⟩ := List.mem_map.1 hr
  exact Comparison.isCanonical_iff.1 (Comparison.isCanonical_ofText q.operator)

/-- **Conversion.** A stored overlay with canonical comparisons goes to the cluster and back
unchanged. The cluster form of an object with a name keeps, when it is read and written back, its
name, labels, version, the identities of its owners, and every requirement as it was spelled. -/
theorem conversion_faithful :
    (∀ o : StoredOverlay, (∀ r ∈ o.requirements, r.comparison.IsCanonical) →
      (ofStored o).toStored = o) ∧
    ∀ (n : NodeOverlay) (name : String), n.metadata.name = some name →
      n.Keeps (ofStored n.toStored) := by
  constructor
  · intro o h
    exact toStored_ofStored o fun r hr => Comparison.isCanonical_iff.1 (h r hr)
  · intro n name hname
    refine ⟨?_, rfl, rfl, identities_ofStored_toStored n, requirements_ofStored_toStored n⟩
    show some n.metadata.objectName = n.metadata.name
    rw [Metadata.objectName, hname]
    rfl

/-- An overlay with an unknown comparison and an owner, as the controller has it. -/
def foreignStored : StoredOverlay where
  name := "general-preference-1"
  labels := (∅ : Labels).insert "team" "batch"
  owners := [.nodePool "general" "uid-1"]
  version := some "7"
  requirements := [⟨"topology.kubernetes.io/zone", .other "Near", ["a"]⟩, .is "team" "batch"]
  weight := 3
  price := "-5%"

/-- An overlay of someone else: no labels, an owner that blocks its deletion and that nothing is
said of as to managing, a comparison without a meaning, and neither a price nor a weight. -/
def foreignForm : NodeOverlay where
  metadata :=
    { name := some "spot"
      resourceVersion := some "12"
      ownerReferences := some [⟨"v1", "ConfigMap", "prices", "uid-9", none, some true⟩] }
  requirements := [⟨"team", "in", ["batch"]⟩, ⟨"topology.kubernetes.io/zone", "Exists", []⟩]
  price := none
  weight := none

theorem conversion_faithful_foreign :
    (ofStored foreignStored).toStored = foreignStored ∧
      (ofStored foreignForm.toStored).requirements = foreignForm.requirements :=
  ⟨conversion_faithful.1 foreignStored (by decide),
    (conversion_faithful.2 foreignForm "spot" rfl).requirements⟩

end NodeOverlay
end Cluster
end PriceOverlay
