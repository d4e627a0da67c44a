import PriceOverlay.Proofs.Reconcile.Convergence
/-!
# Drift and rewriting

Whether an existing overlay has drifted is asked of its fields one by one; what would replace it is
put together from the wanted overlay and its labels. Both agree on every field but the owners,
which are compared by uid and replaced as they are.

**Results**
* `drift_iff_rewritten`: what is left alone is what a rewrite would write, apart from the owners.
* `drift_misses_owner`: the owners do make a difference.
-/
namespace PriceOverlay

namespace Overlay

/-- A rewrite changes nothing apart from the owners. -/
theorem content_replacing_eq_iff {d : Overlay} {o : StoredOverlay} (same : o.name = d.name) :
    StoredOverlay.content { d.replacing o with owners := o.owners } = o.content ↔
      d.requirements = o.requirements ∧ d.weight = o.weight ∧ d.price = o.price ∧
        ∀ k v, d.labels.get? k = some v → o.labels.get? k = some v := by
  rw [← Table.union_eq_left_iff]
  simp only [StoredOverlay.content, replacing, toStored, StoredOverlay.mk.injEq, same, true_and]
  constructor
  · rintro ⟨hl, hq, hw, hp⟩
    exact ⟨hq, hw, hp, hl⟩
  · rintro ⟨hq, hw, hp, hl⟩
    exact ⟨hl, hq, hw, hp⟩

/-- **Drift.** An existing overlay is left alone if and only if the overlay that would replace it
is the same in every field other than its version and its owners, and refers to no owner whose uid
is not there already. The one that would replace it is the same throughout if and only if it is
left alone and has exactly the wanted owners. -/
theorem drift_iff_rewritten (d : Overlay) (o : StoredOverlay) (same : o.name = d.name) :
    (d.differs o = false ↔
      StoredOverlay.content { d.replacing o with owners := o.owners } = o.content ∧
        ∀ w ∈ (d.replacing o).owners, ∃ a ∈ o.owners, a.uid = w.uid) ∧
    ((d.replacing o).content = o.content ↔ d.differs o = false ∧ o.owners = d.owners) := by
  have hleft : d.differs o = false ↔
      StoredOverlay.content { d.replacing o with owners := o.owners } = o.content ∧
        ∀ w ∈ (d.replacing o).owners, ∃ a ∈ o.owners, a.uid = w.uid := by
    rw [content_replacing_eq_iff same, differs_eq_false_iff]
    simp only [and_assoc, replacing, toStored]
  refine ⟨hleft, ?_⟩
  constructor
  · intro h
    have howners : d.owners = o.owners := congrArg StoredOverlay.owners h
    refine ⟨hleft.2 ⟨?_, fun w hw => ⟨w, howners ▸ hw, rfl⟩⟩, howners.symm⟩
    rw [← howners]
    exact h
  · rintro ⟨hf, howners⟩
    have h := (hleft.1 hf).1
    rw [howners] at h
    exact h

/-- An overlay that a NodePool owns. -/
def ownedOverlay : Overlay := { planOverlay "m5" 20 with owners := [.nodePool "general" "uid-1"] }

/-- The same as stored, after another writer has added a label and a second owner. -/
def adoptedOverlay : StoredOverlay :=
  { ownedOverlay.toStored with
    labels := ownedOverlay.labels.insert "team" "batch"
    owners := [.nodePool "general" "uid-1", .deployment "cost-reports" "uid-2"]
    version := some "7" }

theorem drift_iff_rewritten_adopted :
    adoptedOverlay.name = ownedOverlay.name ∧ ownedOverlay.differs adoptedOverlay = false ∧
      StoredOverlay.content
          { ownedOverlay.replacing adoptedOverlay with owners := adoptedOverlay.owners } =
        adoptedOverlay.content ∧
      (ownedOverlay.replacing adoptedOverlay).content ≠ adoptedOverlay.content := by
  have hsame : adoptedOverlay.name = ownedOverlay.name := rfl
  have hleft : ownedOverlay.differs adoptedOverlay = false := by decide +kernel
  have howners : adoptedOverlay.owners ≠ ownedOverlay.owners := by decide
  have h := drift_iff_rewritten ownedOverlay adoptedOverlay hsame
  exact ⟨hsame, hleft, (h.1.1 hleft).1, fun he => howners (h.2.1 he).2⟩

/-- What is left alone is not always what a rewrite would write: that drops an owner which is not
wanted. -/
theorem drift_misses_owner :
    ¬ ∀ (d : Overlay) (o : StoredOverlay), o.name = d.name →
      (d.differs o = false ↔ (d.replacing o).content = o.content) := by
  intro h
  have hleft : ownedOverlay.differs adoptedOverlay = false := by decide +kernel
  have hsame := (h ownedOverlay adoptedOverlay rfl).1 hleft
  have howners : ownedOverlay.owners = adoptedOverlay.owners := congrArg StoredOverlay.owners hsame
  exact absurd howners (by decide)

end Overlay
end PriceOverlay
