import Mathlib.Data.List.Induction
import PriceOverlay.Proofs.Overlay.Names
import PriceOverlay.Proofs.Store.Owners
/-!
# What a version stands for

An update names the version that it was made from, so that it does not replace a change that its
writer has not seen. Whatever is put or written into a store gets the next version, and no version
is given out twice, so a version stands for what was stored with it. The one change that keeps the
version is to collect an owner of an overlay that has another one: it takes the owner out, and an
update that was made from the overlay with that owner still succeeds.

**Results**
* `get?_change`: what one change leaves under a name is new, or what was there but for the owner
  that the change collects.
* `eq_without_of_version`: what is found under a name later on, with the version of before.
* `stored_of_version`: what an update replaces that succeeds.
* `version_kept_by_collection`: two contents under one version.
-/
namespace PriceOverlay.ObjectStore

variable {s : ObjectStore} {n : String} {a b : StoredOverlay}

theorem lastVersion_le_change (s : ObjectStore) (c : StoreChange) :
    s.lastVersion ≤ (s.change c).lastVersion := by
  cases c with
  | seed o => exact Nat.le_succ _
  | write w => exact s.lastVersion_le_write w
  | collect uid => exact Nat.le_refl _

theorem lastVersion_le_changes (s : ObjectStore) (cs : List StoreChange) :
    s.lastVersion ≤ (s.changes cs).lastVersion := by
  induction cs generalizing s with
  | nil => exact Nat.le_refl _
  | cons c r ih => exact Nat.le_trans (s.lastVersion_le_change c) (ih _)

/-- The next version of a later state is none that an overlay has now. -/
theorem version_ne_nextVersion (ha : s.get? n = some a) (cs : List StoreChange) :
    a.version ≠ some (s.changes cs).nextVersion := by
  obtain ⟨k, hk, hv⟩ := s.filed.version ha
  have hle := s.lastVersion_le_changes cs
  rw [hv]
  intro h
  have := Decimal.natural_injective (Option.some.inj h)
  omega

/-- What a change leaves under a name has the next version, or was there before and has lost the
owner that the change collects, if that was one of its owners. -/
theorem get?_change (h : s.Covered) {c : StoreChange} (hb : (s.change c).get? n = some b) :
    b.version = some s.nextVersion ∨ ∃ a, s.get? n = some a ∧ b = a.without c.collected := by
  have hsame : s.get? n = some b → c.collected = [] →
      ∃ a, s.get? n = some a ∧ b = a.without c.collected := by
    intro hs hc
    exact ⟨b, hs, by rw [hc, StoredOverlay.without_nil]⟩
  have hput : ∀ owned o, (s.put owned o).2.get? n = some b → c.collected = [] →
      b.version = some s.nextVersion ∨ ∃ a, s.get? n = some a ∧ b = a.without c.collected := by
    intro owned o hb hc
    rw [get?_put] at hb
    split at hb
    · cases hb
      exact .inl rfl
    · exact .inr (hsame hb hc)
  cases c with
  | seed o => exact hput _ _ hb rfl
  | write w =>
    change (s.write w).2.get? n = some b at hb
    rcases s.write_cases w with ⟨-, e, heq⟩ | ⟨o, -, -, heq⟩ | ⟨o, x, -, -, -, heq⟩ |
      ⟨name, x, -, -, heq⟩ <;> rw [heq] at hb
    · exact .inr (hsame hb rfl)
    · exact hput s.owned o hb rfl
    · exact hput (unlink s.owned o.name) o hb rfl
    · replace hb := (s.objects.get?_erase_eq name n).symm.trans hb
      split at hb
      · cases hb
      · exact .inr (hsame hb rfl)
  | collect uid =>
    change (s.collectGarbage uid).2.get? n = some b at hb
    rw [get?_collectGarbage] at hb
    right
    split at hb
    · obtain ⟨a, ha, hb⟩ := Option.bind_eq_some_iff.1 hb
      exact ⟨a, ha, (StoredOverlay.left?_eq_some_iff.1 hb).1⟩
    · rename_i hn
      -- what the index does not list for the owner does not have it
      refine ⟨b, hb, (StoredOverlay.without_eq_self_iff.2 fun uid' hu howned => hn ?_).symm⟩
      obtain rfl := List.mem_singleton.1 hu
      exact h n b hb uid' howned

/-- What has, after some changes, the version that an overlay of its name had, is that overlay
without the owners that were collected in between. -/
theorem eq_without_of_version (h : s.Covered) (ha : s.get? n = some a) (cs : List StoreChange)
    (hb : (s.changes cs).get? n = some b) (hv : b.version = a.version) :
    b = a.without (cs.flatMap (·.collected)) := by
  induction cs using List.reverseRecOn generalizing b with
  | nil =>
    cases ha.symm.trans hb
    exact a.without_nil.symm
  | append_singleton cs c ih =>
    rw [changes_append] at hb
    have hcovered : (s.changes cs).Covered :=
      List.foldlRecOn cs change (motive := Covered) h fun _ h c _ => covered_change h c
    rcases get?_change hcovered hb with hnew | ⟨x, hx, rfl⟩
    · exact absurd (hv.symm.trans hnew) (version_ne_nextVersion ha cs)
    · rw [ih hx hv, StoredOverlay.without_without, List.flatMap_append, List.flatMap_singleton]

/-- An update that succeeds replaces what has the version that it names. -/
theorem get?_of_update {o stored : StoredOverlay} (h : (s.update o).1 = .ok stored) :
    ∃ b, s.get? o.name = some b ∧ b.version = o.version := by
  unfold update at h
  split at h
  · cases h
  · rename_i b hb
    split at h
    · cases h
    · rename_i hv
      exact ⟨b, hb, Decidable.not_not.1 hv⟩

/-- **Versions.** Suppose an overlay was read at some point of a run. Whatever is found under its
name later on, with its version, is what was read, but for the owners that were collected in
between; so it is what was read exactly if none of them was among its owners. And this is what an
update replaces that was made from what was read, if it succeeds. -/
theorem stored_of_version (before between : List StoreChange) (n : String) (a : StoredOverlay)
    (read : (empty.changes before).get? n = some a) :
    let now := empty.changes (before ++ between)
    let left := a.without (between.flatMap (·.collected))
    (∀ b, now.get? n = some b → b.version = a.version → b = left) ∧
    (left = a ↔ ∀ uid, .collect uid ∈ between → ¬ a.OwnedBy uid) ∧
    ∀ o stored, o.name = n → o.version = a.version → (now.update o).1 = .ok stored →
      now.get? n = some left := by
  intro now left
  have hfound : ∀ b, now.get? n = some b → b.version = a.version → b = left := by
    intro b hb
    rw [show now = (empty.changes before).changes between from changes_append ..] at hb
    exact eq_without_of_version (covered_changes before) read between hb
  refine ⟨hfound, StoredOverlay.without_eq_self_iff.trans ?_, fun o stored ho hv hok => ?_⟩
  · have hcollected : ∀ uid, uid ∈ between.flatMap (·.collected) ↔ .collect uid ∈ between := by
      intro uid
      rw [List.mem_flatMap]
      constructor
      · rintro ⟨c, hc, hu⟩
        cases c with
        | collect uid' => exact List.mem_singleton.1 hu ▸ hc
        | _ => cases hu
      · exact fun hc => ⟨_, hc, List.mem_singleton_self _⟩
    simp only [hcollected]
  · obtain ⟨b, hb, hb'⟩ := get?_of_update hok
    rw [ho] at hb
    exact hfound b hb (hb'.trans hv) ▸ hb

/-- An overlay with two owners, as it is stored first. -/
def readOverlay : StoredOverlay :=
  { ownedOverlay "b" ["uid-1", "uid-2"] with version := some "1" }

/-- One of the two owners is collected before another overlay is created. -/
def readBefore : List StoreChange :=
  [.collect "uid-1", .write (.create (ownedOverlay "a" ["uid-3"]))]

theorem stored_of_version_collected :
    let now := empty.changes ([.write (.create readOverlay)] ++ readBefore)
    (empty.changes [.write (.create readOverlay)]).get? "b" = some readOverlay ∧
      (now.update { readOverlay with weight := 7 }).1 =
        .ok { readOverlay with weight := 7, version := some "3" } ∧
      now.get? "b" = some { readOverlay with owners := [.nodePool "general" "uid-2"] } := by
  intro now
  have hread : (empty.changes [.write (.create readOverlay)]).get? "b" = some readOverlay := by
    decide +kernel
  have hok : (now.update { readOverlay with weight := 7 }).1 =
      .ok { readOverlay with weight := 7, version := some "3" } := by decide +kernel
  have h := (stored_of_version [.write (.create readOverlay)] readBefore "b" readOverlay hread).2.2
    { readOverlay with weight := 7 } _ rfl rfl hok
  exact ⟨hread, hok, h.trans (by decide +kernel)⟩

/-- A version does not stand for one content: an overlay keeps it when one of its owners is
collected. -/
theorem version_kept_by_collection :
    ¬ ∀ (before between : List StoreChange) (n : String) (a b : StoredOverlay),
      (empty.changes before).get? n = some a →
      (empty.changes (before ++ between)).get? n = some b →
      b.version = a.version → b.content = a.content := by
  intro h
  have hsame := h [.write (.create readOverlay)] readBefore "b" readOverlay
    { readOverlay with owners := [.nodePool "general" "uid-2"] } (by decide +kernel)
    (by decide +kernel) rfl
  exact absurd (congrArg (·.owners.length) hsame) (by decide)

end PriceOverlay.ObjectStore
