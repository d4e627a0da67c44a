import PriceOverlay.Controller.Preferences
import PriceOverlay.Proofs.Reconcile.Convergence
import PriceOverlay.Proofs.Reconcile.Divided
import PriceOverlay.Proofs.Store.Owners
/-!
# Cleanup after a NodePool and the collection of its overlays

When a NodePool is deleted, two parties remove its overlays: the cluster collects those that it
owns, and the controller deletes those with its name among their labels as soon as it sees the
event. They come in either order, or only the controller does. A collection changes no labels, and
a deletion changes no owners, so under every name both orders come to the same.

**Results**
* `store_deleted`: an event that deletes a NodePool makes writes that delete, and no others.
* `get?_deleted`: what such an event leaves.
* `get?_collected_deleted`: under every name the order does not matter.
* `cleanup_commutes`: both orders leave the same, and nothing of the NodePool.
-/
namespace PriceOverlay

/-- Whether an overlay is a managed one for a preference of a NodePool. -/
def StoredOverlay.IsPreferenceOf (name : String) (o : StoredOverlay) : Prop :=
  o.isManaged = true ∧ o.labels.get? Label.kind = some OverlayKind.preference.text ∧
    o.labels.get? Label.source = some name

theorem StoredOverlay.isPreferenceOf_iff {name : String} {o : StoredOverlay} :
    o.IsPreferenceOf name ↔ o.matchesSelector (Scope.nodePool name).selector = true := by
  rw [Scope.matches_selector_iff, IsPreferenceOf, isManaged, beq_iff_eq]
  simp only [Scope.nodePool, Option.some.injEq, forall_eq']

namespace PreferenceController

variable {c : PreferenceController} {w : WantedCounts} {s : ObjectStore} {name uid n : String}
  {o : StoredOverlay}

/-! ## The event -/

/-- What an event that deletes a NodePool writes. -/
def removals (s : ObjectStore) (name : String) : List StoreChange :=
  ((s.list (Scope.nodePool name).selector).filter (·.isManaged)).map fun o =>
    .write (.delete o.name)

theorem attemptAll_deleting (s : ObjectStore) (gone : List StoredOverlay) :
    (attemptAll .none s (Plan.deleting gone).attempts).2 =
      s.changes (gone.map fun o => .write (.delete o.name)) := by
  simp only [Plan.attempts, Plan.deleting, List.map_nil, List.nil_append]
  induction gone generalizing s with
  | nil => rfl
  | cons o r ih => exact ih (s.write (.delete o.name)).2

/-- An event that deletes a NodePool makes writes that delete, and no others. -/
theorem store_deleted : (c.deleted name .none w s).2.store = s.changes (removals s name) := by
  have hplan : Plan.compute [] (s.list (Scope.nodePool name).selector) =
      Plan.deleting ((s.list (Scope.nodePool name).selector).filter (·.isManaged)) := by
    simp only [Plan.compute, Plan.deleting, Overlay.firsts, List.foldl_nil, List.filter_nil,
      List.filterMap_nil, List.countP_nil, List.any_nil, Bool.not_false, Bool.and_true]
  rw [removals, ← attemptAll_deleting, ← hplan]
  rfl

theorem indexed_deleted (h : s.Indexed) : (c.deleted name .none w s).2.store.Indexed := by
  rw [store_deleted]
  refine List.foldlRecOn _ ObjectStore.change (motive := ObjectStore.Indexed) h
    fun t ht change hmem => ht.change ?_
  obtain ⟨o, -, rfl⟩ := List.mem_map.1 hmem
  rfl

theorem get?_deleted : (c.deleted name .none w s).2.store.get? n = some o ↔
    s.get? n = some o ∧ ¬ o.IsPreferenceOf name := by
  rw [StoredOverlay.isPreferenceOf_iff]
  exact Reconciler.get?_of_unwanted (fun _ hd => absurd hd List.not_mem_nil)

theorem errors_deleted (c : PreferenceController) (name : String) (w : WantedCounts)
    (s : ObjectStore) :
    ∃ counts, (c.deleted name .none w s).2.answer = .ok counts ∧ counts.errors = 0 :=
  ⟨_, c.reconciler.pass_answer (.nodePool name) [] s,
    errors_apply (fun _ hd => absurd hd List.not_mem_nil) (fun _ hd => absurd hd List.not_mem_nil) _⟩

/-! ## The event and a collection -/

/-- Collecting an owner does not change what an overlay is a preference of. -/
theorem isPreferenceOf_without {uids : List String} :
    (o.without uids).IsPreferenceOf name ↔ o.IsPreferenceOf name := Iff.rfl

/-- No preference of the NodePool comes from a collection. -/
theorem not_isPreferenceOf_of_collected (h : s.Indexed)
    (hno : ∀ n o, s.get? n = some o → ¬ o.IsPreferenceOf name)
    (ho : (s.collectGarbage uid).2.get? n = some o) : ¬ o.IsPreferenceOf name := by
  obtain ⟨a, ha, rfl, -⟩ := h.get?_collectGarbage_eq_some_iff.1 ho
  exact isPreferenceOf_without.not.2 (hno n a ha)

/-- Under every name the order of the event and a collection does not matter. -/
theorem get?_collected_deleted (h : s.Indexed) (uid n : String) :
    (c.deleted name .none w (s.collectGarbage uid).2).2.store.get? n =
      ((c.deleted name .none w s).2.store.collectGarbage uid).2.get? n := by
  refine Option.ext fun b => ?_
  rw [get?_deleted, h.get?_collectGarbage_eq_some_iff,
    (indexed_deleted h).get?_collectGarbage_eq_some_iff]
  constructor
  · rintro ⟨⟨a, ha, rfl, hkept⟩, hno⟩
    exact ⟨a, get?_deleted.2 ⟨ha, isPreferenceOf_without.not.1 hno⟩, rfl, hkept⟩
  · rintro ⟨a, ha, rfl, hkept⟩
    obtain ⟨ha, hno⟩ := get?_deleted.1 ha
    exact ⟨⟨a, ha, rfl, hkept⟩, isPreferenceOf_without.not.2 hno⟩

/-- **Cleanup.** After any writes and collections, let a NodePool be deleted, and let some owner be
collected before the controller handles the event, after it, or not at all. The event counts no
errors, and nothing is left that is a preference of the NodePool. In both orders the overlays are
the same, and so is the index of owners. -/
theorem cleanup_commutes (cs : List StoreChange) (unseeded : ∀ c ∈ cs, c.isSeed = false)
    (c : PreferenceController) (p : NodePool) (w : WantedCounts) (uid : String) :
    let s := ObjectStore.empty.changes cs
    let collected := fun s : ObjectStore => (s.collectGarbage uid).2
    let handled := fun s : ObjectStore => (c.handle (.deleted p) .none w s).2
    (∀ found ∈ [s, collected s],
      ∃ counts, (handled found).answer = .ok counts ∧ counts.errors = 0) ∧
    (∀ left ∈ [(handled s).store, (handled (collected s)).store, collected (handled s).store],
      ∀ n o, left.get? n = some o → ¬ o.IsPreferenceOf p.name) ∧
    (handled (collected s)).store.objects = (collected (handled s).store).objects ∧
    (handled (collected s)).store.owned = (collected (handled s).store).owned := by
  intro s collected handled
  have hs : s.Indexed := ObjectStore.indexed_changes unseeded
  have hget : ∀ n, (handled (collected s)).store.get? n = (collected (handled s).store).get? n :=
    get?_collected_deleted hs uid
  have hgone : ∀ found n o, (handled found).store.get? n = some o → ¬ o.IsPreferenceOf p.name :=
    fun found n o ho => (get?_deleted.1 ho).2
  refine ⟨fun found _ => errors_deleted c p.name w found, ?_, Table.ext_get? hget,
    (indexed_deleted (hs.collectGarbage uid)).owned_eq ((indexed_deleted hs).collectGarbage uid)
      hget⟩
  simp only [List.forall_mem_cons, List.not_mem_nil, false_imp_iff, implies_true, and_true]
  exact ⟨hgone s, hgone _, fun n o ho =>
    not_isPreferenceOf_of_collected (indexed_deleted hs) (hgone s) ho⟩

/-- An overlay for a preference of a NodePool, with owners of some uids. -/
def sharedPreference (pool name : String) (uids : List String) : StoredOverlay :=
  { ObjectStore.ownedOverlay name uids with labels := (Scope.nodePool pool).selector }

/-- Two overlays of a NodePool, one of which it owns alone, one of another NodePool, and one that
is not managed. -/
def sharedPreferences : List StoreChange :=
  [.write (.create (sharedPreference "general" "general-1" ["uid-1"])),
    .write (.create (sharedPreference "general" "general-2" ["uid-2", "uid-1"])),
    .write (.create (sharedPreference "spot" "spot-1" ["uid-1", "uid-3"])),
    .write (.create (ObjectStore.ownedOverlay "team" ["uid-1"]))]

theorem cleanup_commutes_shared :
    let s := ObjectStore.empty.changes sharedPreferences
    let collected := fun s : ObjectStore => (s.collectGarbage "uid-1").2
    let handled := fun s : ObjectStore =>
      (handle {} (.deleted ⟨"general", some "uid-1", ∅⟩) .none ∅ s).2
    ((∀ c ∈ sharedPreferences, c.isSeed = false) ∧
        (collected s).objects.keys = ["general-2", "spot-1"] ∧
        (handled s).store.objects.keys = ["spot-1", "team"] ∧
        (handled (collected s)).store.objects.keys = ["spot-1"]) ∧
      (handled (collected s)).store.objects = (collected (handled s).store).objects := by
  intro s collected handled
  have unseeded : ∀ c ∈ sharedPreferences, c.isSeed = false := by decide
  have h := cleanup_commutes sharedPreferences unseeded {} ⟨"general", some "uid-1", ∅⟩ ∅ "uid-1"
  exact ⟨⟨unseeded, by decide +kernel, by decide +kernel, by decide +kernel⟩, h.2.2.1⟩

end PreferenceController
end PriceOverlay
