import PriceOverlay.Proofs.Overlay.Names
import PriceOverlay.Proofs.Reconcile.Isolation
/-!
# A pass among other writers

A pass lists its scope once and then makes the attempts that it planned, while others may write
to the store between any two of them. A create is refused where there is something by then, and an
update where the version is not the one that was listed. A delete goes by the name alone.

So what another writer left under a name after the listing outlives every attempt of the pass but
one: the deletion that was planned for the name from the listing.

**Results**
* `Happening.runAll_own`: with no other writer this is the pass.
* `Happening.get?_run_of_fresh`: an attempt that does not delete leaves what is newer than the
  listing.
* `Happening.get?_runAll_of_written`: what becomes of an overlay that someone else wrote last.
-/
namespace PriceOverlay

/-- What happens to a store while a pass is under way: an attempt of the pass, or a write of
someone else. -/
inductive Happening where
  | own (a : Attempt)
  | foreign (w : Write)

namespace Happening

/-- The name that is written under. -/
def name : Happening → String
  | own a => a.name
  | foreign w => w.name

def run (s : ObjectStore) : Happening → ObjectStore
  | own a => (a.run .none s).2
  | foreign w => (s.write w).2

def runAll (s : ObjectStore) (hs : List Happening) : ObjectStore := hs.foldl run s

def own? : Happening → Option Attempt
  | own a => some a
  | foreign _ => none

/-- Whether the pass deletes the overlay of a name. -/
def deletes (n : String) : Happening → Bool
  | own a => decide (a.verb = .delete ∧ a.name = n)
  | foreign _ => false

end Happening

/-- A pass with other writers in between: its attempts are those planned from the listing at the
start, in their order. -/
def Reconciler.Interleaved (r : Reconciler) (scope : Scope) (desired : List Overlay)
    (s : ObjectStore) (hs : List Happening) : Prop :=
  hs.filterMap Happening.own? = (s.planFor scope (desired.map r.owned)).attempts

namespace Happening

variable {s st : ObjectStore} {n : String} {o : StoredOverlay}

theorem runAll_append_cons (s : ObjectStore) (b : List Happening) (h : Happening)
    (c : List Happening) : runAll s (b ++ h :: c) = runAll (h.run (runAll s b)) c := by
  rw [runAll, List.foldl_append, List.foldl_cons]
  rfl

/-! ## Without other writers -/

theorem attemptAll_eq (s : ObjectStore) (as : List Attempt) :
    (attemptAll .none s as).2 = runAll s (as.map own) := by
  induction as generalizing s with
  | nil => rfl
  | cons a r ih => exact ih (a.run .none s).2

/-- With no other writer, what happens is the pass. -/
theorem runAll_own (r : Reconciler) (scope : Scope) (desired : List Overlay) (s : ObjectStore) :
    runAll s ((s.planFor scope (desired.map r.owned)).attempts.map own) =
      (r.pass scope desired .none s).store := by
  rw [r.pass_store, ObjectStore.passed, attemptAll_eq]

/-! ## What stays under a name -/

/-- What an attempt writes, it writes under its own name. -/
def Named (h : Happening) : Prop := ∀ a, h = own a → a.Named

theorem get?_run_of_ne {h : Happening} (hh : h.Named) (hn : n ≠ h.name) :
    (h.run s).get? n = s.get? n := by
  cases h with
  | own a => exact Attempt.get?_run_of_ne (hh a rfl) hn
  | foreign w => exact ObjectStore.get?_write_of_ne hn

theorem get?_runAll_of_ne {hs : List Happening} (hh : ∀ h ∈ hs, h.Named)
    (hn : ∀ h ∈ hs, h.name ≠ n) (s : ObjectStore) : (runAll s hs).get? n = s.get? n := by
  induction hs generalizing s with
  | nil => rfl
  | cons h r ih =>
    simp only [List.forall_mem_cons] at hh hn
    exact (ih hh.2 hn.2 _).trans (get?_run_of_ne hh.1 hn.1.symm)

/-! ## Versions after the listing -/

theorem lastVersion_le_run (s : ObjectStore) (h : Happening) :
    s.lastVersion ≤ (h.run s).lastVersion := by
  cases h with
  | own a =>
    show s.lastVersion ≤ (a.run .none s).2.lastVersion
    rcases a.run_cases .none s with hs | ⟨w, -, hs⟩
    · exact Nat.le_of_eq (congrArg (·.lastVersion) hs.symm)
    · rw [hs]
      exact s.lastVersion_le_write w
  | foreign w => exact s.lastVersion_le_write w

theorem lastVersion_le_runAll (s : ObjectStore) (hs : List Happening) :
    s.lastVersion ≤ (runAll s hs).lastVersion := by
  induction hs generalizing s with
  | nil => exact Nat.le_refl _
  | cons h r ih => exact Nat.le_trans (lastVersion_le_run s h) (ih _)

/-- What is written after the listing has a version that no listed overlay has. -/
theorem version_ne_of_written {w : Write} (hle : s.lastVersion ≤ st.lastVersion)
    (hw : (st.write w).1 = .ok (some o)) {e : StoredOverlay} (he : s.get? n = some e) :
    o.version ≠ e.version := by
  obtain ⟨k, hk, hv⟩ := s.filed.version he
  rw [ObjectStore.version_of_write hw, hv]
  intro h
  have := Decimal.natural_injective (Option.some.inj h)
  omega

/-! ## Attempts of the plan -/

variable {scope : Scope} {wanted : List Overlay}

theorem eq_delete_of_verb {a : Attempt} (ha : a ∈ (s.planFor scope wanted).attempts)
    (hverb : a.verb = .delete) : ∃ e, a = .delete e := by
  rcases ObjectStore.attempt_cases ha with ⟨d, -, -, rfl⟩ | ⟨d, -, e, -, -, -, rfl⟩ |
    ⟨e, -, -, -, rfl⟩
  · cases hverb
  · cases hverb
  · exact ⟨e, rfl⟩

/-- An attempt of the plan that does not delete leaves an overlay that is newer than the listing:
a create finds the name taken, an update another version. -/
theorem get?_run_of_fresh {a : Attempt} (ha : a ∈ (s.planFor scope wanted).attempts)
    (hfresh : ∀ e, s.get? n = some e → o.version ≠ e.version) (ho : st.get? n = some o)
    (hd : (own a).deletes n = false) : ((own a).run st).get? n = some o := by
  by_cases hn : n = a.name
  · have hrun : (a.run .none st).2 = st := by
      rcases a.run_cases .none st with hs | ⟨w, hw, hs⟩
      · exact hs
      · rw [hs]
        rcases ObjectStore.attempt_cases ha with ⟨d, -, -, rfl⟩ | ⟨d, -, e, he, -, -, rfl⟩ |
          ⟨e, -, -, -, rfl⟩
        · obtain rfl := Attempt.write_of_create hw
          rw [ObjectStore.write_create_of_some (o := d.toStored) (hn ▸ ho)]
        · obtain rfl := Attempt.write_of_update hw
          refine ObjectStore.write_update_of_stale fun b hb => ?_
          cases (hn ▸ ho).symm.trans hb
          exact hfresh e (hn ▸ he)
        · exact absurd ⟨rfl, hn.symm⟩ (of_decide_eq_false hd)
    exact (congrArg (·.get? n) hrun).trans ho
  · exact (Attempt.get?_run_of_ne (Plan.named_attempts _ a ha) hn).trans ho

theorem get?_runAll_of_fresh {hs : List Happening}
    (hown : ∀ a, own a ∈ hs → a ∈ (s.planFor scope wanted).attempts)
    (hforeign : ∀ w, foreign w ∈ hs → w.name ≠ n)
    (hfresh : ∀ e, s.get? n = some e → o.version ≠ e.version) (ho : st.get? n = some o)
    (hd : ∀ h ∈ hs, h.deletes n = false) : (runAll st hs).get? n = some o := by
  induction hs generalizing st with
  | nil => exact ho
  | cons h r ih =>
    simp only [List.forall_mem_cons] at hd
    refine ih (fun a ha => hown a (List.mem_cons_of_mem _ ha))
      (fun w hw => hforeign w (List.mem_cons_of_mem _ hw)) ?_ hd.2
    cases h with
    | own a => exact get?_run_of_fresh (hown a List.mem_cons_self) hfresh ho hd.1
    | foreign w =>
      exact (ObjectStore.get?_write_of_ne (hforeign w List.mem_cons_self).symm).trans ho

/-- Among attempts with distinct names, no other has the name of one of them. -/
theorem name_ne_of_nodup {b c : List Happening} {a : Attempt}
    (h : (((b ++ own a :: c).filterMap own?).map (·.name)).Nodup) {x : Attempt}
    (hx : own x ∈ b ++ c) : x.name ≠ a.name := by
  have hp : (((b ++ own a :: c).filterMap own?).map (·.name)).Perm
      (a.name :: ((b ++ c).filterMap own?).map (·.name)) :=
    (List.perm_middle.filterMap own?).map _
  have hno := (List.nodup_cons.1 (hp.nodup_iff.1 h)).1
  exact fun he => hno (he ▸ List.mem_map.2 ⟨x, List.mem_filterMap.2 ⟨_, hx, rfl⟩, rfl⟩)

/-- Once the pass has deleted the overlay of a name, nothing else touches the name unless someone
else writes under it. -/
theorem get?_runAll_of_deleted {b c : List Happening} {e : StoredOverlay}
    (hown : ∀ a, own a ∈ b ++ own (.delete e) :: c → a.Named)
    (hother : ∀ h ∈ b ++ c, h.name ≠ e.name) :
    (runAll st (b ++ own (.delete e) :: c)).get? e.name = none := by
  have hnamed : ∀ h ∈ b ++ own (.delete e) :: c, h.Named := fun h hh a ha => hown a (ha ▸ hh)
  simp only [List.forall_mem_append, List.forall_mem_cons] at hnamed hother
  have hdeleted : ((own (.delete e)).run (runAll st b)).get? e.name = none := by
    show ((Attempt.delete e).run .none (runAll st b)).2.get? e.name = none
    rw [Attempt.run_of_write (w := .delete e.name) rfl]
    cases h : (runAll st b).get? e.name with
    | none => rw [ObjectStore.write_delete_of_none h, h]
    | some a => exact (ObjectStore.write_delete h).2
  rw [runAll_append_cons, get?_runAll_of_ne hnamed.2.2 hother.2, hdeleted]

/-- **Other writers.** An overlay that someone else was the last to write after the listing is
still as it was left when the pass ends, unless the pass had planned to delete its name and got to
that deletion afterwards; then it is gone. -/
theorem get?_runAll_of_written (r : Reconciler) (scope : Scope) (desired : List Overlay)
    (s : ObjectStore) (before after : List Happening) (w : Write) (o : StoredOverlay)
    (planned : r.Interleaved scope desired s (before ++ foreign w :: after))
    (stored : ((runAll s before).write w).1 = .ok (some o))
    (last : ∀ v, foreign v ∈ after → v.name ≠ w.name) :
    (runAll s (before ++ foreign w :: after)).get? w.name =
      if after.any (deletes w.name) then none else some o := by
  have hrun : runAll s (before ++ foreign w :: after) =
      runAll ((runAll s before).write w).2 after := runAll_append_cons s before _ after
  have hown : ∀ a, own a ∈ after →
      a ∈ (s.planFor scope (desired.map r.owned)).attempts := fun a ha =>
    planned ▸ List.mem_filterMap.2 ⟨own a, by simp [ha], rfl⟩
  rw [hrun]
  split
  · rename_i hany
    obtain ⟨h, hh, hd⟩ := List.any_eq_true.1 hany
    obtain ⟨b, c, rfl⟩ := List.append_of_mem hh
    cases h with
    | foreign v => cases hd
    | own a =>
      obtain ⟨hverb, hn⟩ := of_decide_eq_true hd
      obtain ⟨e, rfl⟩ := eq_delete_of_verb (hown a hh) hverb
      have hnodup : (((before ++ foreign w :: (b ++ own (.delete e) :: c)).filterMap own?).map
          (·.name)).Nodup := by
        rw [planned]
        exact Plan.nodup_names_attempts (s.nodup_names_list scope.selector)
      rw [← List.cons_append, ← List.append_assoc] at hnodup
      rw [← hn]
      refine get?_runAll_of_deleted (fun a ha => Plan.named_attempts _ a (hown a ha)) ?_
      intro h hbc
      cases h with
      | own x =>
        refine name_ne_of_nodup hnodup ?_
        simp only [List.mem_append, List.mem_cons] at hbc ⊢
        exact hbc.imp_left fun h => .inr (.inr h)
      | foreign v =>
        refine fun he => last v ?_ (he.trans hn)
        simp only [List.mem_append, List.mem_cons] at hbc ⊢
        exact hbc.imp_right .inr
  · rename_i hany
    refine get?_runAll_of_fresh hown last (fun e he => ?_)
      (ObjectStore.get?_write_of_ok stored) fun h hh => ?_
    · exact version_ne_of_written (lastVersion_le_runAll s before) stored he
    · by_contra hd
      exact hany (List.any_eq_true.2 ⟨h, hh, Bool.not_eq_false _ ▸ hd⟩)

/-- A store with the overlays for two families. -/
def familiesStore : ObjectStore :=
  ((ObjectStore.empty.seed (planOverlay "c5" 20).toStored).2.seed
    (planOverlay "m5" 20).toStored).2

/-- Someone else takes the overlay of a family over after it was listed: it is marked for another
team and no longer as managed. -/
def released (family version : String) : StoredOverlay :=
  { (planOverlay family 20).toStored with
    version := some version
    labels := (∅ : Labels).insert "team" "batch" }

/-- Both overlays are taken over before the pass gets to write the one and delete the other. -/
def releasing : List Happening :=
  [.foreign (.update (released "m5" "2")), .foreign (.update (released "c5" "1")),
    .own (.update (planOverlay "m5" 5) { (planOverlay "m5" 20).toStored with version := some "2" }),
    .own (.delete { (planOverlay "c5" 20).toStored with version := some "1" })]

theorem interleaved_releasing : Reconciler.Interleaved {} (.commitment .instancePlan)
    [planOverlay "m5" 5] familiesStore releasing := by
  rfl

theorem get?_runAll_of_written_releasing :
    (familiesStore.write (.update (released "m5" "2"))).1 = .ok (some (released "m5" "3")) ∧
      (runAll familiesStore releasing).get? "savings-plan-m5" = some (released "m5" "3") := by
  have hstored : (familiesStore.write (.update (released "m5" "2"))).1 =
      .ok (some (released "m5" "3")) := by rfl
  refine ⟨hstored, ?_⟩
  refine get?_runAll_of_written {} _ _ familiesStore [] _ (.update (released "m5" "2")) _
    interleaved_releasing hstored fun v hv => ?_
  simp only [List.mem_cons, foreign.injEq, reduceCtorEq, List.not_mem_nil, or_false] at hv
  rw [hv]
  decide

/-- Not everything that others leave is kept, not even what they leave without the mark of a managed
overlay: a deletion does not look again. -/
theorem not_all_kept :
    ¬ ∀ (r : Reconciler) (scope : Scope) (desired : List Overlay) (s : ObjectStore)
        (before after : List Happening) (w : Write) (o : StoredOverlay),
      r.Interleaved scope desired s (before ++ foreign w :: after) →
      ((runAll s before).write w).1 = .ok (some o) →
      (∀ v, foreign v ∈ after → v.name ≠ w.name) → o.isManaged = false →
      (runAll s (before ++ foreign w :: after)).get? w.name = some o := by
  intro h
  have hkept := h {} (.commitment .instancePlan) [planOverlay "m5" 5] familiesStore
    (releasing.take 1) (releasing.drop 2) (.update (released "c5" "1")) (released "c5" "4")
    interleaved_releasing (by rfl)
    (fun v hv => by simp [releasing] at hv) (by decide)
  have hgone : (runAll familiesStore releasing).get? "savings-plan-c5" = none := by rfl
  cases hgone.symm.trans hkept

end Happening
end PriceOverlay
