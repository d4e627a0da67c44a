import PriceOverlay.Proofs.Reconcile.Plan
import PriceOverlay.Proofs.Store.Writes
/-!
# Attempts one after the other

An attempt touches only the overlay of its own name, and how it goes depends only on what
is stored there. So among attempts with distinct names each goes as if it were made alone.

**Results**
* `get?_attemptAll_of_not_mem`: what no attempt names stays as it is.
* `attemptAll_own`: what one of the attempts does under its name.
* `attemptAll_outcomes`: every outcome is that of an attempt made alone.
* `run_create`, `run_update`, `run_delete`: the attempts of a plan, one by one.
* `tally_eq_countP`: the counts of a plan are counted over its outcomes.
* `get?_deleting`: what is left by a plan that only deletes.
-/
namespace PriceOverlay

namespace Attempt

/-- The attempt to create a wanted overlay. -/
def create (d : Overlay) : Attempt :=
  ⟨.create, d.name, d.check.map fun _ => .create d.toStored⟩

/-- The attempt to write a wanted overlay over a stored one. -/
def update (d : Overlay) (o : StoredOverlay) : Attempt :=
  ⟨.update, d.name, d.check.map fun _ => .update (d.replacing o)⟩

/-- The attempt to delete a stored overlay. -/
def delete (o : StoredOverlay) : Attempt := ⟨.delete, o.name, .ok (.delete o.name)⟩

/-- What an attempt writes, it writes under its own name. -/
def Named (a : Attempt) : Prop := ∀ w, a.write = .ok w → w.name = a.name

end Attempt

theorem Plan.mem_attempts {p : Plan} {a : Attempt} :
    a ∈ p.attempts ↔ (∃ d ∈ p.creates, a = .create d) ∨
      (∃ d o, (d, o) ∈ p.updates ∧ a = .update d o) ∨ ∃ o ∈ p.deletes, a = .delete o := by
  simp only [attempts, List.mem_append, List.mem_map, Prod.exists, or_assoc, Attempt.create,
    Attempt.update, Attempt.delete, eq_comm]

theorem Plan.named_attempts (p : Plan) : ∀ a ∈ p.attempts, a.Named := by
  intro a ha w hw
  rcases mem_attempts.1 ha with ⟨d, -, rfl⟩ | ⟨d, o, -, rfl⟩ | ⟨o, -, rfl⟩
  · simp only [Attempt.create] at hw ⊢
    cases hc : d.check <;> rw [hc] at hw <;> cases hw
    rfl
  · simp only [Attempt.update] at hw ⊢
    cases hc : d.check <;> rw [hc] at hw <;> cases hw
    rfl
  · cases hw
    rfl

namespace Attempt

variable {faults : StoreFaults} {s : ObjectStore}

/-! ## One attempt -/

theorem get?_run_of_ne {a : Attempt} (ha : a.Named) {n : String} (h : n ≠ a.name) :
    (a.run faults s).2.get? n = s.get? n := by
  unfold run runOn
  split
  · rfl
  · rename_i w hw
    exact ObjectStore.get?_writeVia_of_ne (ha w hw ▸ h)

theorem run_flawed {a : Attempt} {flaw : OverlayFlaw} (h : a.write = .error flaw) :
    a.run faults s = (.error flaw.message, s) := by
  simp only [run, runOn, h]

theorem run_of_write {a : Attempt} {w : Write} (h : a.write = .ok w) :
    a.run .none s = (settled a.verb (s.write w).1, (s.write w).2) := by
  simp only [run, runOn, h, ObjectStore.writeVia, StoreFaults.none]

theorem write_create {d : Overlay} (h : d.check = .ok ()) :
    (create d).write = .ok (.create d.toStored) := by
  simp only [create, h]
  rfl

theorem write_update {d : Overlay} (h : d.check = .ok ()) (o : StoredOverlay) :
    (update d o).write = .ok (.update (d.replacing o)) := by
  simp only [update, h]
  rfl

theorem write_create_of_flaw {d : Overlay} {flaw : OverlayFlaw} (h : d.check = .error flaw) :
    (create d).write = .error flaw := by
  simp only [create, h]
  rfl

theorem write_update_of_flaw {d : Overlay} {flaw : OverlayFlaw} (h : d.check = .error flaw)
    (o : StoredOverlay) : (update d o).write = .error flaw := by
  simp only [update, h]
  rfl

/-- A sound overlay whose name is free is stored as it is wanted. -/
theorem run_create {d : Overlay} (hc : d.check = .ok ()) (h : s.get? d.name = none) :
    ((create d).run .none s).1 = .ok () ∧
      ((create d).run .none s).2.get? d.name =
        some { d.toStored with version := some s.nextVersion } := by
  obtain ⟨hr, hs⟩ := ObjectStore.write_create (s := s) (o := d.toStored) h
  rw [run_of_write (write_create hc), hr]
  exact ⟨rfl, hs⟩

theorem run_create_of_some {d : Overlay} (hc : d.check = .ok ()) {a : StoredOverlay}
    (h : s.get? d.name = some a) : ((create d).run .none s).2 = s := by
  rw [run_of_write (write_create hc), ObjectStore.write_create_of_some h]

/-- A sound overlay takes the place of the stored one that it was planned to replace. -/
theorem run_update {d : Overlay} (hc : d.check = .ok ()) {o : StoredOverlay}
    (h : s.get? d.name = some o) :
    ((update d o).run .none s).1 = .ok () ∧
      ((update d o).run .none s).2.get? d.name =
        some { d.replacing o with version := some s.nextVersion } := by
  obtain ⟨hr, hs⟩ := ObjectStore.write_update (s := s) (o := d.replacing o) h rfl
  rw [run_of_write (write_update hc o), hr]
  exact ⟨rfl, hs⟩

theorem run_delete {o : StoredOverlay} (h : s.get? o.name = some o) :
    ((delete o).run .none s).1 = .ok () ∧ ((delete o).run .none s).2.get? o.name = none := by
  obtain ⟨hr, hs⟩ := ObjectStore.write_delete h
  rw [run_of_write (w := .delete o.name) rfl, hr]
  exact ⟨rfl, hs⟩

end Attempt

/-! ## All attempts -/

variable {faults : StoreFaults} {as : List Attempt}

theorem get?_attemptAll_of_not_mem {n : String} (ha : ∀ a ∈ as, a.Named)
    (h : n ∉ as.map (·.name)) (s : ObjectStore) :
    (attemptAll faults s as).2.get? n = s.get? n := by
  induction as generalizing s with
  | nil => rfl
  | cons a r ih =>
    simp only [List.map_cons, List.mem_cons, not_or] at h
    simp only [List.forall_mem_cons] at ha
    exact (ih ha.2 h.2 _).trans (Attempt.get?_run_of_ne ha.1 h.1)

/-- Under its own name an attempt has the effect that it has alone. -/
theorem attemptAll_own (faults : StoreFaults) (ha : ∀ a ∈ as, a.Named)
    (hn : (as.map (·.name)).Nodup) {a : Attempt} (hm : a ∈ as) (s : ObjectStore) :
    ∃ s₀, s₀.get? a.name = s.get? a.name ∧
      (attemptAll faults s as).2.get? a.name = (a.run faults s₀).2.get? a.name := by
  induction as generalizing s with
  | nil => cases hm
  | cons b r ih =>
    simp only [List.map_cons, List.nodup_cons] at hn
    simp only [List.forall_mem_cons] at ha
    rcases List.mem_cons.1 hm with rfl | hm
    · exact ⟨s, rfl, get?_attemptAll_of_not_mem ha.2 hn.1 _⟩
    · have hne : a.name ≠ b.name := fun he => hn.1 (he ▸ List.mem_map.2 ⟨a, hm, rfl⟩)
      obtain ⟨s₀, h₀, h₁⟩ := ih ha.2 hn.2 hm (b.run faults s).2
      exact ⟨s₀, h₀.trans (Attempt.get?_run_of_ne ha.1 hne), h₁⟩

/-- Every outcome is the outcome of an attempt made alone. -/
theorem attemptAll_outcomes (ha : ∀ a ∈ as, a.Named) (hn : (as.map (·.name)).Nodup)
    (s : ObjectStore) :
    ∀ x ∈ (attemptAll faults s as).1, ∃ a ∈ as, ∃ s₀, s₀.get? a.name = s.get? a.name ∧
      x = ⟨a.verb, a.name, (a.run faults s₀).1⟩ := by
  induction as generalizing s with
  | nil => exact fun x hx => absurd hx List.not_mem_nil
  | cons b r ih =>
    simp only [List.map_cons, List.nodup_cons] at hn
    simp only [List.forall_mem_cons] at ha
    intro x hx
    rcases List.mem_cons.1 hx with rfl | hx
    · exact ⟨b, List.mem_cons_self, s, rfl, rfl⟩
    · obtain ⟨a, hm, s₀, h₀, he⟩ := ih ha.2 hn.2 (b.run faults s).2 x hx
      have hne : a.name ≠ b.name := fun he => hn.1 (he ▸ List.mem_map.2 ⟨a, hm, rfl⟩)
      exact ⟨a, List.mem_cons_of_mem _ hm, s₀, h₀.trans (Attempt.get?_run_of_ne ha.1 hne), he⟩

/-! ## The counts of a plan -/

/-- The counts of a plan, from how its attempts went. -/
def Plan.tally (p : Plan) (outcomes : List Outcome) : Counts :=
  outcomes.foldl (fun c o => c.merge o.counts) { unchanged := p.unchanged }

theorem Plan.answer_apply (p : Plan) (kind : OverlayKind) (faults : StoreFaults)
    (s : ObjectStore) :
    (p.apply kind faults s).answer = p.tally (attemptAll faults s p.attempts).1 := rfl

/-- What merged counts add up, and what an outcome adds one to at most, is counted over the
outcomes. -/
theorem Plan.tally_eq_countP {f : Counts → Nat} {q : Outcome → Bool}
    (hf : ∀ a b : Counts, f (a.merge b) = f a + f b)
    (hq : ∀ o : Outcome, f o.counts = if q o then 1 else 0) (p : Plan) (outcomes : List Outcome) :
    f (p.tally outcomes) = f { unchanged := p.unchanged } + outcomes.countP q := by
  suffices h : ∀ c : Counts, f (outcomes.foldl (fun c o => c.merge o.counts) c) =
      f c + outcomes.countP q from h _
  induction outcomes with
  | nil => exact fun c => rfl
  | cons o rest ih =>
    intro c
    rw [List.foldl_cons, ih, hf, hq, List.countP_cons, Nat.add_assoc, Nat.add_comm (ite _ _ _)]

/-- The errors are the outcomes that are no successes. -/
theorem Plan.errors_tally (p : Plan) (outcomes : List Outcome) :
    (p.tally outcomes).errors = outcomes.countP fun o => !o.result.isOk := by
  refine (p.tally_eq_countP (f := Counts.errors) (fun _ _ => rfl) (fun o => ?_) outcomes).trans
    (Nat.zero_add _)
  unfold Outcome.counts
  cases o.result with
  | error _ => rfl
  | ok _ => cases o.verb <;> rfl

/-! ## Plans that only delete -/

theorem Plan.map_name_deleting (gone : List StoredOverlay) :
    (deleting gone).attempts.map (·.name) = gone.map (·.name) := by
  simp only [attempts, deleting, List.map_nil, List.nil_append, List.map_map, Function.comp_def]

/-- A plan that only deletes leaves what it does not delete. -/
theorem Plan.get?_deleting {s : ObjectStore} {gone : List StoredOverlay}
    (hn : (gone.map (·.name)).Nodup) (hs : ∀ o ∈ gone, s.get? o.name = some o)
    {n : String} {o : StoredOverlay} :
    (attemptAll .none s (deleting gone).attempts).2.get? n = some o ↔
      s.get? n = some o ∧ o ∉ gone := by
  have hnodup : ((deleting gone).attempts.map (·.name)).Nodup := map_name_deleting gone ▸ hn
  by_cases h : ∃ b ∈ gone, b.name = n
  · obtain ⟨b, hb, rfl⟩ := h
    have ha : Attempt.delete b ∈ (deleting gone).attempts :=
      mem_attempts.2 (.inr (.inr ⟨b, hb, rfl⟩))
    obtain ⟨s₀, h₀, h₁⟩ := attemptAll_own .none (named_attempts _) hnodup ha s
    have h₂ := (Attempt.run_delete (h₀.trans (hs b hb))).2
    rw [show (Attempt.delete b).name = b.name from rfl] at h₁
    rw [h₁, h₂, hs b hb]
    constructor
    · intro h
      cases h
    · rintro ⟨ho, hno⟩
      cases ho
      exact absurd hb hno
  · have hno : n ∉ (deleting gone).attempts.map (·.name) := by
      rw [map_name_deleting]
      rintro hm
      obtain ⟨b, hb, hbn⟩ := List.mem_map.1 hm
      exact h ⟨b, hb, hbn⟩
    rw [get?_attemptAll_of_not_mem (named_attempts _) hno]
    exact ⟨fun ho => ⟨ho, fun hm => h ⟨o, hm, ObjectStore.name_of_get? ho⟩⟩, fun h => h.1⟩

end PriceOverlay
