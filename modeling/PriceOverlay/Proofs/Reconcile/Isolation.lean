import PriceOverlay.Proofs.Reconcile.Convergence
/-!
# A pass keeps to its scope

Whatever calls fail on the way, a pass over a scope changes and deletes only overlays of that
scope, and what it writes are overlays of that scope. A name that an overlay from outside holds
is left alone: it is neither listed nor planned for, and a create under it is refused.

**Results**
* `Confined.trans`: effects that keep to the same overlays do so one after the other.
* `confined_attemptAll`: attempts with distinct names, each of which keeps to some overlays.
* `Reconciler.confined_pass`: a pass keeps to the overlays of its scope.
* `Plan.confined_deleting`: a plan that only deletes keeps to what it deletes.
-/
namespace PriceOverlay

namespace ObjectStore

/-- What differs between two stores satisfies `P`, as it was and as it is. -/
def Confined (P : StoredOverlay → Prop) (s s' : ObjectStore) : Prop :=
  ∀ n, s'.get? n = s.get? n ∨
    (∀ o, s.get? n = some o → P o) ∧ ∀ o, s'.get? n = some o → P o

namespace Confined

variable {P Q : StoredOverlay → Prop} {s s' s'' : ObjectStore}

theorem refl (P : StoredOverlay → Prop) (s : ObjectStore) : Confined P s s := fun _ => .inl rfl

theorem mono (h : Confined P s s') (hPQ : ∀ o, P o → Q o) : Confined Q s s' := by
  intro n
  rcases h n with h | ⟨hold, hnew⟩
  · exact .inl h
  · exact .inr ⟨fun o ho => hPQ o (hold o ho), fun o ho => hPQ o (hnew o ho)⟩

theorem trans (h : Confined P s s') (h' : Confined P s' s'') : Confined P s s'' := by
  intro n
  rcases h n with h | ⟨hold, hnew⟩
  · rcases h' n with h' | ⟨hold', hnew'⟩
    · exact .inl (h'.trans h)
    · exact .inr ⟨fun o ho => hold' o (h.trans ho), hnew'⟩
  · rcases h' n with h' | ⟨-, hnew'⟩
    · exact .inr ⟨hold, fun o ho => hnew o (h'.symm.trans ho)⟩
    · exact .inr ⟨hold, hnew'⟩

/-- What does not satisfy `P` stays. -/
theorem stays (h : Confined P s s') {n : String} {o : StoredOverlay} (ho : s.get? n = some o)
    (hP : ¬ P o) : s'.get? n = some o := by
  rcases h n with h | ⟨hold, -⟩
  · exact h.trans ho
  · exact absurd (hold o ho) hP

/-- What is new or has changed satisfies `P`. -/
theorem written (h : Confined P s s') {n : String} {o : StoredOverlay} (ho : s'.get? n = some o)
    (hs : s.get? n ≠ some o) : P o := by
  rcases h n with h | ⟨-, hnew⟩
  · exact absurd (h.symm.trans ho) hs
  · exact hnew o ho

end Confined
end ObjectStore

/-! ## Attempts -/

section
variable {faults : StoreFaults} {s : ObjectStore} {P : StoredOverlay → Prop}

open ObjectStore

/-- An attempt that gets as far as the store makes its write there. -/
theorem Attempt.run_cases (faults : StoreFaults) (s : ObjectStore) (a : Attempt) :
    (a.run faults s).2 = s ∨ ∃ w, a.write = .ok w ∧ (a.run faults s).2 = (s.write w).2 := by
  unfold run runOn
  split
  · exact .inl rfl
  · rename_i w hw
    dsimp only [writeVia]
    split
    · exact .inl rfl
    · exact .inr ⟨w, hw, rfl⟩

/-- Attempts with distinct names, each of which keeps to `P` where its name is as at the start,
keep to `P` together. -/
theorem confined_attemptAll {as : List Attempt} (ha : ∀ a ∈ as, a.Named)
    (hn : (as.map (·.name)).Nodup)
    (h : ∀ a ∈ as, ∀ s₀, s₀.get? a.name = s.get? a.name → Confined P s₀ (a.run faults s₀).2) :
    Confined P s (attemptAll faults s as).2 := by
  intro n
  by_cases hm : n ∈ as.map (·.name)
  · obtain ⟨a, ham, rfl⟩ := List.mem_map.1 hm
    obtain ⟨s₀, h₀, h₁⟩ := attemptAll_own faults ha hn ham s
    rw [h₁, ← h₀]
    exact h a ham s₀ h₀ a.name
  · exact .inl (get?_attemptAll_of_not_mem ha hm s)

/-- A write keeps to `P` if what its name had and what it leaves there do. -/
theorem confined_write {w : Write} (hold : ∀ o, s.get? w.name = some o → P o)
    (hnew : ∀ o, (s.write w).2.get? w.name = some o → P o) : Confined P s (s.write w).2 := by
  intro n
  by_cases hn : n = w.name
  · subst hn
    exact .inr ⟨hold, hnew⟩
  · exact .inl (get?_write_of_ne hn)

/-- A create is refused where there is something, so it keeps to what it creates. -/
theorem confined_create {o : StoredOverlay} (ho : ∀ v, P { o with version := some v }) :
    Confined P s (s.write (.create o)).2 := by
  cases h : s.get? o.name with
  | some a =>
    rw [write_create_of_some h]
    exact .refl P s
  | none =>
    refine confined_write (fun a ha => ?_) fun a ha => ?_
    · cases h.symm.trans ha
    · cases (write_create h).2.symm.trans ha
      exact ho _

/-- An update keeps to what it replaces and what it replaces it by. -/
theorem confined_update {o : StoredOverlay} (hold : ∀ a, s.get? o.name = some a → P a)
    (ho : ∀ v, P { o with version := some v }) : Confined P s (s.write (.update o)).2 := by
  by_cases h : ∃ a, s.get? o.name = some a ∧ a.version = o.version
  · obtain ⟨a, ha, hv⟩ := h
    refine confined_write hold fun b hb => ?_
    cases (write_update ha hv).2.symm.trans hb
    exact ho _
  · rw [write_update_of_stale fun a ha hv => h ⟨a, ha, hv⟩]
    exact .refl P s

theorem confined_delete {n : String} (hold : ∀ a, s.get? n = some a → P a) :
    Confined P s (s.write (.delete n)).2 := by
  cases h : s.get? n with
  | none =>
    rw [write_delete_of_none h]
    exact .refl P s
  | some a =>
    refine confined_write hold fun b hb => ?_
    cases (write_delete h).2.symm.trans hb

/-- An attempt keeps to whatever its write keeps to. -/
theorem Attempt.confined_run {a : Attempt}
    (h : ∀ w, a.write = .ok w → Confined P s (s.write w).2) : Confined P s (a.run faults s).2 := by
  rcases a.run_cases faults s with hs | ⟨w, hw, hs⟩
  · rw [hs]
    exact .refl P s
  · rw [hs]
    exact h w hw

end

/-! ## Passes -/

/-- What a wanted overlay is written as, if it is written at all. -/
theorem Attempt.write_of_create {d : Overlay} {w : Write} (h : (create d).write = .ok w) :
    w = .create d.toStored := by
  simp only [create] at h
  cases hc : d.check <;> rw [hc] at h <;> cases h
  rfl

theorem Attempt.write_of_update {d : Overlay} {o : StoredOverlay} {w : Write}
    (h : (update d o).write = .ok w) : w = .update (d.replacing o) := by
  simp only [update] at h
  cases hc : d.check <;> rw [hc] at h <;> cases h
  rfl

/-- A pass keeps to the overlays of its scope, if it wants only such. -/
theorem ObjectStore.confined_planFor {s : ObjectStore} {scope : Scope} {wanted : List Overlay}
    (labelled : ∀ d ∈ wanted, d.toStored.matchesSelector scope.selector = true)
    (faults : StoreFaults) : Confined (·.matchesSelector scope.selector = true) s
      (attemptAll faults s (s.planFor scope wanted).attempts).2 := by
  refine confined_attemptAll (Plan.named_attempts _)
    (s.nodup_names_planFor scope wanted) fun a ha s₀ h₀ => ?_
  refine Attempt.confined_run fun w hw => ?_
  rcases attempt_cases ha with ⟨d, hd, -, rfl⟩ | ⟨d, hd, o, ho, hm, -, rfl⟩ | ⟨o, ho, hm, -, rfl⟩
  · obtain rfl := Attempt.write_of_create hw
    exact confined_create fun _ => labelled d (Overlay.mem_of_mem_firsts hd)
  · obtain rfl := Attempt.write_of_update hw
    refine confined_update (fun b hb => ?_) fun v =>
      Overlay.matches_replacing (labelled d (Overlay.mem_of_mem_firsts hd)) o (some v)
    cases (hb.symm.trans h₀).trans ho
    exact hm
  · cases hw
    refine confined_delete fun b hb => ?_
    cases (hb.symm.trans h₀).trans ho
    exact hm

/-- What is listed, if anything is, is what the scope has. -/
theorem Scope.listed_eq {scope : Scope} {faults : StoreFaults} {s : ObjectStore}
    {existing : List StoredOverlay} (h : scope.listed faults s = .ok existing) :
    s.list scope.selector = existing := by
  unfold listed ObjectStore.listVia at h
  cases hf : faults (.list scope.selector) <;> rw [hf] at h <;> cases h
  rfl

/-- **Isolation of a pass.** Under any faults a pass changes, deletes and writes only overlays of
its scope. -/
theorem Reconciler.confined_pass (r : Reconciler) {scope : Scope} {desired : List Overlay}
    (labelled : ∀ d ∈ desired, d.toStored.matchesSelector scope.selector = true)
    (faults : StoreFaults) (s : ObjectStore) :
    s.Confined (·.matchesSelector scope.selector = true) (r.pass scope desired faults s).store := by
  unfold pass
  split
  · exact .refl _ s
  · rename_i existing h
    obtain rfl := Scope.listed_eq h
    exact ObjectStore.confined_planFor (labelled_owned labelled) faults

/-- A plan that only deletes keeps to what it deletes. -/
theorem Plan.confined_deleting {P : StoredOverlay → Prop} {s : ObjectStore}
    {gone : List StoredOverlay} (hn : (gone.map (·.name)).Nodup)
    (hs : ∀ o ∈ gone, s.get? o.name = some o ∧ P o) (faults : StoreFaults) :
    s.Confined P (attemptAll faults s (deleting gone).attempts).2 := by
  refine confined_attemptAll (named_attempts _) (map_name_deleting gone ▸ hn) fun a ha s₀ h₀ => ?_
  rcases mem_attempts.1 ha with ⟨d, hd, -⟩ | ⟨d, o, hd, -⟩ | ⟨o, ho, rfl⟩
  · cases hd
  · cases hd
  · refine Attempt.confined_run fun w hw => ?_
    cases hw
    refine confined_delete fun b hb => ?_
    cases (hb.symm.trans h₀).trans (hs o ho).1
    exact (hs o ho).2

end PriceOverlay
