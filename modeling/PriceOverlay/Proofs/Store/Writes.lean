import PriceOverlay.Proofs.Lookup
import PriceOverlay.Store.Objects
/-!
# What writes do to look-ups

A write changes nothing but the overlay of its own name. Whether it succeeds, and what is
stored under that name afterwards, depends only on what was stored there before.

**Results**
* `get?_write_of_ne`: a write leaves every other name alone.
* `get?_write_of_ok`: a write that succeeds leaves its answer under its name.
* `write_create`, `write_update`, `write_delete`: the writes that succeed.
* `content_write_congr`: the effect of a write depends on what its name had.
* `mem_list_iff`, `nodup_names_list`: a listing has each overlay that matches, once.
* `contents_ext`: stores that differ in nothing but versions have the same contents.
-/
namespace PriceOverlay

/-- An overlay apart from its version. -/
def StoredOverlay.content (o : StoredOverlay) : StoredOverlay := { o with version := none }

namespace ObjectStore

variable {s : ObjectStore} {o : StoredOverlay} {n : String}

/-! ## Listing -/

theorem name_of_get? (h : s.get? n = some o) : o.name = n := s.filed.name h

theorem map_name_values (s : ObjectStore) : s.objects.values.map (·.name) = s.objects.keys := by
  rw [Table.values, Table.keys, List.map_map]
  refine List.map_congr_left fun e he => ?_
  exact s.filed.name (Table.get?_eq_some_iff.2 he)

theorem mem_values_iff : o ∈ s.objects.values ↔ s.get? o.name = some o := by
  rw [Table.mem_values_iff]
  constructor
  · rintro ⟨k, hk⟩
    rw [s.filed.name hk]
    exact hk
  · intro h
    exact ⟨_, h⟩

theorem mem_list_iff {selector : Selector} :
    o ∈ s.list selector ↔ s.get? o.name = some o ∧ o.matchesSelector selector = true := by
  rw [list, List.mem_filter, mem_values_iff]

theorem nodup_names_list (s : ObjectStore) (selector : Selector) :
    ((s.list selector).map (·.name)).Nodup := by
  have hk := s.objects.nodup_keys
  rw [← map_name_values] at hk
  exact (List.filter_sublist.map _).nodup hk

/-- A listing depends on nothing but the overlays that match. -/
theorem list_congr {s s' : ObjectStore} {selector : Selector}
    (h : ∀ n o, o.matchesSelector selector = true → (s.get? n = some o ↔ s'.get? n = some o)) :
    s.list selector = s'.list selector := by
  have hlist : ∀ s : ObjectStore, s.list selector =
      (s.objects.filter fun _ o => o.matchesSelector selector).values :=
    fun s => List.filter_map
  rw [hlist, hlist]
  congr 1
  refine Table.ext_get? fun n => Option.ext fun o => ?_
  rw [Table.get?_filter, Table.get?_filter, Option.filter_eq_some_iff, Option.filter_eq_some_iff]
  constructor
  · rintro ⟨ho, hm⟩
    exact ⟨(h n o hm).1 ho, hm⟩
  · rintro ⟨ho, hm⟩
    exact ⟨(h n o hm).2 ho, hm⟩

/-! ## Versions apart -/

/-- The overlays of a store apart from their versions. -/
def contents (s : ObjectStore) : Table String StoredOverlay := s.objects.map fun _ o => o.content

theorem get?_contents (s : ObjectStore) (n : String) :
    s.contents.get? n = (s.get? n).map StoredOverlay.content :=
  Table.get?_map ..

/-- Two stores have the same contents if they have under every name. -/
theorem contents_ext {s s' : ObjectStore}
    (h : ∀ n, (s.get? n).map StoredOverlay.content = (s'.get? n).map StoredOverlay.content) :
    s.contents = s'.contents :=
  Table.ext_get? fun n => by rw [get?_contents, get?_contents, h n]

/-! ## Writing -/

theorem get?_put (s : ObjectStore) (owned : Table String NameSet) (o : StoredOverlay)
    (n : String) :
    (s.put owned o).2.get? n =
      if n = o.name then some { o with version := some s.nextVersion } else s.get? n := by
  simp only [put, get?, Table.get?_insert_eq]

theorem get?_write_of_ne {w : Write} (h : n ≠ w.name) : (s.write w).2.get? n = s.get? n := by
  cases w with
  | create o =>
    simp only [write, create]
    split
    · rfl
    · exact (get?_put s s.owned o n).trans (if_neg h)
  | update o =>
    simp only [write, update]
    split
    · rfl
    · split
      · rfl
      · exact (get?_put s (unlink s.owned o.name) o n).trans (if_neg h)
  | delete name =>
    simp only [write, delete]
    split
    · exact (Table.get?_erase_eq _ _ _).trans (if_neg h)
    · rfl

theorem get?_writeVia_of_ne {faults : StoreFaults} {w : Write} (h : n ≠ w.name) :
    (s.writeVia faults w).2.get? n = s.get? n := by
  unfold writeVia
  split
  · rfl
  · exact get?_write_of_ne h

/-- A write that is refused, on the way or by the store, changes nothing. -/
theorem state_of_error_via {faults : StoreFaults} {w : Write} {e : StoreError}
    (h : (s.writeVia faults w).1 = .error e) : (s.writeVia faults w).2 = s := by
  unfold writeVia at h ⊢
  split at h
  · rfl
  · exact state_of_error h

/-- A write that is answered has reached the store. -/
theorem writeVia_of_ok {faults : StoreFaults} {w : Write} {stored : Option StoredOverlay}
    (h : (s.writeVia faults w).1 = .ok stored) : s.writeVia faults w = s.write w := by
  unfold writeVia at h ⊢
  split at h
  · cases h
  · rfl

/-- A write that succeeds leaves its answer under its name. -/
theorem get?_write_of_ok {w : Write} {stored : Option StoredOverlay}
    (h : (s.write w).1 = .ok stored) : (s.write w).2.get? w.name = stored := by
  cases w with
  | create o =>
    simp only [write, create] at h ⊢
    split at h
    · cases h
    · rename_i hc
      simp only [hc, Bool.false_eq_true, if_false]
      cases h
      exact (get?_put s s.owned o o.name).trans (if_pos rfl)
  | update o =>
    simp only [write, update] at h ⊢
    split at h
    · cases h
    · split at h
      · cases h
      · rename_i hv
        simp only [hv, if_false]
        cases h
        exact (get?_put s (unlink s.owned o.name) o o.name).trans (if_pos rfl)
  | delete name =>
    simp only [write, delete] at h ⊢
    split at h
    · rename_i hc
      simp only [hc, if_true]
      cases h
      exact (Table.get?_erase_eq _ _ _).trans (if_pos rfl)
    · cases h

/-- What a write stores has the next version. -/
theorem version_of_write {w : Write} (h : (s.write w).1 = .ok (some o)) :
    o.version = some s.nextVersion := by
  cases w with
  | create a =>
    simp only [write, create] at h
    split at h <;> cases h
    rfl
  | update a =>
    simp only [write, update] at h
    split at h
    · cases h
    · split at h <;> cases h
      rfl
  | delete name =>
    simp only [write, delete] at h
    split at h <;> cases h

/-- A write that succeeds is entered in the log. -/
theorem writes_of_ok {w : Write} {stored : Option StoredOverlay}
    (h : (s.write w).1 = .ok stored) : (s.write w).2.writes = s.writes ++ [(w.verb, w.name)] := by
  cases w with
  | create a =>
    simp only [write, create] at h ⊢
    split at h
    · cases h
    · rename_i hc
      simp only [hc, Bool.false_eq_true, if_false]
      rfl
  | update a =>
    simp only [write, update] at h ⊢
    split at h
    · cases h
    · split at h
      · cases h
      · rename_i hv
        simp only [hv, if_false]
        rfl
  | delete name =>
    simp only [write, delete] at h ⊢
    split at h
    · rename_i hc
      simp only [hc, if_true]
      rfl
    · cases h

theorem lastVersion_le_write (s : ObjectStore) (w : Write) :
    s.lastVersion ≤ (s.write w).2.lastVersion := by
  cases w with
  | create o =>
    simp only [write, create]
    split
    · exact Nat.le_refl _
    · exact Nat.le_succ _
  | update o =>
    simp only [write, update]
    split
    · exact Nat.le_refl _
    · split
      · exact Nat.le_refl _
      · exact Nat.le_succ _
  | delete name =>
    simp only [write, delete]
    split <;> exact Nat.le_refl _

theorem write_create (h : s.get? o.name = none) :
    (s.write (.create o)).1 = .ok (some { o with version := some s.nextVersion }) ∧
      (s.write (.create o)).2.get? o.name = some { o with version := some s.nextVersion } := by
  have hc : s.objects.contains o.name = false := Table.contains_eq_false_iff.2 h
  have hw := (get?_put s s.owned o o.name).trans (if_pos rfl)
  simp only [write, create, hc, Bool.false_eq_true, if_false]
  exact ⟨rfl, hw⟩

theorem write_create_of_some {a : StoredOverlay} (h : s.get? o.name = some a) :
    s.write (.create o) = (.error (.alreadyExists o.name), s) := by
  have hc : s.objects.contains o.name = true := by
    rw [Table.contains, show s.objects.get? o.name = some a from h]
    rfl
  simp only [write, create, hc, if_true]
  rfl

theorem write_update {a : StoredOverlay} (h : s.get? o.name = some a)
    (hv : a.version = o.version) :
    (s.write (.update o)).1 = .ok (some { o with version := some s.nextVersion }) ∧
      (s.write (.update o)).2.get? o.name = some { o with version := some s.nextVersion } := by
  have hw := (get?_put s (unlink s.owned o.name) o o.name).trans (if_pos rfl)
  simp only [write, update, show s.objects.get? o.name = some a from h, hv, ne_eq,
    not_true_eq_false, if_false]
  exact ⟨rfl, hw⟩

theorem write_update_of_missing (h : s.get? o.name = none) :
    s.write (.update o) = (.error (.notFound o.name), s) := by
  simp only [write, update, show s.objects.get? o.name = none from h]
  rfl

/-- An update that was made from another version changes nothing. -/
theorem write_update_of_stale (h : ∀ a, s.get? o.name = some a → a.version ≠ o.version) :
    (s.write (.update o)).2 = s := by
  simp only [write, update]
  split
  · rfl
  · rename_i a ha
    simp only [ne_eq, h a ha, not_false_eq_true, if_true]

theorem write_update_of_changed {a : StoredOverlay} (h : s.get? o.name = some a)
    (hv : a.version ≠ o.version) :
    s.write (.update o) = (.error (.conflict o.name o.version), s) := by
  simp only [write, update, show s.objects.get? o.name = some a from h, ne_eq, hv,
    not_false_eq_true, if_true]
  rfl

theorem write_delete_of_missing (h : s.get? n = none) :
    s.write (.delete n) = (.error (.notFound n), s) := by
  have hc : s.objects.contains n = false := Table.contains_eq_false_iff.2 h
  simp only [write, delete, hc, Bool.false_eq_true, if_false]
  rfl

theorem write_delete_of_none (h : s.get? n = none) : (s.write (.delete n)).2 = s := by
  rw [write_delete_of_missing h]

theorem write_delete {a : StoredOverlay} (h : s.get? n = some a) :
    (s.write (.delete n)).1 = .ok none ∧ (s.write (.delete n)).2.get? n = none := by
  have hc : s.objects.contains n = true := by
    rw [Table.contains, show s.objects.get? n = some a from h]
    rfl
  simp only [write, delete, hc, if_true]
  exact ⟨rfl, (Table.get?_erase_eq _ _ _).trans (if_pos rfl)⟩

/-- What a write leaves under its name depends, the version apart, only on what was there. -/
theorem content_write_congr {s₀ s₁ : ObjectStore} {w : Write}
    (h : s₀.get? w.name = s₁.get? w.name) :
    ((s₀.write w).2.get? w.name).map StoredOverlay.content =
      ((s₁.write w).2.get? w.name).map StoredOverlay.content := by
  cases w with
  | create o =>
    change s₀.get? o.name = s₁.get? o.name at h
    change ((s₀.write (.create o)).2.get? o.name).map _ =
      ((s₁.write (.create o)).2.get? o.name).map _
    cases ho : s₁.get? o.name with
    | none =>
      rw [(write_create (h.trans ho)).2, (write_create ho).2]
      rfl
    | some a => rw [write_create_of_some (h.trans ho), write_create_of_some ho, h]
  | update o =>
    change s₀.get? o.name = s₁.get? o.name at h
    change ((s₀.write (.update o)).2.get? o.name).map _ =
      ((s₁.write (.update o)).2.get? o.name).map _
    by_cases hv : ∃ a, s₁.get? o.name = some a ∧ a.version = o.version
    · obtain ⟨a, ha, hv⟩ := hv
      rw [(write_update (h.trans ha) hv).2, (write_update ha hv).2]
      rfl
    · have hstale : ∀ a, s₁.get? o.name = some a → a.version ≠ o.version :=
        fun a ha he => hv ⟨a, ha, he⟩
      rw [write_update_of_stale fun a ha => hstale a (h.symm.trans ha),
        write_update_of_stale hstale, h]
  | delete n =>
    change s₀.get? n = s₁.get? n at h
    change ((s₀.write (.delete n)).2.get? n).map _ = ((s₁.write (.delete n)).2.get? n).map _
    cases ho : s₁.get? n with
    | none => rw [write_delete_of_none (h.trans ho), write_delete_of_none ho, h]
    | some a => rw [(write_delete (h.trans ho)).2, (write_delete ho).2]

end ObjectStore
end PriceOverlay
