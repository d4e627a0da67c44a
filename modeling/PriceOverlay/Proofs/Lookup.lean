import Mathlib.Data.List.Nodup
import PriceOverlay.Table
/-!
# More look-ups in tables

What is found after several entries are set, after two tables are put together, and how
the listed values and keys relate to look-ups.

**Results**
* `get?_foldl_insert`: setting the entries of a list with distinct keys.
* `get?_foldl_adjust`: adjusting entries item after item goes by key.
* `get?_union`, `get?_ofList`: the entries of the second table, or of the list, come first.
* `union_eq_left_iff`: when a second table changes nothing.
* `mem_values_iff`, `mem_keys_iff`, `nodup_keys`: the listing is what look-ups find, once each.
* `get?_map`: what is found after all values are changed.
* `isEmpty_eq_false_iff`: a table is not empty if some look-up finds something.
* `find?_key_eq_some_iff`: what is found by a key in a list with distinct keys.
-/
namespace PriceOverlay

/-- In a list with distinct keys, the first item with a key is the only one. -/
theorem find?_key_eq_some_iff {α κ : Type} [DecidableEq κ] {key : α → κ} {l : List α}
    (h : (l.map key).Nodup) {k : κ} {a : α} :
    l.find? (key · == k) = some a ↔ a ∈ l ∧ key a = k := by
  constructor
  · intro ha
    exact ⟨List.mem_of_find?_eq_some ha, by simpa using List.find?_some ha⟩
  · rintro ⟨ha, rfl⟩
    have hsome : (l.find? (key · == key a)).isSome :=
      List.find?_isSome.2 ⟨a, ha, by rw [beq_self_eq_true]⟩
    obtain ⟨b, hb⟩ := Option.isSome_iff_exists.1 hsome
    have hkey : key b = key a := by simpa using List.find?_some hb
    rw [hb, List.inj_on_of_nodup_map h (List.mem_of_find?_eq_some hb) ha hkey]

namespace Table

universe u v

variable {κ : Type u} {α : Type v} [Ord κ]

theorem contains_eq_false_iff {t : Table κ α} {k : κ} :
    t.contains k = false ↔ t.get? k = none := by
  rw [contains, Option.isSome_eq_false_iff, Option.isNone_iff_eq_none]

variable [Std.LawfulEqOrd κ]

/-- No key is listed twice. -/
theorem nodup_keys (t : Table κ α) : t.keys.Nodup := by
  refine List.pairwise_map.2 (t.ascending.imp ?_)
  intro a b hlt he
  rw [he, Std.LawfulEqOrd.compare_eq_iff_eq.2 rfl] at hlt
  cases hlt

theorem mem_values_iff {t : Table κ α} {a : α} : a ∈ t.values ↔ ∃ k, t.get? k = some a := by
  simp only [values, List.mem_map, get?_eq_some_iff]
  constructor
  · rintro ⟨e, he, rfl⟩
    exact ⟨e.1, he⟩
  · rintro ⟨k, hk⟩
    exact ⟨(k, a), hk, rfl⟩

theorem mem_keys_iff {t : Table κ α} {k : κ} : k ∈ t.keys ↔ ∃ a, t.get? k = some a := by
  simp only [keys, List.mem_map, get?_eq_some_iff]
  constructor
  · rintro ⟨e, he, rfl⟩
    exact ⟨e.2, he⟩
  · rintro ⟨a, ha⟩
    exact ⟨(k, a), ha, rfl⟩

theorem isEmpty_eq_false_iff {t : Table κ α} : t.isEmpty = false ↔ ∃ k a, t.get? k = some a := by
  simp only [get?_eq_some_iff, isEmpty]
  cases h : t.entries with
  | nil => simp only [List.isEmpty_nil, Bool.true_eq_false, List.not_mem_nil, exists_false]
  | cons e r => exact ⟨fun _ => ⟨e.1, e.2, List.mem_cons_self⟩, fun _ => rfl⟩

/-- A map changes the values and keeps the keys. -/
theorem get?_map {β : Type v} (t : Table κ α) (f : κ → α → β) (k : κ) :
    (t.map f).get? k = (t.get? k).map (f k) := by
  refine Option.ext fun b => ?_
  simp only [get?_eq_some_iff, Option.map_eq_some_iff, map, List.mem_map, Prod.mk.injEq]
  constructor
  · rintro ⟨e, he, rfl, rfl⟩
    exact ⟨e.2, he, rfl⟩
  · rintro ⟨a, ha, rfl⟩
    exact ⟨(k, a), ha, rfl, rfl⟩

variable [DecidableEq κ]

theorem find_cons (k : κ) (e : κ × α) (l : List (κ × α)) :
    find k (e :: l) = if k = e.1 then some e.2 else find k l := by
  simp only [find, Std.LawfulEqOrd.compare_eq_iff_eq]

theorem find_eq_none {k : κ} {l : List (κ × α)} (h : k ∉ l.map (·.1)) : find k l = none := by
  induction l with
  | nil => rfl
  | cons e r ih =>
    simp only [List.map_cons, List.mem_cons, not_or] at h
    rw [find_cons, if_neg h.1, ih h.2]

theorem find_eq_some_iff_mem {l : List (κ × α)} (h : (l.map (·.1)).Nodup) {k : κ} {a : α} :
    find k l = some a ↔ (k, a) ∈ l := by
  induction l with
  | nil => simp [find]
  | cons e r ih =>
    obtain ⟨k', b⟩ := e
    simp only [List.map_cons, List.nodup_cons] at h
    rw [find_cons, List.mem_cons, Prod.mk.injEq]
    by_cases hk : k = k'
    · subst hk
      have hn : (k, a) ∉ r := fun hm => h.1 (List.mem_map.2 ⟨_, hm, rfl⟩)
      simp [hn, eq_comm]
    · simp [hk, ih h.2]

theorem get?_erase_eq (t : Table κ α) (k k' : κ) :
    (t.erase k).get? k' = if k' = k then none else t.get? k' := by
  simp only [get?_erase, Std.LawfulEqOrd.compare_eq_iff_eq, eq_comm (a := k)]

variable [Std.TransOrd κ]

theorem get?_insert_eq (t : Table κ α) (k k' : κ) (a : α) :
    (t.insert k a).get? k' = if k' = k then some a else t.get? k' := by
  simp only [get?_insert, Std.LawfulEqOrd.compare_eq_iff_eq]

theorem get?_adjust_eq (t : Table κ α) (k k' : κ) (start : α) (f : α → α) :
    (t.adjust k start f).get? k' =
      if k' = k then some (f ((t.get? k).getD start)) else t.get? k' :=
  get?_insert_eq _ _ _ _

theorem get?_foldl_insert {l : List (κ × α)} (h : (l.map (·.1)).Nodup) (t : Table κ α) (k : κ) :
    (l.foldl (fun t e => t.insert e.1 e.2) t).get? k = (find k l).or (t.get? k) := by
  induction l generalizing t with
  | nil => rfl
  | cons e r ih =>
    simp only [List.map_cons, List.nodup_cons] at h
    rw [List.foldl_cons, ih h.2, get?_insert_eq, find_cons]
    split
    · rename_i hk
      subst hk
      rw [find_eq_none h.1]
      rfl
    · rfl

/-! ### Adjusting item after item -/

section
variable {σ : Type*} {key : σ → Option κ} {start : α} {f : σ → α → α}
  {step : Table κ α → σ → Table κ α}

omit [Ord κ] [Std.LawfulEqOrd κ] [Std.TransOrd κ] in
theorem filter_key_eq_nil {l : List σ} {k : κ} (h : ¬ ∃ x ∈ l, key x = some k) :
    l.filter (key · = some k) = [] := by
  rw [List.filter_eq_nil_iff]
  intro x hx hkey
  exact h ⟨x, hx, of_decide_eq_true hkey⟩

/-- Items that each adjust the entry of their key: what is found at a key depends only on the items
with that key, in their order. -/
theorem get?_foldl_adjust
    (hstep : ∀ t x, step t x = (key x).elim t fun k => t.adjust k start (f x))
    (l : List σ) (t : Table κ α) (k : κ) :
    (l.foldl step t).get? k =
      if ∃ x ∈ l, key x = some k then
        some ((l.filter (key · = some k)).foldl (fun a x => f x a) ((t.get? k).getD start))
      else t.get? k := by
  induction l generalizing t with
  | nil => simp only [List.foldl_nil, List.not_mem_nil, false_and, exists_false, if_false]
  | cons x r ih =>
    rw [List.foldl_cons, ih, hstep]
    simp only [List.exists_mem_cons_iff, List.filter_cons, decide_eq_true_eq]
    cases hx : key x with
    | none => simp only [Option.elim_none, reduceCtorEq, false_or, if_false]
    | some j =>
      simp only [Option.elim_some, get?_adjust_eq, Option.some.injEq, eq_comm (a := k)]
      by_cases hj : j = k
      · subst hj
        simp only [if_true, true_or, Option.getD_some, List.foldl_cons]
        split_ifs with hr
        · rfl
        · rw [filter_key_eq_nil hr, List.foldl_nil]
      · simp only [hj, if_false, false_or]

/-- To the keys that are there, items add their own. -/
theorem exists_get?_foldl_adjust
    (hstep : ∀ t x, step t x = (key x).elim t fun k => t.adjust k start (f x))
    {l : List σ} {t : Table κ α} {k : κ} :
    (∃ a, (l.foldl step t).get? k = some a) ↔
      (∃ a, t.get? k = some a) ∨ ∃ x ∈ l, key x = some k := by
  rw [get?_foldl_adjust hstep]
  split_ifs with h
  · simp only [Option.some.injEq, exists_eq', h, or_true]
  · simp only [h, or_false]

theorem getD_get?_foldl_adjust
    (hstep : ∀ t x, step t x = (key x).elim t fun k => t.adjust k start (f x))
    (l : List σ) (t : Table κ α) (k : κ) :
    ((l.foldl step t).get? k).getD start =
      (l.filter (key · = some k)).foldl (fun a x => f x a) ((t.get? k).getD start) := by
  rw [get?_foldl_adjust hstep]
  split_ifs with h
  · rfl
  · rw [filter_key_eq_nil h, List.foldl_nil]

end

omit [Std.LawfulEqOrd κ] [DecidableEq κ] [Std.TransOrd κ] in
theorem insertEntry_perm {k : κ} {a : α} {l : List (κ × α)} (h : find k l = none) :
    (insertEntry k a l).Perm ((k, a) :: l) := by
  induction l with
  | nil => exact .refl _
  | cons e l ih =>
    rw [find] at h
    split at h
    · cases h
    · rename_i hne
      unfold insertEntry
      split
      case h_1 => exact .refl _
      case h_2 heq => exact absurd heq hne
      case h_3 => exact ((ih h).cons e).trans (.swap _ _ _)

omit [Std.LawfulEqOrd κ] [DecidableEq κ] in
/-- A value under a new key is one value more. -/
theorem values_insert_perm {t : Table κ α} {k : κ} {a : α} (h : t.get? k = none) :
    (t.insert k a).values.Perm (a :: t.values) :=
  (insertEntry_perm h).map _

/-- Of two tables put together the second is looked at first. -/
theorem get?_union (t other : Table κ α) (k : κ) :
    (t.union other).get? k = (other.get? k).or (t.get? k) :=
  get?_foldl_insert other.nodup_keys t k

theorem union_self (t : Table κ α) : t.union t = t := by
  refine ext_get? fun k => ?_
  rw [get?_union, Option.or_self]

/-- Putting a second table over the first changes nothing if all its entries are there already. -/
theorem union_eq_left_iff {t other : Table κ α} :
    t.union other = t ↔ ∀ k a, other.get? k = some a → t.get? k = some a := by
  constructor
  · intro h k a hk
    rw [← h, get?_union, hk, Option.some_or]
  · intro h
    refine ext_get? fun k => ?_
    rw [get?_union]
    cases hk : other.get? k with
    | none => rw [Option.none_or]
    | some a => rw [Option.some_or, h k a hk]

theorem get?_ofList {l : List (κ × α)} (h : (l.map (·.1)).Nodup) {k : κ} {a : α} :
    (ofList l).get? k = some a ↔ (k, a) ∈ l := by
  rw [ofList, get?_foldl_insert h, get?_empty, Option.or_none, find_eq_some_iff_mem h]

/-- The entries of a table, in any order, make the table again. -/
theorem ofList_of_perm {l : List (κ × α)} {t : Table κ α} (h : l.Perm t.entries) :
    ofList l = t := by
  have hnodup : (l.map (·.1)).Nodup := (h.map _).nodup_iff.2 t.nodup_keys
  refine ext_get? fun k => Option.ext fun a => ?_
  rw [get?_ofList hnodup, get?_eq_some_iff, h.mem_iff]

end Table
end PriceOverlay
