/-!
# Tables: finite maps listed by ascending key

Labels, annotations, the objects of a store and the rows of an aggregate are all
looked up by a key and listed in key order. A `Table` is the list of its entries,
strictly ascending by key, so two tables with the same look-ups are equal and the
listing order is part of the value.

**Results**
* `get?_insert`, `get?_erase`, `get?_filter`: what each change does to a look-up.
* `get?_eq_some_iff`: a look-up finds exactly the entries.
* `ext_get?`: a table is determined by its look-ups.
-/
namespace PriceOverlay

universe u v w

/-- A finite map from `κ` to `α`, kept as its entries in ascending order of key. -/
structure Table (κ : Type u) (α : Type v) [Ord κ] where
  entries : List (κ × α)
  ascending : entries.Pairwise (fun a b => compare a.1 b.1 = .lt)

namespace Table

variable {κ : Type u} {α : Type v} {β : Type w} [Ord κ]

instance [DecidableEq κ] [DecidableEq α] : DecidableEq (Table κ α) := fun a b =>
  if h : a.entries = b.entries then isTrue (by cases a; cases b; simp_all)
  else isFalse (fun e => h (e ▸ rfl))

/-- The table without entries. -/
def empty : Table κ α := ⟨[], .nil⟩

instance : EmptyCollection (Table κ α) := ⟨empty⟩
instance : Inhabited (Table κ α) := ⟨empty⟩

/-! ## Lists in key order -/

/-- The entry list with `k` set to `a`. -/
def insertEntry (k : κ) (a : α) : List (κ × α) → List (κ × α)
  | [] => [(k, a)]
  | e :: r =>
    match compare k e.1 with
    | .lt => (k, a) :: e :: r
    | .eq => (k, a) :: r
    | .gt => e :: insertEntry k a r

/-- The value of the first entry whose key equals `k`. -/
def find (k : κ) : List (κ × α) → Option α
  | [] => none
  | e :: r => if compare k e.1 = .eq then some e.2 else find k r

theorem mem_insertEntry {k : κ} {a : α} {x : κ × α} {l : List (κ × α)}
    (h : x ∈ insertEntry k a l) : x = (k, a) ∨ x ∈ l := by
  induction l with
  | nil => simpa [insertEntry] using h
  | cons e r ih =>
    unfold insertEntry at h
    split at h <;> simp only [List.mem_cons] at h ⊢
    · exact h
    · exact h.imp_right .inr
    · rcases h with h | h
      · exact .inr (.inl h)
      · exact (ih h).imp_right .inr

theorem pairwise_insertEntry [Std.TransOrd κ] (k : κ) (a : α) {l : List (κ × α)}
    (h : l.Pairwise (fun a b => compare a.1 b.1 = .lt)) :
    (insertEntry k a l).Pairwise (fun a b => compare a.1 b.1 = .lt) := by
  induction l with
  | nil => simp [insertEntry]
  | cons e r ih =>
    have hr := List.pairwise_cons.1 h
    unfold insertEntry
    split
    case h_1 hk =>
      refine List.pairwise_cons.2 ⟨fun x hx => ?_, h⟩
      rcases List.mem_cons.1 hx with rfl | hx
      · exact hk
      · exact Std.TransCmp.lt_trans hk (hr.1 x hx)
    case h_2 hk =>
      exact List.pairwise_cons.2
        ⟨fun x hx => Std.TransCmp.lt_of_eq_of_lt hk (hr.1 x hx), hr.2⟩
    case h_3 hk =>
      refine List.pairwise_cons.2 ⟨fun x hx => ?_, ih hr.2⟩
      rcases mem_insertEntry hx with rfl | hx
      · exact Std.OrientedCmp.lt_of_gt hk
      · exact hr.1 x hx

/-! ## Operations -/

/-- The value at a key. -/
def get? (t : Table κ α) (k : κ) : Option α := find k t.entries

/-- Whether a key has an entry. -/
def contains (t : Table κ α) (k : κ) : Bool := (t.get? k).isSome

/-- The number of entries. -/
def size (t : Table κ α) : Nat := t.entries.length

def isEmpty (t : Table κ α) : Bool := t.entries.isEmpty

/-- The keys, ascending. -/
def keys (t : Table κ α) : List κ := t.entries.map (·.1)

/-- The values, in the order of their keys. -/
def values (t : Table κ α) : List α := t.entries.map (·.2)

/-- Sets `k` to `a`, whether or not it had an entry. -/
def insert [Std.TransOrd κ] (t : Table κ α) (k : κ) (a : α) : Table κ α :=
  ⟨insertEntry k a t.entries, pairwise_insertEntry k a t.ascending⟩

/-- Keeps the entries that satisfy `p`. -/
def filter (t : Table κ α) (p : κ → α → Bool) : Table κ α :=
  ⟨t.entries.filter (fun e => p e.1 e.2), t.ascending.filter _⟩

/-- Drops the entry of `k`, if there is one. -/
def erase (t : Table κ α) (k : κ) : Table κ α :=
  t.filter (fun k' _ => compare k k' != .eq)

/-- Replaces every value by a function of its key and itself. -/
def map (t : Table κ α) (f : κ → α → β) : Table κ β :=
  ⟨t.entries.map (fun e => (e.1, f e.1 e.2)), List.pairwise_map.2 t.ascending⟩

/-- The entries of a list; of two with one key the later stays. -/
def ofList [Std.TransOrd κ] (l : List (κ × α)) : Table κ α :=
  l.foldl (fun t e => t.insert e.1 e.2) ∅

/-- The entries of both tables; those of the second stay where both have one. -/
def union [Std.TransOrd κ] (t other : Table κ α) : Table κ α :=
  other.entries.foldl (fun t e => t.insert e.1 e.2) t

/-- Sets `k` to a function of its value, `start` where there is none. -/
def adjust [Std.TransOrd κ] (t : Table κ α) (k : κ) (start : α) (f : α → α) : Table κ α :=
  t.insert k (f ((t.get? k).getD start))

/-! ## Look-ups after each operation -/

@[simp] theorem get?_empty (k : κ) : (∅ : Table κ α).get? k = none := rfl

theorem find_eq_some_iff [Std.LawfulEqOrd κ] {l : List (κ × α)}
    (h : l.Pairwise (fun a b => compare a.1 b.1 = .lt)) {k : κ} {a : α} :
    find k l = some a ↔ (k, a) ∈ l := by
  induction l with
  | nil => simp [find]
  | cons e r ih =>
    have hr := List.pairwise_cons.1 h
    simp only [find, List.mem_cons]
    by_cases he : compare k e.1 = .eq
    · have hk : k = e.1 := Std.LawfulEqOrd.eq_of_compare he
      have hn : (k, a) ∉ r := fun hm => by
        have := hr.1 _ hm
        simp [hk] at this
      simp only [he, if_true, Option.some.injEq, hn, or_false]
      constructor
      · rintro rfl; exact Prod.ext hk rfl
      · intro h; exact (congrArg Prod.snd h).symm
    · have : (k, a) ≠ e := fun h => he (by simp [← h])
      simp [he, this, ih hr.2]

theorem get?_eq_some_iff [Std.LawfulEqOrd κ] {t : Table κ α} {k : κ} {a : α} :
    t.get? k = some a ↔ (k, a) ∈ t.entries :=
  find_eq_some_iff t.ascending

theorem get?_filter [Std.LawfulEqOrd κ] (t : Table κ α) (p : κ → α → Bool) (k : κ) :
    (t.filter p).get? k = (t.get? k).filter (p k) := by
  apply Option.ext
  intro a
  rw [get?_eq_some_iff, Option.filter_eq_some_iff, get?_eq_some_iff]
  simp [filter, List.mem_filter]

theorem get?_erase [Std.LawfulEqOrd κ] (t : Table κ α) (k k' : κ) :
    (t.erase k).get? k' = if compare k k' = .eq then none else t.get? k' := by
  rw [erase, get?_filter]
  split
  · next h => cases t.get? k' <;> simp [Option.filter, h]
  · next h => cases t.get? k' <;> simp [Option.filter, h]

variable [Std.TransOrd κ]

theorem find_insertEntry (k k' : κ) (a : α) (l : List (κ × α)) :
    find k' (insertEntry k a l) = if compare k' k = .eq then some a else find k' l := by
  induction l with
  | nil => simp [insertEntry, find]
  | cons e r ih =>
    unfold insertEntry
    split
    case h_1 => simp [find]
    case h_2 hk =>
      simp only [find]
      split
      · rfl
      · next h =>
        rw [if_neg]
        exact fun he => h (Std.TransCmp.eq_trans he (Std.OrientedCmp.eq_symm hk))
    case h_3 hk =>
      simp only [find, ih]
      by_cases he : compare k' e.1 = .eq
      · have : ¬ compare k' k = .eq := fun h => by
          have := Std.TransCmp.eq_trans (Std.OrientedCmp.eq_symm h) he
          simp [this] at hk
        simp [he, this]
      · simp [he]

theorem get?_insert (t : Table κ α) (k k' : κ) (a : α) :
    (t.insert k a).get? k' = if compare k' k = .eq then some a else t.get? k' :=
  find_insertEntry k k' a t.entries

/-- Two tables with the same look-ups are one table. -/
theorem ext_get? [Std.LawfulEqOrd κ] {t s : Table κ α} (h : ∀ k, t.get? k = s.get? k) : t = s := by
  have key : ∀ l₁ l₂ : List (κ × α),
      l₁.Pairwise (fun a b => compare a.1 b.1 = .lt) →
      l₂.Pairwise (fun a b => compare a.1 b.1 = .lt) →
      (∀ x, x ∈ l₁ ↔ x ∈ l₂) → l₁ = l₂ := by
    intro l₁
    induction l₁ with
    | nil =>
      intro l₂ _ _ hm
      exact (List.eq_nil_iff_forall_not_mem.2 fun x hx => by simpa using (hm x).2 hx).symm
    | cons e r ih =>
      intro l₂ h₁ h₂ hm
      cases l₂ with
      | nil => exact absurd ((hm e).1 (by simp)) (by simp)
      | cons e' r' =>
        have a₁ := List.pairwise_cons.1 h₁
        have a₂ := List.pairwise_cons.1 h₂
        have he : e = e' := by
          rcases List.mem_cons.1 ((hm e).1 (by simp)) with h | h
          · exact h
          · rcases List.mem_cons.1 ((hm e').2 (by simp)) with h' | h'
            · exact h'.symm
            · have l₁ := a₂.1 e h
              have l₂ := a₁.1 e' h'
              have := Std.TransCmp.lt_trans l₁ l₂
              simp at this
        subst he
        congr 1
        refine ih r' a₁.2 a₂.2 fun x => ⟨fun hx => ?_, fun hx => ?_⟩
        · rcases List.mem_cons.1 ((hm x).1 (List.mem_cons_of_mem _ hx)) with h | h
          · subst h; have := a₁.1 _ hx; simp at this
          · exact h
        · rcases List.mem_cons.1 ((hm x).2 (List.mem_cons_of_mem _ hx)) with h | h
          · subst h; have := a₂.1 _ hx; simp at this
          · exact h
  have he : t.entries = s.entries := key _ _ t.ascending s.ascending fun x => by
    rw [← Prod.eta x, ← get?_eq_some_iff, ← get?_eq_some_iff, h]
  cases t; cases s; simp_all

end Table
end PriceOverlay
