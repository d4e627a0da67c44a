import Mathlib.Data.List.Induction
import PriceOverlay.Proofs.Store.Owners
/-!
# What collecting an owner removes

An owner is collected by what the index lists for it, and the names listed are the answer. An
overlay with the owner is always listed: it loses the owner, and is removed if it has no other one.
So the answer also names overlays that stay. A name is listed from when an overlay with the owner
was put under it until the overlay is replaced or deleted by a write, or the owner is collected.
What is put over an overlay without a write leaves the name listed; if it has no owners at all, it
is removed with an owner that it does not have.

**Results**
* `mem_ownedBy_change`: what one change enters in the index and clears from it.
* `mem_ownedBy_write_of_ne`: a write leaves what is listed of other names.
* `mem_ownedBy_changes`: what the index lists after a run.
* `indexed_of_seedsApart`: runs that put nothing over an overlay without a write.
* `collects_owned`: what a collection leaves, and what it answers.
* `not_collected_exactly`: it may remove what the owner does not own, and name what stays.
-/
namespace PriceOverlay

theorem StoredOverlay.left?_eq (uid : String) (o : StoredOverlay) :
    o.left? uid = if ∀ w ∈ o.owners, w.uid = uid then none else some (o.without [uid]) := by
  have hempty : (o.without [uid]).owners.isEmpty = true ↔ ∀ w ∈ o.owners, w.uid = uid := by
    simp only [without, List.isEmpty_iff, List.filter_eq_nil_iff, List.mem_singleton,
      decide_eq_true_eq, not_not]
  simp only [left?, hempty]

/-- An overlay that does not have the owner is left as it is, unless it has no owners. -/
theorem StoredOverlay.left?_of_not_ownedBy {uid : String} {o : StoredOverlay}
    (h : ¬ o.OwnedBy uid) : o.left? uid = if o.owners = [] then none else some o := by
  have hwithout : o.without [uid] = o :=
    without_eq_self_iff.2 fun u hu => List.mem_singleton.1 hu ▸ h
  simp only [left?, hwithout, List.isEmpty_iff]

/-- The overlay that a change puts into a store whatever is there. -/
def StoreChange.seeded? : StoreChange → Option StoredOverlay
  | seed o => some o
  | write _ | collect _ => none

namespace ObjectStore

variable {s : ObjectStore} {c : StoreChange} {uid n : String}

/-! ## What a change does to the index -/

/-- The overlay that a change leaves in the store, as it is stored. -/
def stored? (s : ObjectStore) : StoreChange → Option StoredOverlay
  | .seed o => some (s.seed o).1
  | .write w => (s.write w).1.toOption.join
  | .collect _ => none

/-- Whether a change enters a name in the index under an owner. -/
def Enters (s : ObjectStore) (c : StoreChange) (uid n : String) : Prop :=
  ∃ o, s.stored? c = some o ∧ o.name = n ∧ o.OwnedBy uid

/-- Whether a change clears a name from the index under an owner: it replaces or deletes the overlay
of that name by a write, or collects the owner. -/
def Clears (s : ObjectStore) (c : StoreChange) (uid n : String) : Prop :=
  match c with
  | .seed _ => False
  | .write w => w.verb ≠ .create ∧ w.name = n ∧ s.Accepts w
  | .collect gone => gone = uid

theorem mem_ownedBy_put {owned : Table String NameSet} {o : StoredOverlay} :
    n ∈ (s.put owned o).2.ownedBy uid ↔ lists owned uid n = true ∨ o.name = n ∧ o.OwnedBy uid := by
  rw [mem_ownedBy_iff, eq_comm (a := o.name)]
  exact lists_link owned _ uid n

/-- The index lists a name under an owner after a change if the change enters it there, or if it
was listed before and the change does not clear it. -/
theorem mem_ownedBy_change : n ∈ (s.change c).ownedBy uid ↔
    s.Enters c uid n ∨ n ∈ s.ownedBy uid ∧ ¬ s.Clears c uid n := by
  cases c with
  | seed o =>
    refine mem_ownedBy_put.trans ?_
    simp only [Enters, stored?, Clears, Option.some.injEq, exists_eq_left', not_false_eq_true,
      and_true, ← mem_ownedBy_iff]
    exact or_comm
  | write w =>
    show n ∈ (s.write w).2.ownedBy uid ↔ _
    rcases s.write_cases w with ⟨hno, e, heq⟩ | ⟨o, rfl, -, heq⟩ | ⟨o, a, rfl, ha, hv, heq⟩ |
      ⟨name, a, rfl, ha, heq⟩ <;> simp only [Enters, stored?, Clears, heq]
    · simp only [hno, and_false, not_false_eq_true, and_true, Except.toOption, Option.join_none,
        reduceCtorEq, false_and, exists_false, false_or]
    · refine mem_ownedBy_put.trans ?_
      simp only [Write.verb, ne_eq, not_true_eq_false, false_and, not_false_eq_true, and_true,
        Except.toOption, Option.join_some, Option.some.injEq, exists_eq_left', ← mem_ownedBy_iff]
      exact or_comm
    · refine mem_ownedBy_put.trans ?_
      have haccepts : s.Accepts (.update o) := ⟨a, ha, hv⟩
      simp only [lists_unlink, ← mem_ownedBy_iff, Write.verb, Write.name, haccepts, ne_eq,
        reduceCtorEq, not_false_eq_true, true_and, and_true, Except.toOption, Option.join_some,
        Option.some.injEq, exists_eq_left', eq_comm (a := n)]
      rw [or_comm, and_comm (a := ¬ o.name = n)]
      rfl
    · have haccepts : s.Accepts (.delete name) := ⟨a, ha⟩
      simp only [Write.verb, Write.name, haccepts, ne_eq, reduceCtorEq, not_false_eq_true, true_and,
        and_true, Except.toOption, Option.join_some, false_and, exists_false, false_or]
      rw [mem_ownedBy_iff, mem_ownedBy_iff, and_comm, eq_comm (a := name)]
      exact lists_unlink s.owned name uid n
  | collect gone =>
    refine mem_ownedBy_collectGarbage.trans ?_
    simp only [Enters, stored?, Clears, reduceCtorEq, false_and, exists_false, false_or,
      eq_comm (a := gone), ne_eq, and_comm]

/-- A write changes nothing in the index but what is listed of its own name. -/
theorem mem_ownedBy_write_of_ne {w : Write} (h : n ≠ w.name) :
    n ∈ (s.write w).2.ownedBy uid ↔ n ∈ s.ownedBy uid := by
  have hno : ¬ s.Enters (.write w) uid n := by
    rintro ⟨o, ho, rfl, -⟩
    cases hw : (s.write w).1 with
    | error e => simp only [stored?, hw, Except.toOption, Option.join_none, reduceCtorEq] at ho
    | ok stored =>
      simp only [stored?, hw, Except.toOption, Option.join_some] at ho
      exact h (name_of_get? ((get?_write_of_ok hw).trans ho))
  have hkept : ¬ s.Clears (.write w) uid n := fun hc => h hc.2.1.symm
  show n ∈ (s.change (.write w)).ownedBy uid ↔ _
  rw [mem_ownedBy_change, or_iff_right hno, and_iff_left hkept]

/-! ## What a run leaves in the index -/

/-- Whether a run has entered a name in the index under an owner and has not cleared it since. -/
inductive Entered (uid n : String) : List StoreChange → Prop
  | entered {cs : List StoreChange} {c : StoreChange} (h : (empty.changes cs).Enters c uid n) :
    Entered uid n (cs ++ [c])
  | kept {cs : List StoreChange} {c : StoreChange} (h : Entered uid n cs)
      (hc : ¬ (empty.changes cs).Clears c uid n) : Entered uid n (cs ++ [c])

theorem entered_append_singleton_iff {cs : List StoreChange} :
    Entered uid n (cs ++ [c]) ↔
      (empty.changes cs).Enters c uid n ∨
        Entered uid n cs ∧ ¬ (empty.changes cs).Clears c uid n := by
  constructor
  · intro h
    generalize hds : cs ++ [c] = ds at h
    cases h with
    | entered h =>
      obtain ⟨rfl, rfl⟩ := List.append_singleton_inj.1 hds
      exact .inl h
    | kept h hc =>
      obtain ⟨rfl, rfl⟩ := List.append_singleton_inj.1 hds
      exact .inr ⟨h, hc⟩
  · rintro (h | ⟨h, hc⟩)
    · exact .entered h
    · exact .kept h hc

theorem mem_ownedBy_changes (cs : List StoreChange) :
    n ∈ (empty.changes cs).ownedBy uid ↔ Entered uid n cs := by
  induction cs using List.reverseRecOn with
  | nil =>
    refine ⟨fun h => absurd h List.not_mem_nil, fun h => ?_⟩
    generalize hds : [] = ds at h
    cases h <;> exact absurd hds (List.append_ne_nil_of_right_ne_nil _ (List.cons_ne_nil _ _)).symm
  | append_singleton cs c ih =>
    rw [changes_append, entered_append_singleton_iff, ← ih]
    exact mem_ownedBy_change

/-- Whether a run puts overlays into a store without a write only where there is nothing. -/
def seedsApart (s : ObjectStore) : List StoreChange → Bool
  | [] => true
  | c :: r => (c.seeded?.all fun o => (s.get? o.name).isNone) && seedsApart (s.change c) r

theorem indexed_of_seedsApart {cs : List StoreChange} (h : s.Indexed)
    (apart : s.seedsApart cs = true) : (s.changes cs).Indexed := by
  induction cs generalizing s with
  | nil => exact h
  | cons c r ih =>
    obtain ⟨hc, hr⟩ := Bool.and_eq_true_iff.1 apart
    refine ih ?_ hr
    cases c with
    | seed o => exact h.put_free (Option.isNone_iff_eq_none.1 hc)
    | write w => exact h.change rfl
    | collect uid => exact h.change rfl

/-! ## Collections -/

/-- **Collection.** Collecting an owner removes the overlays that have no other owner, and takes it
out of those that have one. All others stay as they are, but for one without owners that the index
lists. The answer is the names that the index lists: those that the run has entered under the owner
and has not cleared since. Unless the run put an overlay over another without a write, they are the
names of the overlays with the owner, also of those that stay. -/
theorem collects_owned (cs : List StoreChange) (uid : String) :
    let s := empty.changes cs
    let names := (s.collectGarbage uid).1
    let left := (s.collectGarbage uid).2
    (∀ n o, s.get? n = some o →
      (o.OwnedBy uid → left.get? n =
        if ∀ w ∈ o.owners, w.uid = uid then none else some (o.without [uid])) ∧
      (¬ o.OwnedBy uid → left.get? n = if o.owners = [] ∧ n ∈ names then none else some o)) ∧
    (∀ n, s.get? n = none → left.get? n = none) ∧
    names.Pairwise (· < ·) ∧
    (∀ n, n ∈ names ↔ Entered uid n cs) ∧
    (empty.seedsApart cs = true →
      ∀ n, n ∈ names ↔ ∃ o, s.get? n = some o ∧ o.OwnedBy uid) := by
  intro s names left
  have hleft : ∀ n, left.get? n =
      if n ∈ names then (s.get? n).bind (·.left? uid) else s.get? n :=
    s.get?_collectGarbage uid
  refine ⟨fun n o ho => ⟨fun howned => ?_, fun hno => ?_⟩, fun n hn => ?_,
    s.ascending_ownedBy uid, fun n => mem_ownedBy_changes cs, fun apart n => ?_⟩
  · have hlisted : n ∈ names := covered_changes cs n o ho uid howned
    rw [hleft, if_pos hlisted, ho, Option.bind_some, StoredOverlay.left?_eq]
  · rw [hleft, ho, Option.bind_some, StoredOverlay.left?_of_not_ownedBy hno]
    by_cases hlisted : n ∈ names
    · simp only [hlisted, if_true, and_true]
    · simp only [hlisted, if_false, and_false]
  · rw [hleft, hn, Option.bind_none, ite_self]
  · exact (indexed_of_seedsApart .empty apart).listed_iff uid n

/-- Two overlays that share an owner, one of which has another one too. -/
def apartChanges : List StoreChange :=
  [.seed (ownedOverlay "b" ["uid-1", "uid-2"]), .seed (ownedOverlay "a" ["uid-1"]),
    .write (.create (ownedOverlay "c" ["uid-2"]))]

theorem collects_owned_apart :
    let s := empty.changes apartChanges
    (empty.seedsApart apartChanges = true ∧ (s.collectGarbage "uid-1").1 = ["a", "b"] ∧
        (s.collectGarbage "uid-1").2.objects.keys = ["b", "c"]) ∧
      ∀ n, n ∈ (s.collectGarbage "uid-1").1 ↔ ∃ o, s.get? n = some o ∧ o.OwnedBy "uid-1" := by
  intro s
  have apart : empty.seedsApart apartChanges = true := by decide +kernel
  have h := collects_owned apartChanges "uid-1"
  exact ⟨⟨apart, by decide +kernel, by decide +kernel⟩, h.2.2.2.2 apart⟩

/-- An overlay without owners is put over one with an owner, beside an overlay that has two. -/
def reseededChanges : List StoreChange :=
  [.seed (ownedOverlay "a" ["uid-1"]), .seed (ownedOverlay "a" []),
    .write (.create (ownedOverlay "b" ["uid-1", "uid-2"]))]

/-- Collecting an owner may remove an overlay that does not have it, and may name one that stays. -/
theorem not_collected_exactly :
    (¬ ∀ (cs : List StoreChange) (uid n : String) (o : StoredOverlay),
      (empty.changes cs).get? n = some o → ¬ o.OwnedBy uid →
        ((empty.changes cs).collectGarbage uid).2.get? n = some o) ∧
    ¬ ∀ (cs : List StoreChange) (uid n : String),
      n ∈ ((empty.changes cs).collectGarbage uid).1 →
        ((empty.changes cs).collectGarbage uid).2.get? n = none := by
  refine ⟨fun h => ?_, fun h => ?_⟩
  · have hstored : (empty.changes reseededChanges).get? "a" =
        some { ownedOverlay "a" [] with version := some "2" } := by decide +kernel
    have hkept := h reseededChanges "uid-1" "a" _ hstored (by rintro ⟨w, hw, -⟩; cases hw)
    exact absurd hkept (by decide +kernel)
  · have hgone := h reseededChanges "uid-1" "b" (by decide +kernel)
    exact absurd hgone (by decide +kernel)

end ObjectStore
end PriceOverlay
