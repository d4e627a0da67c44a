import PriceOverlay.Proofs.Reconcile.Convergence
/-!
# A plan parts the names

A plan goes through the wanted overlays with the names seen so far, looks each up among the
existing ones, and last sorts out what of these has no wanted name. So every name has one part: it
is created, updated, left as it is, or deleted, or it is not wanted and is not managed. The parts
depend on which overlays are wanted and which exist; their order is the order of the lists.

**Results**
* `mem_firsts_iff_isFirst`: what is kept of the wanted overlays is the first of each name.
* `pairs_congr`, `pairs_perm`: how the overlays that meet depend on the order of the lists.
* `parts_compute`: the parts of a plan.
* `compute_partitions`: the same, and what another order of either list changes.
-/
namespace PriceOverlay

namespace Overlay

/-- Whether a wanted overlay is the first of its name. -/
def IsFirst (desired : List Overlay) (d : Overlay) : Prop :=
  ∃ before after, desired = before ++ d :: after ∧ ∀ e ∈ before, e.name ≠ d.name

theorem mem_firsts_iff_isFirst {desired : List Overlay} {d : Overlay} :
    d ∈ firsts desired ↔ IsFirst desired d := by
  rw [mem_firsts_iff, List.find?_eq_some_iff_append, IsFirst]
  simp only [beq_self_eq_true, true_and, Bool.not_eq_true', beq_eq_false_iff_ne, ne_eq]

end Overlay

namespace Plan

open Overlay

variable {desired desired' : List Overlay} {existing existing' : List StoredOverlay}
  {d : Overlay} {o : StoredOverlay}

/-! ## Wanted overlays and those they meet -/

/-- The wanted overlays that meet an existing one of their name, each with the one it meets. -/
def pairs (desired : List Overlay) (existing : List StoredOverlay) :
    List (Overlay × StoredOverlay) :=
  (firsts desired).filterMap fun d => (existing.find? (·.name == d.name)).map (d, ·)

/-- The wanted overlays that are left as they are, each with the existing one that it agrees
with. -/
def kept (desired : List Overlay) (existing : List StoredOverlay) :
    List (Overlay × StoredOverlay) :=
  (pairs desired existing).filter fun u => !u.1.differs u.2

theorem get?_byName_eq_find? (h : (existing.map (·.name)).Nodup) (n : String) :
    (Table.ofList (existing.map fun o => (o.name, o))).get? n =
      existing.find? (·.name == n) :=
  Option.ext fun _ => (get?_byName h).trans (find?_key_eq_some_iff h).symm

section
variable (h : (existing.map (·.name)).Nodup)
include h

theorem updates_eq : (compute desired existing).updates =
    (pairs desired existing).filter fun u => u.1.differs u.2 := by
  simp only [compute, pairs, get?_byName_eq_find? h]

theorem unchanged_eq :
    (compute desired existing).unchanged = (kept desired existing).length := by
  simp only [compute, kept, pairs, get?_byName_eq_find? h, List.countP_eq_length_filter]

theorem creates_eq : (compute desired existing).creates =
    (firsts desired).filter fun d => !(existing.find? (·.name == d.name)).isSome := by
  simp only [compute, Table.contains, get?_byName_eq_find? h]

theorem mem_kept : (d, o) ∈ kept desired existing ↔
    d ∈ firsts desired ∧ o ∈ existing ∧ o.name = d.name ∧ d.differs o = false := by
  simp only [kept, pairs, List.mem_filter, List.mem_filterMap, Option.map_eq_some_iff,
    Prod.mk.injEq, find?_key_eq_some_iff h, Bool.not_eq_true']
  constructor
  · rintro ⟨⟨e, he, a, ⟨ha, hn⟩, rfl, rfl⟩, hd⟩
    exact ⟨he, ha, hn, hd⟩
  · rintro ⟨he, ho, hn, hd⟩
    exact ⟨⟨d, he, o, ⟨ho, hn⟩, rfl, rfl⟩, hd⟩

end

theorem map_fst_pairs (desired : List Overlay) (existing : List StoredOverlay) :
    (pairs desired existing).map Prod.fst =
      (firsts desired).filter fun d => (existing.find? (·.name == d.name)).isSome := by
  rw [pairs, List.map_filterMap, ← List.filterMap_eq_filter]
  refine List.filterMap_congr fun d _ => ?_
  rw [Option.map_map, Option.guard]
  cases existing.find? (·.name == d.name) <;> rfl

/-! ## Order -/

theorem find?_existing_congr (h : (existing.map (·.name)).Nodup) (hp : existing'.Perm existing)
    (n : String) : existing'.find? (·.name == n) = existing.find? (·.name == n) := by
  have h' : (existing'.map (·.name)).Nodup := (hp.map _).nodup_iff.2 h
  refine Option.ext fun o => ?_
  rw [find?_key_eq_some_iff h', find?_key_eq_some_iff h, hp.mem_iff]

/-- The overlays that meet do not depend on the order of the existing ones. -/
theorem pairs_congr (h : (existing.map (·.name)).Nodup) (hp : existing'.Perm existing) :
    pairs desired existing' = pairs desired existing := by
  simp only [pairs, find?_existing_congr h hp]

/-- Wanted overlays with distinct names meet the same ones in any order. -/
theorem pairs_perm (h : (desired.map (·.name)).Nodup) (hp : desired'.Perm desired) :
    (pairs desired' existing).Perm (pairs desired existing) := by
  rw [pairs, pairs, firsts_eq_self h, firsts_eq_self ((hp.map _).nodup_iff.2 h)]
  exact hp.filterMap _

/-! ## The parts -/

/-- All names in the parts of a plan, with those of what it leaves as it is. -/
def partNames (p : Plan) (kept : List (Overlay × StoredOverlay)) : List String :=
  p.creates.map (·.name) ++ p.updates.map (·.1.name) ++ kept.map (·.1.name) ++
    p.deletes.map (·.name)

/-- What it is for a plan to part the names of wanted and existing overlays; it leaves as they are
the wanted ones of `kept`, which agree with existing ones. -/
structure Parts (desired : List Overlay) (existing : List StoredOverlay) (p : Plan)
    (kept : List (Overlay × StoredOverlay)) : Prop where
  /-- No name is in two parts, or in one part twice. -/
  once : (p.partNames kept).Nodup
  /-- Each wanted name is created, updated or left as it is. -/
  wanted : (p.creates.map (·.name) ++ p.updates.map (·.1.name) ++ kept.map (·.1.name)).Perm
    (desired.map (·.name)).dedup
  created : ∀ d, d ∈ p.creates ↔ IsFirst desired d ∧ ∀ o ∈ existing, o.name ≠ d.name
  updated : ∀ d o, (d, o) ∈ p.updates ↔
    IsFirst desired d ∧ o ∈ existing ∧ o.name = d.name ∧ d.differs o = true
  agreed : ∀ d o, (d, o) ∈ kept ↔
    IsFirst desired d ∧ o ∈ existing ∧ o.name = d.name ∧ d.differs o = false
  counted : p.unchanged = kept.length
  deleted : ∀ o, o ∈ p.deletes ↔
    o ∈ existing ∧ o.isManaged = true ∧ ∀ d ∈ desired, d.name ≠ o.name
  /-- What exists and is in no part is what is neither managed nor wanted. -/
  apart : ∀ o ∈ existing, o.name ∉ p.partNames kept ↔
    o.isManaged = false ∧ ∀ d ∈ desired, d.name ≠ o.name

/-- Created, updated and left alone are together the first overlays of the wanted names. -/
theorem perm_wanted (h : (existing.map (·.name)).Nodup) :
    ((compute desired existing).creates ++
      ((compute desired existing).updates ++ kept desired existing).map Prod.fst).Perm
      (firsts desired) := by
  have hmet : ((compute desired existing).updates ++ kept desired existing).Perm
      (pairs desired existing) := by
    rw [updates_eq h]
    exact List.filter_append_perm _ _
  refine ((hmet.map Prod.fst).append_left _).trans ?_
  rw [map_fst_pairs, creates_eq h]
  exact List.perm_append_comm.trans (List.filter_append_perm _ _)

theorem parts_compute (h : (existing.map (·.name)).Nodup) :
    Parts desired existing (compute desired existing) (kept desired existing) := by
  let p := compute desired existing
  have hwanted : (p.creates.map (·.name) ++ p.updates.map (·.1.name) ++
      (kept desired existing).map (·.1.name)).Perm (desired.map (·.name)).dedup := by
    have hp := ((perm_wanted h).map (·.name)).trans (perm_names_firsts desired)
    simpa only [List.map_append, List.map_map, List.append_assoc, Function.comp_def] using hp
  have hmem : ∀ n, n ∈ p.partNames (kept desired existing) ↔
      n ∈ desired.map (·.name) ∨ n ∈ p.deletes.map (·.name) := by
    intro n
    rw [partNames, List.mem_append, hwanted.mem_iff, List.mem_dedup]
  have hdeletes : ∀ o, o ∈ p.deletes ↔
      o ∈ existing ∧ o.isManaged = true ∧ ∀ d ∈ desired, d.name ≠ o.name := fun _ => mem_deletes
  refine ⟨?once, hwanted, fun d => ?_, fun d o => ?_, fun d o => ?_, unchanged_eq h, hdeletes,
    fun o ho => ?apart⟩
  case once =>
    have hnodup : (p.deletes.map (·.name)).Nodup := (List.filter_sublist.map _).nodup h
    refine List.nodup_append.2 ⟨hwanted.nodup_iff.2 (List.nodup_dedup _), hnodup, ?_⟩
    rintro n hn _ hm rfl
    obtain ⟨d, hd, rfl⟩ := List.mem_map.1 (List.mem_dedup.1 (hwanted.mem_iff.1 hn))
    obtain ⟨o, ho, hname⟩ := List.mem_map.1 hm
    exact ((hdeletes o).1 ho).2.2 d hd hname.symm
  case apart =>
    rw [hmem, not_or]
    constructor
    · rintro ⟨hno, hkept⟩
      have hunwanted : ∀ d ∈ desired, d.name ≠ o.name :=
        fun d hd hn => hno (List.mem_map.2 ⟨d, hd, hn⟩)
      refine ⟨?_, hunwanted⟩
      rw [← Bool.not_eq_true]
      exact fun hm => hkept (List.mem_map.2 ⟨o, (hdeletes o).2 ⟨ho, hm, hunwanted⟩, rfl⟩)
    · rintro ⟨hm, hunwanted⟩
      refine ⟨fun hn => ?_, fun hn => ?_⟩
      · obtain ⟨d, hd, hname⟩ := List.mem_map.1 hn
        exact hunwanted d hd hname
      · obtain ⟨a, ha, hname⟩ := List.mem_map.1 hn
        obtain ⟨ha, hma, -⟩ := (hdeletes a).1 ha
        rw [List.inj_on_of_nodup_map h ha ho hname, hm] at hma
        cases hma
  all_goals rw [← mem_firsts_iff_isFirst]
  · exact mem_creates h
  · exact mem_updates h
  · exact mem_kept h

/-- **Partition.** Where existing overlays have distinct names, a plan parts the names. Another
order of the existing overlays changes at most the order of what is deleted; another order of the
wanted ones, if their names are distinct, changes at most the order of what is created, updated or
left alone. -/
theorem compute_partitions (desired : List Overlay) (existing : List StoredOverlay)
    (distinct : (existing.map (·.name)).Nodup) :
    let p := compute desired existing
    Parts desired existing p (kept desired existing) ∧
    (∀ existing', existing'.Perm existing →
      let q := compute desired existing'
      q.creates = p.creates ∧ q.updates = p.updates ∧
        kept desired existing' = kept desired existing ∧ q.unchanged = p.unchanged ∧
        q.deletes.Perm p.deletes) ∧
    ∀ desired', desired'.Perm desired → (desired.map (·.name)).Nodup →
      let q := compute desired' existing
      q.creates.Perm p.creates ∧ q.updates.Perm p.updates ∧
        (kept desired' existing).Perm (kept desired existing) ∧ q.unchanged = p.unchanged ∧
        q.deletes = p.deletes := by
  intro p
  refine ⟨parts_compute distinct, fun existing' hp => ?_, fun desired' hp hd => ?_⟩
  · have distinct' : (existing'.map (·.name)).Nodup := (hp.map _).nodup_iff.2 distinct
    have hkept : kept desired existing' = kept desired existing := by
      rw [kept, kept, pairs_congr distinct hp]
    refine ⟨?_, ?_, hkept, ?_, hp.filter _⟩
    · simp only [creates_eq distinct', p, creates_eq distinct, find?_existing_congr distinct hp]
    · rw [updates_eq distinct', updates_eq distinct, pairs_congr distinct hp]
    · rw [unchanged_eq distinct', unchanged_eq distinct, hkept]
  · have hkept : (kept desired' existing).Perm (kept desired existing) :=
      (pairs_perm hd hp).filter _
    refine ⟨?_, ?_, hkept, ?_, ?_⟩
    · rw [creates_eq distinct, creates_eq distinct, firsts_eq_self hd,
        firsts_eq_self ((hp.map _).nodup_iff.2 hd)]
      exact hp.filter _
    · rw [updates_eq distinct, updates_eq distinct]
      exact (pairs_perm hd hp).filter _
    · rw [unchanged_eq distinct, unchanged_eq distinct, hkept.length_eq]
    · simp only [p, compute, hp.any_eq]

/-- Wanted overlays of distinct names. -/
def mixedDesired : List Overlay := [planOverlay "m5" 20, planOverlay "t3" 20, planOverlay "c5" 20]

/-- One that differs from the wanted one of its name, two that are managed and not wanted, one that
is neither, and one that is as wanted. -/
def mixedExisting : List StoredOverlay :=
  [(planOverlay "m5" 5).toStored, (planOverlay "r5" 20).toStored,
    { (planOverlay "x1" 20).toStored with labels := ∅ }, (planOverlay "c5" 20).toStored,
    (planOverlay "p4" 20).toStored]

theorem compute_partitions_mixed :
    let twice := mixedDesired ++ [planOverlay "t3" 7]
    let p := compute mixedDesired mixedExisting
    ((mixedExisting.map (·.name)).Nodup ∧ (mixedDesired.map (·.name)).Nodup ∧
        p.partNames (kept mixedDesired mixedExisting) = ["savings-plan-t3", "savings-plan-m5",
          "savings-plan-c5", "savings-plan-r5", "savings-plan-p4"]) ∧
      Parts twice mixedExisting (compute twice mixedExisting) (kept twice mixedExisting) ∧
      (compute mixedDesired mixedExisting.reverse).deletes.Perm p.deletes ∧
      (compute mixedDesired.reverse mixedExisting).updates.Perm p.updates := by
  intro twice p
  have distinct : (mixedExisting.map (·.name)).Nodup := by decide
  have hnames : (mixedDesired.map (·.name)).Nodup := by decide
  have h := compute_partitions mixedDesired mixedExisting distinct
  exact ⟨⟨distinct, hnames, by decide +kernel⟩,
    (compute_partitions twice mixedExisting distinct).1,
    (h.2.1 mixedExisting.reverse (List.reverse_perm _)).2.2.2.2,
    (h.2.2 mixedDesired.reverse (List.reverse_perm _) hnames).2.1⟩

end Plan
end PriceOverlay
