import PriceOverlay.Proofs.Lookup
import PriceOverlay.Reconcile.Pass
/-!
# What is in a plan

Of the wanted overlays with one name the first counts. It is created if no listed overlay
has its name, and updated if the listed one differs; a listed overlay is deleted if it is
managed and no wanted one has its name. So no name is attempted twice.

**Results**
* `differs_eq_false_iff`: when an existing overlay is left alone.
* `find?_firsts`, `nodup_names_firsts`: what `Overlay.firsts` keeps.
* `mem_creates`, `mem_updates`, `mem_deletes`: the three parts of a plan.
* `nodup_names_attempts`: the attempts of a plan have distinct names.
-/
namespace PriceOverlay

namespace Overlay

/-- When an existing overlay is left alone. -/
theorem differs_eq_false_iff {d : Overlay} {o : StoredOverlay} : d.differs o = false ↔
    d.requirements = o.requirements ∧ d.weight = o.weight ∧ d.price = o.price ∧
      (∀ k v, d.labels.get? k = some v → o.labels.get? k = some v) ∧
      ∀ w ∈ d.owners, ∃ a ∈ o.owners, a.uid = w.uid := by
  simp only [differs, Bool.or_eq_false_iff, bne_eq_false_iff_eq, List.any_eq_false, bne_iff_ne,
    ne_eq, not_not, Prod.forall, ← Table.get?_eq_some_iff, Bool.not_eq_true', beq_iff_eq,
    not_forall, exists_prop, and_assoc]

/-! ## First by name -/

/-- One more wanted overlay, unless its name was seen. -/
def addFirst (seen : List Overlay) (d : Overlay) : List Overlay :=
  if seen.any (·.name == d.name) then seen else seen ++ [d]

theorem firsts_eq (desired : List Overlay) : firsts desired = desired.foldl addFirst [] := rfl

theorem any_name_iff {l : List Overlay} {n : String} :
    l.any (·.name == n) = true ↔ ∃ d ∈ l, d.name = n := by
  simp only [List.any_eq_true, beq_iff_eq]

theorem find?_addFirst (seen : List Overlay) (d : Overlay) (n : String) :
    (addFirst seen d).find? (·.name == n) =
      (seen.find? (·.name == n)).or (if d.name = n then some d else none) := by
  unfold addFirst
  split
  · rename_i hs
    split
    · rename_i hn
      obtain ⟨b, hb, hbn⟩ := any_name_iff.1 hs
      have hf : (seen.find? (·.name == n)).isSome := by
        rw [List.find?_isSome]
        exact ⟨b, hb, by rw [hbn, hn, beq_self_eq_true]⟩
      obtain ⟨a, ha⟩ := Option.isSome_iff_exists.1 hf
      rw [ha, Option.some_or]
    · rw [Option.or_none]
  · rw [List.find?_append, List.find?_singleton]
    simp only [beq_iff_eq]

theorem find?_foldl_addFirst (l seen : List Overlay) (n : String) :
    (l.foldl addFirst seen).find? (·.name == n) =
      (seen.find? (·.name == n)).or (l.find? (·.name == n)) := by
  induction l generalizing seen with
  | nil => rw [List.foldl_nil, List.find?_nil, Option.or_none]
  | cons d r ih =>
    rw [List.foldl_cons, ih, find?_addFirst, Option.or_assoc, List.find?_cons]
    congr 1
    by_cases h : d.name = n
    · simp only [h, if_true, beq_self_eq_true, Option.some_or]
    · simp only [h, if_false, beq_eq_false_iff_ne.2 h, Option.none_or]

/-- `firsts` finds under each name what the wanted overlays have first. -/
theorem find?_firsts (desired : List Overlay) (n : String) :
    (firsts desired).find? (·.name == n) = desired.find? (·.name == n) := by
  rw [firsts_eq, find?_foldl_addFirst, List.find?_nil, Option.none_or]

theorem nodup_foldl_addFirst (l : List Overlay) :
    ∀ {seen : List Overlay}, (seen.map (·.name)).Nodup →
      ((l.foldl addFirst seen).map (·.name)).Nodup := by
  induction l with
  | nil => exact id
  | cons d r ih =>
    intro seen h
    refine ih ?_
    unfold addFirst
    split
    · exact h
    · rename_i hs
      rw [List.map_append, List.nodup_append]
      refine ⟨h, List.nodup_singleton _, fun a ha b hb he => hs (any_name_iff.2 ?_)⟩
      obtain ⟨x, hx, rfl⟩ := List.mem_map.1 ha
      exact ⟨x, hx, he.trans (List.mem_singleton.1 hb)⟩

theorem nodup_names_firsts (desired : List Overlay) : ((firsts desired).map (·.name)).Nodup :=
  nodup_foldl_addFirst desired List.nodup_nil

/-- With distinct names, an overlay is the one found under its name. -/
theorem find?_eq_some_of_nodup {l : List Overlay} (h : (l.map (·.name)).Nodup) {d : Overlay}
    (hd : d ∈ l) : l.find? (·.name == d.name) = some d :=
  (find?_key_eq_some_iff h).2 ⟨hd, rfl⟩

theorem mem_firsts_iff {desired : List Overlay} {d : Overlay} :
    d ∈ firsts desired ↔ desired.find? (·.name == d.name) = some d := by
  constructor
  · intro h
    rw [← find?_firsts]
    exact find?_eq_some_of_nodup (nodup_names_firsts desired) h
  · intro h
    rw [← find?_firsts] at h
    exact List.mem_of_find?_eq_some h

/-- Overlays with distinct names are all kept. -/
theorem firsts_eq_self {desired : List Overlay} (h : (desired.map (·.name)).Nodup) :
    firsts desired = desired := by
  have hkeep : ∀ l seen : List Overlay, ((seen ++ l).map (·.name)).Nodup →
      l.foldl addFirst seen = seen ++ l := by
    intro l
    induction l with
    | nil => exact fun seen _ => (List.append_nil seen).symm
    | cons d r ih =>
      intro seen h
      have hd : addFirst seen d = seen ++ [d] := by
        refine if_neg fun hs => ?_
        obtain ⟨b, hb, hn⟩ := any_name_iff.1 hs
        rw [List.map_append, List.nodup_append] at h
        exact h.2.2 _ (List.mem_map.2 ⟨b, hb, rfl⟩) _ (List.mem_cons_self ..) hn
      rw [List.foldl_cons, hd, ih (seen ++ [d]) (by rwa [List.append_assoc]), List.append_assoc]
      rfl
  exact hkeep desired [] h

theorem mem_of_mem_firsts {desired : List Overlay} {d : Overlay} (h : d ∈ firsts desired) :
    d ∈ desired :=
  List.mem_of_find?_eq_some (mem_firsts_iff.1 h)

theorem exists_first {desired : List Overlay} {d : Overlay} (h : d ∈ desired) :
    ∃ e ∈ firsts desired, e.name = d.name := by
  have hf : (desired.find? (·.name == d.name)).isSome := by
    rw [List.find?_isSome]
    exact ⟨d, h, beq_self_eq_true _⟩
  obtain ⟨e, he⟩ := Option.isSome_iff_exists.1 hf
  have hn : e.name = d.name := by simpa using List.find?_some he
  exact ⟨e, mem_firsts_iff.2 (hn ▸ he), hn⟩

end Overlay

namespace Plan

open Overlay

variable {desired : List Overlay} {existing : List StoredOverlay}
  {d : Overlay} {o : StoredOverlay}

/-! ## The parts of a plan -/

theorem get?_byName (h : (existing.map (·.name)).Nodup) {n : String} :
    (Table.ofList (existing.map fun o => (o.name, o))).get? n = some o ↔
      o ∈ existing ∧ o.name = n := by
  rw [Table.get?_ofList (by rwa [List.map_map])]
  simp only [List.mem_map, Prod.mk.injEq]
  constructor
  · rintro ⟨a, ha, rfl, rfl⟩
    exact ⟨ha, rfl⟩
  · rintro ⟨ho, rfl⟩
    exact ⟨o, ho, rfl, rfl⟩

theorem mem_creates (h : (existing.map (·.name)).Nodup) :
    d ∈ (compute desired existing).creates ↔
      d ∈ firsts desired ∧ ∀ o ∈ existing, o.name ≠ d.name := by
  simp only [compute, List.mem_filter, Bool.not_eq_true', Table.contains_eq_false_iff,
    Option.eq_none_iff_forall_ne_some, ne_eq, get?_byName h, not_and]

theorem mem_updates (h : (existing.map (·.name)).Nodup) :
    (d, o) ∈ (compute desired existing).updates ↔
      d ∈ firsts desired ∧ o ∈ existing ∧ o.name = d.name ∧ d.differs o = true := by
  simp only [compute, List.mem_filter, List.mem_filterMap, Option.map_eq_some_iff,
    Prod.mk.injEq, get?_byName h]
  constructor
  · rintro ⟨⟨e, he, a, ⟨ha, hn⟩, rfl, rfl⟩, hd⟩
    exact ⟨he, ha, hn, hd⟩
  · rintro ⟨he, ho, hn, hd⟩
    exact ⟨⟨d, he, o, ⟨ho, hn⟩, rfl, rfl⟩, hd⟩

theorem mem_deletes :
    o ∈ (compute desired existing).deletes ↔
      o ∈ existing ∧ o.isManaged = true ∧ ∀ d ∈ desired, d.name ≠ o.name := by
  simp only [compute, List.mem_filter, Bool.and_eq_true, Bool.not_eq_true', ← Bool.not_eq_true,
    any_name_iff, not_exists, not_and, ne_eq]

/-! ## The attempts of a plan -/

theorem nodup_names_updates (desired : List Overlay) (existing : List StoredOverlay) :
    ((compute desired existing).updates.map (·.1.name)).Nodup := by
  let byName := Table.ofList (existing.map fun o => (o.name, o))
  have hs : ∀ l : List Overlay, ((l.filterMap fun d => (byName.get? d.name).map (d, ·)).map
      (·.1.name)).Sublist (l.map (·.name)) := by
    intro l
    induction l with
    | nil => exact .slnil
    | cons d r ih =>
      rw [List.filterMap_cons]
      cases byName.get? d.name with
      | none => exact ih.cons _
      | some o => exact ih.cons_cons _
  exact ((List.filter_sublist.map _).trans (hs _)).nodup (nodup_names_firsts desired)

/-- No name is attempted twice. -/
theorem nodup_names_attempts (h : (existing.map (·.name)).Nodup) :
    ((compute desired existing).attempts.map (·.name)).Nodup := by
  have hc : ((compute desired existing).creates.map (·.name)).Nodup :=
    (List.filter_sublist.map _).nodup (nodup_names_firsts desired)
  have hd : ((compute desired existing).deletes.map (·.name)).Nodup :=
    (List.filter_sublist.map _).nodup h
  simp only [attempts, List.map_append, List.map_map, Function.comp_def]
  rw [List.nodup_append, List.nodup_append]
  refine ⟨⟨hc, nodup_names_updates desired existing, ?_⟩, hd, ?_⟩
  · intro a ha b hb hab
    obtain ⟨d, hd, rfl⟩ := List.mem_map.1 ha
    obtain ⟨u, hu, rfl⟩ := List.mem_map.1 hb
    obtain ⟨-, ho, hn, -⟩ := (mem_updates h).1 hu
    exact ((mem_creates h).1 hd).2 _ ho (hn.trans hab.symm)
  · intro a ha b hb hab
    obtain ⟨o, ho, rfl⟩ := List.mem_map.1 hb
    have hno := (mem_deletes.1 ho).2.2
    rcases List.mem_append.1 ha with ha | ha
    · obtain ⟨d, hd, rfl⟩ := List.mem_map.1 ha
      exact hno d (mem_of_mem_firsts ((mem_creates h).1 hd).1) hab
    · obtain ⟨u, hu, rfl⟩ := List.mem_map.1 ha
      exact hno u.1 (mem_of_mem_firsts ((mem_updates h).1 hu).1) hab

end Plan
end PriceOverlay
