import Mathlib.Logic.Function.Basic
import PriceOverlay.Proofs.Reconcile.Pass
/-!
# A store divided among scopes

Several scopes share a store. As long as their names and labels do not meet, a pass over one
of them replaces what that scope has and leaves what the others have.

**Results**
* `Divided.pass`: a pass over one scope changes the share of that scope only.
* `Divided.filter_get?_pass`: what is told apart from that share stays exactly as it is.
* `get?_of_unwanted`: under the names that a pass does not want, it only deletes.
-/
namespace PriceOverlay

/-! ## Passes and content -/

namespace Reconciler

variable {r : Reconciler} {scope : Scope} {desired : List Overlay} {s : ObjectStore}

/-- Under a name that a pass does not want, it deletes what the scope has. -/
theorem get?_of_unwanted {n : String} (hn : ∀ d ∈ desired, d.name ≠ n) {o : StoredOverlay} :
    (r.pass scope desired .none s).store.get? n = some o ↔
      s.get? n = some o ∧ ¬ o.matchesSelector scope.selector = true := by
  have hno : ∀ d ∈ desired.map r.owned, d.name ≠ n := by
    intro d hd
    obtain ⟨e, he, rfl⟩ := List.mem_map.1 hd
    exact r.owned_name e ▸ hn e he
  have h := r.pass_settled scope desired s n
  cases h' : s.get? n <;> cases h'' : (r.pass scope desired .none s).store.get? n <;>
    rw [h', h''] at h
  · exact ⟨nofun, nofun⟩
  · cases h with
    | created hd hn' _ => exact absurd hn' (hno _ (Overlay.mem_of_mem_firsts hd))
  · cases h with
    | removed _ hm => exact ⟨nofun, fun h => by cases h.1; exact absurd hm h.2⟩
  · cases h with
    | rewritten hd hn' _ _ _ => exact absurd hn' (hno _ (Overlay.mem_of_mem_firsts hd))
    | agreed hd hn' _ _ => exact absurd hn' (hno _ (Overlay.mem_of_mem_firsts hd))
    | taken hd hn' _ => exact absurd hn' (hno _ (Overlay.mem_of_mem_firsts hd))
    | refused hd hn' _ => exact absurd hn' (hno _ (Overlay.mem_of_mem_firsts hd))
    | spared _ hm => exact ⟨fun h => ⟨h, by cases h; exact hm _ rfl⟩, fun h => h.1⟩

end Reconciler

theorem StoredOverlay.matchesSelector_of_content {o : StoredOverlay} {d : Overlay}
    (h : o.content = d.toStored) (selector : Selector) :
    o.matchesSelector selector = d.toStored.matchesSelector selector := by
  rw [← h]
  rfl

/-- What replaces an overlay with the same labels is stored as it is wanted. -/
theorem Overlay.content_replacing {d e : Overlay} {o : StoredOverlay}
    (ho : o.content = e.toStored) (hl : e.labels = d.labels) (v : Option String) :
    StoredOverlay.content { d.replacing o with version := v } = d.toStored := by
  have hol : o.labels = d.labels := (congrArg StoredOverlay.labels ho).trans hl
  simp only [replacing, StoredOverlay.content, hol, Table.union_self]
  rfl

/-- An overlay that does not differ, and has the same labels and owners, is stored as wanted. -/
theorem Overlay.content_of_not_differs {d e : Overlay} {o : StoredOverlay}
    (ho : o.content = e.toStored) (hn : e.name = d.name) (hl : e.labels = d.labels)
    (hw : e.owners = d.owners) (hf : d.differs o = false) : o.content = d.toStored := by
  simp only [differs, Bool.or_eq_false_iff, bne_eq_false_iff_eq] at hf
  obtain ⟨⟨⟨⟨hq, hg⟩, hp⟩, -⟩, -⟩ := hf
  have hon : o.name = d.name := (congrArg StoredOverlay.name ho).trans hn
  have hol : o.labels = d.labels := (congrArg StoredOverlay.labels ho).trans hl
  have how : o.owners = d.owners := (congrArg StoredOverlay.owners ho).trans hw
  simp only [StoredOverlay.content, toStored, hon, hol, how, hq, hg, hp]

/-! ## Shares -/

/-- The overlays of a store are, apart from their versions, those that the scopes want. -/
structure Divided {ι : Type} (wanted : ι → List Overlay) (s : ObjectStore) : Prop where
  stored : ∀ {n o}, s.get? n = some o → ∃ i, ∃ d ∈ wanted i, d.name = n ∧ o.content = d.toStored
  present : ∀ {i d}, d ∈ wanted i → ∃ o, s.get? d.name = some o ∧ o.content = d.toStored

/-- The scope `scope` of the share `i` may want `next`: it is told by its labels from the other
shares, no other share has a name of `next`, and under one name labels and owners stay. -/
structure Follows {ι : Type} (scope : Scope) (wanted : ι → List Overlay) (i : ι)
    (next : List Overlay) : Prop where
  sound : ∀ d ∈ next, d.check = .ok ()
  marked : ∀ j, ∀ e ∈ wanted j, e.toStored.matchesSelector scope.selector = true ↔ j = i
  apart : ∀ j, ∀ e ∈ wanted j, ∀ d ∈ next, e.name = d.name → j = i
  labels : ∀ e ∈ wanted i, ∀ d ∈ next, e.name = d.name → e.labels = d.labels
  owners : ∀ e ∈ wanted i, ∀ d ∈ next, e.name = d.name →
    d.differs e.toStored = false → e.owners = d.owners

namespace Divided

variable {ι : Type} {wanted : ι → List Overlay} {s : ObjectStore} {r : Reconciler}
  {scope : Scope} {i : ι} {desired : List Overlay}

theorem empty : Divided (fun _ : ι => []) ObjectStore.empty where
  stored := nofun
  present := nofun

/-- What is stored in the scope belongs to its share. -/
theorem stored_of_matches (h : Divided wanted s)
    (marked : ∀ j, ∀ e ∈ wanted j, e.toStored.matchesSelector scope.selector = true ↔ j = i)
    {n : String} {o : StoredOverlay} (ho : s.get? n = some o)
    (hm : o.matchesSelector scope.selector = true) :
    ∃ e ∈ wanted i, e.name = n ∧ o.content = e.toStored := by
  obtain ⟨j, e, he, hn, hc⟩ := h.stored ho
  rw [o.matchesSelector_of_content hc] at hm
  obtain rfl := (marked j e he).1 hm
  exact ⟨e, he, hn, hc⟩

/-- After a pass each wanted overlay is stored as it is wanted. -/
theorem pass_present (h : Divided wanted s) (hf : Follows scope wanted i (desired.map r.owned))
    {d : Overlay} (hd : d ∈ Overlay.firsts (desired.map r.owned)) :
    ∃ o, (r.pass scope desired .none s).store.get? d.name = some o ∧ o.content = d.toStored := by
  have hw := Overlay.mem_of_mem_firsts hd
  have hs := r.pass_settled scope desired s d.name
  generalize hold : s.get? d.name = old at hs
  generalize (r.pass scope desired .none s).store.get? d.name = new at hs
  cases hs with
  | @created e v he hn _ =>
    obtain rfl := first_unique he hd hn
    exact ⟨_, rfl, rfl⟩
  | @rewritten e o v he hn _ hm _ =>
    obtain rfl := first_unique he hd hn
    obtain ⟨b, hb, hbn, hbc⟩ := h.stored_of_matches hf.marked hold hm
    exact ⟨_, rfl, Overlay.content_replacing hbc (hf.labels b hb e hw hbn) _⟩
  | @agreed e o he hn hm hdf =>
    obtain rfl := first_unique he hd hn
    obtain ⟨b, hb, hbn, hbc⟩ := h.stored_of_matches hf.marked hold hm
    have hbo : e.differs b.toStored = false := hbc ▸ hdf
    exact ⟨o, rfl, Overlay.content_of_not_differs hbc hbn (hf.labels b hb e hw hbn)
      (hf.owners b hb e hw hbn hbo) hdf⟩
  | @taken e o he hn hm =>
    obtain ⟨j, b, hb, hbn, hbc⟩ := h.stored hold
    obtain rfl := hf.apart j b hb d hw hbn
    rw [o.matchesSelector_of_content hbc] at hm
    exact absurd ((hf.marked j b hb).2 rfl) hm
  | @refused e _ he _ hc => exact absurd (hf.sound e (Overlay.mem_of_mem_firsts he)) hc
  | removed hno _ => exact absurd rfl (hno d hw)
  | spared hno _ => exact absurd rfl (hno d hw)

/-- A name that is not kept is not wanted. -/
theorem ne_of_not_first {n : String}
    (hno : ¬ ∃ d ∈ Overlay.firsts (desired.map r.owned), d.name = n) :
    ∀ d ∈ desired, d.name ≠ n := by
  intro d hd hn
  obtain ⟨e, he, hen⟩ := Overlay.exists_first (List.mem_map_of_mem (f := r.owned) hd)
  exact hno ⟨e, he, hen.trans ((r.owned_name d).trans hn)⟩

/-- A pass over one scope replaces its share and leaves the others. -/
theorem pass [DecidableEq ι] (h : Divided wanted s)
    (hf : Follows scope wanted i (desired.map r.owned)) :
    Divided (Function.update wanted i (Overlay.firsts (desired.map r.owned)))
      (r.pass scope desired .none s).store := by
  constructor
  · intro n o ho
    by_cases hex : ∃ d ∈ Overlay.firsts (desired.map r.owned), d.name = n
    · obtain ⟨d, hd, rfl⟩ := hex
      obtain ⟨a, ha, hc⟩ := h.pass_present hf hd
      rw [ha] at ho
      cases ho
      exact ⟨i, d, by rwa [Function.update_self], rfl, hc⟩
    · obtain ⟨ho, hm⟩ := (Reconciler.get?_of_unwanted (ne_of_not_first hex)).1 ho
      obtain ⟨j, e, he, hn, hc⟩ := h.stored ho
      have hji : j ≠ i := by
        rintro rfl
        rw [o.matchesSelector_of_content hc] at hm
        exact hm ((hf.marked j e he).2 rfl)
      exact ⟨j, e, by rwa [Function.update_of_ne hji], hn, hc⟩
  · intro j d hd
    by_cases hji : j = i
    · subst hji
      rw [Function.update_self] at hd
      exact h.pass_present hf hd
    · rw [Function.update_of_ne hji] at hd
      obtain ⟨o, ho, hc⟩ := h.present hd
      refine ⟨o, (Reconciler.get?_of_unwanted (ne_of_not_first (r := r) ?_)).2 ⟨ho, ?_⟩, hc⟩
      · rintro ⟨e, he, hn⟩
        exact hji (hf.apart j d hd e (Overlay.mem_of_mem_firsts he) hn.symm)
      · rw [o.matchesSelector_of_content hc]
        exact fun hm => hji ((hf.marked j d hd).1 hm)

/-- A pass changes nothing about overlays that are told apart from its share, old and new. -/
theorem filter_get?_pass (h : Divided wanted s)
    (hf : Follows scope wanted i (desired.map r.owned)) {P : StoredOverlay → Bool}
    (hold : ∀ e ∈ wanted i, ∀ o : StoredOverlay, o.content = e.toStored → P o = false)
    (hnew : ∀ d ∈ desired.map r.owned, ∀ o : StoredOverlay, o.content = d.toStored → P o = false)
    (n : String) :
    ((r.pass scope desired .none s).store.get? n).filter P = (s.get? n).filter P := by
  refine Option.ext fun o => ?_
  simp only [Option.filter_eq_some_iff]
  refine and_congr_left fun hP => ?_
  by_cases hex : ∃ d ∈ Overlay.firsts (desired.map r.owned), d.name = n
  · obtain ⟨d, hd, rfl⟩ := hex
    have hw := Overlay.mem_of_mem_firsts hd
    constructor
    · intro ho
      obtain ⟨a, ha, hc⟩ := h.pass_present hf hd
      rw [ha] at ho
      cases ho
      exact absurd hP (by rw [hnew d hw _ hc]; exact Bool.false_ne_true)
    · intro ho
      obtain ⟨j, e, he, hn, hc⟩ := h.stored ho
      obtain rfl := hf.apart j e he d hw hn
      exact absurd hP (by rw [hold e he o hc]; exact Bool.false_ne_true)
  · rw [Reconciler.get?_of_unwanted (ne_of_not_first hex)]
    refine and_iff_left_of_imp fun ho hm => ?_
    obtain ⟨e, he, -, hc⟩ := h.stored_of_matches hf.marked ho hm
    exact absurd hP (by rw [hold e he o hc]; exact Bool.false_ne_true)

end Divided
end PriceOverlay
