import PriceOverlay.Proofs.Reconcile.Convergence
/-!
# What is settled stays settled

Versions apart, what a pass makes of a name is a function of what is stored there, and a second
pass with the same wanted overlays makes nothing else of it. So stores that passes have gone over
can be compared name by name, through this function.

**Results**
* `Settled.map_content`: the cases of a pass are those of `Scope.settle`.
* `settle_settle`: settling a name once more changes nothing.
* `get?_contents_pass`: the contents after a pass.
-/
namespace PriceOverlay

@[simp] theorem StoredOverlay.matchesSelector_content (o : StoredOverlay) (selector : Selector) :
    o.content.matchesSelector selector = o.matchesSelector selector := rfl

@[simp] theorem Overlay.differs_content (d : Overlay) (o : StoredOverlay) :
    d.differs o.content = d.differs o := rfl

namespace Scope

variable (scope : Scope) (wanted : List Overlay) (n : String)

/-- What a pass makes of the overlay of a name, or of a free name; versions are left out. -/
def settle (old : Option StoredOverlay) : Option StoredOverlay :=
  match wanted.find? (·.name == n) with
  | none => old.filter fun o => !o.matchesSelector scope.selector
  | some d =>
    match d.check, old with
    | .error _, old => old
    | .ok _, none => some d.toStored
    | .ok _, some o =>
      if o.matchesSelector scope.selector && d.differs o then some (d.replacing o).content
      else some o

variable {scope wanted n}

theorem settle_of_unwanted (h : ∀ d ∈ wanted, d.name ≠ n) (old : Option StoredOverlay) :
    scope.settle wanted n old = old.filter fun o => !o.matchesSelector scope.selector := by
  have hf : wanted.find? (·.name == n) = none :=
    List.find?_eq_none.2 fun d hd => by simpa using h d hd
  rw [settle, hf]

section
variable {d : Overlay} (hd : d ∈ Overlay.firsts wanted)
include hd

theorem settle_of_flaw (hc : d.check ≠ .ok ()) (old : Option StoredOverlay) :
    scope.settle wanted d.name old = old := by
  rw [settle, Overlay.mem_firsts_iff.1 hd]
  cases h : d.check with
  | error flaw => simp only [h]
  | ok _ => exact absurd h hc

theorem settle_none (hc : d.check = .ok ()) :
    scope.settle wanted d.name none = some d.toStored := by
  rw [settle, Overlay.mem_firsts_iff.1 hd]
  simp only [hc]

/-- An overlay of the scope that differs is written again. -/
theorem settle_of_differs (hc : d.check = .ok ()) {o : StoredOverlay}
    (hm : o.matchesSelector scope.selector = true) (hf : d.differs o = true) :
    scope.settle wanted d.name (some o) = some (d.replacing o).content := by
  rw [settle, Overlay.mem_firsts_iff.1 hd]
  simp only [hc, hm, hf, Bool.and_self, if_true]

/-- An overlay that is as wanted, or is outside the scope, is left alone. -/
theorem settle_of_agreed {o : StoredOverlay}
    (h : d.differs o = false ∨ ¬ o.matchesSelector scope.selector = true) :
    scope.settle wanted d.name (some o) = some o := by
  rw [settle, Overlay.mem_firsts_iff.1 hd]
  cases hc : d.check with
  | error flaw => simp only [hc]
  | ok _ =>
    have hno : (o.matchesSelector scope.selector && d.differs o) = false := by
      rcases h with h | h
      · rw [h, Bool.and_false]
      · rw [Bool.not_eq_true] at h
        rw [h, Bool.false_and]
    simp only [hc, hno, Bool.false_eq_true, if_false]

end

/-- Settling a name once more changes nothing. -/
theorem settle_settle (scope : Scope) (wanted : List Overlay) (n : String)
    (old : Option StoredOverlay) :
    scope.settle wanted n (scope.settle wanted n old) = scope.settle wanted n old := by
  by_cases hex : ∃ d ∈ wanted, d.name = n
  · obtain ⟨e, he, rfl⟩ := hex
    obtain ⟨d, hd, hn⟩ := Overlay.exists_first he
    rw [← hn]
    by_cases hc : d.check = .ok ()
    · cases old with
      | none =>
        rw [settle_none hd hc]
        exact settle_of_agreed hd (.inl (d.differs_toStored none))
      | some o =>
        by_cases h : d.differs o = false ∨ ¬ o.matchesSelector scope.selector = true
        · rw [settle_of_agreed hd h, settle_of_agreed hd h]
        · simp only [not_or, Bool.not_eq_false, not_not] at h
          rw [settle_of_differs hd hc h.2 h.1]
          exact settle_of_agreed hd (.inl (d.differs_replacing o none))
    · rw [settle_of_flaw hd hc, settle_of_flaw hd hc]
  · have hno : ∀ d ∈ wanted, d.name ≠ n := fun d hd hn => hex ⟨d, hd, hn⟩
    rw [settle_of_unwanted hno, settle_of_unwanted hno, Option.filter_filter]
    simp only [Bool.and_self]

end Scope

/-! ## Passes -/

/-- Versions apart, a pass makes of a name what `Scope.settle` does. -/
theorem Settled.map_content {scope : Scope} {wanted : List Overlay} {n : String}
    {old new : Option StoredOverlay} (h : Settled scope wanted n old new) :
    new.map StoredOverlay.content = scope.settle wanted n (old.map StoredOverlay.content) := by
  cases h with
  | created hd hn hc =>
    subst hn
    exact (Scope.settle_none hd hc).symm
  | @rewritten d o v hd hn hc hm hf =>
    subst hn
    show some (d.replacing o.content).content = scope.settle wanted d.name (some o.content)
    rw [Scope.settle_of_differs hd hc (by simpa using hm) (by simpa using hf)]
  | agreed hd hn hm hf =>
    subst hn
    exact (Scope.settle_of_agreed hd (.inl (by simpa using hf))).symm
  | taken hd hn hm =>
    subst hn
    exact (Scope.settle_of_agreed hd (.inr (by simpa using hm))).symm
  | refused hd hn hc =>
    subst hn
    exact (Scope.settle_of_flaw hd hc _).symm
  | removed hd hm =>
    rw [Scope.settle_of_unwanted hd, Option.map_some, Option.filter_some,
      StoredOverlay.matchesSelector_content, hm]
    rfl
  | spared hd hm =>
    rw [Scope.settle_of_unwanted hd]
    cases old with
    | none => rfl
    | some a =>
      have hno : a.matchesSelector scope.selector = false := by simpa using hm a rfl
      rw [Option.map_some, Option.filter_some, StoredOverlay.matchesSelector_content, hno]
      rfl

/-- The contents after a pass, by name. -/
theorem Reconciler.get?_contents_pass (r : Reconciler) (scope : Scope) (desired : List Overlay)
    (s : ObjectStore) (n : String) :
    (r.pass scope desired .none s).store.contents.get? n =
      scope.settle (desired.map r.owned) n (s.contents.get? n) := by
  rw [ObjectStore.get?_contents, ObjectStore.get?_contents]
  exact (r.pass_settled scope desired s n).map_content

end PriceOverlay
