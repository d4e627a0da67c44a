import Mathlib.Data.List.Induction
import PriceOverlay.Proofs.Overlay.Rendering
import PriceOverlay.Proofs.Reconcile.Convergence
/-!
# Passes in changing modes

A store outlives the controllers that write to it, and each of them renders its overlays either
to apply or disabled. A pass compares requirements as a whole, so they follow the mode of the last
pass. Labels are merged into those that are there, and in one scope all rendered overlays have
labels under the same keys but one: the label of the disabled mode. Once set, that label stays for
as long as pass after pass wants the overlay.

**Results**
* `Rendering.Renders.isSome_label_iff`: the keys under which a rendered overlay has labels.
* `Turn.kept_pass`: what one more pass makes of overlays that earlier passes stored.
* `Turn.run_follows`: the requirements and labels of every stored overlay after any passes.
-/
namespace PriceOverlay

/-! ## Labels of rendered overlays -/

/-- An overlay is rendered in a mode, from a decision or a preference; owners may have joined. -/
def Rendering.Renders (r : Rendering) (d : Overlay) : Prop :=
  (∃ e : Decision, d = { r.decision e with owners := d.owners }) ∨
    ∃ q : Preference, d = { r.preference q with owners := d.owners }

/-- The keys, apart from the disabled mode's, under which overlays of a kind have labels. -/
def OverlayKind.Labels (kind : OverlayKind) (k : String) : Prop :=
  k = Label.source ∨ k = Label.kind ∨ k = Label.managedBy ∨
    kind = .preference ∧ k = Label.preferenceNumber

namespace Rendering.Renders

variable {r : Rendering} {d : Overlay} {scope : Scope} {k : String}

/-- Before it is finished, what is rendered has a label only for the number of a preference. -/
theorem exists_finish (h : r.Renders d) : ∃ o : Overlay, d.labels = (r.finish o).labels ∧
    ∀ k, (o.labels.get? k).isSome ↔ o.origin.kind = .preference ∧ k = Label.preferenceNumber := by
  rcases h with ⟨e, he⟩ | ⟨q, hq⟩
  · refine ⟨_, congrArg (·.labels) he, fun k => ?_⟩
    simp [Origin.kind]
  · refine ⟨_, congrArg (·.labels) hq, fun k => ?_⟩
    simp only [Table.get?_insert_eq, Table.get?_empty, Origin.kind, true_and]
    split <;> simp [*]

theorem get?_disabled (h : r.Renders d) :
    d.labels.get? Label.disabled = if r.disabled then some "true" else none := by
  obtain ⟨o, hl, ho⟩ := h.exists_finish
  have hnone : o.labels.get? Label.disabled = none := by
    rw [← Option.not_isSome_iff_eq_none, ho]
    exact fun h => absurd h.2 (by decide)
  rw [hl, get?_labels_finish_disabled, hnone]

/-- Within a scope all rendered overlays have labels under the same keys, but for the disabled
mode's. -/
theorem isSome_label_iff (h : r.Renders d) (hm : d.toStored.matchesSelector scope.selector = true)
    (hk : k ≠ Label.disabled) : (d.labels.get? k).isSome ↔ scope.kind.Labels k := by
  obtain ⟨o, hl, ho⟩ := h.exists_finish
  have hkind : scope.kind = o.origin.kind := by
    have hf : (r.finish o).toStored.matchesSelector scope.selector = true := by
      rw [StoredOverlay.matchesSelector_iff] at hm ⊢
      exact fun k v hv => (congrArg (·.get? k) hl).symm.trans (hm k v hv)
    exact (matches_finish_iff.1 hf).1
  rw [hl, get?_labels_finish r o hk, OverlayKind.Labels, hkind]
  by_cases hsource : k = Label.source
  · rw [if_pos hsource]
    exact ⟨fun _ => .inl hsource, fun _ => rfl⟩
  by_cases hkey : k = Label.kind
  · rw [if_neg hsource, if_pos hkey]
    exact ⟨fun _ => .inr (.inl hkey), fun _ => rfl⟩
  by_cases hmanaged : k = Label.managedBy
  · rw [if_neg hsource, if_neg hkey, if_pos hmanaged]
    exact ⟨fun _ => .inr (.inr (.inl hmanaged)), fun _ => rfl⟩
  rw [if_neg hsource, if_neg hkey, if_neg hmanaged, ho]
  simp only [hsource, hkey, hmanaged, false_or]

/-- Owners that join make no difference. -/
theorem owned (h : r.Renders d) (c : Reconciler) : r.Renders (c.owned d) := by
  have howners : c.owned d = { d with owners := (c.owned d).owners } := by
    unfold Reconciler.owned
    split
    · rfl
    · split <;> rfl
  rcases h with ⟨e, he⟩ | ⟨q, hq⟩
  · refine .inl ⟨e, howners.trans ?_⟩
    rw [he]
  · refine .inr ⟨q, howners.trans ?_⟩
    rw [hq]

end Rendering.Renders

theorem Reconciler.owned_requirements (r : Reconciler) (d : Overlay) :
    (r.owned d).requirements = d.requirements := by
  unfold owned
  split
  · rfl
  · split <;> rfl

/-! ## Turns -/

/-- One pass of a run in which the controllers are restarted: its reconciler, its mode and what
it wants. -/
structure Turn where
  reconciler : Reconciler := {}
  rendering : Rendering := {}
  desired : List Overlay

namespace Turn

/-- What is wanted is rendered in the mode of the turn, for the scope, and may be written. -/
structure Fits (scope : Scope) (t : Turn) : Prop where
  rendered : ∀ d ∈ t.desired, t.rendering.Renders d
  labelled : ∀ d ∈ t.desired, d.toStored.matchesSelector scope.selector = true
  sound : ∀ d ∈ t.desired, d.check = .ok ()
  distinct : (t.desired.map (·.name)).Nodup

def wants (t : Turn) (n : String) : Bool := t.desired.any (·.name == n)

/-- The store after the passes of turns over one scope, from an empty store. -/
def run (scope : Scope) (turns : List Turn) : ObjectStore :=
  turns.foldl (fun s t => (t.reconciler.pass scope t.desired .none s).store) .empty

/-- The last turns in a row that wanted a name, the latest first. -/
def streak (n : String) (turns : List Turn) : List Turn := turns.reverse.takeWhile (·.wants n)

/-- Whether one of the last turns in a row that wanted a name was disabled. -/
def marked (n : String) (turns : List Turn) : Bool :=
  (streak n turns).any (·.rendering.disabled)

/-- An overlay is stored as it is wanted, with the label of the disabled mode or without. -/
structure StoredAs (d : Overlay) (disabled : Bool) (o : StoredOverlay) : Prop where
  requirements : o.requirements = d.requirements
  labels : ∀ k, k ≠ Label.disabled → o.labels.get? k = d.labels.get? k
  disabled : o.labels.get? Label.disabled = if disabled then some "true" else none

variable {scope : Scope} {turns : List Turn} {t : Turn} {n : String} {s : ObjectStore}

theorem run_append (scope : Scope) (turns : List Turn) (t : Turn) : run scope (turns ++ [t]) =
    (t.reconciler.pass scope t.desired .none (run scope turns)).store := by
  rw [run, List.foldl_append]
  rfl

theorem wants_iff : t.wants n = true ↔ ∃ d ∈ t.desired, d.name = n := Overlay.any_name_iff

theorem marked_append (n : String) (turns : List Turn) (t : Turn) : marked n (turns ++ [t]) =
    (t.wants n && (t.rendering.disabled || marked n turns)) := by
  unfold marked streak
  rw [List.reverse_append, List.reverse_singleton, List.singleton_append, List.takeWhile_cons]
  cases t.wants n <;> simp

/-! ## One turn -/

/-- An earlier turn stored an overlay: it is as something rendered for the scope was wanted. -/
def Left (scope : Scope) (disabled : Bool) (o : StoredOverlay) : Prop :=
  ∃ (r : Rendering) (d : Overlay), r.Renders d ∧
    d.toStored.matchesSelector scope.selector = true ∧ StoredAs d disabled o

theorem matches_of_left {disabled : Bool} {o : StoredOverlay} (h : Left scope disabled o) :
    o.matchesSelector scope.selector = true := by
  obtain ⟨r, d, -, hm, ho⟩ := h
  refine StoredOverlay.matchesSelector_iff.2 fun k v hv => ?_
  have hk : k ≠ Label.disabled := by
    rintro rfl
    rw [Scope.get?_selector, if_neg (fun h => absurd h.1 (by decide)), if_neg (by decide),
      if_neg (by decide)] at hv
    cases hv
  exact (ho.labels k hk).trans (StoredOverlay.matchesSelector_iff.1 hm k v hv)

/-- A label that a rendered overlay does not have, an overlay that was left in its scope does not
have either, but for the disabled mode's. -/
theorem get?_eq_none_of_left {r : Rendering} {d : Overlay} {disabled : Bool} {o : StoredOverlay}
    (hr : r.Renders d) (hm : d.toStored.matchesSelector scope.selector = true)
    (ho : Left scope disabled o) {k : String} (hk : k ≠ Label.disabled)
    (hd : d.labels.get? k = none) : o.labels.get? k = none := by
  obtain ⟨r', e, hr', hm', ho⟩ := ho
  rw [ho.labels k hk, ← Option.not_isSome_iff_eq_none,
    hr'.isSome_label_iff hm' hk, ← hr.isSome_label_iff hm hk, hd]
  exact Bool.false_ne_true

/-- What replaces an overlay that was left has its label of the disabled mode as well as the own. -/
theorem storedAs_replacing {r : Rendering} {d : Overlay} {disabled : Bool} {o : StoredOverlay}
    (hr : r.Renders d) (hm : d.toStored.matchesSelector scope.selector = true)
    (ho : Left scope disabled o) (v : Option String) :
    StoredAs d (r.disabled || disabled) { d.replacing o with version := v } where
  requirements := rfl
  labels k hk := by
    refine (d.get?_labels_replacing o k).trans ?_
    cases hd : d.labels.get? k with
    | some a => rfl
    | none => rw [get?_eq_none_of_left hr hm ho hk hd]; rfl
  disabled := by
    refine (d.get?_labels_replacing o _).trans ?_
    obtain ⟨_, _, _, _, ho⟩ := ho
    rw [hr.get?_disabled, ho.disabled]
    cases r.disabled <;> rfl

/-- An overlay that was left and does not differ has its label of the disabled mode if the wanted
one has. -/
theorem storedAs_of_not_differs {r : Rendering} {d : Overlay} {disabled : Bool} {o : StoredOverlay}
    (hr : r.Renders d) (hm : d.toStored.matchesSelector scope.selector = true)
    (ho : Left scope disabled o) (hf : d.differs o = false) :
    StoredAs d (r.disabled || disabled) o := by
  obtain ⟨hq, -, -, hl, -⟩ := Overlay.differs_eq_false_iff.1 hf
  refine ⟨hq.symm, fun k hk => ?_, ?_⟩
  · cases hd : d.labels.get? k with
    | some a => exact hl k a hd
    | none => exact get?_eq_none_of_left hr hm ho hk hd
  · cases hdis : r.disabled with
    | true => exact hl _ _ (hr.get?_disabled.trans (if_pos hdis))
    | false =>
      obtain ⟨_, _, _, _, ho⟩ := ho
      exact ho.disabled

theorem storedAs_of_owned {c : Reconciler} {d : Overlay} {disabled : Bool} {o : StoredOverlay}
    (h : StoredAs (c.owned d) disabled o) : StoredAs d disabled o :=
  ⟨h.requirements.trans (c.owned_requirements d),
    fun k hk => (h.labels k hk).trans (congrArg (·.get? k) (c.owned_labels d)), h.disabled⟩

/-- One more turn stores what it wants, and the label of the disabled mode stays where it was. -/
theorem kept_pass (hfit : t.Fits scope) {old new : Option StoredOverlay} {disabled : Bool}
    (hold : ∀ o, old = some o → Left scope disabled o) (hnone : old = none → disabled = false)
    (h : Settled scope (t.desired.map t.reconciler.owned) n old new) :
    (∀ o, new = some o → ∃ d ∈ t.desired, d.name = n ∧
        StoredAs d (t.rendering.disabled || disabled) o) ∧
      (new = none → ∀ d ∈ t.desired, d.name ≠ n) := by
  have hwanted : ∀ {d : Overlay}, d ∈ Overlay.firsts (t.desired.map t.reconciler.owned) →
      d.name = n → t.rendering.Renders d ∧ d.toStored.matchesSelector scope.selector = true ∧
        d.check = .ok () ∧ ∀ {b o}, StoredAs d b o →
          ∃ e ∈ t.desired, e.name = n ∧ StoredAs e b o := by
    intro d hd hn
    have hd := Overlay.mem_of_mem_firsts hd
    have hm := labelled_owned hfit.labelled d hd
    have hc := Reconciler.sound_owned hfit.sound d hd
    obtain ⟨e, he, rfl⟩ := List.mem_map.1 hd
    rw [Reconciler.owned_name] at hn
    exact ⟨(hfit.rendered e he).owned _, hm, hc, fun h => ⟨e, he, hn, storedAs_of_owned h⟩⟩
  have hunwanted : (∀ d ∈ t.desired.map t.reconciler.owned, d.name ≠ n) →
      ∀ d ∈ t.desired, d.name ≠ n := by
    intro h d hd hn
    exact h _ (List.mem_map.2 ⟨d, hd, rfl⟩) ((Reconciler.owned_name _ d).trans hn)
  cases h with
  | created hd hn hc =>
    obtain ⟨hr, hm, -, hstored⟩ := hwanted hd hn
    refine ⟨fun o ho => ?_, fun ho => by cases ho⟩
    cases ho
    refine hstored ⟨rfl, fun _ _ => rfl, ?_⟩
    rw [hnone rfl, Bool.or_false]
    exact hr.get?_disabled
  | rewritten hd hn hc hm hf =>
    obtain ⟨hr, hm, -, hstored⟩ := hwanted hd hn
    refine ⟨fun o ho => ?_, fun ho => by cases ho⟩
    cases ho
    exact hstored (storedAs_replacing hr hm (hold _ rfl) _)
  | agreed hd hn hm hf =>
    obtain ⟨hr, hm, -, hstored⟩ := hwanted hd hn
    refine ⟨fun o ho => ?_, fun ho => by cases ho⟩
    cases ho
    exact hstored (storedAs_of_not_differs hr hm (hold _ rfl) hf)
  | taken hd hn hm => exact absurd (matches_of_left (hold _ rfl)) hm
  | refused hd hn hc => exact absurd (hwanted hd hn).2.2.1 hc
  | removed hd hm => exact ⟨fun o ho => (by cases ho), fun _ => hunwanted hd⟩
  | spared hd hm =>
    exact ⟨fun o ho => absurd (matches_of_left (hold o ho)) (hm o ho), fun _ => hunwanted hd⟩

/-! ## Runs -/

/-- What earlier turns left under a name: a rendered overlay of the scope, with the label of the
disabled mode if the last turns in a row that wanted it had it, or nothing. -/
def LeftUnder (scope : Scope) (turns : List Turn) (n : String) : Prop :=
  (∀ o, (run scope turns).get? n = some o → Left scope (marked n turns) o) ∧
    ((run scope turns).get? n = none → marked n turns = false)

theorem stored_append (hleft : LeftUnder scope turns n) (hfit : t.Fits scope) :
    (∀ o, (run scope (turns ++ [t])).get? n = some o →
        ∃ d ∈ t.desired, d.name = n ∧ StoredAs d (marked n (turns ++ [t])) o) ∧
      ((run scope (turns ++ [t])).get? n = none → t.wants n = false) := by
  obtain ⟨hstored, habsent⟩ := kept_pass hfit hleft.1 hleft.2
    (t.reconciler.pass_settled scope t.desired (run scope turns) n)
  rw [run_append, marked_append]
  refine ⟨fun o ho => ?_, fun ho => ?_⟩
  · obtain ⟨d, hd, hn, ho⟩ := hstored o ho
    rw [wants_iff.2 ⟨d, hd, hn⟩, Bool.true_and]
    exact ⟨d, hd, hn, ho⟩
  · rw [← Bool.not_eq_true, wants_iff]
    rintro ⟨d, hd, hn⟩
    exact habsent ho d hd hn

theorem run_left (fits : ∀ u ∈ turns, u.Fits scope) (n : String) : LeftUnder scope turns n := by
  -- by induction on the turns from the last one
  induction turns using List.reverseRecOn with
  | nil => exact ⟨fun o ho => (by cases ho), fun _ => rfl⟩
  | append_singleton turns t ih =>
    simp only [List.forall_mem_append, List.forall_mem_singleton] at fits
    obtain ⟨hstored, habsent⟩ := stored_append (ih fits.1) fits.2
    refine ⟨fun o ho => ?_, fun ho => ?_⟩
    · obtain ⟨d, hd, -, ho⟩ := hstored o ho
      exact ⟨t.rendering, d, fits.2.rendered d hd, fits.2.labelled d hd, ho⟩
    · rw [marked_append, habsent ho, Bool.false_and]

/-- **Changing modes.** After any turns over one scope, from an empty store, exactly what the last
turn wants is stored, each overlay with the requirements wanted and, under every key but the
disabled mode's, the labels wanted. The label of the disabled mode is there exactly if one of the
last turns in a row that wanted the overlay was disabled. -/
theorem run_follows (scope : Scope) (turns : List Turn) (t : Turn)
    (fits : ∀ u ∈ turns ++ [t], u.Fits scope) (n : String) :
    (∀ o, (run scope (turns ++ [t])).get? n = some o →
        ∃ d ∈ t.desired, d.name = n ∧ StoredAs d (marked n (turns ++ [t])) o) ∧
      ((∃ d ∈ t.desired, d.name = n) → ∃ o, (run scope (turns ++ [t])).get? n = some o) := by
  simp only [List.forall_mem_append, List.forall_mem_singleton] at fits
  obtain ⟨hstored, habsent⟩ := stored_append (run_left fits.1 n) fits.2
  refine ⟨hstored, fun hwanted => Option.ne_none_iff_exists'.1 fun h => ?_⟩
  exact absurd (wants_iff.2 hwanted) (by rw [habsent h]; exact Bool.false_ne_true)

/-- The decision on the plans for a family. -/
def planDecision : Decision :=
  ⟨"savings-plan-m5", .instancePlan, .family "m5" "us-west-2", true, "", 20, freePrice⟩

/-- A turn that wants the overlay for that decision. -/
def planTurn (disabled : Bool) : Turn :=
  { rendering := ⟨disabled⟩, desired := [Rendering.decision ⟨disabled⟩ planDecision] }

theorem fits_planTurn (disabled : Bool) : (planTurn disabled).Fits (.commitment .instancePlan) where
  rendered := List.forall_mem_singleton.2 (.inl ⟨planDecision, rfl⟩)
  labelled := List.forall_mem_singleton.2 (Rendering.matches_decision_iff.2 rfl)
  sound := List.forall_mem_singleton.2 (Rendering.check_decision _ (by decide) rfl)
  distinct := List.nodup_singleton _

/-- The requirements follow when the disabled mode is switched off, the label does not. -/
theorem run_follows_switched :
    ∃ o, (run (.commitment .instancePlan) [planTurn true, planTurn false]).get? "savings-plan-m5" =
        some o ∧ StoredAs (Rendering.decision {} planDecision) true o := by
  have h := run_follows (.commitment .instancePlan) [planTurn true] (planTurn false)
    (List.forall_mem_cons.2 ⟨fits_planTurn true, List.forall_mem_singleton.2 (fits_planTurn false)⟩)
    "savings-plan-m5"
  obtain ⟨o, ho⟩ := h.2 ⟨_, List.mem_singleton_self _, rfl⟩
  obtain ⟨d, hd, -, hstored⟩ := h.1 o ho
  obtain rfl := List.mem_singleton.1 hd
  exact ⟨o, ho, hstored⟩

/-- The label of the disabled mode does not tell the mode of the last turn. -/
theorem disabled_outlives_mode :
    (∀ u ∈ [planTurn true, planTurn false], u.Fits (.commitment .instancePlan)) ∧
      (planTurn false).rendering.disabled = false ∧
      ((run (.commitment .instancePlan) [planTurn true, planTurn false]).get?
        "savings-plan-m5").map (·.labels.get? Label.disabled) = some (some "true") :=
  ⟨List.forall_mem_cons.2 ⟨fits_planTurn true, List.forall_mem_singleton.2 (fits_planTurn false)⟩,
    rfl, by decide +kernel⟩

end Turn
end PriceOverlay
