import PriceOverlay.Proofs.Overlay.Rendering
import PriceOverlay.Telemetry.Signal
/-!
# The counter of writes and the durations of cycles

The registry counts the writes of each kind, verb and outcome in a series of its own. So what a
list of signals adds to one of them is the number of its reports among the signals. The histogram
takes in the reports of cycles alone, in their order.

**Results**
* `writes_record`: one report adds one to its own series and nothing to any other.
* `writes_absorb`: what a list of signals adds.
* `cycles_absorb`: what a list of signals adds to the histogram.
-/
namespace PriceOverlay

theorem WriteVerb.text_injective {a b : WriteVerb} (h : a.text = b.text) : a = b := by
  revert h
  cases a <;> cases b <;> decide

namespace Metrics

/-- The writes that are counted for a kind, a verb and an outcome. -/
def writes (m : Metrics) (kind : OverlayKind) (verb : WriteVerb) (success : Bool) : Nat :=
  (m.operations.get? [verb.text, kind.text, if success then "success" else "error"]).getD 0

theorem operation_labels_iff {kind kind' : OverlayKind} {verb verb' : WriteVerb}
    {success success' : Bool} :
    [verb.text, kind.text, if success then "success" else "error"] =
        [verb'.text, kind'.text, if success' then "success" else "error"] ↔
      MetricEvent.operation kind' verb' success' = .operation kind verb success := by
  simp only [List.cons.injEq, and_true, MetricEvent.operation.injEq]
  constructor
  · rintro ⟨hv, hk, hs⟩
    refine ⟨(OverlayKind.text_injective hk).symm, (WriteVerb.text_injective hv).symm, ?_⟩
    revert hs
    cases success <;> cases success' <;> decide
  · rintro ⟨rfl, rfl, rfl⟩
    exact ⟨rfl, rfl, rfl⟩

/-- A report of a write adds one to its series; every other report leaves the writes alone. -/
theorem writes_record (m : Metrics) (e : MetricEvent) (kind : OverlayKind) (verb : WriteVerb)
    (success : Bool) : (m.record e).writes kind verb success =
      m.writes kind verb success + if e = .operation kind verb success then 1 else 0 := by
  cases e with
  | operation kind' verb' success' =>
    simp only [writes, record, Table.get?_adjust_eq, operation_labels_iff]
    split
    · rename_i h
      cases h
      rfl
    · rfl
  | _ => rfl

/-- Signals add to a series of writes the number of their reports for it. -/
theorem writes_absorb (m : Metrics) (signals : List Signal) (kind : OverlayKind) (verb : WriteVerb)
    (success : Bool) : (m.absorb signals).writes kind verb success =
      m.writes kind verb success +
        (Signal.metrics signals).count (.operation kind verb success) := by
  unfold absorb
  induction Signal.metrics signals generalizing m with
  | nil => rfl
  | cons e rest ih =>
    rw [List.foldl_cons, ih, writes_record, List.count_cons]
    simp only [beq_iff_eq]
    omega

end Metrics

/-! ## Durations of cycles -/

/-- The duration of the cycle that a signal reports. -/
def Signal.cycle? : Signal → Option Duration
  | .metric (.cycle d) => some d
  | _ => none

/-- Signals among which no cycle is reported. -/
def Quiet (l : List Signal) : Prop := ∀ x ∈ l, x.cycle? = none

namespace Quiet

variable {l l' : List Signal}

@[simp] theorem nil : Quiet [] := fun _ h => absurd h List.not_mem_nil

@[simp] theorem cons_iff {x : Signal} : Quiet (x :: l) ↔ x.cycle? = none ∧ Quiet l :=
  List.forall_mem_cons

@[simp] theorem append_iff : Quiet (l ++ l') ↔ Quiet l ∧ Quiet l' :=
  List.forall_mem_append

theorem take (h : Quiet l) (n : Nat) : Quiet (l.take n) :=
  fun x hx => h x (List.mem_of_mem_take hx)

theorem flatMap {α : Type} {as : List α} {f : α → List Signal} (h : ∀ a ∈ as, Quiet (f a)) :
    Quiet (as.flatMap f) := by
  intro x hx
  obtain ⟨a, ha, hx⟩ := List.mem_flatMap.1 hx
  exact h a ha x hx

end Quiet

/-- Each observation is one more sample. -/
theorem Histogram.count_foldl_observe {α : Type} (f : α → Float) (l : List α) (h : Histogram) :
    (l.foldl (fun h a => h.observe (f a)) h).count = h.count + l.length := by
  induction l generalizing h with
  | nil => rfl
  | cons a rest ih =>
    rw [List.foldl_cons, ih, List.length_cons]
    simp only [observe]
    omega

namespace Metrics

/-- Signals add to the histogram the durations that they report. -/
theorem cycles_absorb (m : Metrics) (l : List Signal) : (m.absorb l).cycles =
    (l.filterMap Signal.cycle?).foldl (fun h d => h.observe d.toFloat) m.cycles := by
  unfold absorb
  induction l generalizing m with
  | nil => rfl
  | cons x rest ih =>
    cases x with
    | log r => exact ih m
    | metric e =>
      refine (ih (m.record e)).trans ?_
      cases e <;> rfl

theorem cycles_absorb_of_quiet (m : Metrics) {l : List Signal} (h : Quiet l) :
    (m.absorb l).cycles = m.cycles := by
  rw [cycles_absorb, List.filterMap_eq_nil_iff.2 h]
  rfl

end Metrics
end PriceOverlay
