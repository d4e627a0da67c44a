import Mathlib.Algebra.BigOperators.Group.List.Basic
import PriceOverlay.Proofs.Controller.Preferences
import PriceOverlay.Proofs.Preference.Numbering
/-!
# The gauge of wanted overlays

The preference controller keeps the number of overlays that each NodePool wants, and reports the
total whenever it changes one of these numbers. It changes them before it asks the store for
anything, and nothing that comes after reports a number of wanted overlays. So the gauge does not
depend on the store at all.

**Results**
* `Metrics.gauge_absorb`: the last report of a number is what the gauge shows.
* `counts_handle`: after any event the numbers are those of the live NodePools.
* `reported_handle`: the last report of an event is the total of the numbers after it.
* `gauge_follows`: after any events the gauge shows the annotations accepted of the live NodePools.
-/
namespace PriceOverlay

/-! ## Reports of wanted overlays -/

/-- The kind and the number of wanted overlays that a signal reports. -/
def Signal.desired? : Signal → Option (OverlayKind × Nat)
  | .metric (.desired kind n) => some (kind, n)
  | _ => none

/-- Signals among which no number of wanted overlays is reported. -/
def Undemanding (l : List Signal) : Prop := ∀ x ∈ l, x.desired? = none

namespace Undemanding

variable {l l' : List Signal}

@[simp] theorem nil : Undemanding [] := fun _ h => absurd h List.not_mem_nil

@[simp] theorem cons_iff {x : Signal} :
    Undemanding (x :: l) ↔ x.desired? = none ∧ Undemanding l :=
  List.forall_mem_cons

@[simp] theorem append_iff : Undemanding (l ++ l') ↔ Undemanding l ∧ Undemanding l' :=
  List.forall_mem_append

end Undemanding

namespace Metrics

/-- The number of wanted overlays of a kind that was reported last. -/
def gauge (m : Metrics) (kind : OverlayKind) : Option Nat := m.desired.get? [kind.text]

theorem absorb_append (m : Metrics) (l l' : List Signal) :
    m.absorb (l ++ l') = (m.absorb l).absorb l' := by
  rw [absorb, Signal.metrics, List.filterMap_append, List.foldl_append]
  rfl

theorem gauge_record_desired (m : Metrics) (kind : OverlayKind) (n : Nat) :
    (m.record (.desired kind n)).gauge kind = some n := by
  rw [gauge, record, Table.get?_insert_eq, if_pos rfl]

theorem gauge_record (m : Metrics) {e : MetricEvent} (h : (Signal.metric e).desired? = none)
    (kind : OverlayKind) : (m.record e).gauge kind = m.gauge kind := by
  cases e with
  | desired k n => cases h
  | _ => rfl

theorem gauge_absorb_of_undemanding (m : Metrics) {l : List Signal} (h : Undemanding l)
    (kind : OverlayKind) : (m.absorb l).gauge kind = m.gauge kind := by
  induction l generalizing m with
  | nil => rfl
  | cons x rest ih =>
    obtain ⟨hx, hrest⟩ := Undemanding.cons_iff.1 h
    cases x with
    | log r => exact ih m hrest
    | metric e => exact (ih (m.record e) hrest).trans (gauge_record m hx kind)

/-- The gauge shows the report after which there is no other one. -/
theorem gauge_absorb (m : Metrics) (kind : OverlayKind) (n : Nat) (sent : List Signal)
    {rest : List Signal} (h : Undemanding rest) :
    (m.absorb (sent ++ .metric (.desired kind n) :: rest)).gauge kind = some n := by
  rw [absorb_append]
  calc
    ((m.absorb sent).absorb (.metric (.desired kind n) :: rest)).gauge kind
      = (((m.absorb sent).record (.desired kind n)).absorb rest).gauge kind := rfl
    _ = ((m.absorb sent).record (.desired kind n)).gauge kind :=
      gauge_absorb_of_undemanding _ h kind
    _ = some n := gauge_record_desired _ kind n

end Metrics

theorem Outcome.undemanding_signals (kind : OverlayKind) (o : Outcome) :
    Undemanding (o.signals kind) := by
  unfold signals
  split <;> simp [Signal.desired?]

/-- The writes of a plan report nothing but themselves. -/
theorem Plan.undemanding_apply (p : Plan) (kind : OverlayKind) (faults : StoreFaults)
    (s : ObjectStore) : Undemanding (p.apply kind faults s).signals := by
  intro x hx
  obtain ⟨o, -, hx⟩ := List.mem_flatMap.1 hx
  exact o.undemanding_signals kind x hx

theorem Reconciler.undemanding_pass (r : Reconciler) (scope : Scope) (desired : List Overlay)
    (faults : StoreFaults) (s : ObjectStore) :
    Undemanding (r.pass scope desired faults s).signals := by
  unfold pass
  split
  · simp [Signal.desired?]
  · exact Undemanding.append_iff.2 ⟨Plan.undemanding_apply _ _ _ _, by simp [Signal.desired?]⟩

/-! ## Annotations that are accepted -/

/-- The number of annotations that are accepted: the verdict on each is a preference. -/
def NodePool.accepted (p : NodePool) : Nat :=
  p.annotations.entries.countP fun e =>
    (Declared.verdict p.name (Declared.before p.annotations.entries e.1) e).preference?.isSome

theorem NodePool.length_preferences (p : NodePool) :
    p.declared.preferences.length = p.accepted := by
  rw [declared, (Declared.summed_entries p.name p.annotations).preferences_perm.length_eq,
    List.length_filterMap_eq_countP]
  rfl

/-- A NodePool asks for as many overlays as it has accepted annotations. -/
theorem Rendering.length_nodePool (r : Rendering) (p : NodePool) :
    (r.nodePool p).length = p.accepted := by
  rw [nodePool, List.length_map, p.length_preferences]

/-! ## The numbers that are kept -/

/-- The number of accepted annotations of each live NodePool. -/
def WantedCounts.ofLive (live : Table String NodePool) : WantedCounts :=
  live.map fun _ p => p.accepted

namespace WantedCounts

theorem total_ofLive (live : Table String NodePool) :
    (ofLive live).total = (live.values.map NodePool.accepted).sum := by
  have hvalues : (ofLive live).values = live.values.map NodePool.accepted := by
    simp only [ofLive, Table.values, Table.map, List.map_map, Function.comp_def]
  rw [total, hvalues, List.sum_eq_foldl]

theorem insert_ofLive (live : Table String NodePool) (p : NodePool) :
    (ofLive live).insert p.name p.accepted = ofLive (live.insert p.name p) := by
  refine Table.ext_get? fun n => ?_
  simp only [ofLive, Table.get?_map, Table.get?_insert_eq]
  split <;> rfl

theorem filter_ofLive (live : Table String NodePool) (names : String → Bool) :
    (ofLive live).filter (fun n _ => names n) = ofLive (live.filter fun n _ => names n) := by
  refine Table.ext_get? fun n => ?_
  simp only [ofLive, Table.get?_map, Table.get?_filter]
  cases live.get? n with
  | none => rfl
  | some p => cases names n <;> rfl

end WantedCounts

namespace PreferenceController

variable {c : PreferenceController} {live : Table String NodePool}

theorem get?_applyAll_of_not_mem {ps : List NodePool} {n : String} (hn : n ∉ ps.map (·.name))
    (live : Table String NodePool) : (applyAll live ps).get? n = live.get? n := by
  induction ps generalizing live with
  | nil => rfl
  | cons p r ih =>
    simp only [List.map_cons, List.mem_cons, not_or] at hn
    exact (ih hn.2 _).trans (by rw [Table.get?_insert_eq, if_neg hn.1])

/-- Under a listed name, repeated or not, only the listing counts. -/
theorem get?_applyAll_of_mem {ps : List NodePool} {n : String} (hn : n ∈ ps.map (·.name))
    (live live' : Table String NodePool) : (applyAll live ps).get? n = (applyAll live' ps).get? n := by
  induction ps generalizing live live' with
  | nil => cases hn
  | cons p r ih =>
    by_cases hr : n ∈ r.map (·.name)
    · exact ih hr _ _
    · obtain rfl : n = p.name := (List.mem_cons.1 hn).resolve_right hr
      have hlast : ∀ live, (applyAll live (p :: r)).get? p.name = some p := fun live =>
        (get?_applyAll_of_not_mem hr _).trans (by rw [Table.get?_insert_eq, if_pos rfl])
      rw [hlast, hlast]

/-- A listing leaves the NodePools that it has, whatever was live before. -/
theorem filter_applyAll (live : Table String NodePool) (ps : List NodePool) :
    (applyAll live ps).filter (fun n _ => (ps.map (·.name)).contains n) = applyAll ∅ ps := by
  refine Table.ext_get? fun n => ?_
  rw [Table.get?_filter]
  by_cases hn : n ∈ ps.map (·.name)
  · have hcontains : (ps.map (·.name)).contains n = true := List.contains_iff_mem.2 hn
    rw [get?_applyAll_of_mem hn live ∅, hcontains]
    cases (applyAll ∅ ps).get? n <;> rfl
  · have hcontains : (ps.map (·.name)).contains n = false := by simpa using hn
    rw [get?_applyAll_of_not_mem hn ∅, hcontains]
    cases (applyAll live ps).get? n <;> rfl

theorem counts_appliedAll (ps : List NodePool) (faults : StoreFaults) (s : ObjectStore) :
    (c.appliedAll faults (.ofLive live) s ps).1 = .ofLive (applyAll live ps) := by
  induction ps generalizing live s with
  | nil => rfl
  | cons p r ih =>
    have happlied : (c.applied p faults (.ofLive live) s).1 = .ofLive (live.insert p.name p) := by
      rw [← WantedCounts.insert_ofLive, ← c.rendering.length_nodePool]
      rfl
    show (c.appliedAll faults (c.applied p faults (.ofLive live) s).1 _ r).1 = _
    rw [happlied, ih]
    rfl

/-- After any event, whatever the store and whichever calls fail, the numbers are those of the
NodePools that are live then. -/
theorem counts_handle (e : NodePoolEvent) (faults : StoreFaults) (s : ObjectStore) :
    (c.handle e faults (.ofLive live) s).1 = .ofLive (e.track live) := by
  cases e with
  | applied p => exact c.counts_appliedAll [p] faults s
  | deleted p => exact WantedCounts.filter_ofLive live fun n => compare p.name n != .eq
  | restarted ps =>
    rw [track_restarted, ← filter_applyAll live ps, ← WantedCounts.filter_ofLive,
      ← c.counts_appliedAll ps faults s]
    rfl

/-- The last number that an event reports is the total after it. -/
theorem reported_handle (c : PreferenceController) (e : NodePoolEvent) (faults : StoreFaults)
    (w : WantedCounts) (s : ObjectStore) :
    ∃ sent rest, Undemanding rest ∧ (c.handle e faults w s).2.signals =
      sent ++ WantedCounts.signal (c.handle e faults w s).1 :: rest := by
  cases e with
  | applied p => exact ⟨_, _, c.reconciler.undemanding_pass _ _ _ _, rfl⟩
  | deleted p => exact ⟨[], _, c.reconciler.undemanding_pass _ _ _ _, rfl⟩
  | restarted ps =>
    refine ⟨_, _, ?_, rfl⟩
    unfold orphans
    split
    · exact .nil
    · exact Plan.undemanding_apply _ _ _ _

/-! ## Runs -/

/-- An event, the store that it finds, and the calls that fail meanwhile. -/
structure Handling where
  event : NodePoolEvent
  store : ObjectStore
  faults : StoreFaults

/-- The numbers and the registry after one more event. -/
def report (c : PreferenceController) (x : WantedCounts × Metrics) (h : Handling) :
    WantedCounts × Metrics :=
  let done := c.handle h.event h.faults x.1 h.store
  (done.1, x.2.absorb done.2.signals)

/-- The numbers and the registry after events, the first of which finds no numbers yet. -/
def reported (c : PreferenceController) (m : Metrics) (hs : List Handling) :
    WantedCounts × Metrics :=
  hs.foldl c.report (∅, m)

theorem reported_append_singleton (c : PreferenceController) (m : Metrics) (hs : List Handling)
    (h : Handling) : c.reported m (hs ++ [h]) = c.report (c.reported m hs) h := by
  rw [reported, List.foldl_append]
  rfl

theorem counts_reported (m : Metrics) (hs : List Handling) :
    (c.reported m hs).1 = .ofLive (NodePoolEvent.live (hs.map (·.event))) := by
  -- from the last event, before which the numbers were those of the NodePools live then
  induction hs using List.reverseRecOn with
  | nil => rfl
  | append_singleton hs h ih =>
    rw [reported_append_singleton, report, ih, counts_handle, List.map_append, NodePoolEvent.live,
      NodePoolEvent.live, List.foldl_append]
    rfl

/-- **Gauge.** After any events, whatever stores they found and whichever calls failed, listings
too, the gauge for preferences shows how many annotations of the live NodePools are accepted, each
NodePool taken once and as it was last seen. -/
theorem gauge_follows (c : PreferenceController) (m : Metrics) (hs : List Handling) (h : Handling) :
    (c.reported m (hs ++ [h])).2.gauge .preference =
      some ((NodePoolEvent.live ((hs ++ [h]).map (·.event))).values.map NodePool.accepted).sum := by
  obtain ⟨sent, rest, hrest, hsignals⟩ :=
    c.reported_handle h.event h.faults (c.reported m hs).1 h.store
  have hwanted : (c.handle h.event h.faults (c.reported m hs).1 h.store).1 = _ :=
    (congrArg Prod.fst (c.reported_append_singleton m hs h)).symm.trans (c.counts_reported m _)
  rw [reported_append_singleton, report]
  dsimp only
  rw [hsignals, WantedCounts.signal, Metrics.gauge_absorb _ _ _ _ hrest, hwanted,
    WantedCounts.total_ofLive]

end PreferenceController
end PriceOverlay
