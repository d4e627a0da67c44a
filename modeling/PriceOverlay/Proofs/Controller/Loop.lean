import PriceOverlay.Controller.Operator
import PriceOverlay.Proofs.Capacity.Analysis
import PriceOverlay.Proofs.Controller.Schedule
import PriceOverlay.Proofs.Reconcile.Recovery
import PriceOverlay.Proofs.Telemetry.Metrics
/-!
# The decision loop and the cycle it abandons

The shutdown may find a cycle anywhere: in its analysis, between two attempts of one of its passes,
or after them, while it waits for the record of health. What the cycle has written and told by then
stays. Its duration is told before it waits, and that a cycle was completed is entered last, so an
abandoned cycle may have told its duration, but it never makes the operator ready.

`Operator.Loop` is the loop with all that the program does not decide: how long each cycle works and
waits, where the shutdown finds the last one, and which of two things comes first that happen at one
time. Between two cycles everything may change but the durations told and whether a cycle was
completed, which nobody else enters. A loop also ends with a cycle whose analysis breaks off.

**Results**
* `cut_passes`: a cycle that got through all its passes lacks nothing but its reports.
* `loop_run`: the loop of an operator whose cycles take given times is such a loop.
* `Loop.ticks`, `Loop.metrics`, `Loop.cycled`, `Loop.countP_reported`: what a loop does to the
  times, the histogram and the health, each by induction on the loop.
* `loop_recorded`: when the cycles start, how they end, and what is recorded of them.
* `cycles_not_increasing`: with a short interval, ticks that were held up come at one time.
-/
namespace PriceOverlay

/-- The store that a pass leaves which is given up is the one that a trial leaves. -/
theorem Reconciler.store_cut (r : Reconciler) (scope : Scope) (desired : List Overlay)
    (faults : StoreFaults) (s : ObjectStore) (attempts : Nat) :
    (r.cut scope desired faults s attempts).store = r.trial scope desired s ⟨faults, attempts⟩ := by
  unfold cut trial
  cases scope.listed faults s <;> rfl

/-- After all its passes, a cycle has only its reports left to make. -/
theorem DecisionController.cut_passes (c : DecisionController) (source : CapacitySource)
    (faults : StoreFaults) (duration : Duration) (s : ObjectStore) (attempts : Nat) :
    let passes := (c.analyzer.analyze source).due.length
    let cut := c.cut source faults duration s (.passing passes attempts)
    (c.cycle source faults duration s).store = cut.store ∧
      cut.signals <+: (c.cycle source faults duration s).signals := by
  intro passes cut
  let a := c.analyzer.analyze source
  have hcut : cut = ⟨[], (c.passes a faults s a.due).store,
      a.signals ++ (c.passes a faults s a.due).signals⟩ := by
    simp only [cut, passes, a, DecisionController.cut, List.take_length, List.drop_length,
      List.append_nil]
  rw [hcut]
  exact ⟨rfl, List.prefix_append _ _⟩

/-! ## What is told before the end of a cycle -/

namespace Analyzer

variable (z : Analyzer) (s : CapacitySource)

theorem quiet_skip (x : Skipped) : Quiet (Analysis.skip x).signals := by
  simp [Analysis.skip, Signal.cycle?]

theorem quiet_append {a b : Analysis} (ha : Quiet a.signals) (hb : Quiet b.signals) :
    Quiet (a ++ b).signals :=
  Quiet.append_iff.2 ⟨ha, hb⟩

theorem quiet_plans (kind : PlanKind) : Quiet (z.plans s kind).signals := by
  unfold plans
  dsimp only
  split
  · exact quiet_skip _
  · split
    · exact quiet_skip _
    · exact .nil

theorem quiet_reserved : Quiet (z.reserved s).signals := by
  unfold reserved
  split
  · exact quiet_skip _
  · split <;> exact .nil

theorem quiet_gated (family : DataFamily) {fresh : Analysis} (h : Quiet fresh.signals) :
    Quiet (z.gated s family fresh).signals := by
  unfold gated
  split
  · exact quiet_skip _
  · rename_i age _
    have hage : Quiet [.metric (.dataAge family age)] := by simp [Signal.cycle?]
    dsimp only
    split
    · exact quiet_append hage (quiet_skip _)
    · exact quiet_append hage h

/-- An analysis reports no cycle. -/
theorem quiet_analyze : Quiet (z.analyze s).signals := by
  have hplans := z.quiet_gated s .savingsPlans
    (quiet_append (z.quiet_plans s .global) (z.quiet_plans s .regional))
  have hreserved := z.quiet_gated s .reservedInstances (z.quiet_reserved s)
  refine Quiet.append_iff.2 ⟨quiet_append hplans hreserved, ?_⟩
  split
  · exact .nil
  · exact Quiet.cons_iff.2 ⟨rfl, .flatMap fun d _ => by simp [Signal.cycle?]⟩

end Analyzer

theorem Outcome.quiet_signals (kind : OverlayKind) (o : Outcome) : Quiet (o.signals kind) := by
  unfold signals
  split <;> simp [Signal.cycle?]

namespace Reconciler

variable (r : Reconciler) (scope : Scope) (desired : List Overlay) (faults : StoreFaults)
  (s : ObjectStore)

theorem quiet_pass : Quiet (r.pass scope desired faults s).signals := by
  unfold pass
  split
  · simp [Signal.cycle?]
  · exact Quiet.append_iff.2 ⟨.flatMap fun o _ => o.quiet_signals _, by simp [Signal.cycle?]⟩

theorem quiet_cut (attempts : Nat) : Quiet (r.cut scope desired faults s attempts).signals := by
  unfold cut
  split
  · exact .nil
  · exact .flatMap fun o _ => o.quiet_signals _

end Reconciler

namespace DecisionController

variable (c : DecisionController) (faults : StoreFaults)

theorem quiet_passes (a : Analysis) (ks : List Commitment) (s : ObjectStore) :
    Quiet (c.passes a faults s ks).signals := by
  induction ks generalizing s with
  | nil => exact .nil
  | cons k r ih => exact Quiet.append_iff.2 ⟨c.reconciler.quiet_pass _ _ _ _, ih _⟩

variable (source : CapacitySource) (duration : Duration) (s : ObjectStore)

/-- A cycle reports its duration, and no other, unless its analysis breaks off. -/
theorem cycles_of_cycle : (c.cycle source faults duration s).signals.filterMap Signal.cycle? =
    if (c.analyzer.analyze source).outgrown then [] else [duration] := by
  have hquiet := Quiet.append_iff.2 ⟨c.analyzer.quiet_analyze source,
    c.quiet_passes faults (c.analyzer.analyze source) (c.analyzer.analyze source).due s⟩
  unfold cycle
  dsimp only
  rw [List.filterMap_append, List.filterMap_eq_nil_iff.2 hquiet, List.nil_append]
  split <;> rfl

/-- A cycle that is abandoned at work has reported no cycle. -/
theorem quiet_cut {p : Progress} (h : p.reported = false) :
    Quiet (c.cut source faults duration s p).signals := by
  cases p with
  | analyzing sent => exact (c.analyzer.quiet_analyze source).take sent
  | passing passes attempts =>
    refine Quiet.append_iff.2 ⟨Quiet.append_iff.2
      ⟨c.analyzer.quiet_analyze source, c.quiet_passes _ _ _ _⟩, ?_⟩
    split
    · exact .nil
    · exact c.reconciler.quiet_cut _ _ _ _ _
  | reporting entered => cases h

end DecisionController

/-! ## How a cycle ends -/

namespace ScheduledCycle

variable {c : ScheduledCycle}

theorem of_completed (h : c.ending = .completed) : c.completed = true ∧ c.reported = true := by
  rw [completed, reported, h]
  exact ⟨rfl, rfl⟩

theorem of_abandoned {p : Progress} (h : c.ending = .abandoned p) :
    c.completed = false ∧ c.reported = p.reported := by
  rw [completed, reported, h]
  exact ⟨rfl, rfl⟩

theorem of_brokenOff (h : c.ending = .brokenOff) : c.completed = false ∧ c.reported = false := by
  rw [completed, reported, h]
  exact ⟨rfl, rfl⟩

end ScheduledCycle

/-! ## Health -/

namespace Health

variable (h : Health)

theorem cycled_enter (l : List (String × ComponentHealth)) : (h.enter l).cycled = h.cycled := by
  unfold enter
  induction l generalizing h with
  | nil => rfl
  | cons c r ih => exact ih _

theorem notReady?_eq_none_iff :
    h.notReady? = none ↔ h.cycled = true ∧ h.status ≠ .unhealthy := by
  unfold notReady?
  cases h.cycled with
  | true => simp
  | false => simp

end Health

namespace Operator

variable {o : Operator} {st : OperatorState} (duration : Duration)

/-! ## One cycle -/

/-- Whether the analysis of the next cycle breaks off. -/
def breaks (o : Operator) (st : OperatorState) : Bool :=
  (o.decisions.analyzer.analyze st.source.source).outgrown

/-- A cycle adds its duration to the histogram, unless its analysis breaks off. -/
theorem metrics_cycle : (o.cycle duration st).2.metrics.cycles =
    if o.breaks st then st.metrics.cycles else st.metrics.cycles.observe duration.toFloat := by
  have hmetrics : (o.cycle duration st).2.metrics = st.metrics.absorb
      (o.decisions.cycle st.source.source st.faults duration st.store).signals := by
    unfold cycle
    dsimp only
    split <;> rfl
  rw [hmetrics, Metrics.cycles_absorb, DecisionController.cycles_of_cycle]
  unfold breaks
  split <;> rfl

/-- A cycle makes an operator ready that reports its health, unless its analysis breaks off. -/
theorem cycled_cycle : (o.cycle duration st).2.health.cycled =
    (st.health.cycled || (o.reportsHealth && !o.breaks st)) := by
  have hhealth : (o.cycle duration st).2.health =
      if o.reportsHealth && !o.breaks st then (o.cycle duration st).1.updateHealth st.health
      else st.health := by
    unfold cycle
    dsimp only
    split <;> rename_i h
    · exact (if_pos h).symm
    · exact (if_neg h).symm
  rw [hhealth]
  cases o.reportsHealth && !o.breaks st with
  | true => exact (Bool.or_true _).symm
  | false => exact (Bool.or_false _).symm

/-! ## An abandoned cycle -/

variable {p : Progress}

/-- A cycle that is abandoned has told its duration if it was done with its work. -/
theorem metrics_abandon (whole : p.reported = true → o.breaks st = false) :
    (o.abandon duration p st).metrics.cycles =
      if p.reported then st.metrics.cycles.observe duration.toFloat else st.metrics.cycles := by
  have hmetrics : (o.abandon duration p st).metrics = st.metrics.absorb
      (o.decisions.cut st.source.source st.faults duration st.store p).signals := by
    unfold abandon
    dsimp only
    split <;> rfl
  rw [hmetrics]
  cases hp : p.reported with
  | false => exact Metrics.cycles_absorb_of_quiet _ (o.decisions.quiet_cut _ _ _ _ hp)
  | true =>
    cases p with
    | analyzing | passing => cases hp
    | reporting entered =>
      -- The signals of the cut are then those of the whole cycle.
      have hwhole := whole hp
      unfold breaks at hwhole
      unfold DecisionController.cut
      rw [Metrics.cycles_absorb, DecisionController.cycles_of_cycle, hwhole]
      rfl

/-- A cycle that is abandoned never makes an operator ready. -/
theorem cycled_abandon : (o.abandon duration p st).health.cycled = st.health.cycled := by
  unfold abandon
  dsimp only
  split
  · exact Health.cycled_enter _ _
  · rfl

/-! ## Loops -/

/-- The loop of an operator that is free from `now` on and whose next tick is due at `due`: its
cycles, and the state that they leave. -/
inductive Loop (o : Operator) (shutdown : Nat) :
    Nat → Nat → OperatorState → List ScheduledCycle → OperatorState → Prop where
  | stopped {due now : Nat} {st : OperatorState} (late : shutdown ≤ max now due) :
      Loop o shutdown due now st [] st
  | abandoned {due now : Nat} {st : OperatorState} {c : ScheduledCycle} {p : Progress}
      (start : c.start = max now due) (inTime : c.start ≤ shutdown)
      (ending : c.ending = .abandoned p) (meets : c.Meets shutdown)
      (waits : p.reported = true → o.reportsHealth = true ∧ o.breaks st = false) :
      Loop o shutdown due now st [c] (o.abandon (.ofMillis c.work) p st)
  | brokenOff {due now : Nat} {st : OperatorState} {c : ScheduledCycle}
      (start : c.start = max now due) (inTime : c.start ≤ shutdown)
      (ending : c.ending = .brokenOff) (meets : c.Meets shutdown) (broken : o.breaks st = true) :
      Loop o shutdown due now st [c] (o.cycle (.ofMillis c.work) st).2
  | completed {due now : Nat} {st next final : OperatorState} {c : ScheduledCycle}
      {rest : List ScheduledCycle} (start : c.start = max now due)
      (ending : c.ending = .completed) (inTime : c.finish ≤ shutdown) (whole : o.breaks st = false)
      (cycles : next.metrics.cycles = (o.cycle (.ofMillis c.work) st).2.metrics.cycles)
      (cycled : next.health.cycled = (o.cycle (.ofMillis c.work) st).2.health.cycled)
      (go : Loop o shutdown (nextDue o.interval.millis due c.start) c.finish next rest final) :
      Loop o shutdown due now st (c :: rest) final

/-- The loop of an operator is a loop in which nobody else changes anything. -/
theorem loop_runFrom (o : Operator) (shutdown due now : Nat) (durations : List Nat)
    (st : OperatorState) :
    o.Loop shutdown due now st (o.runFrom shutdown due now durations st).1
      (o.runFrom shutdown due now durations st).2 := by
  induction due, now, durations, st using runFrom.induct o shutdown with
  | case1 due now durations st start late =>
    rw [runFrom, if_pos late]
    exact .stopped (Nat.le_of_lt late)
  | case2 due now durations st start inTime work cut =>
    rw [runFrom, if_neg inTime, if_pos cut]
    refine .abandoned rfl (Nat.le_of_not_lt inTime) rfl ?_ nofun
    exact Nat.le_of_lt cut
  | case3 due now durations st start inTime work uncut report next hcycle outgrown =>
    rw [runFrom, if_neg inTime, if_neg uncut, hcycle]
    dsimp only
    rw [if_pos outgrown]
    have hbroken : o.breaks st = true :=
      (congrArg (·.1.analysis.outgrown) hcycle).trans outgrown
    obtain rfl : (o.cycle (.ofMillis work) st).2 = next := congrArg Prod.snd hcycle
    exact .brokenOff rfl (Nat.le_of_not_lt inTime) rfl (Nat.le_of_not_lt uncut) hbroken
  | case4 due now durations st start inTime work uncut report next hcycle outgrown rest final
      hrest ih =>
    rw [runFrom, if_neg inTime, if_neg uncut, hcycle]
    dsimp only
    rw [if_neg outgrown]
    have hwhole : o.breaks st = false :=
      (congrArg (·.1.analysis.outgrown) hcycle).trans (Bool.eq_false_iff.2 outgrown)
    obtain rfl : (o.cycle (.ofMillis work) st).2 = next := congrArg Prod.snd hcycle
    exact .completed rfl rfl (Nat.le_of_not_lt uncut) hwhole rfl rfl ih

theorem loop_run (o : Operator) (shutdown : Nat) (durations : List Nat) (st : OperatorState) :
    o.Loop shutdown 0 0 st (o.run shutdown durations st).1 (o.run shutdown durations st).2 :=
  o.loop_runFrom shutdown 0 0 durations st

namespace Loop

variable {shutdown due now : Nat} {final : OperatorState} {l : List ScheduledCycle}

theorem ticks (h : o.Loop shutdown due now st l final) :
    Ticks o.interval.millis shutdown due now l := by
  induction h with
  | stopped late => exact .stopped late
  | abandoned start inTime ending meets | brokenOff start inTime ending meets =>
    exact .last start inTime (by rw [ending]; exact nofun) meets
  | completed start ending inTime _ _ _ _ ih => exact .completed start ending inTime ih

/-- The histogram takes in the durations that were told, one after the other. -/
theorem metrics (h : o.Loop shutdown due now st l final) :
    final.metrics.cycles = (l.filter (·.reported)).foldl
      (fun h c => h.observe (Duration.ofMillis c.work).toFloat) st.metrics.cycles := by
  induction h with
  | stopped => rfl
  | @abandoned _ _ _ c p _ _ ending _ waits =>
    rw [metrics_abandon _ fun hp => (waits hp).2, ← (ScheduledCycle.of_abandoned ending).2]
    cases hc : c.reported <;> simp [hc]
  | brokenOff _ _ ending _ broken =>
    rw [metrics_cycle, broken]
    simp [(ScheduledCycle.of_brokenOff ending).2]
  | completed _ ending _ whole cycles _ _ ih =>
    rw [ih, List.filter_cons_of_pos (ScheduledCycle.of_completed ending).2, List.foldl_cons, cycles,
      metrics_cycle, whole]
    rfl

/-- Whether a cycle was completed is entered by the completed ones only. -/
theorem cycled (h : o.Loop shutdown due now st l final) :
    final.health.cycled = (st.health.cycled || (o.reportsHealth && l.any (·.completed))) := by
  induction h with
  | stopped => simp
  | abandoned _ _ ending =>
    rw [cycled_abandon]
    simp [(ScheduledCycle.of_abandoned ending).1]
  | brokenOff _ _ ending _ broken =>
    rw [cycled_cycle, broken]
    simp [(ScheduledCycle.of_brokenOff ending).1]
  | completed _ ending _ whole _ cycled _ ih =>
    rw [ih, cycled, cycled_cycle, whole, List.any_cons, (ScheduledCycle.of_completed ending).1,
      Bool.or_assoc]
    cases o.reportsHealth <;> rfl

/-- A duration is told by every completed cycle, and by at most one other, the last. -/
theorem countP_reported (h : o.Loop shutdown due now st l final) :
    l.countP (·.reported) = l.countP (·.completed) ∨
      l.countP (·.reported) = l.countP (·.completed) + 1 ∧ o.reportsHealth = true ∧
        ∃ c entered, l.getLast? = some c ∧ c.ending = .abandoned (.reporting entered) := by
  induction h with
  | stopped => exact .inl rfl
  | @abandoned _ _ _ c p _ _ ending _ waits =>
    obtain ⟨hcompleted, hreported⟩ := ScheduledCycle.of_abandoned ending
    cases p with
    | analyzing | passing => exact .inl (by simp [hcompleted, hreported, Progress.reported])
    | reporting entered =>
      refine .inr ⟨?_, (waits rfl).1, c, entered, rfl, ending⟩
      simp [hcompleted, hreported, Progress.reported]
  | brokenOff _ _ ending =>
    obtain ⟨hcompleted, hreported⟩ := ScheduledCycle.of_brokenOff ending
    exact .inl (by simp [hcompleted, hreported])
  | completed _ ending _ _ _ _ _ ih =>
    obtain ⟨hcompleted, hreported⟩ := ScheduledCycle.of_completed ending
    rw [List.countP_cons_of_pos hreported, List.countP_cons_of_pos hcompleted]
    obtain hall | ⟨hmore, hhealth, d, entered, hlast, hending⟩ := ih
    · exact .inl (congrArg (· + 1) hall)
    · refine .inr ⟨congrArg (· + 1) hmore, hhealth, d, entered, ?_, hending⟩
      rw [List.getLast?_cons, hlast]
      rfl

end Loop

/-- What a loop leaves of its cycles in the histogram and in the record of health. -/
structure Recorded (o : Operator) (st : OperatorState) (l : List ScheduledCycle)
    (final : OperatorState) : Prop where
  durations : final.metrics.cycles = (l.filter (·.reported)).foldl
    (fun h c => h.observe (Duration.ofMillis c.work).toFloat) st.metrics.cycles
  /-- Each completed cycle has a sample, and beyond these only the last one has, if the shutdown
  found it waiting for the record of health. -/
  samples : final.metrics.cycles.count = st.metrics.cycles.count + l.countP (·.completed) ∨
    final.metrics.cycles.count = st.metrics.cycles.count + l.countP (·.completed) + 1 ∧
      o.reportsHealth = true ∧
        ∃ c entered, l.getLast? = some c ∧ c.ending = .abandoned (.reporting entered)
  cycled : final.health.cycled = (st.health.cycled || (o.reportsHealth && l.any (·.completed)))
  ready : final.health.notReady? = none ↔ final.health.status ≠ .unhealthy ∧
    (st.health.cycled = true ∨ o.reportsHealth = true ∧ ∃ c ∈ l, c.ending = .completed)

theorem Loop.recorded {shutdown due now : Nat} {final : OperatorState} {l : List ScheduledCycle}
    (h : o.Loop shutdown due now st l final) : o.Recorded st l final := by
  have hcount : final.metrics.cycles.count =
      st.metrics.cycles.count + l.countP (·.reported) := by
    rw [h.metrics, Histogram.count_foldl_observe, List.countP_eq_length_filter]
  constructor
  case durations => exact h.metrics
  case samples =>
    rw [hcount]
    obtain hall | ⟨hmore, hlast⟩ := h.countP_reported
    · exact .inl (congrArg (_ + ·) hall)
    · exact .inr ⟨by rw [hmore, Nat.add_assoc], hlast⟩
  case cycled => exact h.cycled
  case ready =>
    rw [Health.notReady?_eq_none_iff, h.cycled, and_comm]
    simp only [Bool.or_eq_true, Bool.and_eq_true, List.any_eq_true, ScheduledCycle.completed,
      decide_eq_true_eq]

/-- **Schedule.** The loop of an operator is a `Loop`, and whatever the cycles of a loop take and
wherever the shutdown finds the last one: they start and end as `Paced` says, the histogram takes
in the durations of the completed cycles, and of the last one if it was done with its work, and
the operator becomes ready only by a completed cycle. -/
theorem loop_recorded (o : Operator) (shutdown : Nat) (st : OperatorState) :
    (∀ durations,
      o.Loop shutdown 0 0 st (o.run shutdown durations st).1 (o.run shutdown durations st).2) ∧
    ∀ l final, o.Loop shutdown 0 0 st l final →
      Paced o.interval.millis shutdown l ∧ o.Recorded st l final :=
  ⟨fun durations => o.loop_run shutdown durations st,
    fun _ _ h => ⟨h.ticks.paced, h.recorded⟩⟩

/-- A second cycle that is done with its work at 7 and still waits when the shutdown comes at 9:
its duration counts. -/
theorem loop_recorded_waiting :
    let o : Operator := ⟨{}, {}, ⟨2, by decide⟩, true⟩
    let st := OperatorState.start {}
    let l : List ScheduledCycle :=
      [⟨0, 6, 0, .completed⟩, ⟨6, 1, 4, .abandoned (.reporting 1)⟩]
    let final := o.abandon (.ofMillis 1) (.reporting 1) (o.cycle (.ofMillis 6) st).2
    o.Loop 9 0 0 st l final ∧ Paced 2 9 l ∧ o.Recorded st l final ∧
      final.metrics.cycles.count = 2 ∧ final.health.notReady? = none := by
  intro o st l final
  have hloop : o.Loop 9 0 0 st l final := by
    refine .completed rfl rfl (by decide) (by decide +kernel) rfl rfl ?_
    refine .abandoned rfl (by decide) rfl ?_ fun _ => ⟨rfl, by decide +kernel⟩
    simp only [ScheduledCycle.Meets, ScheduledCycle.finish, Progress.reported]
    decide
  have hrecorded := (loop_recorded o 9 st).2 l final hloop
  refine ⟨hloop, hrecorded.1, hrecorded.2, ?_, ?_⟩ <;> decide +kernel

/-- A cycle that takes three intervals holds up ticks that all come when it is done: with an
interval of 2 and a first cycle of 6, the cycles start at 0, 6, 6, 6 and 8. -/
theorem cycles_not_increasing : ¬ ∀ (o : Operator) (shutdown : Nat) (durations : List Nat)
    (st : OperatorState) (i : Nat) (p a b : ScheduledCycle),
    (o.run shutdown durations st).1[i]? = some p →
      (o.run shutdown durations st).1[i + 1]? = some a →
        (o.run shutdown durations st).1[i + 2]? = some b →
          p.start + o.interval.millis < p.finish → a.start < b.start := by
  intro h
  have hlt := h ⟨{}, {}, ⟨2, by decide⟩, true⟩ 9 [6] (.start {}) 0 ⟨0, 6, 0, .completed⟩
    ⟨6, 0, 0, .completed⟩ ⟨6, 0, 0, .completed⟩ (by decide +kernel) (by decide +kernel)
    (by decide +kernel) (by decide)
  exact absurd hlt (by decide)

end Operator
end PriceOverlay
