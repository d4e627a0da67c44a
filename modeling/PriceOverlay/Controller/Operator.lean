import PriceOverlay.Controller.Decisions
import PriceOverlay.Controller.Preferences
import PriceOverlay.Controller.Schedule
/-!
# The operator

The operator runs the decision loop and the preference controller on one store, with one
registry of metrics, one log and one record of health. Every operation takes the state of
the operator and gives an answer and the next state.
-/
namespace PriceOverlay

/-- Why a decision loop cannot be built. -/
inductive LoopError where
  | noSource
  | noReconciler
  | zeroInterval
  deriving DecidableEq, Repr

namespace LoopError

def message : LoopError → String
  | noSource => "Capacity source is required"
  | noReconciler => "Reconciler is required"
  | zeroInterval => "Decision interval must be greater than zero"

end LoopError

/-- The time between cycles, in milliseconds. -/
structure Interval where
  millis : Nat
  positive : 0 < millis

namespace Interval

/-- Five minutes. -/
def standard : Interval := ⟨300000, by decide⟩

end Interval

structure Operator where
  decisions : DecisionController
  preferences : PreferenceController
  interval : Interval
  /-- Whether the decision loop reports its health. -/
  reportsHealth : Bool

structure OperatorState where
  store : ObjectStore
  faults : StoreFaults
  source : FixedSource
  wanted : WantedCounts
  health : Health
  metrics : Metrics
  log : List LogRecord

namespace OperatorState

/-- Nothing stored, reported or recorded yet. -/
def start (source : FixedSource) : OperatorState :=
  ⟨.empty, .none, source, ∅, .empty, .empty, []⟩

/-- The state after signals have been taken in. -/
def absorb (st : OperatorState) (l : List Signal) : OperatorState :=
  { st with metrics := st.metrics.absorb l, log := st.log ++ Signal.records l }

/-- The state after an effect. -/
def after {α : Type} (st : OperatorState) (e : Effect α) : OperatorState :=
  { st with store := e.store }.absorb e.signals

end OperatorState

namespace Operator

/-- The decision loop of given parts; what is missing is told in a fixed order. -/
def build (decisions : DecisionController) (preferences : PreferenceController)
    (millis : Nat) (hasSource hasReconciler reportsHealth : Bool) : Except LoopError Operator :=
  if !hasSource then .error .noSource
  else if !hasReconciler then .error .noReconciler
  else if h : 0 < millis then .ok ⟨decisions, preferences, ⟨millis, h⟩, reportsHealth⟩
  else .error .zeroInterval

/-- One decision cycle that works for some time. -/
def cycle (o : Operator) (duration : Duration) (st : OperatorState) :
    CycleReport × OperatorState :=
  let done := o.decisions.cycle st.source.source st.faults duration st.store
  let st := st.after done
  (done.answer,
    if o.reportsHealth && !done.answer.analysis.outgrown then
      { st with health := done.answer.updateHealth st.health }
    else st)

/-- The state after a cycle that is abandoned; its work takes some time, if it gets that far. -/
def abandon (o : Operator) (duration : Duration) (p : Progress) (st : OperatorState) :
    OperatorState :=
  let done := o.decisions.cut st.source.source st.faults duration st.store p
  let st := st.after done
  if o.reportsHealth then { st with health := st.health.enter done.answer } else st

/-- The decision loop from a tick on that is due at `due`, when the loop is free at `now`. The
cycles take the times listed, and none after the last of them, for their first query; the record
of health is free. -/
def runFrom (o : Operator) (shutdown due now : Nat) (durations : List Nat) (st : OperatorState) :
    List ScheduledCycle × OperatorState :=
  let start := max now due
  if shutdown < start then ([], st)
  else
    let work := durations.headD 0
    if shutdown < start + work then
      ([⟨start, work, 0, .abandoned (.analyzing 0)⟩],
        o.abandon (.ofMillis work) (.analyzing 0) st)
    else
      let (report, next) := o.cycle (.ofMillis work) st
      if report.analysis.outgrown then ([⟨start, work, 0, .brokenOff⟩], next)
      else
        let (rest, final) := o.runFrom shutdown (nextDue o.interval.millis due start)
          (start + work) durations.tail next
        (⟨start, work, 0, .completed⟩ :: rest, final)
termination_by shutdown + 1 - due
decreasing_by
  have hpositive := o.interval.positive
  have hnext : due + 1 ≤ nextDue o.interval.millis due (max now due) := by
    unfold nextDue
    split <;> omega
  omega

/-- The decision loop until it is shut down. -/
def run (o : Operator) (shutdown : Nat) (durations : List Nat) (st : OperatorState) :
    List ScheduledCycle × OperatorState :=
  o.runFrom shutdown 0 0 durations st

/-- An analysis without a pass. -/
def analyze (o : Operator) (st : OperatorState) : Analysis × OperatorState :=
  let a := o.decisions.analyzer.analyze st.source.source
  (a, st.absorb a.signals)

/-- One event of the NodePools. -/
def handle (o : Operator) (e : NodePoolEvent) (st : OperatorState) :
    Except ListFailure Counts × OperatorState :=
  let (wanted, done) := o.preferences.handle e st.faults st.wanted st.store
  (done.answer, { st with wanted }.after done)

/-- Removes the preference overlays of NodePools that are not listed. -/
def orphans (live : List String) (st : OperatorState) :
    Except ListFailure Counts × OperatorState :=
  let done := PreferenceController.orphans live st.faults st.store
  (done.answer, st.after done)

/-- One pass over a scope. -/
def pass (o : Operator) (scope : Scope) (desired : List Overlay) (st : OperatorState) :
    Except ListFailure Counts × OperatorState :=
  let done := o.decisions.reconciler.pass scope desired st.faults st.store
  (done.answer, st.after done)

/-- Applies the plan for given overlays. -/
def apply (kind : OverlayKind) (desired : List Overlay) (existing : List StoredOverlay)
    (st : OperatorState) : Counts × OperatorState :=
  let done := (Plan.compute desired existing).apply kind st.faults st.store
  (done.answer, st.after done)

/-- One write to the store. -/
def write (w : Write) (st : OperatorState) :
    Except StoreError (Option StoredOverlay) × OperatorState :=
  let (answer, store) := st.store.writeVia st.faults w
  (answer, { st with store })

/-- Writes the records of a start and of a stop. -/
def startAndStop (version : String) (disabled dryRun : Bool) (component reason : String)
    (st : OperatorState) : OperatorState :=
  st.absorb [.log ⟨"controller", .started version disabled dryRun⟩,
    .log ⟨component, .stopped reason⟩]

end Operator

/-! ## Changes made by hand -/

/-- A change to a stored overlay: labels to merge in, labels to drop, and what to replace. -/
structure Touch where
  name : String
  labels : Labels := ∅
  dropped : List String := []
  weight : Option Int := none
  requirements : Option (List Requirement) := none
  owners : Option (List Owner) := none

namespace Touch

def change (t : Touch) (o : StoredOverlay) : StoredOverlay :=
  { o with
    labels := (o.labels.union t.labels).filter fun k _ => !t.dropped.contains k
    weight := t.weight.getD o.weight
    requirements := t.requirements.getD o.requirements
    owners := t.owners.getD o.owners }

/-- Reads an overlay, through the faults, and updates it without them; none if absent. -/
def run (t : Touch) (st : OperatorState) :
    Option (Except StoreError StoredOverlay) × OperatorState :=
  match st.store.getVia st.faults t.name with
  | .error e => (some (.error e), st)
  | .ok none => (none, st)
  | .ok (some o) =>
    let (answer, store) := st.store.update (t.change o)
    (some answer, { st with store })

end Touch
end PriceOverlay
