import PriceOverlay.Capacity.Analysis
import PriceOverlay.Overlay.Rendering
import PriceOverlay.Reconcile.Pass
import PriceOverlay.Telemetry.Health
/-!
# Decision cycles

A cycle analyzes the capacity data and makes one pass for each commitment that was
analyzed. The overlays of a commitment that was not analyzed stay as they are until a
later cycle. A cycle whose analysis breaks off makes no pass and reports nothing.

A completed cycle reports its duration after its last pass, and only then enters its health,
component by component, waiting each time for the record of health to be free. So a cycle that is
abandoned may have reported its duration.
-/
namespace PriceOverlay

/-- What it takes to run decision cycles. -/
structure DecisionController where
  analyzer : Analyzer := {}
  reconciler : Reconciler := {}
  rendering : Rendering := {}

/-- What a cycle has done. -/
structure CycleReport where
  analysis : Analysis
  counts : Counts
  /-- The scopes whose overlays could not be listed. -/
  failedScopes : List String

namespace DecisionController

/-- The overlays that an analysis wants for a commitment. -/
def desired (c : DecisionController) (a : Analysis) (k : Commitment) : List Overlay :=
  (a.wanted k).map c.rendering.decision

/-- The passes over the commitments that were analyzed, one after the other. -/
def passes (c : DecisionController) (a : Analysis) (faults : StoreFaults) (s : ObjectStore) :
    List Commitment → Effect (Counts × List String)
  | [] => ⟨({}, []), s, []⟩
  | k :: r =>
    let scope := Scope.commitment k
    let done := c.reconciler.pass scope (c.desired a k) faults s
    let rest := passes c a faults done.store r
    let (counts, failed) := rest.answer
    { answer := match done.answer with
        | .ok n => (n.merge counts, failed)
        | .error _ => (counts, scope.text :: failed)
      store := rest.store
      signals := done.signals ++ rest.signals }

/-- One cycle, up to the report of its duration. -/
def cycle (c : DecisionController) (source : CapacitySource) (faults : StoreFaults)
    (duration : Duration) (s : ObjectStore) : Effect CycleReport :=
  let a := c.analyzer.analyze source
  let done := c.passes a faults s a.due
  let total := a.due.foldl (fun n k => n + (c.desired a k).length) 0
  { answer := ⟨a, done.answer.1, done.answer.2⟩
    store := done.store
    signals := a.signals ++ done.signals ++
      if a.outgrown then []
      else [.metric (.desired .costDecision total), .metric (.cycle duration)] }

end DecisionController

namespace CycleReport

/-- What a cycle says about the health of the components, in the order in which it enters them. -/
def components (r : CycleReport) : List (String × ComponentHealth) :=
  [(Health.capacitySource,
      if r.analysis.skipped.isEmpty then .healthy
      else .degraded ("; ".intercalate (r.analysis.skipped.map (·.cause.reason)))),
    (Health.overlayStore,
      if r.failedScopes.isEmpty then .healthy
      else .degraded ("list failed for " ++ ", ".intercalate r.failedScopes)),
    (Health.decisionLoop, .healthy)]

/-- What a completed cycle says about the health of the components. -/
def updateHealth (r : CycleReport) (h : Health) : Health := (h.enter r.components).recordCycle

end CycleReport

/-! ## Cycles that are abandoned -/

/-- How far a cycle got before it was abandoned. -/
inductive Progress where
  /-- Still analyzing, with some of its signals sent. -/
  | analyzing (sent : Nat)
  /-- After some of its passes, and some of the attempts of the next one. -/
  | passing (passes attempts : Nat)
  /-- With its duration reported, and the health of some components entered. -/
  | reporting (entered : Nat)
  deriving DecidableEq, Repr

namespace Progress

/-- Whether the duration of the cycle was reported. -/
def reported : Progress → Bool
  | analyzing _ | passing _ _ => false
  | reporting _ => true

end Progress

namespace Reconciler

/-- What a pass leaves that is given up after some of its attempts. -/
def cut (r : Reconciler) (scope : Scope) (desired : List Overlay) (faults : StoreFaults)
    (s : ObjectStore) (attempts : Nat) : Effect Unit :=
  match scope.listed faults s with
  | .error _ => ⟨(), s, []⟩
  | .ok existing =>
    let done := attemptAll faults s
      ((Plan.compute (desired.map r.owned) existing).attempts.take attempts)
    ⟨(), done.2, done.1.flatMap (Outcome.signals scope.kind)⟩

end Reconciler

namespace DecisionController

/-- What a cycle leaves that is abandoned, and the health of components that it entered. -/
def cut (c : DecisionController) (source : CapacitySource) (faults : StoreFaults)
    (duration : Duration) (s : ObjectStore) :
    Progress → Effect (List (String × ComponentHealth))
  | .analyzing sent => ⟨[], s, (c.analyzer.analyze source).signals.take sent⟩
  | .passing passes attempts =>
    let a := c.analyzer.analyze source
    let done := c.passes a faults s (a.due.take passes)
    let next : Effect Unit := match a.due.drop passes with
      | [] => ⟨(), done.store, []⟩
      | k :: _ => c.reconciler.cut (.commitment k) (c.desired a k) faults done.store attempts
    ⟨[], next.store, a.signals ++ done.signals ++ next.signals⟩
  | .reporting entered =>
    let done := c.cycle source faults duration s
    ⟨done.answer.components.take entered, done.store, done.signals⟩

end DecisionController
end PriceOverlay
