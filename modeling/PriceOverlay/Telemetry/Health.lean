import PriceOverlay.Json.Basic
import PriceOverlay.Table
/-!
# Health and readiness

Each component has a status, and the controller is as well as its worst component. It is
ready once a decision cycle has been completed and no component is unhealthy.
-/
namespace PriceOverlay

inductive HealthStatus where
  | healthy
  /-- At work, with something skipped or failed. -/
  | degraded
  | unhealthy
  deriving DecidableEq, Repr

namespace HealthStatus

def text : HealthStatus → String
  | healthy => "healthy"
  | degraded => "degraded"
  | unhealthy => "unhealthy"

/-- The worse of two. -/
def worse : HealthStatus → HealthStatus → HealthStatus
  | unhealthy, _ | _, unhealthy => unhealthy
  | degraded, _ | _, degraded => degraded
  | healthy, healthy => healthy

end HealthStatus

structure ComponentHealth where
  status : HealthStatus
  message : Option String
  deriving DecidableEq, Repr

namespace ComponentHealth

def healthy : ComponentHealth := ⟨.healthy, none⟩
def degraded (message : String) : ComponentHealth := ⟨.degraded, some message⟩
def unhealthy (message : String) : ComponentHealth := ⟨.unhealthy, some message⟩

def json (c : ComponentHealth) : Json :=
  .obj (("status", .str c.status.text) :: c.message.toList.map fun m => ("message", .str m))

end ComponentHealth

structure Health where
  components : Table String ComponentHealth
  /-- Whether a decision cycle has been completed. -/
  cycled : Bool

namespace Health

def empty : Health := ⟨∅, false⟩

/-- The components whose health is kept. -/
def decisionLoop : String := "decision_loop"
def preferenceWatcher : String := "preference_watcher"
def capacitySource : String := "capacity_source"
def overlayStore : String := "overlay_store"

def set (h : Health) (name : String) (c : ComponentHealth) : Health :=
  { h with components := h.components.insert name c }

/-- Enters the health of components, one after the other. -/
def enter (h : Health) (l : List (String × ComponentHealth)) : Health :=
  l.foldl (fun h c => h.set c.1 c.2) h

/-- Every component of the controller starts out healthy. -/
def registerAll (h : Health) : Health :=
  h.enter ([decisionLoop, preferenceWatcher, capacitySource, overlayStore].map (·, .healthy))

def recordCycle (h : Health) : Health := { h with cycled := true }

/-- The worst status of a component. -/
def status (h : Health) : HealthStatus :=
  h.components.values.foldl (fun s c => s.worse c.status) .healthy

/-- Why the controller is not ready, if it is not. -/
def notReady? (h : Health) : Option String :=
  if !h.cycled then some "Waiting for the first decision cycle"
  else if h.status = .unhealthy then some "Critical component unhealthy"
  else none

def json (h : Health) : Json :=
  .obj [("status", .str h.status.text),
    ("components", .obj (h.components.entries.map fun e => (e.1, e.2.json)))]

/-- The readiness; that a cycle was completed is told without its time. -/
def readinessJson (h : Health) : Json :=
  .obj (("ready", .bool h.notReady?.isNone) ::
    (h.notReady?.toList.map (fun r => ("reason", .str r)) ++
      if h.cycled then [("last_cycle", .bool true)] else []))

end Health
end PriceOverlay
