import PriceOverlay.Cluster.NodePools
import PriceOverlay.Controller.Operator
/-!
# Following a watch

The operator handles each change that a watch of NodePools tells. The watcher is healthy
after a change that was handled, and degraded after one that was not and after a failure
of the watch itself.
-/
namespace PriceOverlay

namespace Cluster.WatchItem

/-- The change to handle; none for a failure. -/
def event? : WatchItem → Option NodePoolEvent
  | listed ps => some (.restarted ps)
  | applied p => some (.applied p)
  | deleted p => some (.deleted p)
  | failed => none

end Cluster.WatchItem

namespace Operator

def watcherHealth (c : ComponentHealth) (st : OperatorState) : OperatorState :=
  { st with health := st.health.set Health.preferenceWatcher c }

/-- Handles one item. -/
def observe (o : Operator) (st : OperatorState) (i : Cluster.WatchItem) : OperatorState :=
  match i.event? with
  | none => watcherHealth (.degraded "watch error") st
  | some e =>
    match o.handle e st with
    | (.ok _, st) => watcherHealth .healthy st
    | (.error e, st) => watcherHealth (.degraded e.message) st

/-- Follows a watch from its start, through the replies to its requests. -/
def follow (o : Operator) (replies : List Http.Reply) (st : OperatorState) : OperatorState :=
  (Cluster.watchItems (.listing []) replies).foldl o.observe st

end Operator
end PriceOverlay
