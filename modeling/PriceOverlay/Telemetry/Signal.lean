import PriceOverlay.Telemetry.Log
import PriceOverlay.Telemetry.Metric
/-!
# Signals

While it works, a component sends signals: reports to the metrics and records to the log,
in the order in which things happen.
-/
namespace PriceOverlay

inductive Signal where
  | metric (e : MetricEvent)
  | log (r : LogRecord)

namespace Signal

/-- The reports among signals. -/
def metrics (l : List Signal) : List MetricEvent :=
  l.filterMap fun
    | metric e => some e
    | log _ => none

/-- The records among signals. -/
def records (l : List Signal) : List LogRecord :=
  l.filterMap fun
    | metric _ => none
    | log r => some r

end Signal

namespace Metrics

/-- Enters the reports among signals. -/
def absorb (m : Metrics) (l : List Signal) : Metrics := (Signal.metrics l).foldl record m

end Metrics
end PriceOverlay
