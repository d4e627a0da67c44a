import PriceOverlay.Capacity.Commitment
import PriceOverlay.Decimal.Text
import PriceOverlay.Overlay.Basic
import PriceOverlay.Store.Basic
import PriceOverlay.Telemetry.Duration
/-!
# Metrics

What the controllers report while they run, and the registry that sums it up: counters of
writes, passes, skips and refused annotations, gauges of decisions, data ages and wanted
overlays, and a histogram of cycle durations. The registry is a fold over the reports.
-/
namespace PriceOverlay

/-- One report to the registry. -/
inductive MetricEvent where
  | operation (kind : OverlayKind) (verb : WriteVerb) (success : Bool)
  | pass (kind : OverlayKind) (result : String)
  | skip (family : DataFamily) (reason : String)
  | refusedAnnotations (nodePool : String) (count : Nat)
  /-- Forgets every decision reported so far. -/
  | decisionsReset
  | decision (name : String) (commitment : Commitment) (shouldExist : Bool)
  | dataAge (family : DataFamily) (age : Duration)
  | desired (kind : OverlayKind) (count : Nat)
  | cycle (duration : Duration)
  deriving DecidableEq

/-- A histogram: how many observations each bound is not below, and their sum. -/
structure Histogram where
  buckets : List (Float × Nat)
  sum : Float
  count : Nat

namespace Histogram

/-- No observation yet. -/
def ofBounds (bounds : List Float) : Histogram := ⟨bounds.map (·, 0), 0, 0⟩

def observe (h : Histogram) (x : Float) : Histogram where
  buckets := h.buckets.map fun b => if x ≤ b.1 then (b.1, b.2 + 1) else b
  sum := h.sum + x
  count := h.count + 1

end Histogram

/-- Series by the values of their labels, in the alphabetical order of the label names. -/
abbrev SeriesTable (α : Type) := Table (List String) α

structure Metrics where
  operations : SeriesTable Nat
  passes : SeriesTable Nat
  skips : SeriesTable Nat
  refused : SeriesTable Nat
  decisions : SeriesTable Nat
  dataAges : SeriesTable Float
  desired : SeriesTable Nat
  cycles : Histogram

namespace Metrics

/-- The bounds of the cycle durations, in seconds. -/
def cycleBounds : List Float := [0.05, 0.1, 0.25, 0.5, 1, 2.5, 5, 10, 30, 60]

def empty : Metrics := ⟨∅, ∅, ∅, ∅, ∅, ∅, ∅, .ofBounds cycleBounds⟩

/-- Enters one report. -/
def record (m : Metrics) : MetricEvent → Metrics
  | .operation kind verb success =>
    let outcome := if success then "success" else "error"
    { m with operations := m.operations.adjust [verb.text, kind.text, outcome] 0 (· + 1) }
  | .pass kind result => { m with passes := m.passes.adjust [kind.text, result] 0 (· + 1) }
  | .skip family reason => { m with skips := m.skips.adjust [family.text, reason] 0 (· + 1) }
  | .refusedAnnotations nodePool count =>
    { m with refused := m.refused.adjust [nodePool] 0 (· + count) }
  | .decisionsReset => { m with decisions := ∅ }
  | .decision name commitment shouldExist =>
    { m with decisions := m.decisions.insert [commitment.text, name] shouldExist.toNat }
  | .dataAge family age => { m with dataAges := m.dataAges.insert [family.text] age.toFloat }
  | .desired kind count => { m with desired := m.desired.insert [kind.text] count }
  | .cycle duration => { m with cycles := m.cycles.observe duration.toFloat }

end Metrics

/-- The sorts of metrics. -/
inductive MetricType where
  | counter
  | gauge
  | histogram
  deriving DecidableEq, Repr

namespace MetricType

def text : MetricType → String
  | counter => "counter"
  | gauge => "gauge"
  | histogram => "histogram"

end MetricType

/-- One series: its labels and its value. -/
structure Series where
  labels : List (String × String)
  value : Float

/-- The series of one metric. A histogram is one series, whose value is its count. -/
structure MetricFamily where
  name : String
  help : String
  type : MetricType
  series : List Series

namespace Metrics

/-- The series of a table under the names of its labels. -/
def seriesOf {α : Type} (labels : List String) (value : α → Float) (t : SeriesTable α) :
    List Series :=
  t.entries.map fun e => ⟨labels.zip e.1, value e.2⟩

/-- The families by name; those without series are there too. -/
def families (m : Metrics) : List MetricFamily :=
  [⟨"capacity_overlay_analysis_skipped_total", "Data families skipped for a cycle, by reason",
      .counter, seriesOf ["family", "reason"] Float.ofNat m.skips⟩,
    ⟨"capacity_overlay_cycle_duration_seconds", "Duration of a decision cycle", .histogram,
      [⟨[], Float.ofNat m.cycles.count⟩]⟩,
    ⟨"capacity_overlay_data_age_seconds", "Age of the capacity data family at the last check",
      .gauge, seriesOf ["family"] id m.dataAges⟩,
    ⟨"capacity_overlay_decision_should_exist",
      "Latest decision per overlay (1 = overlay wanted)", .gauge,
      seriesOf ["capacity_type", "name"] Float.ofNat m.decisions⟩,
    ⟨"capacity_overlay_desired_overlays", "Overlays currently desired per origin", .gauge,
      seriesOf ["origin"] Float.ofNat m.desired⟩,
    ⟨"capacity_overlay_operations_total",
      "Overlay store writes by origin, operation and outcome", .counter,
      seriesOf ["operation", "origin", "outcome"] Float.ofNat m.operations⟩,
    ⟨"capacity_overlay_preference_parse_errors_total",
      "Rejected preference annotations per NodePool", .counter,
      seriesOf ["nodepool"] Float.ofNat m.refused⟩,
    ⟨"capacity_overlay_reconcile_passes_total", "Reconcile passes by origin and result",
      .counter, seriesOf ["origin", "result"] Float.ofNat m.passes⟩]

end Metrics
end PriceOverlay
