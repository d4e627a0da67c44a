import PriceOverlay.Capacity.Decision
import PriceOverlay.Capacity.Source
import PriceOverlay.Telemetry.Signal
/-!
# Analysis

An analysis asks for the age of each family of data. A family that is fresh is analyzed,
commitment by commitment; one that is stale, or whose age is not known, is skipped as a
whole, and a commitment whose queries fail is skipped alone. What is skipped says nothing
about whether an overlay should exist.

Reserved instances are counted in machine words. An analysis in which the count of a key outgrows
its word breaks off there: nobody gets its report, and it says no more.
-/
namespace PriceOverlay

/-- How old the data of a family may be, in seconds. -/
structure Freshness where
  savingsPlans : Nat := 7200
  reservedInstances : Nat := 7200
  deriving DecidableEq, Repr

namespace Freshness

/-- The greatest age of a family at which it is fresh. -/
def ceiling (f : Freshness) : DataFamily → Duration
  | .savingsPlans => .ofSeconds f.savingsPlans
  | .reservedInstances => .ofSeconds f.reservedInstances

end Freshness

/-- Why an analysis did not take place. -/
inductive SkipCause where
  | stale (age ceiling : Duration)
  | ageUnknown (error : SourceError)
  | queryFailed (commitment : Commitment) (error : SourceError)
  deriving DecidableEq, Repr

namespace SkipCause

/-- The cause as the metrics name it. -/
def label : SkipCause → String
  | stale .. => "stale"
  | ageUnknown _ => "freshness_unavailable"
  | queryFailed .. => "query_failed"

def reason : SkipCause → String
  | stale age ceiling =>
    "data age " ++ Decimal.natural age.seconds ++ "s exceeds maximum " ++
      Decimal.natural ceiling.seconds ++ "s"
  | ageUnknown e => "freshness check failed: " ++ e.message
  | queryFailed .reserved e => "reserved instance query failed: " ++ e.message
  | queryFailed c e => c.text ++ " query failed: " ++ e.message

end SkipCause

/-- What was skipped: a family as a whole, or one commitment of it. -/
structure Skipped where
  family : DataFamily
  commitment : Option Commitment
  cause : SkipCause
  deriving DecidableEq, Repr

/-- The answer of an analysis, and the queries it made. -/
structure Analysis where
  decisions : List Decision := []
  analyzed : List Commitment := []
  skipped : List Skipped := []
  ages : List (DataFamily × Duration) := []
  asked : List CapacityQuery := []
  signals : List Signal := []
  /-- Whether a count outgrew its word, so that the analysis broke off; the rest is how far it
  got. -/
  outgrown : Bool := false

namespace Analysis

/-- Two analyses, one after the other. -/
def append (a b : Analysis) : Analysis where
  decisions := a.decisions ++ b.decisions
  analyzed := a.analyzed ++ b.analyzed
  skipped := a.skipped ++ b.skipped
  ages := a.ages ++ b.ages
  asked := a.asked ++ b.asked
  signals := a.signals ++ b.signals
  outgrown := a.outgrown || b.outgrown

instance : Append Analysis := ⟨append⟩

/-- The analysis that skips something. -/
def skip (s : Skipped) : Analysis where
  skipped := [s]
  signals := [.metric (.skip s.family s.cause.label),
    .log ⟨Component.decisionLoop, .skipped s.family s.cause.reason⟩]

/-- The decisions that want an overlay for a commitment. -/
def wanted (a : Analysis) (c : Commitment) : List Decision :=
  a.decisions.filter fun d => d.commitment = c && d.shouldExist

/-- The commitments whose overlays are brought in line: those that were analyzed, if the analysis
came to its end. -/
def due (a : Analysis) : List Commitment := if a.outgrown then [] else a.analyzed

end Analysis

/-- What an analysis goes by. -/
structure Analyzer where
  rules : DecisionRules := {}
  freshness : Freshness := {}

namespace Analyzer

/-- Analyzes the savings plans of a kind. Their use is asked for only if what remains of
them is known. -/
def plans (z : Analyzer) (s : CapacitySource) (kind : PlanKind) : Analysis :=
  let failed (asked : List CapacityQuery) (e : SourceError) : Analysis :=
    { Analysis.skip ⟨.savingsPlans, some kind.commitment, .queryFailed kind.commitment e⟩ with
      asked }
  match s.capacity kind with
  | .error e => failed [.capacity kind] e
  | .ok capacity =>
    match s.utilization kind with
    | .error e => failed [.capacity kind, .utilization kind] e
    | .ok utilization =>
      { decisions := (PlanTotals.ofSamples kind capacity utilization).entries.map fun e =>
          z.rules.plan e.1 e.2
        analyzed := [kind.commitment]
        asked := [.capacity kind, .utilization kind] }

/-- Analyzes the reserved instances. -/
def reserved (z : Analyzer) (s : CapacitySource) : Analysis :=
  match s.reserved with
  | .error e =>
    { Analysis.skip ⟨.reservedInstances, some .reserved, .queryFailed .reserved e⟩ with
      asked := [.reserved] }
  | .ok samples =>
    match ReservedTotals.ofSamples? samples with
    | none => { analyzed := [.reserved], asked := [.reserved], outgrown := true }
    | some totals =>
      { decisions := totals.entries.map fun e => z.rules.reserved e.1 e.2
        analyzed := [.reserved]
        asked := [.reserved] }

/-- Analyzes a family if its data is fresh. -/
def gated (z : Analyzer) (s : CapacitySource) (family : DataFamily) (fresh : Analysis) :
    Analysis :=
  match s.age family with
  | .error e =>
    { Analysis.skip ⟨family, none, .ageUnknown e⟩ with asked := [.age family] }
  | .ok age =>
    let known : Analysis :=
      { ages := [(family, age)]
        asked := [.age family]
        signals := [.metric (.dataAge family age)] }
    let ceiling := z.freshness.ceiling family
    if ceiling.nanos < age.nanos then known ++ .skip ⟨family, none, .stale age ceiling⟩
    else known ++ fresh

/-- The analysis of everything a source knows. -/
def analyze (z : Analyzer) (s : CapacitySource) : Analysis :=
  let a := z.gated s .savingsPlans (z.plans s .global ++ z.plans s .regional) ++
    z.gated s .reservedInstances (z.reserved s)
  { a with
    signals := a.signals ++
      if a.outgrown then []
      else .metric .decisionsReset :: a.decisions.flatMap fun d =>
        [.metric (.decision d.name d.commitment d.shouldExist),
          .log ⟨Component.decisionLoop, .decision d⟩] }

end Analyzer
end PriceOverlay
