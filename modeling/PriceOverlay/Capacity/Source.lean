import PriceOverlay.Capacity.Commitment
import PriceOverlay.Decimal.Text
import PriceOverlay.Telemetry.Duration
/-!
# Sources of capacity data

A source answers four sorts of queries: what remains of savings plans, how much of them is
used, which instances are reserved, and how old a family of data is. `FixedSource` answers
from given data and can be told to fail.
-/
namespace PriceOverlay

inductive CapacityQuery where
  | capacity (kind : PlanKind)
  | utilization (kind : PlanKind)
  | reserved
  | age (family : DataFamily)
  deriving DecidableEq, Repr

namespace CapacityQuery

/-- How a query is named in the message of an injected failure. -/
def text : CapacityQuery → String
  | capacity .global => "Capacity(Global)"
  | capacity .regional => "Capacity(Regional)"
  | utilization .global => "Utilization(Global)"
  | utilization .regional => "Utilization(Regional)"
  | reserved => "ReservedInstances"
  | age .savingsPlans => "DataAge(SavingsPlans)"
  | age .reservedInstances => "DataAge(ReservedInstances)"

end CapacityQuery

/-- Why a source has no answer. -/
inductive SourceError where
  | invalidUrl (url : String)
  /-- The request or the decoding of its reply failed; the text is not kept. -/
  | http
  | status (code : Nat) (body : String)
  | query (query message : String)
  | noData (subject : String)
  deriving DecidableEq, Repr

namespace SourceError

def message : SourceError → String
  | invalidUrl url => "invalid metrics source url '" ++ url ++ "'"
  | http => "metrics request failed"
  | status code body =>
    "metrics source returned HTTP " ++ Decimal.natural code ++ ": " ++ body
  | query q message => "query '" ++ q ++ "' failed: " ++ message
  | noData subject => "no data returned for '" ++ subject ++ "'"

end SourceError

structure CapacitySource where
  capacity : PlanKind → Except SourceError (List PlanSample)
  utilization : PlanKind → Except SourceError (List PlanSample)
  reserved : Except SourceError (List ReservedSample)
  age : DataFamily → Except SourceError Duration

/-- Given capacity data; a family without age has none, and the queries listed fail. -/
structure FixedSource where
  capacity : List PlanSample := []
  utilization : List PlanSample := []
  reserved : List ReservedSample := []
  ages : List (DataFamily × Duration) := []
  failing : List CapacityQuery := []

namespace FixedSource

/-- The answer to a query, unless it is to fail. -/
def answer {α : Type} (f : FixedSource) (q : CapacityQuery) (a : Except SourceError α) :
    Except SourceError α :=
  if f.failing.contains q then .error (.query q.text "injected failure") else a

def source (f : FixedSource) : CapacitySource where
  capacity k := f.answer (.capacity k) (.ok (f.capacity.filter (·.kind = k)))
  utilization k := f.answer (.utilization k) (.ok (f.utilization.filter (·.kind = k)))
  reserved := f.answer .reserved (.ok f.reserved)
  age family := f.answer (.age family) <|
    match f.ages.find? (·.1 = family) with
    | some a => .ok a.2
    | none => .error (.noData family.text)

end FixedSource
end PriceOverlay
