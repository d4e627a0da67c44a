import PriceOverlay.Capacity.Source
import PriceOverlay.Http.Transport
import PriceOverlay.Http.Url
import PriceOverlay.Prometheus.Reply
import PriceOverlay.Prometheus.Selector
/-!
# Capacity data from Prometheus

Every query is one request for the series of one metric. Of several ages of one family the
greatest counts.
-/
namespace PriceOverlay.Prometheus

/-- Where to ask, and for which account. -/
structure Client where
  scheme : String
  path : String
  account : Option String
  deriving DecidableEq, Repr

namespace Client

/-- The client for a server; an empty account is none. -/
def ofUrl (url : String) (account : Option String) : Except SourceError Client :=
  match (Http.Url.parse? url).bind fun u => (u.below? "api/v1/query").map (u.scheme, ·) with
  | some (scheme, path) => .ok ⟨scheme, path, account.filter (!·.isEmpty)⟩
  | none => .error (.invalidUrl url)

/-- The selector of a query. -/
def selector (c : Client) : CapacityQuery → String
  | .capacity kind =>
    Prometheus.selector "savings_plan_remaining_capacity" [("type", kind.seriesType)] c.account
  | .utilization kind =>
    Prometheus.selector "savings_plan_utilization_percent" [("type", kind.seriesType)] c.account
  | .reserved => Prometheus.selector "ec2_reserved_instance_count" [] c.account
  | .age family =>
    Prometheus.selector "data_freshness_seconds" [("data_type", family.text)] c.account

/-- The request for a query. -/
def request (c : Client) (q : CapacityQuery) : Http.Request :=
  ⟨"GET", c.path, [("query", c.selector q)], none⟩

/-- The reply to a query; servers of another protocol cannot be asked. -/
def reply? (c : Client) (t : Http.Transport) (q : CapacityQuery) : Option Http.Reply :=
  if c.scheme = "http" ∨ c.scheme = "https" then t (c.request q) else none

/-- The series that a query gets. -/
def series (c : Client) (t : Http.Transport) (q : CapacityQuery) :
    Except SourceError (List SeriesPoint) :=
  match c.reply? t q with
  | none => .error .http
  | some reply =>
    if !reply.isSuccess then .error (.status reply.status reply.body)
    else match QueryReply.read? reply.body with
      | none => .error .http
      | some r =>
        if r.status = "success" then .ok r.series
        else .error (.query (c.selector q) (r.error.getD r.status))

/-- The greater of two ages. -/
def older (a b : Float) : Float := if a < b then b else a

/-- The age of the data of a family: the greatest that is well-formed, at least nothing. -/
def age (c : Client) (t : Http.Transport) (family : DataFamily) : Except SourceError Duration := do
  let q := CapacityQuery.age family
  let series ← c.series t q
  match series.filterMap fun p => p.reading?.map (·.1) with
  | [] => .error (.noData (c.selector q))
  | x :: r =>
    let oldest := r.foldl older x
    match Duration.ofFloat? (older oldest 0) with
    | some d => .ok d
    | none =>
      .error (.query (c.selector q) ("data age " ++ Decimal.plain oldest ++ " is out of range"))

/-- The source that asks over a transport. -/
def source (c : Client) (t : Http.Transport) : CapacitySource where
  capacity kind := (c.series t (.capacity kind)).map (·.filterMap (·.planSample? kind))
  utilization kind := (c.series t (.utilization kind)).map (·.filterMap (·.planSample? kind))
  reserved := (c.series t .reserved).map (·.filterMap SeriesPoint.reservedSample?)
  age := c.age t

end Client
end PriceOverlay.Prometheus
