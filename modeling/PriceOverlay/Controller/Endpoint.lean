import PriceOverlay.Controller.Operator
import PriceOverlay.Telemetry.Exposition
/-!
# HTTP endpoints

Three paths can be read: the health, the readiness and the metrics. Health is refused as
unavailable while a component is unhealthy, readiness while the controller is not ready.
-/
namespace PriceOverlay.Endpoint

/-- The body of a response. -/
inductive Body where
  | json (j : Json)
  | text (s : String)
  | empty

structure Response where
  status : Nat
  body : Body

namespace Body

def contentType? : Body → Option String
  | json _ => some "application/json"
  | text _ => some "text/plain; charset=utf-8"
  | empty => none

end Body

/-- The response to reading a path; none for an unknown one. -/
def read? (st : OperatorState) (path : String) : Option Response :=
  if path = "/healthz" then
    some ⟨if st.health.status = .unhealthy then 503 else 200, .json st.health.json⟩
  else if path = "/readyz" then
    some ⟨if st.health.notReady?.isSome then 503 else 200, .json st.health.readinessJson⟩
  else if path = "/metrics" then some ⟨200, .text (Exposition.text st.metrics)⟩
  else none

/-- An answer: status, content type and body. The body is empty for `HEAD`. -/
structure Answer where
  status : Nat
  contentType : Option String
  body : Body

/-- Answers a request. A query after the path plays no part. -/
def answer (st : OperatorState) (method target : String) : Answer :=
  match read? st (String.ofList (target.toList.takeWhile fun c => c != '?' && c != '#')) with
  | none => ⟨404, none, .empty⟩
  | some r =>
    if method = "GET" then ⟨r.status, r.body.contentType?, r.body⟩
    else if method = "HEAD" then ⟨r.status, r.body.contentType?, .empty⟩
    else ⟨405, none, .empty⟩

end PriceOverlay.Endpoint
