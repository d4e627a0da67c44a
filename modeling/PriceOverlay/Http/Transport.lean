import PriceOverlay.Json.Basic
/-!
# Requests and replies

A client sees the network as a function from requests to replies. A request for which
there is no reply never reached a server.
-/
namespace PriceOverlay.Http

structure Request where
  method : String
  path : String
  /-- The decoded parameters of the query. -/
  query : List (String × String)
  body : Option Json

structure Reply where
  status : Nat
  body : String
  deriving DecidableEq, Repr

namespace Reply

def isSuccess (r : Reply) : Bool := decide (200 ≤ r.status ∧ r.status < 300)

end Reply

abbrev Transport := Request → Option Reply

namespace Transport

/-- No server can be reached. -/
def offline : Transport := fun _ => none

end Transport
end PriceOverlay.Http
