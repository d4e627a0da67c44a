import PriceOverlay.Http.Transport
import PriceOverlay.Json.Reader
/-!
# Calls to a cluster

A reply with the status of an error carries the status of the call in its body: a code and
a reason, which count instead of those of the reply. A body that is no status leaves the
code of the reply.
-/
namespace PriceOverlay.Cluster

/-- The status of a call that was refused. -/
structure Refusal where
  code : Nat
  reason : String
  deriving DecidableEq, Repr

namespace Refusal

/-- A code is an unsigned integer of 16 bits. -/
def code? (j : Json) : Option Nat := (j.intIn? .unsigned16).map Int.toNat

/-- A text that may be left out. -/
def text? : Option Json → Option String
  | none => some ""
  | some j => j.str?

def ofJson? (j : Json) : Option Refusal := do
  let [status, message, reason, code] ← j.record?
    [⟨"status", false⟩, ⟨"message", true⟩, ⟨"reason", true⟩, ⟨"code", false⟩] | none
  let _ ← (← status).str?
  let _ ← text? message
  pure ⟨← code? (← code), ← text? reason⟩

end Refusal

/-- Why a call has no answer. -/
inductive CallError where
  | refused (r : Refusal)
  /-- The server was not reached, or its reply cannot be read. -/
  | unreadable
  deriving DecidableEq, Repr

/-- The value in the body of a reply that is no error. -/
def body? (r : Http.Reply) : Except CallError Json :=
  if 400 ≤ r.status ∧ r.status < 600 then
    match (Json.read? r.body).bind Refusal.ofJson? with
    | some refusal => .error (.refused refusal)
    | none => .error (.refused ⟨r.status, "Failed to parse error data"⟩)
  else match Json.read? r.body with
    | some j => .ok j
    | none => .error .unreadable

/-- Reads the value in the body of a reply. -/
def value? {α : Type} (read : Json → Option α) (r : Http.Reply) : Except CallError α := do
  match read (← body? r) with
  | some a => pure a
  | none => throw .unreadable

end PriceOverlay.Cluster
