import PriceOverlay.Cluster.Call
import PriceOverlay.Cluster.NodeOverlay
import PriceOverlay.Http.Target
import PriceOverlay.Store.Basic
/-!
# A store of overlays in a cluster

Each call to the store is one request for the NodeOverlays of a cluster. An overlay is
created without a version; an update sends the version it was made from, and the cluster
refuses it if that is not the latest.
-/
namespace PriceOverlay.Cluster

/-- What a store answers to a call. -/
inductive StoreAnswer where
  | overlay (o : Option StoredOverlay)
  | overlays (os : List StoredOverlay)

/-! ## Requests -/

/-- Where the overlays of a cluster are. -/
def overlaysPath : String := "/apis/karpenter.sh/v1alpha1/nodeoverlays"

/-- The labels as `name=value`, between commas. -/
def selectorText (s : Selector) : String :=
  ",".intercalate (s.entries.map fun e => e.1 ++ "=" ++ e.2)

/-- The target of the overlay of a name; none if no target can hold the name. A name is put
in as it is, so that one with a question mark opens the query; the target of a write ends
with a question mark of its own. -/
def overlayTarget? (name : String) (isWrite : Bool) : Option Http.Target :=
  Http.Target.ofText? (overlaysPath ++ "/" ++ name ++ if isWrite then "?" else "")

/-- A request about the overlay of a name. -/
def namedRequest? (method name : String) (body : Option Json) : Option Http.Request :=
  (overlayTarget? name body.isSome).map fun t => ⟨method, t.path, t.query, body⟩

/-- The request for a call. -/
def storeRequest? : StoreCall → Option Http.Request
  | .get name => namedRequest? "GET" name none
  | .list selector => some ⟨"GET", overlaysPath, [("labelSelector", selectorText selector)], none⟩
  | .write (.create o) =>
    some ⟨"POST", overlaysPath, [], some (NodeOverlay.ofStored { o with version := none }).json⟩
  | .write (.update o) => namedRequest? "PUT" o.name (some (NodeOverlay.ofStored o).json)
  | .write (.delete name) => namedRequest? "DELETE" name (some (.obj []))

/-! ## Answers -/

/-- The failure of a call about the overlay of a name. -/
def storeError (name : String) (expected : Option String) : CallError → StoreError
  | .refused r =>
    if r.code = 404 then .notFound name
    else if r.code = 409 ∧ r.reason = "AlreadyExists" then .alreadyExists name
    else if r.code = 409 then .conflict name expected
    else .backend r.reason
  | .unreadable => .backend "no readable reply"

/-- A number of an outcome that may be left out. -/
def number? (w : Word) : Option Json → Option Nat
  | none => some 0
  | some j => (j.intIn? w).map Int.toNat

/-- Whether a value is the outcome of a deletion that is told apart from the overlay. -/
def isOutcome (j : Json) : Bool :=
  match j.get "kind" with
  | .str kind => kind == "Status"
  | _ => false

/-- One of the causes of an outcome. -/
def cause? (j : Json) : Option Unit := do
  let fs ← j.record? [⟨"reason", true⟩, ⟨"message", true⟩, ⟨"field", true⟩]
  fs.forM fun f => (Refusal.text? f).map fun _ => ()

/-- What an outcome tells beyond its code. -/
def details? (j : Json) : Option Unit := do
  let [name, group, kind, uid, causes, retry] ← j.record?
    [⟨"name", true⟩, ⟨"group", true⟩, ⟨"kind", true⟩, ⟨"uid", true⟩, ⟨"causes", true⟩,
      ⟨"retryAfterSeconds", true⟩] | none
  [name, group, kind, uid].forM fun f => (Refusal.text? f).map fun _ => ()
  match causes with
  | none => pure ()
  | some c => (c.list? cause?).map fun _ => ()
  (number? .unsigned32 retry).map fun _ => ()

/-- An outcome whose fields all can be read. -/
def outcome? (j : Json) : Option Unit := do
  let [status, code, message, reason, details] ← j.record?
    [⟨"status", true⟩, ⟨"code", true⟩, ⟨"message", true⟩, ⟨"reason", true⟩,
      ⟨"details", true⟩] | none
  match status.bind Json.present? with
  | none => pure ()
  | some s =>
    if s.choice? = some "Success" ∨ s.choice? = some "Failure" then pure () else none
  let _ ← number? .unsigned16 code
  let _ ← Refusal.text? message
  let _ ← Refusal.text? reason
  match details.bind Json.present? with
  | none => pure ()
  | some d => details? d

/-- What a deletion is answered with: its outcome, or the overlay that was deleted. -/
def deletion? (j : Json) : Option Unit :=
  if !j.valid then none
  else if isOutcome j then outcome? j
  else (NodeOverlay.ofJson? j).map fun _ => ()

/-- The overlay in the body of a reply. -/
def overlayIn (r : Http.Reply) : Except CallError StoredOverlay :=
  (value? NodeOverlay.ofJson? r).map (·.toStored)

/-- The answer to a call, read from the reply to its request. Reading an overlay that is
not there is no failure. -/
def storeAnswer (r : Http.Reply) : StoreCall → Except StoreError StoreAnswer
  | .get name =>
    match overlayIn r with
    | .ok o => .ok (.overlay (some o))
    | .error e =>
      match e with
      | .refused ⟨_, "NotFound"⟩ => .ok (.overlay none)
      | e => .error (storeError name none e)
  | .list _ =>
    match value? (listing? NodeOverlay.ofJson?) r with
    | .ok (_, os) => .ok (.overlays (os.map (·.toStored)))
    | .error _ => .error (.backend "the overlays cannot be listed")
  | .write (.create o) =>
    ((overlayIn r).mapError (storeError o.name none)).map fun o => .overlay (some o)
  | .write (.update o) =>
    ((overlayIn r).mapError (storeError o.name o.version)).map fun o => .overlay (some o)
  | .write (.delete name) =>
    ((value? deletion? r).mapError (storeError name none)).map fun _ => .overlay none

/-- The answer to a call over a transport. -/
def callStore (t : Http.Transport) (c : StoreCall) : Except StoreError StoreAnswer :=
  match (storeRequest? c).bind t with
  | some r => storeAnswer r c
  | none => .error (.backend "the cluster cannot be reached")

/-- Lists the overlays that match a selector. -/
def listOverlays (t : Http.Transport) (s : Selector) : Except StoreError (List StoredOverlay) :=
  (callStore t (.list s)).map fun
    | .overlays os => os
    | .overlay o => o.toList

end PriceOverlay.Cluster
