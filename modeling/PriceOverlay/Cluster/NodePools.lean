import PriceOverlay.Cluster.WatchLine
import PriceOverlay.Preference.Annotation
/-!
# Watching NodePools

The NodePools of a cluster are listed, and then watched: every line of a reply to a watch
is one change, and a line that breaks off is none. When the lines end the watch goes on with
the next request; when the place to go on from is lost, the NodePools are listed again.
-/
namespace PriceOverlay.Cluster

/-- The NodePool of an object. -/
def nodePool (m : Metadata) : NodePool := ⟨m.objectName, m.uid, m.annotations.getD ∅⟩

/-- Where the NodePools of a cluster are. -/
def nodePoolsPath : String := "/apis/karpenter.sh/v1/nodepools"

/-- A version, if it is there and not empty. -/
def version? (v : Option String) : Option String := v.filter (!·.isEmpty)

/-- The lines of a body, which end with a line feed or with a carriage return before it. -/
def bodyLines (body : String) : List String :=
  (body.toList.splitOn '\n').map fun l =>
    String.ofList (if l.getLast? = some '\r' then l.dropLast else l)

/-! ## Items -/

/-- What a watch tells. -/
inductive WatchItem where
  | listed (ps : List NodePool)
  | applied (p : NodePool)
  | deleted (p : NodePool)
  /-- A request or a line that failed. -/
  | failed

/-- What the next request is for. -/
inductive WatchPhase where
  /-- The rest of a listing, after the NodePools listed so far. -/
  | listing (found : List NodePool)
  | watching

/-- The items of a reply to a watch, and the phase after it. A change without a version
cannot be gone on from, and neither can one that is told to be gone. -/
def watchLines : List String → List WatchItem × WatchPhase
  | [] => ([], .watching)
  | l :: r =>
    let change (m : Metadata) (item : WatchItem) : List WatchItem × WatchPhase :=
      if (version? m.resourceVersion).isNone then ([.failed], .listing [])
      else let (items, phase) := watchLines r; (item :: items, phase)
    match (Json.read? l).bind WatchLine.ofJson? with
    | none =>
      let (items, phase) := watchLines r
      (if WatchLine.isPart l then items else .failed :: items, phase)
    | some (.applied m) => change m (.applied (nodePool m))
    | some (.deleted m) => change m (.deleted (nodePool m))
    | some .bookmark => watchLines r
    | some (.refused refusal) =>
      if refusal.code = 410 then ([.failed], .listing [])
      else let (items, phase) := watchLines r; (.failed :: items, phase)

/-- The items of a reply to a listing, and the phase after it. -/
def listReply (found : List NodePool) (r : Http.Reply) : List WatchItem × WatchPhase :=
  match value? (listing? objectMetadata?) r with
  | .error _ => ([.failed], .listing [])
  | .ok (metadata, items) =>
    let found := found ++ items.map nodePool
    if (version? metadata.continuation).isSome then ([], .listing found)
    else if (version? metadata.resourceVersion).isSome then ([.listed found], .watching)
    else ([.failed], .listing [])

/-- The items that replies to one request after the other bring. -/
def watchItems : WatchPhase → List Http.Reply → List WatchItem
  | _, [] => []
  | .listing found, r :: rs =>
    let (items, phase) := listReply found r
    items ++ watchItems phase rs
  | .watching, r :: rs =>
    let (items, phase) := watchLines (bodyLines r.body)
    items ++ watchItems phase rs

end PriceOverlay.Cluster
