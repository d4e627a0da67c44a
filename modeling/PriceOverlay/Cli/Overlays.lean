import PriceOverlay.Cli.Output
import PriceOverlay.Cluster.OverlayStore
import PriceOverlay.Reconcile.Scope
/-!
# Listing overlays

The overlays that the controller manages in a cluster, the heaviest first.
-/
namespace PriceOverlay.Cli

/-- Which overlays to list. -/
structure OverlayFilter where
  kind : Option OverlayKind := none
  nodePool : Option String := none
  deriving DecidableEq, Repr

namespace OverlayFilter

/-- The labels to list by; only preferences belong to a NodePool. -/
def selector (f : OverlayFilter) : Except Failure Selector :=
  match f.kind, f.nodePool with
  | some .costDecision, some _ =>
    .error { message := "--nodepool only applies to preference overlays" }
  | _, some p => .ok (Scope.nodePool p).selector
  | some k, none => .ok (Scope.selector ⟨k, none⟩)
  | none, none => .ok ((∅ : Selector).insert Label.managedBy Label.manager)

end OverlayFilter

namespace OverlayRow

def label (o : StoredOverlay) (key : String) : String := (o.labels.get? key).getD ""

/-- The requirements, one a line. -/
def requirements (o : StoredOverlay) : String :=
  "\n".intercalate (o.requirements.map Requirement.text)

def cells (o : StoredOverlay) : List String :=
  [o.name, label o Label.kind, label o Label.source, Decimal.integer o.weight, o.price,
    requirements o]

def json (o : StoredOverlay) : Json :=
  .obj
    [("name", .str o.name),
      ("overlay_type", .str (label o Label.kind)),
      ("source", .str (label o Label.source)),
      ("weight", .int o.weight),
      ("price_adjustment", .str o.price),
      ("requirements", .str (requirements o))]

/-- Whether one overlay comes no later than another: by weight, then by name. -/
def before (a b : StoredOverlay) : Bool :=
  decide (b.weight < a.weight) || (a.weight == b.weight && decide (a.name ≤ b.name))

end OverlayRow

/-- Lists the overlays of a cluster. -/
def listOverlays (f : OverlayFilter) (t : Http.Transport) (format : Format) :
    Except Failure Output := do
  let selector ← f.selector
  match Cluster.listOverlays t selector with
  | .error e => throw { message := "Failed to list NodeOverlays", cause := some e.message }
  | .ok os =>
    let os := os.mergeSort OverlayRow.before
    match format with
    | .json => pure { out := [(Json.arr (os.map OverlayRow.json)).pretty] }
    | .table =>
      let grid : Grid :=
        ⟨["Name", "Type", "Source", "Weight", "Price", "Requirements"],
          os.map OverlayRow.cells⟩
      pure { out := gridOr "No managed overlays found" grid }

end PriceOverlay.Cli
