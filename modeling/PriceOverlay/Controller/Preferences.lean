import PriceOverlay.Overlay.Rendering
import PriceOverlay.Reconcile.Pass
/-!
# Preferences of NodePools

Each NodePool has the preference overlays that its annotations ask for. When a NodePool
changes, its scope alone is brought in line; after a full listing every NodePool is, and
the overlays of NodePools that are gone are removed.
-/
namespace PriceOverlay

/-- A change to the NodePools of a cluster. -/
inductive NodePoolEvent where
  | applied (p : NodePool)
  | deleted (p : NodePool)
  /-- All the NodePools there are. -/
  | restarted (ps : List NodePool)

/-- What it takes to keep the overlays of NodePools. -/
structure PreferenceController where
  reconciler : Reconciler := {}
  rendering : Rendering := {}

/-- How many overlays each NodePool wants. -/
abbrev WantedCounts := Table String Nat

namespace WantedCounts

def total (w : WantedCounts) : Nat := w.values.foldl (· + ·) 0

/-- The report of the total. -/
def signal (w : WantedCounts) : Signal := .metric (.desired .preference w.total)

end WantedCounts

namespace PreferenceController

/-- Brings the overlays of one NodePool in line with its annotations. -/
def applied (c : PreferenceController) (p : NodePool) (faults : StoreFaults)
    (w : WantedCounts) (s : ObjectStore) : WantedCounts × Effect (Except ListFailure Counts) :=
  let errors := p.declared.errors
  let refused : List Signal :=
    if errors.isEmpty then []
    else errors.map (fun e => .log ⟨Component.preferenceWatcher, .annotationRefused p.name e⟩) ++
      [.metric (.refusedAnnotations p.name errors.length)]
  let desired := c.rendering.nodePool p
  let w := w.insert p.name desired.length
  let done := c.reconciler.pass (.nodePool p.name) desired faults s
  (w, { done with signals := refused ++ WantedCounts.signal w :: done.signals })

/-- Removes the overlays of a NodePool. -/
def deleted (c : PreferenceController) (name : String) (faults : StoreFaults)
    (w : WantedCounts) (s : ObjectStore) : WantedCounts × Effect (Except ListFailure Counts) :=
  let w := w.erase name
  let done := c.reconciler.pass (.nodePool name) [] faults s
  (w, { done with signals := WantedCounts.signal w :: done.signals })

/-- The preference overlays of all NodePools. -/
def allPreferences : Scope := ⟨.preference, none⟩

/-- Whether an overlay belongs to none of the NodePools that are there. -/
def isOrphan (live : List String) (o : StoredOverlay) : Bool :=
  match o.labels.get? Label.source with
  | some source => !live.contains source
  | none => true

/-- Removes the preference overlays of NodePools that are gone. -/
def orphans (live : List String) (faults : StoreFaults) (s : ObjectStore) :
    Effect (Except ListFailure Counts) :=
  match allPreferences.listed faults s with
  | .error e => ⟨.error e, s, []⟩
  | .ok existing =>
    let done := (Plan.deleting (existing.filter (isOrphan live))).apply .preference faults s
    ⟨.ok done.answer, done.store, done.signals⟩

/-- Brings the NodePools of a listing in line, one after the other; one whose overlays
cannot be listed counts as an error. -/
def appliedAll (c : PreferenceController) (faults : StoreFaults) (w : WantedCounts)
    (s : ObjectStore) : List NodePool → WantedCounts × Effect Counts
  | [] => (w, ⟨{}, s, []⟩)
  | p :: r =>
    let (w, done) := c.applied p faults w s
    let (w, rest) := appliedAll c faults w done.store r
    let counts : Counts := match done.answer with
      | .ok n => n
      | .error _ => { errors := 1 }
    (w, ⟨counts.merge rest.answer, rest.store, done.signals ++ rest.signals⟩)

/-- Brings all NodePools in line and removes the overlays of those that are gone. -/
def restarted (c : PreferenceController) (ps : List NodePool) (faults : StoreFaults)
    (w : WantedCounts) (s : ObjectStore) : WantedCounts × Effect (Except ListFailure Counts) :=
  let (w, done) := c.appliedAll faults w s ps
  let live := ps.map (·.name)
  let w := w.filter fun name _ => live.contains name
  let rest := orphans live faults done.store
  (w,
    { answer := rest.answer.map done.answer.merge
      store := rest.store
      signals := done.signals ++ WantedCounts.signal w :: rest.signals })

/-- Handles one event. -/
def handle (c : PreferenceController) (e : NodePoolEvent) (faults : StoreFaults)
    (w : WantedCounts) (s : ObjectStore) : WantedCounts × Effect (Except ListFailure Counts) :=
  match e with
  | .applied p => c.applied p faults w s
  | .deleted p => c.deleted p.name faults w s
  | .restarted ps => c.restarted ps faults w s

end PreferenceController
end PriceOverlay
