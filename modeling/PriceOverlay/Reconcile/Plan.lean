import PriceOverlay.Overlay.Basic
/-!
# Plans

A plan tells how to get from the overlays that exist to those that are wanted: what to
create, what to update and what to delete. Wanted overlays are matched to existing ones
by name, and only managed ones are deleted.
-/
namespace PriceOverlay

namespace Overlay

/-- Whether an existing overlay has to be written again to be as wanted. Requirements in
their order, weight and price must be equal; the wanted labels must be there, and others
may be; every wanted owner must be there by its uid. -/
def differs (d : Overlay) (o : StoredOverlay) : Bool :=
  d.requirements != o.requirements || d.weight != o.weight || d.price != o.price ||
    d.labels.entries.any (fun e => o.labels.get? e.1 != some e.2) ||
    d.owners.any (fun w => !o.owners.any (·.uid == w.uid))

/-- The overlay that replaces an existing one: as wanted, but keeping the labels that are
not wanted otherwise, for the version that was read. -/
def replacing (d : Overlay) (o : StoredOverlay) : StoredOverlay :=
  { d.toStored with labels := o.labels.union d.labels, version := o.version }

/-- Of overlays with one name the first. -/
def firsts (desired : List Overlay) : List Overlay :=
  desired.foldl (fun seen d => if seen.any (·.name == d.name) then seen else seen ++ [d]) []

end Overlay

structure Plan where
  creates : List Overlay
  /-- The wanted overlays with those that they replace. -/
  updates : List (Overlay × StoredOverlay)
  deletes : List StoredOverlay
  unchanged : Nat

namespace Plan

/-- The plan for a list of wanted overlays. -/
def compute (desired : List Overlay) (existing : List StoredOverlay) : Plan :=
  let byName := Table.ofList (existing.map fun o => (o.name, o))
  let wanted := Overlay.firsts desired
  let found := wanted.filterMap fun d => (byName.get? d.name).map (d, ·)
  { creates := wanted.filter fun d => !byName.contains d.name
    updates := found.filter fun p => p.1.differs p.2
    deletes := existing.filter fun o => o.isManaged && !desired.any (·.name == o.name)
    unchanged := found.countP fun p => !p.1.differs p.2 }

/-- The plan that only deletes. -/
def deleting (deletes : List StoredOverlay) : Plan := ⟨[], [], deletes, 0⟩

def isEmpty (p : Plan) : Bool := p.creates.isEmpty && p.updates.isEmpty && p.deletes.isEmpty

end Plan
end PriceOverlay
