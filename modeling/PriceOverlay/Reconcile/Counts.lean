/-!
# What a pass has done

The counts of a pass, and the one word that sums them up.
-/
namespace PriceOverlay

structure Counts where
  created : Nat := 0
  updated : Nat := 0
  deleted : Nat := 0
  unchanged : Nat := 0
  errors : Nat := 0
  deriving DecidableEq, Repr

namespace Counts

/-- The writes that succeeded. -/
def changes (c : Counts) : Nat := c.created + c.updated + c.deleted

/-- The result in one word: `success` without errors, `failed` with nothing but errors, else
`partial`. -/
def result (c : Counts) : String :=
  if c.errors = 0 then "success" else if c.changes = 0 then "failed" else "partial"

/-- The counts of two passes together. -/
def merge (a b : Counts) : Counts where
  created := a.created + b.created
  updated := a.updated + b.updated
  deleted := a.deleted + b.deleted
  unchanged := a.unchanged + b.unchanged
  errors := a.errors + b.errors

end Counts
end PriceOverlay
