import PriceOverlay.Overlay.Basic
import PriceOverlay.Text.Quoted
/-!
# What a store of overlays answers

A store reads, lists, creates, updates and deletes overlays by name. An update names the
version it was made from and is refused if the stored overlay has another one.
-/
namespace PriceOverlay

/-- Why a store refuses a call. -/
inductive StoreError where
  | notFound (name : String)
  | alreadyExists (name : String)
  /-- The overlay no longer has the version that the update was made from. -/
  | conflict (name : String) (expected : Option String)
  | backend (text : String)
  deriving DecidableEq, Repr

namespace StoreError

def message : StoreError → String
  | notFound name => "overlay '" ++ name ++ "' not found"
  | alreadyExists name => "overlay '" ++ name ++ "' already exists"
  | conflict name expected =>
    "overlay '" ++ name ++ "' was modified concurrently (resource version " ++
      Text.quotedOption expected ++ ")"
  | backend text => "store backend error: " ++ text

end StoreError

/-- A change that a store is asked for. -/
inductive Write where
  | create (o : StoredOverlay)
  | update (o : StoredOverlay)
  | delete (name : String)
  deriving DecidableEq

/-- The verb of a change. -/
inductive WriteVerb where
  | create
  | update
  | delete
  deriving DecidableEq, Repr

namespace WriteVerb

def text : WriteVerb → String
  | create => "create"
  | update => "update"
  | delete => "delete"

end WriteVerb

namespace Write

def verb : Write → WriteVerb
  | create _ => .create
  | update _ => .update
  | delete _ => .delete

/-- The name of the overlay that is changed. -/
def name : Write → String
  | create o => o.name
  | update o => o.name
  | delete n => n

end Write

/-- A call to a store. -/
inductive StoreCall where
  | get (name : String)
  | list (selector : Selector)
  | write (w : Write)
  deriving DecidableEq

/-- The calls that fail before they reach the store, and how. -/
abbrev StoreFaults := StoreCall → Option StoreError

namespace StoreFaults

/-- Every call reaches the store. -/
def none : StoreFaults := fun _ => .none

end StoreFaults
end PriceOverlay
