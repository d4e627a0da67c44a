import PriceOverlay.Overlay.Label
import PriceOverlay.Store.Basic
/-!
# Rules for faults

A rule makes the calls of one verb fail, for one name or, under `*`, for all. A listing
goes by the source that its selector asks for.
-/
namespace PriceOverlay

/-- The verbs of store calls. -/
inductive StoreVerb where
  | get
  | list
  | create
  | update
  | delete
  deriving DecidableEq, Repr

namespace StoreVerb

def ofText? : String → Option StoreVerb
  | "get" => some get
  | "list" => some list
  | "create" => some create
  | "update" => some update
  | "delete" => some delete
  | _ => none

end StoreVerb

/-- How a call is made to fail. -/
inductive FaultKind where
  | conflict
  | notFound
  | alreadyExists
  | backend (text : String)
  deriving DecidableEq, Repr

namespace FaultKind

def ofText : String → FaultKind
  | "conflict" => conflict
  | "not_found" => notFound
  | "already_exists" => alreadyExists
  | text => backend text

end FaultKind

structure FaultRule where
  verb : StoreVerb
  name : String
  kind : FaultKind
  deriving DecidableEq, Repr

namespace StoreCall

def verb : StoreCall → StoreVerb
  | get _ => .get
  | list _ => .list
  | write (.create _) => .create
  | write (.update _) => .update
  | write (.delete _) => .delete

/-- The name that rules go by. -/
def subject : StoreCall → String
  | get name => name
  | list selector => (selector.get? Label.source).getD ""
  | write w => w.name

/-- The version that an update expects. -/
def expected : StoreCall → Option String
  | write (.update o) => o.version
  | _ => none

end StoreCall

namespace StoreFaults

/-- The faults of a list of rules, of which the first that applies counts. -/
def ofRules (rules : List FaultRule) : StoreFaults := fun call =>
  (rules.find? fun r => r.verb = call.verb && (r.name = "*" || r.name = call.subject)).map
    fun r => match r.kind with
      | .conflict => .conflict call.subject call.expected
      | .notFound => .notFound call.subject
      | .alreadyExists => .alreadyExists call.subject
      | .backend text => .backend text

end StoreFaults
end PriceOverlay
