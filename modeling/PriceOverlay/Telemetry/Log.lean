import PriceOverlay.Capacity.Decision
import PriceOverlay.Json.Basic
import PriceOverlay.Preference.Annotation
import PriceOverlay.Reconcile.Counts
import PriceOverlay.Store.Basic
/-!
# Structured log records

Each event worth telling is a record: a level, a message, the name of the event, the
component it comes from, and fields. Counts and switches are numbers and booleans, all
other fields are texts.
-/
namespace PriceOverlay

/-- What a record tells. -/
inductive Notice where
  | started (version : String) (disabled dryRun : Bool)
  | stopped (reason : String)
  | decision (d : Decision)
  | pass (kind : OverlayKind) (source : Option String) (counts : Counts)
  | operationFailed (verb : WriteVerb) (name error : String)
  | skipped (family : DataFamily) (reason : String)
  | annotationRefused (nodePool : String) (error : AnnotationError)

/-! The components that write records while they work. -/
namespace Component

def decisionLoop : String := "decision-loop"
def reconciler : String := "reconciler"
def preferenceWatcher : String := "preference-watcher"

end Component

structure LogRecord where
  component : String
  notice : Notice

namespace Notice

/-- Whether the record is a warning. -/
def isWarning : Notice → Bool
  | pass _ _ counts => 0 < counts.errors
  | operationFailed .. => true
  | annotationRefused .. => true
  | _ => false

def event : Notice → String
  | started .. => "controller_started"
  | stopped _ => "controller_shutdown"
  | decision _ => "capacity_decision"
  | pass .. => "reconcile_pass"
  | operationFailed .. => "overlay_operation_failed"
  | skipped .. => "analysis_skipped"
  | annotationRefused .. => "preference_rejected"

def message : Notice → String
  | started .. => "Capacity overlay controller started"
  | stopped _ => "Capacity overlay controller shutting down"
  | decision _ => "Capacity decision"
  | pass _ _ counts =>
    if 0 < counts.errors then "Reconcile pass finished with errors" else "Reconcile pass finished"
  | operationFailed .. => "Overlay operation failed"
  | skipped .. => "Skipping analysis for this cycle"
  | annotationRefused .. => "Rejected preference annotation"

/-- The fields of the event itself. -/
def fields : Notice → List (String × Json)
  | started version disabled dryRun =>
    [("version", .str version), ("disabled", .bool disabled), ("dry_run", .bool dryRun)]
  | stopped reason => [("reason", .str reason)]
  | decision d =>
    [("overlay", .str d.name), ("capacity_type", .str d.commitment.text),
      ("should_exist", .bool d.shouldExist), ("weight", .int d.weight), ("reason", .str d.reason)]
  | pass kind source c =>
    [("origin", .str kind.text), ("source", .str (Text.quotedOption source)),
      ("created", .int c.created), ("updated", .int c.updated), ("deleted", .int c.deleted),
      ("unchanged", .int c.unchanged)] ++
      (if 0 < c.errors then [("errors", .int c.errors)] else [])
  | operationFailed verb name error =>
    [("operation", .str verb.text), ("overlay", .str name), ("error", .str error)]
  | skipped family reason => [("family", .str family.text), ("reason", .str reason)]
  | annotationRefused nodePool e =>
    [("nodepool", .str nodePool), ("annotation", .str e.key),
      ("error", .str e.error.message)]

end Notice

namespace LogRecord

/-- The record as it is written. -/
def json (r : LogRecord) : Json :=
  .obj ([("level", .str (if r.notice.isWarning then "WARN" else "INFO")),
    ("message", .str r.notice.message), ("event", .str r.notice.event),
    ("component", .str r.component)] ++ r.notice.fields)

end LogRecord
end PriceOverlay
