import PriceOverlay.Calendar.Instant
import PriceOverlay.Json.Basic
import PriceOverlay.Overlay.Requirement
import PriceOverlay.Table
/-!
# Metadata of cluster objects

Every object of a cluster carries the same record of metadata, in which every field may be
missing. A field that is `null` counts as missing, one of an unknown name is dropped, and
of a repeated one the last counts.
-/
namespace PriceOverlay.Cluster

/-! ## Fields -/

/-- The last value of a field, if there is one that is not `null`; none if one of them
cannot be read. -/
def field? {α : Type} (fs : List (String × Json)) (name : String) (read : Json → Option α) :
    Option (Option α) := do
  let found ← (fs.filter (·.1 == name)).mapM fun f =>
    if f.2.isNull then some none else (read f.2).map some
  pure found.getLast?.join

/-- A field that counts as empty if it is missing. -/
def textField? (fs : List (String × Json)) (name : String) : Option String :=
  (field? fs name Json.str?).map (·.getD "")

/-- An integer of 64 bits with sign. -/
def int64? (j : Json) : Option Int := j.intIn? .signed64

/-- Texts by name; of a repeated name the last counts. -/
def texts? (j : Json) : Option (Table String String) := do
  let es ← (← j.fields?).mapM fun f => f.2.str?.map (f.1, ·)
  pure (Table.ofList es)

def instant? (j : Json) : Option Calendar.Instant := j.str?.bind Calendar.Instant.ofText?

/-- The fields of a record that are there. -/
def present (fs : List (String × Option Json)) : Json :=
  .obj (fs.filterMap fun f => f.2.map (f.1, ·))

def textsJson (t : Table String String) : Json := .obj (t.entries.map fun e => (e.1, .str e.2))

/-! ## Owners -/

structure OwnerReference where
  apiVersion : String
  kind : String
  name : String
  uid : String
  controller : Option Bool := none
  blockOwnerDeletion : Option Bool := none
  deriving DecidableEq, Repr

namespace OwnerReference

def ofJson? (j : Json) : Option OwnerReference := do
  let fs ← j.fields?
  pure
    { apiVersion := ← textField? fs "apiVersion"
      kind := ← textField? fs "kind"
      name := ← textField? fs "name"
      uid := ← textField? fs "uid"
      controller := ← field? fs "controller" Json.bool?
      blockOwnerDeletion := ← field? fs "blockOwnerDeletion" Json.bool? }

def json (w : OwnerReference) : Json :=
  present
    [("apiVersion", some (.str w.apiVersion)),
      ("blockOwnerDeletion", w.blockOwnerDeletion.map .bool),
      ("controller", w.controller.map .bool),
      ("kind", some (.str w.kind)),
      ("name", some (.str w.name)),
      ("uid", some (.str w.uid))]

/-- An owner, as an object refers to it. -/
def ofOwner (w : Owner) : OwnerReference where
  apiVersion := w.apiVersion
  kind := w.kind
  name := w.name
  uid := w.uid
  controller := some w.controller

/-- The owner referred to; it manages the object only if that is said. -/
def owner (w : OwnerReference) : Owner :=
  ⟨w.apiVersion, w.kind, w.name, w.uid, w.controller.getD false⟩

theorem owner_ofOwner (w : Owner) : (ofOwner w).owner = w := rfl

end OwnerReference

/-! ## Managed fields -/

/-- Who last applied which fields of an object. -/
structure ManagedFields where
  apiVersion : Option String
  fieldsType : Option String
  fields : Option Json
  manager : Option String
  operation : Option String
  subresource : Option String
  time : Option Calendar.Instant

namespace ManagedFields

def ofJson? (j : Json) : Option ManagedFields := do
  let fs ← j.fields?
  pure
    { apiVersion := ← field? fs "apiVersion" Json.str?
      fieldsType := ← field? fs "fieldsType" Json.str?
      fields := ← field? fs "fieldsV1" fun j => if j.valid then some j else none
      manager := ← field? fs "manager" Json.str?
      operation := ← field? fs "operation" Json.str?
      subresource := ← field? fs "subresource" Json.str?
      time := ← field? fs "time" instant? }

def json (m : ManagedFields) : Json :=
  present
    [("apiVersion", m.apiVersion.map .str),
      ("fieldsType", m.fieldsType.map .str),
      ("fieldsV1", m.fields),
      ("manager", m.manager.map .str),
      ("operation", m.operation.map .str),
      ("subresource", m.subresource.map .str),
      ("time", m.time.map (.str ·.text))]

end ManagedFields

/-! ## Metadata -/

structure Metadata where
  annotations : Option (Table String String) := none
  creationTimestamp : Option Calendar.Instant := none
  deletionGracePeriodSeconds : Option Int := none
  deletionTimestamp : Option Calendar.Instant := none
  finalizers : Option (List String) := none
  generateName : Option String := none
  generation : Option Int := none
  labels : Option (Table String String) := none
  managedFields : Option (List ManagedFields) := none
  name : Option String := none
  namespaceName : Option String := none
  ownerReferences : Option (List OwnerReference) := none
  resourceVersion : Option String := none
  selfLink : Option String := none
  uid : Option String := none

namespace Metadata

def ofJson? (j : Json) : Option Metadata := do
  let fs ← j.fields?
  pure
    { annotations := ← field? fs "annotations" texts?
      creationTimestamp := ← field? fs "creationTimestamp" instant?
      deletionGracePeriodSeconds := ← field? fs "deletionGracePeriodSeconds" int64?
      deletionTimestamp := ← field? fs "deletionTimestamp" instant?
      finalizers := ← field? fs "finalizers" (Json.list? Json.str?)
      generateName := ← field? fs "generateName" Json.str?
      generation := ← field? fs "generation" int64?
      labels := ← field? fs "labels" texts?
      managedFields := ← field? fs "managedFields" (Json.list? ManagedFields.ofJson?)
      name := ← field? fs "name" Json.str?
      namespaceName := ← field? fs "namespace" Json.str?
      ownerReferences := ← field? fs "ownerReferences" (Json.list? OwnerReference.ofJson?)
      resourceVersion := ← field? fs "resourceVersion" Json.str?
      selfLink := ← field? fs "selfLink" Json.str?
      uid := ← field? fs "uid" Json.str? }

def json (m : Metadata) : Json :=
  present
    [("annotations", m.annotations.map textsJson),
      ("creationTimestamp", m.creationTimestamp.map (.str ·.text)),
      ("deletionGracePeriodSeconds", m.deletionGracePeriodSeconds.map .int),
      ("deletionTimestamp", m.deletionTimestamp.map (.str ·.text)),
      ("finalizers", m.finalizers.map fun l => .arr (l.map .str)),
      ("generateName", m.generateName.map .str),
      ("generation", m.generation.map .int),
      ("labels", m.labels.map textsJson),
      ("managedFields", m.managedFields.map fun l => .arr (l.map ManagedFields.json)),
      ("name", m.name.map .str),
      ("namespace", m.namespaceName.map .str),
      ("ownerReferences", m.ownerReferences.map fun l => .arr (l.map OwnerReference.json)),
      ("resourceVersion", m.resourceVersion.map .str),
      ("selfLink", m.selfLink.map .str),
      ("uid", m.uid.map .str)]

/-- The name of the object: the one it has, else what its name is to start with. -/
def objectName (m : Metadata) : String := (m.name.or m.generateName).getD ""

end Metadata

/-- Metadata of a list of objects. -/
structure ListMetadata where
  /-- Where to go on listing, if the list is not complete. -/
  continuation : Option String
  resourceVersion : Option String
  deriving DecidableEq, Repr

namespace ListMetadata

def ofJson? (j : Json) : Option ListMetadata := do
  let fs ← j.fields?
  let _ ← field? fs "remainingItemCount" int64?
  let _ ← field? fs "selfLink" Json.str?
  pure
    { continuation := ← field? fs "continue" Json.str?
      resourceVersion := ← field? fs "resourceVersion" Json.str? }

end ListMetadata

/-- A list of objects and its metadata. -/
def listing? {α : Type} (item : Json → Option α) (j : Json) : Option (ListMetadata × List α) := do
  let [metadata, items] ← j.record? [⟨"metadata", false⟩, ⟨"items", false⟩] | none
  pure (← ListMetadata.ofJson? (← metadata), ← (← items).list? item)

end PriceOverlay.Cluster
