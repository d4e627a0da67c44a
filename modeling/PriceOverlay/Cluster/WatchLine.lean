import PriceOverlay.Cluster.Call
import PriceOverlay.Cluster.Metadata
import PriceOverlay.Json.Start
/-!
# Lines of a watch

Every line of a reply to a watch tells one change of an object. A line that breaks off
before it is complete is no failure, unless what is there of it can be no change any more.
-/
namespace PriceOverlay.Cluster

/-- Whether every field besides the metadata can be read. -/
def areOthersValid (fields : List (String × Json)) : Bool :=
  fields.all fun f => f.1 == "metadata" || f.2.valid

/-- The metadata of an object of any kind; all else is read and not kept. -/
def objectMetadata? (j : Json) : Option Metadata := do
  let fs ← j.fields?
  if !areOthersValid fs then none
  match fs.filter (·.1 == "metadata") with
  | [] => some {}
  | [m] => Metadata.ofJson? m.2
  | _ => none

/-- One line of a watch. -/
inductive WatchLine where
  | applied (m : Metadata)
  | deleted (m : Metadata)
  /-- The watch has come this far. -/
  | bookmark
  | refused (r : Refusal)

/-- What a line tells. -/
inductive WatchKind where
  | added
  | modified
  | deleted
  | bookmark
  | error
  deriving DecidableEq, Repr

namespace WatchKind

def ofText? : String → Option WatchKind
  | "ADDED" => some added
  | "MODIFIED" => some modified
  | "DELETED" => some deleted
  | "BOOKMARK" => some bookmark
  | "ERROR" => some error
  | _ => none

def ofJson? (j : Json) : Option WatchKind := j.choice?.bind ofText?

end WatchKind

namespace WatchLine

/-! ## Complete lines -/

/-- The metadata of a bookmark: a version, and annotations that are not kept. -/
def isBookmarkMetadata (j : Json) : Bool := Option.isSome do
  let [version, annotations] ← j.record? [⟨"resourceVersion", false⟩, ⟨"annotations", true⟩]
    | none
  let _ ← (← version).str?
  match annotations with
  | none => pure ()
  | some a => (texts? a).map fun _ => ()

/-- A bookmark tells its version. -/
def bookmark? (j : Json) : Option WatchLine := do
  let fs ← j.fields?
  if !areOthersValid fs then none
  for name in ["apiVersion", "kind"] do
    let [f] := fs.filter (·.1 == name) | none
    let _ ← f.2.str?
  let [f] := fs.filter (·.1 == "metadata") | none
  if isBookmarkMetadata f.2 then some .bookmark else none

/-- The line of a kind about an object. -/
def of? (kind : WatchKind) (object : Json) : Option WatchLine :=
  match kind with
  | .added | .modified => (objectMetadata? object).map applied
  | .deleted => (objectMetadata? object).map deleted
  | .bookmark => bookmark? object
  | .error => (Refusal.ofJson? object).map refused

/-- Whether the object of a line comes before its kind. -/
def isObjectFirst (fields : List (String × Json)) : Bool :=
  (fields.find? fun f => f.1 == "type" || f.1 == "object").any (·.1 == "object")

/-- Reads a line. Of an object that comes before its kind, every part has to be readable. -/
def ofJson? (j : Json) : Option WatchLine := do
  let [kind, object] ← j.record? [⟨"type", false⟩, ⟨"object", false⟩] | none
  let object ← object
  if j.fields?.any isObjectFirst && !object.valid then none
  of? (← WatchKind.ofJson? (← kind)) object

/-! ## Lines that end early -/

section Starts

open Json (Start)

/-- Whether a start can become the name of a kind of line, which is a text or an object. Of
a name in an object anything may be there that is not complete. -/
def mayBeKind : Start → Bool
  | .obj [] none next => next.isScalar
  | .obj [] (some name) next => (WatchKind.ofText? name).isSome && next.isScalar
  | .obj [(name, .null)] none next => (WatchKind.ofText? name).isSome && next.isUnannounced
  | s => s.isText

/-- Whether a start can become a record all of whose fields may be missing or `null`, given
how its fields are read and how some of them start. -/
def mayBeFields (read : Json → Bool) (starts : List (String × (Start → Bool))) : Start → Bool
  | .obj fields name next =>
    read (.obj fields) &&
      match name, starts.find? fun f => some f.1 == name with
      | some _, some f => f.2 next
      | some _, none => next.isIgnorable
      | none, _ => next.isText
  | s => s.isScalar

/-- Whether a start can become a reference to an owner. -/
def mayBeOwner : Start → Bool :=
  mayBeFields (fun j => (OwnerReference.ofJson? j).isSome)
    (["apiVersion", "blockOwnerDeletion", "controller", "kind", "name", "uid"].map
      (·, Start.isScalar))

/-- Whether a start can become a record of managed fields. -/
def mayBeManaged : Start → Bool :=
  mayBeFields (fun j => (ManagedFields.ofJson? j).isSome)
    (("fieldsV1", Start.valid) ::
      ["apiVersion", "fieldsType", "manager", "operation", "subresource", "time"].map
        (·, Start.isScalar))

/-- Whether a start can become metadata. -/
def mayBeMetadata : Start → Bool :=
  mayBeFields (fun j => (Metadata.ofJson? j).isSome)
    ([("annotations", Start.mayBeTexts), ("labels", Start.mayBeTexts),
      ("finalizers", Start.mayBeList (·.str?.isSome) Start.isScalar),
      ("managedFields", Start.mayBeList (fun j => (ManagedFields.ofJson? j).isSome) mayBeManaged),
      ("ownerReferences",
        Start.mayBeList (fun j => (OwnerReference.ofJson? j).isSome) mayBeOwner)] ++
      ["creationTimestamp", "deletionGracePeriodSeconds", "deletionTimestamp", "generateName",
        "generation", "name", "namespace", "resourceVersion", "selfLink", "uid"].map
        (·, Start.isScalar))

/-- Whether a start can become the metadata of a bookmark. -/
def mayBeBookmarkMetadata : Start → Bool :=
  Start.mayBeRecord
    [{ name := "resourceVersion", accepts := (·.str?.isSome) },
      { name := "annotations", accepts := fun j => (texts? j).isSome,
        admits := Start.mayBeTexts }]

/-- Whether a start can become the status of a refused call. -/
def mayBeRefusal : Start → Bool :=
  Start.mayBeRecord
    [{ name := "status", accepts := (·.str?.isSome) },
      { name := "message", accepts := (·.str?.isSome) },
      { name := "reason", accepts := (·.str?.isSome) },
      { name := "code", accepts := fun j => (Refusal.code? j).isSome }]

/-- Whether a start can become an object, given its metadata and how they start. -/
def mayBeObject (metadata : Json → Bool) (start : Start → Bool) : Start → Bool
  | .obj fields name next =>
    let isMetadata (n : String) : Bool := n == "metadata"
    decide (((fields.map (·.1) ++ name.toList).filter isMetadata).length ≤ 1) &&
      (fields.all fun f => if isMetadata f.1 then metadata f.2 else f.2.valid) &&
      if name.any isMetadata then start next
      else next.valid && (name.isSome || !next.isBare)
  | s => s.isScalar

/-- Whether a start can become the object of a line of a kind. -/
def mayBeAbout : WatchKind → Start → Bool
  | .added | .modified | .deleted =>
    mayBeObject (fun j => (Metadata.ofJson? j).isSome) mayBeMetadata
  | .bookmark => mayBeObject isBookmarkMetadata mayBeBookmarkMetadata
  | .error => mayBeRefusal

/-- Whether there can be a line with an object, if it is complete, and a kind, if it is
complete. -/
def mayBePair (kind object : Option Json) : Bool :=
  match kind.map WatchKind.ofJson?, object with
  | some none, _ => false
  | some (some kind), some object => (of? kind object).isSome
  | none, some object => object.valid
  | _, none => true

/-- Whether a start can become a line. -/
def mayBeLine : Start → Bool
  | .arr [] next => mayBeKind next
  | .arr [kind] next => (WatchKind.ofJson? kind).any (mayBeAbout · next)
  | .arr [kind, object] next => mayBePair kind object && next.isUnannounced
  | .arr _ _ => false
  | .obj fields name next =>
    let count (n : String) : Nat := ((fields.map (·.1) ++ name.toList).filter (· == n)).length
    let kind := Json.lookup "type" fields
    let object := Json.lookup "object" fields
    decide (count "type" ≤ 1 ∧ count "object" ≤ 1) && mayBePair kind object &&
      (!isObjectFirst fields || object.all Json.valid) &&
      if name = some "type" then mayBeKind next
      else if name = some "object" then
        match kind.bind WatchKind.ofJson? with
        | some kind => mayBeAbout kind next
        | none => next.valid
      else if name.isSome then next.isIgnorable
      else next.isText
  | s => s.isScalar

end Starts

/-- Whether a text is a part of a line. -/
def isPart (text : String) : Bool := (Json.Start.ofText? text).any mayBeLine

end WatchLine
end PriceOverlay.Cluster
