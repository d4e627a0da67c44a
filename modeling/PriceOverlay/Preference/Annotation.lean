import PriceOverlay.Preference.Reader
import PriceOverlay.Table
/-!
# Preference annotations

The annotations of a NodePool declare its preferences under the keys
`capacity-overlay.dev/preference.<N>`. Each annotation is read on its own, in key order:
a bad one is reported and never hides another, and of those that give one number the
first good one counts.
-/
namespace PriceOverlay

abbrev Annotations := Table String String

/-- An error and the annotation it comes from. -/
structure AnnotationError where
  key : String
  error : PreferenceError
  deriving DecidableEq, Repr

namespace AnnotationError

def message (e : AnnotationError) : String := e.key ++ ": " ++ e.error.message

end AnnotationError

/-- A NodePool, as far as its preferences go. -/
structure NodePool where
  name : String
  uid : Option String
  annotations : Annotations
  deriving DecidableEq

/-- What every key of a preference annotation starts with. -/
def annotationStart : String := "capacity-overlay.dev/preference."

/-- The number that the key of a preference annotation carries; none for another key. -/
def annotationNumber (key : String) : Option (Except PreferenceError Nat) :=
  (Text.after? annotationStart.toList key.toList).map fun rest =>
    match Decimal.natural? rest with
    | some n =>
      if 0 < n ∧ Word.unsigned32.holds n then .ok n else .error (.invalidAnnotationKey key)
    | none => .error (.invalidAnnotationKey key)

/-- The preferences of a NodePool by number, and the annotations that were refused. -/
structure Declared where
  byNumber : Table Nat Preference
  errors : List AnnotationError

namespace Declared

/-- The preferences, ascending by number. -/
def preferences (d : Declared) : List Preference := d.byNumber.values

def reject (d : Declared) (key : String) (e : PreferenceError) : Declared :=
  { d with errors := d.errors ++ [⟨key, e⟩] }

/-- Reads one more annotation. -/
def add (nodePool : String) (d : Declared) (entry : String × String) : Declared :=
  let (key, value) := entry
  match annotationNumber key with
  | none => d
  | some (.error e) => d.reject key e
  | some (.ok n) =>
    if d.byNumber.contains n then d.reject key (.duplicateNumber n)
    else match Preference.read nodePool n value with
      | .ok p => { d with byNumber := d.byNumber.insert n p }
      | .error e => d.reject key e

/-- Reads all annotations in key order. -/
def ofAnnotations (nodePool : String) (annotations : Annotations) : Declared :=
  annotations.entries.foldl (add nodePool) ⟨∅, []⟩

end Declared

namespace NodePool

def declared (p : NodePool) : Declared := Declared.ofAnnotations p.name p.annotations

end NodePool
end PriceOverlay
