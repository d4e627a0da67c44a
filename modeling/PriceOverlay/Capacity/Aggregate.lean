import PriceOverlay.Capacity.Commitment
import PriceOverlay.Decimal.Exact
import PriceOverlay.Decimal.Word
import PriceOverlay.Table
/-!
# Aggregates

Samples come one per purchase; decisions are made per key, so the samples of a key are
summed up. What remains of savings plans adds up, their use comes from its own series, of
which the last sample counts, and reserved instances are counted in whole instances, in a
machine word, which a sum may outgrow.
-/
namespace PriceOverlay

/-- What savings plans are summed up by. -/
inductive PlanKey where
  | global
  | regional (family region : String)
  deriving DecidableEq, Repr

namespace PlanKey

/-- The parts by which keys are ordered. -/
def parts : PlanKey → List String
  | global => []
  | regional family region => [family, region]

theorem parts_injective {a b : PlanKey} (h : a.parts = b.parts) : a = b := by
  cases a <;> cases b <;> simp_all [parts]

instance : Ord PlanKey := ⟨compareOn parts⟩
instance : Std.TransOrd PlanKey := inferInstanceAs (Std.TransCmp (compareOn parts))
instance : Std.LawfulEqOrd PlanKey where
  eq_of_compare h := parts_injective (Std.LawfulEqOrd.eq_of_compare (α := List String) h)

def text : PlanKey → String
  | global => "global"
  | regional family region => family ++ "/" ++ region

end PlanKey

/-- What reserved instances are counted by. -/
structure ReservedKey where
  instanceType : String
  region : String
  deriving DecidableEq, Repr

namespace ReservedKey

/-- The parts by which keys are ordered. -/
def parts (k : ReservedKey) : List String := [k.instanceType, k.region]

theorem parts_injective {a b : ReservedKey} (h : a.parts = b.parts) : a = b := by
  cases a; cases b; simp_all [parts]

instance : Ord ReservedKey := ⟨compareOn parts⟩
instance : Std.TransOrd ReservedKey := inferInstanceAs (Std.TransCmp (compareOn parts))
instance : Std.LawfulEqOrd ReservedKey where
  eq_of_compare h := parts_injective (Std.LawfulEqOrd.eq_of_compare (α := List String) h)

def text (k : ReservedKey) : String := k.instanceType ++ "/" ++ k.region

end ReservedKey

/-- The sum of one key. -/
structure PlanTotal where
  /-- What remains, in dollars an hour; below zero if more was promised than bought. -/
  remaining : Float
  /-- Use in percent; above 100 if instances run beyond the plan. -/
  utilization : Float
  deriving DecidableEq

namespace PlanTotal

def zero : PlanTotal := ⟨0, 0⟩

end PlanTotal

/-- The key a sample counts for among plans of a kind; a regional sample without family or
region counts for none. -/
def PlanSample.key? (kind : PlanKind) (s : PlanSample) : Option PlanKey :=
  if s.kind ≠ kind then none
  else match kind, s.family, s.region with
    | .global, _, _ => some .global
    | .regional, some family, some region =>
      if family.isEmpty || region.isEmpty then none else some (.regional family region)
    | .regional, _, _ => none

abbrev PlanTotals := Table PlanKey PlanTotal

namespace PlanTotals

/-- Adds what remains of one plan. -/
def addRemaining (kind : PlanKind) (t : PlanTotals) (s : PlanSample) : PlanTotals :=
  match s.key? kind with
  | none => t
  | some k => t.adjust k .zero fun a => { a with remaining := a.remaining + s.value }

/-- Sets the use of one key. -/
def setUtilization (kind : PlanKind) (t : PlanTotals) (s : PlanSample) : PlanTotals :=
  match s.key? kind with
  | none => t
  | some k => t.adjust k .zero fun a => { a with utilization := s.value }

/-- The sums of the plans of a kind; samples of the other kind do not count. -/
def ofSamples (kind : PlanKind) (remaining utilization : List PlanSample) : PlanTotals :=
  utilization.foldl (setUtilization kind) (remaining.foldl (addRemaining kind) ∅)

end PlanTotals

/-- The whole instances that a count stands for: the nearest number, a half going up, at
most what an unsigned word of 64 bits holds; nothing for a count that is not positive and
finite. -/
def ReservedSample.instances (s : ReservedSample) : Nat :=
  match Decimal.nearest? s.count with
  | some n => (Word.unsigned64.clamp n).toNat
  | none => 0

/-- The key a sample counts for; none without instance type or region. -/
def ReservedSample.key? (s : ReservedSample) : Option ReservedKey :=
  if s.instanceType.isEmpty || s.region.isEmpty then none else some ⟨s.instanceType, s.region⟩

abbrev ReservedTotals := Table ReservedKey Nat

namespace ReservedTotals

/-- Adds a sample in an unsigned word of 64 bits; none if the count of its key outgrows it. -/
def add? (t : ReservedTotals) (s : ReservedSample) : Option ReservedTotals :=
  match s.key? with
  | none => some t
  | some k =>
    let n := (t.get? k).getD 0 + s.instances
    if Word.unsigned64.holds n then some (t.insert k n) else none

/-- The counts added up in words: none if a sum does not fit. The count of each sample is cut down
to a word, the sums are not. -/
def ofSamples? (samples : List ReservedSample) : Option ReservedTotals := samples.foldlM add? ∅

end ReservedTotals
end PriceOverlay
