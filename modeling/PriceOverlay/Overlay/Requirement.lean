/-!
# Requirements and owners of an overlay

An overlay applies to the instances that meet all of its requirements, each a condition
on one instance label, and it lives as long as the objects that own it.
-/
namespace PriceOverlay

/-- How the value of a label is compared with the values of a requirement. -/
inductive Comparison where
  | isIn
  | notIn
  | above
  | below
  | present
  | absent
  /-- A comparison found on a stored overlay that has no known meaning. -/
  | other (text : String)
  deriving DecidableEq, Repr

namespace Comparison

/-- The written form. -/
def text : Comparison → String
  | isIn => "In"
  | notIn => "NotIn"
  | above => "Gt"
  | below => "Lt"
  | present => "Exists"
  | absent => "DoesNotExist"
  | other s => s

/-- Reads the written form; any other text is kept. -/
def ofText (s : String) : Comparison :=
  if s = "In" then isIn
  else if s = "NotIn" then notIn
  else if s = "Gt" then above
  else if s = "Lt" then below
  else if s = "Exists" then present
  else if s = "DoesNotExist" then absent
  else other s

theorem text_ofText (s : String) : (ofText s).text = s := by
  unfold ofText
  repeat' split
  all_goals simp_all [text]

end Comparison

/-- A condition on the label `key`. -/
structure Requirement where
  key : String
  comparison : Comparison
  values : List String
  deriving DecidableEq, Repr

namespace Requirement

/-- The label has exactly this value. -/
def is (key value : String) : Requirement := ⟨key, .isIn, [value]⟩

/-- The text of a requirement, such as `key In [a,b]`. -/
def text (r : Requirement) : String :=
  r.key ++ " " ++ r.comparison.text ++ " [" ++ ",".intercalate r.values ++ "]"

end Requirement

/-- A reference to an object that owns an overlay. -/
structure Owner where
  apiVersion : String
  kind : String
  name : String
  uid : String
  /-- Whether the owner is the one that manages the overlay. -/
  controller : Bool
  deriving DecidableEq, Repr

namespace Owner

/-- A NodePool manages the overlays it owns. -/
def nodePool (name uid : String) : Owner := ⟨"karpenter.sh/v1", "NodePool", name, uid, true⟩

/-- The controller's own Deployment owns without managing. -/
def deployment (name uid : String) : Owner := ⟨"apps/v1", "Deployment", name, uid, false⟩

end Owner
end PriceOverlay
