import PriceOverlay.Decimal.Text
import PriceOverlay.Overlay.Requirement
/-!
# Preferences

A preference makes the instances that meet its matchers cheaper or dearer by a
percentage. It is numbered within its NodePool, and the number is also its weight.
-/
namespace PriceOverlay

/-- How a matcher compares the value of its label. -/
inductive MatchOperator where
  | oneOf
  | noneOf
  | above
  | below
  deriving DecidableEq, Repr

namespace MatchOperator

def symbol : MatchOperator → String
  | oneOf => "="
  | noneOf => "!="
  | above => ">"
  | below => "<"

def comparison : MatchOperator → Comparison
  | oneOf => .isIn
  | noneOf => .notIn
  | above => .above
  | below => .below

/-- Whether the operator compares integers. -/
def isNumeric : MatchOperator → Bool
  | above | below => true
  | _ => false

end MatchOperator

/-- A condition on one instance label. -/
structure Matcher where
  key : String
  operator : MatchOperator
  values : List String
  deriving DecidableEq, Repr

namespace Matcher

/-- The instance labels a matcher may be about. -/
def keys : List String :=
  ["karpenter.k8s.aws/instance-family",
    "karpenter.k8s.aws/instance-category",
    "karpenter.k8s.aws/instance-generation",
    "karpenter.k8s.aws/instance-size",
    "karpenter.k8s.aws/instance-cpu",
    "karpenter.k8s.aws/instance-memory",
    "karpenter.k8s.aws/instance-hypervisor",
    "karpenter.k8s.aws/instance-gpu-count",
    "karpenter.k8s.aws/instance-gpu-manufacturer",
    "karpenter.k8s.aws/instance-gpu-name",
    "karpenter.k8s.aws/instance-local-nvme",
    "karpenter.k8s.aws/instance-network-bandwidth",
    "node.kubernetes.io/instance-type",
    "kubernetes.io/arch",
    "kubernetes.io/os",
    "karpenter.sh/capacity-type",
    "topology.kubernetes.io/zone",
    "topology.kubernetes.io/region"]

/-- The form in which a matcher is written: `key<operator>value,value`. -/
def text (m : Matcher) : String :=
  m.key ++ m.operator.symbol ++ ",".intercalate m.values

def requirement (m : Matcher) : Requirement := ⟨m.key, m.operator.comparison, m.values⟩

end Matcher

/-- A change of price in percent. -/
structure Adjustment where
  percent : Float
  deriving DecidableEq

namespace Adjustment

/-- The price adjustment: `+N%`, `-N%` or `0%`. -/
def text (a : Adjustment) : String :=
  if 0 < a.percent then "+" ++ Decimal.plain a.percent ++ "%"
  else if a.percent < 0 then Decimal.plain a.percent ++ "%"
  else "0%"

end Adjustment

/-- A preference of a NodePool. -/
structure Preference where
  number : Nat
  nodePool : String
  matchers : List Matcher
  adjustment : Adjustment
  deriving DecidableEq

/-- Why an annotation is not a preference. -/
inductive PreferenceError where
  | empty
  | malformedToken (token : String)
  | unsupportedOperator (token operator : String)
  | unknownKey (key : String)
  | emptyValue (token : String)
  | wrongValueCount (key : String) (operator : MatchOperator) (count : Nat)
  | nonNumericValue (key value : String)
  | malformedAdjustment (text : String)
  | missingAdjustment
  | duplicateAdjustment
  | noMatchers
  | invalidAnnotationKey (key : String)
  | duplicateNumber (number : Nat)
  deriving DecidableEq, Repr

namespace PreferenceError

def message : PreferenceError → String
  | empty => "annotation value is empty"
  | malformedToken token => "malformed token '" ++ token ++ "'"
  | unsupportedOperator token operator =>
    "unsupported operator '" ++ operator ++ "' in '" ++ token ++ "' (use >, <, =, !=)"
  | unknownKey key => "unknown key '" ++ key ++ "'"
  | emptyValue token => "empty value in '" ++ token ++ "'"
  | wrongValueCount key operator count =>
    "'" ++ key ++ operator.symbol ++ "' takes exactly one value, got " ++ Decimal.natural count
  | nonNumericValue key value =>
    "'" ++ key ++ "' comparison value '" ++ value ++ "' is not an integer"
  | malformedAdjustment text =>
    "malformed adjustment '" ++ text ++ "' (expected adjust=[+-]N%)"
  | missingAdjustment => "missing adjust=[+-]N% token"
  | duplicateAdjustment => "adjust given more than once"
  | noMatchers => "at least one matcher is required"
  | invalidAnnotationKey key =>
    "invalid preference annotation key '" ++ key ++
      "' (expected capacity-overlay.dev/preference.<N>, N >= 1)"
  | duplicateNumber number =>
    "preference number " ++ Decimal.natural number ++ " declared more than once"

end PreferenceError
end PriceOverlay
