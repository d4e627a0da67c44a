/-!
# Commitments

Capacity is paid ahead in three ways. Two of them are savings plans, measured by what is
left of them and by how much is used; the third reserves instances and is counted.
-/
namespace PriceOverlay

/-- A way to pay for capacity ahead. -/
inductive Commitment where
  | computePlan
  | instancePlan
  | reserved
  deriving DecidableEq, Repr

namespace Commitment

/-- Every commitment, in the order in which they are analyzed. -/
def all : List Commitment := [computePlan, instancePlan, reserved]

def text : Commitment → String
  | computePlan => "compute-savings-plan"
  | instancePlan => "ec2-instance-savings-plan"
  | reserved => "reserved-instance"

end Commitment

/-- What a savings plan applies to. -/
inductive PlanKind where
  /-- Any instance family in any region. -/
  | global
  /-- One instance family in one region. -/
  | regional
  deriving DecidableEq, Repr

namespace PlanKind

/-- The value of the `type` label on the series of such plans. -/
def seriesType : PlanKind → String
  | global => "compute"
  | regional => "ec2_instance"

/-- The commitment that plans of this kind are. -/
def commitment : PlanKind → Commitment
  | global => .computePlan
  | regional => .instancePlan

end PlanKind

/-- Data that is refreshed together. -/
inductive DataFamily where
  | savingsPlans
  | reservedInstances
  deriving DecidableEq, Repr

namespace DataFamily

def all : List DataFamily := [savingsPlans, reservedInstances]

def text : DataFamily → String
  | savingsPlans => "savings_plans"
  | reservedInstances => "reserved_instances"

end DataFamily

/-- A moment: seconds since 1970 and nanoseconds of the second. -/
structure Timestamp where
  seconds : Int
  nanos : Nat
  deriving DecidableEq, Repr, Inhabited

/-- One data point of a savings plan: what remains of it, or how much of it is used. -/
structure PlanSample where
  kind : PlanKind
  family : Option String
  region : Option String
  value : Float
  time : Timestamp := default
  deriving DecidableEq

/-- One data point on reserved instances. -/
structure ReservedSample where
  instanceType : String
  region : String
  count : Float
  time : Timestamp := default
  deriving DecidableEq

end PriceOverlay
