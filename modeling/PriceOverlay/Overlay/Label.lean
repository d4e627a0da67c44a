import PriceOverlay.Table
/-!
# Labels

The labels that mark an overlay as managed, and the instance labels that requirements
are about.
-/
namespace PriceOverlay

abbrev Labels := Table String String

namespace Label

/-- Marks the objects of this controller. -/
def managedBy : String := "app.kubernetes.io/managed-by"

/-- The value of `managedBy` on every object of this controller. -/
def manager : String := "capacity-overlay-controller"

/-- Tells overlays of decisions from overlays of preferences. -/
def kind : String := "capacity-overlay.dev/type"

/-- Names the commitment or the NodePool an overlay comes from. -/
def source : String := "capacity-overlay.dev/source"

/-- Carries the number of a preference. -/
def preferenceNumber : String := "capacity-overlay.dev/preference-number"

/-- Set, and required, on every overlay while disabled. -/
def disabled : String := "capacity-overlay.dev/disabled"

def nodePool : String := "karpenter.sh/nodepool"
def capacityType : String := "karpenter.sh/capacity-type"
def instanceFamily : String := "karpenter.k8s.aws/instance-family"
def instanceType : String := "node.kubernetes.io/instance-type"
def region : String := "topology.kubernetes.io/region"

/-- The value of `capacityType` for instances that are paid as they run. -/
def onDemand : String := "on-demand"

end Label
end PriceOverlay
