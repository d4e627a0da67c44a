import PriceOverlay.Capacity.Analysis
import PriceOverlay.Settings.Environment
import PriceOverlay.Settings.File
/-!
# Configuration of the controller

The configuration is read from a file, if there is one, and from environment variables,
which override the file key by key. A setting that is missing has a standard value; one
that cannot be turned into the type of its field refuses the configuration.
-/
namespace PriceOverlay

structure Configuration where
  /-- The port of the health and metrics endpoints. -/
  port : Nat := 8080
  prometheusUrl : String := "http://prometheus-server.monitoring:9090"
  account : Option String := none
  /-- Seconds between decision cycles. -/
  intervalSeconds : Nat := 300
  timeoutSeconds : Nat := 30
  disabled : Bool := false
  rules : DecisionRules := {}
  freshness : Freshness := {}
  /-- The namespace and the name of the controller's own Deployment. -/
  deploymentNamespace : Option String := none
  deploymentName : Option String := none
  dryRun : Bool := false

/-- Why there is no configuration. -/
inductive ConfigurationError where
  | unreadable
  | invalid
  | badThreshold (threshold : Float)
  | zeroInterval
  | zeroTimeout
  deriving DecidableEq

namespace ConfigurationError

def message : ConfigurationError → String
  | unreadable => "Failed to read controller configuration"
  | invalid => "Invalid controller configuration"
  | badThreshold x =>
    "decision.utilization_threshold must be greater than 0, got " ++ Decimal.plain x
  | zeroInterval => "reconcile_interval_secs must be greater than 0"
  | zeroTimeout => "query_timeout_secs must be greater than 0"

end ConfigurationError

/-! ## Records of settings -/

def Weights.ofSetting? (s : Setting) : Option Weights := do
  let [a, b, c] ← s.record?
    ["compute_savings_plan", "ec2_instance_savings_plan", "reserved_instance"] | none
  let standard : Weights := {}
  pure
    { computePlan := ← Setting.orElse standard.computePlan Setting.int32? a
      instancePlan := ← Setting.orElse standard.instancePlan Setting.int32? b
      reserved := ← Setting.orElse standard.reserved Setting.int32? c }

def DecisionRules.ofSetting? (s : Setting) : Option DecisionRules := do
  let [a, b] ← s.record? ["utilization_threshold", "weights"] | none
  let standard : DecisionRules := {}
  pure
    { threshold := ← Setting.orElse standard.threshold Setting.float? a
      weights := ← Setting.orElse standard.weights Weights.ofSetting? b }

def Freshness.ofSetting? (s : Setting) : Option Freshness := do
  let [a, b] ← s.record?
    ["savings_plans_max_age_secs", "reserved_instances_max_age_secs"] | none
  let standard : Freshness := {}
  pure
    { savingsPlans := ← Setting.orElse standard.savingsPlans Setting.nat? a
      reservedInstances := ← Setting.orElse standard.reservedInstances Setting.nat? b }

namespace Configuration

/-- The configuration in a table of settings. -/
def ofSetting? (s : Setting) : Option Configuration := do
  let standard : Configuration := {}
  let field {α : Type} (name : String) (value : α) (read : Setting → Option α) : Option α :=
    Setting.orElse value read (s.get? name)
  let text? : Setting → Option (Option String) := Setting.optional? Setting.text?
  pure
    { port := ← field "api_port" standard.port (Setting.natIn? .unsigned16)
      prometheusUrl := ← field "prometheus_url" standard.prometheusUrl Setting.text?
      account := ← field "account_id" none text?
      intervalSeconds := ← field "reconcile_interval_secs" standard.intervalSeconds Setting.nat?
      timeoutSeconds := ← field "query_timeout_secs" standard.timeoutSeconds Setting.nat?
      disabled := ← field "disabled" false Setting.bool?
      rules := ← field "decision" {} DecisionRules.ofSetting?
      freshness := ← field "freshness" {} Freshness.ofSetting?
      deploymentNamespace := ← field "controller_namespace" none text?
      deploymentName := ← field "controller_deployment" none text?
      dryRun := ← field "dry_run" false Setting.bool? }

/-- The first thing wrong with a configuration, if anything is. -/
def check (c : Configuration) : Except ConfigurationError Unit :=
  if !Decimal.isFinite c.rules.threshold || c.rules.threshold ≤ 0 then
    .error (.badThreshold c.rules.threshold)
  else if c.intervalSeconds = 0 then .error .zeroInterval
  else if c.timeoutSeconds = 0 then .error .zeroTimeout
  else .ok ()

/-- The settings of a file and of the environment: first the file, then the variables. -/
def settings? (file : Option SettingsFile) (vs : Environment.Variables) :
    Except ConfigurationError Setting :=
  let base := match file with
    | none => some Setting.empty
    | some f => f.table?
  match base with
  | none => .error .unreadable
  | some t =>
    let read := t.fields.foldl (fun s f => s.set f.1 f.2) Setting.empty
    .ok ((Environment.settings vs).entries.foldl (fun s e => s.set e.1 e.2) read)

/-- The configuration of a file and of the environment. -/
def load (file : Option SettingsFile) (vs : Environment.Variables) :
    Except ConfigurationError Configuration := do
  match ofSetting? (← settings? file vs) with
  | none => .error .invalid
  | some c =>
    c.check
    pure c

/-- The namespace and the name of the Deployment, if both are given. -/
def deployment? (c : Configuration) : Option (String × String) :=
  match c.deploymentNamespace, c.deploymentName with
  | some namespaceName, some name =>
    if !namespaceName.isEmpty && !name.isEmpty then some (namespaceName, name) else none
  | _, _ => none

end Configuration
end PriceOverlay
