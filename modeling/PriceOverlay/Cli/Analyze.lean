import PriceOverlay.Capacity.Analysis
import PriceOverlay.Cli.Age
import PriceOverlay.Cli.Output
import PriceOverlay.Prometheus.Source
/-!
# Previewing decisions

One analysis of the capacity data that a server has, and the decisions it leads to. Nothing
is written to a cluster.
-/
namespace PriceOverlay.Cli

structure AnalyzeOptions where
  url : String
  threshold : Option Float := none
  account : Option String := none
  /-- The greatest age of data, in seconds, for both families. -/
  maxAge : Option Nat := none

namespace AnalyzeOptions

/-- The rules of the decisions: a threshold that is given has to be positive. -/
def rules (o : AnalyzeOptions) : Except Failure DecisionRules :=
  match o.threshold with
  | none => .ok {}
  | some x =>
    if Decimal.isFinite x && 0 < x then .ok { threshold := x }
    else .error { message := "threshold must be greater than 0, got " ++ Decimal.plain x }

def freshness (o : AnalyzeOptions) : Freshness :=
  match o.maxAge with
  | some s => ⟨s, s⟩
  | none => {}

end AnalyzeOptions

namespace AnalysisReport

/-! ## JSON -/

def scopeJson : DecisionScope → Json
  | .global => .str "Global"
  | .family name region => .obj [("Family", .obj [("family", .str name), ("region", .str region)])]
  | .instanceType name region =>
    .obj [("InstanceType", .obj [("instance_type", .str name), ("region", .str region)])]

def decisionJson (d : Decision) : Json :=
  .obj
    [("name", .str d.name),
      ("capacity_type", .str d.commitment.text),
      ("scope", scopeJson d.scope),
      ("should_exist", .bool d.shouldExist),
      ("reason", .str d.reason),
      ("weight", .int d.weight),
      ("price_adjustment", .str d.price)]

def skippedJson (s : Skipped) : Json :=
  .obj
    [("family", .str s.family.text),
      ("capacity_type", (s.commitment.map fun c => Json.str c.text).getD .null),
      ("reason", .str s.cause.reason)]

def ageJson (a : DataFamily × Duration) : Json :=
  .arr [.str a.1.text, .obj [("secs", .int a.2.seconds), ("nanos", .int a.2.subsecond)]]

def json (a : Analysis) : Json :=
  .obj
    [("decisions", .arr (a.decisions.map decisionJson)),
      ("analyzed", .arr (a.analyzed.map fun c => .str c.text)),
      ("skipped", .arr (a.skipped.map skippedJson)),
      ("data_ages", .arr (a.ages.map ageJson))]

/-! ## Lines -/

def decisionGrid (a : Analysis) : Grid :=
  ⟨["Overlay", "Capacity Type", "Wanted", "Weight", "Reason"],
    a.decisions.map fun d =>
      [d.name, d.commitment.text, if d.shouldExist then "yes" else "no",
        Decimal.integer d.weight, d.reason]⟩

def skippedGrid (a : Analysis) : Grid :=
  ⟨["Family", "Capacity Type", "Reason"],
    a.skipped.map fun s =>
      [s.family.text, (s.commitment.map (·.text)).getD "all", s.cause.reason]⟩

def lines (threshold : Float) (a : Analysis) : List String :=
  let ages := a.ages.map fun p => Grid.padded 24 p.1.text ++ ageText p.2.seconds
  let skipped :=
    if a.skipped.isEmpty then []
    else "" :: warning "Some data was not analyzed; existing overlays for it stay untouched" ::
      gridOr "" (skippedGrid a)
  let wanted := (a.decisions.filter (·.shouldExist)).length
  heading "Data Freshness" ++ ages ++ "" ::
    heading ("Decisions (threshold " ++ Decimal.plain threshold ++ "%)") ++
    gridOr "No capacity found" (decisionGrid a) ++ skipped ++
    ["", information (Decimal.natural wanted ++ " of " ++ Decimal.natural a.decisions.length ++
      " overlay(s) would exist")]

end AnalysisReport

/-- Analyzes what the server of a URL has, and writes the report. -/
def analyze (o : AnalyzeOptions) (t : Http.Transport) (format : Format) :
    Except Failure Output := do
  let rules ← o.rules
  match Prometheus.Client.ofUrl o.url o.account with
  | .error e => throw { message := "Failed to create metrics source", cause := some e.message }
  | .ok client =>
    let a := Analyzer.analyze ⟨rules, o.freshness⟩ (client.source t)
    if a.outgrown then throw .overflow
    match format with
    | .json => pure { out := [(AnalysisReport.json a).pretty] }
    | .table => pure { out := AnalysisReport.lines rules.threshold a }

end PriceOverlay.Cli
