import PriceOverlay.Cli.Analyze
import PriceOverlay.Cli.Overlays
/-!
# Options

What the program and each of its commands take from a command line, and what help says
about it.
-/
namespace PriceOverlay.Cli

/-- The places of a command line where options are. -/
inductive Place where
  /-- Before the command. -/
  | program
  | lint
  | analyze
  | overlays
  | help
  deriving DecidableEq, Repr

/-- An option that takes a value. -/
structure OptionSpec where
  name : String
  letter : Option Char := none
  /-- What stands for the value in help. -/
  value : String
  about : String
  accepts : String → Bool := fun _ => true
  /-- The values there are, if they are few, and what they mean. -/
  choices : List (String × Option String) := []
  /-- The value if none is given. -/
  standard : Option String := none
  /-- The environment variable that gives the value if the option does not. -/
  variableName? : Option String := none

/-- What there is at a place. -/
structure Options where
  place : Place
  about : String
  usage : String
  commands : List (String × String) := []
  arguments : List (String × String) := []
  named : List OptionSpec := []
  hasHelp : Bool := true
  hasVersion : Bool := false
  /-- Whether the first argument that is no option ends the options. -/
  stops : Bool := false

/-! ## Values -/

def format? : String → Option Format
  | "table" => some .table
  | "json" => some .json
  | _ => none

/-- The kind of overlays that an origin names. -/
def origin? : String → Option OverlayKind
  | "decision" => some .costDecision
  | "preference" => some .preference
  | _ => none

/-- An unsigned integer of 64 bits. -/
def seconds? (s : String) : Option Nat := Decimal.unsigned64? s.toList

def number? (s : String) : Option Float := Decimal.float? s.toList

/-- The environment variable for the URL of the metrics server. -/
def urlVariable : String := "OVERLAY_PROMETHEUS_URL"

/-! ## The places -/

/-- The option that is known everywhere. -/
def formatOption : OptionSpec where
  name := "format"
  letter := some 'f'
  value := "FORMAT"
  about := "Output format"
  accepts s := (format? s).isSome
  choices := [("table", some "Table format (default)"), ("json", some "JSON format")]
  standard := some "table"

def lintOptions : Options where
  place := .lint
  about := "Parse preference annotations and show the overlays they render to"
  usage := "ovc lint [OPTIONS] <ANNOTATIONS>..."
  arguments :=
    [("<ANNOTATIONS>...",
      "Annotations as key=value; key is the full annotation key or preference.N")]
  named :=
    [formatOption,
      { name := "nodepool"
        value := "NODEPOOL"
        about := "NodePool the annotations belong to"
        standard := some "default" }]

def analyzeOptions : Options where
  place := .analyze
  about := "Run the cost decision analysis read-only against Prometheus"
  usage := "ovc analyze [OPTIONS] --prometheus-url <PROMETHEUS_URL>"
  named :=
    [formatOption,
      { name := "prometheus-url"
        value := "PROMETHEUS_URL"
        about := "Prometheus base URL"
        variableName? := some urlVariable },
      { name := "threshold"
        value := "THRESHOLD"
        about := "Utilization percent at or above which capacity counts as exhausted"
        accepts s := (number? s).isSome },
      { name := "account-id"
        value := "ACCOUNT_ID"
        about := "Restrict queries to one AWS account" },
      { name := "max-data-age-secs"
        value := "MAX_DATA_AGE_SECS"
        about := "Maximum accepted data age in seconds, for both data families"
        accepts s := (seconds? s).isSome },
      { name := "timeout-secs"
        value := "TIMEOUT_SECS"
        about := "Query timeout in seconds"
        accepts s := (seconds? s).isSome
        standard := some "30" }]

def overlaysOptions : Options where
  place := .overlays
  about := "List NodeOverlay objects managed by the controller"
  usage := "ovc overlays [OPTIONS]"
  named :=
    [formatOption,
      { name := "origin"
        value := "ORIGIN"
        about := "Only overlays of this origin"
        accepts s := (origin? s).isSome
        choices := [("decision", none), ("preference", none)] },
      { name := "nodepool"
        value := "NODEPOOL"
        about := "Only preference overlays of this NodePool" }]

def helpOptions : Options where
  place := .help
  about := "Print this message or the help of the given subcommand(s)"
  usage := "ovc help [COMMAND]..."
  arguments := [("[COMMAND]...", "Print help for the subcommand(s)")]
  hasHelp := false

/-- The options before the command. -/
def globalOptions : Options where
  place := .program
  about := "CLI for the Capacity Overlay Controller"
  usage := "ovc [OPTIONS] <COMMAND>"
  commands :=
    [("lint", lintOptions.about), ("analyze", analyzeOptions.about),
      ("overlays", overlaysOptions.about), ("help", helpOptions.about)]
  named := [formatOption]
  hasVersion := true
  stops := true

namespace Place

def options : Place → Options
  | program => globalOptions
  | lint => lintOptions
  | analyze => analyzeOptions
  | overlays => overlaysOptions
  | help => helpOptions

/-- The place after the name of a command. -/
def ofCommand? : String → Option Place
  | "lint" => some lint
  | "analyze" => some analyze
  | "overlays" => some overlays
  | "help" => some help
  | _ => none

end Place
end PriceOverlay.Cli
