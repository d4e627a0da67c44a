import PriceOverlay.Cli.Output
import PriceOverlay.Overlay.Rendering
/-!
# Checking annotations

Annotations given as `key=value` are read as those of a NodePool would be, and the overlays
that they ask for are shown. A key may be shortened to `preference.<N>`.
-/
namespace PriceOverlay.Cli.Lint

/-- The annotations among some arguments, and what is wrong with the others. -/
structure Collected where
  annotations : Annotations
  errors : List String

/-- What the short form of a key starts with. -/
def shortStart : String := "preference."

/-- The full key; none if it is no key of a preference. -/
def fullKey? (key : List Char) : Option String :=
  if annotationStart.toList.isPrefixOf key then some (String.ofList key)
  else (Text.after? shortStart.toList key).map fun r => annotationStart ++ String.ofList r

namespace Collected

def reject (c : Collected) (message : String) : Collected :=
  { c with errors := c.errors ++ [message] }

/-- Takes one more argument. Of a repeated key the last value counts. -/
def add (c : Collected) (argument : String) : Collected :=
  let cs := argument.toList
  let key := cs.takeWhile (· != '=')
  match cs.drop key.length with
  | [] => c.reject ("'" ++ argument ++ "': expected key=value")
  | _ :: value =>
    match fullKey? (Text.trim key) with
    | none =>
      c.reject ("'" ++ String.ofList key ++ "': not a preference annotation (use " ++
        annotationStart ++ "N or " ++ shortStart ++ "N)")
    | some full =>
      let again := c.annotations.contains full
      let c := { c with annotations := c.annotations.insert full (String.ofList value) }
      if again then c.reject (full ++ ": given more than once") else c

def ofArguments (arguments : List String) : Collected :=
  arguments.foldl add ⟨∅, []⟩

end Collected

structure Report where
  nodePool : String
  preferences : List Preference
  errors : List String

namespace Report

/-- The report on the annotations of a NodePool. -/
def of (nodePool : String) (arguments : List String) : Report :=
  let c := Collected.ofArguments arguments
  let d := Declared.ofAnnotations nodePool c.annotations
  ⟨nodePool, d.preferences, c.errors ++ d.errors.map AnnotationError.message⟩

/-- Whether every argument was read. -/
def clean (r : Report) : Bool := r.errors.isEmpty

/-- The overlay of a preference, as it applies while nothing is disabled. -/
def overlay (p : Preference) : Overlay := Rendering.preference {} p

def overlays (r : Report) : List Overlay := r.preferences.map overlay

/-! ## JSON -/

def texts (l : List String) : Json := .arr (l.map .str)

def comparisonJson : Comparison → Json
  | .other s => .obj [("Unknown", .str s)]
  | c => .str c.text

def requirementJson (r : Requirement) : Json :=
  .obj [("key", .str r.key), ("operator", comparisonJson r.comparison),
    ("values", texts r.values)]

def matcherJson (m : Matcher) : Json :=
  .obj [("key", .str m.key), ("operator", .str m.operator.comparison.text),
    ("values", texts m.values)]

def ownerJson (w : Owner) : Json :=
  .obj [("api_version", .str w.apiVersion), ("kind", .str w.kind), ("name", .str w.name),
    ("uid", .str w.uid), ("controller", .bool w.controller)]

def originJson : Origin → Json
  | .decision c => .obj [("Decision", .obj [("capacity_type", .str c.text)])]
  | .preference nodePool number =>
    .obj [("Preference", .obj [("nodepool", .str nodePool), ("number", .int number)])]

def overlayJson (o : Overlay) : Json :=
  .obj
    [("name", .str o.name),
      ("labels", .obj (o.labels.entries.map fun e => (e.1, .str e.2))),
      ("requirements", .arr (o.requirements.map requirementJson)),
      ("weight", .int o.weight),
      ("price_adjustment", .str o.price),
      ("origin", originJson o.origin),
      ("owners", .arr (o.owners.map ownerJson))]

def preferenceJson (p : Preference) : Json :=
  .obj
    [("number", .int p.number),
      ("nodepool", .str p.nodePool),
      ("matchers", .arr (p.matchers.map matcherJson)),
      ("adjustment", .obj [("percent", .real p.adjustment.percent)])]

def json (r : Report) : Json :=
  .obj
    [("nodepool", .str r.nodePool),
      ("preferences", .arr (r.preferences.map fun p =>
        .obj [("preference", preferenceJson p), ("overlay", overlayJson (overlay p))])),
      ("errors", texts r.errors)]

/-! ## Lines -/

def row (p : Preference) : List String :=
  let o := overlay p
  [Decimal.natural p.number, " ".intercalate (p.matchers.map Matcher.text), o.price, o.name,
    Decimal.integer o.weight]

/-- The requirements of an overlay, under its name. -/
def details (o : Overlay) : List String :=
  "" :: o.name :: o.requirements.map fun r => "  " ++ r.text

def lines (r : Report) : Output :=
  let grid : Grid := ⟨["#", "Matchers", "Adjust", "Overlay", "Weight"], r.preferences.map row⟩
  let verdict :=
    if r.clean then
      [success (Decimal.natural r.preferences.length ++ " annotation(s) valid")]
    else []
  { out := heading ("Preferences for NodePool " ++ r.nodePool) ++
      gridOr "No valid preferences" grid ++ r.overlays.flatMap details ++ "" :: verdict
    errors := r.errors.map failed }

def output (r : Report) : Format → Output
  | .json => { out := [r.json.pretty] }
  | .table => r.lines

end Report
end PriceOverlay.Cli.Lint
