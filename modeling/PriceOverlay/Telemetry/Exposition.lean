import PriceOverlay.Telemetry.Metric
/-!
# The text format of metrics

Each family that has series is written as its help, its type and its series, one a line.
A histogram is written as its buckets, its sum and its count.
-/
namespace PriceOverlay.Exposition

/-- A character of a help text. -/
def escapeHelp : Char → List Char
  | '\\' => ['\\', '\\']
  | '\n' => ['\\', 'n']
  | c => [c]

/-- A character of a label value. -/
def escapeValue : Char → List Char
  | '"' => ['\\', '"']
  | c => escapeHelp c

/-- A label value between its quotes. -/
def labelValue (s : String) : String := String.ofList (s.toList.flatMap escapeValue)

/-- The labels of a series in braces; nothing for none. -/
def labels (ls : List (String × String)) : String :=
  if ls.isEmpty then ""
  else
    "\x7b" ++ ",".intercalate (ls.map fun l => l.1 ++ "=\"" ++ labelValue l.2 ++ "\"") ++ "\x7d"

/-- One line: a name, labels and a value. -/
def line (name : String) (ls : List (String × String)) (value : Float) : String :=
  name ++ labels ls ++ " " ++ Decimal.plain value ++ "\n"

/-- The lines of a histogram. -/
def histogram (name : String) (h : Histogram) : String :=
  let bucket (le : String) (n : Nat) : String :=
    line (name ++ "_bucket") [("le", le)] (Float.ofNat n)
  String.join (h.buckets.map fun b => bucket (Decimal.plain b.1) b.2) ++
    bucket "+Inf" h.count ++ line (name ++ "_sum") [] h.sum ++
    line (name ++ "_count") [] (Float.ofNat h.count)

/-- One family. -/
def family (m : Metrics) (f : MetricFamily) : String :=
  if f.series.isEmpty then ""
  else
    "# HELP " ++ f.name ++ " " ++ String.ofList (f.help.toList.flatMap escapeHelp) ++ "\n" ++
      "# TYPE " ++ f.name ++ " " ++ f.type.text ++ "\n" ++
      match f.type with
      | .histogram => histogram f.name m.cycles
      | _ => String.join (f.series.map fun s => line f.name s.labels s.value)

/-- The whole registry. -/
def text (m : Metrics) : String := String.join (m.families.map (family m))

end PriceOverlay.Exposition
