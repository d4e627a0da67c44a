import PriceOverlay.Settings.KeyPath
import PriceOverlay.Table
/-!
# Settings in environment variables

A variable whose name starts with a mark, in any case, is a setting. Two underscores in
its name lead into a table. Its value is a flag, an integer or a number if it reads as one,
tried in this order, and a text otherwise.
-/
namespace PriceOverlay.Environment

abbrev Variables := List (String × String)

/-- What a name starts with. -/
def mark : String := "overlay_"

/-- The setting that a value stands for. -/
def setting (value : String) : Setting :=
  let low := Text.lowered value
  if low = "true" then .bool true
  else if low = "false" then .bool false
  else match Decimal.int64? value.toList with
    | some n => .int n
    | none => match Decimal.float? value.toList with
      | some x => .real x
      | none => .text value

/-- A name with points for double underscores. -/
def pointed : List Char → List Char
  | '_' :: '_' :: r => '.' :: pointed r
  | c :: r => c :: pointed r
  | [] => []

/-- The key that the name of a variable stands for. -/
def key? (name : String) : Option String :=
  let cs := (Text.lowered name).toList
  if mark.toList.isPrefixOf cs then some (String.ofList (pointed (cs.drop mark.length)))
  else none

/-- The settings by key, in key order. -/
def settings (vs : Variables) : Table String Setting :=
  Table.ofList (vs.filterMap fun v => (key? v.1).map fun k => (k, setting v.2))

end PriceOverlay.Environment
