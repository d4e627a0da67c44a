import PriceOverlay.Json.Reader
import PriceOverlay.Settings.KeyPath
import PriceOverlay.Toml.Reader
/-!
# Files of settings

A file holds a table of settings, written in TOML or as a JSON object.
-/
namespace PriceOverlay

inductive SettingsFormat where
  | toml
  | json
  deriving DecidableEq, Repr

structure SettingsFile where
  format : SettingsFormat
  text : String
  deriving DecidableEq, Repr

namespace Setting

mutual
/-- The setting that a JSON value stands for. -/
def ofJson : Json → Setting
  | .null => .null
  | .invalid => .null
  | .bool b => .bool b
  | .int n => if n ≤ Word.signed64.high then .int n else .real (Float.ofInt n)
  | .real x => .real x
  | .str s => .text s
  | .arr items => .list (ofItems items)
  | .obj fields => .table (ofFields fields)

def ofItems : List Json → List Setting
  | [] => []
  | j :: r => ofJson j :: ofItems r

/-- The fields of a table; of a repeated name the last one counts. -/
def ofFields : List (String × Json) → List (String × Setting)
  | [] => []
  | (k, j) :: r =>
    if r.any (·.1 == k) then ofFields r else (k, ofJson j) :: ofFields r
end

end Setting

namespace SettingsFile

/-- The table in a file; none if it cannot be read or holds anything else. -/
def table? (f : SettingsFile) : Option Setting :=
  let s := match f.format with
    | .toml => Toml.read? f.text
    | .json => (Json.read? f.text).bind fun j => if j.valid then some (.ofJson j) else none
  s.bind fun s => match s with
    | .table _ => some s
    | _ => none

end SettingsFile
end PriceOverlay
