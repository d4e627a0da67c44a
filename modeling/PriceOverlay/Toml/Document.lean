import PriceOverlay.Settings.Setting
import PriceOverlay.Toml.Time
/-!
# TOML documents

A document is a tree of tables. A table is opened once, by a header of its own or by
dotted keys, and no key of it is set twice; a header may still open tables inside a table,
and each header in double brackets adds a row to a list of tables. Inline tables and lists
are closed from the start. A table whose first key is the one reserved for dates and times
stands for the date or time that the text of that key gives.
-/
namespace PriceOverlay.Toml

/-- How a table came to be. -/
inductive Opening where
  /-- As the parent of a header. -/
  | implied
  /-- By a dotted key. -/
  | dotted
  /-- By a header of its own. -/
  | header
  deriving DecidableEq, Repr

inductive Node where
  | value (s : Setting)
  /-- A date or a time, as text. -/
  | time (text : String)
  | table (opening : Opening) (entries : List (String × Node))
  /-- A list of tables, of which the last one is open. -/
  | rows (earlier : List Setting) (last : List (String × Node))

/-- The entries of a table. -/
abbrev Entries := List (String × Node)

/-- The key that is reserved for dates and times. -/
def timeKey : String := "$__toml_private_datetime"

/-- The setting of a table with some fields, given its first entry. -/
def tableSetting? (first : Option (String × Node)) (fields : List (String × Setting)) :
    Option Setting :=
  match first with
  | some (key, n) =>
    if key = timeKey then
      match n with
      | .value (.text t) =>
        match time? t.toList with
        | some (t, []) => some (.text t)
        | _ => none
      | _ => none
    else some (.table fields)
  | none => some (.table fields)

namespace Node

mutual
/-- The setting of a node; none if it has a date or time that is none. -/
def setting? : Node → Option Setting
  | .value s => some s
  | .time t => some (.text t)
  | .table _ es => (fields? es).bind (tableSetting? es.head?)
  | .rows earlier last =>
    ((fields? last).bind (tableSetting? last.head?)).map fun s => .list (earlier ++ [s])

def fields? : List (String × Node) → Option (List (String × Setting))
  | [] => some []
  | (key, n) :: r =>
    (setting? n).bind fun s => (fields? r).map fun fs => (key, s) :: fs
end

end Node

namespace Entries

/-- The setting of the table with these entries. -/
def setting? (es : Entries) : Option Setting := (Node.table .header es).setting?

/-- The table with these entries, closed. -/
def closed? (es : Entries) : Option Node :=
  (setting? es).map fun
    | .text t => .time t
    | s => .value s

/-- Changes or adds one entry, unless the change is refused. -/
def alter? (key : String) (change : Option Node → Option Node) : Entries → Option Entries
  | [] => (change none).map fun n => [(key, n)]
  | (k, n) :: r =>
    if k == key then (change (some n)).map fun n => (k, n) :: r
    else (alter? key change r).map ((k, n) :: ·)

/-- Changes the table at the end of a path. The tables missing on the way are opened; a
dotted path may not lead into a table that has a header. -/
def within? (dotted : Bool) (change : Opening → Entries → Option Entries) :
    List String → Opening → Entries → Option Entries
  | [], opening, es => change opening es
  | key :: r, _, es =>
    es.alter? key fun
      | none =>
        let opening : Opening := if dotted then .dotted else .implied
        (within? dotted change r opening []).map (.table opening)
      | some (.value _) => none
      | some (.time _) => none
      | some (.table opening es) =>
        if dotted && opening == .header then none
        else (within? dotted change r opening es).map (.table opening)
      | some (.rows earlier last) =>
        (within? dotted change r .header last).map (.rows earlier)

/-- Changes the entry at the end of a path that a header gives. -/
def atHeader? (path : List String) (change : Option Node → Option Node) (es : Entries) :
    Option Entries :=
  match path.getLast? with
  | none => none
  | some key => es.within? false (fun _ es => es.alter? key change) path.dropLast .header

/-- Opens the table of a header. -/
def openTable? (path : List String) (es : Entries) : Option Entries :=
  es.atHeader? path fun
    | none => some (.table .header [])
    | some (.table .implied es) => some (.table .header es)
    | some _ => none

/-- Adds the row of a header. -/
def openRow? (path : List String) (es : Entries) : Option Entries :=
  es.atHeader? path fun
    | none => some (.rows [] [])
    | some (.rows earlier last) =>
      (setting? last).map fun s => .rows (earlier ++ [s]) []
    | some _ => none

/-- Sets a key, which may be dotted, in a table. -/
def define? (key : List String) (n : Node) (opening : Opening) (es : Entries) :
    Option Entries :=
  match key.getLast? with
  | none => none
  | some last =>
    let path := key.dropLast
    es.within? true (fun opening es =>
      if (opening == .dotted) == path.isEmpty then none
      else es.alter? last fun
        | none => some n
        | some _ => none) path opening

/-- Sets a key in the table that the last header opened. -/
def assign? (header key : List String) (n : Node) (es : Entries) : Option Entries :=
  es.within? false (fun opening es => es.define? key n opening) header .header

end Entries
end PriceOverlay.Toml
