import PriceOverlay.Table
import PriceOverlay.Text.Utf8
/-!
# Request targets

The target of a request is a path and the parameters of its query. A text is one if it is
not too long and all of its characters may stand in a target; what follows a number sign is
dropped.
-/
namespace PriceOverlay.Http

structure Target where
  path : String
  query : List (String × String)
  deriving DecidableEq, Repr

namespace Target

/-- The visible characters of ASCII. -/
def isVisible (c : Char) : Bool := decide (0x21 ≤ c.toNat ∧ c.toNat ≤ 0x7E)

/-- The characters of a path. -/
def inPath (c : Char) : Bool := isVisible c && c ∉ ['#', '<', '>', '?', '\x60']

/-- The characters of a query. -/
def inQuery (c : Char) : Bool := isVisible c && c ∉ ['"', '#', '<', '>']

/-- The text of a part of a query, in which a plus sign stands for a space. -/
def decoded (cs : List Char) : String :=
  String.ofList (Text.Utf8.decode (Text.Utf8.unescape
    (cs.map fun c => if c == '+' then ' ' else c)))

/-- The parameters of a query; of a repeated name the last one counts. -/
def parameters (cs : List Char) : Table String String :=
  .ofList (((cs.splitOn '&').filter (!·.isEmpty)).map fun p =>
    (decoded (p.takeWhile (· != '=')), decoded ((p.dropWhile (· != '=')).drop 1)))

/-- The most bytes that a target may have. -/
def sizeLimit : Nat := 65534

/-- Reads a target. -/
def ofText? (text : String) : Option Target :=
  let cs := text.toList.takeWhile (· != '#')
  let path := cs.takeWhile (· != '?')
  let query := (cs.drop path.length).drop 1
  if text.utf8ByteSize ≤ sizeLimit && path.all inPath && query.all inQuery then
    some ⟨String.ofList path, (parameters query).entries⟩
  else none

end Target
end PriceOverlay.Http
