import PriceOverlay.Json.Basic
import PriceOverlay.Decimal.Text
/-!
# Writing JSON

Two layouts of one notation: `compact` without white space, and `pretty` with one item
a line and two spaces a level. Texts escape the quote, the backslash and the control
characters; numbers are the shortest digits, and a number that is not finite is `null`.
-/
namespace PriceOverlay.Json

/-- Places from `1e-5` to `1e15` are positional and a tie goes to the even digit. -/
def numberStyle : Decimal.Style := ⟨-5, 15, .even⟩

/-- A character inside a text. -/
def escapeChar (c : Char) : List Char :=
  match c with
  | '"' => ['\\', '"']
  | '\\' => ['\\', '\\']
  | '\x08' => ['\\', 'b']
  | '\x0c' => ['\\', 'f']
  | '\n' => ['\\', 'n']
  | '\r' => ['\\', 'r']
  | '\t' => ['\\', 't']
  | c =>
    if c.toNat < 0x20 then
      ['\\', 'u', '0', '0', Nat.digitChar (c.toNat / 16), Nat.digitChar (c.toNat % 16)]
    else [c]

/-- A text in quotes. -/
def quote (s : String) : String :=
  String.ofList ('"' :: (s.toList.flatMap escapeChar ++ ['"']))

def realText (x : Float) : String := (numberStyle.text? x).getD "null"

mutual
/-- The value on one line without white space. -/
def compact : Json → String
  | .null => "null"
  | .invalid => "null"
  | .bool b => if b then "true" else "false"
  | .int n => toString n
  | .real x => realText x
  | .str s => quote s
  | .arr items => "[" ++ ",".intercalate (compactItems items) ++ "]"
  | .obj fields => "\x7b" ++ ",".intercalate (compactFields fields) ++ "\x7d"

def compactItems : List Json → List String
  | [] => []
  | j :: r => compact j :: compactItems r

def compactFields : List (String × Json) → List String
  | [] => []
  | (k, j) :: r => (quote k ++ ":" ++ compact j) :: compactFields r
end

/-- Parts between brackets, one a line; nothing between them if there is none. -/
def block (indent : Nat) (opening closing : String) (parts : List String) : String :=
  if parts.isEmpty then opening ++ closing
  else
    let line := "\n" ++ String.ofList (List.replicate (indent + 2) ' ')
    opening ++ line ++ ("," ++ line).intercalate parts ++ "\n" ++
      String.ofList (List.replicate indent ' ') ++ closing

mutual
/-- The value with one item a line, inside `indent` spaces. -/
def prettyAt (indent : Nat) : Json → String
  | .arr items => block indent "[" "]" (prettyItems indent items)
  | .obj fields => block indent "\x7b" "\x7d" (prettyFields indent fields)
  | j => compact j

def prettyItems (indent : Nat) : List Json → List String
  | [] => []
  | j :: r => prettyAt (indent + 2) j :: prettyItems indent r

def prettyFields (indent : Nat) : List (String × Json) → List String
  | [] => []
  | (k, j) :: r => (quote k ++ ": " ++ prettyAt (indent + 2) j) :: prettyFields indent r
end

def pretty (j : Json) : String := prettyAt 0 j

end PriceOverlay.Json
