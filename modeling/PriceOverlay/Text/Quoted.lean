import PriceOverlay.Text.Hidden
/-!
# Quoted texts

A text is quoted for messages and log records so that every character can be told: it
stands between quotes, quotes and backslashes inside are escaped, and characters that
would not show are written by their code points.
-/
namespace PriceOverlay.Text

/-- A character inside quotes. -/
def escaped (c : Char) : List Char :=
  match c with
  | '\x00' => ['\\', '0']
  | '\t' => ['\\', 't']
  | '\r' => ['\\', 'r']
  | '\n' => ['\\', 'n']
  | '"' => ['\\', '"']
  | '\\' => ['\\', '\\']
  | c =>
    if isHidden c then ['\\', 'u', '\x7b'] ++ Nat.toDigits 16 c.toNat ++ ['\x7d'] else [c]

def quoted (s : String) : String :=
  String.ofList ('"' :: (s.toList.flatMap escaped ++ ['"']))

/-- A text that may be missing: `None` or `Some("text")`. -/
def quotedOption : Option String → String
  | none => "None"
  | some s => "Some(" ++ quoted s ++ ")"

end PriceOverlay.Text
