/-!
# Selectors

A selector names a metric and the labels its series must have:
`metric\x7blabel="value",…\x7d`. In a value the backslash, the quote and the line break are
escaped, so that no value can end early.

**Results**
* `readValue_writeValue`: a written value is read back, whatever follows it.
-/
namespace PriceOverlay.Prometheus

/-- A character of a value. -/
def escape : Char → List Char
  | '\\' => ['\\', '\\']
  | '"' => ['\\', '"']
  | '\n' => ['\\', 'n']
  | c => [c]

/-- A value in quotes. -/
def writeValue (v : List Char) : List Char := '"' :: (v.flatMap escape ++ ['"'])

/-- Reads a value after its opening quote; also what follows the closing one. -/
def readValue : List Char → Option (List Char × List Char)
  | [] => none
  | '"' :: r => some ([], r)
  | '\\' :: '\\' :: r => (readValue r).map fun p => ('\\' :: p.1, p.2)
  | '\\' :: '"' :: r => (readValue r).map fun p => ('"' :: p.1, p.2)
  | '\\' :: 'n' :: r => (readValue r).map fun p => ('\n' :: p.1, p.2)
  | '\\' :: _ => none
  | c :: r => (readValue r).map fun p => (c :: p.1, p.2)

/-- An escaped character is read back as one. -/
theorem readValue_escape (c : Char) (r : List Char) :
    readValue (escape c ++ r) = (readValue r).map fun p => (c :: p.1, p.2) := by
  fun_cases escape c with
  | case1 => simp [readValue]
  | case2 => simp [readValue]
  | case3 => simp [readValue]
  | case4 c h₁ h₂ h₃ =>
    simp only [List.cons_append, List.nil_append]
    rw [readValue] <;> simp_all

theorem readValue_writeValue (v rest : List Char) :
    readValue (v.flatMap escape ++ '"' :: rest) = some (v, rest) := by
  induction v with
  | nil => simp [readValue]
  | cons c r ih => simp [readValue_escape, ih]

/-- One label and its value. -/
def matcher (name value : String) : String :=
  name ++ "=" ++ String.ofList (writeValue value.toList)

/-- The selector of a metric, and of an account if one is given. -/
def selector (metric : String) (labels : List (String × String)) (account : Option String) :
    String :=
  let account := account.toList.map fun a => ("account_id", a)
  metric ++ "\x7b" ++ ",".intercalate ((labels ++ account).map fun l => matcher l.1 l.2) ++ "\x7d"

end PriceOverlay.Prometheus
