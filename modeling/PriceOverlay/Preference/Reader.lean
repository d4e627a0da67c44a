import PriceOverlay.Decimal.Reader
import PriceOverlay.Preference.Basic
import PriceOverlay.Text.Blank
/-!
# Reading preferences

The value of a preference annotation is a row of tokens: matchers such as
`kubernetes.io/arch=arm64,amd64`, and once `adjust=[+-]N%`. Tokens are read from the left
and the first bad one is reported; what the row lacks is reported only if every token is
good.
-/
namespace PriceOverlay

/-- A token cut at its operator. -/
structure Token where
  key : List Char
  operator : MatchOperator
  operand : List Char
  deriving DecidableEq, Repr

namespace Token

/-- The characters at which an operator starts. -/
def startsOperator (c : Char) : Bool := c == '!' || c == '>' || c == '<' || c == '='

/-- Cuts a token at the first character that starts an operator. Operators of two
characters go before those of one. -/
def read (token : List Char) : Except PreferenceError Token :=
  let malformed : Except PreferenceError Token := .error (.malformedToken (String.ofList token))
  let key := token.takeWhile (!startsOperator ·)
  if key.isEmpty then malformed
  else match token.dropWhile (!startsOperator ·) with
    | '!' :: '=' :: r => .ok ⟨key, .noneOf, r⟩
    | '>' :: '=' :: _ => .error (.unsupportedOperator (String.ofList token) ">=")
    | '<' :: '=' :: _ => .error (.unsupportedOperator (String.ofList token) "<=")
    | '>' :: r => .ok ⟨key, .above, r⟩
    | '<' :: r => .ok ⟨key, .below, r⟩
    | '=' :: r => .ok ⟨key, .oneOf, r⟩
    | _ => malformed

end Token

namespace Matcher

/-- The matcher that a token `text`, cut into `t`, stands for. -/
def ofToken (text : List Char) (t : Token) : Except PreferenceError Matcher :=
  let key := String.ofList t.key
  let values := (t.operand.splitOn ',').map String.ofList
  if !keys.contains key then .error (.unknownKey key)
  else if values.any (·.isEmpty) then .error (.emptyValue (String.ofList text))
  else if t.operator.isNumeric then
    match values with
    | [v] =>
      if (Decimal.int64? v.toList).isSome then .ok ⟨key, t.operator, values⟩
      else .error (.nonNumericValue key v)
    | _ => .error (.wrongValueCount key t.operator values.length)
  else .ok ⟨key, t.operator, values⟩

end Matcher

namespace Adjustment

/-- The part of `adjust=[+-]N%` after the equals sign. -/
def read (text : List Char) : Except PreferenceError Adjustment :=
  let malformed : Except PreferenceError Adjustment :=
    .error (.malformedAdjustment (String.ofList text))
  match Text.before? ['%'] text with
  | none => malformed
  | some body =>
    let (negative, magnitude) := Decimal.splitSign body
    let whole := magnitude.takeWhile (· != '.')
    let fraction := match magnitude.dropWhile (· != '.') with
      | [] => some []
      | _ :: r => if Decimal.isDigits r then some r else none
    match Decimal.isDigits whole, fraction with
    | true, some fraction =>
      let x := Decimal.ofScientific (Decimal.value (Decimal.value 0 whole) fraction)
        (-fraction.length)
      .ok ⟨if negative then -x else x⟩
    | _, _ => malformed

end Adjustment

namespace Preference

/-- What the tokens read so far have given. -/
structure Draft where
  matchers : List Matcher
  adjustment : Option Adjustment

/-- Reads one more token. -/
def Draft.add (d : Draft) (token : List Char) : Except PreferenceError Draft := do
  let t ← Token.read token
  if t.key = "adjust".toList then
    if t.operator ≠ .oneOf then .error (.malformedAdjustment (String.ofList token))
    else if d.adjustment.isSome then .error .duplicateAdjustment
    else
      let a ← Adjustment.read t.operand
      pure { d with adjustment := some a }
  else
    let m ← Matcher.ofToken token t
    pure { d with matchers := d.matchers ++ [m] }

/-- Reads the value of an annotation. -/
def read (nodePool : String) (number : Nat) (value : String) :
    Except PreferenceError Preference := do
  let tokens := Text.words value.toList
  let d ← tokens.foldlM Draft.add ⟨[], none⟩
  if tokens.isEmpty then .error .empty
  else match d.adjustment with
    | none => .error .missingAdjustment
    | some a =>
      if d.matchers.isEmpty then .error .noMatchers
      else pure ⟨number, nodePool, d.matchers, a⟩

end Preference
end PriceOverlay
