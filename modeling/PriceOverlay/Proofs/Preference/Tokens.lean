import PriceOverlay.Proofs.Decimal.Integers
import PriceOverlay.Proofs.Overlay.Prices
import PriceOverlay.Proofs.Preference.Reading
import PriceOverlay.Proofs.Text.Words
/-!
# The forms of tokens

A token is cut at the first character at which an operator starts. What is cut so is a matcher or
an `adjust` token, or it is refused with an error that says what is wrong with it. For each step of
the reader the texts that it takes are described here, and the texts that it refuses with each
error, without the reader.

**Results**
* `Token.outcome_read`: cutting a token.
* `Matcher.outcome_ofToken`: the matchers, and what is wrong with the other tokens.
* `Adjustment.read_eq_ok_iff`, `Adjustment.read_eq_error_iff`: the percentages.
-/
namespace PriceOverlay

/-- What is computed is described by the results and the errors that are justified, if there always
is one. -/
theorem outcome_iff {ε α : Type} {x : Except ε α} {ok : α → Prop} {error : ε → Prop}
    (hok : ∀ a, ok a → x = .ok a) (herror : ∀ e, error e → x = .error e)
    (htotal : (∃ a, ok a) ∨ ∃ e, error e) :
    (∀ a, x = .ok a ↔ ok a) ∧ ∀ e, x = .error e ↔ error e := by
  rcases htotal with ⟨a, ha⟩ | ⟨e, he⟩
  · have hx := hok a ha
    refine ⟨fun b => ⟨fun hb => ?_, hok b⟩, fun e => ⟨fun he => ?_, herror e⟩⟩
    · cases hx.symm.trans hb
      exact ha
    · cases hx.symm.trans he
  · have hx := herror e he
    refine ⟨fun a => ⟨fun ha => ?_, hok a⟩, fun f => ⟨fun hf => ?_, herror f⟩⟩
    · cases hx.symm.trans ha
    · cases hx.symm.trans hf
      exact he

/-! ## Cutting -/

@[simp] theorem MatchOperator.toList_symbol (o : MatchOperator) :
    o.symbol.toList =
      match o with
      | oneOf => ['=']
      | noneOf => ['!', '=']
      | above => ['>']
      | below => ['<'] := by
  cases o <;> decide

namespace Token

/-- A token cut at its operator: the key has none of the characters at which an operator starts,
and no equals sign follows on `>` or `<`. -/
structure Cut (token : List Char) (t : Token) : Prop where
  key_ne_nil : t.key ≠ []
  key_plain : ∀ c ∈ t.key, startsOperator c = false
  text : token = t.key ++ (t.operator.symbol.toList ++ t.operand)
  single : t.operator.isNumeric = true → t.operand.head? ≠ some '='

/-- Why a token cannot be cut. -/
inductive Uncut (token : List Char) : PreferenceError → Prop
  | noOperator (h : ∀ c ∈ token, startsOperator c = false) :
    Uncut token (.malformedToken (String.ofList token))
  | noKey {c : Char} {rest : List Char} (hc : startsOperator c = true) (h : token = c :: rest) :
    Uncut token (.malformedToken (String.ofList token))
  | loneMark {key rest : List Char} (hkey : ∀ c ∈ key, startsOperator c = false)
    (hrest : rest.head? ≠ some '=') (h : token = key ++ '!' :: rest) :
    Uncut token (.malformedToken (String.ofList token))
  | orEqual {key rest : List Char} {c : Char} (hne : key ≠ [])
    (hkey : ∀ c ∈ key, startsOperator c = false) (hc : c = '>' ∨ c = '<')
    (h : token = key ++ c :: '=' :: rest) :
    Uncut token (.unsupportedOperator (String.ofList token) (String.ofList [c, '=']))

/-- The key ends where an operator starts. -/
theorem takeWhile_key {key : List Char} (hkey : ∀ c ∈ key, startsOperator c = false) {c : Char}
    (hc : startsOperator c = true) (rest : List Char) :
    (key ++ c :: rest).takeWhile (!startsOperator ·) = key := by
  rw [List.takeWhile_append_of_pos (by simpa using hkey),
    List.takeWhile_cons_of_neg (by simp [hc]), List.append_nil]

theorem dropWhile_key {key : List Char} (hkey : ∀ c ∈ key, startsOperator c = false) {c : Char}
    (hc : startsOperator c = true) (rest : List Char) :
    (key ++ c :: rest).dropWhile (!startsOperator ·) = c :: rest := by
  rw [List.dropWhile_append_of_pos (by simpa using hkey),
    List.dropWhile_cons_of_neg (by simp [hc])]

theorem startsOperator_iff {c : Char} :
    startsOperator c = true ↔ c = '!' ∨ c = '>' ∨ c = '<' ∨ c = '=' := by
  simp only [startsOperator, Bool.or_eq_true, beq_iff_eq, or_assoc]

/-- A token without an operator, or one that is cut into its key and the rest. -/
theorem cut_cases (token : List Char) :
    (∀ c ∈ token, startsOperator c = false) ∨
      ∃ key c rest, (∀ c ∈ key, startsOperator c = false) ∧ startsOperator c = true ∧
        token = key ++ c :: rest := by
  have hcut := List.takeWhile_append_dropWhile (p := (!startsOperator ·)) (l := token)
  have hkey : ∀ c ∈ token.takeWhile (!startsOperator ·), startsOperator c = false := by
    intro c hc
    simpa using List.mem_takeWhile_imp hc
  have hhead := List.head?_dropWhile_not (!startsOperator ·) token
  cases hd : token.dropWhile (!startsOperator ·) with
  | nil =>
    rw [hd, List.append_nil] at hcut
    rw [hcut] at hkey
    exact .inl hkey
  | cons c rest =>
    rw [hd] at hcut hhead
    exact .inr ⟨_, c, rest, hkey, by simpa using hhead, hcut.symm⟩

section
variable {key : List Char} (hne : key ≠ []) (hkey : ∀ c ∈ key, startsOperator c = false)
include hne hkey

/-- What follows on a key decides. -/
theorem read_append_cons {c : Char} (hc : startsOperator c = true) (rest : List Char) :
    read (key ++ c :: rest) =
      match c :: rest with
      | '!' :: '=' :: r => .ok ⟨key, .noneOf, r⟩
      | '>' :: '=' :: _ => .error (.unsupportedOperator (String.ofList (key ++ c :: rest)) ">=")
      | '<' :: '=' :: _ => .error (.unsupportedOperator (String.ofList (key ++ c :: rest)) "<=")
      | '>' :: r => .ok ⟨key, .above, r⟩
      | '<' :: r => .ok ⟨key, .below, r⟩
      | '=' :: r => .ok ⟨key, .oneOf, r⟩
      | _ => .error (.malformedToken (String.ofList (key ++ c :: rest))) := by
  have hnonempty : ¬ key.isEmpty = true := by simpa using hne
  unfold read
  dsimp only
  rw [takeWhile_key hkey hc, dropWhile_key hkey hc]
  exact if_neg hnonempty

end

theorem read_of_cut {token : List Char} {t : Token} (h : Cut token t) : read token = .ok t := by
  obtain ⟨key, operator, operand⟩ := t
  obtain ⟨hne, hkey, htext, hsingle⟩ := h
  rw [htext, MatchOperator.toList_symbol]
  cases operator with
  | oneOf => exact read_append_cons hne hkey rfl operand
  | noneOf => exact read_append_cons hne hkey rfl ('=' :: operand)
  | above | below =>
    have hsingle : operand.head? ≠ some '=' := hsingle rfl
    refine (read_append_cons hne hkey rfl operand).trans ?_
    split <;> simp_all

theorem read_of_uncut {token : List Char} {e : PreferenceError} (h : Uncut token e) :
    read token = .error e := by
  cases h with
  | noOperator h =>
    unfold read
    dsimp only
    split
    · rfl
    · rw [List.dropWhile_eq_nil_iff.2 (by simpa using h)]
  | noKey hc h =>
    subst h
    unfold read
    dsimp only
    rw [List.takeWhile_cons_of_neg (by simp [hc])]
    rfl
  | @loneMark key rest hkey hrest h =>
    subst h
    by_cases hne : key = []
    · subst hne
      rfl
    · rw [read_append_cons hne hkey rfl]
      split <;> simp_all
  | orEqual hne hkey hc h =>
    subst h
    rcases hc with rfl | rfl
    · exact read_append_cons hne hkey rfl _
    · exact read_append_cons hne hkey rfl _

theorem cut_or_uncut (token : List Char) : (∃ t, Cut token t) ∨ ∃ e, Uncut token e := by
  rcases cut_cases token with h | ⟨key, c, rest, hkey, hc, rfl⟩
  · exact .inr ⟨_, .noOperator h⟩
  by_cases hne : key = []
  · subst hne
    exact .inr ⟨_, .noKey hc rfl⟩
  by_cases heq : rest.head? = some '='
  · obtain ⟨operand, rfl⟩ := List.head?_eq_some_iff.1 heq
    rcases startsOperator_iff.1 hc with rfl | rfl | rfl | rfl
    · exact .inl ⟨⟨key, .noneOf, operand⟩, hne, hkey, by simp, nofun⟩
    · exact .inr ⟨_, .orEqual hne hkey (.inl rfl) rfl⟩
    · exact .inr ⟨_, .orEqual hne hkey (.inr rfl) rfl⟩
    · exact .inl ⟨⟨key, .oneOf, '=' :: operand⟩, hne, hkey, by simp, nofun⟩
  · rcases startsOperator_iff.1 hc with rfl | rfl | rfl | rfl
    · exact .inr ⟨_, .loneMark hkey heq rfl⟩
    · exact .inl ⟨⟨key, .above, rest⟩, hne, hkey, by simp, fun _ => heq⟩
    · exact .inl ⟨⟨key, .below, rest⟩, hne, hkey, by simp, fun _ => heq⟩
    · exact .inl ⟨⟨key, .oneOf, rest⟩, hne, hkey, by simp, nofun⟩

theorem outcome_read (token : List Char) :
    (∀ t, read token = .ok t ↔ Cut token t) ∧ ∀ e, read token = .error e ↔ Uncut token e :=
  outcome_iff (fun _ => read_of_cut) (fun _ => read_of_uncut) (cut_or_uncut token)

end Token

/-! ## Matchers -/

namespace Matcher

/-- A matcher that can be written in an annotation. -/
structure Writable (m : Matcher) : Prop where
  key_mem : m.key ∈ keys
  values_ne_nil : m.values ≠ []
  value_ne_empty : ∀ v ∈ m.values, v ≠ ""
  value_plain : ∀ v ∈ m.values, ',' ∉ v.toList
  numeric : m.operator.isNumeric = true → ∃ v, m.values = [v] ∧ Decimal.IsInt64 v.toList

/-- The token that a matcher is written as, cut at its operator. -/
def token (m : Matcher) : Token := ⟨m.key.toList, m.operator, (",".intercalate m.values).toList⟩

/-- Why a token is not a matcher. -/
inductive Unfit (text : List Char) (t : Token) : PreferenceError → Prop
  | unknownKey (hkey : String.ofList t.key ∉ keys) :
    Unfit text t (.unknownKey (String.ofList t.key))
  | emptyValue (hkey : String.ofList t.key ∈ keys) (hvalue : [] ∈ t.operand.splitOn ',') :
    Unfit text t (.emptyValue (String.ofList text))
  | valueCount (hkey : String.ofList t.key ∈ keys) (hvalue : [] ∉ t.operand.splitOn ',')
    (hnumeric : t.operator.isNumeric = true) (hcount : (t.operand.splitOn ',').length ≠ 1) :
    Unfit text t
      (.wrongValueCount (String.ofList t.key) t.operator (t.operand.splitOn ',').length)
  | notInteger (hkey : String.ofList t.key ∈ keys) (hvalue : t.operand ≠ [])
    (hnumeric : t.operator.isNumeric = true) (hsingle : ',' ∉ t.operand)
    (hinteger : ¬ Decimal.IsInt64 t.operand) :
    Unfit text t (.nonNumericValue (String.ofList t.key) (String.ofList t.operand))

theorem splitOn_operand {values : List String} (hne : values ≠ [])
    (hplain : ∀ v ∈ values, ',' ∉ v.toList) :
    ((",".intercalate values).toList.splitOn ',').map String.ofList = values := by
  have hcomma : ",".toList = [','] := by decide
  have hmap : values.map (String.ofList ∘ String.toList) = values :=
    List.map_id'' (fun v => String.ofList_toList) values
  rw [String.toList_intercalate, hcomma, List.splitOn_intercalate, List.map_map, hmap]
  · simpa using hplain
  · simpa using hne

theorem intercalate_splitOn (operand : List Char) :
    (",".intercalate ((operand.splitOn ',').map String.ofList)).toList = operand := by
  have hcomma : ",".toList = [','] := by decide
  have hmap (vs : List (List Char)) : vs.map (String.toList ∘ String.ofList) = vs :=
    List.map_id'' (fun v => String.toList_ofList) vs
  rw [String.toList_intercalate, hcomma, List.map_map, hmap, List.intercalate_splitOn]

theorem any_isEmpty_splitOn {operand : List Char} :
    ((operand.splitOn ',').map String.ofList).any (·.isEmpty) = true ↔
      [] ∈ operand.splitOn ',' := by
  simp [String.isEmpty_iff, String.ofList_eq_empty_iff]

theorem ofToken_of_writable {text : List Char} {m : Matcher} (w : m.Writable) :
    ofToken text m.token = .ok m := by
  have hvalues := splitOn_operand w.values_ne_nil w.value_plain
  have hempty : ¬ m.values.any (·.isEmpty) = true := by
    simpa [String.isEmpty_iff] using fun hmem => w.value_ne_empty _ hmem rfl
  unfold ofToken
  simp only [token, hvalues, String.ofList_toList]
  rw [if_neg (by simpa using w.key_mem), if_neg hempty]
  split
  · rename_i hnumeric
    obtain ⟨v, hv, hint⟩ := w.numeric hnumeric
    simp only [hv]
    rw [if_pos (Decimal.isSome_int64?_iff.2 hint), ← hv]
  · rfl

theorem ofToken_of_unfit {text : List Char} {t : Token} {e : PreferenceError}
    (h : Unfit text t e) : ofToken text t = .error e := by
  unfold ofToken
  dsimp only
  cases h with
  | unknownKey hkey => rw [if_pos (by simpa using hkey)]
  | emptyValue hkey hvalue =>
    rw [if_neg (by simpa using hkey), if_pos (any_isEmpty_splitOn.2 hvalue)]
  | valueCount hkey hvalue hnumeric hcount =>
    rw [if_neg (by simpa using hkey), if_neg (mt any_isEmpty_splitOn.1 hvalue), if_pos hnumeric]
    split
    · rename_i hv
      exact absurd (by simpa using congrArg List.length hv) hcount
    · rw [List.length_map]
  | notInteger hkey hvalue hnumeric hsingle hinteger =>
    have hvalues := List.splitOn_eq_singleton hsingle
    have hnonempty : [] ∉ t.operand.splitOn ',' := by simpa [hvalues] using hvalue
    rw [if_neg (by simpa using hkey), if_neg (mt any_isEmpty_splitOn.1 hnonempty),
      if_pos hnumeric]
    simp only [hvalues, List.map_singleton, String.toList_ofList]
    rw [if_neg (mt Decimal.isSome_int64?_iff.1 hinteger)]

/-- No value has a comma. -/
theorem comma_notMem_of_mem_splitOn {operand v : List Char} (h : v ∈ operand.splitOn ',') :
    ',' ∉ v := by
  intro hcomma
  have hne := Text.forall_mem_splitOnP (· == ',') operand v h ',' hcomma
  cases hne

/-- The matcher with the parts of a token. -/
def ofParts (t : Token) : Matcher :=
  ⟨String.ofList t.key, t.operator, (t.operand.splitOn ',').map String.ofList⟩

theorem token_ofParts (t : Token) : (ofParts t).token = t := by
  rw [ofParts, token, String.toList_ofList, intercalate_splitOn]

theorem writable_ofParts {t : Token} (hkey : String.ofList t.key ∈ keys)
    (hvalue : [] ∉ t.operand.splitOn ',')
    (hnumeric : t.operator.isNumeric = true →
      t.operand.splitOn ',' = [t.operand] ∧ Decimal.IsInt64 t.operand) :
    (ofParts t).Writable where
  key_mem := hkey
  values_ne_nil := by simp [ofParts]
  value_ne_empty := by
    refine List.forall_mem_map.2 fun v hv hempty => hvalue ?_
    rwa [← String.ofList_eq_empty_iff.1 hempty]
  value_plain := by
    refine List.forall_mem_map.2 fun v hv => ?_
    rw [String.toList_ofList]
    exact comma_notMem_of_mem_splitOn hv
  numeric hn := by
    obtain ⟨hone, hint⟩ := hnumeric hn
    refine ⟨String.ofList t.operand, ?_, by rwa [String.toList_ofList]⟩
    rw [ofParts, hone, List.map_singleton]

theorem writable_or_unfit (text : List Char) (t : Token) :
    (∃ m : Matcher, m.Writable ∧ m.token = t) ∨ ∃ e, Unfit text t e := by
  by_cases hkey : String.ofList t.key ∈ keys
  case neg => exact .inr ⟨_, .unknownKey hkey⟩
  by_cases hvalue : [] ∈ t.operand.splitOn ','
  case pos => exact .inr ⟨_, .emptyValue hkey hvalue⟩
  by_cases hnumeric : t.operator.isNumeric = true
  case neg =>
    have w := writable_ofParts hkey hvalue fun hn => absurd hn hnumeric
    exact .inl ⟨ofParts t, w, token_ofParts t⟩
  by_cases hcount : (t.operand.splitOn ',').length = 1
  case neg => exact .inr ⟨_, .valueCount hkey hvalue hnumeric hcount⟩
  -- the only value is the operand itself
  obtain ⟨v, hv⟩ := List.length_eq_one_iff.1 hcount
  have hsingle : ',' ∉ v := comma_notMem_of_mem_splitOn (hv ▸ List.mem_singleton_self v)
  obtain rfl : v = t.operand := by
    have hjoin : [','].intercalate (t.operand.splitOn ',') = t.operand :=
      List.intercalate_splitOn ','
    rwa [hv, List.intercalate_singleton] at hjoin
  by_cases hint : Decimal.IsInt64 t.operand
  · have w := writable_ofParts hkey hvalue fun _ => ⟨hv, hint⟩
    exact .inl ⟨ofParts t, w, token_ofParts t⟩
  · refine .inr ⟨_, .notInteger hkey (fun hnil => ?_) hnumeric hsingle hint⟩
    exact hvalue (hv ▸ hnil ▸ List.mem_singleton_self _)

theorem outcome_ofToken (text : List Char) (t : Token) :
    (∀ m, ofToken text t = .ok m ↔ m.Writable ∧ m.token = t) ∧
      ∀ e, ofToken text t = .error e ↔ Unfit text t e := by
  refine outcome_iff ?_ (fun _ => ofToken_of_unfit) (writable_or_unfit text t)
  rintro m ⟨w, rfl⟩
  exact ofToken_of_writable w

/-- The matcher is written as a token: its key up to the first character at which an operator
starts, its operator, and its values with commas between them. -/
def WrittenAs (m : Matcher) (text : List Char) : Prop := m.Writable ∧ Token.Cut text m.token

end Matcher

/-! ## Percentages -/

namespace Adjustment

/-- The percentage that an operand states. -/
def Stated (operand : List Char) (a : Adjustment) : Prop :=
  ∃ sign whole fraction, Written operand sign whole fraction ∧
    let x := Decimal.ofScientific (Decimal.value 0 (whole ++ fraction)) (-fraction.length)
    a.percent = if sign = ['-'] then -x else x

theorem splitSign_written {sign whole : List Char} (hsign : sign ∈ [[], ['+'], ['-']])
    (hwhole : Decimal.isDigits whole = true) (point : List Char) :
    Decimal.splitSign (sign ++ (whole ++ point)) = (decide (sign = ['-']), whole ++ point) := by
  simp only [List.mem_cons, List.not_mem_nil, or_false] at hsign
  rcases hsign with rfl | rfl | rfl
  · exact Decimal.splitSign_digits hwhole point
  · rfl
  · rfl

/-- The digits before the point and what follows on them. -/
theorem span_point {whole point : List Char} (hwhole : Decimal.isDigits whole = true)
    (hpoint : point = [] ∨ ∃ fraction, point = '.' :: fraction) :
    (whole ++ point).takeWhile (· != '.') = whole ∧
      (whole ++ point).dropWhile (· != '.') = point := by
  have hne := Decimal.ne_point_of_isDigits hwhole
  rw [List.takeWhile_append_of_pos hne, List.dropWhile_append_of_pos hne]
  rcases hpoint with rfl | ⟨fraction, rfl⟩
  · exact ⟨List.append_nil whole, rfl⟩
  · exact ⟨List.append_nil whole, rfl⟩

theorem read_of_stated {operand : List Char} {a : Adjustment} (h : Stated operand a) :
    read operand = .ok a := by
  obtain ⟨sign, whole, fraction, ⟨hsign, hwhole, htext⟩, hpercent⟩ := h
  obtain ⟨percent⟩ := a
  obtain rfl : percent = _ := hpercent
  unfold read
  rcases htext with ⟨rfl, rfl⟩ | ⟨hfraction, rfl⟩
  · obtain ⟨htake, hdrop⟩ := span_point hwhole (.inl rfl)
    have htext : sign ++ (whole ++ ['%']) = sign ++ (whole ++ []) ++ ['%'] := by simp
    rw [htext, Text.before?_append]
    simp only [splitSign_written hsign hwhole, htake, hdrop, hwhole, decide_eq_true_eq,
      Decimal.value_append]
  · obtain ⟨htake, hdrop⟩ := span_point hwhole (.inr ⟨fraction, rfl⟩)
    have htext : sign ++ (whole ++ '.' :: (fraction ++ ['%'])) =
        sign ++ (whole ++ '.' :: fraction) ++ ['%'] := by simp
    rw [htext, Text.before?_append]
    simp only [splitSign_written hsign hwhole, htake, hdrop, hwhole, hfraction, if_true,
      decide_eq_true_eq, Decimal.value_append]

theorem read_eq_ok_iff {operand : List Char} {a : Adjustment} :
    read operand = .ok a ↔ Stated operand a :=
  ⟨written_of_read, read_of_stated⟩

theorem eq_malformed_of_read {operand : List Char} {e : PreferenceError}
    (h : read operand = .error e) : e = .malformedAdjustment (String.ofList operand) := by
  unfold read at h
  dsimp only at h
  repeat' split at h
  all_goals cases h
  all_goals rfl

theorem read_eq_error_iff {operand : List Char} {e : PreferenceError} :
    read operand = .error e ↔
      (∀ a, ¬ Stated operand a) ∧ e = .malformedAdjustment (String.ofList operand) := by
  constructor
  · intro h
    refine ⟨fun a ha => ?_, eq_malformed_of_read h⟩
    cases (read_of_stated ha).symm.trans h
  · rintro ⟨hnone, rfl⟩
    cases h : read operand with
    | error e => rw [eq_malformed_of_read h]
    | ok a => exact absurd (read_eq_ok_iff.1 h) (hnone a)

/-- The adjustment is written as a token: `adjust=[+-]N%`. -/
def WrittenAs (a : Adjustment) (text : List Char) : Prop :=
  ∃ operand, text = "adjust=".toList ++ operand ∧ Stated operand a

end Adjustment
end PriceOverlay
