import Mathlib.Data.List.Induction
import PriceOverlay.Overlay.Basic
import PriceOverlay.Preference.Reader
/-!
# What a preference that was read stands for

A token is cut into a key, an operator and an operand and nothing of it is lost. Each matcher that
is read states a requirement without a fault, and the adjustment is that of the only `adjust` token.

**Results**
* `Token.of_read`: the parts of a token.
* `Matcher.fault?_of_ofToken`: what is read as a matcher states a sound requirement.
* `Preference.of_read`: what an annotation that was read consists of.
-/
namespace PriceOverlay

/-- What holds at the start and is kept by each step that succeeds holds after a run. -/
theorem foldlM_induction {σ α ε : Type} {step : σ → α → Except ε σ} {start : σ}
    {P : List α → σ → Prop} (hstart : P [] start)
    (hstep : ∀ xs x s t, P xs s → step s x = .ok t → P (xs ++ [x]) t) {xs : List α} {t : σ}
    (h : xs.foldlM step start = .ok t) : P xs t := by
  -- from the last element: the state before it is that of the elements before it
  induction xs using List.reverseRecOn generalizing t with
  | nil =>
    cases h
    exact hstart
  | append_singleton xs x ih =>
    rw [List.foldlM_append] at h
    cases hr : xs.foldlM step start with
    | error e =>
      rw [hr] at h
      cases h
    | ok s =>
      simp only [hr, List.foldlM_cons, List.foldlM_nil, bind_pure] at h
      exact hstep xs x s t (ih hr) h

/-! ## Tokens -/

namespace Token

/-- A token is its key, which has no character of an operator, its operator and its operand. -/
theorem of_read {token : List Char} {t : Token} (h : read token = .ok t) :
    t.key = token.takeWhile (!startsOperator ·) ∧
      token = t.key ++ (t.operator.symbol.toList ++ t.operand) := by
  have hcut := List.takeWhile_append_dropWhile (p := (!startsOperator ·)) (l := token)
  unfold read at h
  dsimp only at h
  split at h
  · cases h
  · split at h <;> cases h
    all_goals
      rename_i hd
      rw [hd] at hcut
      exact ⟨rfl, by simp [MatchOperator.symbol, hcut]⟩

end Token

/-! ## Matchers -/

namespace Matcher

theorem fault?_requirement {m : Matcher} (hk : m.key.isEmpty = false) (hv : m.values ≠ [])
    (hn : m.operator.isNumeric = true →
      ∃ v, m.values = [v] ∧ (Decimal.int64? v.toList).isSome = true) :
    m.requirement.fault? = none := by
  obtain ⟨key, operator, values⟩ := m
  have hempty : values.isEmpty = false := List.isEmpty_eq_false_iff.2 hv
  cases operator with
  | oneOf | noneOf =>
    simp [requirement, Requirement.fault?, MatchOperator.comparison, hk, hempty]
  | above | below =>
    obtain ⟨v, rfl, hint⟩ := hn rfl
    simp [requirement, Requirement.fault?, MatchOperator.comparison, hk, hint]

/-- What is read as a matcher states a sound requirement. -/
theorem fault?_of_ofToken {text : List Char} {t : Token} {m : Matcher}
    (h : ofToken text t = .ok m) : m.requirement.fault? = none := by
  have hkeys : ∀ k ∈ keys, k.isEmpty = false := by decide
  have hvalues : (t.operand.splitOn ',').map String.ofList ≠ [] := by
    simp
  unfold ofToken at h
  dsimp only at h
  split at h
  · cases h
  rename_i hkey
  have hkey : (String.ofList t.key).isEmpty = false := hkeys _ (by simpa using hkey)
  split at h
  · cases h
  split at h
  · split at h
    · rename_i v hv
      split at h
      · rename_i hint
        cases h
        exact fault?_requirement hkey hvalues fun _ => ⟨v, hv, hint⟩
      · cases h
    · cases h
  · rename_i hnumeric
    cases h
    exact fault?_requirement hkey hvalues fun hn => absurd hn hnumeric

end Matcher

/-! ## Annotations -/

namespace Token

/-- What an `adjust` token has after the equals sign; none for another token. -/
def operand? (token : List Char) : Option (List Char) := Text.after? "adjust=".toList token

theorem operand?_of_read {token : List Char} {t : Token} (h : read token = .ok t) :
    operand? token =
      if t.key = "adjust".toList ∧ t.operator = .oneOf then some t.operand else none := by
  obtain ⟨hkey, htoken⟩ := of_read h
  unfold operand? Text.after?
  split
  · rename_i hprefix
    obtain ⟨r, rfl⟩ := List.isPrefixOf_iff_prefix.1 hprefix
    have hadjust : t.key = "adjust".toList := hkey.trans (by simp [startsOperator])
    have hrest : '=' :: r = t.operator.symbol.toList ++ t.operand := by
      rw [hadjust] at htoken
      simpa using htoken
    have hoperator : t.operator = .oneOf := by
      cases ho : t.operator <;> rw [ho] at hrest <;> simp [MatchOperator.symbol] at hrest ⊢
    rw [hoperator] at hrest
    rw [if_pos ⟨hadjust, hoperator⟩]
    simpa [MatchOperator.symbol] using hrest
  · rename_i hprefix
    refine (if_neg fun hadjust => hprefix ?_).symm
    rw [List.isPrefixOf_iff_prefix, htoken, hadjust.1, hadjust.2]
    exact ⟨t.operand, by simp [MatchOperator.symbol]⟩

end Token

namespace Preference

/-- What the `adjust` tokens of an annotation have after the equals sign. -/
def operands (value : String) : List (List Char) :=
  (Text.words value.toList).filterMap Token.operand?

namespace Draft

theorem of_add {d d' : Draft} {token : List Char} (h : d.add token = .ok d') :
    (∃ m, Token.operand? token = none ∧ m.requirement.fault? = none ∧
        d' = { d with matchers := d.matchers ++ [m] }) ∨
      ∃ operand a, Token.operand? token = some operand ∧ Adjustment.read operand = .ok a ∧
        d.adjustment = none ∧ d' = { d with adjustment := some a } := by
  unfold add at h
  cases ht : Token.read token with
  | error e =>
    rw [ht] at h
    cases h
  | ok t =>
    have hoperand := Token.operand?_of_read ht
    rw [ht] at h
    simp only [bind, Except.bind] at h
    split at h
    · -- a token with this key is the adjustment or an error, never a matcher
      rename_i hkey
      split at h
      · cases h
      · split at h
        · cases h
        · rename_i hoperator hnone
          rw [if_pos ⟨hkey, Decidable.not_not.1 hoperator⟩] at hoperand
          split at h
          · cases h
          · rename_i a ha
            cases h
            exact .inr ⟨t.operand, a, hoperand, ha, by simpa using hnone, rfl⟩
    · rename_i hkey
      rw [if_neg fun hadjust => hkey hadjust.1] at hoperand
      split at h
      · cases h
      · rename_i m hm
        cases h
        exact .inl ⟨m, hoperand, Matcher.fault?_of_ofToken hm, rfl⟩

/-- What the tokens read so far have given: matchers without a fault, and the adjustment of the only
`adjust` token, if there was one. -/
structure Reads (tokens : List (List Char)) (d : Draft) : Prop where
  sound : ∀ m ∈ d.matchers, m.requirement.fault? = none
  adjusts : d.adjustment = none ∧ tokens.filterMap Token.operand? = [] ∨
    ∃ operand a, d.adjustment = some a ∧ Adjustment.read operand = .ok a ∧
      tokens.filterMap Token.operand? = [operand]

theorem reads_add {tokens : List (List Char)} {d d' : Draft} {token : List Char}
    (hd : d.Reads tokens) (h : d.add token = .ok d') : d'.Reads (tokens ++ [token]) := by
  rcases of_add h with ⟨m, hoperand, hsound, rfl⟩ | ⟨operand, a, hoperand, ha, hnone, rfl⟩
  · refine ⟨?_, ?_⟩
    · exact List.forall_mem_append.2 ⟨hd.sound, List.forall_mem_singleton.2 hsound⟩
    · simpa [List.filterMap_append, hoperand] using hd.adjusts
  · refine ⟨hd.sound, .inr ⟨operand, a, rfl, ha, ?_⟩⟩
    rcases hd.adjusts with ⟨-, hempty⟩ | ⟨_, b, hb, -⟩
    · simp [List.filterMap_append, hoperand, hempty]
    · cases hnone.symm.trans hb

theorem reads_foldlM {tokens : List (List Char)} {d : Draft}
    (h : tokens.foldlM add ⟨[], none⟩ = .ok d) : d.Reads tokens := by
  have hstart : Reads [] ⟨[], none⟩ := ⟨fun _ hm => (by cases hm), .inl ⟨rfl, rfl⟩⟩
  exact foldlM_induction (P := Reads) hstart (fun _ _ _ _ hd hadd => reads_add hd hadd) h

end Draft

/-- A preference that was read has what its tokens have given, and the NodePool and the number that
it was read for. -/
theorem exists_draft_of_read {nodePool : String} {n : Nat} {value : String} {p : Preference}
    (h : read nodePool n value = .ok p) :
    ∃ d a, (Text.words value.toList).foldlM Draft.add ⟨[], none⟩ = .ok d ∧
      d.adjustment = some a ∧ p = ⟨n, nodePool, d.matchers, a⟩ := by
  unfold read at h
  cases hd : (Text.words value.toList).foldlM Draft.add ⟨[], none⟩ with
  | error e =>
    simp only [hd] at h
    cases h
  | ok d =>
    simp only [hd, bind, Except.bind] at h
    split at h
    · cases h
    · split at h
      · cases h
      · rename_i a ha
        split at h
        · cases h
        · cases h
          exact ⟨d, a, rfl, ha, rfl⟩

/-- **Reading.** The matchers of a preference that was read have no fault, and its adjustment is
read from the operand of the only `adjust` token. -/
theorem of_read {nodePool : String} {n : Nat} {value : String} {p : Preference}
    (h : read nodePool n value = .ok p) :
    (∀ m ∈ p.matchers, m.requirement.fault? = none) ∧
      ∃ operand, operands value = [operand] ∧ Adjustment.read operand = .ok p.adjustment := by
  obtain ⟨d, a, hd, ha, rfl⟩ := exists_draft_of_read h
  obtain ⟨hsound, hadjusts⟩ := Draft.reads_foldlM hd
  refine ⟨hsound, ?_⟩
  rcases hadjusts with ⟨hnone, -⟩ | ⟨operand, b, hb, hread, hone⟩
  · cases hnone.symm.trans ha
  · cases hb.symm.trans ha
    exact ⟨operand, hone, hread⟩

end Preference
end PriceOverlay
