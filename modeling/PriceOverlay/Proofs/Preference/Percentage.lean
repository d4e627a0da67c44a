import PriceOverlay.Preference.Reader
import PriceOverlay.Proofs.Decimal.Overflow
/-!
# The percentages that are read

The operand of an `adjust` token is an optional sign, digits with a point among them or none, and a
percent sign. Its digits tell whether a double can hold the percentage.

**Results**
* `Adjustment.written_of_read`: the form of an operand that is read, and the percentage.
* `Adjustment.isInf_of_read`: the operands that are read to an infinite percentage.
-/
namespace PriceOverlay

theorem Text.eq_append_of_before? {finish cs body : List Char} (h : before? finish cs = some body) :
    cs = body ++ finish := by
  unfold before? at h
  split at h
  · rename_i hsuffix
    cases h
    exact (List.suffix_iff_eq_append.1 (List.isSuffixOf_iff_suffix.1 hsuffix)).symm
  · cases h

namespace Decimal

theorem value_append (start : Nat) (xs ys : List Char) :
    value start (xs ++ ys) = value (value start xs) ys :=
  List.foldl_append

/-- A text is the sign that is split off and the rest. -/
theorem splitSign_cases (cs : List Char) : ∃ sign, sign ∈ [[], ['+'], ['-']] ∧
    cs = sign ++ (splitSign cs).2 ∧ ((splitSign cs).1 = true ↔ sign = ['-']) := by
  unfold splitSign
  split
  · exact ⟨['-'], by decide, rfl, by simp⟩
  · exact ⟨['+'], by decide, rfl, by simp⟩
  · exact ⟨[], by decide, rfl, by simp⟩

theorem isDigit_of_isDigits {cs : List Char} (h : isDigits cs = true) {c : Char} (hc : c ∈ cs) :
    isDigit c = true := by
  unfold isDigits at h
  rw [Bool.and_eq_true] at h
  exact List.all_eq_true.1 h.2 c hc

theorem ne_point_of_isDigits {cs : List Char} (h : isDigits cs = true) :
    ∀ c ∈ cs, (c != '.') = true := by
  intro c hc
  have hdigit := isDigit_of_isDigits h hc
  rw [bne_iff_ne]
  rintro rfl
  exact absurd hdigit (by decide)

theorem filter_isDigits {cs : List Char} (h : isDigits cs = true) : cs.filter isDigit = cs :=
  List.filter_eq_self.2 fun _ => isDigit_of_isDigits h

end Decimal

namespace Adjustment

/-- Whether the digits of an operand, those after the point as places, make a number that lies half
a unit or more above the greatest double. -/
def isTooGreat (operand : List Char) : Bool :=
  let places := ((operand.dropWhile (· != '.')).filter Decimal.isDigit).length
  decide (Decimal.overflow * 10 ^ places ≤ Decimal.value 0 (operand.filter Decimal.isDigit))

/-- The operands that are read: an optional sign, digits, a point and more digits if there is one,
and a percent sign. -/
structure Written (operand sign whole fraction : List Char) : Prop where
  sign_mem : sign ∈ [[], ['+'], ['-']]
  whole_digits : Decimal.isDigits whole = true
  text : fraction = [] ∧ operand = sign ++ (whole ++ ['%']) ∨
    Decimal.isDigits fraction = true ∧ operand = sign ++ (whole ++ '.' :: (fraction ++ ['%']))

theorem written_of_read {operand : List Char} {a : Adjustment} (h : read operand = .ok a) :
    ∃ sign whole fraction, Written operand sign whole fraction ∧
      let x := Decimal.ofScientific (Decimal.value 0 (whole ++ fraction)) (-fraction.length)
      a.percent = if sign = ['-'] then -x else x := by
  unfold read at h
  dsimp only at h
  split at h
  · cases h
  rename_i body hbody
  obtain ⟨sign, hsign, hbody', hneg⟩ := Decimal.splitSign_cases body
  obtain rfl := Text.eq_append_of_before? hbody
  generalize (Decimal.splitSign body).1 = negative at *
  generalize (Decimal.splitSign body).2 = magnitude at *
  have hcut := List.takeWhile_append_dropWhile (p := (· != '.')) (l := magnitude)
  have hpoint := List.head?_dropWhile_not (· != '.') magnitude
  generalize magnitude.dropWhile (· != '.') = rest at *
  generalize magnitude.takeWhile (· != '.') = whole at *
  subst hcut
  split at h
  · rename_i fraction hwhole hfraction
    cases h
    refine ⟨sign, whole, fraction, ⟨hsign, hwhole, ?_⟩, ?_⟩
    · rw [hbody']
      split at hfraction
      · cases hfraction
        left
        simp
      · split at hfraction
        · rename_i c r hr
          cases hfraction
          obtain rfl : c = '.' := by simpa using hpoint
          right
          simp [hr]
        · cases hfraction
    · simp only [Decimal.value_append, hneg]
  · cases h

variable {operand sign whole fraction : List Char}

theorem Written.filter_isDigit (w : Written operand sign whole fraction) :
    operand.filter Decimal.isDigit = whole ++ fraction := by
  have hsign : ∀ s ∈ [[], ['+'], ['-']], s.filter Decimal.isDigit = [] := by decide
  have hpercent : ['%'].filter Decimal.isDigit = [] := by decide
  have hpoint : ¬ Decimal.isDigit '.' = true := by decide
  rcases w.text with ⟨rfl, rfl⟩ | ⟨hfraction, rfl⟩
  · simp only [List.filter_append, hsign sign w.sign_mem, Decimal.filter_isDigits w.whole_digits,
      hpercent, List.nil_append]
  · simp only [List.filter_append, hsign sign w.sign_mem, Decimal.filter_isDigits w.whole_digits,
      List.filter_cons_of_neg hpoint, Decimal.filter_isDigits hfraction, hpercent, List.nil_append,
      List.append_nil]

/-- The digits after the point. -/
theorem Written.filter_dropWhile (w : Written operand sign whole fraction) :
    (operand.dropWhile (· != '.')).filter Decimal.isDigit = fraction := by
  have hsign : ∀ s ∈ [[], ['+'], ['-']], ∀ c ∈ s, (c != '.') = true := by simp
  have hwhole := Decimal.ne_point_of_isDigits w.whole_digits
  rcases w.text with ⟨rfl, rfl⟩ | ⟨hfraction, rfl⟩
  · rw [List.dropWhile_append_of_pos (hsign sign w.sign_mem), List.dropWhile_append_of_pos hwhole]
    rfl
  · rw [List.dropWhile_append_of_pos (hsign sign w.sign_mem), List.dropWhile_append_of_pos hwhole]
    show (fraction ++ ['%']).filter Decimal.isDigit = fraction
    rw [List.filter_append, Decimal.filter_isDigits hfraction]
    exact List.append_nil fraction

/-- **Infinite percentages.** The text of the operand tells whether it is read to one. -/
theorem isInf_of_read {a : Adjustment} (h : read operand = .ok a) :
    a.percent.isInf = isTooGreat operand := by
  obtain ⟨sign, whole, fraction, w, hpercent⟩ := written_of_read h
  have hinf : a.percent.isInf =
      (Decimal.ofScientific (Decimal.value 0 (whole ++ fraction)) (-fraction.length)).isInf := by
    rw [hpercent]
    split
    · exact Decimal.isInf_neg _
    · rfl
  rw [hinf, Bool.eq_iff_iff, Decimal.isInf_ofScientific_iff, isTooGreat, w.filter_isDigit,
    w.filter_dropWhile, decide_eq_true_iff]

end Adjustment
end PriceOverlay
