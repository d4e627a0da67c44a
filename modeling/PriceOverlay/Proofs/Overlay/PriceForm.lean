import PriceOverlay.Proofs.Overlay.Prices
import PriceOverlay.Proofs.Preference.Tokens
/-!
# The form of prices

Prices are looked at twice: an annotation states one for its preference to be read from, and an
overlay has one that is checked before it is written. The reader parts the text at its first point
and wants digits on both sides; the check looks at the ends, at every character, and at how many
points there are. Both accept an optional sign, digits with at most one point between two of them,
and a percent sign.

**Results**
* `Overlay.isMagnitude_iff`: what the check accepts between sign and percent sign.
* `Adjustment.exists_written_iff`, `Adjustment.exists_read_iff`: what is read is a sign, such digits
  and a percent sign.
* `Overlay.isPrice_iff_read`: the check accepts what the reader reads.
-/
namespace PriceOverlay

namespace Overlay

/-- Digits and points without a point are digits. -/
theorem isDigits_of_no_point {cs : List Char} (hne : cs ≠ [])
    (hcs : ∀ c ∈ cs, (Decimal.isDigit c || c == '.') = true) (hpoint : '.' ∉ cs) :
    Decimal.isDigits cs = true := by
  refine Decimal.isDigits_iff.2 ⟨hne, fun c hc => ?_⟩
  refine (Bool.or_eq_true_iff.1 (hcs c hc)).resolve_right fun heq => hpoint ?_
  rwa [← beq_iff_eq.1 heq]

theorem isMagnitude_iff {cs : List Char} : isMagnitude cs = true ↔ Decimal.IsDecimal cs := by
  refine ⟨fun h => ?_, isMagnitude_of_isDecimal⟩
  simp only [isMagnitude, Bool.and_eq_true, Bool.not_eq_true', List.isEmpty_eq_false_iff,
    bne_iff_ne, decide_eq_true_eq, List.all_eq_true] at h
  obtain ⟨⟨⟨⟨hne, hhead⟩, hlast⟩, hall⟩, hcount⟩ := h
  by_cases hpoint : '.' ∈ cs
  · obtain ⟨whole, fraction, rfl⟩ := List.append_of_mem hpoint
    rw [List.count_append, List.count_cons_self] at hcount
    -- there is no second point on either side, and the ends are no points
    have hwhole : '.' ∉ whole := List.count_eq_zero.1 (by omega)
    have hfraction : '.' ∉ fraction := List.count_eq_zero.1 (by omega)
    have hwhole_ne : whole ≠ [] := by
      rintro rfl
      exact hhead rfl
    have hfraction_ne : fraction ≠ [] := by
      rintro rfl
      exact hlast List.getLast?_concat
    rw [List.forall_mem_append, List.forall_mem_cons] at hall
    have hw := Decimal.isDigits_iff.1 (isDigits_of_no_point hwhole_ne hall.1 hwhole)
    have hf := Decimal.isDigits_iff.1 (isDigits_of_no_point hfraction_ne hall.2.2 hfraction)
    exact ⟨whole, fraction, List.forall_mem_append.2 ⟨hw.2, hf.2⟩, hwhole_ne,
      .inr ⟨hfraction_ne, rfl⟩⟩
  · have hdigits := Decimal.isDigits_iff.1 (isDigits_of_no_point hne hall hpoint)
    exact ⟨cs, [], by simpa using hdigits.2, hne, .inl rfl⟩

end Overlay

namespace Decimal

theorem isDecimal_iff {cs : List Char} : IsDecimal cs ↔ ∃ whole fraction, isDigits whole = true ∧
    (fraction = [] ∧ cs = whole ∨ isDigits fraction = true ∧ cs = whole ++ '.' :: fraction) := by
  simp only [IsDecimal, isDigits_iff, List.forall_mem_append]
  constructor
  · rintro ⟨whole, fraction, ⟨hwhole, hfraction⟩, hne, rfl | ⟨hfne, rfl⟩⟩
    · exact ⟨cs, [], ⟨hne, hwhole⟩, .inl ⟨rfl, rfl⟩⟩
    · exact ⟨whole, fraction, ⟨hne, hwhole⟩, .inr ⟨⟨hfne, hfraction⟩, rfl⟩⟩
  · rintro ⟨whole, fraction, ⟨hne, hwhole⟩, ⟨rfl, rfl⟩ | ⟨⟨hfne, hfraction⟩, rfl⟩⟩
    · exact ⟨cs, [], ⟨hwhole, List.forall_mem_nil _⟩, hne, .inl rfl⟩
    · exact ⟨whole, fraction, ⟨hwhole, hfraction⟩, hne, .inr ⟨hfne, rfl⟩⟩

/-- Before a point or at the end, digits are no sign. -/
theorem splitSign_isDecimal {sign cs : List Char} (hsign : sign ∈ [[], ['+'], ['-']])
    (hcs : IsDecimal cs) : (splitSign (sign ++ cs)).2 = cs := by
  obtain ⟨whole, fraction, hwhole, ⟨-, rfl⟩ | ⟨-, rfl⟩⟩ := isDecimal_iff.1 hcs
  · have h := Adjustment.splitSign_written hsign hwhole []
    rw [List.append_nil] at h
    rw [h]
  · rw [Adjustment.splitSign_written hsign hwhole]

theorem splitSign_snd (cs : List Char) : (splitSign cs).2 =
    match cs with
    | '+' :: r => r
    | '-' :: r => r
    | r => r := by
  unfold splitSign
  split
  · rfl
  · rfl
  · rename_i hminus hplus
    split
    · exact absurd rfl (hplus _)
    · exact absurd rfl (hminus _)
    · rfl

end Decimal

namespace Adjustment

theorem exists_written_iff {operand sign : List Char} :
    (∃ whole fraction, Written operand sign whole fraction) ↔
      sign ∈ [[], ['+'], ['-']] ∧ ∃ cs, Decimal.IsDecimal cs ∧ operand = sign ++ cs ++ ['%'] := by
  simp only [Decimal.isDecimal_iff]
  constructor
  · rintro ⟨whole, fraction, hsign, hwhole, ⟨rfl, rfl⟩ | ⟨hfraction, rfl⟩⟩
    · exact ⟨hsign, whole, ⟨whole, [], hwhole, .inl ⟨rfl, rfl⟩⟩, by simp⟩
    · exact ⟨hsign, _, ⟨whole, fraction, hwhole, .inr ⟨hfraction, rfl⟩⟩, by simp⟩
  · rintro ⟨hsign, cs, ⟨whole, fraction, hwhole, ⟨rfl, rfl⟩ | ⟨hfraction, rfl⟩⟩, rfl⟩
    · exact ⟨cs, [], hsign, hwhole, .inl ⟨rfl, by simp⟩⟩
    · exact ⟨whole, fraction, hsign, hwhole, .inr ⟨hfraction, by simp⟩⟩

/-- An operand of that form states a percentage, and no other does. -/
theorem exists_read_iff {operand : List Char} :
    (∃ a, read operand = .ok a) ↔ ∃ sign whole fraction, Written operand sign whole fraction := by
  simp only [read_eq_ok_iff, Stated]
  constructor
  · rintro ⟨a, sign, whole, fraction, w, -⟩
    exact ⟨sign, whole, fraction, w⟩
  · rintro ⟨sign, whole, fraction, w⟩
    exact ⟨⟨_⟩, sign, whole, fraction, w, rfl⟩

end Adjustment

namespace Overlay

theorem isPrice_eq (s : String) :
    isPrice s = (Text.before? ['%'] s.toList).any fun body =>
      isMagnitude (Decimal.splitSign body).2 := by
  unfold isPrice
  split <;> rename_i h <;> rw [h]
  · rfl
  · exact congrArg isMagnitude (Decimal.splitSign_snd _).symm

theorem isPrice_iff {s : String} : isPrice s = true ↔ ∃ sign, sign ∈ [[], ['+'], ['-']] ∧
    ∃ cs, Decimal.IsDecimal cs ∧ s.toList = sign ++ cs ++ ['%'] := by
  simp only [isPrice_eq, Option.any_eq_true, isMagnitude_iff]
  constructor
  · rintro ⟨body, hbody, hdecimal⟩
    obtain ⟨sign, hsign, heq, -⟩ := Decimal.splitSign_cases body
    refine ⟨sign, hsign, _, hdecimal, ?_⟩
    rw [← heq]
    exact Text.eq_append_of_before? hbody
  · rintro ⟨sign, hsign, cs, hcs, heq⟩
    refine ⟨sign ++ cs, heq ▸ Text.before?_append _ _, ?_⟩
    rwa [Decimal.splitSign_isDecimal hsign hcs]

/-- **One form of prices.** The check of an overlay accepts a price exactly if it is one that is
read from an annotation, and both accept one form: an optional sign, digits, a point and more digits
if there is a point, and a percent sign. -/
theorem isPrice_iff_read (s : String) :
    (isPrice s = true ↔ ∃ a, Adjustment.read s.toList = .ok a) ∧
      (isPrice s = true ↔
        ∃ sign whole fraction, Adjustment.Written s.toList sign whole fraction) := by
  simp only [Adjustment.exists_read_iff, Adjustment.exists_written_iff, isPrice_iff, and_self]

example : ["5%", "-12.5%", "+007%"].all isPrice = true ∧
    ["%", "5", "+-5%", "5.%", ".5%", "1.2.3%", "5%%", "٥%", "1e3%"].any isPrice = false := by
  decide +kernel

end Overlay
end PriceOverlay
