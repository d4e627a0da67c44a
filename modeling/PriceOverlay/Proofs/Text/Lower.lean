import Mathlib.Data.List.Basic
import PriceOverlay.Text.Lower
/-!
# Lower case

A text in lower case has no capital, and is its own lower case.

**Results**
* `lower_of_mem_lower`: what is in lower case stays as it is.
* `not_capital_of_mem_lower`: it is no capital.
-/
namespace PriceOverlay.Text

theorem toNat_smallLetter {d : Char} (h : 'A' ≤ d ∧ d ≤ 'Z') :
    (Char.ofNat (d.toNat + 32)).toNat = d.toNat + 32 := by
  have hhigh : d.toNat ≤ 90 := h.2
  have hvalid : (d.toNat + 32).isValidChar := .inl (by omega)
  rw [Char.ofNat, dif_pos hvalid]
  rfl

/-- What is in lower case stays as it is. -/
theorem lower_of_mem_lower {c d : Char} (h : c ∈ lower d) : lower c = [c] := by
  unfold lower at h
  split at h
  · rename_i hd
    have hlow : 65 ≤ d.toNat := hd.1
    have hhigh : d.toNat ≤ 90 := hd.2
    have hc : c.toNat = d.toNat + 32 := by rw [List.mem_singleton.1 h, toNat_smallLetter hd]
    have hcapital : ¬ ('A' ≤ c ∧ c ≤ 'Z') := by
      rintro ⟨-, hz⟩
      have hz : c.toNat ≤ 90 := hz
      omega
    have hdotted : c ≠ '\u0130' := by
      rintro rfl
      have hc : 0x130 = d.toNat + 32 := hc
      omega
    have hkelvin : c ≠ '\u212A' := by
      rintro rfl
      have hc : 0x212A = d.toNat + 32 := hc
      omega
    rw [lower, if_neg hcapital, if_neg hdotted, if_neg hkelvin]
  · rename_i hcapital
    split at h
    · rcases List.mem_pair.1 h with rfl | rfl <;> decide
    · rename_i hdotted
      split at h
      · rw [List.mem_singleton.1 h]
        decide
      · rename_i hkelvin
        rw [List.mem_singleton.1 h, lower, if_neg hcapital, if_neg hdotted, if_neg hkelvin]

/-- No capital is in lower case. -/
theorem not_capital_of_mem_lower {c d : Char} (h : c ∈ lower d) : ¬ ('A' ≤ c ∧ c ≤ 'Z') := by
  intro hcapital
  have hself := lower_of_mem_lower h
  rw [lower, if_pos hcapital, List.cons.injEq] at hself
  have hnat := congrArg Char.toNat hself.1
  rw [toNat_smallLetter hcapital] at hnat
  omega

theorem mem_lowered {s : String} {c : Char} :
    c ∈ (lowered s).toList ↔ ∃ d ∈ s.toList, c ∈ lower d := by
  rw [lowered, String.toList_ofList, List.mem_flatMap]

theorem lowered_eq_self {s : String} (h : ∀ c ∈ s.toList, lower c = [c]) : lowered s = s := by
  have hflat : s.toList.flatMap lower = s.toList := by
    rw [List.flatMap_congr h]
    exact List.flatMap_singleton' s.toList
  rw [lowered, hflat, String.ofList_toList]

theorem lower_of_mem_lowered {s : String} {c : Char} (h : c ∈ (lowered s).toList) :
    lower c = [c] := by
  obtain ⟨d, -, hc⟩ := mem_lowered.1 h
  exact lower_of_mem_lower hc

end PriceOverlay.Text
