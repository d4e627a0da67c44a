import PriceOverlay.Overlay.Basic
import PriceOverlay.Preference.Basic
import PriceOverlay.Proofs.Overlay.Names
/-!
# Price texts of adjustments

An adjustment is written as a sign, the digits of its percentage and a percent sign, and an overlay
is checked to have a price of that form. The two agree on every percentage that is a number; an
infinite one is written `inf`, which is no price.

**Results**
* `isDecimal_positional`: positional digits have at most one point, and it stands between digits.
* `isPrice_text_iff`: which adjustments are written as prices.
-/
namespace PriceOverlay

open Float.Model (UnpackedFloat)

namespace Decimal

theorem unpack_zero : (0 : Float).toModel.unpack = .zero .positive := by rfl

theorem zero_lt_iff (x : Float) :
    0 < x ↔ UnpackedFloat.lt (.zero .positive) x.toModel.unpack = true := by
  rw [← unpack_zero]
  exact decide_eq_true_iff

theorem lt_zero_iff (x : Float) :
    x < 0 ↔ UnpackedFloat.lt x.toModel.unpack (.zero .positive) = true := by
  rw [← unpack_zero]
  exact decide_eq_true_iff

/-! ## Positional digits -/

/-- Digits with at most one point, which stands between two of them. -/
def IsDecimal (cs : List Char) : Prop :=
  ∃ xs ys, (∀ c ∈ xs ++ ys, isDigit c = true) ∧ xs ≠ [] ∧
    (cs = xs ∨ ys ≠ [] ∧ cs = xs ++ '.' :: ys)

theorem isDecimal_positional {ds : List Char} (hne : ds ≠ []) (hds : ∀ c ∈ ds, isDigit c = true)
    (e : Int) : IsDecimal (positional ds e) := by
  have hzeros : ∀ n, ∀ c ∈ List.replicate n '0', isDigit c = true := fun n c hc => by
    rw [List.eq_of_mem_replicate hc]
    decide
  unfold positional
  split
  · refine ⟨ds ++ List.replicate e.toNat '0', [], ?_, by simp [hne], .inl rfl⟩
    simp only [List.append_nil, List.forall_mem_append]
    exact ⟨hds, hzeros _⟩
  · dsimp only
    generalize hp : List.replicate ((-e).toNat + 1 - ds.length) '0' ++ ds = padded
    have hlen : (-e).toNat < padded.length := by
      rw [← hp, List.length_append, List.length_replicate]
      omega
    refine ⟨padded.take (padded.length - (-e).toNat), padded.drop (padded.length - (-e).toNat),
      ?_, ?_, .inr ⟨?_, rfl⟩⟩
    · rw [List.take_append_drop, ← hp]
      exact List.forall_mem_append.2 ⟨hzeros _, hds⟩
    · rw [← List.length_pos_iff, List.length_take]
      omega
    · rw [← List.length_pos_iff, List.length_drop]
      omega

end Decimal

namespace Text

theorem before?_append (cs finish : List Char) : before? finish (cs ++ finish) = some cs := by
  unfold before?
  rw [if_pos (by rw [List.isSuffixOf_iff_suffix]; exact List.suffix_append cs finish)]
  simp

end Text

namespace Overlay

/-- What a price has between its sign and the percent sign. -/
def isMagnitude (cs : List Char) : Bool :=
  !cs.isEmpty && cs.head? != some '.' && cs.getLast? != some '.' &&
    cs.all (fun c => Decimal.isDigit c || c == '.') && decide (cs.count '.' ≤ 1)

theorem isMagnitude_of_isDecimal {cs : List Char} (h : Decimal.IsDecimal cs) :
    isMagnitude cs = true := by
  obtain ⟨xs, ys, hdigits, hxs, hcs⟩ := h
  have hpoint : ∀ c ∈ xs ++ ys, c ≠ '.' := fun c hc h => by
    have := hdigits c hc
    rw [h] at this
    exact absurd this (by decide)
  simp only [List.forall_mem_append] at hdigits hpoint
  have hcount : ∀ {zs : List Char}, (∀ c ∈ zs, c ≠ '.') → zs.count '.' = 0 := fun hz =>
    List.count_eq_zero.2 fun hm => hz _ hm rfl
  obtain ⟨x, xs', rfl⟩ := List.exists_cons_of_ne_nil hxs
  unfold isMagnitude
  simp only [Bool.and_eq_true, decide_eq_true_eq, List.all_eq_true, bne_iff_ne, ne_eq]
  rcases hcs with rfl | ⟨hys, rfl⟩
  · refine ⟨⟨⟨⟨rfl, ?_⟩, ?_⟩, ?_⟩, ?_⟩
    · exact fun h => hpoint.1 x List.mem_cons_self (Option.some.inj h)
    · exact fun h => hpoint.1 '.' (List.mem_of_getLast? h) rfl
    · exact fun c hc => by rw [hdigits.1 c hc]; rfl
    · rw [hcount hpoint.1]
      exact Nat.zero_le 1
  · refine ⟨⟨⟨⟨rfl, ?_⟩, ?_⟩, ?_⟩, ?_⟩
    · exact fun h => hpoint.1 x List.mem_cons_self (Option.some.inj h)
    · rw [List.append_cons]
      exact fun h => hpoint.2 '.' (Text.mem_of_getLast?_append hys (Option.mem_def.2 h)) rfl
    · intro c hc
      rcases List.mem_append.1 hc with hc | hc
      · rw [hdigits.1 c hc]
        rfl
      · rcases List.mem_cons.1 hc with rfl | hc
        · rfl
        · rw [hdigits.2 c hc]
          rfl
    · simp only [List.count_append, List.count_cons_self, hcount hpoint.1, hcount hpoint.2,
        Nat.zero_add, Nat.le_refl]

/-- A sign, such digits and a percent sign are a price. -/
theorem isPrice_signed {c : Char} {cs : List Char} (hc : c = '+' ∨ c = '-')
    (hcs : Decimal.IsDecimal cs) : isPrice (String.ofList (c :: cs ++ ['%'])) = true := by
  have hmag := isMagnitude_of_isDecimal hcs
  unfold isPrice
  rw [String.toList_ofList, Text.before?_append]
  rcases hc with rfl | rfl
  · exact hmag
  · exact hmag

end Overlay

namespace Adjustment

/-- The digits of a percentage that is a number other than zero. -/
def digits (m : Nat) (e : Int) : List Char :=
  Decimal.positional (Decimal.digits (Decimal.shortest .up m e).digits)
    (Decimal.shortest .up m e).exponent

section

variable {a : Adjustment} {m : Nat} {e : Int} {hm : 0 < m}

theorem text_of_positive (h : a.percent.toModel.unpack = .finite .positive m e hm) :
    a.text = String.ofList ('+' :: digits m e ++ ['%']) := by
  have hpos : 0 < a.percent := by rw [Decimal.zero_lt_iff, h]; rfl
  have hplain : Decimal.plain a.percent = String.ofList (digits m e) := by
    unfold Decimal.plain Decimal.isNegative
    rw [h]
    rfl
  rw [text, if_pos hpos, hplain]
  apply String.toList_inj.1
  simp

theorem text_of_negative (h : a.percent.toModel.unpack = .finite .negative m e hm) :
    a.text = String.ofList ('-' :: digits m e ++ ['%']) := by
  have hpos : ¬ 0 < a.percent := by rw [Decimal.zero_lt_iff, h]; exact Bool.false_ne_true
  have hneg : a.percent < 0 := by rw [Decimal.lt_zero_iff, h]; rfl
  have hplain : Decimal.plain a.percent = String.ofList ('-' :: digits m e) := by
    unfold Decimal.plain Decimal.isNegative
    rw [h]
    rfl
  rw [text, if_neg hpos, if_pos hneg, hplain]
  apply String.toList_inj.1
  simp

end

theorem isDecimal_digits (m : Nat) (e : Int) : Decimal.IsDecimal (digits m e) :=
  Decimal.isDecimal_positional (Decimal.digits_ne_nil _) (fun _ => Decimal.isDigit_of_mem_digits) _

/-- **Prices.** An adjustment is written as a price exactly if its percentage is not infinite. -/
theorem isPrice_text_iff (a : Adjustment) :
    Overlay.isPrice a.text = true ↔ a.percent.isInf = false := by
  have hinf : a.percent.isInf = a.percent.toModel.unpack.isInf := rfl
  rw [hinf]
  cases h : a.percent.toModel.unpack with
  | finite s m e hm =>
    refine iff_of_true ?_ rfl
    cases s with
    | positive =>
      rw [text_of_positive h]
      exact Overlay.isPrice_signed (.inl rfl) (isDecimal_digits m e)
    | negative =>
      rw [text_of_negative h]
      exact Overlay.isPrice_signed (.inr rfl) (isDecimal_digits m e)
  | notANumber =>
    unfold text Decimal.plain
    simp only [Decimal.zero_lt_iff, Decimal.lt_zero_iff, h]
    decide
  | zero s | infinity s =>
    unfold text Decimal.plain Decimal.isNegative
    simp only [Decimal.zero_lt_iff, Decimal.lt_zero_iff, h]
    cases s <;> decide

end Adjustment
end PriceOverlay
