import Mathlib.Algebra.Order.Field.Rat
import Mathlib.Algebra.Order.Ring.Cast
import Mathlib.Data.Rat.Floor
import Mathlib.Tactic.Linarith
import PriceOverlay.Decimal.Exact
/-!
# Doubles in order

Doubles are compared by sign, exponent and mantissa. That is the order of the rational numbers they
stand for, because the exponent of a double is the least one that leaves it an integral mantissa of
53 bits: every finite double is a whole number of the least units, `2 ^ -1074`, and of two positive
ones that with the greater exponent has more of them.

**Results**
* `canonical_unpack`: the exponents and mantissas that bits stand for.
* `compare_scaled`: comparing exponents first compares the units.
* `lt_iff`: finite doubles are in the order of their values.
* `le_roundEven`: rounding to the nearest integer does not pass an integer.
* `isRounded_iff`: rounding away from zero finds the nearest integer, of two the farther.
-/
namespace PriceOverlay.Decimal

open Float.Model Float.Model.UnpackedFloat

/-- All 53 bits of the mantissa are in use, unless the exponent is the least one. -/
def Canonical : UnpackedFloat → Prop
  | .finite _ m e _ => m < 2 ^ 53 ∧ -1074 ≤ e ∧ (2 ^ 52 ≤ m ∨ e = -1074)
  | _ => True

theorem canonical_unpack (b : BitVec Format.binary64.numBits) :
    Canonical (UnpackedFloat.unpack Format.binary64 b) := by
  have hbias : Format.binary64.exponentBias = 1023 := rfl
  have hmant : (unpackMantissa b).toNat < 2 ^ 52 := (unpackMantissa b).isLt
  have hone : (1#1 ++ unpackMantissa b).toNat < 2 ^ 53 := (1#1 ++ unpackMantissa b).isLt
  have himplicit : 2 ^ 52 ≤ (1#1 ++ unpackMantissa b).toNat := by
    rw [BitVec.toNat_append]
    exact Nat.left_le_or
  unfold UnpackedFloat.unpack
  dsimp only
  by_cases hall : unpackExponent b = -1#_
  · rw [if_pos hall]
    by_cases hm : unpackMantissa b = 0#_
    · rw [if_pos hm]
      trivial
    · rw [if_neg hm]
      trivial
  · rw [if_neg hall]
    by_cases hexp : unpackExponent b = 0#_
    · rw [if_pos hexp]
      have hzero : (unpackExponent b).toNat = 0 := congrArg BitVec.toNat hexp
      by_cases hm : unpackMantissa b = 0#_
      · rw [dif_pos hm]
        trivial
      · rw [dif_neg hm]
        exact ⟨by omega, by omega, .inr (by omega)⟩
    · rw [if_neg hexp]
      have hzero : (unpackExponent b).toNat ≠ 0 := fun h => hexp (BitVec.eq_of_toNat_eq h)
      exact ⟨hone, by omega, .inl himplicit⟩

theorem canonical_toModel (x : Float) : Canonical x.toModel.unpack := canonical_unpack _

/-! ## Units -/

/-- A mantissa at an exponent in units of `2 ^ -1074`. -/
def scaled (m : Nat) (e : Int) : Nat := m * 2 ^ (e + 1074).toNat

theorem scaled_eq {m : Nat} {e : Int} (he : -1074 ≤ e) :
    (m : Rat) * 2 ^ e = scaled m e * 2 ^ (-1074 : Int) := by
  have hexp : e = ((e + 1074).toNat : Int) + -1074 := by omega
  rw [scaled, Nat.cast_mul, Nat.cast_pow, mul_assoc, ← zpow_natCast, Nat.cast_ofNat,
    ← zpow_add₀ two_ne_zero, ← hexp]

/-- A mantissa of all 53 bits has more units than any at a lesser exponent. -/
theorem scaled_lt_scaled {m₁ m₂ : Nat} {e₁ e₂ : Int} (h₁ : m₁ < 2 ^ 53) (h₂ : 2 ^ 52 ≤ m₂)
    (he₁ : -1074 ≤ e₁) (he : e₁ < e₂) : scaled m₁ e₁ < scaled m₂ e₂ := by
  have hexp : (e₁ + 1074).toNat + 1 ≤ (e₂ + 1074).toNat := by omega
  calc scaled m₁ e₁ < 2 ^ 53 * 2 ^ (e₁ + 1074).toNat :=
        Nat.mul_lt_mul_of_pos_right h₁ (Nat.two_pow_pos _)
    _ = 2 ^ 52 * 2 ^ ((e₁ + 1074).toNat + 1) := by rw [Nat.pow_succ]; omega
    _ ≤ 2 ^ 52 * 2 ^ (e₂ + 1074).toNat :=
        Nat.mul_le_mul_left _ (Nat.pow_le_pow_right (by decide) hexp)
    _ ≤ scaled m₂ e₂ := Nat.mul_le_mul_right _ h₂

/-- Comparing the exponents first compares the units. -/
theorem compare_scaled {s₁ s₂ : Sign} {m₁ m₂ : Nat} {e₁ e₂ : Int} {p₁ : 0 < m₁} {p₂ : 0 < m₂}
    (h₁ : Canonical (.finite s₁ m₁ e₁ p₁)) (h₂ : Canonical (.finite s₂ m₂ e₂ p₂)) :
    (compare e₁ e₂).then (compare m₁ m₂) = compare (scaled m₁ e₁) (scaled m₂ e₂) := by
  obtain ⟨hlt₁, hle₁, hfull₁⟩ := h₁
  obtain ⟨hlt₂, hle₂, hfull₂⟩ := h₂
  rcases lt_trichotomy e₁ e₂ with he | rfl | he
  · have hunits := scaled_lt_scaled hlt₁ (hfull₂.resolve_right (by omega)) hle₁ he
    rw [compare_lt_iff_lt.2 he, compare_lt_iff_lt.2 hunits]
    rfl
  · have hmul : ∀ {a b : Nat}, scaled a e₁ < scaled b e₁ ↔ a < b := fun {a b} =>
      Nat.mul_lt_mul_right (Nat.two_pow_pos _)
    rw [compare_eq_iff_eq.2 rfl, Ordering.eq_then]
    rcases lt_trichotomy m₁ m₂ with hm | rfl | hm
    · rw [compare_lt_iff_lt.2 hm, compare_lt_iff_lt.2 (hmul.2 hm)]
    · rw [compare_eq_iff_eq.2 rfl, compare_eq_iff_eq.2 rfl]
    · rw [compare_gt_iff_gt.2 hm, compare_gt_iff_gt.2 (hmul.2 hm)]
  · have hunits := scaled_lt_scaled hlt₂ (hfull₁.resolve_right (by omega)) hle₂ he
    rw [compare_gt_iff_gt.2 he, compare_gt_iff_gt.2 hunits]
    rfl

theorem scaled_pos {m : Nat} (h : 0 < m) (e : Int) : 0 < scaled m e :=
  Nat.mul_pos h (Nat.two_pow_pos _)

/-- The units of a number, if it is finite. -/
def units? : UnpackedFloat → Option Int
  | .finite .positive m e _ => some (scaled m e)
  | .finite .negative m e _ => some (-scaled m e)
  | .zero _ => some 0
  | .infinity _ | .notANumber => none

/-- A finite double is a whole number of units. -/
theorem exists_units {x : Float} {p : Rat} (h : rational? x = some p) :
    ∃ n : Int, units? x.toModel.unpack = some n ∧ p = n * 2 ^ (-1074 : Int) := by
  have hcanonical := canonical_toModel x
  unfold rational? at h
  generalize x.toModel.unpack = u at h hcanonical
  cases u with
  | finite s m e hm =>
    have hscaled := scaled_eq (m := m) hcanonical.2.1
    cases s with
    | positive =>
      cases h
      exact ⟨_, rfl, by rw [hscaled, Int.cast_natCast]⟩
    | negative =>
      cases h
      exact ⟨_, rfl, by rw [hscaled, Int.cast_neg, Int.cast_natCast, neg_mul]⟩
  | zero s =>
    cases h
    exact ⟨0, rfl, by rw [Int.cast_zero, zero_mul]⟩
  | infinity s => cases h
  | notANumber => cases h

/-- Finite numbers are compared by their units. -/
theorem lt_iff_units {u v : UnpackedFloat} (hu : Canonical u) (hv : Canonical v) {a b : Int}
    (ha : units? u = some a) (hb : units? v = some b) : u.lt v = true ↔ a < b := by
  rw [UnpackedFloat.lt, beq_iff_eq]
  unfold UnpackedFloat.compare
  cases u with
  | infinity s => cases ha
  | notANumber => cases ha
  | zero s =>
    cases v with
    | infinity s' => cases hb
    | notANumber => cases hb
    | zero s' =>
      cases ha
      cases hb
      simp
    | finite s' m' e' hm' =>
      have hpos' := scaled_pos hm' e'
      cases ha
      cases s' <;> cases hb <;> simp
      omega
  | finite s m e hm =>
    have hpos := scaled_pos hm e
    cases v with
    | infinity s' => cases hb
    | notANumber => cases hb
    | zero s' =>
      cases hb
      cases s <;> cases ha <;> simp
      omega
    | finite s' m' e' hm' =>
      have hpos' := scaled_pos hm' e'
      have hcompare := compare_scaled hu hv
      -- between negative numbers the greater one has fewer units
      cases s <;> cases s' <;> cases ha <;> cases hb <;>
        simp [hcompare, compare_lt_iff_lt, compare_gt_iff_gt]
      omega

/-- Finite doubles are in the order of their values. -/
theorem lt_iff {x y : Float} {p q : Rat} (hx : rational? x = some p) (hy : rational? y = some q) :
    x < y ↔ p < q := by
  obtain ⟨a, ha, rfl⟩ := exists_units hx
  obtain ⟨b, hb, rfl⟩ := exists_units hy
  have hlt : x < y ↔ x.toModel.unpack.lt y.toModel.unpack = true := decide_eq_true_iff
  rw [hlt, lt_iff_units (canonical_toModel x) (canonical_toModel y) ha hb,
    mul_lt_mul_iff_left₀ (zpow_pos two_pos _), Int.cast_lt]

/-! ## Rounding -/

/-- Rounding to the nearest integer does not pass an integer. -/
theorem le_roundEven {n : Int} {q : Rat} (h : (n : Rat) ≤ q) : n ≤ roundEven q := by
  have hfloor : n ≤ q.floor := Rat.le_floor_iff.2 h
  unfold roundEven
  dsimp only
  split_ifs <;> omega

/-- The integer `n` is the nearest to `q`, a half going away from zero. -/
structure IsRounded (q : Rat) (n : Int) : Prop where
  near : |q - n| ≤ 1 / 2
  away : |q - n| = 1 / 2 → |q| < |(n : Rat)|

theorem isRounded_neg {q : Rat} {n : Int} : IsRounded (-q) (-n) ↔ IsRounded q n := by
  have hdist : |-q - ((-n : Int) : Rat)| = |q - n| := by
    rw [Int.cast_neg, neg_sub_neg, abs_sub_comm]
  have habs : |((-n : Int) : Rat)| = |(n : Rat)| := by
    rw [Int.cast_neg, abs_neg]
  constructor
  · rintro ⟨hnear, haway⟩
    rw [hdist] at hnear haway
    rw [abs_neg, habs] at haway
    exact ⟨hnear, haway⟩
  · rintro ⟨hnear, haway⟩
    refine ⟨?_, ?_⟩
    · rwa [hdist]
    · rwa [hdist, abs_neg, habs]

theorem IsRounded.nonneg {q : Rat} {n : Int} (h : IsRounded q n) (hq : 0 ≤ q) : 0 ≤ n := by
  have hlow := (abs_le.1 h.near).2
  rw [← Int.lt_add_one_iff, ← Int.cast_lt (R := Rat)]
  push_cast
  linarith

/-- A number from zero on rounds to `n` from half a unit below `n` to less than half above. -/
theorem isRounded_iff_of_nonneg {q : Rat} (hq : 0 ≤ q) {n : Int} :
    IsRounded q n ↔ (n : Rat) ≤ q + 1 / 2 ∧ q + 1 / 2 < n + 1 := by
  constructor
  · intro h
    obtain ⟨hlow, hhigh⟩ := abs_le.1 h.near
    have hn : (0 : Rat) ≤ n := Int.cast_nonneg (h.nonneg hq)
    refine ⟨by linarith, lt_of_le_of_ne (by linarith) fun heq => ?_⟩
    -- half a unit above goes up
    have hlt := h.away ((abs_eq (by norm_num)).2 (.inl (by linarith)))
    rw [abs_of_nonneg hq, abs_of_nonneg hn] at hlt
    linarith
  · rintro ⟨hlow, hhigh⟩
    refine ⟨abs_le.2 ⟨by linarith, by linarith⟩, fun heq => ?_⟩
    have hhalf : q - n = -(1 / 2) := ((abs_eq (by norm_num)).1 heq).resolve_left (by linarith)
    rw [abs_of_nonneg hq, abs_of_nonneg (by linarith)]
    linarith

/-- Rounding away from zero finds the one integer that a number rounds to. -/
theorem isRounded_iff {q : Rat} {n : Int} : IsRounded q n ↔ n = roundAway q := by
  have hfloor : ∀ {q : Rat} {n : Int}, 0 ≤ q → (IsRounded q n ↔ (q + 1 / 2).floor = n) :=
    fun hq => (isRounded_iff_of_nonneg hq).trans Int.floor_eq_iff.symm
  rw [eq_comm, roundAway]
  split_ifs with hq
  · rw [← isRounded_neg, hfloor (neg_nonneg.2 hq.le), neg_eq_iff_eq_neg]
  · exact hfloor (not_lt.1 hq)

theorem isRounded_roundAway (q : Rat) : IsRounded q (roundAway q) := isRounded_iff.2 rfl

theorem roundAway_nonpos {q : Rat} (hq : q ≤ 0) : roundAway q ≤ 0 := by
  have h := isRounded_neg.2 (isRounded_roundAway q)
  exact neg_nonneg.1 (h.nonneg (neg_nonneg.2 hq))

end PriceOverlay.Decimal
