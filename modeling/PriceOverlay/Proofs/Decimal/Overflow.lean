import Mathlib
import PriceOverlay.Decimal.Reader
/-!
# When a decimal is too great for a double

A decimal is read to the nearest double, and one that lies half a unit or more above the greatest
finite double is read as infinite. The half itself goes there too: the mantissa of the greatest
finite double is odd, so a tie is rounded away from it.

The bound is found on the mantissa and the exponent that rounding starts from. The first shift
leaves 53 bits; the exponent is too great then, or it is the greatest one and all 53 bits are set
and rounded up.

**Results**
* `overflows_round_iff`: which mantissas are rounded to an exponent beyond that of a double.
* `isInf_pack_iff`: packing turns exactly these into infinities.
* `isInf_ofScientific_iff`: which decimals are read as infinite.
-/
namespace PriceOverlay.Decimal

open Float.Model Float.Model.UnpackedFloat

/-- Half a unit above the greatest finite double, in units of `2 ^ (970 - j)`. -/
def bound (j : Nat) : Nat := (2 ^ 54 - 1) * 2 ^ j

/-- Half a unit above the greatest finite double, `2 ^ 1024 - 2 ^ 970`. -/
def overflow : Nat := bound 970

theorem bound_add (i j : Nat) : bound (i + j) = bound i * 2 ^ j := by
  rw [bound, bound, Nat.pow_add, Nat.mul_assoc]

theorem two_pow_le_bound (j : Nat) : 2 ^ 53 ≤ bound j :=
  Nat.le_trans (by decide) (Nat.le_mul_of_pos_right (2 ^ 54 - 1) (Nat.two_pow_pos j))

/-! ## Shifting and rounding -/

theorem mantissa_shiftRight (em : ExtendedMantissa) (k : Nat) :
    (em >>> k).mantissa = em.mantissa / 2 ^ k := by
  induction k with
  | zero => exact (Nat.div_one _).symm
  | succ k ih =>
    show (em >>> k).mantissa / 2 = _
    rw [ih, Nat.div_div_eq_div_mul, Nat.pow_succ]

/-- The last bit that is shifted out is the round bit. -/
theorem roundBit_shiftRight (em : ExtendedMantissa) (k : Nat) :
    (em >>> (k + 1)).roundBit = (em.mantissa / 2 ^ k % 2 != 0) := by
  show ((em >>> k).mantissa % 2 != 0) = _
  rw [mantissa_shiftRight]

theorem mantissa_ofMantissaAndAccuracy (m : Nat) (acc : Accuracy) :
    (ExtendedMantissa.ofMantissaAndAccuracy m acc).mantissa = m := by
  cases acc with
  | exact => rfl
  | inexact o => cases o <;> rfl

theorem roundedMantissa_le (em : ExtendedMantissa) : em.roundedMantissa ≤ em.mantissa + 1 := by
  obtain ⟨m, r, s⟩ := em
  cases r <;> cases s <;> simp [ExtendedMantissa.roundedMantissa, ExtendedMantissa.accuracy,
    Accuracy.roundToNearestEven]
  omega

theorem le_roundedMantissa (em : ExtendedMantissa) : em.mantissa ≤ em.roundedMantissa := by
  obtain ⟨m, r, s⟩ := em
  cases r <;> cases s <;> simp [ExtendedMantissa.roundedMantissa, ExtendedMantissa.accuracy,
    Accuracy.roundToNearestEven]

/-- An odd mantissa is rounded up exactly if the round bit is set. -/
theorem roundedMantissa_of_odd {em : ExtendedMantissa} (h : em.mantissa % 2 = 1) :
    em.roundedMantissa = em.mantissa + em.roundBit.toNat := by
  obtain ⟨m, r, s⟩ := em
  cases r <;> cases s <;> simp_all [ExtendedMantissa.roundedMantissa, ExtendedMantissa.accuracy,
    Accuracy.roundToNearestEven]

/-! ## The exponent after rounding -/

/-- The exponent with which a mantissa has 53 bits, or the least one. -/
theorem targetExponent_eq (m : Nat) (e : Int) :
    Format.binary64.targetExponent (totalExponent m e) = max (m.log2 + e - 52) (-1074) := by
  have hmin : Format.binary64.minExponent = -1074 := by decide
  simp only [Format.targetExponent, totalExponent, hmin, Format.mantissaBits]
  omega

/-- How far a mantissa is shifted to have 53 bits. -/
def excess (m : Nat) (e : Int) : Nat := (max (m.log2 + e - 52) (-1074) - e).toNat

/-- The mantissa after the first shift and rounding. -/
def firstRounded (m : Nat) (e : Int) (acc : Accuracy) : Nat :=
  (ExtendedMantissa.ofMantissaAndAccuracy m acc >>> excess m e).roundedMantissa

theorem roundWithAccuracy_eq (s : Sign) (m : Nat) (e : Int) (acc : Accuracy) :
    let r := firstRounded m e acc
    let e₁ := e + excess m e
    roundWithAccuracy Format.binary64 s m e acc =
      if h : r / 2 ^ excess r e₁ = 0 then .zero s
      else .finite s (r / 2 ^ excess r e₁) (e₁ + excess r e₁) (Nat.pos_of_ne_zero h) := by
  simp only [roundWithAccuracy, shiftToTargetExponent, shiftToExponent, targetExponent_eq,
    mantissa_shiftRight, mantissa_ofMantissaAndAccuracy]
  rfl

/-- An unpacked number that a double can only stand for by an infinity. -/
def Overflows : UnpackedFloat → Prop
  | .infinity _ => True
  | .finite _ _ e _ => 972 ≤ e
  | .zero _ | .notANumber => False

theorem mantissa_lt_of_excess (m : Nat) (e : Int) : m / 2 ^ excess m e < 2 ^ 53 := by
  rw [Nat.div_lt_iff_lt_mul (Nat.two_pow_pos _), ← Nat.pow_add]
  refine Nat.lt_of_lt_of_le Nat.lt_log2_self (Nat.pow_le_pow_right (by decide) ?_)
  unfold excess
  omega

theorem firstRounded_le (m : Nat) (e : Int) (acc : Accuracy) : firstRounded m e acc ≤ 2 ^ 53 := by
  have h := roundedMantissa_le (ExtendedMantissa.ofMantissaAndAccuracy m acc >>> excess m e)
  have hm := mantissa_lt_of_excess m e
  rw [mantissa_shiftRight, mantissa_ofMantissaAndAccuracy] at h
  exact Nat.le_trans h hm

/-- Rounding carries into a bit more than the shift left exactly if all bits were set, the round bit
with them. -/
theorem firstRounded_eq_iff {m j : Nat} {e : Int} (acc : Accuracy) (h : excess m e = j + 1) :
    firstRounded m e acc = 2 ^ 53 ↔ m / 2 ^ j = 2 ^ 54 - 1 := by
  have hlt := mantissa_lt_of_excess m e
  have hhalf : m / 2 ^ (j + 1) = m / 2 ^ j / 2 := by rw [Nat.pow_succ, Nat.div_div_eq_div_mul]
  have hle := roundedMantissa_le (ExtendedMantissa.ofMantissaAndAccuracy m acc >>> (j + 1))
  have hodd := @roundedMantissa_of_odd (ExtendedMantissa.ofMantissaAndAccuracy m acc >>> (j + 1))
  rw [roundBit_shiftRight] at hodd
  simp only [mantissa_shiftRight, mantissa_ofMantissaAndAccuracy, hhalf] at hle hodd
  rw [h, hhalf] at hlt
  rw [firstRounded, h]
  generalize (ExtendedMantissa.ofMantissaAndAccuracy m acc >>> (j + 1)).roundedMantissa = r at *
  have hbit : (m / 2 ^ j % 2 != 0).toNat = m / 2 ^ j % 2 := by
    rcases Nat.mod_two_eq_zero_or_one (m / 2 ^ j) with h2 | h2 <;> rw [h2] <;> rfl
  rw [hbit] at hodd
  omega

theorem log2_le_of_lt {n k : Nat} (h : n < 2 ^ (k + 1)) : n.log2 ≤ k := by
  rcases Nat.eq_zero_or_pos n with rfl | hpos
  · exact Nat.zero_le k
  · exact Nat.le_of_lt_succ ((Nat.log2_lt (Nat.ne_of_gt hpos)).2 h)

/-- The second shift is by one bit at most, after such a carry. -/
theorem excess_of_le {r : Nat} {e : Int} (he : -1074 ≤ e) (hr : r ≤ 2 ^ 53) :
    excess r e = if r = 2 ^ 53 then 1 else 0 := by
  unfold excess
  split
  · rename_i h
    rw [h, Nat.log2_two_pow]
    omega
  · have hlog : r.log2 ≤ 52 := log2_le_of_lt (by omega)
    omega

theorem le_firstRounded {m : Nat} {e : Int} (acc : Accuracy) (hm : 52 ≤ m.log2)
    (h : excess m e = m.log2 - 52) : 2 ^ 52 ≤ firstRounded m e acc := by
  have hm0 : m ≠ 0 := by rintro rfl; simp at hm
  refine Nat.le_trans ?_ (le_roundedMantissa _)
  rw [mantissa_shiftRight, mantissa_ofMantissaAndAccuracy, h,
    Nat.le_div_iff_mul_le (Nat.two_pow_pos _), ← Nat.pow_add, Nat.add_sub_cancel' hm]
  exact Nat.log2_self_le hm0

theorem div_excess_ne_zero {r : Nat} {e : Int} (he : -1074 ≤ e) (hle : r ≤ 2 ^ 53)
    (hge : 2 ^ 52 ≤ r) : r / 2 ^ excess r e ≠ 0 := by
  rw [excess_of_le he hle]
  split <;> omega

theorem overflows_roundWithAccuracy_iff (s : Sign) (m : Nat) (e : Int) (acc : Accuracy) :
    Overflows (roundWithAccuracy Format.binary64 s m e acc) ↔
      firstRounded m e acc / 2 ^ excess (firstRounded m e acc) (e + excess m e) ≠ 0 ∧
        972 ≤ e + excess m e + (if firstRounded m e acc = 2 ^ 53 then 1 else 0 : Nat) := by
  have he : -1074 ≤ e + excess m e := by unfold excess; omega
  rw [← excess_of_le he (firstRounded_le m e acc), roundWithAccuracy_eq]
  split
  · simp only [Overflows, *, ne_eq, not_true_eq_false, false_and]
  · simp only [Overflows, *, ne_eq, not_false_eq_true, true_and]

/-- **The bound.** A mantissa at an exponent of at most 970 is rounded to something too great
exactly if it reaches the bound. -/
theorem overflows_round_iff (s : Sign) (m j : Nat) (acc : Accuracy) :
    Overflows (roundWithAccuracy Format.binary64 s m (970 - j) acc) ↔ bound j ≤ m := by
  rw [overflows_roundWithAccuracy_iff, bound, ← Nat.le_div_iff_mul_le (Nat.two_pow_pos j)]
  have hcarry := @firstRounded_eq_iff m j (970 - j) acc
  have hpow : ∀ k, m / 2 ^ j < 2 ^ k ↔ m < 2 ^ (k + j) := fun k => by
    rw [Nat.div_lt_iff_lt_mul (Nat.two_pow_pos j), Nat.pow_add]
  constructor
  · rintro ⟨-, hexp⟩
    have hlog : 53 + j ≤ m.log2 := by unfold excess at hexp; split at hexp <;> omega
    have hlow : ¬ m / 2 ^ j < 2 ^ 53 := by
      rw [hpow, Nat.not_lt]
      exact (Nat.le_log2 (by rintro rfl; simp at hlog)).1 hlog
    -- Only where the mantissa has just as many bits as the bound does it matter which are set.
    by_cases htop : m / 2 ^ j < 2 ^ 54
    · have hlog' : m.log2 ≤ 53 + j := log2_le_of_lt (by
        rw [Nat.add_right_comm]
        exact (hpow 54).1 htop)
      have hexcess : excess m (970 - j) = j + 1 := by unfold excess; omega
      rw [hexcess] at hexp
      split at hexp
      · rename_i h
        exact Nat.le_of_eq ((hcarry hexcess).1 h).symm
      · omega
    · omega
  · intro hbound
    have hlog : 53 + j ≤ m.log2 := by
      have hm : m ≠ 0 := by rintro rfl; simp at hbound
      rw [Nat.le_log2 hm, ← Nat.not_lt, ← hpow]
      omega
    have hexcess : excess m (970 - j) = m.log2 - 52 := by unfold excess; omega
    refine ⟨div_excess_ne_zero (by omega) (firstRounded_le _ _ _)
      (le_firstRounded acc (by omega) hexcess), ?_⟩
    rcases Nat.lt_or_ge (53 + j) m.log2 with hgt | hle
    · rw [hexcess]
      omega
    · have hexcess' : excess m (970 - j) = j + 1 := by omega
      have htop : m / 2 ^ j < 2 ^ 54 := (hpow 54).2 (Nat.lt_of_lt_of_le Nat.lt_log2_self
        (Nat.pow_le_pow_right (by decide) (by omega)))
      rw [if_pos ((hcarry hexcess').2 (by omega)), hexcess']
      omega

/-! ## Packing -/

theorem exponentBias_binary64 : Format.binary64.exponentBias = 1023 := rfl

theorem isInf_unpack_iff (b : BitVec Format.binary64.numBits) :
    (UnpackedFloat.unpack Format.binary64 b).isInf = true ↔
      unpackExponent b = -1#_ ∧ unpackMantissa b = 0#_ := by
  unfold UnpackedFloat.unpack
  dsimp only
  by_cases hexp : unpackExponent b = -1#_
  · rw [if_pos hexp]
    split <;> simp only [UnpackedFloat.isInf, *, and_self, and_false, Bool.false_eq_true]
  · rw [if_neg hexp]
    repeat' split
    all_goals simp only [UnpackedFloat.isInf, hexp, false_and, Bool.false_eq_true]

theorem isInf_pack_iff (u : UnpackedFloat) :
    (Float.Model.pack u).isInf = true ↔ Overflows u := by
  have hexp : ∀ e : Int, 2 ^ Format.binary64.exponentBits ≤
      (e + Format.binary64.exponentBias + Format.binary64.mantissaBitsWithoutImplicit).toNat + 1 ↔
        972 ≤ e := fun e => by
    simp only [Format.exponentBias]
    omega
  show (UnpackedFloat.unpack _ (UnpackedFloat.pack Format.binary64 u)).isInf = true ↔ _
  rw [isInf_unpack_iff]
  fun_cases UnpackedFloat.pack with
  | case1 => simp [packedNaN, Overflows]
  | case2 s => simp [packedInfinity, Overflows]
  | case3 s => simp [packedZero, Overflows]
  | case4 s m e hm biased h => simp [packedInfinity, Overflows, (hexp e).1 h]
  | case5 s m e hm bits biased h₁ h₂ =>
    have hne : BitVec.ofNat Format.binary64.exponentBits biased ≠ -1#_ := fun h => by
      have hval : biased % 2048 = 2047 := congrArg BitVec.toNat h
      have hsmall : ¬ 2048 ≤ biased + 1 := h₁
      omega
    simp only [unpackExponent_packComponents, hne, false_and, Overflows, ← hexp e]
    exact (iff_false_right h₁).2 not_false
  | case6 s m e hm bits biased h₁ h₂ =>
    simp only [unpackExponent_packComponents, Overflows, ← hexp e]
    exact (iff_false_right h₁).2 fun h => absurd h.1 (by decide)

/-- Zero, or a number of 53 bits at an exponent of at most `c`. -/
def Bounded (c : Int) : UnpackedFloat → Prop
  | .zero _ => True
  | .finite _ m e _ => m < 2 ^ 53 ∧ e ≤ c
  | .infinity _ | .notANumber => False

theorem not_overflows_of_bounded {u : UnpackedFloat} {c : Int} (hc : c < 972) (h : Bounded c u) :
    ¬ Overflows u := by
  cases u with
  | finite s m e hm => exact fun he => by have := h.2; simp only [Overflows] at he; omega
  | zero s => exact id
  | _ => exact h.elim

theorem bounded_unpack {b : BitVec Format.binary64.numBits} {c : Int}
    (h : ((unpackExponent b).toNat : Int) ≤ c + 1075) (hlow : -1074 ≤ c) (hhigh : c < 972) :
    Bounded c (UnpackedFloat.unpack Format.binary64 b) := by
  have hmant : (unpackMantissa b).toNat < 2 ^ 52 := (unpackMantissa b).isLt
  have hone : (1#1 ++ unpackMantissa b).toNat < 2 ^ 53 := (1#1 ++ unpackMantissa b).isLt
  unfold UnpackedFloat.unpack
  simp only [exponentBias_binary64]
  split
  · rename_i hexp
    have hmax : (unpackExponent b).toNat = 2047 := congrArg BitVec.toNat hexp
    omega
  · split
    · rename_i hexp
      have hzero : (unpackExponent b).toNat = 0 := congrArg BitVec.toNat hexp
      split
      · trivial
      · exact ⟨by omega, by omega⟩
    · exact ⟨hone, by omega⟩

/-- The numbers that bits stand for are too great only if they are infinite. -/
theorem overflows_unpack_iff (b : BitVec Format.binary64.numBits) :
    Overflows (UnpackedFloat.unpack Format.binary64 b) ↔
      (UnpackedFloat.unpack Format.binary64 b).isInf = true := by
  rw [isInf_unpack_iff]
  by_cases hexp : unpackExponent b = -1#_
  · unfold UnpackedFloat.unpack
    dsimp only
    rw [if_pos hexp]
    split <;> simp only [Overflows, *, and_self, and_false]
  · have hmax : (unpackExponent b).toNat < 2048 := (unpackExponent b).isLt
    have hne : (unpackExponent b).toNat ≠ 2047 := fun h => hexp (BitVec.eq_of_toNat_eq h)
    simp only [hexp, false_and, iff_false]
    exact not_overflows_of_bounded (c := 971) (by decide)
      (bounded_unpack (by omega) (by decide) (by decide))

/-- The sign does not decide whether a number is too great. -/
theorem overflows_neg_iff (u : UnpackedFloat) : Overflows u.neg ↔ Overflows u := by
  cases u <;> rfl

theorem isInf_neg (x : Float) : (-x).isInf = x.isInf := by
  show (Float.Model.pack x.toModel.unpack.neg).isInf = x.toModel.isInf
  rw [Bool.eq_iff_iff, isInf_pack_iff, overflows_neg_iff]
  exact overflows_unpack_iff _

/-! ## Small operands -/

theorem bounded_roundWithAccuracy {s : Sign} {m : Nat} {e c : Int} (acc : Accuracy)
    (h : e + excess m e ≤ c) :
    Bounded (c + 1) (roundWithAccuracy Format.binary64 s m e acc) := by
  have he : -1074 ≤ e + excess m e := by unfold excess; omega
  have hcarry := excess_of_le he (firstRounded_le m e acc)
  rw [roundWithAccuracy_eq]
  split
  · trivial
  · refine ⟨mantissa_lt_of_excess _ _, ?_⟩
    split at hcarry <;> omega

theorem bounded_unpack_pack {u : UnpackedFloat} {c : Int} (h : Bounded c u) (hlow : -1074 ≤ c)
    (hhigh : c < 972) : Bounded c (Float.Model.pack u).unpack := by
  refine bounded_unpack (b := UnpackedFloat.pack Format.binary64 u) ?_ hlow hhigh
  cases u with
  | zero s =>
    simp only [UnpackedFloat.pack, packedZero, unpackExponent_packComponents]
    show (0 : Int) ≤ _
    omega
  | finite s m e hm =>
    have he := h.2
    unfold UnpackedFloat.pack
    dsimp only
    split
    · simp only [exponentBias_binary64] at *
      omega
    · split <;> rw [unpackExponent_packComponents]
      · rw [BitVec.toNat_ofNat, exponentBias_binary64]
        omega
      · show (0 : Int) ≤ _
        omega
  | _ => exact h.elim

/-- A natural number of 53 bits is at an exponent of at most 1. -/
theorem bounded_toModel_ofNat {n : Nat} (h : n < 2 ^ 53) :
    Bounded 1 (n.toUInt64.toFloat).toModel.unpack := by
  refine bounded_unpack_pack ?_ (by decide) (by decide)
  have hn : (n.toUInt64).toNat = n := by
    simp [Nat.toUInt64]
    omega
  show Bounded 1
    (UnpackedFloat.normalize Format.binary64 ((n.toUInt64.toNat : Nat) : Int) 0 .positive)
  rw [hn]
  unfold UnpackedFloat.normalize
  split
  · rename_i hlt
    have := Int.compare_eq_lt.1 hlt
    omega
  · trivial
  · show Bounded 1 (UnpackedFloat.round Format.binary64 .positive n 0)
    unfold UnpackedFloat.round
    simp only [targetExponent_eq, decreaseExponent]
    refine bounded_roundWithAccuracy (c := 0) _ ?_
    generalize (0 - max ((n.log2 : Int) + 0 - 52) (-1074)).toNat = k
    have hlog : (n <<< k).log2 ≤ 52 + k := log2_le_of_lt (by
      rw [Nat.shiftLeft_eq, Nat.add_right_comm, Nat.pow_add]
      exact Nat.mul_lt_mul_of_pos_right h (Nat.two_pow_pos k))
    unfold excess
    omega

/-- A finite number of 53 bits at an exponent from -52 to 21. -/
def isModerate : UnpackedFloat → Bool
  | .finite _ m e _ => decide (m < 2 ^ 53 ∧ -52 ≤ e ∧ e ≤ 21)
  | _ => false

theorem isModerate_powerOfTen : ∀ k : Fin 23,
    isModerate Float.exactlyRepresentablePowersOfTen[k].toModel.unpack = true := by
  decide +kernel

/-- A small number divided by a moderate one is not too great. -/
theorem not_overflows_div {u v : UnpackedFloat} (hu : Bounded 1 u) (hv : isModerate v = true) :
    ¬ Overflows (UnpackedFloat.div Format.binary64 u v) := by
  cases v with
  | finite s₂ m₂ e₂ h₂ =>
    have hm₂ := of_decide_eq_true hv
    cases u with
    | zero s₁ => exact id
    | finite s₁ m₁ e₁ h₁ =>
      have hm₁ := hu
      simp only [Bounded] at hm₁
      simp only [UnpackedFloat.div, divCore]
      generalize hte : min (e₁ - e₂) _ = te
      obtain ⟨j, hj⟩ : ∃ j : Nat, te = 970 - j := ⟨(970 - te).toNat, by omega⟩
      rw [hj, overflows_round_iff, Nat.not_le, Nat.shiftLeft_eq]
      calc m₁ * 2 ^ (e₁ - e₂ - (970 - j)).toNat / m₂
          ≤ m₁ * 2 ^ (e₁ - e₂ - (970 - j)).toNat := Nat.div_le_self _ _
        _ ≤ m₁ * 2 ^ j := Nat.mul_le_mul_left _ (Nat.pow_le_pow_right (by decide) (by omega))
        _ < bound j := Nat.mul_lt_mul_of_pos_right (by omega) (Nat.two_pow_pos j)
    | _ => exact hu.elim
  | _ => cases hv

/-- Nor is the product of the two. -/
theorem not_overflows_mul {u v : UnpackedFloat} (hu : Bounded 1 u) (hv : isModerate v = true) :
    ¬ Overflows (UnpackedFloat.mul Format.binary64 u v) := by
  cases v with
  | finite s₂ m₂ e₂ h₂ =>
    have hm₂ := of_decide_eq_true hv
    cases u with
    | zero s₁ => exact id
    | finite s₁ m₁ e₁ h₁ =>
      have hm₁ := hu
      simp only [Bounded] at hm₁
      simp only [UnpackedFloat.mul]
      obtain ⟨j, hj⟩ : ∃ j : Nat, e₁ + e₂ = 970 - j := ⟨(970 - (e₁ + e₂)).toNat, by omega⟩
      rw [hj, overflows_round_iff, Nat.not_le]
      calc m₁ * m₂ < 2 ^ 53 * 2 ^ 53 := Nat.mul_lt_mul'' hm₁.1 hm₂.1
        _ ≤ bound j :=
          Nat.mul_le_mul (by decide) (Nat.pow_le_pow_right (by decide) (by omega))
    | _ => exact hu.elim
  | _ => cases hv

/-! ## Decimals -/

theorem lt_overflow {n k : Nat} (h : n < 2 ^ 53 * 10 ^ k) : n < overflow * 10 ^ k :=
  Nat.lt_of_lt_of_le h (Nat.mul_le_mul_right _ (two_pow_le_bound _))

/-- A decimal whose digits and power of ten are numbers of 53 bits is not too great. -/
theorem isInf_ofScientific_of_lt {n k : Nat} (hn : n < 2 ^ 53) (hk : k ≤ 22) (s : Bool) :
    (Float.ofScientific n s k).isInf = false := by
  have hpower := isModerate_powerOfTen ⟨k, by omega⟩
  have hsmall := bounded_toModel_ofNat hn
  unfold Float.ofScientific
  rw [dif_pos ⟨hn, hk⟩, Bool.eq_false_iff]
  dsimp only
  split
  · exact fun h => not_overflows_div hsmall hpower ((isInf_pack_iff _).1 h)
  · exact fun h => not_overflows_mul hsmall hpower ((isInf_pack_iff _).1 h)

theorem overflows_ofScientific_iff (n k : Nat) :
    Overflows (UnpackedFloat.ofScientific Format.binary64 n (-k)) ↔ overflow * 10 ^ k ≤ n := by
  have hten : 0 < 10 ^ k := Nat.pow_pos (by decide)
  unfold UnpackedFloat.ofScientific
  split
  · rename_i hn
    exact (iff_false_left id).2 (Nat.not_le.2 (lt_overflow (by omega)))
  rw [if_neg (show ¬ (-(k : Int) > 2 ^ 11) by omega)]
  split
  · rename_i hsmall
    have hlog : n.log2 + 1 ≤ k := by
      have : (-(k : Int)) < -(2 ^ 11 + n.log2) := hsmall
      omega
    refine (iff_false_left id).2 (Nat.not_le.2 (lt_overflow ?_))
    calc n < 2 ^ (n.log2 + 1) := Nat.lt_log2_self
      _ ≤ 2 ^ k := Nat.pow_le_pow_right (by decide) hlog
      _ ≤ 10 ^ k := Nat.pow_le_pow_left (by decide) k
      _ ≤ 2 ^ 53 * 10 ^ k := Nat.le_mul_of_pos_left _ (by decide)
  split
  · obtain rfl : k = 0 := by omega
    have hexp : -(Format.binary64.mantissaBits : Int) + 0 = 970 - (970 + 53 : Nat) := rfl
    have hmant : n <<< Format.binary64.mantissaBits * 10 ^ (-((0 : Nat) : Int)).toNat =
        n * 2 ^ 53 := (Nat.mul_one _).trans (Nat.shiftLeft_eq _ _)
    simp only [UnpackedFloat.mul]
    rw [hexp, hmant, overflows_round_iff, bound_add, overflow, Nat.pow_zero, Nat.mul_one]
    exact Nat.mul_le_mul_right_iff (by decide)
  · simp only [UnpackedFloat.div, divCore]
    generalize hte : min ((0 : Int) - 0) _ = te
    obtain ⟨j, rfl⟩ : ∃ j : Nat, te = -(j : Int) := ⟨(-te).toNat, by omega⟩
    have hexp : -(j : Int) = 970 - (970 + j : Nat) := by omega
    have hshift : ((0 : Int) - 0 - -(j : Int)).toNat = j := by omega
    have hplaces : (- -(k : Int)).toNat = k := by omega
    rw [hshift, hplaces, hexp, overflows_round_iff, bound_add, overflow, Nat.shiftLeft_eq,
      Nat.le_div_iff_mul_le hten, Nat.mul_right_comm]
    exact Nat.mul_le_mul_right_iff (Nat.two_pow_pos j)

/-- **Too great.** The decimal of `n` with `k` places is read as infinite exactly if it reaches half
a unit above the greatest finite double. -/
theorem isInf_ofScientific_iff (n k : Nat) :
    (ofScientific n (-k)).isInf = true ↔ overflow * 10 ^ k ≤ n := by
  unfold ofScientific
  by_cases hfast : n < 2 ^ 53 ∧ (-(k : Int)).natAbs ≤ 22
  · rw [isInf_ofScientific_of_lt hfast.1 hfast.2]
    refine (iff_false_left Bool.false_ne_true).2 (Nat.not_le.2 (lt_overflow ?_))
    exact Nat.lt_of_lt_of_le hfast.1 (Nat.le_mul_of_pos_right _ (Nat.pow_pos (by decide)))
  · unfold Float.ofScientific
    rw [dif_neg hfast]
    have hexp : (if decide (-(k : Int) < 0) = true then Int.negOfNat (-(k : Int)).natAbs
        else Int.ofNat (-(k : Int)).natAbs) = -(k : Int) := by
      split <;> simp_all [Int.negOfNat_eq]
    rw [← overflows_ofScientific_iff, ← isInf_pack_iff]
    dsimp only
    rw [hexp]
    rfl

end PriceOverlay.Decimal
