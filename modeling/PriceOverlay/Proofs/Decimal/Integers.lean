import PriceOverlay.Proofs.Overlay.Names
import PriceOverlay.Proofs.Preference.Percentage
/-!
# The integers that are read

**Results**
* `integer?_eq_some_iff`: the texts that are read as an integer.
* `isSome_int64?_iff`: those of the integers that 64 bits hold.
* `natural?_eq_some_iff_zeros`: the texts of a natural number other than zero.
-/
namespace PriceOverlay.Decimal

/-- The texts of an integer: digits, after a sign or none. -/
inductive IntegerText : List Char → Int → Prop
  | unsigned {ds : List Char} (h : isDigits ds = true) : IntegerText ds (value 0 ds)
  | plus {ds : List Char} (h : isDigits ds = true) : IntegerText ('+' :: ds) (value 0 ds)
  | minus {ds : List Char} (h : isDigits ds = true) : IntegerText ('-' :: ds) (-(value 0 ds : Int))

theorem head?_of_isDigits {ds : List Char} (h : isDigits ds = true) :
    ∃ c r, ds = c :: r ∧ isDigit c = true := by
  cases ds with
  | nil => cases h
  | cons c r => exact ⟨c, r, rfl, isDigit_of_isDigits h List.mem_cons_self⟩

/-- No sign is split off where digits come first. -/
theorem splitSign_digits {ds : List Char} (h : isDigits ds = true) (rest : List Char) :
    splitSign (ds ++ rest) = (false, ds ++ rest) := by
  obtain ⟨c, r, rfl, hc⟩ := head?_of_isDigits h
  show splitSign (c :: (r ++ rest)) = (false, c :: (r ++ rest))
  unfold splitSign
  split
  · rename_i heq
    cases heq
    exact absurd hc (by decide)
  · rename_i heq
    cases heq
    exact absurd hc (by decide)
  · rfl

theorem natural?_of_isDigits {ds : List Char} (h : isDigits ds = true) :
    natural? ds = some (value 0 ds) :=
  if_pos h

theorem natural?_eq_some_iff {ds : List Char} {n : Nat} :
    natural? ds = some n ↔ isDigits ds = true ∧ value 0 ds = n := by
  simp only [natural?, Option.ite_none_right_eq_some, Option.some.injEq]

theorem integer?_eq {cs : List Char} : integer? cs =
    (natural? (splitSign cs).2).map fun n : Nat => if (splitSign cs).1 then -(n : Int) else n := by
  show ((natural? (splitSign cs).2 >>= fun n => pure (n : Int)).map _ : Option Int) = _
  cases natural? (splitSign cs).2 <;> rfl

theorem integer?_eq_some_iff {cs : List Char} {n : Int} :
    integer? cs = some n ↔ IntegerText cs n := by
  rw [integer?_eq]
  constructor
  · intro h
    simp only [Option.map_eq_some_iff, natural?_eq_some_iff] at h
    obtain ⟨_, ⟨hd, rfl⟩, rfl⟩ := h
    unfold splitSign at hd ⊢
    split at hd
    · exact .minus hd
    · exact .plus hd
    · exact .unsigned hd
  · rintro (hd | hd | hd)
    · have hsplit := splitSign_digits hd []
      rw [List.append_nil] at hsplit
      rw [hsplit, natural?_of_isDigits hd]
      rfl
    · rw [splitSign, natural?_of_isDigits hd]
      rfl
    · rw [splitSign, natural?_of_isDigits hd]
      rfl

/-- The texts of the integers that 64 bits with a sign hold. -/
def IsInt64 (cs : List Char) : Prop := ∃ n, IntegerText cs n ∧ Word.signed64.holds n = true

theorem isSome_int64?_iff {cs : List Char} : (int64? cs).isSome = true ↔ IsInt64 cs := by
  simp only [int64?, Option.isSome_iff_exists, Option.filter_eq_some_iff, integer?_eq_some_iff,
    IsInt64]

/-! ## Leading zeros -/

theorem isDigits_iff {cs : List Char} :
    isDigits cs = true ↔ cs ≠ [] ∧ ∀ c ∈ cs, isDigit c = true := by
  simp [isDigits]

theorem digit_of_isDigit {c : Char} (h : isDigit c = true) :
    ∃ d < 10, c.toNat = '0'.toNat + d ∧ digit? c = some d ∧ digits d = [c] := by
  have hbounds : '0' ≤ c ∧ c ≤ '9' := by simpa [isDigit] using h
  have hlow : 48 ≤ c.toNat := hbounds.1
  have hhigh : c.toNat ≤ 57 := hbounds.2
  have hchar : Nat.digitChar (c.toNat - 48) = c := by
    apply Char.toNat_inj.1
    rw [Nat.toNat_digitChar_of_lt_ten (by omega)]
    omega
  refine ⟨c.toNat - 48, by omega, ?_, if_pos hbounds, ?_⟩
  · show c.toNat = 48 + (c.toNat - 48)
    omega
  · rw [digits, Nat.toDigits_of_lt_base (by omega), hchar]

/-- The value of digits is that of the library. -/
theorem value_eq_ofDigitChars {ds : List Char} (h : ∀ c ∈ ds, isDigit c = true) (start : Nat) :
    value start ds = Nat.ofDigitChars 10 ds start := by
  induction ds generalizing start with
  | nil => rfl
  | cons c ds ih =>
    rw [List.forall_mem_cons] at h
    obtain ⟨d, -, hc, hd, -⟩ := digit_of_isDigit h.1
    rw [Nat.ofDigitChars_cons, ← ih h.2, hc, Nat.add_sub_cancel_left]
    show value (10 * start + (digit? c).getD 0) ds = _
    rw [hd]
    rfl

/-- Digits are zeros, and the digits of their value unless that is zero. -/
theorem zeros_or_digits {ds : List Char} (h : ∀ c ∈ ds, isDigit c = true) :
    value 0 ds = 0 ∧ ds = List.replicate ds.length '0' ∨
      0 < value 0 ds ∧ ∃ zeros, ds = List.replicate zeros '0' ++ digits (value 0 ds) := by
  -- from the last digit, which is added to ten times the value of those before it
  induction ds using List.reverseRecOn with
  | nil => exact .inl ⟨rfl, rfl⟩
  | append_singleton ds c ih =>
    rw [List.forall_mem_append, List.forall_mem_singleton] at h
    obtain ⟨d, hlt, hc, hd, hdigits⟩ := digit_of_isDigit h.2
    have hvalue : value 0 (ds ++ [c]) = 10 * value 0 ds + d := by
      rw [value_append]
      show 10 * value 0 ds + (digit? c).getD 0 = _
      rw [hd]
      rfl
    rw [hvalue]
    rcases ih h.1 with ⟨hzero, hds⟩ | ⟨hpos, zeros, hds⟩
    · rw [hzero, Nat.mul_zero, Nat.zero_add]
      rcases Nat.eq_zero_or_pos d with rfl | hpos
      · left
        have hc : c = '0' := Char.toNat_inj.1 hc
        rw [hc, List.length_append, List.replicate_add, ← hds]
        exact ⟨rfl, rfl⟩
      · exact .inr ⟨hpos, ds.length, by rw [hdigits, ← hds]⟩
    · right
      refine ⟨by omega, zeros, ?_⟩
      have hlast : digits (value 0 ds) ++ digits d = digits (10 * value 0 ds + d) :=
        Nat.toDigits_append_toDigits (by decide) hpos hlt
      calc
        ds ++ [c] = List.replicate zeros '0' ++ digits (value 0 ds) ++ digits d := by
          rw [← hds, hdigits]
        _ = List.replicate zeros '0' ++ digits (10 * value 0 ds + d) := by
          rw [List.append_assoc, hlast]

theorem isDigit_of_mem_zeros {zeros n : Nat} :
    ∀ c ∈ List.replicate zeros '0' ++ digits n, isDigit c = true := by
  rw [List.forall_mem_append]
  exact ⟨fun c hc => List.eq_of_mem_replicate hc ▸ rfl, fun c => isDigit_of_mem_digits⟩

theorem value_zeros (zeros n : Nat) : value 0 (List.replicate zeros '0' ++ digits n) = n := by
  rw [value_eq_ofDigitChars isDigit_of_mem_zeros, Nat.ofDigitChars_append,
    Nat.ofDigitChars_replicate_zero, Nat.mul_zero]
  exact Nat.ofDigitChars_ten_toDigits

/-- The texts of a natural number other than zero. -/
theorem natural?_eq_some_iff_zeros {cs : List Char} {n : Nat} (hpos : 0 < n) :
    natural? cs = some n ↔ ∃ zeros, cs = List.replicate zeros '0' ++ digits n := by
  rw [natural?_eq_some_iff]
  constructor
  · rintro ⟨hdigits, rfl⟩
    rcases zeros_or_digits fun c => isDigit_of_isDigits hdigits with ⟨hzero, -⟩ | ⟨-, hzeros⟩
    · exact absurd hzero hpos.ne'
    · exact hzeros
  · rintro ⟨zeros, rfl⟩
    have hne : List.replicate zeros '0' ++ digits n ≠ [] :=
      List.append_ne_nil_of_right_ne_nil _ (digits_ne_nil n)
    exact ⟨isDigits_iff.2 ⟨hne, isDigit_of_mem_zeros⟩, value_zeros zeros n⟩

end PriceOverlay.Decimal
