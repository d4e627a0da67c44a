import Mathlib.Data.List.TakeDrop
import PriceOverlay.Proofs.Decimal.Integers
import PriceOverlay.Proofs.Settings.Environment
/-!
# Values that are printed again

The value of a variable becomes a flag, an integer or a number where it reads as one, and is
printed again where a text is wanted. The text is then the value itself only if the value was
written as it is printed: a flag in small letters, an integer without a plus or a zero to lead it,
any other number with its shortest digits. What cannot be read as any of these stays what it is.

**Results**
* `text?_setting`: the text that a value becomes.
* `reprinted_eq_self_iff`: the values that are written as they are printed.
* `verbatim_of_mem`: a value with a character that no number and no flag has is one of them.
* `verbatim_iff_of_isDigits`: so are digits, unless there are zeros to lead them.
-/
namespace PriceOverlay

/-! ## What numbers are made of -/

namespace Decimal

/-- Signs, a point, and the letters of `inf`, `infinity`, `nan` and of an exponent. -/
def numberMarks : List Char := ['+', '-', '.', 'a', 'e', 'f', 'i', 'n', 't', 'y']

/-- The characters of the texts that are read as numbers. -/
def inNumber (c : Char) : Bool := isDigit c || numberMarks.contains c.toLower

theorem inNumber_of_isDigit {c : Char} (h : isDigit c = true) : inNumber c = true := by
  rw [inNumber, h, Bool.true_or]

theorem inNumber_of_integer? {cs : List Char} {n : Int} (h : integer? cs = some n) :
    ∀ c ∈ cs, inNumber c = true := by
  have hdigits : ∀ ds : List Char, isDigits ds = true → ∀ c ∈ ds, inNumber c = true :=
    fun ds hds c hc => inNumber_of_isDigit ((isDigits_iff.1 hds).2 c hc)
  rcases integer?_eq_some_iff.1 h with hds | hds | hds
  · exact hdigits _ hds
  · exact List.forall_mem_cons.2 ⟨by decide, hdigits _ hds⟩
  · exact List.forall_mem_cons.2 ⟨by decide, hdigits _ hds⟩

theorem inNumber_of_exponent? {cs : List Char} {n : Int} (h : exponent? cs = some n) :
    ∀ c ∈ cs, inNumber c = true := by
  cases cs with
  | nil => exact List.forall_mem_nil _
  | cons c r =>
    obtain ⟨he, hr⟩ := Option.ite_none_right_eq_some.1 h
    refine List.forall_mem_cons.2 ⟨?_, inNumber_of_integer? hr⟩
    rcases he with rfl | rfl <;> decide

theorem inNumber_of_unsigned? {cs : List Char} {x : Float} (h : unsigned? cs = some x) :
    ∀ c ∈ cs, inNumber c = true := by
  have hwhile : ∀ ds : List Char, ∀ c ∈ ds.takeWhile isDigit, inNumber c = true :=
    fun ds c hc => inNumber_of_isDigit (List.mem_takeWhile_imp hc)
  have hrest : ∀ c ∈ cs.dropWhile isDigit, inNumber c = true := by
    unfold unsigned? at h
    dsimp only at h
    split at h
    · rename_i r hr
      obtain ⟨e, he, -⟩ := Option.map_eq_some_iff.1 (Option.ite_none_left_eq_some.1 h).2
      rw [hr, List.forall_mem_cons, ← List.takeWhile_append_dropWhile (p := isDigit) (l := r),
        List.forall_mem_append]
      exact ⟨by decide, hwhile r, inNumber_of_exponent? he⟩
    · obtain ⟨e, he, -⟩ := Option.map_eq_some_iff.1 (Option.ite_none_left_eq_some.1 h).2
      exact inNumber_of_exponent? he
  rw [← List.takeWhile_append_dropWhile (p := isDigit) (l := cs), List.forall_mem_append]
  exact ⟨hwhile cs, hrest⟩

theorem inNumber_of_float? {cs : List Char} {x : Float} (h : float? cs = some x) :
    ∀ c ∈ cs, inNumber c = true := by
  have hword : ∀ {w r : List Char}, w.all numberMarks.contains = true →
      r.map Char.toLower = w → ∀ c ∈ r, inNumber c = true := by
    rintro w r hw rfl c hc
    rw [inNumber, List.all_eq_true.1 hw _ (List.mem_map_of_mem hc), Bool.or_true]
  have hmagnitude : ∀ c ∈ (splitSign cs).2, inNumber c = true := by
    unfold float? at h
    dsimp only at h
    obtain ⟨y, hy, -⟩ := Option.map_eq_some_iff.1 h
    split at hy
    · rename_i hinf
      rcases hinf with hinf | hinf
      · exact hword (by decide) hinf
      · exact hword (by decide) hinf
    · split at hy
      · rename_i hnan
        exact hword (by decide) hnan
      · exact inNumber_of_unsigned? hy
  unfold splitSign at hmagnitude
  split at hmagnitude
  · exact List.forall_mem_cons.2 ⟨by decide, hmagnitude⟩
  · exact List.forall_mem_cons.2 ⟨by decide, hmagnitude⟩
  · exact hmagnitude

/-! ## Integers printed and read -/

theorem isDigits_digits (n : Nat) : isDigits (digits n) = true :=
  isDigits_iff.2 ⟨digits_ne_nil n, fun _ => isDigit_of_mem_digits⟩

theorem value_digits (n : Nat) : value 0 (digits n) = n := value_zeros 0 n

theorem toList_integer (n : Int) :
    (integer n).toList = sign (decide (n < 0)) ++ digits n.natAbs := String.toList_ofList

/-- An integer is read back from its text. -/
theorem integer?_integer (n : Int) : integer? (integer n).toList = some n := by
  have hvalue := value_digits n.natAbs
  have hdigits := isDigits_digits n.natAbs
  rw [toList_integer, integer?_eq_some_iff]
  by_cases hn : n < 0
  · have hneg : -(value 0 (digits n.natAbs) : Int) = n := by omega
    have hread := IntegerText.minus hdigits
    rw [hneg] at hread
    rwa [decide_eq_true hn]
  · have hpos : (value 0 (digits n.natAbs) : Int) = n := by omega
    have hread := IntegerText.unsigned hdigits
    rw [hpos] at hread
    rwa [decide_eq_false hn]

theorem value_lt {cs : List Char} (h : ∀ c ∈ cs, isDigit c = true) (start : Nat) :
    value start cs < (start + 1) * 10 ^ cs.length := by
  induction cs generalizing start with
  | nil =>
    show start < (start + 1) * 1
    omega
  | cons c r ih =>
    rw [List.forall_mem_cons] at h
    obtain ⟨d, hd, -, hc, -⟩ := digit_of_isDigit h.1
    have hstep : value start (c :: r) = value (10 * start + d) r := by
      show value (10 * start + (digit? c).getD 0) r = _
      rw [hc, Option.getD_some]
    calc
      value start (c :: r) = value (10 * start + d) r := hstep
      _ < (10 * start + d + 1) * 10 ^ r.length := ih h.2 _
      _ ≤ (start + 1) * 10 * 10 ^ r.length := Nat.mul_le_mul_right _ (by omega)
      _ = (start + 1) * 10 ^ (c :: r).length := by
        rw [List.length_cons, Nat.pow_succ', Nat.mul_assoc]

/-- No zero leads the digits of a number. -/
theorem head?_digits_ne {n : Nat} (h : 0 < n) : (digits n).head? ≠ some '0' := by
  intro hhead
  obtain ⟨r, hr⟩ := List.head?_eq_some_iff.1 hhead
  have hdigits : ∀ c ∈ r, isDigit c = true := fun c hc =>
    isDigit_of_mem_digits (n := n) (hr ▸ List.mem_cons_of_mem _ hc)
  have hvalue : value 0 r = n := by
    rw [← value_digits n, hr]
    rfl
  rcases zeros_or_digits hdigits with ⟨hzero, -⟩ | ⟨-, zeros, hr'⟩
  · omega
  · rw [hvalue] at hr'
    have hlength := congrArg List.length hr
    rw [hr', List.length_cons, List.length_append] at hlength
    omega

theorem integer_ne_empty (n : Int) : integer n ≠ "" := by
  refine ne_of_apply_ne String.toList ?_
  rw [toList_integer]
  exact List.append_ne_nil_of_right_ne_nil _ (digits_ne_nil _)

theorem plain_ne_empty (x : Float) : plain x ≠ "" := by
  have hpositional : ∀ (n : Nat) (e : Int), positional (digits n) e ≠ [] := by
    intro n e
    unfold positional
    split
    · exact List.append_ne_nil_of_left_ne_nil (digits_ne_nil n) _
    · exact List.append_ne_nil_of_right_ne_nil _ (List.cons_ne_nil _ _)
  refine ne_of_apply_ne String.toList ?_
  rw [plain, String.toList_ofList]
  split
  · exact nofun
  · exact List.append_ne_nil_of_right_ne_nil _ nofun
  · exact List.append_ne_nil_of_right_ne_nil _ nofun
  · exact List.append_ne_nil_of_right_ne_nil _ (hpositional _ _)

end Decimal

namespace Environment
open Decimal

/-! ## Flags -/

/-- The texts that are read as flags. -/
def IsFlag (v : String) : Prop := Text.lowered v = "true" ∨ Text.lowered v = "false"

def flagLetters : List Char := ['a', 'e', 'f', 'l', 'r', 's', 't', 'u']

theorem not_isFlag {v : String} {c : Char} (hc : c ∈ v.toList) (hlow : Text.lower c = [c])
    (hflag : flagLetters.contains c = false) : ¬ IsFlag v := by
  have hmem : c ∈ (Text.lowered v).toList := Text.mem_lowered.2 ⟨c, hc, by simp [hlow]⟩
  have hyes : "true".toList.all flagLetters.contains = true := by decide
  have hno : "false".toList.all flagLetters.contains = true := by decide
  rintro (h | h)
  · exact Bool.false_ne_true (hflag.symm.trans (List.all_eq_true.1 hyes c (h ▸ hmem)))
  · exact Bool.false_ne_true (hflag.symm.trans (List.all_eq_true.1 hno c (h ▸ hmem)))

theorem not_isFlag_of_isDigit {v : String} {c : Char} (hc : c ∈ v.toList) (h : isDigit c = true) :
    ¬ IsFlag v := by
  have hallowed : Name.allowed c = true := by simp [Name.allowed, h]
  refine not_isFlag hc (Name.lower_of_allowed hallowed) (Bool.eq_false_iff.2 fun hmem => ?_)
  have hletters : flagLetters.all (!isDigit ·) = true := by decide
  have hc := List.all_eq_true.1 hletters c (List.contains_iff_mem.1 hmem)
  rw [h] at hc
  cases hc

/-! ## The text of a value -/

/-- The text that the value of a variable becomes. -/
def reprinted (v : String) : String :=
  if Text.lowered v = "true" then "true"
  else if Text.lowered v = "false" then "false"
  else match int64? v.toList with
    | some n => integer n
    | none => match float? v.toList with
      | some x => plain x
      | none => v

theorem text?_setting (v : String) : (setting v).text? = some (reprinted v) := by
  unfold setting reprinted
  dsimp only
  split
  · rfl
  split
  · rfl
  cases int64? v.toList with
  | some n => rfl
  | none => cases float? v.toList <;> rfl

theorem reprinted_ne_empty {v : String} (h : v ≠ "") : reprinted v ≠ "" := by
  unfold reprinted
  split
  · decide
  split
  · decide
  split
  · exact integer_ne_empty _
  split
  · exact plain_ne_empty _
  · exact h

/-- The values that are written as they are printed. -/
inductive Verbatim : String → Prop
  | yes : Verbatim "true"
  | no : Verbatim "false"
  | integer {n : Int} (h : Word.signed64.holds n = true) : Verbatim (integer n)
  | number {v : String} {x : Float} (hflag : ¬ IsFlag v) (hint : int64? v.toList = none)
      (hread : float? v.toList = some x) (hplain : plain x = v) : Verbatim v
  | text {v : String} (hflag : ¬ IsFlag v) (hint : int64? v.toList = none)
      (hread : float? v.toList = none) : Verbatim v

theorem reprinted_of_not_isFlag {v : String} (h : ¬ IsFlag v) :
    reprinted v = match int64? v.toList with
      | some n => integer n
      | none => match float? v.toList with
        | some x => plain x
        | none => v := by
  rw [IsFlag, not_or] at h
  rw [reprinted, if_neg h.1, if_neg h.2]

theorem not_isFlag_integer (n : Int) : ¬ IsFlag (integer n) := by
  obtain ⟨c, hc⟩ := List.exists_mem_of_ne_nil _ (digits_ne_nil n.natAbs)
  refine not_isFlag_of_isDigit (c := c) ?_ (isDigit_of_mem_digits hc)
  rw [toList_integer]
  exact List.mem_append_right _ hc

theorem reprinted_eq_self_iff {v : String} : reprinted v = v ↔ Verbatim v := by
  constructor
  · intro h
    by_cases hflag : IsFlag v
    · rcases hflag with hyes | hno
      · rw [reprinted, if_pos hyes] at h
        exact h ▸ .yes
      · rw [reprinted, hno, if_neg (by decide), if_pos rfl] at h
        exact h ▸ .no
    · rw [reprinted_of_not_isFlag hflag] at h
      split at h
      · rename_i n hn
        exact h ▸ .integer (Option.filter_eq_some_iff.1 hn).2
      · rename_i hint
        split at h
        · rename_i x hread
          exact .number hflag hint hread h
        · rename_i hread
          exact .text hflag hint hread
  · rintro (_ | _ | hn | ⟨hflag, hint, hread, hplain⟩ | ⟨hflag, hint, hread⟩)
    · rfl
    · rfl
    · rename_i n
      rw [reprinted_of_not_isFlag (not_isFlag_integer n), int64?, integer?_integer,
        Option.filter_some, if_pos hn]
    · rw [reprinted_of_not_isFlag hflag, hint, hread]
      exact hplain
    · rw [reprinted_of_not_isFlag hflag, hint, hread]

/-! ## Values of one kind -/

/-- A value stays what it is if one of its characters is in no number and in no flag. -/
theorem verbatim_of_mem {v : String} {c : Char} (hc : c ∈ v.toList) (hlow : Text.lower c = [c])
    (hnumber : inNumber c = false) (hflag : flagLetters.contains c = false) : Verbatim v := by
  have hint : int64? v.toList = none := by
    rw [int64?, Option.filter_eq_none_iff]
    intro n hn
    exact absurd (inNumber_of_integer? hn c hc) (Bool.eq_false_iff.1 hnumber)
  have hfloat : float? v.toList = none := by
    rw [Option.eq_none_iff_forall_ne_some]
    intro x hx
    exact Bool.eq_false_iff.1 hnumber (inNumber_of_float? hx c hc)
  exact .text (not_isFlag hc hlow hflag) hint hfloat

/-- Up to eighteen digits are printed again without the zeros that lead them. -/
theorem reprinted_of_isDigits {v : String} (h : isDigits v.toList = true)
    (hlength : v.toList.length ≤ 18) :
    reprinted v = String.ofList (digits (value 0 v.toList)) := by
  obtain ⟨c, r, hv, hc⟩ := head?_of_isDigits h
  have hlt : value 0 v.toList < 10 ^ 18 := calc
    value 0 v.toList < (0 + 1) * 10 ^ v.toList.length := value_lt (isDigits_iff.1 h).2 0
    _ ≤ 10 ^ 18 := by
      rw [Nat.zero_add, Nat.one_mul]
      exact Nat.pow_le_pow_right (by decide) hlength
  have hholds : Word.signed64.holds (value 0 v.toList) = true := by
    rw [Word.holds, decide_eq_true_eq]
    show -0x8000000000000000 ≤ (value 0 v.toList : Int) ∧ _ ≤ (0x7FFFFFFFFFFFFFFF : Int)
    omega
  have hint : int64? v.toList = some (value 0 v.toList : Int) := by
    rw [int64?, integer?_eq_some_iff.2 (.unsigned h), Option.filter_some, if_pos hholds]
  rw [reprinted_of_not_isFlag (not_isFlag_of_isDigit (hv ▸ List.mem_cons_self) hc), hint]
  rfl

/-- Up to eighteen digits stay what they are unless there are zeros to lead them. -/
theorem verbatim_iff_of_isDigits {v : String} (h : isDigits v.toList = true)
    (hlength : v.toList.length ≤ 18) :
    Verbatim v ↔ v = "0" ∨ v.toList.head? ≠ some '0' := by
  have hprinted : reprinted v = v ↔ digits (value 0 v.toList) = v.toList := by
    rw [reprinted_of_isDigits h hlength, ← String.toList_inj, String.toList_ofList]
  rw [← reprinted_eq_self_iff, hprinted]
  rcases zeros_or_digits (isDigits_iff.1 h).2 with ⟨hzero, hzeros⟩ | ⟨hpos, zeros, hzeros⟩
  · -- only zeros, which are printed as a single one
    have hprint : digits 0 = "0".toList := rfl
    have hhead : v.toList.head? = some '0' := by
      obtain ⟨c, r, hv, -⟩ := head?_of_isDigits h
      have hc : c = '0' := List.eq_of_mem_replicate (hzeros ▸ hv ▸ List.mem_cons_self)
      rw [hv, hc, List.head?_cons]
    rw [hzero, hprint, String.toList_inj]
    exact ⟨fun h => .inl h.symm, fun h => (h.resolve_right (absurd hhead)).symm⟩
  · cases zeros with
    | zero =>
      have hv : v.toList = digits (value 0 v.toList) := hzeros
      exact iff_of_true hv.symm (.inr (hv ▸ head?_digits_ne hpos))
    | succ zeros =>
      have hhead : v.toList.head? = some '0' := by rw [hzeros]; rfl
      have hlonger : digits (value 0 v.toList) ≠ v.toList := fun he => by
        have hlength := congrArg List.length (he.trans hzeros)
        rw [List.length_append, List.length_replicate] at hlength
        omega
      have hne : v ≠ "0" := fun hv => by
        rw [hv] at hpos
        exact absurd hpos (by decide)
      exact iff_of_false hlonger (not_or.2 ⟨hne, not_not.2 hhead⟩)

end Environment
end PriceOverlay
