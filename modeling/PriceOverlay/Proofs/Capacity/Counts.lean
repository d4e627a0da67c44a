import Mathlib.Algebra.Order.BigOperators.Group.List
import Mathlib.Algebra.Order.Group.Nat
import PriceOverlay.Capacity.Decision
import PriceOverlay.Proofs.Decimal.Order
import PriceOverlay.Proofs.Lookup
/-!
# Counts of reserved instances

A count comes as a double. It is rounded to whole instances, and what is more than a word of 64 bits
holds is cut down to the word. The counts of a key are then added up in such a word, and nothing
cuts down the sum: samples whose instances together outgrow the word have no sums at all. All other
samples have the exact ones, and the overlay of a key is wanted if one of its samples has an
instance.

**Results**
* `ReservedSample.counts_iff`: the whole instances of a sample.
* `ReservedTotals.foldlM_add?_eq_some_iff`: sums in words are the exact sums, as long as those fit.
* `ReservedTotals.ofSamples?_eq_none_iff`: there are no sums if the instances of a key outgrow a word.
* `ReservedTotals.exact_unless_outgrown`: when there are sums, what they are and what follows.
-/
namespace PriceOverlay

/-! ## One sample -/

/-- The whole instances that a sample stands for: none unless its count is finite and positive, else
the number nearest to the count, a half going up, as far as a word of 64 bits holds it. -/
inductive ReservedSample.Counts (s : ReservedSample) : Nat → Prop
  | nothing (unusable : ∀ q, Decimal.rational? s.count = some q → q ≤ 0) : s.Counts 0
  | whole {q : Rat} {n : Nat} (value : Decimal.rational? s.count = some q) (positive : 0 < q)
      (rounded : Decimal.IsRounded q n) : s.Counts (min n (2 ^ 64 - 1))

namespace ReservedSample

variable {s : ReservedSample}

theorem instances_of_rounded {q : Rat} {n : Nat} (hvalue : Decimal.rational? s.count = some q)
    (h : Decimal.IsRounded q n) : s.instances = min n (2 ^ 64 - 1) := by
  rw [instances, Decimal.nearest?, hvalue, Option.map_some, ← Decimal.isRounded_iff.1 h]
  simp only [Word.clamp, Word.unsigned64]
  omega

theorem instances_of_unusable (h : ∀ q, Decimal.rational? s.count = some q → q ≤ 0) :
    s.instances = 0 := by
  rw [instances, Decimal.nearest?]
  cases hvalue : Decimal.rational? s.count with
  | none => rfl
  | some q =>
    have hn := Decimal.roundAway_nonpos (h q hvalue)
    simp only [Option.map_some, Word.clamp, Word.unsigned64]
    omega

theorem counts_iff {n : Nat} : s.Counts n ↔ n = s.instances := by
  constructor
  · rintro (hunusable | ⟨hvalue, -, hrounded⟩)
    · exact (instances_of_unusable hunusable).symm
    · exact (instances_of_rounded hvalue hrounded).symm
  · rintro rfl
    by_cases h : ∀ q, Decimal.rational? s.count = some q → q ≤ 0
    · rw [instances_of_unusable h]
      exact .nothing h
    · push Not at h
      obtain ⟨q, hvalue, hpositive⟩ := h
      have hrounded := Decimal.isRounded_roundAway q
      obtain ⟨n, hn⟩ := Int.eq_ofNat_of_zero_le (hrounded.nonneg hpositive.le)
      rw [hn] at hrounded
      rw [instances_of_rounded hvalue hrounded]
      exact .whole hvalue hpositive hrounded

/-- Whether a sample counts for a key: it names an instance type and a region, those of the key. -/
def CountsFor (s : ReservedSample) (k : ReservedKey) : Prop :=
  s.instanceType ≠ "" ∧ s.region ≠ "" ∧ ⟨s.instanceType, s.region⟩ = k
  deriving Decidable

theorem key?_eq_some_iff {k : ReservedKey} : s.key? = some k ↔ s.CountsFor k := by
  simp only [key?, CountsFor, Bool.or_eq_true, String.isEmpty_iff]
  split_ifs with h
  · simp only [false_iff]
    tauto
  · rw [not_or] at h
    simp only [Option.some.injEq, ne_eq, h.1, h.2, not_false_eq_true, true_and]

end ReservedSample

/-! ## Sums in words -/

/-- The instances of all samples of a key. -/
def ReservedKey.total (k : ReservedKey) (samples : List ReservedSample) : Nat :=
  ((samples.filter (·.CountsFor k)).map (·.instances)).sum

/-- No key counts more than all samples together. -/
theorem ReservedKey.total_lt {samples : List ReservedSample} {n : Nat}
    (h : (samples.map (·.instances)).sum < n) (k : ReservedKey) : k.total samples < n :=
  Nat.lt_of_le_of_lt ((List.filter_sublist.map _).sum_le_sum fun _ _ => Nat.zero_le _) h

namespace ReservedTotals

/-- Adds a sample exactly. -/
def add (t : ReservedTotals) (s : ReservedSample) : ReservedTotals :=
  match s.key? with
  | none => t
  | some k => t.adjust k 0 (· + s.instances)

/-- The exact sums. -/
def ofSamples (samples : List ReservedSample) : ReservedTotals := samples.foldl add ∅

theorem add_eq (t : ReservedTotals) (x : ReservedSample) :
    t.add x = x.key?.elim t fun k => t.adjust k 0 (· + x.instances) := by
  unfold add
  cases x.key? <;> rfl

/-- Each key counts the instances of its own samples. -/
theorem getD_get?_foldl (l : List ReservedSample) (t : ReservedTotals) (k : ReservedKey) :
    ((l.foldl add t).get? k).getD 0 =
      (t.get? k).getD 0 + ((l.filter fun x => x.key? = some k).map (·.instances)).sum := by
  rw [Table.getD_get?_foldl_adjust add_eq]
  generalize (t.get? k).getD 0 = n
  induction l.filter _ generalizing n with
  | nil => rfl
  | cons x r ih =>
    rw [List.foldl_cons, ih, List.map_cons, List.sum_cons, Nat.add_assoc]

/-- Every sum fits an unsigned word of 64 bits. -/
def Fits (t : ReservedTotals) : Prop := ∀ k, (t.get? k).getD 0 < 2 ^ 64

theorem fits_empty : Fits ∅ := fun _ => Nat.two_pow_pos 64

theorem fits_insert_iff {t : ReservedTotals} (h : t.Fits) {k : ReservedKey} {n : Nat} :
    Fits (t.insert k n) ↔ n < 2 ^ 64 := by
  constructor
  · intro hfits
    simpa only [Table.get?_insert_eq, if_true, Option.getD_some] using hfits k
  · intro hn j
    rw [Table.get?_insert_eq]
    split_ifs
    · exact hn
    · exact h j

theorem holds_iff {n : Nat} : Word.unsigned64.holds n = true ↔ n < 2 ^ 64 := by
  rw [Word.holds, decide_eq_true_iff]
  dsimp only [Word.unsigned64]
  omega

/-- Adding one sample in words is adding it, if the sums that come of it fit. -/
theorem add?_eq_some_iff {t u : ReservedTotals} {s : ReservedSample} (h : t.Fits) :
    t.add? s = some u ↔ u = t.add s ∧ u.Fits := by
  unfold add? add
  cases hk : s.key? with
  | none =>
    simp only [Option.some.injEq, eq_comm (a := t)]
    exact ⟨fun hu => ⟨hu, hu ▸ h⟩, And.left⟩
  | some k =>
    dsimp only [Table.adjust]
    split_ifs with hholds <;> rw [holds_iff, ← fits_insert_iff h (k := k)] at hholds
    · rw [Option.some.injEq, eq_comm]
      exact ⟨fun hu => ⟨hu, hu ▸ hholds⟩, And.left⟩
    · simp only [false_iff, not_and]
      rintro rfl
      exact hholds

/-- Sums do not shrink, so those that fit in the end did all along. -/
theorem Fits.of_foldl {t : ReservedTotals} {l : List ReservedSample} (h : Fits (l.foldl add t)) :
    t.Fits := by
  intro k
  have hk := h k
  rw [getD_get?_foldl] at hk
  omega

/-- Adding up in words is adding up exactly, as long as the exact sums fit. -/
theorem foldlM_add?_eq_some_iff {l : List ReservedSample} {t u : ReservedTotals} (h : t.Fits) :
    l.foldlM add? t = some u ↔ u = l.foldl add t ∧ u.Fits := by
  induction l generalizing t with
  | nil => exact ⟨fun hu => Option.some.inj hu ▸ ⟨rfl, h⟩, fun hu => congrArg some hu.1.symm⟩
  | cons s r ih =>
    simp only [List.foldlM_cons, Option.bind_eq_bind, Option.bind_eq_some_iff, add?_eq_some_iff h,
      List.foldl_cons]
    constructor
    · rintro ⟨v, ⟨rfl, hv⟩, hu⟩
      exact (ih hv).1 hu
    · rintro ⟨rfl, hu⟩
      exact ⟨_, ⟨rfl, hu.of_foldl⟩, (ih hu.of_foldl).2 ⟨rfl, hu⟩⟩

theorem getD_get?_ofSamples (samples : List ReservedSample) (k : ReservedKey) :
    ((ofSamples samples).get? k).getD 0 = k.total samples := by
  rw [ofSamples, getD_get?_foldl, Table.get?_empty, Option.getD_none, Nat.zero_add]
  simp only [ReservedSample.key?_eq_some_iff, ReservedKey.total]

theorem ofSamples?_eq_some_iff {samples : List ReservedSample} {t : ReservedTotals} :
    ofSamples? samples = some t ↔
      t = ofSamples samples ∧ ∀ k : ReservedKey, k.total samples < 2 ^ 64 := by
  rw [ofSamples?, foldlM_add?_eq_some_iff fits_empty, ← ofSamples]
  refine and_congr_right fun ht => ?_
  simp only [ht, Fits, getD_get?_ofSamples]

/-- The sums are those of the keys of the samples. -/
theorem get?_ofSamples (samples : List ReservedSample) (k : ReservedKey) :
    (ofSamples samples).get? k =
      if ∃ s ∈ samples, s.CountsFor k then some (k.total samples) else none := by
  have hget := Table.get?_foldl_adjust add_eq samples ∅ k
  have hsum := getD_get?_ofSamples samples k
  simp only [ReservedSample.key?_eq_some_iff] at hget
  rw [ofSamples, hget] at hsum ⊢
  split_ifs at hsum ⊢ with h
  · rw [← hsum, Option.getD_some]
  · rfl

theorem ofSamples?_eq_none_iff {samples : List ReservedSample} :
    ofSamples? samples = none ↔ ∃ k : ReservedKey, 2 ^ 64 ≤ k.total samples := by
  simp only [Option.eq_none_iff_forall_ne_some, ne_eq, ofSamples?_eq_some_iff, not_and, not_forall,
    Nat.not_lt, forall_eq]

/-- As long as the instances of every key fit a word, there are sums, and they are exact. -/
theorem exists_ofSamples? {samples : List ReservedSample}
    (h : ∀ k : ReservedKey, k.total samples < 2 ^ 64) :
    ∃ t, ofSamples? samples = some t ∧ ∀ e ∈ t.entries, e.2 = e.1.total samples := by
  refine ⟨ofSamples samples, ofSamples?_eq_some_iff.2 ⟨rfl, h⟩, fun e he => ?_⟩
  rw [← getD_get?_ofSamples, Table.get?_eq_some_iff.2 he, Option.getD_some]

/-- A key has an instance if one of its samples has. -/
theorem total_pos_iff {samples : List ReservedSample} {k : ReservedKey} :
    0 < k.total samples ↔ ∃ s ∈ samples, s.CountsFor k ∧ 1 ≤ s.instances := by
  rw [ReservedKey.total, Nat.pos_iff_ne_zero, ne_eq, List.sum_eq_zero_iff, List.forall_mem_map]
  simp only [List.mem_filter, decide_eq_true_eq, and_imp, not_forall, exists_prop,
    Nat.one_le_iff_ne_zero, ne_eq]

/-- **Counting.** Every sample counts for the whole instances nearest to its count, and a list of
samples has sums in words if and only if the instances of no key outgrow a word. Then the keys of
the samples have their exact sums, no other key has one, and a key is decided to have its overlay
exactly if one of its samples counts for an instance. -/
theorem exact_unless_outgrown (samples : List ReservedSample) :
    (∀ (s : ReservedSample) n, s.Counts n ↔ n = s.instances) ∧
    ((ofSamples? samples).isSome ↔ ∀ k : ReservedKey, k.total samples < 2 ^ 64) ∧
    ∀ t, ofSamples? samples = some t → ∀ k,
      t.get? k = (if ∃ s ∈ samples, s.CountsFor k then some (k.total samples) else none) ∧
      ∀ n, t.get? k = some n → ∀ rules : DecisionRules,
        (rules.reserved k n).shouldExist ↔
          ∃ s ∈ samples, s.CountsFor k ∧ ∃ m, s.Counts m ∧ 1 ≤ m := by
  refine ⟨fun _ _ => ReservedSample.counts_iff, ?_, fun t ht k => ?_⟩
  · simp only [Option.isSome_iff_exists, ofSamples?_eq_some_iff, exists_eq_left]
  · obtain ⟨rfl, -⟩ := ofSamples?_eq_some_iff.1 ht
    refine ⟨get?_ofSamples samples k, fun n hn rules => ?_⟩
    have htotal : n = k.total samples := by
      rw [← getD_get?_ofSamples, hn, Option.getD_some]
    simp only [DecisionRules.reserved, decide_eq_true_eq, htotal, total_pos_iff,
      ReservedSample.counts_iff, exists_eq_left]

/-- Two samples of one key, a sample without region, and one that rounds to nothing. -/
def fractions : List ReservedSample :=
  [⟨"m5.large", "us-east-1", 2.5, default⟩, ⟨"m5.large", "", 7, default⟩,
    ⟨"m5.large", "us-east-1", 0.4, default⟩, ⟨"r6i.large", "us-east-1", 0.4, default⟩]

theorem exact_unless_outgrown_fractions :
    ∃ t, ofSamples? fractions = some t ∧ t.get? ⟨"m5.large", "us-east-1"⟩ = some 3 ∧
      t.get? ⟨"m5.large", ""⟩ = none ∧
      (DecisionRules.reserved {} ⟨"m5.large", "us-east-1"⟩ 3).shouldExist = true := by
  obtain ⟨hcounts, -, hsums⟩ := exact_unless_outgrown fractions
  have hsome : (ofSamples? fractions).isSome := by decide +kernel
  obtain ⟨t, ht⟩ := Option.isSome_iff_exists.1 hsome
  obtain ⟨hget, hwanted⟩ := hsums t ht ⟨"m5.large", "us-east-1"⟩
  have hthree : t.get? ⟨"m5.large", "us-east-1"⟩ = some 3 := hget.trans (by decide +kernel)
  obtain ⟨hnone, -⟩ := hsums t ht ⟨"m5.large", ""⟩
  refine ⟨t, ht, hthree, hnone.trans (by decide +kernel), (hwanted 3 hthree {}).2 ?_⟩
  have hlarge := (hcounts ⟨"m5.large", "us-east-1", 2.5, default⟩ 3).2 (by decide +kernel)
  exact ⟨_, List.mem_cons_self, by decide, 3, hlarge, by decide⟩

/-- The greatest count that a word holds and one instance more have no sum. -/
theorem outgrown_by_one :
    ofSamples? [⟨"m5.large", "us-east-1", 18446744073709551615, default⟩,
        ⟨"m5.large", "us-east-1", 1, default⟩] = none ∧
      ReservedKey.total ⟨"m5.large", "us-east-1"⟩
        [⟨"m5.large", "us-east-1", 18446744073709551615, default⟩,
          ⟨"m5.large", "us-east-1", 1, default⟩] = 2 ^ 64 := by
  decide +kernel

end ReservedTotals
end PriceOverlay
