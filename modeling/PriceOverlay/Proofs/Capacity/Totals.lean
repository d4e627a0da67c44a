import PriceOverlay.Proofs.Capacity.Analysis
/-!
# Sums of savings plans

The sums are made in two passes over one table: what remains is added up, then the use is set. A
sample enters one field of the row of its key, and makes the row if there is none. So a row says of
its key what its samples say in their order, whatever stands between them: other keys, the other
kind, and samples that name no key.

Nothing is asked of the addition of doubles, which is not associative: what remains is the
left-to-right sum from zero of the samples of the key.

**Results**
* `PlanSample.key?_eq_some_iff`: the key of a sample, told by its fields.
* `PlanTotals.get?_ofSamples`: the row of a key.
* `PlanTotals.summed_by_key`: the rows, and what may change in the lists without changing them.
-/
namespace PriceOverlay

/-! ## The samples of a key -/

/-- Whether a sample counts for a key. All global samples do for the one global key; a regional one
needs family and region. -/
def PlanSample.CountsFor (s : PlanSample) : PlanKey → Bool
  | .global => s.kind = .global
  | .regional family region =>
    s.kind = .regional ∧ s.family = some family ∧ s.region = some region ∧
      family ≠ "" ∧ region ≠ ""

theorem PlanSample.key?_eq_some_iff {s : PlanSample} {kind : PlanKind} {k : PlanKey} :
    s.key? kind = some k ↔ s.kind = kind ∧ s.CountsFor k := by
  obtain ⟨kind', family, region⟩ := s
  simp only [key?, CountsFor]
  split_ifs with hne
  · simp only [false_iff, not_and]
    exact fun h => absurd h hne
  · obtain rfl := not_not.1 hne
    cases kind' with
    | global => cases k <;> simp
    | regional =>
      cases k <;> cases family <;> cases region <;> grind [String.isEmpty_iff]

/-- The values of the samples of a kind that count for a key. -/
def PlanKey.values (k : PlanKey) (kind : PlanKind) (samples : List PlanSample) : List Float :=
  (samples.filter fun s => s.kind = kind ∧ s.CountsFor k).map (·.value)

theorem PlanKey.values_ne_nil_iff {k : PlanKey} {kind : PlanKind} {samples : List PlanSample} :
    k.values kind samples ≠ [] ↔ ∃ s ∈ samples, s.kind = kind ∧ s.CountsFor k := by
  simp only [values, ne_eq, List.map_eq_nil_iff, List.filter_eq_nil_iff, not_forall,
    decide_eq_true_eq, not_not, exists_prop]

namespace PlanTotals

variable {kind : PlanKind}

/-! ## Rows -/

theorem foldl_remaining (l : List PlanSample) (a : PlanTotal) :
    l.foldl (fun a s => { a with remaining := a.remaining + s.value }) a =
      { a with remaining := (l.map (·.value)).foldl (· + ·) a.remaining } := by
  induction l generalizing a with
  | nil => rfl
  | cons s r ih => rw [List.foldl_cons, ih, List.map_cons, List.foldl_cons]

theorem foldl_utilization (l : List PlanSample) (a : PlanTotal) :
    l.foldl (fun a s => { a with utilization := s.value }) a =
      { a with utilization := (l.map (·.value)).getLast?.getD a.utilization } := by
  induction l generalizing a with
  | nil => rfl
  | cons s r ih =>
    rw [List.foldl_cons, ih, List.map_cons, List.getLast?_cons, Option.getD_some]

/-- The row of a key has the sum of what remains and the last use that its samples say. -/
theorem get?_ofSamples (remaining utilization : List PlanSample) (k : PlanKey) :
    (ofSamples kind remaining utilization).get? k =
      if ∃ s ∈ remaining ++ utilization, s.kind = kind ∧ s.CountsFor k then
        some ⟨(k.values kind remaining).foldl (· + ·) 0,
          (k.values kind utilization).getLast?.getD 0⟩
      else none := by
  have hremaining := Table.get?_foldl_adjust (@addRemaining_eq kind) remaining ∅ k
  have hutilization := Table.get?_foldl_adjust (@setUtilization_eq kind) utilization
    (remaining.foldl (addRemaining kind) ∅) k
  simp only [PlanSample.key?_eq_some_iff, foldl_remaining, foldl_utilization,
    ← PlanKey.values.eq_1] at hremaining hutilization
  rw [ofSamples, hutilization, hremaining]
  simp only [List.mem_append, or_and_right, exists_or, ← PlanKey.values_ne_nil_iff,
    Table.get?_empty, Option.getD_none, PlanTotal.zero]
  -- of each list either no sample counts for the key, or its field does not start from zero
  by_cases hr : k.values kind remaining = [] <;> by_cases hu : k.values kind utilization = [] <;>
    simp [hr, hu]

/-- **Sums.** The rows are those of the keys that samples of the kind in either list count for. A
row has what remains added up from zero in the order of the samples of its key, and the last use
that they say; zero where they say none. Lists that have the same values in the same order for each
key have the same rows. -/
theorem summed_by_key (kind : PlanKind) (remaining utilization : List PlanSample) :
    (∀ k, (ofSamples kind remaining utilization).get? k =
      if ∃ s ∈ remaining ++ utilization, s.kind = kind ∧ s.CountsFor k then
        some ⟨(k.values kind remaining).foldl (· + ·) 0,
          (k.values kind utilization).getLast?.getD 0⟩
      else none) ∧
    ∀ remaining' utilization',
      (∀ k : PlanKey, k.values kind remaining' = k.values kind remaining) →
      (∀ k : PlanKey, k.values kind utilization' = k.values kind utilization) →
      ofSamples kind remaining' utilization' = ofSamples kind remaining utilization := by
  refine ⟨get?_ofSamples _ _, fun remaining' utilization' hr hu => ?_⟩
  refine Table.ext_get? fun k => ?_
  simp only [get?_ofSamples, List.mem_append, or_and_right, exists_or,
    ← PlanKey.values_ne_nil_iff, hr, hu]

/-- Keys take turns in another order, between samples that count for none. -/
theorem summed_by_key_interleaved :
    let west (value) : PlanSample := ⟨.regional, some "m5", some "us-west-2", value, default⟩
    let east (value) : PlanSample := ⟨.regional, some "m5", some "us-east-1", value, default⟩
    let unkeyed : PlanSample := ⟨.regional, some "m5", none, 7, default⟩
    let other : PlanSample := ⟨.global, none, none, 9, default⟩
    ofSamples .regional [other, east 4, west 1, unkeyed, west 2] [west 50, unkeyed, west 60] =
        ofSamples .regional [west 1, west 2, east 4] [west 50, west 60] ∧
      (ofSamples .regional [west 1, west 2, east 4] [west 50, west 60]).get?
        (.regional "m5" "us-west-2") = some ⟨0 + 1 + 2, 60⟩ := by
  intro west east unkeyed other
  obtain ⟨hget, hsame⟩ := summed_by_key .regional [west 1, west 2, east 4] [west 50, west 60]
  refine ⟨hsame _ _ (fun k => ?_) (fun k => ?_), (hget _).trans (by decide +kernel)⟩
  · cases k with
    | global => rfl
    | regional family region =>
      -- no key is that of east and that of west
      by_cases h : "us-west-2" = region
      · subst h
        simp [PlanKey.values, PlanSample.CountsFor, List.filter_cons, west, east, unkeyed, other]
      · simp [PlanKey.values, PlanSample.CountsFor, List.filter_cons, west, east, unkeyed, other, h]
  · cases k with
    | global => rfl
    | regional family region =>
      simp [PlanKey.values, PlanSample.CountsFor, List.filter_cons, west, unkeyed]

end PlanTotals
end PriceOverlay
