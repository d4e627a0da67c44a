import PriceOverlay.Proofs.Capacity.Analysis
/-!
# What an analysis accounts for

Three commitments in two families are analyzed with seven queries, each of which may fail. An
analysis answers for every commitment: it is analyzed, or one record of what was skipped covers it,
alone or with its family. What is decided on a commitment depends on the age of its family and on
its own queries, and on nothing else.

**Results**
* `tally_analyze`: each commitment is counted once.
* `ages_analyze`: the ages that are told.
* `analyze_congr`: an analysis depends on the queries that it asks.
* `analyze_accounts`: the account that an analysis gives of a source.
-/
namespace PriceOverlay

/-- The commitment that a query is for; an age is asked for a whole family. -/
def CapacityQuery.commitment? : CapacityQuery → Option Commitment
  | capacity kind | utilization kind => some kind.commitment
  | reserved => some .reserved
  | age _ => none

theorem Commitment.mem_queries_iff {k : Commitment} {q : CapacityQuery} :
    q ∈ k.queries ↔ q.commitment? = some k := by
  cases q with
  | capacity kind => cases kind <;> cases k <;> decide
  | utilization kind => cases kind <;> cases k <;> decide
  | reserved => cases k <;> decide
  | age family => cases family <;> cases k <;> decide

/-- Two sources treat a query alike. -/
def CapacitySource.Agrees (s s' : CapacitySource) : CapacityQuery → Prop
  | .capacity kind => s.capacity kind = s'.capacity kind
  | .utilization kind => s.utilization kind = s'.utilization kind
  | .reserved => s.reserved = s'.reserved
  | .age family => s.age family = s'.age family

/-- Whether a record of what was skipped covers a commitment: its family as a whole, or alone. -/
def Skipped.covers (x : Skipped) (k : Commitment) : Bool :=
  x.family = k.family && (x.commitment.isNone || x.commitment = some k)

/-- What an analysis tells of a source: each commitment is analyzed, or one record of what was
skipped covers it; those that are ready are analyzed, in their order; the decisions are the verdicts
on them, and on no other commitment; and every age that is known is listed. -/
structure Analyzer.Accounts (z : Analyzer) (s : CapacitySource) (a : Analysis) : Prop where
  once : ∀ k, a.analyzed.count k + a.skipped.countP (·.covers k) = 1
  analyzed : a.analyzed = Commitment.all.filter (z.ready s)
  decisions : a.decisions = a.analyzed.flatMap (z.verdicts s)
  own : ∀ d ∈ a.decisions, d.commitment ∈ a.analyzed
  ages : a.ages = DataFamily.all.filterMap fun family => (s.age family).toOption.map (family, ·)

/-! ## Each commitment once -/

namespace Analysis

/-- How often a commitment is accounted for. -/
def tally (a : Analysis) (k : Commitment) : Nat :=
  a.analyzed.count k + a.skipped.countP (·.covers k)

theorem tally_append (a b : Analysis) (k : Commitment) :
    (a ++ b).tally k = a.tally k + b.tally k := by
  show (a.analyzed ++ b.analyzed).count k + (a.skipped ++ b.skipped).countP (·.covers k) = _
  rw [List.count_append, List.countP_append, tally, tally]
  omega

end Analysis

namespace Analyzer

variable {z : Analyzer} {s s' : CapacitySource} {family : DataFamily} {k : Commitment}

theorem tally_plans (kind : PlanKind) (k : Commitment) :
    (z.plans s kind).tally k = if k = kind.commitment then 1 else 0 := by
  unfold plans
  split
  · cases kind <;> cases k <;> rfl
  · split <;> cases kind <;> cases k <;> rfl

theorem tally_reserved (k : Commitment) :
    (z.reserved s).tally k = if k = .reserved then 1 else 0 := by
  unfold reserved
  split
  · cases k <;> rfl
  · split <;> cases k <;> rfl

/-- A family that is skipped is accounted for as a whole. -/
theorem tally_gated {fresh : Analysis}
    (hfresh : fresh.tally k = if k.family = family then 1 else 0) :
    (z.gated s family fresh).tally k = if k.family = family then 1 else 0 := by
  have hskip : ∀ cause, (Analysis.skip ⟨family, none, cause⟩).tally k =
      if k.family = family then 1 else 0 := by
    intro cause
    cases family <;> cases k <;> rfl
  unfold gated
  split
  · exact hskip _
  · dsimp only
    split
    · rw [Analysis.tally_append, hskip]
      exact Nat.zero_add _
    · rw [Analysis.tally_append, hfresh]
      exact Nat.zero_add _

theorem tally_analyze (z : Analyzer) (s : CapacitySource) (k : Commitment) :
    (z.analyze s).tally k = 1 := by
  have hplans : (z.plans s .global ++ z.plans s .regional).tally k =
      if k.family = .savingsPlans then 1 else 0 := by
    rw [Analysis.tally_append, tally_plans, tally_plans]
    cases k <;> rfl
  have hreserved : (z.reserved s).tally k = if k.family = .reservedInstances then 1 else 0 := by
    rw [tally_reserved]
    cases k <;> rfl
  show (z.gated s _ _ ++ z.gated s _ _).tally k = 1
  rw [Analysis.tally_append, tally_gated hplans, tally_gated hreserved]
  cases k <;> rfl

/-! ## Ages -/

theorem ages_plans (kind : PlanKind) : (z.plans s kind).ages = [] := by
  unfold plans
  split
  · rfl
  · split <;> rfl

theorem ages_reserved : (z.reserved s).ages = [] := by
  unfold reserved
  split
  · rfl
  · split <;> rfl

theorem ages_gated {a : Analysis} (h : a.ages = []) :
    (z.gated s family a).ages = ((s.age family).toOption.map (family, ·)).toList := by
  unfold gated
  cases s.age family with
  | error e => rfl
  | ok age =>
    dsimp only
    split
    · rfl
    · show [(family, age)] ++ a.ages = _
      rw [h]
      rfl

theorem ages_analyze (z : Analyzer) (s : CapacitySource) : (z.analyze s).ages =
    DataFamily.all.filterMap fun family => (s.age family).toOption.map (family, ·) := by
  have hplans : (z.plans s .global ++ z.plans s .regional).ages = [] := by
    show (z.plans s _).ages ++ (z.plans s _).ages = []
    rw [ages_plans, ages_plans, List.append_nil]
  show (z.gated s _ _).ages ++ (z.gated s _ _).ages = _
  rw [ages_gated hplans, ages_gated ages_reserved, DataFamily.all, List.filterMap_cons,
    List.filterMap_cons]
  cases s.age .savingsPlans <;> cases s.age .reservedInstances <;> rfl

/-! ## What is asked -/

theorem mem_queries_of_asked_plans {kind : PlanKind} {q : CapacityQuery}
    (h : q ∈ (z.plans s kind).asked) : q ∈ kind.commitment.queries := by
  rw [Commitment.mem_queries_iff]
  unfold plans at h
  split at h
  · obtain rfl := List.mem_singleton.1 h
    rfl
  · split at h <;> rcases List.mem_cons.1 h with rfl | h
    · rfl
    · obtain rfl := List.mem_singleton.1 h
      rfl
    · rfl
    · obtain rfl := List.mem_singleton.1 h
      rfl

theorem asked_reserved : (z.reserved s).asked = [.reserved] := by
  unfold reserved
  split
  · rfl
  · split <;> rfl

/-- Beyond the age of a family, queries are asked only if the family is fresh. -/
theorem mem_asked_gated {a : Analysis} {q : CapacityQuery}
    (h : q ∈ (z.gated s family a).asked) :
    q = .age family ∨ z.fresh s family = true ∧ q ∈ a.asked := by
  unfold gated at h
  cases ha : s.age family with
  | error e =>
    rw [ha] at h
    exact .inl (List.mem_singleton.1 h)
  | ok age =>
    rw [ha] at h
    dsimp only at h
    split at h
    · exact .inl (List.mem_singleton.1 h)
    · rename_i hlt
      rcases List.mem_cons.1 h with rfl | h
      · exact .inl rfl
      · exact .inr ⟨by simp only [fresh, ha, decide_eq_true (Nat.not_lt.1 hlt)], h⟩

/-- A query for a commitment is asked only if the family of the commitment is fresh. -/
theorem fresh_of_mem_asked {q : CapacityQuery} (hk : q ∈ k.queries)
    (h : q ∈ (z.analyze s).asked) : z.fresh s k.family = true := by
  have hcommitment := Commitment.mem_queries_iff.1 hk
  have hplans : q ∈ (z.plans s .global ++ z.plans s .regional).asked →
      k.family = .savingsPlans := by
    intro h
    rcases List.mem_append.1 h with h | h <;>
      cases hcommitment.symm.trans (Commitment.mem_queries_iff.1 (mem_queries_of_asked_plans h)) <;>
      rfl
  have hreserved : q ∈ (z.reserved s).asked → k.family = .reservedInstances := by
    intro h
    rw [asked_reserved] at h
    obtain rfl := List.mem_singleton.1 h
    cases hcommitment
    rfl
  rcases List.mem_append.1 h with h | h
  · rcases mem_asked_gated h with rfl | ⟨hfresh, h⟩
    · cases hcommitment
    · exact hplans h ▸ hfresh
  · rcases mem_asked_gated h with rfl | ⟨hfresh, h⟩
    · cases hcommitment
    · exact hreserved h ▸ hfresh

/-! ## What an analysis depends on -/

/-- Whether a commitment is ready, and the verdicts on it, go by the age of its family and by its
own queries. -/
theorem ready_congr (h : ∀ q ∈ .age k.family :: k.queries, s.Agrees s' q) :
    z.ready s k = z.ready s' k ∧ z.verdicts s k = z.verdicts s' k := by
  cases k <;>
    simp only [Commitment.family, Commitment.queries, List.forall_mem_cons,
      CapacitySource.Agrees] at h <;>
    simp only [ready, fresh, verdicts, planVerdicts, Commitment.family, Commitment.queries,
      List.all_cons, List.all_nil, CapacitySource.answers, h, and_self]

theorem plans_congr {kind : PlanKind} (h : ∀ q ∈ (z.plans s kind).asked, s.Agrees s' q) :
    z.plans s kind = z.plans s' kind := by
  unfold plans at h ⊢
  cases hc : s.capacity kind with
  | error e =>
    rw [hc] at h
    have hc' : s.capacity kind = s'.capacity kind := h (.capacity kind) List.mem_cons_self
    rw [← hc', hc]
  | ok capacity =>
    cases hu : s.utilization kind with
    | error e =>
      rw [hc, hu] at h
      have hc' : s.capacity kind = s'.capacity kind := h (.capacity kind) List.mem_cons_self
      have hu' : s.utilization kind = s'.utilization kind :=
        h (.utilization kind) (List.mem_cons_of_mem _ List.mem_cons_self)
      rw [← hc', ← hu', hc, hu]
    | ok utilization =>
      rw [hc, hu] at h
      have hc' : s.capacity kind = s'.capacity kind := h (.capacity kind) List.mem_cons_self
      have hu' : s.utilization kind = s'.utilization kind :=
        h (.utilization kind) (List.mem_cons_of_mem _ List.mem_cons_self)
      rw [← hc', ← hu', hc, hu]

theorem reserved_congr (h : ∀ q ∈ (z.reserved s).asked, s.Agrees s' q) :
    z.reserved s = z.reserved s' := by
  have hr : s.reserved = s'.reserved := h .reserved (asked_reserved ▸ List.mem_cons_self)
  rw [reserved, reserved, hr]

theorem gated_congr {a a' : Analysis} (h : ∀ q ∈ (z.gated s family a).asked, s.Agrees s' q)
    (ha : (∀ q ∈ a.asked, s.Agrees s' q) → a = a') :
    z.gated s family a = z.gated s' family a' := by
  unfold gated at h ⊢
  cases hage : s.age family with
  | error e =>
    rw [hage] at h
    have hage' : s.age family = s'.age family := h (.age family) List.mem_cons_self
    rw [← hage', hage]
  | ok age =>
    rw [hage] at h
    dsimp only at h ⊢
    split at h
    · rename_i hlt
      have hage' : s.age family = s'.age family := h (.age family) List.mem_cons_self
      rw [← hage', hage]
      simp only [hlt, if_true]
    · rename_i hlt
      have hage' : s.age family = s'.age family := h (.age family) List.mem_cons_self
      rw [← hage', hage, ha fun q hq => h q (List.mem_cons_of_mem _ hq)]

/-- An analysis depends on the queries that it asks, and on no others. -/
theorem analyze_congr (h : ∀ q ∈ (z.analyze s).asked, s.Agrees s' q) :
    z.analyze s = z.analyze s' := by
  change ∀ q ∈ (z.gated s _ _).asked ++ (z.gated s _ _).asked, _ at h
  rw [List.forall_mem_append] at h
  have hplans : (∀ q ∈ (z.plans s .global ++ z.plans s .regional).asked, s.Agrees s' q) →
      z.plans s .global ++ z.plans s .regional = z.plans s' .global ++ z.plans s' .regional := by
    intro h
    change ∀ q ∈ (z.plans s _).asked ++ (z.plans s _).asked, _ at h
    rw [List.forall_mem_append] at h
    rw [plans_congr h.1, plans_congr h.2]
  rw [analyze, analyze, gated_congr h.1 hplans, gated_congr h.2 reserved_congr]

end Analyzer

/-- **Accounting.** The analysis of any source accounts for every commitment. What it says of a
commitment, and the decisions on it, change with no queries but those for the commitment and for
the age of its family. As long as the reserved instances together fit a word of 64 bits, the
analysis comes to its end, and those of each key are counted exactly and fit too. -/
theorem Analyzer.analyze_accounts (z : Analyzer) (s : CapacitySource) :
    z.Accounts s (z.analyze s) ∧
    (∀ s' k, (∀ q ∈ .age k.family :: k.queries, s.Agrees s' q) →
      (k ∈ (z.analyze s).analyzed ↔ k ∈ (z.analyze s').analyzed) ∧
        (z.analyze s).decisions.filter (·.commitment = k) =
          (z.analyze s').decisions.filter (·.commitment = k)) ∧
    ∀ samples, s.reserved = .ok samples → (samples.map (·.instances)).sum < 2 ^ 64 →
      (z.analyze s).outgrown = false ∧ ∃ totals, ReservedTotals.ofSamples? samples = some totals ∧
        ∀ e ∈ totals.entries, e.2 = e.1.total samples ∧ e.2 < 2 ^ 64 := by
  have h := tells_analyze z s
  refine ⟨⟨tally_analyze z s, h.analyzed, h.decisions, fun d hd => ?_, ages_analyze z s⟩,
    fun s' k hagree => ?_, fun samples hs hsum => ?_⟩
  · rw [h.decisions] at hd
    obtain ⟨k, hk, hd⟩ := List.mem_flatMap.1 hd
    rw [commitment_of_mem_verdicts hd]
    exact hk
  · obtain ⟨hready, hverdicts⟩ := ready_congr (z := z) hagree
    rw [h.analyzed, (tells_analyze z s').analyzed, List.mem_filter, List.mem_filter, hready,
      filter_decisions, filter_decisions, hready, hverdicts]
    exact ⟨Iff.rfl, rfl⟩
  · have hfits := ReservedKey.total_lt hsum
    obtain ⟨totals, htotals, hexact⟩ := ReservedTotals.exists_ofSamples? hfits
    refine ⟨outgrown_eq_false fun _ hs' => ?_, totals, htotals, fun e he => ⟨hexact e he, ?_⟩⟩
    · cases hs.symm.trans hs'
      exact hfits
    · exact hexact e he ▸ hfits e.1

end PriceOverlay
