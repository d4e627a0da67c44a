import Mathlib.Algebra.GroupWithZero.Nat
import PriceOverlay.Capacity.Analysis
import PriceOverlay.Proofs.Capacity.Counts
import PriceOverlay.Proofs.Overlay.Names
/-!
# What an analysis decides on

An analysis analyzes the commitments that are ready: their family is fresh, and all their queries
have an answer. Every decision is the verdict on one key of the sums of its samples, and no
key has two of them. If the parts of the keys begin and end plainly, decisions on different
commitments have different names.

**Results**
* `tells_analyze`: the commitments that are analyzed, with the verdicts on them.
* `outgrown_analyze_iff`: which analyses break off.
* `mem_decisions_analyze`: the keys that an analysis decides on.
* `eq_of_scope`: decisions of an analysis about the same instances are one decision.
* `decisions_grouped`: a report lists its decisions commitment by commitment.
* `commitment_eq_of_name`: the name of a plain decision tells its commitment.
-/
namespace PriceOverlay

/-! ## The keys of samples -/

theorem PlanSample.commitment_of_key? {kind : PlanKind} {x : PlanSample} {k : PlanKey}
    (h : x.key? kind = some k) : k.commitment = kind.commitment := by
  unfold key? at h
  split at h
  · cases h
  · split at h
    · cases h
      rfl
    · split at h <;> cases h
      rfl
    · cases h

namespace PlanTotals

variable {kind : PlanKind} {P : PlanKey → Prop}

theorem addRemaining_eq (t : PlanTotals) (x : PlanSample) : addRemaining kind t x =
    (x.key? kind).elim t fun k =>
      t.adjust k .zero fun a => { a with remaining := a.remaining + x.value } := by
  unfold addRemaining
  cases x.key? kind <;> rfl

theorem setUtilization_eq (t : PlanTotals) (x : PlanSample) : setUtilization kind t x =
    (x.key? kind).elim t fun k => t.adjust k .zero fun a => { a with utilization := x.value } := by
  unfold setUtilization
  cases x.key? kind <;> rfl

/-- The sums are those of the keys of the samples. -/
theorem exists_get?_ofSamples {remaining utilization : List PlanSample} {k : PlanKey} :
    (∃ t, (ofSamples kind remaining utilization).get? k = some t) ↔
      (∃ x ∈ remaining, x.key? kind = some k) ∨ ∃ x ∈ utilization, x.key? kind = some k := by
  rw [ofSamples, Table.exists_get?_foldl_adjust setUtilization_eq,
    Table.exists_get?_foldl_adjust addRemaining_eq]
  simp only [Table.get?_empty, reduceCtorEq, exists_false, false_or]

/-- What holds of the keys of all samples holds of the keys of their sums. -/
theorem forall_keys_ofSamples {remaining utilization : List PlanSample}
    (hr : ∀ x ∈ remaining, ∀ k, x.key? kind = some k → P k)
    (hu : ∀ x ∈ utilization, ∀ k, x.key? kind = some k → P k) :
    ∀ k t, (ofSamples kind remaining utilization).get? k = some t → P k := by
  intro k t h
  rcases exists_get?_ofSamples.1 ⟨t, h⟩ with ⟨x, hx, hk⟩ | ⟨x, hx, hk⟩
  · exact hr x hx k hk
  · exact hu x hx k hk

end PlanTotals

theorem PlanTotals.commitment_of_get? {kind : PlanKind} {remaining utilization : List PlanSample}
    {k : PlanKey} {t : PlanTotal} (h : (ofSamples kind remaining utilization).get? k = some t) :
    k.commitment = kind.commitment :=
  forall_keys_ofSamples (P := fun k => k.commitment = kind.commitment)
    (fun _ _ _ => PlanSample.commitment_of_key?) (fun _ _ _ => PlanSample.commitment_of_key?) k t h

/-! ## Commitments and their queries -/

namespace Commitment

/-- The family of the data on a commitment. -/
def family : Commitment → DataFamily
  | computePlan | instancePlan => .savingsPlans
  | reserved => .reservedInstances

/-- The queries for a commitment, apart from the age of its family. -/
def queries : Commitment → List CapacityQuery
  | computePlan => [.capacity .global, .utilization .global]
  | instancePlan => [.capacity .regional, .utilization .regional]
  | reserved => [.reserved]

end Commitment

/-- Whether a query has an answer. -/
def CapacitySource.answers (s : CapacitySource) : CapacityQuery → Bool
  | .capacity kind => (s.capacity kind).isOk
  | .utilization kind => (s.utilization kind).isOk
  | .reserved => s.reserved.isOk
  | .age family => (s.age family).isOk

/-! ## Verdicts -/

namespace Analysis

variable {a : Analysis}

/-- An analysis that came to its end is followed by a pass for all that was analyzed. -/
theorem due_eq_analyzed (h : a.outgrown = false) : a.due = a.analyzed := by
  rw [due, h, if_neg Bool.false_ne_true]

theorem mem_analyzed_of_mem_due {k : Commitment} (h : k ∈ a.due) : k ∈ a.analyzed := by
  unfold due at h
  split at h
  · cases h
  · exact h

end Analysis

namespace Analyzer

variable {z : Analyzer} {s : CapacitySource} {family : DataFamily} {k : Commitment} {d : Decision}

/-- Whether the age of a family is known and not above the ceiling. -/
def fresh (z : Analyzer) (s : CapacitySource) (family : DataFamily) : Bool :=
  match s.age family with
  | .ok age => age.nanos ≤ (z.freshness.ceiling family).nanos
  | .error _ => false

/-- Whether the family of a commitment is fresh and all queries for the commitment succeed. -/
def ready (z : Analyzer) (s : CapacitySource) (k : Commitment) : Bool :=
  z.fresh s k.family && k.queries.all s.answers

/-- The verdicts on the keys of the sums of plans of a kind, by key. -/
def planVerdicts (z : Analyzer) (s : CapacitySource) (kind : PlanKind) : List Decision :=
  match s.capacity kind, s.utilization kind with
  | .ok capacity, .ok utilization =>
    (PlanTotals.ofSamples kind capacity utilization).entries.map fun e => z.rules.plan e.1 e.2
  | _, _ => []

/-- The verdicts on the keys of a commitment, by key. -/
def verdicts (z : Analyzer) (s : CapacitySource) : Commitment → List Decision
  | .computePlan => z.planVerdicts s .global
  | .instancePlan => z.planVerdicts s .regional
  | .reserved =>
    match s.reserved with
    | .ok samples =>
      match ReservedTotals.ofSamples? samples with
      | some totals => totals.entries.map fun e => z.rules.reserved e.1 e.2
      | none => []
    | .error _ => []

theorem mem_planVerdicts {kind : PlanKind} (h : d ∈ z.planVerdicts s kind) :
    ∃ capacity utilization k t, s.capacity kind = .ok capacity ∧
      s.utilization kind = .ok utilization ∧
      (PlanTotals.ofSamples kind capacity utilization).get? k = some t ∧ d = z.rules.plan k t := by
  unfold planVerdicts at h
  split at h
  · rename_i capacity utilization hc hu
    obtain ⟨e, he, rfl⟩ := List.mem_map.1 h
    exact ⟨capacity, utilization, e.1, e.2, hc, hu, Table.get?_eq_some_iff.2 he, rfl⟩
  · cases h

/-- Every verdict on a commitment is on a key of the sums of the samples. -/
theorem mem_verdicts (h : d ∈ z.verdicts s k) :
    (∃ kind, k = kind.commitment ∧ d ∈ z.planVerdicts s kind) ∨
    k = .reserved ∧ ∃ samples totals j n, s.reserved = .ok samples ∧
      ReservedTotals.ofSamples? samples = some totals ∧ totals.get? j = some n ∧
      d = z.rules.reserved j n := by
  cases k with
  | computePlan => exact .inl ⟨.global, rfl, h⟩
  | instancePlan => exact .inl ⟨.regional, rfl, h⟩
  | reserved =>
    unfold verdicts at h
    dsimp only at h
    split at h
    · rename_i samples hs
      split at h
      · rename_i totals ht
        obtain ⟨e, he, rfl⟩ := List.mem_map.1 h
        exact .inr ⟨rfl, samples, totals, e.1, e.2, hs, ht, Table.get?_eq_some_iff.2 he, rfl⟩
      · cases h
    · cases h

/-- A verdict on a commitment is about that commitment. -/
theorem commitment_of_mem_verdicts (h : d ∈ z.verdicts s k) : d.commitment = k := by
  rcases mem_verdicts h with ⟨kind, rfl, hd⟩ | ⟨rfl, -, -, j, n, -, -, -, rfl⟩
  · obtain ⟨_, _, j, t, -, -, ht, rfl⟩ := mem_planVerdicts hd
    exact PlanTotals.commitment_of_get? ht
  · rfl

/-! ## What is analyzed -/

/-- Of some commitments, an analysis analyzes those that pass, with the verdicts on them. -/
structure Tells (z : Analyzer) (s : CapacitySource) (a : Analysis) (ks : List Commitment)
    (pass : Commitment → Bool) : Prop where
  analyzed : a.analyzed = ks.filter pass
  decisions : a.decisions = a.analyzed.flatMap (z.verdicts s)

theorem Tells.append {a b : Analysis} {ks js : List Commitment} {pass : Commitment → Bool}
    (ha : z.Tells s a ks pass) (hb : z.Tells s b js pass) : z.Tells s (a ++ b) (ks ++ js) pass := by
  refine ⟨?_, ?_⟩
  · show a.analyzed ++ b.analyzed = _
    rw [ha.analyzed, hb.analyzed, List.filter_append]
  · show a.decisions ++ b.decisions = (a.analyzed ++ b.analyzed).flatMap _
    rw [ha.decisions, hb.decisions, List.flatMap_append]

theorem tells_plans (kind : PlanKind) : z.Tells s (z.plans s kind) [kind.commitment]
    fun k => k.queries.all s.answers := by
  have hverdicts : z.verdicts s kind.commitment = z.planVerdicts s kind := by
    cases kind <;> rfl
  have hpass : [kind.commitment].filter (fun k => k.queries.all s.answers) =
      if (s.capacity kind).isOk && (s.utilization kind).isOk then [kind.commitment] else [] := by
    cases kind <;> simp [Commitment.queries, CapacitySource.answers, PlanKind.commitment,
      List.filter_cons]
  unfold plans
  cases hc : s.capacity kind with
  | error e =>
    rw [hc] at hpass
    exact ⟨hpass.symm, rfl⟩
  | ok capacity =>
    cases hu : s.utilization kind with
    | error e =>
      rw [hc, hu] at hpass
      exact ⟨hpass.symm, rfl⟩
    | ok utilization =>
      rw [hc, hu] at hpass
      refine ⟨hpass.symm, ?_⟩
      show _ = [kind.commitment].flatMap (z.verdicts s)
      rw [List.flatMap_singleton, hverdicts, planVerdicts, hc, hu]

theorem tells_reserved : z.Tells s (z.reserved s) [.reserved] fun k => k.queries.all s.answers := by
  have hpass : [Commitment.reserved].filter (fun k => k.queries.all s.answers) =
      if s.reserved.isOk then [.reserved] else [] := by
    simp [Commitment.queries, CapacitySource.answers, List.filter_cons]
  unfold reserved
  cases hr : s.reserved with
  | error e =>
    rw [hr] at hpass
    exact ⟨hpass.symm, rfl⟩
  | ok samples =>
    rw [hr] at hpass
    have hverdicts : [Commitment.reserved].flatMap (z.verdicts s) = z.verdicts s .reserved :=
      List.flatMap_singleton ..
    simp only [verdicts, hr] at hverdicts
    dsimp only
    cases ht : ReservedTotals.ofSamples? samples with
    | none | some totals =>
      rw [ht] at hverdicts
      exact ⟨hpass.symm, hverdicts.symm⟩

/-- Of a family that is not fresh nothing is analyzed. -/
theorem tells_gated {ks : List Commitment} (hks : ∀ k ∈ ks, k.family = family) {a : Analysis}
    (h : z.Tells s a ks fun k => k.queries.all s.answers) :
    z.Tells s (z.gated s family a) ks (z.ready s) := by
  have hstale : z.fresh s family = false → ks.filter (z.ready s) = [] := by
    intro hf
    refine List.filter_eq_nil_iff.2 fun k hk => ?_
    rw [ready, hks k hk, hf, Bool.false_and]
    exact Bool.false_ne_true
  have hfresh : z.fresh s family = true → ks.filter (z.ready s) = a.analyzed := by
    intro hf
    rw [h.analyzed]
    refine List.filter_congr fun k hk => ?_
    rw [ready, hks k hk, hf, Bool.true_and]
  unfold gated
  cases ha : s.age family with
  | error e => exact ⟨(hstale (by simp only [fresh, ha])).symm, rfl⟩
  | ok age =>
    dsimp only
    split
    · rename_i hlt
      exact ⟨(hstale (by simp only [fresh, ha, decide_eq_false (Nat.not_le.2 hlt)])).symm, rfl⟩
    · rename_i hlt
      exact ⟨(hfresh (by simp only [fresh, ha, decide_eq_true (Nat.not_lt.1 hlt)])).symm,
        h.decisions⟩

theorem tells_analyze (z : Analyzer) (s : CapacitySource) :
    z.Tells s (z.analyze s) Commitment.all (z.ready s) := by
  have hplans : z.Tells s (z.gated s .savingsPlans _) [.computePlan, .instancePlan] (z.ready s) :=
    tells_gated (by decide) ((tells_plans .global).append (tells_plans .regional))
  have hreserved : z.Tells s (z.gated s .reservedInstances _) [.reserved] (z.ready s) :=
    tells_gated (by decide) tells_reserved
  have h := hplans.append hreserved
  exact ⟨h.analyzed, h.decisions⟩

/-! ## Analyses that break off -/

theorem outgrown_plans (kind : PlanKind) : (z.plans s kind).outgrown = false := by
  unfold plans
  dsimp only
  split
  · rfl
  · split <;> rfl

theorem outgrown_reserved_iff : (z.reserved s).outgrown = true ↔
    ∃ samples, s.reserved = .ok samples ∧ ∃ k : ReservedKey, 2 ^ 64 ≤ k.total samples := by
  simp only [← ReservedTotals.ofSamples?_eq_none_iff]
  unfold reserved
  cases s.reserved with
  | error e => exact ⟨nofun, nofun⟩
  | ok samples =>
    dsimp only
    cases ht : ReservedTotals.ofSamples? samples with
    | none => exact ⟨fun _ => ⟨samples, rfl, ht⟩, fun _ => rfl⟩
    | some totals =>
      refine ⟨nofun, fun ⟨samples', hs, hn⟩ => ?_⟩
      cases hs
      exact absurd (ht.symm.trans hn) nofun

/-- Of a family that is not fresh nothing is counted. -/
theorem outgrown_gated (a : Analysis) :
    (z.gated s family a).outgrown = (z.fresh s family && a.outgrown) := by
  unfold gated
  cases ha : s.age family with
  | error e => simp only [fresh, ha, Bool.false_and, Analysis.skip]
  | ok age =>
    dsimp only
    split
    · rename_i hlt
      simp only [fresh, ha, decide_eq_false (Nat.not_le.2 hlt), Bool.false_and]
      rfl
    · rename_i hlt
      simp only [fresh, ha, decide_eq_true (Nat.not_lt.1 hlt), Bool.true_and]
      exact Bool.false_or _

/-- An analysis breaks off exactly if it counts reserved instances, and those of a key outgrow a
word. -/
theorem outgrown_analyze_iff : (z.analyze s).outgrown = true ↔
    z.fresh s .reservedInstances = true ∧
      ∃ samples, s.reserved = .ok samples ∧ ∃ k : ReservedKey, 2 ^ 64 ≤ k.total samples := by
  have hplans : (z.plans s .global ++ z.plans s .regional).outgrown = false := by
    show ((z.plans s _).outgrown || (z.plans s _).outgrown) = false
    rw [outgrown_plans, outgrown_plans, Bool.or_false]
  show ((z.gated s _ _).outgrown || (z.gated s _ _).outgrown) = true ↔ _
  rw [outgrown_gated, outgrown_gated, hplans, Bool.and_false, Bool.false_or, Bool.and_eq_true,
    outgrown_reserved_iff]

/-- As long as the reserved instances of every key fit a word, an analysis comes to its end. -/
theorem outgrown_eq_false
    (h : ∀ samples, s.reserved = .ok samples → ∀ k : ReservedKey, k.total samples < 2 ^ 64) :
    (z.analyze s).outgrown = false := by
  refine Bool.eq_false_iff.2 fun hout => ?_
  obtain ⟨-, samples, hs, k, hk⟩ := outgrown_analyze_iff.1 hout
  exact absurd (h samples hs k) (Nat.not_lt.2 hk)

/-- Every decision is on a key of the sums of the samples. -/
theorem mem_decisions_analyze (h : d ∈ (z.analyze s).decisions) :
    (∃ kind capacity utilization k t, s.capacity kind = .ok capacity ∧
      s.utilization kind = .ok utilization ∧
      (PlanTotals.ofSamples kind capacity utilization).get? k = some t ∧
      d = z.rules.plan k t) ∨
    ∃ samples totals k n, s.reserved = .ok samples ∧
      ReservedTotals.ofSamples? samples = some totals ∧ totals.get? k = some n ∧
      d = z.rules.reserved k n := by
  rw [(tells_analyze z s).decisions] at h
  obtain ⟨k, -, h⟩ := List.mem_flatMap.1 h
  rcases mem_verdicts h with ⟨kind, -, h⟩ | ⟨-, h⟩
  · exact .inl ⟨kind, mem_planVerdicts h⟩
  · exact .inr h

/-- Every decision has a name and the price of what is paid for. -/
theorem named_of_mem_decisions (h : d ∈ (z.analyze s).decisions) :
    d.name ≠ "" ∧ d.price = freePrice := by
  rcases mem_decisions_analyze h with ⟨-, -, -, k, t, -, -, -, rfl⟩ | ⟨-, -, k, n, -, -, -, rfl⟩
  · exact ⟨k.overlayName_ne_empty, rfl⟩
  · exact ⟨k.overlayName_ne_empty, rfl⟩

end Analyzer

/-! ## One decision for each scope -/

theorem PlanKey.scope_injective {k j : PlanKey} (h : k.scope = j.scope) : k = j := by
  cases k <;> cases j <;> simp_all [scope]

theorem PlanKind.commitment_injective {a b : PlanKind} (h : a.commitment = b.commitment) :
    a = b := by
  cases a <;> cases b <;> first | rfl | cases h

/-- Decisions of an analysis about the same instances are one decision. -/
theorem Analyzer.eq_of_scope {z : Analyzer} {s : CapacitySource} {d e : Decision}
    (hd : d ∈ (z.analyze s).decisions) (he : e ∈ (z.analyze s).decisions)
    (h : d.scope = e.scope) : d = e := by
  rcases mem_decisions_analyze hd with ⟨kind, c, u, k, t, hc, hu, ht, rfl⟩ |
      ⟨l, t, k, n, hl, ht, hn, rfl⟩ <;>
    rcases mem_decisions_analyze he with ⟨kind', c', u', k', t', hc', hu', ht', rfl⟩ |
      ⟨l', t', k', n', hl', ht', hn', rfl⟩
  · obtain rfl := PlanKey.scope_injective h
    obtain rfl := PlanKind.commitment_injective ((PlanTotals.commitment_of_get? ht).symm.trans
      (PlanTotals.commitment_of_get? ht'))
    rw [hc] at hc'
    rw [hu] at hu'
    cases hc'
    cases hu'
    rw [ht] at ht'
    cases ht'
    rfl
  · cases k <;> cases h
  · cases k' <;> cases h
  · obtain ⟨i, r⟩ := k
    obtain ⟨i', r'⟩ := k'
    simp only [DecisionRules.reserved, DecisionScope.instanceType.injEq] at h
    obtain ⟨rfl, rfl⟩ := h
    rw [hl] at hl'
    cases hl'
    rw [ht] at ht'
    cases ht'
    rw [hn] at hn'
    cases hn'
    rfl

/-! ## Commitment by commitment -/

/-- Of decisions on one commitment, those on another are all or none. -/
theorem Decision.filter_commitment {l : List Decision} {k : Commitment}
    (hl : ∀ d ∈ l, d.commitment = k) (j : Commitment) :
    l.filter (·.commitment = j) = if j = k then l else [] := by
  split
  · rename_i hj
    exact List.filter_eq_self.2 fun d hd => decide_eq_true ((hl d hd).trans hj.symm)
  · rename_i hj
    exact List.filter_eq_nil_iff.2 fun d hd hdj =>
      hj ((of_decide_eq_true hdj).symm.trans (hl d hd))

namespace Analyzer

/-- The decisions are the verdicts on every commitment that is ready. -/
theorem decisions_eq (z : Analyzer) (s : CapacitySource) : (z.analyze s).decisions =
    Commitment.all.flatMap fun k => if z.ready s k then z.verdicts s k else [] := by
  have hfilter : ∀ l : List Commitment, (l.filter (z.ready s)).flatMap (z.verdicts s) =
      l.flatMap fun k => if z.ready s k then z.verdicts s k else [] := by
    intro l
    induction l with
    | nil => rfl
    | cons k r ih =>
      rw [List.filter_cons, List.flatMap_cons, ← ih]
      split <;> rfl
  rw [(tells_analyze z s).decisions, (tells_analyze z s).analyzed, hfilter]

/-- The decisions on a commitment are the verdicts on it, if it is ready. -/
theorem filter_decisions (z : Analyzer) (s : CapacitySource) (k : Commitment) :
    (z.analyze s).decisions.filter (·.commitment = k) =
      if z.ready s k then z.verdicts s k else [] := by
  have hown : ∀ j, (if z.ready s j then z.verdicts s j else []).filter (·.commitment = k) =
      if k = j then (if z.ready s j then z.verdicts s j else []) else [] := by
    refine fun j => Decision.filter_commitment (fun d hd => ?_) k
    split at hd
    · exact commitment_of_mem_verdicts hd
    · cases hd
  rw [decisions_eq, List.filter_flatMap]
  simp only [hown]
  cases k <;> simp [Commitment.all]

/-- The report lists the decisions commitment by commitment. -/
theorem decisions_grouped (z : Analyzer) (s : CapacitySource) : (z.analyze s).decisions =
    Commitment.all.flatMap fun k => (z.analyze s).decisions.filter (·.commitment = k) := by
  simp only [filter_decisions]
  exact decisions_eq z s

end Analyzer

/-! ## Sources that answer -/

/-- Every family of data is fresh, and every query has an answer; of no key there are more reserved
instances than a word of 64 bits counts. -/
structure Analyzer.Answered (z : Analyzer) (s : CapacitySource) : Prop where
  fresh : ∀ family, ∃ age, s.age family = .ok age ∧ age.nanos ≤ (z.freshness.ceiling family).nanos
  capacity : ∀ kind, ∃ samples, s.capacity kind = .ok samples
  utilization : ∀ kind, ∃ samples, s.utilization kind = .ok samples
  reserved : ∃ samples, s.reserved = .ok samples
  counted : ∀ samples, s.reserved = .ok samples → ∀ k : ReservedKey, k.total samples < 2 ^ 64

namespace Analyzer.Answered

variable {z : Analyzer} {s : CapacitySource} (h : z.Answered s)
include h

theorem fresh_eq (family : DataFamily) : z.fresh s family = true := by
  obtain ⟨age, ha, hle⟩ := h.fresh family
  rw [Analyzer.fresh, ha]
  exact decide_eq_true hle

theorem answers (q : CapacityQuery) : s.answers q = true := by
  cases q with
  | capacity kind =>
    obtain ⟨samples, hs⟩ := h.capacity kind
    rw [CapacitySource.answers, hs]
    rfl
  | utilization kind =>
    obtain ⟨samples, hs⟩ := h.utilization kind
    rw [CapacitySource.answers, hs]
    rfl
  | reserved =>
    obtain ⟨samples, hs⟩ := h.reserved
    rw [CapacitySource.answers, hs]
    rfl
  | age family =>
    obtain ⟨age, ha, -⟩ := h.fresh family
    rw [CapacitySource.answers, ha]
    rfl

/-- Every commitment is analyzed. -/
theorem analyzed_eq_all : (z.analyze s).analyzed = Commitment.all := by
  rw [(tells_analyze z s).analyzed]
  refine List.filter_eq_self.2 fun k _ => ?_
  rw [ready, h.fresh_eq, Bool.true_and, List.all_eq_true]
  exact fun q _ => h.answers q

theorem due_eq_all : (z.analyze s).due = Commitment.all := by
  rw [Analysis.due_eq_analyzed (outgrown_eq_false h.counted), h.analyzed_eq_all]

end Analyzer.Answered

/-! ## Plain keys -/

/-- Whether the parts of a key begin and end plainly. -/
def PlanKey.IsPlain : PlanKey → Prop
  | global => True
  | regional family region => Name.isPlain family = true ∧ Name.isPlain region = true

/-- The verdicts on plain keys. -/
inductive Decision.Plain (rules : DecisionRules) : Decision → Prop
  | plan {k : PlanKey} (h : k.IsPlain) (t : PlanTotal) : Plain rules (rules.plan k t)
  | reserved (k : ReservedKey) (n : Nat) : Plain rules (rules.reserved k n)

/-- The name of a plain decision tells its commitment. -/
theorem Decision.Plain.commitment_eq_of_name {rules : DecisionRules} {d e : Decision}
    (hd : d.Plain rules) (he : e.Plain rules) (h : d.name = e.name) :
    d.commitment = e.commitment := by
  cases hd with
  | @plan k hk t =>
    cases he with
    | @plan j hj u =>
      cases k <;> cases j
      · rfl
      · exact absurd h.symm (PlanKey.overlayName_regional_ne_global hj.2)
      · exact absurd h (PlanKey.overlayName_regional_ne_global hk.2)
      · rfl
    | reserved j n => exact absurd h (k.overlayName_ne_reserved j)
  | reserved k n =>
    cases he with
    | @plan j hj u => exact absurd h.symm (j.overlayName_ne_reserved k)
    | reserved j m => rfl

/-- Family and region of the sample are plain, unless they are empty. -/
structure PlanSample.IsPlain (x : PlanSample) : Prop where
  family : ∀ family, x.family = some family → family ≠ "" → Name.isPlain family = true
  region : ∀ region, x.region = some region → region ≠ "" → Name.isPlain region = true

/-- Instance type and region of the sample are plain, unless they are empty. -/
structure ReservedSample.IsPlain (x : ReservedSample) : Prop where
  instanceType : x.instanceType ≠ "" → Name.isPlain x.instanceType = true
  region : x.region ≠ "" → Name.isPlain x.region = true

/-- A source with plain samples, and not more reserved instances than a word of 64 bits
counts. -/
structure CapacitySource.Plain (s : CapacitySource) : Prop where
  capacity : ∀ kind samples, s.capacity kind = .ok samples → ∀ x ∈ samples, x.IsPlain
  utilization : ∀ kind samples, s.utilization kind = .ok samples → ∀ x ∈ samples, x.IsPlain
  reserved : ∀ samples, s.reserved = .ok samples → ∀ x ∈ samples, x.IsPlain
  counted : ∀ samples, s.reserved = .ok samples → (samples.map (·.instances)).sum < 2 ^ 64

theorem PlanSample.isPlain_of_key? {kind : PlanKind} {x : PlanSample} {k : PlanKey}
    (hx : x.IsPlain) (h : x.key? kind = some k) : k.IsPlain := by
  unfold key? at h
  split at h
  · cases h
  · split at h
    · cases h
      exact trivial
    · rename_i family region hf hr _
      split at h
      · cases h
      · rename_i hempty
        simp only [Bool.or_eq_true, String.isEmpty_iff, not_or] at hempty
        cases h
        exact ⟨hx.family family hf hempty.1, hx.region region hr hempty.2⟩
    · cases h

theorem CapacitySource.Plain.outgrown_eq_false {s : CapacitySource} (hs : s.Plain) (z : Analyzer) :
    (z.analyze s).outgrown = false :=
  Analyzer.outgrown_eq_false fun samples h => ReservedKey.total_lt (hs.counted samples h)

theorem Analyzer.plain_of_mem_decisions {z : Analyzer} {s : CapacitySource} {d : Decision}
    (hs : s.Plain) (h : d ∈ (z.analyze s).decisions) : d.Plain z.rules := by
  rcases mem_decisions_analyze h with ⟨kind, c, u, k, t, hc, hu, ht, rfl⟩ |
    ⟨-, -, k, n, -, -, -, rfl⟩
  · refine .plan (PlanTotals.forall_keys_ofSamples ?_ ?_ k t ht) t
    · exact fun x hx _ => PlanSample.isPlain_of_key? (hs.capacity kind c hc x hx)
    · exact fun x hx _ => PlanSample.isPlain_of_key? (hs.utilization kind u hu x hx)
  · exact .reserved k n

end PriceOverlay
