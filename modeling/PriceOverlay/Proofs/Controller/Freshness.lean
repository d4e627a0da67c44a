import PriceOverlay.Proofs.Capacity.Accounting
import PriceOverlay.Proofs.Controller.Isolation
import PriceOverlay.Proofs.Prometheus.Age
/-!
# Stale data moves no overlay

A cycle over data from Prometheus asks for the age of each family first. Where the reply does not
show that the data is fresh, nothing else is asked for the family, none of its commitments is
analyzed, and the passes of the cycle, which are over analyzed commitments alone, keep to the
overlays of others.

**Results**
* `fresh_of_unfresh`: the analyzer takes such a family for stale.
* `filter_isFor_cycle`: a cycle leaves the overlays of a commitment that it does not analyze.
* `stale_family_kept`: what a cycle does about a family whose data is not known to be fresh.
-/
namespace PriceOverlay

/-- A family whose reply is not fresh is not taken for fresh. -/
theorem Analyzer.fresh_of_unfresh {z : Analyzer} {c : Prometheus.Client} {t : Http.Transport}
    {family : DataFamily} (h : c.Unfresh t family (z.freshness.ceiling family)) :
    z.fresh (c.source t) family = false := by
  rw [fresh]
  cases hage : (c.source t).age family with
  | error e => rfl
  | ok d => exact decide_eq_false (Nat.not_le.2 (Prometheus.Client.lt_age_of_unfresh h hage))

namespace DecisionController

/-- Whatever calls fail, a cycle leaves the overlays of a commitment that it does not analyze, and
adds none. -/
theorem filter_isFor_cycle (c : DecisionController) {source : CapacitySource} {k : Commitment}
    (hk : k ∉ (c.analyzer.analyze source).analyzed) (faults : StoreFaults) (duration : Duration)
    (s : ObjectStore) (n : String) :
    ((c.cycle source faults duration s).store.get? n).filter (·.isFor k) =
      (s.get? n).filter (·.isFor k) := by
  have hothers : ∀ x : Option StoredOverlay, (∀ o, x = some o →
      ∃ j ∈ (c.analyzer.analyze source).analyzed,
        o.matchesSelector (Scope.commitment j).selector = true) →
      x.filter (·.isFor k) = none := by
    intro x hx
    refine Option.filter_eq_none_iff.2 fun o ho hfor => ?_
    obtain ⟨j, hj, hm⟩ := hx o ho
    rw [StoredOverlay.isFor_of_matches hm] at hfor
    exact hk (of_decide_eq_true hfor ▸ hj)
  rcases confined_cycle source faults duration s n with h | ⟨hold, hnew⟩
  · rw [h]
  · rw [hothers _ hnew, hothers _ hold]

/-- A cycle over data from Prometheus, where the reply on the age of a family does not show that its
data is fresh: no commitment of the family is analyzed, no query for one is sent, and their
overlays stay as they are. So the cycle is the same whatever the answers to those queries are. -/
theorem stale_family_kept (c : DecisionController) {client : Prometheus.Client}
    {t : Http.Transport} {family : DataFamily}
    (h : client.Unfresh t family (c.analyzer.freshness.ceiling family)) (faults : StoreFaults)
    (duration : Duration) (s : ObjectStore) :
    let done := c.cycle (client.source t) faults duration s
    (∀ k : Commitment, k.family = family →
      k ∉ done.answer.analysis.analyzed ∧
      (∀ q ∈ k.queries, q ∉ done.answer.analysis.asked) ∧
      ∀ n, (done.store.get? n).filter (·.isFor k) = (s.get? n).filter (·.isFor k)) ∧
    ∀ source, (∀ q, (∀ k : Commitment, k.family = family → q ∉ k.queries) →
        (client.source t).Agrees source q) →
      c.cycle source faults duration s = done := by
  intro done
  have hstale := Analyzer.fresh_of_unfresh h
  have hasked : ∀ k : Commitment, k.family = family →
      ∀ q ∈ k.queries, q ∉ (c.analyzer.analyze (client.source t)).asked := by
    rintro k rfl q hq ha
    exact Bool.false_ne_true (hstale.symm.trans (Analyzer.fresh_of_mem_asked hq ha))
  refine ⟨?_, fun source hagree => ?_⟩
  · rintro k rfl
    have hk : k ∉ (c.analyzer.analyze (client.source t)).analyzed := by
      rw [(Analyzer.tells_analyze _ _).analyzed, List.mem_filter, Analyzer.ready, hstale]
      exact fun hk => Bool.false_ne_true hk.2
    exact ⟨hk, hasked k rfl, c.filter_isFor_cycle hk faults duration s⟩
  · have heq : c.analyzer.analyze (client.source t) = c.analyzer.analyze source :=
      Analyzer.analyze_congr fun q hq => hagree q fun k hk hmem => hasked k hk q hmem hq
    show c.cycle source faults duration s = c.cycle (client.source t) faults duration s
    rw [cycle, cycle, heq]

/-- The data on savings plans is half a second too old for one of two exporters. No other query
finds any series, so an analysis would want no overlays. -/
def exporters : Http.Transport := fun r =>
  let series :=
    if r.query = [("query", "data_freshness_seconds\x7bdata_type=\"savings_plans\"\x7d")] then
      "\x7b\"metric\":\x7b\x7d,\"value\":[1700000000,\"7200.5\"]\x7d," ++
        "\x7b\"metric\":\x7b\x7d,\"value\":[1700000000,\"60\"]\x7d"
    else ""
  some ⟨200, "\x7b\"status\":\"success\",\"data\":\x7b\"result\":[" ++ series ++ "]\x7d\x7d"⟩

set_option maxRecDepth 10000 in
theorem stale_family_kept_exporters :
    let client : Prometheus.Client := ⟨"http", "/api/v1/query", none⟩
    let done := cycle {} (client.source exporters) .none ⟨0⟩ driftedStore
    (done.store.get? "savings-plan-m5").filter (·.isFor .instancePlan) =
      (driftedStore.get? "savings-plan-m5").filter (·.isFor .instancePlan) ∧
    ((driftedStore.get? "savings-plan-m5").filter (·.isFor .instancePlan)).isSome := by
  intro client done
  have hbeyond : ((client.series exporters (.age .savingsPlans)).toOption.any fun series =>
      series.any fun p => p.reading?.any fun reading =>
        (Decimal.rational? reading.1).any fun age =>
          decide (((7200 * 10 ^ 9 + 1 : Nat) : Rat) / Duration.secondNanos ≤ age)) = true := by
    decide +kernel
  simp only [Option.any_eq_true, List.any_eq_true, decide_eq_true_eq, Prod.exists] at hbeyond
  obtain ⟨series, hreply, p, hp, x, time, hreading, age, hvalue, hage⟩ := hbeyond
  have hreply : client.series exporters (.age .savingsPlans) = .ok series := by
    cases hs : client.series exporters (.age .savingsPlans) with
    | error e => rw [hs] at hreply; cases hreply
    | ok l => rw [hs] at hreply; cases hreply; rfl
  have h := stale_family_kept {} (.stale hreply hp hreading hvalue hage) .none ⟨0⟩ driftedStore
  exact ⟨(h.1 .instancePlan rfl).2.2 "savings-plan-m5", by decide +kernel⟩

end DecisionController
end PriceOverlay
