import PriceOverlay.Proofs.Overlay.Names
import PriceOverlay.Proofs.Preference.Declared
import PriceOverlay.Proofs.Reconcile.Pass
/-!
# Rendered overlays

The labels of a rendered overlay mark it for the scope that it comes from and for no other;
they do not depend on its requirements, weight and price. What a NodePool asks for has one
overlay for each number.

**Results**
* `matches_finish_iff`: the scopes that a rendered overlay belongs to.
* `check_decision`: the overlay for a decision with a name may be written.
* `Scope.eq_of_matches`: an overlay belongs to one scope with a source.
* `nodePool_eq_map`, `nodup_names_nodePools`: the overlays that NodePools ask for.
-/
namespace PriceOverlay

theorem OverlayKind.text_injective {a b : OverlayKind} (h : a.text = b.text) : a = b := by
  have ha := ofText?_text a
  rw [h, ofText?_text] at ha
  exact (Option.some.inj ha).symm

/-- An overlay has the labels of one scope with a source only. -/
theorem Scope.eq_of_matches {a b : Scope} {o : StoredOverlay} (ha : a.source.isSome)
    (hb : b.source.isSome) (hma : o.matchesSelector a.selector = true)
    (hmb : o.matchesSelector b.selector = true) : a = b := by
  obtain ⟨-, hka, hsa⟩ := matches_selector_iff.1 hma
  obtain ⟨-, hkb, hsb⟩ := matches_selector_iff.1 hmb
  obtain ⟨kind, source⟩ := a
  obtain ⟨kind', source'⟩ := b
  obtain ⟨x, rfl⟩ := Option.isSome_iff_exists.1 ha
  obtain ⟨y, rfl⟩ := Option.isSome_iff_exists.1 hb
  obtain rfl := OverlayKind.text_injective (Option.some.inj (hka.symm.trans hkb))
  obtain rfl := Option.some.inj ((hsa x rfl).symm.trans (hsb y rfl))
  rfl

theorem Commitment.text_injective {a b : Commitment} (h : a.text = b.text) : a = b := by
  revert h
  cases a <;> cases b <;> decide

namespace Rendering

variable {r : Rendering} {o : Overlay}

theorem name_finish (r : Rendering) (o : Overlay) : (r.finish o).name = o.name := by
  unfold finish
  split <;> rfl

theorem owners_finish (r : Rendering) (o : Overlay) : (r.finish o).owners = o.owners := by
  unfold finish
  split <;> rfl

theorem origin_finish (r : Rendering) (o : Overlay) : (r.finish o).origin = o.origin := by
  unfold finish
  split <;> rfl

theorem weight_finish (r : Rendering) (o : Overlay) : (r.finish o).weight = o.weight := by
  unfold finish
  split <;> rfl

theorem price_finish (r : Rendering) (o : Overlay) : (r.finish o).price = o.price := by
  unfold finish
  split <;> rfl

theorem get?_labels_finish (r : Rendering) (o : Overlay) {k : String} (hk : k ≠ Label.disabled) :
    (r.finish o).labels.get? k =
      if k = Label.source then some o.origin.source
      else if k = Label.kind then some o.origin.kind.text
      else if k = Label.managedBy then some Label.manager
      else o.labels.get? k := by
  unfold finish
  split <;> simp only [Table.get?_insert_eq, if_neg hk]

theorem get?_labels_finish_disabled (r : Rendering) (o : Overlay) :
    (r.finish o).labels.get? Label.disabled =
      if r.disabled then some "true" else o.labels.get? Label.disabled := by
  unfold finish
  split <;> simp [Table.get?_insert_eq, *, show Label.disabled ≠ Label.source by decide,
    show Label.disabled ≠ Label.kind by decide, show Label.disabled ≠ Label.managedBy by decide]

/-- A rendered overlay belongs to the scopes of its kind for its source or for all. -/
theorem matches_finish_iff {scope : Scope} :
    (r.finish o).toStored.matchesSelector scope.selector = true ↔
      scope.kind = o.origin.kind ∧ ∀ source, scope.source = some source →
        source = o.origin.source := by
  have hm : (r.finish o).labels.get? Label.managedBy = some Label.manager := by
    rw [get?_labels_finish r o (by decide), if_neg (by decide), if_neg (by decide), if_pos rfl]
  have hk : (r.finish o).labels.get? Label.kind = some o.origin.kind.text := by
    rw [get?_labels_finish r o (by decide), if_neg (by decide), if_pos rfl]
  have hs : (r.finish o).labels.get? Label.source = some o.origin.source := by
    rw [get?_labels_finish r o (by decide), if_pos rfl]
  rw [Scope.matches_selector_iff]
  simp only [Overlay.toStored, hm, hk, hs, Option.some.injEq, true_and]
  constructor
  · rintro ⟨hkind, hsource⟩
    exact ⟨(OverlayKind.text_injective hkind).symm, fun source h => (hsource source h).symm⟩
  · rintro ⟨hkind, hsource⟩
    exact ⟨by rw [hkind], fun source h => (hsource source h).symm⟩

/-! ## Decisions -/

theorem name_decision (r : Rendering) (d : Decision) : (r.decision d).name = d.name :=
  name_finish r _

theorem owners_decision (r : Rendering) (d : Decision) : (r.decision d).owners = [] :=
  owners_finish r _

theorem labels_decision_eq (r : Rendering) {d e : Decision} (h : d.commitment = e.commitment) :
    (r.decision d).labels = (r.decision e).labels := by
  unfold decision finish
  split <;> simp only [h, Origin.kind, Origin.source]

theorem matches_decision_iff {r : Rendering} {d : Decision} {k : Commitment} :
    (r.decision d).toStored.matchesSelector (Scope.commitment k).selector = true ↔
      d.commitment = k := by
  rw [decision, matches_finish_iff]
  simp only [Scope.commitment, Origin.kind, Origin.source, Option.some.injEq, true_and,
    forall_eq']
  exact ⟨fun h => (Commitment.text_injective h).symm, fun h => by rw [h]⟩

theorem fault?_is {key value : String} (h : key ≠ "") :
    (Requirement.is key value).fault? = none := by
  have hk : key.isEmpty = false := by simpa using h
  simp [Requirement.is, Requirement.fault?, hk]

/-- The label that disables an overlay is a sound requirement too: only the price is left to
check. -/
theorem check_finish (r : Rendering) {o : Overlay} (hname : o.name ≠ "")
    (hempty : o.requirements ≠ []) (hsound : ∀ q ∈ o.requirements, q.fault? = none) :
    (r.finish o).check =
      if Overlay.isPrice o.price then .ok () else .error (.badPrice o.name o.price) := by
  have hfault : ∀ q ∈ (r.finish o).requirements, q.fault? = none := by
    unfold finish
    split
    · exact List.forall_mem_cons.2 ⟨fault?_is (by decide), hsound⟩
    · exact hsound
  have hrequirements : (r.finish o).requirements.isEmpty = false := by
    rw [List.isEmpty_eq_false_iff]
    unfold finish
    split
    · exact List.cons_ne_nil _ _
    · exact hempty
  have hfind : (r.finish o).requirements.findSome? (fun q => q.fault?.map fun f => (q.key, f)) =
      none := by
    rw [List.findSome?_eq_none_iff]
    intro q hq
    rw [hfault q hq]
    rfl
  have hisEmpty : o.name.isEmpty = false := by simpa using hname
  simp only [Overlay.check, name_finish, hisEmpty, hrequirements, hfind, price_finish,
    Bool.false_eq_true, if_false]

/-- The overlay for a decision with a name, at the price of what is paid for, may be written. -/
theorem check_decision (r : Rendering) {d : Decision} (hn : d.name ≠ "")
    (hp : d.price = freePrice) : (r.decision d).check = .ok () := by
  have hsound : ∀ q ∈ Requirement.is Label.capacityType Label.onDemand :: d.scope.requirements,
      q.fault? = none := by
    intro q hq
    cases hs : d.scope <;> rw [hs] at hq <;>
      simp only [DecisionScope.requirements, List.mem_cons, List.not_mem_nil, or_false] at hq
    · rw [hq]
      exact fault?_is (by decide)
    all_goals rcases hq with rfl | rfl | rfl <;> exact fault?_is (by decide)
  rw [decision, check_finish r hn (List.cons_ne_nil _ _) hsound, hp]
  exact if_pos (show Overlay.isPrice freePrice = true by decide)

/-! ## Preferences -/

theorem name_preference (r : Rendering) (q : Preference) :
    (r.preference q).name = preferenceOverlayName q.nodePool q.number :=
  name_finish r _

theorem price_preference (r : Rendering) (q : Preference) :
    (r.preference q).price = q.adjustment.text :=
  price_finish r _

theorem labels_preference_eq (r : Rendering) {p q : Preference} (hp : p.nodePool = q.nodePool)
    (hn : p.number = q.number) : (r.preference p).labels = (r.preference q).labels := by
  unfold preference finish
  split <;> simp only [hp, hn, Origin.kind, Origin.source]

/-- The overlays that a NodePool asks for, one for each preference. -/
theorem nodePool_eq_map {p : NodePool} {uid : String} (hu : p.uid = some uid) (r : Rendering) :
    r.nodePool p = p.declared.preferences.map fun q =>
      { r.preference q with owners := [.nodePool p.name uid] } := by
  unfold nodePool
  refine List.map_congr_left fun q _ => ?_
  simp only [hu, preference, owners_finish, List.nil_append]

/-- An overlay that a NodePool asks for is marked as that NodePool's. -/
theorem matches_nodePool_iff {r : Rendering} {p : NodePool} {scope : Scope} {o : Overlay}
    (ho : o ∈ r.nodePool p) :
    o.toStored.matchesSelector scope.selector = true ↔
      scope.kind = .preference ∧ ∀ source, scope.source = some source → source = p.name := by
  obtain ⟨q, hq, rfl⟩ := List.mem_map.1 ho
  have hm : (r.preference q).toStored.matchesSelector scope.selector = true ↔
      scope.kind = .preference ∧ ∀ source, scope.source = some source → source = p.name := by
    rw [preference, matches_finish_iff, ← NodePool.nodePool_of_declared hq]
    rfl
  dsimp only
  split <;> exact hm

theorem map_name_nodePool (r : Rendering) (p : NodePool) : (r.nodePool p).map (·.name) =
    (p.declared.preferences.map (·.number)).map (preferenceOverlayName p.name) := by
  rw [nodePool, List.map_map, List.map_map]
  refine List.map_congr_left fun q hq => ?_
  rw [Function.comp_apply, Function.comp_apply, ← NodePool.nodePool_of_declared hq,
    ← name_preference r q]
  split <;> rfl

theorem exists_name_of_mem_nodePool {r : Rendering} {p : NodePool} {o : Overlay}
    (ho : o ∈ r.nodePool p) : ∃ n, o.name = preferenceOverlayName p.name n := by
  have hm := List.mem_map_of_mem (f := (·.name)) ho
  rw [map_name_nodePool] at hm
  obtain ⟨n, -, hn⟩ := List.mem_map.1 hm
  exact ⟨n, hn.symm⟩

theorem nodup_names_nodePool (r : Rendering) {p : NodePool} (hp : Name.isName p.name = true) :
    ((r.nodePool p).map (·.name)).Nodup := by
  rw [map_name_nodePool]
  exact (NodePool.nodup_numbers_declared p).map fun _ _ h =>
    (preferenceOverlayName_injective hp hp h).2

/-- A name is asked for by one NodePool only. -/
theorem name_eq_of_mem_nodePool {r : Rendering} {p p' : NodePool} {d d' : Overlay}
    (hp : Name.isName p.name = true) (hp' : Name.isName p'.name = true) (hd : d ∈ r.nodePool p)
    (hd' : d' ∈ r.nodePool p') (hn : d.name = d'.name) : p.name = p'.name := by
  obtain ⟨k, hk⟩ := exists_name_of_mem_nodePool hd
  obtain ⟨k', hk'⟩ := exists_name_of_mem_nodePool hd'
  rw [hk, hk'] at hn
  exact (preferenceOverlayName_injective hp hp' hn).1

/-- What NodePools of different names ask for has distinct names. -/
theorem nodup_names_nodePools (r : Rendering) {ps : List NodePool}
    (named : ∀ p ∈ ps, Name.isName p.name = true) (distinct : (ps.map (·.name)).Nodup) :
    ((ps.flatMap r.nodePool).map (·.name)).Nodup := by
  rw [List.map_flatMap]
  refine List.nodup_flatMap.2 ⟨fun p hp => r.nodup_names_nodePool (named p hp), ?_⟩
  refine (List.pairwise_map.1 distinct).imp_of_mem fun {p p'} hp hp' hne =>
    List.disjoint_left.2 fun n hn hn' => hne ?_
  obtain ⟨d, hd, rfl⟩ := List.mem_map.1 hn
  obtain ⟨d', hd', hdn⟩ := List.mem_map.1 hn'
  exact name_eq_of_mem_nodePool (named p hp) (named p' hp') hd hd' hdn.symm

end Rendering
end PriceOverlay
