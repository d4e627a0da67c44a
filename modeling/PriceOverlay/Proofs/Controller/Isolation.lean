import PriceOverlay.Controller.Operator
import PriceOverlay.Proofs.Controller.Decisions
import PriceOverlay.Proofs.Reconcile.Isolation
/-!
# Controllers keep to their own overlays

Decision cycles, NodePool events and the removal of orphans share one store with objects that
others put there. Each of these moves is made of passes, and each pass keeps to its scope, so a
move keeps to the overlays whose labels it goes by, whatever the store holds, whatever the source
answers and whichever calls fail.

**Results**
* `confined_cycle`, `confined_handle`, `confined_orphans`: what each sort of move keeps to.
* `run_isolates`: in every run, what one more move may have done to each object.
-/
namespace PriceOverlay

/-! ## Cycles -/

namespace DecisionController

variable {c : DecisionController}

theorem matches_desired {a : Analysis} {k : Commitment} {d : Overlay} (hd : d ∈ c.desired a k) :
    d.toStored.matchesSelector (Scope.commitment k).selector = true := by
  obtain ⟨e, he, rfl⟩ := List.mem_map.1 hd
  obtain ⟨-, he⟩ := List.mem_filter.1 he
  simp only [Bool.and_eq_true, decide_eq_true_eq] at he
  exact Rendering.matches_decision_iff.2 he.1

/-- The passes of a cycle keep to the overlays of the commitments they are over. -/
theorem confined_passes (a : Analysis) (faults : StoreFaults) (ks : List Commitment)
    (s : ObjectStore) :
    s.Confined (fun o => ∃ k ∈ ks, o.matchesSelector (Scope.commitment k).selector = true)
      (c.passes a faults s ks).store := by
  induction ks generalizing s with
  | nil => exact .refl _ s
  | cons k r ih =>
    have hpass := c.reconciler.confined_pass
      (fun d (hd : d ∈ c.desired a k) => matches_desired hd) faults s
    have hrest := ih (c.reconciler.pass (.commitment k) (c.desired a k) faults s).store
    refine (hpass.mono fun o ho => ?_).trans (hrest.mono fun o ho => ?_)
    · exact ⟨k, List.mem_cons_self, ho⟩
    · obtain ⟨j, hj, ho⟩ := ho
      exact ⟨j, List.mem_cons_of_mem _ hj, ho⟩

theorem confined_cycle (source : CapacitySource) (faults : StoreFaults) (duration : Duration)
    (s : ObjectStore) :
    s.Confined (fun o => ∃ k ∈ (c.analyzer.analyze source).analyzed,
        o.matchesSelector (Scope.commitment k).selector = true)
      (c.cycle source faults duration s).store :=
  (confined_passes _ faults _ s).mono fun _ ⟨k, hk, ho⟩ =>
    ⟨k, Analysis.mem_analyzed_of_mem_due hk, ho⟩

end DecisionController

/-! ## Events and orphans -/

namespace PreferenceController

variable {c : PreferenceController}

theorem confined_applied (p : NodePool) (faults : StoreFaults) (w : WantedCounts)
    (s : ObjectStore) :
    s.Confined (·.matchesSelector (Scope.nodePool p.name).selector = true)
      (c.applied p faults w s).2.store := by
  refine c.reconciler.confined_pass (fun d hd => ?_) faults s
  exact (Rendering.matches_nodePool_iff hd).2 ⟨rfl, fun source h => (Option.some.inj h).symm⟩

theorem confined_deleted (name : String) (faults : StoreFaults) (w : WantedCounts)
    (s : ObjectStore) :
    s.Confined (·.matchesSelector (Scope.nodePool name).selector = true)
      (c.deleted name faults w s).2.store :=
  c.reconciler.confined_pass (fun _ hd => absurd hd List.not_mem_nil) faults s

/-- An overlay of one NodePool is one of all preference overlays. -/
theorem matches_allPreferences {name : String} {o : StoredOverlay}
    (h : o.matchesSelector (Scope.nodePool name).selector = true) :
    o.matchesSelector allPreferences.selector = true := by
  obtain ⟨hmanaged, hkind, -⟩ := Scope.matches_selector_iff.1 h
  exact Scope.matches_selector_iff.2 ⟨hmanaged, hkind, fun source hs => by cases hs⟩

/-- A listing of NodePools touches only the overlays of those listed. -/
theorem confined_appliedAll (faults : StoreFaults) (ps : List NodePool) (w : WantedCounts)
    (s : ObjectStore) :
    s.Confined (fun o => ∃ p ∈ ps, o.matchesSelector (Scope.nodePool p.name).selector = true)
      (c.appliedAll faults w s ps).2.store := by
  induction ps generalizing w s with
  | nil => exact .refl _ s
  | cons p r ih =>
    have hfirst := (confined_applied (c := c) p faults w s).mono
      fun o ho => (⟨p, List.mem_cons_self, ho⟩ :
        ∃ q ∈ p :: r, o.matchesSelector (Scope.nodePool q.name).selector = true)
    exact hfirst.trans ((ih _ _).mono fun o ⟨q, hq, ho⟩ => ⟨q, List.mem_cons_of_mem _ hq, ho⟩)

theorem confined_orphans (live : List String) (faults : StoreFaults) (s : ObjectStore) :
    s.Confined (·.matchesSelector allPreferences.selector = true)
      (orphans live faults s).store := by
  unfold orphans
  split
  · exact .refl _ s
  · rename_i existing h
    obtain rfl := Scope.listed_eq h
    refine Plan.confined_deleting ?_ (fun o ho => ?_) faults
    · exact (List.filter_sublist.map _).nodup (s.nodup_names_list _)
    · exact ObjectStore.mem_list_iff.1 (List.mem_filter.1 ho).1

theorem confined_restarted (ps : List NodePool) (faults : StoreFaults) (w : WantedCounts)
    (s : ObjectStore) :
    s.Confined (·.matchesSelector allPreferences.selector = true)
      (c.restarted ps faults w s).2.store :=
  ((confined_appliedAll faults ps w s).mono fun _ ⟨_, _, ho⟩ => matches_allPreferences ho).trans
    (confined_orphans _ faults _)

end PreferenceController

/-! ## Runs -/

/-- What the controllers do on a store, one thing at a time. -/
inductive Move where
  | cycle (source : CapacitySource) (duration : Duration)
  | event (e : NodePoolEvent)
  | orphans (live : List String)

namespace Operator

/-- The wanted counts and the store after a move, of which some calls to the store fail. -/
def step (o : Operator) (x : WantedCounts × ObjectStore) (m : Move × StoreFaults) :
    WantedCounts × ObjectStore :=
  match m.1 with
  | .cycle source duration => (x.1, (o.decisions.cycle source m.2 duration x.2).store)
  | .event e =>
    let done := o.preferences.handle e m.2 x.1 x.2
    (done.1, done.2.store)
  | .orphans live => (x.1, (PreferenceController.orphans live m.2 x.2).store)

/-- The wanted counts and the store after moves. -/
def steps (o : Operator) (x : WantedCounts × ObjectStore) (ms : List (Move × StoreFaults)) :
    WantedCounts × ObjectStore :=
  ms.foldl o.step x

theorem step_cycle (o : Operator) (duration : Duration) (st : OperatorState) :
    o.step (st.wanted, st.store) (.cycle st.source.source duration, st.faults) =
      ((o.cycle duration st).2.wanted, (o.cycle duration st).2.store) := by
  unfold cycle
  dsimp only
  split <;> rfl

theorem step_event (o : Operator) (e : NodePoolEvent) (st : OperatorState) :
    o.step (st.wanted, st.store) (.event e, st.faults) =
      ((o.handle e st).2.wanted, (o.handle e st).2.store) := rfl

theorem step_orphans (o : Operator) (live : List String) (st : OperatorState) :
    o.step (st.wanted, st.store) (.orphans live, st.faults) =
      ((orphans live st).2.wanted, (orphans live st).2.store) := rfl

end Operator

/-- The overlays that a move may change or delete, told by their labels. -/
def Move.Owns (o : Operator) (a : StoredOverlay) : Move → Prop
  | cycle source _ =>
    a.isManaged = true ∧ a.labels.get? Label.kind = some OverlayKind.costDecision.text ∧
      ∃ k ∈ (o.decisions.analyzer.analyze source).analyzed,
        a.labels.get? Label.source = some k.text
  | event (.applied p) | event (.deleted p) =>
    a.isManaged = true ∧ a.labels.get? Label.kind = some OverlayKind.preference.text ∧
      a.labels.get? Label.source = some p.name
  | event (.restarted _) | orphans _ =>
    a.isManaged = true ∧ a.labels.get? Label.kind = some OverlayKind.preference.text

/-- The labels that a pass over a scope goes by. -/
theorem Scope.labels_of_matches {scope : Scope} {a : StoredOverlay}
    (h : a.matchesSelector scope.selector = true) :
    a.isManaged = true ∧ a.labels.get? Label.kind = some scope.kind.text ∧
      ∀ source, scope.source = some source → a.labels.get? Label.source = some source :=
  ⟨isManaged_of_matches h, (matches_selector_iff.1 h).2⟩

namespace Operator

variable {o : Operator}

/-- One move keeps to the overlays it owns. -/
theorem confined_step (o : Operator) (x : WantedCounts × ObjectStore) (m : Move)
    (faults : StoreFaults) : x.2.Confined (m.Owns o) (o.step x (m, faults)).2 := by
  cases m with
  | cycle source duration =>
    refine (DecisionController.confined_cycle source faults duration x.2).mono fun a ha => ?_
    obtain ⟨k, hk, ha⟩ := ha
    obtain ⟨hmanaged, hkind, hsource⟩ := Scope.labels_of_matches ha
    exact ⟨hmanaged, hkind, k, hk, hsource _ rfl⟩
  | event e =>
    cases e with
    | applied p =>
      refine (PreferenceController.confined_applied p faults x.1 x.2).mono fun a ha => ?_
      obtain ⟨hmanaged, hkind, hsource⟩ := Scope.labels_of_matches ha
      exact ⟨hmanaged, hkind, hsource _ rfl⟩
    | deleted p =>
      refine (PreferenceController.confined_deleted p.name faults x.1 x.2).mono fun a ha => ?_
      obtain ⟨hmanaged, hkind, hsource⟩ := Scope.labels_of_matches ha
      exact ⟨hmanaged, hkind, hsource _ rfl⟩
    | restarted ps =>
      refine (PreferenceController.confined_restarted ps faults x.1 x.2).mono fun a ha => ?_
      obtain ⟨hmanaged, hkind, -⟩ := Scope.labels_of_matches ha
      exact ⟨hmanaged, hkind⟩
  | orphans live =>
    refine (PreferenceController.confined_orphans live faults x.2).mono fun a ha => ?_
    obtain ⟨hmanaged, hkind, -⟩ := Scope.labels_of_matches ha
    exact ⟨hmanaged, hkind⟩

theorem isManaged_of_owns {m : Move} {a : StoredOverlay} (h : m.Owns o a) : a.isManaged = true := by
  cases m with
  | cycle => exact h.1
  | event e => cases e <;> exact h.1
  | orphans => exact h.1

/-- A run keeps to managed overlays. -/
theorem confined_steps (o : Operator) (x : WantedCounts × ObjectStore)
    (ms : List (Move × StoreFaults)) :
    x.2.Confined (·.isManaged = true) (o.steps x ms).2 := by
  induction ms generalizing x with
  | nil => exact .refl _ x.2
  | cons m r ih =>
    have hstep := o.confined_step x m.1 m.2
    exact (hstep.mono fun _ => isManaged_of_owns).trans (ih (o.step x m))

/-- **Isolation.** Whatever moves came before, on whatever store, and whichever calls fail: a move
changes or deletes only overlays that it owns by their labels, what it writes it owns too, and
through the whole run an object that is not managed stays exactly as it was. -/
theorem run_isolates (o : Operator) (x : WantedCounts × ObjectStore)
    (ms : List (Move × StoreFaults)) (m : Move) (faults : StoreFaults) :
    let before := (o.steps x ms).2
    let after := (o.steps x (ms ++ [(m, faults)])).2
    (∀ n a, before.get? n = some a → after.get? n ≠ some a → m.Owns o a) ∧
      (∀ n a, after.get? n = some a → before.get? n ≠ some a → m.Owns o a) ∧
      ∀ n a, x.2.get? n = some a → a.isManaged = false → after.get? n = some a := by
  intro before after
  have hafter : after = (o.step (o.steps x ms) (m, faults)).2 := by
    simp only [after, steps, List.foldl_append, List.foldl_cons, List.foldl_nil]
  have hstep : before.Confined (m.Owns o) after := hafter ▸ o.confined_step _ m faults
  refine ⟨fun n a ha hne => ?_, fun n a ha hne => hstep.written ha hne, fun n a ha hm => ?_⟩
  · by_contra hown
    exact hne (hstep.stays ha hown)
  · refine (o.confined_steps x _).stays ha ?_
    rw [hm]
    exact Bool.false_ne_true

/-- A store in which the name of a decision is held by an object of someone else, beside an
overlay of a NodePool. -/
def sharedStore : ObjectStore :=
  let foreign : StoredOverlay := ⟨"savings-plan-m5-us-west-2", (∅ : Labels).insert "team" "batch",
    [], none, [.is "team" "batch"], 7, "-5%"⟩
  let s := (ObjectStore.empty.seed foreign).2
  (s.seed (Rendering.preference {} ⟨1, "general", [], ⟨0⟩⟩).toStored).2

/-- A cycle that wants the plans for `m5`, after which the orphans of a cluster without NodePools
are removed. -/
def sharedMoves : List (Move × StoreFaults) :=
  [(.cycle (DecisionController.agedSource 60 "m5") (.ofSeconds 1), .none), (.orphans [], .none)]

theorem run_isolates_shared :
    let after := (steps ⟨{}, {}, .standard, false⟩ (∅, sharedStore) sharedMoves).2
    (∃ a, sharedStore.get? "savings-plan-m5-us-west-2" = some a ∧ a.isManaged = false ∧
        after.get? "savings-plan-m5-us-west-2" = some a) ∧
      sharedStore.objects.keys = ["general-preference-1", "savings-plan-m5-us-west-2"] ∧
      after.objects.keys =
        ["reserved-instance-c5.large-us-west-2", "savings-plan-m5-us-west-2"] := by
  intro after
  have h := run_isolates ⟨{}, {}, .standard, false⟩ (∅, sharedStore) (sharedMoves.take 1)
    (.orphans []) .none
  have hforeign : (sharedStore.get? "savings-plan-m5-us-west-2").map (·.isManaged) =
      some false := by decide +kernel
  obtain ⟨a, ha, hm⟩ := Option.map_eq_some_iff.1 hforeign
  exact ⟨⟨a, ha, hm, h.2.2 _ a ha hm⟩, by decide +kernel, by decide +kernel⟩

end Operator
end PriceOverlay
