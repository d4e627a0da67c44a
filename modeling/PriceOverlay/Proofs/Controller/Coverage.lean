import PriceOverlay.Proofs.Controller.Decisions
/-!
# Which decisions are covered

A wanted decision is covered if the overlay of its name is stored with its requirements. Names
are made by joining the parts of a key and folding them, so two keys may have one name, and
then the first decision that can take the name has it. A name that another scope holds can be
taken only after the pass over that scope.

**Results**
* `held_of_settled`: who holds a name after a pass.
* `held_cycle`: the decision that a name is held for after a cycle.
* `covered_iff`: the decisions that a cycle covers.
* `not_all_covered`: two regional plans of which one is not covered.
-/
namespace PriceOverlay

/-- The place of a commitment among the passes of a cycle. -/
def Commitment.rank : Commitment → Nat
  | computePlan => 0
  | instancePlan => 1
  | reserved => 2

/-- Whether decisions on a commitment can take a name: it is free, or it is held by the scope of
the commitment or of one whose pass comes before. -/
def ObjectStore.opensTo (s : ObjectStore) (n : String) (k : Commitment) : Bool :=
  match s.get? n with
  | none => true
  | some o => Commitment.all.any fun j =>
      decide (j.rank ≤ k.rank) && o.matchesSelector (Scope.commitment j).selector

namespace DecisionController

variable {c : DecisionController} {s : ObjectStore} {n : String}

/-- A store covers a decision if it has the overlay of its name with its requirements. -/
def Covered (c : DecisionController) (s : ObjectStore) (d : Decision) : Prop :=
  (s.get? d.name).map (·.requirements) = some (c.rendering.decision d).requirements

instance (c : DecisionController) (s : ObjectStore) (d : Decision) : Decidable (c.Covered s d) :=
  inferInstanceAs (Decidable (_ = _))

/-! ## Who holds a name -/

/-- What is stored under a name is nothing, or an overlay with the labels of a commitment. -/
inductive Held : Option StoredOverlay → Option (Commitment × List Requirement) → Prop
  | free : Held none none
  | taken {o : StoredOverlay} {j : Commitment}
      (hm : o.matchesSelector (Scope.commitment j).selector = true) :
      Held (some o) (some (j, o.requirements))

theorem Held.exists_of_some {o : Option StoredOverlay} {j : Commitment} {q : List Requirement}
    (h : Held o (some (j, q))) : ∃ a, o = some a ∧ a.requirements = q := by
  cases h
  exact ⟨_, rfl, rfl⟩

theorem commitment_unique {o : StoredOverlay} {j k : Commitment}
    (hj : o.matchesSelector (Scope.commitment j).selector = true)
    (hk : o.matchesSelector (Scope.commitment k).selector = true) : j = k := by
  have h := congrArg Scope.source (Scope.eq_of_matches rfl rfl hj hk)
  exact Commitment.text_injective (Option.some.inj h)

/-- The requirements that a commitment holds a name with for a decision. -/
def claim (c : DecisionController) (k : Commitment) (d : Decision) :
    Commitment × List Requirement :=
  (k, (c.rendering.decision d).requirements)

/-- Who holds a name after the pass over a commitment that wants it for a decision or not. -/
def turn (c : DecisionController) (k : Commitment) (d : Option Decision) :
    Option (Commitment × List Requirement) → Option (Commitment × List Requirement)
  | none => d.map (c.claim k)
  | some (j, q) => if j = k then d.map (c.claim k) else some (j, q)

/-- An overlay that a plan keeps is that of the first decision of its name. -/
theorem find?_of_first {l : List Decision} {o : Overlay} (h : o ∈ Overlay.firsts (l.map c.asked))
    (hn : o.name = n) : ∃ d, l.find? (·.name == n) = some d ∧ c.asked d = o := by
  have hf := Overlay.mem_firsts_iff.1 h
  rw [List.find?_map, hn] at hf
  simp only [Function.comp_def, name_asked] at hf
  exact Option.map_eq_some_iff.1 hf

theorem find?_of_unwanted {l : List Decision} (h : ∀ o ∈ l.map c.asked, o.name ≠ n) :
    l.find? (·.name == n) = none := by
  refine List.find?_eq_none.2 fun d hd hn => ?_
  have hdn : d.name = n := by simpa using hn
  exact h _ (List.mem_map.2 ⟨d, hd, rfl⟩) ((c.name_asked d).trans hdn)

/-- What a pass over a commitment does at a name is the turn of that commitment. -/
theorem held_of_settled {k : Commitment} {l : List Decision} {old new : Option StoredOverlay}
    {x : Option (Commitment × List Requirement)}
    (hs : Settled (.commitment k) (l.map c.asked) n old new)
    (hsound : ∀ o ∈ l.map c.asked, o.check = .ok ())
    (hmarked : ∀ o ∈ l.map c.asked,
      o.toStored.matchesSelector (Scope.commitment k).selector = true) (hx : Held old x) :
    Held new (c.turn k (l.find? (·.name == n)) x) := by
  have hclaim : ∀ {o : StoredOverlay} {d : Decision},
      o.matchesSelector (Scope.commitment k).selector = true →
      o.requirements = (c.asked d).requirements → Held (some o) (some (c.claim k d)) := by
    intro o d hm hq
    rw [asked_eq] at hq
    rw [claim, ← hq]
    exact .taken hm
  cases hs with
  | created hd hn _ =>
    cases hx
    obtain ⟨d, hf, rfl⟩ := find?_of_first hd hn
    rw [hf]
    exact hclaim (hmarked _ (Overlay.mem_of_mem_firsts hd)) rfl
  | rewritten hd hn _ hm _ =>
    cases hx with
    | taken hj =>
      obtain ⟨d, hf, rfl⟩ := find?_of_first hd hn
      rw [hf, turn, if_pos (commitment_unique hj hm)]
      exact hclaim (Overlay.matches_replacing (hmarked _ (Overlay.mem_of_mem_firsts hd)) _ _) rfl
  | agreed hd hn hm hdf =>
    cases hx with
    | taken hj =>
      obtain ⟨d, hf, rfl⟩ := find?_of_first hd hn
      rw [hf, turn, if_pos (commitment_unique hj hm)]
      exact hclaim hm (Overlay.differs_eq_false_iff.1 hdf).1.symm
  | taken hd hn hm =>
    cases hx with
    | taken hj =>
      rw [turn, if_neg (by rintro rfl; exact hm hj)]
      exact .taken hj
  | refused hd _ hc => exact absurd (hsound _ (Overlay.mem_of_mem_firsts hd)) hc
  | removed hno hm =>
    cases hx with
    | taken hj =>
      rw [find?_of_unwanted hno, turn, if_pos (commitment_unique hj hm)]
      exact .free
  | spared hno hm =>
    cases hx with
    | free =>
      rw [find?_of_unwanted hno]
      exact .free
    | taken hj =>
      rw [turn, if_neg (by rintro rfl; exact hm _ rfl hj)]
      exact .taken hj

variable {source : CapacitySource}

theorem held_pass {x : Option (Commitment × List Requirement)} (h : Held (s.get? n) x)
    (k : Commitment) :
    Held ((c.reconciler.pass (.commitment k) (c.desired (c.analyzer.analyze source) k)
        .none s).store.get? n)
      (c.turn k (((c.analyzer.analyze source).wanted k).find? (·.name == n)) x) := by
  have hs := c.reconciler.pass_settled (.commitment k)
    (c.desired (c.analyzer.analyze source) k) s n
  rw [map_desired] at hs
  refine held_of_settled hs (fun o ho => ?_) (fun o ho => ?_) h
  · obtain ⟨d, hd, rfl⟩ := List.mem_map.1 ho
    exact check_asked (mem_wanted.1 hd).1
  · obtain ⟨d, hd, rfl⟩ := List.mem_map.1 ho
    exact matches_asked_iff.2 (mem_wanted.1 hd).2.1

/-- The commitments take their turns in the order of the passes. -/
theorem held_passes {x : Option (Commitment × List Requirement)} (h : Held (s.get? n) x)
    (ks : List Commitment) :
    Held ((c.passes (c.analyzer.analyze source) .none s ks).store.get? n)
      (ks.foldl (fun x k =>
        c.turn k (((c.analyzer.analyze source).wanted k).find? (·.name == n)) x) x) := by
  induction ks generalizing s x with
  | nil => exact h
  | cons k r ih => exact ih (held_pass h k)

/-! ## The decision that has a name -/

/-- Whether a commitment has its turn once the name is free. -/
def opens (x : Option (Commitment × List Requirement)) (k : Commitment) : Bool :=
  match x with
  | none => true
  | some (j, _) => decide (j.rank ≤ k.rank)

theorem opensTo_of_held {x : Option (Commitment × List Requirement)} (h : Held (s.get? n) x)
    (k : Commitment) : s.opensTo n k = opens x k := by
  unfold ObjectStore.opensTo
  generalize s.get? n = o at h
  cases h with
  | free => rfl
  | @taken o j hm =>
    refine Bool.eq_iff_iff.2 ?_
    simp only [opens, List.any_eq_true, Bool.and_eq_true, decide_eq_true_eq]
    constructor
    · rintro ⟨i, -, hi, him⟩
      exact commitment_unique hm him ▸ hi
    · exact fun hj => ⟨j, by cases j <;> decide, hj, hm⟩

/-- After the turns of all commitments, the first that was open and wanted the name has it. -/
theorem turns_all (c : DecisionController) (wanted : Commitment → Option Decision)
    (x : Option (Commitment × List Requirement)) :
    Commitment.all.foldl (fun x k => c.turn k (wanted k) x) x =
      Commitment.all.findSome? fun k => if opens x k then (wanted k).map (c.claim k) else none := by
  cases x with
  | none =>
    cases h₀ : wanted .computePlan <;> cases h₁ : wanted .instancePlan <;>
      simp [Commitment.all, turn, opens, claim, h₀, h₁]
  | some held =>
    obtain ⟨j, q⟩ := held
    cases j <;> cases h₀ : wanted .computePlan <;> cases h₁ : wanted .instancePlan <;>
      cases h₂ : wanted .reserved <;>
      simp [Commitment.all, turn, opens, claim, Commitment.rank, h₀, h₁, h₂]

/-- The decisions that compete for a name: they are wanted, have it and can take it. -/
def competes (s : ObjectStore) (n : String) (e : Decision) : Bool :=
  e.shouldExist && e.name == n && s.opensTo n e.commitment

/-- Of the decisions on one commitment the first wanted one of the name competes first. -/
theorem find?_competes (a : Analysis) (s : ObjectStore) (n : String) (k : Commitment) :
    (a.decisions.filter (·.commitment = k)).find? (competes s n) =
      if s.opensTo n k then (a.wanted k).find? (·.name == n) else none := by
  rw [Analysis.wanted, List.find?_filter, List.find?_filter]
  split
  · rename_i ho
    congr 1
    funext e
    by_cases hk : e.commitment = k
    · simp [competes, hk, ho]
    · simp [hk]
  · rename_i ho
    refine List.find?_eq_none.2 fun e _ => ?_
    simp only [competes, decide_eq_true_eq, Bool.and_eq_true, not_and]
    rintro hk ⟨-, -⟩
    rwa [hk]

/-- After a cycle over a source that answers, a name is held for the first decision of the report
that competes for it. -/
theorem held_cycle (ha : c.analyzer.Answered source)
    {x : Option (Commitment × List Requirement)} (h : Held (s.get? n) x) (duration : Duration) :
    Held ((c.cycle source .none duration s).store.get? n)
      (((c.analyzer.analyze source).decisions.find? (competes s n)).map
        fun e => c.claim e.commitment e) := by
  have hpasses : Held ((c.passes (c.analyzer.analyze source) .none s Commitment.all).store.get? n)
      _ := held_passes h Commitment.all
  rw [turns_all] at hpasses
  have hstore : (c.cycle source .none duration s).store =
      (c.passes (c.analyzer.analyze source) .none s Commitment.all).store := by
    rw [← ha.due_eq_all]
    rfl
  rw [hstore, Analyzer.decisions_grouped, List.find?_flatMap, List.map_findSome?]
  convert hpasses using 3 with k
  rw [Function.comp_apply, find?_competes, opensTo_of_held h]
  split
  · cases hd : ((c.analyzer.analyze source).wanted k).find? (·.name == n) with
    | none => rfl
    | some d =>
      have hk := (mem_wanted.1 (List.mem_of_find?_eq_some hd)).2.1
      rw [Option.map_some, Option.map_some, hk]
  · rfl

theorem scope_eq_of_requirements {r : Rendering} {d e : Decision}
    (h : (r.decision d).requirements = (r.decision e).requirements) : d.scope = e.scope := by
  have hreq : d.scope.requirements = e.scope.requirements := by
    unfold Rendering.decision Rendering.finish at h
    split at h <;> simpa using h
  revert hreq
  cases d.scope <;> cases e.scope <;>
    simp [DecisionScope.requirements, Requirement.is, Label.instanceFamily, Label.instanceType]

/-- **Coverage.** After a cycle over a source that answers, from a store where only the scopes of
decisions hold names of decisions, a decision is covered exactly if it is the first of the report
that competes for its name. -/
theorem covered_iff (c : DecisionController) (source : CapacitySource) (s : ObjectStore)
    (duration : Duration) (answered : c.analyzer.Answered source)
    (held : ∀ d ∈ (c.analyzer.analyze source).decisions, ∀ o, s.get? d.name = some o →
      ∃ k : Commitment, o.matchesSelector (Scope.commitment k).selector = true) :
    ∀ d ∈ (c.analyzer.analyze source).decisions,
      c.Covered (c.cycle source .none duration s).store d ↔
        (c.analyzer.analyze source).decisions.find? (competes s d.name) = some d := by
  intro d hd
  have hx : ∃ x, Held (s.get? d.name) x := by
    cases ho : s.get? d.name with
    | none => exact ⟨_, .free⟩
    | some o =>
      obtain ⟨k, hk⟩ := held d hd o ho
      exact ⟨_, .taken hk⟩
  obtain ⟨x, hx⟩ := hx
  have hh := held_cycle answered hx duration
  unfold Covered
  generalize (c.cycle source .none duration s).store.get? d.name = o at hh
  cases hf : (c.analyzer.analyze source).decisions.find? (competes s d.name) with
  | none =>
    rw [hf] at hh
    cases hh
    exact ⟨nofun, nofun⟩
  | some e =>
    rw [hf] at hh
    obtain ⟨a, rfl, hq⟩ := hh.exists_of_some
    have he := List.mem_of_find?_eq_some hf
    rw [Option.map_some, hq, Option.some.injEq, Option.some.injEq]
    exact ⟨fun h => Analyzer.eq_of_scope he hd (scope_eq_of_requirements h), fun h => h ▸ rfl⟩

/-- Two regional plans whose families differ in the case of a letter. -/
def twoFamilies : CapacitySource :=
  FixedSource.source
    { capacity := [⟨.regional, some "M5", some "us-west-2", 5, default⟩,
        ⟨.regional, some "m5", some "us-west-2", 5, default⟩]
      ages := [(.savingsPlans, .ofSeconds 60), (.reservedInstances, .ofSeconds 60)] }

theorem answered_twoFamilies : Analyzer.Answered {} twoFamilies where
  fresh family := by
    cases family
    · exact ⟨.ofSeconds 60, rfl, by decide⟩
    · exact ⟨.ofSeconds 60, rfl, by decide⟩
  capacity kind := ⟨_, rfl⟩
  utilization kind := ⟨_, rfl⟩
  reserved := ⟨_, rfl⟩
  counted samples hs k := by
    cases hs
    exact Nat.two_pow_pos 64

/-- A store in which a commitment has the name of those plans. -/
def holding (k : Commitment) : ObjectStore :=
  let o := Rendering.decision {} ⟨"savings-plan-m5-us-west-2", k, .global, true, "", 1, freePrice⟩
  (ObjectStore.empty.seed o.toStored).2

theorem matches_of_holding {k : Commitment} {o : StoredOverlay}
    (ho : (holding k).get? n = some o) :
    o.matchesSelector (Scope.commitment k).selector = true := by
  rw [holding, ObjectStore.seed, ObjectStore.get?_put] at ho
  split at ho
  · cases ho
    exact Rendering.matches_decision_iff.2 rfl
  · cases ho

/-- The decision on the second of the two plans. -/
def secondPlan : Decision := DecisionRules.plan {} (.regional "m5" "us-west-2") ⟨5, 0⟩

theorem covered_iff_secondPlan :
    secondPlan ∈ (Analyzer.analyze {} twoFamilies).decisions ∧
      (Covered {} (cycle {} twoFamilies .none (.ofSeconds 1) (holding .instancePlan)).store
          secondPlan ↔
        (Analyzer.analyze {} twoFamilies).decisions.find?
          (competes (holding .instancePlan) secondPlan.name) = some secondPlan) := by
  have hmem : secondPlan ∈ (Analyzer.analyze {} twoFamilies).decisions := by decide +kernel
  exact ⟨hmem, covered_iff {} twoFamilies (holding .instancePlan) (.ofSeconds 1)
    answered_twoFamilies (fun _ _ _ ho => ⟨_, matches_of_holding ho⟩) secondPlan hmem⟩

/-- From a store without overlays a cycle covers only the first of the two plans, and neither
where their name is held for reserved instances. -/
theorem not_all_covered :
    Analyzer.Answered {} twoFamilies ∧
      ∀ s ∈ [ObjectStore.empty, holding .reserved],
        (∀ d ∈ (Analyzer.analyze {} twoFamilies).decisions, ∀ o, s.get? d.name = some o →
          ∃ k : Commitment, o.matchesSelector (Scope.commitment k).selector = true) ∧
        ∃ d ∈ (Analyzer.analyze {} twoFamilies).decisions, d.shouldExist = true ∧
          ¬ Covered {} (cycle {} twoFamilies .none (.ofSeconds 1) s).store d := by
  refine ⟨answered_twoFamilies, List.forall_mem_cons.2
    ⟨⟨nofun, by decide +kernel⟩, List.forall_mem_singleton.2
      ⟨fun _ _ _ ho => ⟨_, matches_of_holding ho⟩, by decide +kernel⟩⟩⟩

end DecisionController
end PriceOverlay
