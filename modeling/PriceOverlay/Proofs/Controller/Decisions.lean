import PriceOverlay.Controller.Decisions
import PriceOverlay.Proofs.Capacity.Analysis
import PriceOverlay.Proofs.Overlay.Rendering
import PriceOverlay.Proofs.Reconcile.Divided
/-!
# The overlays of decisions over a run

A run starts from an empty store and makes cycles without faults, while the source changes
from cycle to cycle. The store divides among the commitments: the share of each is what the
last cycle that analyzed it wanted.

**Results**
* `divided_passes`: the passes of a cycle renew the shares of the commitments they are over.
* `run_stores_last_analyzed`: after any cycles, what is stored for each commitment; and a cycle
  that does not analyze a commitment leaves its overlays exactly as they were.
-/
namespace PriceOverlay

/-- Whether the labels of an overlay say that it comes from decisions on a commitment. -/
def StoredOverlay.isFor (k : Commitment) (o : StoredOverlay) : Bool :=
  o.labels.get? Label.kind == some OverlayKind.costDecision.text &&
    o.labels.get? Label.source == some k.text

/-- An overlay of the scope of a commitment comes from decisions on it and on no other. -/
theorem StoredOverlay.isFor_of_matches {o : StoredOverlay} {j : Commitment}
    (h : o.matchesSelector (Scope.commitment j).selector = true) (k : Commitment) :
    o.isFor k = decide (j = k) := by
  obtain ⟨-, hkind, hsource⟩ := Scope.matches_selector_iff.1 h
  rw [isFor, hkind, hsource _ rfl]
  by_cases hk : j = k
  · simp [hk, Scope.commitment]
  · have hne : j.text ≠ k.text := fun h => hk (Commitment.text_injective h)
    simp [hk, hne, Scope.commitment]

namespace DecisionController

variable {c : DecisionController} {s : ObjectStore}

/-- The store after one more cycle without faults, which took a while. -/
def step (c : DecisionController) (s : ObjectStore) (x : CapacitySource × Duration) : ObjectStore :=
  (c.cycle x.1 .none x.2 s).store

/-- The store after cycles, from an empty store. -/
def run (c : DecisionController) (cycles : List (CapacitySource × Duration)) : ObjectStore :=
  cycles.foldl c.step .empty

/-- What is wanted once an analysis counts for some commitments; the others keep what they had. -/
def renew (w : Commitment → List Decision) (a : Analysis) (ks : List Commitment)
    (k : Commitment) : List Decision :=
  if k ∈ ks then a.wanted k else w k

/-- What the last cycle that analyzed a commitment wanted for it. -/
def lastWanted (c : DecisionController) (cycles : List (CapacitySource × Duration)) :
    Commitment → List Decision :=
  cycles.foldl
    (fun w x => renew w (c.analyzer.analyze x.1) (c.analyzer.analyze x.1).analyzed) fun _ => []

/-- The overlay for a decision as the controller stores it, apart from the version. -/
def stored (c : DecisionController) (d : Decision) : StoredOverlay :=
  { (c.rendering.decision d).toStored with owners := c.reconciler.owner.toList }

/-! ## The share of a commitment -/

/-- The overlay for a decision, owned by the owner of the controller. -/
def asked (c : DecisionController) (d : Decision) : Overlay :=
  c.reconciler.owned (c.rendering.decision d)

theorem asked_eq (c : DecisionController) (d : Decision) : c.asked d =
    { c.rendering.decision d with owners := c.reconciler.owner.toList } := by
  have h := c.rendering.owners_decision d
  rw [asked, Reconciler.owned_eq_of_apart (fun w _ a ha => by rw [h] at ha; cases ha), h]
  rfl

theorem name_asked (c : DecisionController) (d : Decision) : (c.asked d).name = d.name := by
  rw [asked_eq]
  exact c.rendering.name_decision d

theorem toStored_asked (c : DecisionController) (d : Decision) :
    (c.asked d).toStored = c.stored d := by
  rw [asked_eq]
  rfl

theorem matches_asked_iff {d : Decision} {k : Commitment} :
    (c.asked d).toStored.matchesSelector (Scope.commitment k).selector = true ↔
      d.commitment = k := by
  rw [toStored_asked]
  exact Rendering.matches_decision_iff

/-- What is stored for a decision tells its commitment. -/
theorem isFor_of_content {d : Decision} {o : StoredOverlay} (h : o.content = (c.asked d).toStored)
    (k : Commitment) : o.isFor k = decide (d.commitment = k) :=
  StoredOverlay.isFor_of_matches
    ((StoredOverlay.matchesSelector_of_content h _).trans (matches_asked_iff.2 rfl)) k

/-- The decisions wanted for each commitment are on it and plain. -/
def Sorted (c : DecisionController) (w : Commitment → List Decision) : Prop :=
  ∀ k, ∀ d ∈ w k, d.commitment = k ∧ d.Plain c.analyzer.rules

/-- What the scope of a commitment has. -/
def share (c : DecisionController) (w : Commitment → List Decision) (k : Commitment) :
    List Overlay :=
  Overlay.firsts ((w k).map c.asked)

theorem exists_of_mem_share {w : Commitment → List Decision} {k : Commitment} {o : Overlay}
    (h : o ∈ c.share w k) : ∃ d ∈ w k, c.asked d = o :=
  List.mem_map.1 (Overlay.mem_of_mem_firsts h)

theorem find?_share (c : DecisionController) (w : Commitment → List Decision) (k : Commitment)
    (n : String) :
    (c.share w k).find? (·.name == n) = ((w k).find? (·.name == n)).map c.asked := by
  rw [share, Overlay.find?_firsts, List.find?_map]
  simp only [Function.comp_def, name_asked]

theorem map_desired (c : DecisionController) (a : Analysis) (k : Commitment) :
    (c.desired a k).map c.reconciler.owned = (a.wanted k).map c.asked := by
  rw [desired, List.map_map]
  rfl

/-! ## One cycle -/

section
variable {w : Commitment → List Decision} {source : CapacitySource}

theorem mem_wanted {a : Analysis} {k : Commitment} {d : Decision} :
    d ∈ a.wanted k ↔ d ∈ a.decisions ∧ d.commitment = k ∧ d.shouldExist = true := by
  simp only [Analysis.wanted, List.mem_filter, Bool.and_eq_true, decide_eq_true_eq]

theorem check_asked {d : Decision} (hd : d ∈ (c.analyzer.analyze source).decisions) :
    (c.asked d).check = .ok () := by
  obtain ⟨hname, hprice⟩ := Analyzer.named_of_mem_decisions hd
  exact (c.reconciler.owned_check _).trans (c.rendering.check_decision hname hprice)

/-- A commitment may take over its share after an analysis of a plain source. -/
theorem follows_wanted (hw : c.Sorted w) (hp : source.Plain) (k : Commitment) :
    Follows (.commitment k) (c.share w) k
      ((c.desired (c.analyzer.analyze source) k).map c.reconciler.owned) := by
  rw [map_desired]
  have hnew : ∀ o ∈ ((c.analyzer.analyze source).wanted k).map c.asked,
      ∃ d ∈ (c.analyzer.analyze source).decisions, d.commitment = k ∧ c.asked d = o := by
    intro o ho
    obtain ⟨d, hd, rfl⟩ := List.mem_map.1 ho
    obtain ⟨hd, hk, -⟩ := mem_wanted.1 hd
    exact ⟨d, hd, hk, rfl⟩
  refine ⟨fun o ho => ?_, fun j o ho => ?_, fun j o ho o' ho' hn => ?_, fun o ho o' ho' _ => ?_,
    fun o ho o' ho' _ _ => ?_⟩
  · obtain ⟨d, hd, -, rfl⟩ := hnew o ho
    exact check_asked hd
  · obtain ⟨d, hd, rfl⟩ := exists_of_mem_share ho
    rw [matches_asked_iff, (hw j d hd).1]
  · obtain ⟨e, he, rfl⟩ := exists_of_mem_share ho
    obtain ⟨d, hd, hk, rfl⟩ := hnew o' ho'
    rw [name_asked, name_asked] at hn
    obtain ⟨hj, hplain⟩ := hw j e he
    rw [← hj, ← hk]
    exact hplain.commitment_eq_of_name (Analyzer.plain_of_mem_decisions hp hd) hn
  · obtain ⟨e, he, rfl⟩ := exists_of_mem_share ho
    obtain ⟨d, hd, hk, rfl⟩ := hnew o' ho'
    rw [asked_eq, asked_eq]
    exact c.rendering.labels_decision_eq ((hw k e he).1.trans hk.symm)
  · obtain ⟨e, -, rfl⟩ := exists_of_mem_share ho
    obtain ⟨d, -, -, rfl⟩ := hnew o' ho'
    rw [asked_eq, asked_eq]

theorem sorted_renew (hw : c.Sorted w) (hp : source.Plain) (ks : List Commitment) :
    c.Sorted (renew w (c.analyzer.analyze source) ks) := by
  intro k d hd
  unfold renew at hd
  split at hd
  · obtain ⟨hd, hk, -⟩ := mem_wanted.1 hd
    exact ⟨hk, Analyzer.plain_of_mem_decisions hp hd⟩
  · exact hw k d hd

theorem renew_cons (w : Commitment → List Decision) (a : Analysis) (k : Commitment)
    (ks : List Commitment) : renew w a (k :: ks) = renew (renew w a [k]) a ks := by
  funext j
  unfold renew
  by_cases hj : j ∈ ks <;> by_cases hk : j = k <;> simp [hj, hk]

/-- A pass over a commitment renews its share. -/
theorem divided_pass (hw : c.Sorted w) (hp : source.Plain) (h : Divided (c.share w) s)
    (k : Commitment) :
    Divided (c.share (renew w (c.analyzer.analyze source) [k]))
      (c.reconciler.pass (.commitment k) (c.desired (c.analyzer.analyze source) k) .none s).store := by
  have hshare : c.share (renew w (c.analyzer.analyze source) [k]) =
      Function.update (c.share w) k (Overlay.firsts
        ((c.desired (c.analyzer.analyze source) k).map c.reconciler.owned)) := by
    funext j
    rw [map_desired]
    unfold share renew
    by_cases hj : j = k
    · rw [if_pos (List.mem_singleton.2 hj), hj, Function.update_self]
    · rw [if_neg (fun h => hj (List.mem_singleton.1 h)), Function.update_of_ne hj]
  rw [hshare]
  exact h.pass (follows_wanted hw hp k)

/-- A pass over another commitment leaves what is stored for this one. -/
theorem filter_isFor_pass (hw : c.Sorted w) (hp : source.Plain) (h : Divided (c.share w) s)
    {j k : Commitment} (hjk : j ≠ k) (n : String) :
    ((c.reconciler.pass (.commitment j) (c.desired (c.analyzer.analyze source) j)
      .none s).store.get? n).filter (·.isFor k) = (s.get? n).filter (·.isFor k) := by
  refine h.filter_get?_pass (follows_wanted hw hp j) (fun e he o ho => ?_) (fun e he o ho => ?_) n
  · obtain ⟨d, hd, rfl⟩ := exists_of_mem_share he
    rw [isFor_of_content ho, (hw j d hd).1]
    exact decide_eq_false hjk
  · rw [map_desired] at he
    obtain ⟨d, hd, rfl⟩ := List.mem_map.1 he
    rw [isFor_of_content ho, (mem_wanted.1 hd).2.1]
    exact decide_eq_false hjk

theorem divided_passes (hp : source.Plain) {ks : List Commitment} (hw : c.Sorted w)
    (h : Divided (c.share w) s) :
    Divided (c.share (renew w (c.analyzer.analyze source) ks))
      (c.passes (c.analyzer.analyze source) .none s ks).store := by
  induction ks generalizing w s with
  | nil => exact h
  | cons k r ih =>
    rw [renew_cons]
    exact ih (sorted_renew hw hp [k]) (divided_pass hw hp h k)

theorem filter_isFor_passes (hp : source.Plain) {ks : List Commitment} (hw : c.Sorted w)
    (h : Divided (c.share w) s) {k : Commitment} (hk : k ∉ ks) (n : String) :
    ((c.passes (c.analyzer.analyze source) .none s ks).store.get? n).filter (·.isFor k) =
      (s.get? n).filter (·.isFor k) := by
  induction ks generalizing w s with
  | nil => rfl
  | cons j r ih =>
    simp only [List.mem_cons, not_or] at hk
    exact (ih (sorted_renew hw hp [j]) (divided_pass hw hp h j) hk.2).trans
      (filter_isFor_pass hw hp h (Ne.symm hk.1) n)

end

/-- A cycle over a plain source makes a pass for all that is analyzed. -/
theorem step_eq (c : DecisionController) (s : ObjectStore) {x : CapacitySource × Duration}
    (hp : x.1.Plain) : c.step s x = (c.passes (c.analyzer.analyze x.1) .none s
      (c.analyzer.analyze x.1).analyzed).store := by
  rw [← Analysis.due_eq_analyzed (hp.outgrown_eq_false c.analyzer)]
  rfl

/-! ## Runs -/

theorem divided_run {cycles : List (CapacitySource × Duration)}
    (plain : ∀ x ∈ cycles, x.1.Plain) :
    c.Sorted (c.lastWanted cycles) ∧ Divided (c.share (c.lastWanted cycles)) (c.run cycles) := by
  have hempty : c.Sorted (fun _ => []) ∧ Divided (c.share fun _ => []) .empty :=
    ⟨fun _ _ hd => absurd hd List.not_mem_nil, Divided.empty⟩
  -- by induction on the cycles, the wanted decisions and the store taking each step together
  refine List.foldl_rel (r := fun w s => c.Sorted w ∧ Divided (c.share w) s) hempty ?_
  intro x hx w s ⟨hw, h⟩
  rw [step_eq c s (plain x hx)]
  exact ⟨sorted_renew hw (plain x hx) _, divided_passes (plain x hx) hw h⟩

/-- What is stored for a commitment under a name is the overlay for the first decision of that
name that was wanted last. -/
theorem stored_of_divided {w : Commitment → List Decision} (hw : c.Sorted w)
    (h : Divided (c.share w) s) (k : Commitment) (n : String) :
    ((s.get? n).filter (·.isFor k)).map (·.content) =
      ((w k).find? (·.name == n)).map c.stored := by
  cases hd : (w k).find? (·.name == n) with
  | none =>
    have hnone : (s.get? n).filter (·.isFor k) = none := by
      refine Option.eq_none_iff_forall_ne_some.2 fun o ho => ?_
      obtain ⟨ho, hk⟩ := Option.filter_eq_some_iff.1 ho
      obtain ⟨j, e, he, hn, hc⟩ := h.stored ho
      obtain ⟨d, hdw, rfl⟩ := exists_of_mem_share he
      rw [isFor_of_content hc, (hw j d hdw).1, decide_eq_true_eq] at hk
      subst hk
      rw [name_asked] at hn
      exact absurd hn (by simpa using List.find?_eq_none.1 hd d hdw)
    rw [hnone]
    rfl
  | some d =>
    have hn : d.name = n := by simpa using List.find?_some hd
    have hshare : c.asked d ∈ c.share w k := by
      have hf := find?_share c w k n
      rw [hd] at hf
      exact List.mem_of_find?_eq_some hf
    obtain ⟨o, ho, hc⟩ := h.present hshare
    rw [name_asked, hn] at ho
    have hk : o.isFor k = true := by
      rw [isFor_of_content hc, decide_eq_true_eq]
      exact (hw k d (List.mem_of_find?_eq_some hd)).1
    rw [ho, Option.filter_some_pos hk, Option.map_some, Option.map_some, hc, toStored_asked]

/-- **Runs of cycles.** After any cycles over plain sources, what is stored for a commitment is
what the last cycle that analyzed it wanted, of decisions with one name the first; a cycle that
does not analyze a commitment leaves what is stored for it exactly as it was. -/
theorem run_stores_last_analyzed (c : DecisionController)
    (cycles : List (CapacitySource × Duration)) (plain : ∀ x ∈ cycles, x.1.Plain)
    (k : Commitment) (n : String) :
    (((c.run cycles).get? n).filter (·.isFor k)).map (·.content) =
        ((c.lastWanted cycles k).find? (·.name == n)).map c.stored ∧
      ∀ x : CapacitySource × Duration, x.1.Plain → k ∉ (c.analyzer.analyze x.1).analyzed →
        ((c.step (c.run cycles) x).get? n).filter (·.isFor k) =
          ((c.run cycles).get? n).filter (·.isFor k) := by
  obtain ⟨hw, h⟩ := divided_run (c := c) plain
  refine ⟨stored_of_divided hw h k n, fun x hx hk => ?_⟩
  rw [step_eq c _ hx]
  exact filter_isFor_passes hx hw h hk n

/-- A source of given age with what remains of the plans for one family and one reserved
instance. -/
def agedSource (seconds : Nat) (family : String) : CapacitySource :=
  FixedSource.source
    { capacity := [⟨.regional, some family, some "us-west-2", 5, default⟩]
      reserved := [⟨"c5.large", "us-west-2", 1, default⟩]
      ages := [(.savingsPlans, .ofSeconds seconds), (.reservedInstances, .ofSeconds 60)] }

theorem plain_agedSource (seconds : Nat) {family : String} (h : Name.isPlain family = true) :
    (agedSource seconds family).Plain where
  capacity kind samples hs x hx := by
    cases hs
    obtain rfl := List.mem_singleton.1 (List.mem_filter.1 hx).1
    exact ⟨fun _ hf _ => by cases hf; exact h, fun _ hr _ => by cases hr; decide⟩
  utilization kind samples hs x hx := by
    cases hs
    cases (List.mem_filter.1 hx).1
  reserved samples hs x hx := by
    cases hs
    obtain rfl := List.mem_singleton.1 hx
    exact ⟨fun _ => by decide, fun _ => by decide⟩
  counted samples hs := by
    cases hs
    show [ReservedSample.instances ⟨"c5.large", "us-west-2", 1, default⟩].sum < 2 ^ 64
    decide +kernel

/-- The plans for `m5` are analyzed; then the data is stale while the plans move to `t3`. -/
def staleningCycles : List (CapacitySource × Duration) :=
  [(agedSource 60 "m5", .ofSeconds 1), (agedSource 9000 "t3", .ofSeconds 1)]

theorem run_stores_last_analyzed_stalening :
    let c : DecisionController := {}
    ((((c.run staleningCycles).get? "savings-plan-m5-us-west-2").filter
        (·.isFor .instancePlan)).map (·.content) =
      ((c.lastWanted staleningCycles .instancePlan).find?
        (·.name == "savings-plan-m5-us-west-2")).map c.stored ∧
      ((c.step (c.run staleningCycles) (agedSource 9000 "r5", .ofSeconds 1)).get?
          "savings-plan-m5-us-west-2").filter (·.isFor .instancePlan) =
        ((c.run staleningCycles).get? "savings-plan-m5-us-west-2").filter
          (·.isFor .instancePlan)) ∧
      (c.lastWanted staleningCycles .instancePlan).map (·.name) =
        ["savings-plan-m5-us-west-2"] := by
  have h := run_stores_last_analyzed {} staleningCycles
    (List.forall_mem_cons.2 ⟨plain_agedSource _ (by decide),
      List.forall_mem_singleton.2 (plain_agedSource _ (by decide))⟩)
    .instancePlan "savings-plan-m5-us-west-2"
  exact ⟨⟨h.1, h.2 (agedSource 9000 "r5", .ofSeconds 1) (plain_agedSource _ (by decide))
    (by decide +kernel)⟩, by decide +kernel⟩

end DecisionController
end PriceOverlay
