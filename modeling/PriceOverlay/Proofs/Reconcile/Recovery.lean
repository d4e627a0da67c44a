import PriceOverlay.Proofs.Reconcile.Isolation
import PriceOverlay.Proofs.Reconcile.Settling
/-!
# Passes that were cut short

A pass may be given up after any of its attempts, and any of its calls may fail. What it leaves
under a name is what was there or what a whole pass would have left. Either way settling the name
gives the same, so one whole pass makes up for all that came before it.

**Results**
* `trial_eq_pass`: a pass that is not given up is a trial with enough attempts.
* `trial_cases`: under each name a trial leaves the old or what a pass makes of it.
* `pass_after_trials`: a whole pass after any trials leaves what it leaves without them.
-/
namespace PriceOverlay

/-- How far a pass gets: the calls that fail, and the attempts after which it is given up. -/
structure Trial where
  faults : StoreFaults
  attempts : Nat

/-- An attempt comes to nothing or does what it does without faults. -/
theorem Attempt.run_eq_or (faults : StoreFaults) (s : ObjectStore) (a : Attempt) :
    (a.run faults s).2 = s ∨ (a.run faults s).2 = (a.run .none s).2 := by
  rcases a.run_cases faults s with hs | ⟨w, hw, hs⟩
  · exact .inl hs
  · exact .inr (hs.trans (congrArg (·.2) (run_of_write hw)).symm)

/-- Under each name the first attempts of a plan leave what was there or what a pass makes of it. -/
theorem ObjectStore.take_cases (s : ObjectStore) (scope : Scope) (wanted : List Overlay)
    (faults : StoreFaults) (k : Nat) {s' : ObjectStore}
    (hs' : (attemptAll faults s ((s.planFor scope wanted).attempts.take k)).2 = s') (n : String) :
    s'.get? n = s.get? n ∨ Settled scope wanted n (s.get? n) (s'.get? n) := by
  subst hs'
  have hnodup : (((s.planFor scope wanted).attempts.take k).map (·.name)).Nodup :=
    ((List.take_sublist _ _).map _).nodup (s.nodup_names_planFor scope wanted)
  have hnamed : ∀ a ∈ (s.planFor scope wanted).attempts.take k, a.Named :=
    fun a ha => Plan.named_attempts _ a (List.mem_of_mem_take ha)
  by_cases hn : n ∈ ((s.planFor scope wanted).attempts.take k).map (·.name)
  · obtain ⟨a, ha, rfl⟩ := List.mem_map.1 hn
    obtain ⟨s₀, h₀, h₁⟩ := attemptAll_own faults hnamed hnodup ha s
    rw [h₁]
    rcases a.run_eq_or faults s₀ with hs | hs
    · rw [hs]
      exact .inl h₀
    · rw [hs]
      exact .inr (settled_attempt (List.mem_of_mem_take ha) h₀)
  · exact .inl (get?_attemptAll_of_not_mem hnamed hn s)

namespace Reconciler

variable (r : Reconciler) (scope : Scope) (desired : List Overlay) (s : ObjectStore)

/-- A pass that is given up after some of its attempts. -/
def trial (t : Trial) : ObjectStore :=
  match scope.listed t.faults s with
  | .error _ => s
  | .ok existing =>
    (attemptAll t.faults s
      ((Plan.compute (desired.map r.owned) existing).attempts.take t.attempts)).2

/-- With enough attempts a trial is the pass. -/
theorem trial_eq_pass (t : Trial)
    (h : (s.planFor scope (desired.map r.owned)).attempts.length ≤ t.attempts) :
    r.trial scope desired s t = (r.pass scope desired t.faults s).store := by
  unfold trial pass
  cases hl : scope.listed t.faults s with
  | error _ => rfl
  | ok existing =>
    obtain rfl := Scope.listed_eq hl
    exact congrArg (fun as => (attemptAll t.faults s as).2) (List.take_of_length_le h)

/-- Under each name a trial leaves what was there or what a pass makes of it. -/
theorem trial_cases (t : Trial) (n : String) :
    (r.trial scope desired s t).get? n = s.get? n ∨
      Settled scope (desired.map r.owned) n (s.get? n) ((r.trial scope desired s t).get? n) := by
  unfold trial
  cases hl : scope.listed t.faults s with
  | error _ => exact .inl rfl
  | ok existing =>
    obtain rfl := Scope.listed_eq hl
    exact s.take_cases scope (desired.map r.owned) t.faults t.attempts rfl n

/-- A trial does not change what settling a name gives. -/
theorem settle_trial (t : Trial) (n : String) :
    scope.settle (desired.map r.owned) n ((r.trial scope desired s t).contents.get? n) =
      scope.settle (desired.map r.owned) n (s.contents.get? n) := by
  rw [ObjectStore.get?_contents, ObjectStore.get?_contents]
  rcases r.trial_cases scope desired s t n with h | h
  · rw [h]
  · rw [h.map_content, Scope.settle_settle]

theorem settle_trials (trials : List Trial) (n : String) :
    scope.settle (desired.map r.owned) n
        ((trials.foldl (r.trial scope desired) s).contents.get? n) =
      scope.settle (desired.map r.owned) n (s.contents.get? n) := by
  induction trials generalizing s with
  | nil => rfl
  | cons t rest ih => exact (ih _).trans (r.settle_trial scope desired s t n)

/-- **Recovery.** After any passes with faults, each given up at any point, one whole pass without
faults leaves what it leaves without them, versions apart. -/
theorem pass_after_trials (trials : List Trial) :
    (r.pass scope desired .none (trials.foldl (r.trial scope desired) s)).store.contents =
      (r.pass scope desired .none s).store.contents := by
  refine Table.ext_get? fun n => ?_
  rw [r.get?_contents_pass, r.get?_contents_pass, r.settle_trials]

end Reconciler
end PriceOverlay
