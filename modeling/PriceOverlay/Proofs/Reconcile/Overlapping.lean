import Mathlib.Logic.Function.Basic
import PriceOverlay.Proofs.Overlay.Rendering
import PriceOverlay.Proofs.Reconcile.Settling
/-!
# Passes that overlap

Several passes share a store, and each call of one may come between any two calls of the others:
a listing, a create, an update or a delete. A schedule tells whose call is next.

Passes over different scopes that want different names concern themselves with different names of
the store. So each pass lists what it would have listed at the start, finds under each name of its
plan what it listed there, and leaves the names of the others alone.

**Results**
* `Overlap.foldl_step_alone`: a pass whose calls come in one go is a pass alone.
* `Task.not_concerns`: no name concerns two of the passes.
* `Task.Kept.step`: what a pass keeps to, from call to call.
* `Overlap.undisturbed_run`: what all of them keep to under every schedule.
* `Overlap.run_independent`: overlapping passes do what they do one after the other.
-/
namespace PriceOverlay

/-- A pass that is to be made. -/
structure Task where
  reconciler : Reconciler
  scope : Scope
  desired : List Overlay

/-- How far a pass has come: it has not listed its scope yet, or it has a plan, with the outcomes
of the attempts made and the attempts left. -/
inductive Stage where
  | unlisted
  | applying (plan : Plan) (outcomes : List Outcome) (left : List Attempt)

namespace Stage

/-- The counts that a pass answers with when no attempt is left. -/
def counts? : Stage → Option Counts
  | applying plan outcomes [] => some (plan.tally outcomes)
  | _ => none

end Stage

namespace Task

/-- The overlays wanted, with the owner of the reconciler. -/
def wanted (t : Task) : List Overlay := t.desired.map t.reconciler.owned

/-- The plan of the pass, if it lists its scope in the store given. -/
def planIn (t : Task) (s : ObjectStore) : Plan := s.planFor t.scope t.wanted

/-- What the pass does without others. -/
def alone (t : Task) (s : ObjectStore) : Effect (Except ListFailure Counts) :=
  t.reconciler.pass t.scope t.desired .none s

/-- The next call of a pass; without attempts left there is none. -/
def step (t : Task) (s : ObjectStore) : Stage → Stage × ObjectStore
  | .unlisted => (.applying (t.planIn s) [] (t.planIn s).attempts, s)
  | .applying plan outcomes [] => (.applying plan outcomes [], s)
  | .applying plan outcomes (a :: left) =>
    let (result, s) := a.run .none s
    (.applying plan (outcomes ++ [⟨a.verb, a.name, result⟩]) left, s)

end Task

/-- Passes under way over one store. -/
structure Overlap (ι : Type) where
  store : ObjectStore
  stages : ι → Stage

namespace Overlap

variable {ι : Type} [DecidableEq ι] (tasks : ι → Task)

def start (s : ObjectStore) : Overlap ι := ⟨s, fun _ => .unlisted⟩

/-- The next call of one of the passes. -/
def step (o : Overlap ι) (i : ι) : Overlap ι :=
  let (stage, store) := (tasks i).step o.store (o.stages i)
  ⟨store, Function.update o.stages i stage⟩

/-- The passes, started together, after the calls of a schedule. -/
def run (s : ObjectStore) (schedule : List ι) : Overlap ι := schedule.foldl (step tasks) (start s)

/-- What every call keeps up holds after a schedule. The second argument gives the calls that each
pass has made. -/
theorem foldl_step_induction {P : Overlap ι → (ι → Nat) → Prop}
    (hstep : ∀ {o : Overlap ι} {calls : ι → Nat} (i : ι), P o calls →
      P (step tasks o i) (Function.update calls i (calls i + 1)))
    (schedule : List ι) {o : Overlap ι} {calls : ι → Nat} (h : P o calls) :
    P (schedule.foldl (step tasks) o) fun i => calls i + schedule.count i := by
  induction schedule generalizing o calls with
  | nil => exact h
  | cons i rest ih =>
    have hcalls : (fun j => Function.update calls i (calls i + 1) j + rest.count j) =
        fun j => calls j + (i :: rest).count j := by
      funext j
      rw [List.count_cons]
      by_cases hj : j = i
      · subst hj
        rw [Function.update_self, beq_self_eq_true, if_pos rfl]
        omega
      · rw [Function.update_of_ne hj, if_neg (by simpa using fun he => hj he.symm)]
        rfl
    exact hcalls ▸ ih (hstep i h)

/-! ## One pass after the other -/

/-- The calls that are left, made in one go. -/
theorem foldl_step_left {i : ι} {plan : Plan} (left : List Attempt) :
    ∀ {o : Overlap ι} {outcomes : List Outcome}, o.stages i = .applying plan outcomes left →
      (List.replicate left.length i).foldl (step tasks) o =
        ⟨(attemptAll .none o.store left).2, Function.update o.stages i
          (.applying plan (outcomes ++ (attemptAll .none o.store left).1) [])⟩ := by
  induction left with
  | nil =>
    intro o outcomes h
    simp only [attemptAll_nil, List.append_nil, ← h, Function.update_eq_self]
    rfl
  | cons a left ih =>
    intro o outcomes h
    have hstep : step tasks o i = ⟨(a.run .none o.store).2, Function.update o.stages i
        (.applying plan (outcomes ++ [⟨a.verb, a.name, (a.run .none o.store).1⟩]) left)⟩ := by
      simp only [step, h, Task.step]
    rw [List.length_cons, List.replicate_succ, List.foldl_cons, hstep,
      ih (Function.update_self ..), Function.update_idem, List.append_assoc]
    rfl

/-- A pass whose calls come in one go leaves what it leaves alone, and answers the same. -/
theorem foldl_step_alone {o : Overlap ι} {i : ι} (h : o.stages i = .unlisted) :
    ∃ (calls : List ι) (stage : Stage),
      calls.foldl (step tasks) o =
        ⟨((tasks i).alone o.store).store, Function.update o.stages i stage⟩ ∧
      stage.counts?.map Except.ok = some ((tasks i).alone o.store).answer := by
  let plan := (tasks i).planIn o.store
  have hstep : step tasks o i = ⟨o.store, Function.update o.stages i
      (.applying plan [] plan.attempts)⟩ := by
    simp only [step, h, Task.step]
    rfl
  refine ⟨i :: List.replicate plan.attempts.length i,
    .applying plan (attemptAll .none o.store plan.attempts).1 [], ?_, rfl⟩
  rw [List.foldl_cons, hstep, foldl_step_left tasks plan.attempts (Function.update_self ..),
    Function.update_idem]
  rfl

/-- Passes one after the other are one of the ways in which they may overlap. -/
theorem exists_serial (order : List ι) :
    ∀ {o : Overlap ι}, order.Nodup → (∀ i ∈ order, o.stages i = .unlisted) →
      ∃ calls : List ι,
        (calls.foldl (step tasks) o).store =
          order.foldl (fun s i => ((tasks i).alone s).store) o.store ∧
        (∀ i ∈ order, ((calls.foldl (step tasks) o).stages i).counts?.isSome) ∧
        ∀ i ∉ order, (calls.foldl (step tasks) o).stages i = o.stages i := by
  induction order with
  | nil => exact fun _ _ => ⟨[], rfl, nofun, fun _ _ => rfl⟩
  | cons i rest ih =>
    intro o hnodup hfresh
    obtain ⟨hi, hrest⟩ := List.nodup_cons.1 hnodup
    obtain ⟨own, stage, hcalls, hstage⟩ := foldl_step_alone tasks (hfresh i List.mem_cons_self)
    have hfresh' : ∀ j ∈ rest, Function.update o.stages i stage j = .unlisted := by
      intro j hj
      have hne : j ≠ i := fun h => hi (h ▸ hj)
      rw [Function.update_of_ne hne]
      exact hfresh j (List.mem_cons_of_mem _ hj)
    obtain ⟨calls, hstore, hdone, hstay⟩ :=
      ih (o := ⟨((tasks i).alone o.store).store, Function.update o.stages i stage⟩) hrest hfresh'
    refine ⟨own ++ calls, ?_, ?_, ?_⟩
    · rw [List.foldl_append, hcalls, hstore, List.foldl_cons]
    · intro j hj
      rw [List.foldl_append, hcalls]
      rcases List.mem_cons.1 hj with rfl | hj
      · rw [hstay j hi]
        show (Function.update o.stages j stage j).counts?.isSome
        rw [Function.update_self, ← Option.isSome_map (f := Except.ok), hstage]
        rfl
      · exact hdone j hj
    · intro j hj
      rw [List.mem_cons, not_or] at hj
      rw [List.foldl_append, hcalls, hstay j hj.2]
      exact Function.update_of_ne hj.1 ..

end Overlap

/-! ## The names that concern a pass -/

namespace Task

variable {t t' : Task} {s st : ObjectStore} {n : String}

/-- The scope of a pass has a source, and what the pass wants is sound, has the labels of the
scope, and has names that nothing outside the scope has. -/
structure Fits (t : Task) (s : ObjectStore) : Prop where
  source : t.scope.source.isSome
  sound : ∀ d ∈ t.desired, d.check = .ok ()
  labelled : ∀ d ∈ t.desired, d.toStored.matchesSelector t.scope.selector = true
  free : ∀ d ∈ t.desired, ∀ o, s.get? d.name = some o →
    o.matchesSelector t.scope.selector = true

/-- Two passes are over different scopes and want no common name. -/
structure Apart (t t' : Task) : Prop where
  scopes : t.scope ≠ t'.scope
  names : ∀ d ∈ t.desired, ∀ e ∈ t'.desired, d.name ≠ e.name

/-- The names that a pass wants, and those that its scope has in the store. -/
def Concerns (t : Task) (s : ObjectStore) (n : String) : Prop :=
  (∃ d ∈ t.desired, d.name = n) ∨
    ∃ o, s.get? n = some o ∧ o.matchesSelector t.scope.selector = true

/-- What a scope has under a name of its pass. -/
theorem Concerns.matches (h : t.Concerns s n) (hfits : t.Fits s) {o : StoredOverlay}
    (ho : s.get? n = some o) : o.matchesSelector t.scope.selector = true := by
  rcases h with ⟨d, hd, rfl⟩ | ⟨a, ha, hm⟩
  · exact hfits.free d hd o ho
  · cases ho.symm.trans ha
    exact hm

/-- No name concerns two passes. -/
theorem not_concerns (hfits : t.Fits s) (hfits' : t'.Fits s) (happart : t.Apart t')
    (h : t.Concerns s n) : ¬ t'.Concerns s n := by
  intro h'
  cases ho : s.get? n with
  | none =>
    -- a name that is free concerns only those who want it
    rcases h with ⟨d, hd, rfl⟩ | ⟨o, ho', -⟩
    · rcases h' with ⟨e, he, hn⟩ | ⟨o, ho', -⟩
      · exact happart.names d hd e he hn.symm
      · cases ho.symm.trans ho'
    · cases ho.symm.trans ho'
  | some o =>
    exact happart.scopes (Scope.eq_of_matches hfits.source hfits'.source (h.matches hfits ho)
      (h'.matches hfits' ho))

theorem concerns_of_mem_attempts {a : Attempt} (ha : a ∈ (t.planIn s).attempts) :
    t.Concerns s a.name := by
  rcases ObjectStore.attempt_cases ha with ⟨d, hd, -, rfl⟩ | ⟨d, hd, o, -, -, -, rfl⟩ |
    ⟨o, ho, hm, -, rfl⟩
  · exact .inl (Reconciler.exists_desired hd)
  · exact .inl (Reconciler.exists_desired hd)
  · exact .inr ⟨o, ho, hm⟩

/-! ## What a pass keeps to -/

/-- How a pass stands after a number of its calls, where `s` is the store at the start of all
passes and `st` the store now: of the names that concern the pass, those of the attempts left are
as they were, and the others are settled. -/
inductive Kept (t : Task) (s st : ObjectStore) : Nat → Stage → Prop
  | unlisted (same : ∀ n, t.Concerns s n → st.get? n = s.get? n) : Kept t s st 0 .unlisted
  | applying {k : Nat} {outcomes : List Outcome} {left : List Attempt}
      (hleft : left = (t.planIn s).attempts.drop k)
      (fine : ∀ x ∈ outcomes, x.result = .ok ())
      (ahead : ∀ a ∈ left, st.get? a.name = s.get? a.name)
      (settled : ∀ n, t.Concerns s n → n ∉ left.map (·.name) →
        Settled t.scope t.wanted n (s.get? n) (st.get? n)) :
      Kept t s st (k + 1) (.applying (t.planIn s) outcomes left)

namespace Kept

variable {k : Nat} {stage : Stage}

/-- Changes under names that do not concern a pass are nothing to it. -/
theorem frame {st' : ObjectStore} (h : t.Kept s st k stage)
    (hst : ∀ n, t.Concerns s n → st'.get? n = st.get? n) : t.Kept s st' k stage := by
  cases h with
  | unlisted same => exact .unlisted fun n hn => (hst n hn).trans (same n hn)
  | applying hleft fine ahead settled =>
    refine .applying hleft fine (fun a ha => ?_) fun n hn hno => ?_
    · have hmem := List.mem_of_mem_drop (hleft ▸ ha)
      exact (hst _ (concerns_of_mem_attempts hmem)).trans (ahead a ha)
    · rw [hst n hn]
      exact settled n hn hno

theorem same (h : t.Kept s st k .unlisted) (hn : t.Concerns s n) : st.get? n = s.get? n := by
  cases h with
  | unlisted same => exact same n hn

theorem old_or_settled (h : t.Kept s st k stage) (hn : t.Concerns s n) :
    st.get? n = s.get? n ∨ Settled t.scope t.wanted n (s.get? n) (st.get? n) := by
  cases h with
  | unlisted same => exact .inl (same n hn)
  | @applying _ _ left _ _ ahead settled =>
    by_cases hmem : n ∈ left.map (·.name)
    · obtain ⟨a, ha, rfl⟩ := List.mem_map.1 hmem
      exact .inl (ahead a ha)
    · exact .inr (settled n hn hmem)

/-- A pass has finished after one call for the listing and one for each attempt. -/
theorem finished_iff (h : t.Kept s st k stage) :
    stage.counts?.isSome ↔ (t.planIn s).attempts.length < k := by
  cases h with
  | unlisted _ => exact ⟨nofun, fun h => absurd h (Nat.not_lt_zero _)⟩
  | @applying k _ left hleft _ _ _ =>
    rw [Nat.lt_succ_iff, ← List.drop_eq_nil_iff, ← hleft]
    cases left with
    | nil => exact ⟨fun _ => rfl, fun _ => rfl⟩
    | cons a left => exact ⟨nofun, nofun⟩

theorem errors_eq_zero (h : t.Kept s st k stage) {c : Counts} (hc : stage.counts? = some c) :
    c.errors = 0 := by
  cases h with
  | unlisted _ => cases hc
  | @applying _ _ left _ fine _ _ =>
    cases left with
    | nil =>
      cases hc
      exact Plan.errors_tally_of_ok fine _
    | cons a left => cases hc

theorem settled_of_finished (h : t.Kept s st k stage) (hdone : stage.counts?.isSome)
    (hn : t.Concerns s n) : Settled t.scope t.wanted n (s.get? n) (st.get? n) := by
  cases h with
  | unlisted _ => cases hdone
  | @applying _ _ left _ _ _ settled =>
    cases left with
    | nil => exact settled n hn List.not_mem_nil
    | cons a left => cases hdone

/-- A call of a pass changes only what concerns it. -/
theorem get?_step (h : t.Kept s st k stage) (hn : ¬ t.Concerns s n) :
    (t.step st stage).2.get? n = st.get? n := by
  cases h with
  | unlisted _ => rfl
  | @applying _ _ left hleft _ _ _ =>
    cases left with
    | nil => rfl
    | cons a left =>
      have hmem : a ∈ (t.planIn s).attempts :=
        List.mem_of_mem_drop (hleft ▸ List.mem_cons_self)
      have hne : n ≠ a.name := fun he => hn (he ▸ concerns_of_mem_attempts hmem)
      show (a.run .none st).2.get? n = st.get? n
      exact Attempt.get?_run_of_ne (Plan.named_attempts _ a hmem) hne

/-- Listing gives a pass the plan that it would have had at the start, as long as the listing is
what it would have been. -/
theorem list (same : ∀ n, t.Concerns s n → st.get? n = s.get? n)
    (hplan : t.planIn st = t.planIn s) :
    t.Kept s st 1 (.applying (t.planIn st) [] (t.planIn st).attempts) := by
  rw [hplan]
  refine .applying rfl (fun _ => nofun) (fun a ha => same _ (concerns_of_mem_attempts ha))
    fun n hn hno => ?_
  rw [same n hn]
  exact ObjectStore.settled_of_not_attempted fun a ha he => hno (List.mem_map.2 ⟨a, ha, he⟩)

/-- An attempt succeeds and settles its name, and no other attempt of the plan has that name. -/
theorem attempt {plan : Plan} {outcomes : List Outcome} {a : Attempt} {left : List Attempt}
    (h : t.Kept s st k (.applying plan outcomes (a :: left))) (hfits : t.Fits s) :
    t.Kept s (a.run .none st).2 (k + 1)
      (.applying plan (outcomes ++ [⟨a.verb, a.name, (a.run .none st).1⟩]) left) := by
  cases h with
  | @applying k _ _ hleft fine ahead settled =>
    have hnext : left = (t.planIn s).attempts.drop (k + 1) := by
      rw [← List.drop_drop, ← hleft]
      rfl
    have hmem : a ∈ (t.planIn s).attempts := List.mem_of_mem_drop (hleft ▸ List.mem_cons_self)
    have hnamed := Plan.named_attempts _ a hmem
    have hahead := ahead a List.mem_cons_self
    have hno : a.name ∉ left.map (·.name) := by
      have h := ((List.drop_sublist k _).map Attempt.name).nodup
        (s.nodup_names_planFor t.scope t.wanted)
      rw [← Task.planIn, ← hleft, List.map_cons, List.nodup_cons] at h
      exact h.1
    refine .applying hnext (fun x hx => ?_) (fun b hb => ?_) fun n hn hnl => ?_
    · rcases List.mem_append.1 hx with hx | hx
      · exact fine x hx
      · obtain rfl := List.mem_singleton.1 hx
        exact attempt_ok (Reconciler.sound_owned hfits.sound) (free_owned hfits.free) hmem hahead
    · have hne : b.name ≠ a.name := fun he => hno (he ▸ List.mem_map.2 ⟨b, hb, rfl⟩)
      rw [Attempt.get?_run_of_ne hnamed hne]
      exact ahead b (List.mem_cons_of_mem _ hb)
    · by_cases he : n = a.name
      · subst he
        exact ObjectStore.settled_attempt hmem hahead
      · rw [Attempt.get?_run_of_ne hnamed he]
        exact settled n hn (by simpa [he] using hnl)

/-- What a pass keeps to from call to call. -/
theorem step (h : t.Kept s st k stage) (hfits : t.Fits s)
    (hplan : stage = .unlisted → t.planIn st = t.planIn s) :
    t.Kept s (t.step st stage).2 (k + 1) (t.step st stage).1 := by
  cases stage with
  | unlisted =>
    have hsame : ∀ n, t.Concerns s n → st.get? n = s.get? n := fun n => h.same
    cases h with
    | unlisted _ => exact list hsame (hplan rfl)
  | applying plan outcomes left =>
    cases left with
    | cons a left => exact h.attempt hfits
    | nil =>
      cases h with
      | @applying k _ _ hleft fine ahead settled =>
        have hnext : [] = (t.planIn s).attempts.drop (k + 1) := by
          rw [← List.drop_drop, ← hleft]
          rfl
        exact .applying hnext fine ahead settled

end Kept
end Task

/-! ## What all passes keep to -/

namespace Overlap

variable {ι : Type} {tasks : ι → Task} {s : ObjectStore}

/-- Every pass stands as it would without the others, and what concerns none of them is as it was.
The last argument gives the calls that each pass has made. -/
structure Undisturbed (tasks : ι → Task) (s : ObjectStore) (o : Overlap ι) (calls : ι → Nat) :
    Prop where
  kept : ∀ i, (tasks i).Kept s o.store (calls i) (o.stages i)
  spared : ∀ n, (∀ i, ¬ (tasks i).Concerns s n) → o.store.get? n = s.get? n

theorem undisturbed_start (tasks : ι → Task) (s : ObjectStore) :
    Undisturbed tasks s (start s) fun _ => 0 :=
  ⟨fun _ => .unlisted fun _ _ => rfl, fun _ _ => rfl⟩

section
variable (hfits : ∀ i, (tasks i).Fits s) (hapart : ∀ i j, i ≠ j → (tasks i).Apart (tasks j))
include hfits hapart

namespace Undisturbed

variable {o : Overlap ι} {calls : ι → Nat} (h : Undisturbed tasks s o calls)
include h

/-- A pass that lists its scope late finds there what was there at the start. -/
theorem planIn_eq {i : ι} (hi : o.stages i = .unlisted) :
    (tasks i).planIn o.store = (tasks i).planIn s := by
  have hsame : ∀ n, (tasks i).Concerns s n → o.store.get? n = s.get? n :=
    fun n => (hi ▸ h.kept i).same
  have hlist : o.store.list (tasks i).scope.selector = s.list (tasks i).scope.selector := by
    refine ObjectStore.list_congr fun n a hm => ?_
    by_cases hn : (tasks i).Concerns s n
    · rw [hsame n hn]
    · refine ⟨fun ha => ?_, fun ha => absurd (.inr ⟨a, ha, hm⟩) hn⟩
      by_cases hj : ∃ j, (tasks j).Concerns s n
      · obtain ⟨j, hj⟩ := hj
        rcases (h.kept j).old_or_settled hj with hold | hsettled
        · exact hold ▸ ha
        · -- what another pass left there is of its own scope, or was there before
          have hij : i ≠ j := fun he => hn (he ▸ hj)
          have hno : ¬ a.matchesSelector (tasks j).scope.selector = true := fun hmj =>
            (hapart i j hij).scopes
              (Scope.eq_of_matches (hfits i).source (hfits j).source hm hmj)
          exact (outside_iff (labelled_owned (hfits j).labelled) hsettled hno).2 ha
      · rw [← h.spared n fun j hc => hj ⟨j, hc⟩]
        exact ha
  rw [Task.planIn, ObjectStore.planFor, hlist]
  rfl

variable [DecidableEq ι]

theorem step (i : ι) : Undisturbed tasks s (Overlap.step tasks o i)
    (Function.update calls i (calls i + 1)) := by
  have hframe : ∀ n, ¬ (tasks i).Concerns s n →
      (Overlap.step tasks o i).store.get? n = o.store.get? n := fun n => (h.kept i).get?_step
  refine ⟨fun j => ?_, fun n hn => (hframe n (hn i)).trans (h.spared n hn)⟩
  by_cases hj : j = i
  · subst hj
    show (tasks j).Kept s _ (Function.update calls j (calls j + 1) j)
      (Function.update o.stages j _ j)
    rw [Function.update_self, Function.update_self]
    exact (h.kept j).step (hfits j) fun hu => h.planIn_eq hfits hapart hu
  · show (tasks j).Kept s _ (Function.update calls i (calls i + 1) j)
      (Function.update o.stages i _ j)
    rw [Function.update_of_ne hj, Function.update_of_ne hj]
    refine (h.kept j).frame fun n hn => hframe n ?_
    exact Task.not_concerns (hfits j) (hfits i) (hapart j i hj) hn

omit [DecidableEq ι] hfits hapart in
/-- When all passes have finished, the contents do not depend on the order of their calls. -/
theorem contents_eq {o' : Overlap ι} {calls' : ι → Nat} (h' : Undisturbed tasks s o' calls')
    (hdone : ∀ i, (o.stages i).counts?.isSome) (hdone' : ∀ i, (o'.stages i).counts?.isSome) :
    o.store.contents = o'.store.contents := by
  refine ObjectStore.contents_ext fun n => ?_
  by_cases hi : ∃ i, (tasks i).Concerns s n
  · obtain ⟨i, hi⟩ := hi
    have hs := (h.kept i).settled_of_finished (hdone i) hi
    have hs' := (h'.kept i).settled_of_finished (hdone' i) hi
    rw [hs.map_content, hs'.map_content]
  · have hno : ∀ i, ¬ (tasks i).Concerns s n := fun i hc => hi ⟨i, hc⟩
    rw [h.spared n hno, h'.spared n hno]

end Undisturbed

variable [DecidableEq ι]

theorem undisturbed_run (schedule : List ι) :
    Undisturbed tasks s (run tasks s schedule) fun i => schedule.count i := by
  have h := foldl_step_induction tasks (P := Undisturbed tasks s)
    (fun i h => h.step hfits hapart i) schedule (undisturbed_start tasks s)
  simp only [Nat.zero_add] at h
  exact h

end

/-- **Independence.** Passes over different scopes that want different names, with their calls in
any order: each finishes with the call for the last attempt that it would have planned at the
start, and without an error. When all have finished, the store has what it has after the passes one
after the other, in whatever order, versions apart. -/
theorem run_independent [DecidableEq ι] (tasks : ι → Task) (s : ObjectStore)
    (hfits : ∀ i, (tasks i).Fits s) (hapart : ∀ i j, i ≠ j → (tasks i).Apart (tasks j))
    (schedule : List ι) :
    (∀ i, ((run tasks s schedule).stages i).counts?.isSome ↔
      ((tasks i).planIn s).attempts.length < schedule.count i) ∧
    (∀ i c, ((run tasks s schedule).stages i).counts? = some c → c.errors = 0) ∧
    ((∀ i, ((run tasks s schedule).stages i).counts?.isSome) →
      ∀ order : List ι, order.Nodup → (∀ i, i ∈ order) →
        (run tasks s schedule).store.contents =
          (order.foldl (fun st i => ((tasks i).alone st).store) s).contents) := by
  have h := undisturbed_run hfits hapart schedule
  refine ⟨fun i => (h.kept i).finished_iff, fun i c => (h.kept i).errors_eq_zero, ?_⟩
  intro hdone order hnodup hall
  obtain ⟨calls, hstore, hserial, -⟩ :=
    exists_serial tasks order (o := start s) hnodup fun _ _ => rfl
  have h' := undisturbed_run hfits hapart calls
  rw [h.contents_eq h' hdone fun i => hserial i (hall i)]
  exact congrArg ObjectStore.contents hstore

/-- A pass for decisions and a pass for a NodePool. -/
def bothLoops : Bool → Task
  | false => ⟨{}, .commitment .instancePlan, [planOverlay "m5" 20, planOverlay "t3" 20]⟩
  | true => ⟨{}, .nodePool "general", [Rendering.preference {} ⟨1, "general", [], ⟨10⟩⟩]⟩

/-- A store with a drifted overlay of the one and an overlay that the other does not want. -/
def bothStore : ObjectStore :=
  let s := (ObjectStore.empty.seed (planOverlay "m5" 5).toStored).2
  (s.seed (Rendering.preference {} ⟨2, "general", [], ⟨10⟩⟩).toStored).2

theorem run_independent_bothLoops :
    let after := (run bothLoops bothStore [true, false, false, true, false, true]).store
    after.contents =
        ((bothLoops true).alone ((bothLoops false).alone bothStore).store).store.contents ∧
      after.contents =
        ((bothLoops false).alone ((bothLoops true).alone bothStore).store).store.contents ∧
      after.objects.keys = ["general-preference-1", "savings-plan-m5", "savings-plan-t3"] := by
  have hfree : ∀ i, ∀ d ∈ (bothLoops i).desired, ∀ o ∈ bothStore.get? d.name,
      o.matchesSelector (bothLoops i).scope.selector = true := by decide +kernel
  have hfits : ∀ i, (bothLoops i).Fits bothStore := by
    intro i
    cases i <;> exact ⟨rfl, by decide +kernel, by decide +kernel, hfree _⟩
  have hapart : ∀ i j, i ≠ j → (bothLoops i).Apart (bothLoops j) := by
    intro i j hij
    cases i <;> cases j <;>
      first | exact absurd rfl hij | exact ⟨by decide +kernel, by decide +kernel⟩
  have h := run_independent bothLoops bothStore hfits hapart
    [true, false, false, true, false, true]
  have hdone := fun i => (h.1 i).2 (by revert i; decide +kernel)
  exact ⟨h.2.2 hdone [false, true] (by decide) (by decide),
    h.2.2 hdone [true, false] (by decide) (by decide), by decide +kernel⟩

end Overlap
end PriceOverlay
