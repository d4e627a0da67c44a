import PriceOverlay.Proofs.Reconcile.Isolation
import PriceOverlay.Proofs.Store.Atomicity
import PriceOverlay.Proofs.Telemetry.Metrics
/-!
# Writes that fail

A plan is applied write by write, and each write that the store is asked for may fail on the way.
What the store is asked for does not depend on what failed: it is every write of the plan whose
overlay is sound, in order. A write that fails leaves its name as it was, and one that succeeds
leaves what it leaves without faults. The counts and the reports tell the two apart.

The calls are those that a store sees which writes them down. A plan is applied to anything that
answers writes, so the loop that makes the calls is the one that the store of this library is
written by, and what is left there is the same. No two writes of a plan have one name, so faults
that go by the call can make any of them fail in any way.

**Results**
* `attemptAllOn_recorded`: the store that writes down its calls answers as the other does.
* `writes_callsOf`: the calls do not depend on the faults.
* `exists_attempt_of_call`: what a call leaves under its name.
* `isOk_of_call`, `content_of_call`: which calls are answered, and what those leave.
* `countP_outcomes_ok`, `countP_outcomes_error`: the outcomes, counted over the calls.
* `Plan.applied_apart`: what becomes of a plan of which some writes fail.
-/
namespace PriceOverlay

/-! ## Calls -/

/-- A write that a store was asked for, and its answer. -/
structure Call where
  write : Write
  answer : Except StoreError (Option StoredOverlay)

namespace Call

/-- Whether a call failed. A deletion did not if there was nothing to delete. -/
def failed (c : Call) : Bool :=
  match c.write, c.answer with
  | _, .ok _ => false
  | .delete _, .error (.notFound _) => false
  | _, .error _ => true

theorem isOk_settled (c : Call) : (Attempt.settled c.write.verb c.answer).isOk = !c.failed := by
  obtain ⟨w, answer⟩ := c
  cases answer with
  | ok o => cases w <;> rfl
  | error e => cases w <;> cases e <;> rfl

end Call

variable {faults : StoreFaults} {s : ObjectStore} {as : List Attempt}

/-- A write to a store that writes down its calls. -/
def recorded (faults : StoreFaults) (x : ObjectStore × List Call) (w : Write) :
    Except StoreError (Option StoredOverlay) × ObjectStore × List Call :=
  let (answer, s) := x.1.writeVia faults w
  (answer, s, x.2 ++ [⟨w, answer⟩])

/-- The call of an attempt, unless its overlay has a flaw. -/
def Attempt.call (faults : StoreFaults) (s : ObjectStore) (a : Attempt) : List Call :=
  match a.write with
  | .error _ => []
  | .ok w => [⟨w, (s.writeVia faults w).1⟩]

/-- The calls of attempts one after the other. -/
def callsOf (faults : StoreFaults) (s : ObjectStore) : List Attempt → List Call
  | [] => []
  | a :: rest => a.call faults s ++ callsOf faults (a.run faults s).2 rest

theorem Attempt.runOn_recorded (a : Attempt) (s : ObjectStore) (calls : List Call) :
    a.runOn (recorded faults) (s, calls) =
      ((a.run faults s).1, (a.run faults s).2, calls ++ a.call faults s) := by
  unfold run
  cases h : a.write with
  | error flaw => simp only [runOn, call, h, List.append_nil]
  | ok w => simp only [runOn, call, h, recorded]

/-- A store that writes down its calls answers as it would without. -/
theorem attemptAllOn_recorded (as : List Attempt) (s : ObjectStore) (calls : List Call) :
    attemptAllOn (recorded faults) (s, calls) as = ((attemptAll faults s as).1,
      (attemptAll faults s as).2, calls ++ callsOf faults s as) := by
  induction as generalizing s calls with
  | nil => simp only [attemptAllOn, attemptAll_nil, callsOf, List.append_nil]
  | cons a rest ih =>
    simp only [attemptAllOn, attemptAll_cons, callsOf, Attempt.runOn_recorded, ih,
      List.append_assoc]

/-! ## What the store is asked for -/

/-- Whatever fails, the store is asked for the writes of all attempts that have one. -/
theorem writes_callsOf (as : List Attempt) :
    (callsOf faults s as).map (·.write) = as.filterMap fun a => a.write.toOption := by
  induction as generalizing s with
  | nil => rfl
  | cons a rest ih =>
    rw [callsOf, List.map_append, ih, List.filterMap_cons, Attempt.call]
    cases a.write <;> rfl

/-- A call under the name of its attempt finds there what was there at the start, and what it
leaves there stays. -/
theorem exists_attempt_of_call (ha : ∀ a ∈ as, a.Named) (hn : (as.map (·.name)).Nodup)
    {call : Call} (hc : call ∈ callsOf faults s as) :
    ∃ a ∈ as, a.write = .ok call.write ∧ ∃ s₀ : ObjectStore, s₀.get? a.name = s.get? a.name ∧
      call.answer = (s₀.writeVia faults call.write).1 ∧
      (attemptAll faults s as).2.get? a.name = (s₀.writeVia faults call.write).2.get? a.name := by
  induction as generalizing s with
  | nil => cases hc
  | cons b rest ih =>
    simp only [List.map_cons, List.nodup_cons] at hn
    simp only [List.forall_mem_cons] at ha
    rw [callsOf, List.mem_append] at hc
    rcases hc with hc | hc
    · unfold Attempt.call at hc
      split at hc
      · cases hc
      · rename_i w hw
        obtain rfl := List.mem_singleton.1 hc
        have hrun : (b.run faults s).2 = (s.writeVia faults w).2 := by
          simp only [Attempt.run, Attempt.runOn, hw]
        refine ⟨b, List.mem_cons_self, hw, s, rfl, rfl, ?_⟩
        exact (get?_attemptAll_of_not_mem ha.2 hn.1 _).trans (congrArg (·.get? b.name) hrun)
    · obtain ⟨a, hm, hw, s₀, h₀, hanswer, h₁⟩ := ih ha.2 hn.2 hc
      have hne : a.name ≠ b.name := fun he => hn.1 (he ▸ List.mem_map.2 ⟨a, hm, rfl⟩)
      exact ⟨a, List.mem_cons_of_mem _ hm, hw, s₀, h₀.trans (Attempt.get?_run_of_ne ha.1 hne),
        hanswer, h₁⟩

section
variable (ha : ∀ a ∈ as, a.Named) (hn : (as.map (·.name)).Nodup)
include ha hn

/-- An attempt whose overlay has a flaw leaves its name as it was. -/
theorem get?_of_flawed {a : Attempt} (hm : a ∈ as) {flaw : OverlayFlaw}
    (hf : a.write = .error flaw) :
    (attemptAll faults s as).2.get? a.name = s.get? a.name := by
  obtain ⟨s₀, h₀, h₁⟩ := attemptAll_own faults ha hn hm s
  rw [h₁, Attempt.run_flawed hf, h₀]

variable {call : Call} (hc : call ∈ callsOf faults s as)
include hc

/-- A call that is refused leaves its name as it was. -/
theorem get?_of_refused {e : StoreError} (he : call.answer = .error e) :
    (attemptAll faults s as).2.get? call.write.name = s.get? call.write.name := by
  obtain ⟨a, hm, hw, s₀, h₀, hanswer, h₁⟩ := exists_attempt_of_call ha hn hc
  rw [ha a hm _ hw, h₁, ObjectStore.state_of_error_via (hanswer.symm.trans he), h₀]

/-- A call is answered unless it fails on the way or the store does not let it through. -/
theorem isOk_of_call :
    call.answer.isOk = true ↔ faults (.write call.write) = none ∧ s.Accepts call.write := by
  obtain ⟨a, hm, hw, s₀, h₀, hanswer, -⟩ := exists_attempt_of_call ha hn hc
  rw [hanswer, ObjectStore.isOk_writeVia_iff, ObjectStore.accepts_congr (ha a hm _ hw ▸ h₀)]

/-- A call that is answered leaves under its name what it was given. -/
theorem content_of_call {o : Option StoredOverlay} (ho : call.answer = .ok o) :
    (attemptAll faults s as).2.contents.get? call.write.name =
      call.write.given.map StoredOverlay.content := by
  obtain ⟨a, hm, hw, s₀, -, hanswer, h₁⟩ := exists_attempt_of_call ha hn hc
  have hreached := ObjectStore.writeVia_of_ok (hanswer.symm.trans ho)
  have hok : (s₀.write call.write).1 = .ok o := hreached ▸ hanswer.symm.trans ho
  rw [ObjectStore.get?_contents, ha a hm _ hw, h₁, hreached, ← ha a hm _ hw,
    ObjectStore.get?_write_of_ok hok, ObjectStore.answer_of_ok hok, Option.map_map]
  rfl

/-- A call that is answered leaves under its name what it leaves there without faults. -/
theorem content_of_answered {o : Option StoredOverlay} (ho : call.answer = .ok o) :
    (attemptAll faults s as).2.contents.get? call.write.name =
      (attemptAll .none s as).2.contents.get? call.write.name := by
  obtain ⟨a, hm, hw, s₀, h₀, hanswer, h₁⟩ := exists_attempt_of_call ha hn hc
  obtain ⟨s₁, h₀', h₁'⟩ := attemptAll_own .none ha hn hm s
  have hname := ha a hm _ hw
  rw [ObjectStore.get?_contents, ObjectStore.get?_contents, hname, h₁, h₁',
    ObjectStore.writeVia_of_ok (hanswer.symm.trans ho), Attempt.run_of_write hw, ← hname]
  exact ObjectStore.content_write_congr (hname ▸ h₀.trans h₀'.symm)

end

/-! ## How the outcomes are counted -/

/-- What an attempt writes, it writes by its own verb. -/
def Attempt.Verbed (a : Attempt) : Prop := ∀ w, a.write = .ok w → w.verb = a.verb

/-- How an attempt counts: as a flaw, or as its call. -/
theorem Attempt.outcome_cases (a : Attempt) (hv : a.Verbed) (faults : StoreFaults)
    (s : ObjectStore) :
    (a.write.isOk = false ∧ a.call faults s = [] ∧ (a.run faults s).1.isOk = false) ∨
      ∃ call, a.write.isOk = true ∧ call.write.verb = a.verb ∧ a.call faults s = [call] ∧
        (a.run faults s).1.isOk = !call.failed := by
  cases h : a.write with
  | error flaw =>
    refine .inl ⟨rfl, ?_, ?_⟩
    · simp only [call, h]
    · rw [run_flawed h]
      rfl
  | ok w =>
    have hverb := hv w h
    refine .inr ⟨⟨w, (s.writeVia faults w).1⟩, rfl, hverb, ?_, ?_⟩
    · simp only [call, h]
    · rw [← Call.isOk_settled, hverb]
      simp only [run, runOn, h]

section
variable (hv : ∀ a ∈ as, a.Verbed) (q : WriteVerb → Bool)
include hv

/-- The successes of some verbs are the calls of these verbs that did not fail. -/
theorem countP_outcomes_ok :
    (attemptAll faults s as).1.countP (fun o => q o.verb && o.result.isOk) =
      (callsOf faults s as).countP fun call => q call.write.verb && !call.failed := by
  induction as generalizing s with
  | nil => rfl
  | cons a rest ih =>
    simp only [List.forall_mem_cons] at hv
    simp only [attemptAll_cons, callsOf, List.countP_cons, List.countP_append, ih hv.2]
    rcases a.outcome_cases hv.1 faults s with ⟨-, hcall, hok⟩ | ⟨call, -, hverb, hcall, hok⟩
    · simp only [hcall, hok, List.countP_nil, Bool.and_false, Bool.false_eq_true, if_false]
      omega
    · simp only [hcall, hok, hverb, List.countP_singleton]
      omega

/-- The errors of some verbs are the flaws of these verbs and their calls that failed. -/
theorem countP_outcomes_error :
    (attemptAll faults s as).1.countP (fun o => q o.verb && !o.result.isOk) =
      as.countP (fun a => q a.verb && !a.write.isOk) +
        (callsOf faults s as).countP fun call => q call.write.verb && call.failed := by
  induction as generalizing s with
  | nil => rfl
  | cons a rest ih =>
    simp only [List.forall_mem_cons] at hv
    simp only [attemptAll_cons, callsOf, List.countP_cons, List.countP_append, ih hv.2]
    rcases a.outcome_cases hv.1 faults s with ⟨hw, hcall, hok⟩ | ⟨call, hw, hverb, hcall, hok⟩
    · simp only [hw, hcall, hok, List.countP_nil]
      omega
    · simp only [hw, hcall, hok, hverb, List.countP_singleton, Bool.not_true, Bool.and_false,
        Bool.not_not, Bool.false_eq_true, if_false]
      omega

end

theorem length_attemptAll (as : List Attempt) : (attemptAll faults s as).1.length = as.length := by
  induction as generalizing s with
  | nil => rfl
  | cons a rest ih => simp only [attemptAll_cons, List.length_cons, ih]

/-- The reports of outcomes, one each. -/
theorem metrics_signals (kind : OverlayKind) (outcomes : List Outcome) :
    Signal.metrics (outcomes.flatMap (Outcome.signals kind)) =
      outcomes.map fun o => .operation kind o.verb o.result.isOk := by
  induction outcomes with
  | nil => rfl
  | cons o rest ih =>
    rw [List.flatMap_cons, Signal.metrics, List.filterMap_append, List.map_cons, ← ih]
    unfold Outcome.signals
    cases o.result <;> rfl

/-- The reports of outcomes for one series of writes. -/
theorem count_metrics_signals (kind k : OverlayKind) (v : WriteVerb) (success : Bool)
    (outcomes : List Outcome) :
    (Signal.metrics (outcomes.flatMap (Outcome.signals kind))).count (.operation k v success) =
      if k = kind then outcomes.countP fun o => decide (o.verb = v) && o.result.isOk == success
      else 0 := by
  rw [metrics_signals, List.count, List.countP_map]
  split
  · rename_i h
    subst h
    refine List.countP_congr fun o _ => ?_
    simp
  · rename_i h
    refine List.countP_eq_zero.2 fun o _ ho => h ?_
    simp only [Function.comp_apply, beq_iff_eq, MetricEvent.operation.injEq] at ho
    exact ho.1.symm

/-- The successful writes of a verb. -/
def Counts.done (c : Counts) : WriteVerb → Nat
  | .create => c.created
  | .update => c.updated
  | .delete => c.deleted

namespace Plan

variable (p : Plan)

theorem done_tally (outcomes : List Outcome) (v : WriteVerb) : (p.tally outcomes).done v =
    outcomes.countP fun o => decide (o.verb = v) && o.result.isOk := by
  have hcounts : ∀ o : Outcome, o.counts.done v =
      if (decide (o.verb = v) && o.result.isOk) = true then 1 else 0 := by
    intro o
    unfold Outcome.counts
    cases o.result <;> cases o.verb <;> cases v <;> rfl
  have hmerge : ∀ a b : Counts, (a.merge b).done v = a.done v + b.done v := by
    intro a b
    cases v <;> rfl
  rw [p.tally_eq_countP (f := (Counts.done · v)) hmerge hcounts]
  cases v <;> exact Nat.zero_add _

/-- Every outcome counts once. -/
theorem total_tally (outcomes : List Outcome) :
    (p.tally outcomes).changes + (p.tally outcomes).errors = outcomes.length := by
  have hcounts : ∀ o : Outcome, o.counts.changes + o.counts.errors = if true then 1 else 0 := by
    intro o
    unfold Outcome.counts
    cases o.result <;> cases o.verb <;> rfl
  have hmerge : ∀ a b : Counts, (a.merge b).changes + (a.merge b).errors =
      a.changes + a.errors + (b.changes + b.errors) := by
    intro a b
    simp only [Counts.changes, Counts.merge]
    omega
  rw [p.tally_eq_countP (f := fun c => c.changes + c.errors) hmerge hcounts, List.countP_true]
  exact Nat.zero_add _

theorem unchanged_tally (outcomes : List Outcome) :
    (p.tally outcomes).unchanged = p.unchanged := by
  have hcounts : ∀ o : Outcome, o.counts.unchanged = if false then 1 else 0 := by
    intro o
    unfold Outcome.counts
    cases o.result <;> cases o.verb <;> rfl
  rw [p.tally_eq_countP (f := Counts.unchanged) (fun _ _ => rfl) hcounts, List.countP_false]
  rfl

/-! ## Plans -/

/-- The writes of a plan whose overlays are sound: creates, updates and deletes. -/
def writes : List Write :=
  (p.creates.filter (·.check.isOk)).map (fun d => .create d.toStored) ++
    (p.updates.filter (·.1.check.isOk)).map (fun u => .update (u.1.replacing u.2)) ++
    p.deletes.map fun o => .delete o.name

/-- The overlays that a plan was to write by a verb but that have a flaw. -/
def flawed : WriteVerb → List Overlay
  | .create => p.creates.filter (!·.check.isOk)
  | .update => (p.updates.map (·.1)).filter (!·.check.isOk)
  | .delete => []

/-- The names that a plan is about. -/
def names : List String :=
  p.creates.map (·.name) ++ p.updates.map (·.1.name) ++ p.deletes.map (·.name)

/-- The calls that a plan makes, as they are written down by a store that does so. -/
def calls (faults : StoreFaults) (s : ObjectStore) : List Call :=
  (attemptAllOn (recorded faults) (s, []) p.attempts).2.2

theorem calls_eq (faults : StoreFaults) (s : ObjectStore) :
    p.calls faults s = callsOf faults s p.attempts := by
  rw [calls, attemptAllOn_recorded, List.nil_append]

theorem map_name_attempts : p.attempts.map (·.name) = p.names := by
  simp only [attempts, names, List.map_append, List.map_map, Function.comp_def]

theorem length_attempts :
    p.attempts.length = p.creates.length + p.updates.length + p.deletes.length := by
  simp only [attempts, List.length_append, List.length_map]

theorem verbed_attempts : ∀ a ∈ p.attempts, a.Verbed := by
  intro a ha w hw
  rcases mem_attempts.1 ha with ⟨d, -, rfl⟩ | ⟨d, o, -, rfl⟩ | ⟨o, -, rfl⟩
  · rw [Attempt.write_of_create hw]
    rfl
  · rw [Attempt.write_of_update hw]
    rfl
  · cases hw
    rfl

theorem filterMap_check {α : Type} (l : List α) (f : α → Overlay) (g : α → Write) :
    l.filterMap (fun x => ((f x).check.map fun _ => g x).toOption) =
      (l.filter fun x => (f x).check.isOk).map g := by
  induction l with
  | nil => rfl
  | cons x rest ih =>
    rw [List.filterMap_cons, List.filter_cons, ih]
    cases (f x).check <;> rfl

theorem filterMap_write_attempts :
    (p.attempts.filterMap fun a => a.write.toOption) = p.writes := by
  have hdeletes : p.deletes.filterMap (fun o =>
      (Except.ok (.delete o.name) : Except OverlayFlaw Write).toOption) =
        p.deletes.map fun o => .delete o.name := congrFun List.filterMap_eq_map' _
  simp only [attempts, writes, List.filterMap_append, List.filterMap_map, Function.comp_def,
    filterMap_check, hdeletes]

theorem isOk_map {ε α β : Type} (x : Except ε α) (f : α → β) : (x.map f).isOk = x.isOk := by
  cases x <;> rfl

theorem countP_flawed (q : WriteVerb → Bool) :
    p.attempts.countP (fun a => q a.verb && !a.write.isOk) =
      (if q .create then (p.flawed .create).length else 0) +
        if q .update then (p.flawed .update).length else 0 := by
  have hdeletes : p.deletes.filter (fun o =>
      !(Except.ok (.delete o.name) : Except OverlayFlaw Write).isOk) = [] :=
    List.filter_eq_nil_iff.2 fun _ _ => Bool.false_ne_true
  have hfactor : ∀ {α : Type} (l : List α) (b : Bool) (f : α → Bool),
      l.countP (fun x => b && f x) = if b then (l.filter f).length else 0 := by
    intro α l b f
    cases b
    · exact congrFun List.countP_false l
    · exact List.countP_eq_length_filter
  simp only [attempts, flawed, List.countP_append, List.countP_map, Function.comp_def, isOk_map,
    hfactor, hdeletes, List.filter_map, List.length_map, List.length_nil, ite_self, Nat.add_zero]

/-- What becomes of a plan of which some calls fail. -/
structure AppliedApart (kind : OverlayKind) (faults : StoreFaults) (s : ObjectStore) : Prop where
  /-- Of a store that writes down its calls, the same comes as of the store itself. -/
  recorded : p.applyOn kind (recorded faults) (s, []) = ((p.apply kind faults s).answer,
    (p.apply kind faults s).signals, (p.apply kind faults s).store, p.calls faults s)
  /-- Whatever fails, the store is asked for every sound write once and in order. -/
  calls : (p.calls faults s).map (·.write) = p.writes
  /-- A call is answered unless it fails on the way or the store does not let it through. -/
  accepted : ∀ call ∈ p.calls faults s, call.answer.isOk = true ↔
    faults (.write call.write) = none ∧ s.Accepts call.write
  flawed : ∀ v, ∀ d ∈ p.flawed v, (p.apply kind faults s).store.get? d.name = s.get? d.name
  refused : ∀ call ∈ p.calls faults s, ∀ e, call.answer = .error e →
    (p.apply kind faults s).store.get? call.write.name = s.get? call.write.name
  /-- Versions apart, a call that is answered leaves what it was given, and of a deletion nothing. -/
  written : ∀ call ∈ p.calls faults s, ∀ o, call.answer = .ok o →
    (p.apply kind faults s).store.contents.get? call.write.name =
      call.write.given.map StoredOverlay.content
  /-- Versions apart, a call that is answered leaves what it leaves without faults. -/
  answered : ∀ call ∈ p.calls faults s, ∀ o, call.answer = .ok o →
    (p.apply kind faults s).store.contents.get? call.write.name =
      (p.apply kind .none s).store.contents.get? call.write.name
  others : ∀ n ∉ p.names, (p.apply kind faults s).store.get? n = s.get? n
  unchanged : (p.apply kind faults s).answer.unchanged = p.unchanged
  total : (p.apply kind faults s).answer.created + (p.apply kind faults s).answer.updated +
      (p.apply kind faults s).answer.deleted + (p.apply kind faults s).answer.errors =
    p.creates.length + p.updates.length + p.deletes.length
  done : ∀ v, (p.apply kind faults s).answer.done v =
    (p.calls faults s).countP fun call => decide (call.write.verb = v) && !call.failed
  errors : (p.apply kind faults s).answer.errors =
    (p.flawed .create).length + (p.flawed .update).length + (p.calls faults s).countP (·.failed)
  successes : ∀ (m : Metrics) k v, (m.absorb (p.apply kind faults s).signals).writes k v true =
    m.writes k v true + if k = kind then (p.apply kind faults s).answer.done v else 0
  failures : ∀ (m : Metrics) k v, (m.absorb (p.apply kind faults s).signals).writes k v false =
    m.writes k v false + if k = kind then (p.flawed v).length +
      (p.calls faults s).countP fun call => decide (call.write.verb = v) && call.failed else 0

theorem exists_attempt_of_flawed {v : WriteVerb} {d : Overlay} (hd : d ∈ p.flawed v) :
    ∃ a ∈ p.attempts, a.name = d.name ∧ ∃ flaw, a.write = .error flaw := by
  have hflaw : ∀ {d : Overlay}, (!d.check.isOk) = true → ∃ flaw, d.check = .error flaw := by
    intro d h
    cases hc : d.check with
    | error flaw => exact ⟨flaw, rfl⟩
    | ok _ =>
      rw [hc] at h
      cases h
  cases v with
  | create =>
    obtain ⟨hd, hc⟩ := List.mem_filter.1 hd
    obtain ⟨flaw, hc⟩ := hflaw hc
    exact ⟨.create d, mem_attempts.2 (.inl ⟨d, hd, rfl⟩), rfl, flaw,
      Attempt.write_create_of_flaw hc⟩
  | update =>
    obtain ⟨hd, hc⟩ := List.mem_filter.1 hd
    obtain ⟨⟨d, o⟩, hu, rfl⟩ := List.mem_map.1 hd
    obtain ⟨flaw, hc⟩ := hflaw hc
    exact ⟨.update d o, mem_attempts.2 (.inr (.inl ⟨d, o, hu, rfl⟩)), rfl, flaw,
      Attempt.write_update_of_flaw hc o⟩
  | delete => cases hd

/-- The errors of some verbs, counted over the plan and its calls. -/
theorem countP_errors (q : WriteVerb → Bool) (faults : StoreFaults) (s : ObjectStore) :
    (attemptAll faults s p.attempts).1.countP (fun o => q o.verb && !o.result.isOk) =
      (if q .create then (p.flawed .create).length else 0) +
        (if q .update then (p.flawed .update).length else 0) +
        (p.calls faults s).countP fun call => q call.write.verb && call.failed := by
  rw [countP_outcomes_error p.verbed_attempts, countP_flawed, calls_eq]

/-- **Failure isolation.** A plan made from a listing is applied write by write, whichever of its
calls fail. -/
theorem applied_apart (desired : List Overlay) (selector : Selector) (listed s : ObjectStore)
    (kind : OverlayKind) (faults : StoreFaults) :
    (compute desired (listed.list selector)).AppliedApart kind faults s := by
  have hn : ((compute desired (listed.list selector)).attempts.map (·.name)).Nodup :=
    nodup_names_attempts (listed.nodup_names_list selector)
  generalize compute desired (listed.list selector) = p at hn
  have ha := p.named_attempts
  have hdone : ∀ v, (p.apply kind faults s).answer.done v = (p.calls faults s).countP fun call =>
      decide (call.write.verb = v) && !call.failed := by
    intro v
    rw [answer_apply, done_tally, calls_eq, ← countP_outcomes_ok p.verbed_attempts fun w => w = v]
  have hsignals : ∀ (m : Metrics) k v success,
      (m.absorb (p.apply kind faults s).signals).writes k v success = m.writes k v success +
        if k = kind then (attemptAll faults s p.attempts).1.countP fun o =>
          decide (o.verb = v) && o.result.isOk == success else 0 := by
    intro m k v success
    rw [Metrics.writes_absorb]
    exact congrArg _ (count_metrics_signals kind k v success _)
  constructor
  case recorded =>
    rw [applyOn, attemptAllOn_recorded, List.nil_append, calls_eq]
    rfl
  case accepted =>
    intro call hc
    exact isOk_of_call ha hn (p.calls_eq faults s ▸ hc)
  case written =>
    intro call hc o ho
    exact content_of_call ha hn (p.calls_eq faults s ▸ hc) ho
  case calls => rw [calls_eq, writes_callsOf, filterMap_write_attempts]
  case flawed =>
    intro v d hd
    obtain ⟨a, hm, hname, flaw, hf⟩ := p.exists_attempt_of_flawed hd
    exact hname ▸ get?_of_flawed ha hn hm hf
  case refused =>
    intro call hc e he
    exact get?_of_refused ha hn (p.calls_eq faults s ▸ hc) he
  case answered =>
    intro call hc o ho
    exact content_of_answered ha hn (p.calls_eq faults s ▸ hc) ho
  case others =>
    intro n hno
    exact get?_attemptAll_of_not_mem ha (p.map_name_attempts ▸ hno) s
  case unchanged => exact p.unchanged_tally _
  case total =>
    have hlength : (attemptAll faults s p.attempts).1.length = p.attempts.length :=
      length_attemptAll _
    rw [← p.length_attempts, ← hlength]
    exact p.total_tally _
  case done => exact hdone
  case errors =>
    rw [answer_apply, errors_tally]
    simpa only [Bool.true_and, if_true] using p.countP_errors (fun _ => true) faults s
  case successes =>
    intro m k v
    rw [hsignals, hdone, calls_eq, ← countP_outcomes_ok p.verbed_attempts fun w => w = v]
    simp only [beq_true]
  case failures =>
    intro m k v
    have h := p.countP_errors (fun w => w = v) faults s
    rw [hsignals]
    simp only [beq_false, h]
    cases v <;> simp [Plan.flawed]

end Plan
end PriceOverlay
