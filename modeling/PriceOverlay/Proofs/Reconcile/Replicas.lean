import Mathlib.Data.List.Perm.Subperm
import PriceOverlay.Proofs.Reconcile.Interleaving
import PriceOverlay.Proofs.Reconcile.Overlapping
/-!
# Passes over one scope

Replicas of a controller may go over one scope at the same time, for the same wanted overlays. Each
lists its scope before, between or after the writes of the others, so every plan may be stale in
its own way.

A name that the scope has to change is written by whoever gets to it first. A pass that lists later
finds it as wanted and leaves it out; a pass that has listed it before comes too late: the name is
taken, has another version, or is gone, and nothing changes.

**Results**
* `not_attempted_of_settled`, `mem_attempts_of_same`: a later plan has no attempt that is new.
* `Task.run_of_done`: an attempt that comes too late changes nothing.
* `Task.Progress.step`: what the passes make of the store, from call to call.
* `Overlap.replicas_agree`: together the passes do what one of them does alone.
-/
namespace PriceOverlay

/-! ## Outcomes -/

/-- An outcome of a race: a success, a create that found its name taken, or an update that found
another version. -/
inductive Outcome.Raced : Outcome → Prop
  | won {verb : WriteVerb} {n : String} : Raced ⟨verb, n, .ok ()⟩
  | taken {n : String} : Raced ⟨.create, n, .error (StoreError.alreadyExists n).message⟩
  | changed {n : String} {v : Option String} :
      Raced ⟨.update, n, .error (StoreError.conflict n v).message⟩

namespace Stage

/-- How the attempts made so far went. -/
def outcomes : Stage → List Outcome
  | unlisted => []
  | applying _ outcomes _ => outcomes

theorem errors_counts {stage : Stage} {c : Counts} (h : stage.counts? = some c) :
    c.errors = stage.outcomes.countP fun x => !x.result.isOk := by
  cases stage with
  | unlisted => cases h
  | applying plan outcomes left =>
    cases left with
    | nil =>
      cases h
      exact plan.errors_tally outcomes
    | cons a left => cases h

end Stage

/-! ## Plans for a store in which some names are settled -/

section
variable {s st : ObjectStore} {scope : Scope} {wanted : List Overlay}

/-- What is attempted on a store is attempted on every other that has the same under the name. -/
theorem mem_attempts_of_same {a : Attempt} (ha : a ∈ (st.planFor scope wanted).attempts)
    (h : st.get? a.name = s.get? a.name) : a ∈ (s.planFor scope wanted).attempts := by
  rcases ObjectStore.attempt_cases ha with ⟨d, hd, hno, rfl⟩ | ⟨d, hd, o, ho, hm, hf, rfl⟩ |
    ⟨o, ho, hm, hno, rfl⟩
  · exact ObjectStore.create_mem_attempts hd fun o ho => hno o (h.trans ho)
  · exact ObjectStore.update_mem_attempts hd (h.symm.trans ho) hm hf
  · exact ObjectStore.delete_mem_attempts hno (h.symm.trans ho) hm

variable (sound : ∀ d ∈ wanted, d.check = .ok ())
  (labelled : ∀ d ∈ wanted, d.toStored.matchesSelector scope.selector = true)
  (free : ∀ d ∈ wanted, ∀ o, s.get? d.name = some o →
    o.matchesSelector scope.selector = true)

include sound labelled free in
/-- A settled name is not attempted again. -/
theorem not_attempted_of_settled {n : String}
    (h : Settled scope wanted n (s.get? n) (st.get? n)) :
    ∀ a ∈ (st.planFor scope wanted).attempts, a.name ≠ n := by
  rintro a ha rfl
  rcases ObjectStore.attempt_cases ha with ⟨d, hd, hno, rfl⟩ | ⟨d, hd, o, ho, -, hf, rfl⟩ |
    ⟨o, ho, hm, hno, rfl⟩
  · obtain ⟨o, ho, hm, -, -⟩ := stored_of_wanted sound labelled free hd h
    exact hno o ho hm
  · obtain ⟨o', ho', -, hf', -⟩ := stored_of_wanted sound labelled free hd h
    cases ho.symm.trans ho'
    cases hf.symm.trans hf'
  · change Settled scope wanted o.name (s.get? o.name) (st.get? o.name) at h
    rw [ho] at h
    obtain ⟨d, hd, hn⟩ := wanted_of_stored h hm
    exact hno d (Overlay.mem_of_mem_firsts hd) hn

include sound free in
/-- An attempt that finds under its name what was listed makes its write. -/
theorem exists_write {a : Attempt} (ha : a ∈ (s.planFor scope wanted).attempts)
    (h₀ : st.get? a.name = s.get? a.name) :
    ∃ w stored, a.write = .ok w ∧ w.verb = a.verb ∧ (st.write w).1 = .ok stored := by
  rcases ObjectStore.attempt_cases ha with ⟨d, hd, hno, rfl⟩ | ⟨d, hd, o, ho, -, -, rfl⟩ |
    ⟨o, ho, -, -, rfl⟩
  · have hd := Overlay.mem_of_mem_firsts hd
    have hnone : s.get? d.name = none :=
      Option.eq_none_iff_forall_ne_some.2 fun o ho => hno o ho (free d hd o ho)
    exact ⟨_, _, Attempt.write_create (sound d hd), rfl,
      (ObjectStore.write_create (o := d.toStored) (h₀.trans hnone)).1⟩
  · exact ⟨_, _, Attempt.write_update (sound d (Overlay.mem_of_mem_firsts hd)) o, rfl,
      (ObjectStore.write_update (o := d.replacing o) (h₀.trans ho) rfl).1⟩
  · exact ⟨_, _, rfl, rfl, (ObjectStore.write_delete (h₀.trans ho)).1⟩

end

/-! ## What the passes keep to -/

namespace Task

/-- A name has been settled by a write: what was listed there has another version now. -/
structure Done (t : Task) (s st : ObjectStore) (n : String) : Prop where
  settled : Settled t.scope t.wanted n (s.get? n) (st.get? n)
  renewed : ∀ e, s.get? n = some e → ∀ o, st.get? n = some o → o.version ≠ e.version

/-- What passes for one task have made of a store, with the writes that they have added to the
log. -/
structure Progress (t : Task) (s st : ObjectStore) (written : List (WriteVerb × String)) :
    Prop where
  log : st.writes = s.writes ++ written
  once : (written.map (·.2)).Nodup
  planned : ∀ w ∈ written, ∃ a ∈ (t.planIn s).attempts, w = (a.verb, a.name)
  done : ∀ n ∈ written.map (·.2), t.Done s st n
  same : ∀ n ∉ written.map (·.2), st.get? n = s.get? n
  later : s.lastVersion ≤ st.lastVersion

/-- What one of the passes keeps to, after the calls given: what it has left was to be attempted at
the start, and every other name is settled. -/
inductive Follows (t : Task) (s st : ObjectStore) : Nat → Stage → Prop
  | unlisted : Follows t s st 0 .unlisted
  | applying {k : Nat} {plan : Plan} {outcomes : List Outcome} {left : List Attempt}
      (planned : ∀ a ∈ left, a ∈ (t.planIn s).attempts)
      (short : left.length + k ≤ (t.planIn s).attempts.length ∨ left = [])
      (settled : ∀ n ∉ left.map (·.name), Settled t.scope t.wanted n (s.get? n) (st.get? n))
      (raced : ∀ x ∈ outcomes, x.Raced) :
      Follows t s st (k + 1) (.applying plan outcomes left)

variable {t : Task} {s st : ObjectStore} {written : List (WriteVerb × String)} {k : Nat}
  {stage : Stage}

theorem progress_start (t : Task) (s : ObjectStore) : t.Progress s s [] where
  log := (List.append_nil _).symm
  once := List.nodup_nil
  planned := nofun
  done := nofun
  same := fun _ _ => rfl
  later := Nat.le_refl _

namespace Follows

/-- A pass is not put off its course by what settles names. -/
theorem frame {st' : ObjectStore} (h : t.Follows s st k stage)
    (hst : ∀ n, st'.get? n = st.get? n ∨ Settled t.scope t.wanted n (s.get? n) (st'.get? n)) :
    t.Follows s st' k stage := by
  cases h with
  | unlisted => exact .unlisted
  | applying planned short settled raced =>
    refine .applying planned short (fun n hn => ?_) raced
    rcases hst n with hsame | hsettled
    · exact hsame ▸ settled n hn
    · exact hsettled

theorem settled_of_finished (h : t.Follows s st k stage) (hdone : stage.counts?.isSome)
    (n : String) : Settled t.scope t.wanted n (s.get? n) (st.get? n) := by
  cases h with
  | unlisted => cases hdone
  | @applying _ _ _ left _ _ settled _ =>
    cases left with
    | nil => exact settled n List.not_mem_nil
    | cons a left => cases hdone

/-- No pass takes more calls than one for the listing and one for each attempt that one pass alone
would have made. -/
theorem finished_of_lt (h : t.Follows s st k stage)
    (hk : (t.planIn s).attempts.length < k) : stage.counts?.isSome := by
  cases h with
  | unlisted => exact absurd hk (Nat.not_lt_zero _)
  | @applying k _ _ left _ short _ _ =>
    have hleft : left = [] := by
      rcases short with hlen | hnil
      · exact List.eq_nil_of_length_eq_zero (by omega)
      · exact hnil
    rw [hleft]
    rfl

theorem raced (h : t.Follows s st k stage) : ∀ x ∈ stage.outcomes, x.Raced := by
  cases h with
  | unlisted => exact nofun
  | applying _ _ _ raced => exact raced

end Follows

section
variable (sound : ∀ d ∈ t.wanted, d.check = .ok ())
  (labelled : ∀ d ∈ t.wanted, d.toStored.matchesSelector t.scope.selector = true)
  (free : ∀ d ∈ t.wanted, ∀ o, s.get? d.name = some o →
    o.matchesSelector t.scope.selector = true)
include sound labelled free

/-- An attempt under a name that is done comes too late and changes nothing. -/
theorem run_of_done {a : Attempt} (ha : a ∈ (t.planIn s).attempts) (h : t.Done s st a.name) :
    (a.run .none st).2 = st ∧ Outcome.Raced ⟨a.verb, a.name, (a.run .none st).1⟩ := by
  rcases ObjectStore.attempt_cases ha with ⟨d, hd, -, rfl⟩ | ⟨d, hd, e, he, -, -, rfl⟩ |
    ⟨e, he, hm, hno, rfl⟩
  · obtain ⟨o, ho, -, -, -⟩ := stored_of_wanted sound labelled free hd h.settled
    have hc := sound d (Overlay.mem_of_mem_firsts hd)
    rw [Attempt.run_of_write (Attempt.write_create hc),
      ObjectStore.write_create_of_some (o := d.toStored) ho]
    exact ⟨rfl, .taken⟩
  · obtain ⟨o, ho, -, -, -⟩ := stored_of_wanted sound labelled free hd h.settled
    have hc := sound d (Overlay.mem_of_mem_firsts hd)
    rw [Attempt.run_of_write (Attempt.write_update hc e),
      ObjectStore.write_update_of_changed (o := d.replacing e) ho (h.renewed e he o ho)]
    exact ⟨rfl, .changed⟩
  · have hgone : st.get? e.name = none := by
      refine Option.eq_none_iff_forall_ne_some.2 fun o ho => ?_
      have hsettled := h.settled
      change Settled t.scope t.wanted e.name (s.get? e.name) (st.get? e.name) at hsettled
      rw [he, ho] at hsettled
      by_cases hmo : o.matchesSelector t.scope.selector = true
      · obtain ⟨d, hd, hn⟩ := wanted_of_stored hsettled hmo
        exact hno d (Overlay.mem_of_mem_firsts hd) hn
      · cases (outside_iff labelled hsettled hmo).2 rfl
        exact hmo hm
    rw [Attempt.run_of_write (w := .delete e.name) rfl, ObjectStore.write_delete_of_missing hgone]
    exact ⟨rfl, .won⟩

namespace Progress

omit labelled in
/-- An attempt that comes first settles its name, by a write that is entered in the log. -/
theorem first (hp : t.Progress s st written) {a : Attempt} (ha : a ∈ (t.planIn s).attempts)
    (hfirst : a.name ∉ written.map (·.2)) :
    t.Progress s (a.run .none st).2 (written ++ [(a.verb, a.name)]) ∧
      (a.run .none st).1 = .ok () := by
  have hnamed := Plan.named_attempts _ a ha
  have h₀ := hp.same _ hfirst
  obtain ⟨w, stored, hw, hverb, hok⟩ := exists_write sound free ha h₀
  have hname := hnamed w hw
  have hrun : a.run .none st = (.ok (), (st.write w).2) := by
    rw [Attempt.run_of_write hw, hok]
    rfl
  have hsettled := ObjectStore.settled_attempt ha h₀
  have hne : ∀ n ≠ a.name, (st.write w).2.get? n = st.get? n := fun n hn =>
    ObjectStore.get?_write_of_ne (hname ▸ hn)
  rw [hrun] at hsettled ⊢
  refine ⟨⟨?_, ?_, ?_, ?_, ?_, ?_⟩, rfl⟩
  · rw [ObjectStore.writes_of_ok hok, hp.log, hverb, hname, List.append_assoc]
  · rw [List.map_append, List.nodup_append]
    refine ⟨hp.once, List.nodup_singleton _, fun n hn m hm he => hfirst ?_⟩
    have hm : m = a.name := List.mem_singleton.1 hm
    exact hm ▸ he ▸ hn
  · intro v hv
    rcases List.mem_append.1 hv with hv | hv
    · exact hp.planned v hv
    · exact ⟨a, ha, List.mem_singleton.1 hv⟩
  · intro n hn
    by_cases he : n = a.name
    · subst he
      refine ⟨hsettled, fun e hlisted o ho => ?_⟩
      have hstored := ObjectStore.get?_write_of_ok hok
      rw [hname, ho] at hstored
      exact Happening.version_ne_of_written hp.later (hok.trans (by rw [hstored])) hlisted
    · have hdone := hp.done n (by simpa [he] using hn)
      exact ⟨(hne n he).symm ▸ hdone.settled, fun e hlisted o ho =>
        hdone.renewed e hlisted o ((hne n he).symm.trans ho)⟩
  · intro n hn
    have hno : n ∉ written.map (·.2) ∧ n ≠ a.name := by simpa [not_or] using hn
    exact (hne n hno.2).trans (hp.same n hno.1)
  · exact Nat.le_trans hp.later (st.lastVersion_le_write w)

/-- An attempt that was to be made at the start leaves its name settled, whoever made it first. -/
theorem attempt (hp : t.Progress s st written) {a : Attempt} (ha : a ∈ (t.planIn s).attempts) :
    (∃ written', t.Progress s (a.run .none st).2 written') ∧
      Settled t.scope t.wanted a.name (s.get? a.name) ((a.run .none st).2.get? a.name) ∧
      Outcome.Raced ⟨a.verb, a.name, (a.run .none st).1⟩ := by
  by_cases hfirst : a.name ∈ written.map (·.2)
  · have hdone := hp.done _ hfirst
    obtain ⟨hrun, hraced⟩ := run_of_done sound labelled free ha hdone
    rw [hrun]
    exact ⟨⟨written, hp⟩, hdone.settled, hraced⟩
  · obtain ⟨hp', hok⟩ := hp.first sound free ha hfirst
    rw [hok]
    exact ⟨⟨_, hp'⟩, ObjectStore.settled_attempt ha (hp.same _ hfirst), .won⟩

/-- A plan that is made later is a part of the one that is made at the start, and what it leaves
out is settled. -/
theorem list (hp : t.Progress s st written) :
    t.Follows s st 1 (.applying (t.planIn st) [] (t.planIn st).attempts) := by
  have hplanned : ∀ a ∈ (t.planIn st).attempts, a ∈ (t.planIn s).attempts := by
    intro a ha
    by_cases hdone : a.name ∈ written.map (·.2)
    · exact absurd rfl
        (not_attempted_of_settled sound labelled free (hp.done _ hdone).settled a ha)
    · exact mem_attempts_of_same ha (hp.same _ hdone)
  have hnodup : (t.planIn st).attempts.Nodup :=
    (st.nodup_names_planFor t.scope t.wanted).of_map _
  have hshort := (List.subperm_of_subset hnodup hplanned).length_le
  refine .applying hplanned (.inl hshort) (fun n hn => ?_) nofun
  by_cases hdone : n ∈ written.map (·.2)
  · exact (hp.done n hdone).settled
  · rw [← hp.same n hdone]
    exact ObjectStore.settled_of_not_attempted fun a ha he => hn (List.mem_map.2 ⟨a, ha, he⟩)

/-- What the passes make of the store, and what the pass whose call it is keeps to. Every name is
as it was before the call, or is settled. -/
theorem step (hp : t.Progress s st written) (hf : t.Follows s st k stage) :
    (∃ written', t.Progress s (t.step st stage).2 written') ∧
      t.Follows s (t.step st stage).2 (k + 1) (t.step st stage).1 ∧
      ∀ n, (t.step st stage).2.get? n = st.get? n ∨
        Settled t.scope t.wanted n (s.get? n) ((t.step st stage).2.get? n) := by
  cases hf with
  | unlisted => exact ⟨⟨written, hp⟩, hp.list sound labelled free, fun _ => .inl rfl⟩
  | @applying k plan outcomes left planned short settled raced =>
    cases left with
    | nil => exact ⟨⟨written, hp⟩, .applying planned (.inr rfl) settled raced, fun _ => .inl rfl⟩
    | cons a left =>
      simp only [List.forall_mem_cons] at planned
      obtain ⟨hp', hsettled, hraced⟩ := hp.attempt sound labelled free planned.1
      have hother : ∀ n ≠ a.name, (a.run .none st).2.get? n = st.get? n := fun n hn =>
        Attempt.get?_run_of_ne (Plan.named_attempts _ a planned.1) hn
      refine ⟨hp', .applying planned.2 ?_ (fun n hn => ?_) fun x hx => ?_, fun n => ?_⟩
      · rcases short with hlen | hnil
        · rw [List.length_cons] at hlen
          exact .inl (by omega)
        · cases hnil
      · by_cases he : n = a.name
        · subst he
          exact hsettled
        · show Settled t.scope t.wanted n (s.get? n) ((a.run .none st).2.get? n)
          rw [hother n he]
          exact settled n (by simpa [he] using hn)
      · rcases List.mem_append.1 hx with hx | hx
        · exact raced x hx
        · exact List.mem_singleton.1 hx ▸ hraced
      · by_cases he : n = a.name
        · subst he
          exact .inr hsettled
        · exact .inl (hother n he)

end Progress
end

end Task

/-! ## Replicas -/

namespace Overlap

variable {ι κ : Type} {t : Task} {s : ObjectStore}

/-- What passes for one task keep to together, after the calls given. -/
structure Together (t : Task) (s : ObjectStore) (o : Overlap ι) (calls : ι → Nat) : Prop where
  progress : ∃ written, t.Progress s o.store written
  follows : ∀ i, t.Follows s o.store (calls i) (o.stages i)

theorem together_start (t : Task) (s : ObjectStore) :
    Together t s (start s : Overlap ι) fun _ => 0 :=
  ⟨⟨[], Task.progress_start t s⟩, fun _ => .unlisted⟩

namespace Together

variable {o : Overlap ι} {o' : Overlap κ} {calls : ι → Nat} {calls' : κ → Nat}

/-- When a pass has finished, the contents are the same after all such passes. -/
theorem contents_eq (h : Together t s o calls) (h' : Together t s o' calls') {i : ι} {j : κ}
    (hdone : (o.stages i).counts?.isSome) (hdone' : (o'.stages j).counts?.isSome) :
    o.store.contents = o'.store.contents := by
  refine ObjectStore.contents_ext fun n => ?_
  rw [((h.follows i).settled_of_finished hdone n).map_content,
    ((h'.follows j).settled_of_finished hdone' n).map_content]

section
variable (sound : ∀ d ∈ t.wanted, d.check = .ok ())
  (labelled : ∀ d ∈ t.wanted, d.toStored.matchesSelector t.scope.selector = true)
  (free : ∀ d ∈ t.wanted, ∀ o, s.get? d.name = some o →
    o.matchesSelector t.scope.selector = true)
include sound labelled free

/-- When a pass has finished, every attempt that was to be made at the start has been made good
once, by some pass. -/
theorem writes_perm (h : Together t s o calls) {i : ι} (hdone : (o.stages i).counts?.isSome) :
    o.store.writes.Perm
      (s.writes ++ (t.planIn s).attempts.map fun a => (a.verb, a.name)) := by
  obtain ⟨written, hp⟩ := h.progress
  have hnodup := s.nodup_names_planFor t.scope t.wanted
  have hplan : ((t.planIn s).attempts.map fun a => (a.verb, a.name)).Nodup := by
    refine List.Nodup.of_map Prod.snd ?_
    rw [List.map_map]
    exact hnodup
  rw [hp.log]
  refine List.Perm.append_left _ ((List.perm_ext_iff_of_nodup (hp.once.of_map _) hplan).2 ?_)
  intro w
  constructor
  · intro hw
    obtain ⟨a, ha, rfl⟩ := hp.planned w hw
    exact List.mem_map.2 ⟨a, ha, rfl⟩
  · intro hw
    obtain ⟨a, ha, rfl⟩ := List.mem_map.1 hw
    -- a name that nobody has written is as it was, and was not to be attempted
    have hwritten : a.name ∈ written.map (·.2) := by
      by_contra hno
      have hsettled := (h.follows i).settled_of_finished hdone a.name
      rw [hp.same _ hno] at hsettled
      exact not_attempted_of_settled sound labelled free hsettled a ha rfl
    obtain ⟨w, hw, hn⟩ := List.mem_map.1 hwritten
    obtain ⟨b, hb, rfl⟩ := hp.planned w hw
    rw [List.inj_on_of_nodup_map hnodup hb ha hn] at hw
    exact hw

variable [DecidableEq ι]

theorem step (h : Together t s o calls) (i : ι) :
    Together t s (Overlap.step (fun _ => t) o i) (Function.update calls i (calls i + 1)) := by
  obtain ⟨written, hp⟩ := h.progress
  obtain ⟨hp', hf, hframe⟩ := hp.step sound labelled free (h.follows i)
  refine ⟨hp', fun j => ?_⟩
  by_cases hj : j = i
  · subst hj
    show t.Follows s _ (Function.update calls j (calls j + 1) j) (Function.update o.stages j _ j)
    rw [Function.update_self, Function.update_self]
    exact hf
  · show t.Follows s _ (Function.update calls i (calls i + 1) j) (Function.update o.stages i _ j)
    rw [Function.update_of_ne hj, Function.update_of_ne hj]
    exact (h.follows j).frame hframe

theorem run_replicas (schedule : List ι) :
    Together t s (run (fun _ => t) s schedule) fun i => schedule.count i := by
  have h := foldl_step_induction (fun _ => t) (P := Together t s)
    (fun i h => h.step sound labelled free i) schedule (together_start t s)
  simp only [Nat.zero_add] at h
  exact h

omit [DecidableEq ι] in
/-- A pass alone is one that has finished without others. -/
theorem alone : ∃ (o : Overlap Unit) (calls : Unit → Nat), Together t s o calls ∧
    o.store = (t.alone s).store ∧ (o.stages ()).counts?.isSome := by
  obtain ⟨schedule, stage, hrun, hstage⟩ :=
    foldl_step_alone (fun _ : Unit => t) (o := start s) (i := ()) rfl
  have h := run_replicas sound labelled free schedule
  refine ⟨_, _, h, congrArg (·.store) hrun, ?_⟩
  rw [run, hrun]
  show (Function.update (start s : Overlap Unit).stages () stage ()).counts?.isSome
  rw [Function.update_self, ← Option.isSome_map (f := Except.ok), hstage]
  rfl

end
end Together

/-- **Replicas.** Passes over one scope for the same wanted overlays, sound, with the labels of the
scope and under names that only the scope has, with their calls in any order. Each finishes with no
more calls than it takes alone. As soon as one has finished, the store has what it has after one
pass alone, versions apart, and the same writes have been made. No name is ever written twice, and
what is counted as an error is a create that found its name taken or an update that found another
version. -/
theorem replicas_agree [DecidableEq ι] (t : Task) (s : ObjectStore)
    (sound : ∀ d ∈ t.desired, d.check = .ok ())
    (labelled : ∀ d ∈ t.desired, d.toStored.matchesSelector t.scope.selector = true)
    (free : ∀ d ∈ t.desired, ∀ o, s.get? d.name = some o →
      o.matchesSelector t.scope.selector = true) (schedule : List ι) :
    let o := run (fun _ => t) s schedule
    (∀ i, (t.planIn s).attempts.length < schedule.count i → (o.stages i).counts?.isSome) ∧
    (∀ i, (o.stages i).counts?.isSome → o.store.contents = (t.alone s).store.contents ∧
      o.store.writes.Perm (t.alone s).store.writes) ∧
    (∃ written, o.store.writes = s.writes ++ written ∧ (written.map (·.2)).Nodup) ∧
    (∀ i, ∀ x ∈ (o.stages i).outcomes, x.Raced) ∧
    ∀ i c, (o.stages i).counts? = some c →
      c.errors = (o.stages i).outcomes.countP fun x => !x.result.isOk := by
  have sound' := Reconciler.sound_owned (r := t.reconciler) sound
  have labelled' := labelled_owned (r := t.reconciler) labelled
  have free' := free_owned (r := t.reconciler) free
  have h := Together.run_replicas sound' labelled' free' schedule
  obtain ⟨alone, calls, halone, hstore, hdone'⟩ := Together.alone sound' labelled' free'
  refine ⟨fun i => (h.follows i).finished_of_lt, fun i hdone => ⟨?_, ?_⟩, ?_,
    fun i => (h.follows i).raced, fun i c => Stage.errors_counts⟩
  · rw [h.contents_eq halone hdone hdone', hstore]
  · rw [← hstore]
    exact (h.writes_perm sound' labelled' free' hdone).trans
      (halone.writes_perm sound' labelled' free' hdone').symm
  · obtain ⟨written, hp⟩ := h.progress
    exact ⟨written, hp.log, hp.once⟩

/-- A pass that finds something to create, to update and to delete in `driftedStore`. -/
def replica : Task := ⟨{}, .commitment .instancePlan, [planOverlay "m5" 20, planOverlay "t3" 20]⟩

/-- Two replicas that have both listed before either of them writes. -/
def racing : List Bool := [false, true, false, true, true, false, false, true]

theorem replicas_agree_racing :
    let o := run (fun _ => replica) driftedStore racing
    o.store.contents = (replica.alone driftedStore).store.contents ∧
      o.store.writes.Perm (replica.alone driftedStore).store.writes ∧
      ∀ i, (o.stages i).counts?.map (·.errors) = some 1 := by
  have hfree : ∀ d ∈ replica.desired, ∀ a ∈ driftedStore.get? d.name,
      a.matchesSelector replica.scope.selector = true := by decide +kernel
  have h := replicas_agree replica driftedStore (by decide +kernel) (by decide +kernel) hfree racing
  have hdone := h.1 true (by decide +kernel)
  have hcounts : ∀ i, ((run (fun _ => replica) driftedStore racing).stages i).counts?.map
      (·.errors) = some 1 := by decide +kernel
  exact ⟨(h.2.1 true hdone).1, (h.2.1 true hdone).2, hcounts⟩

end Overlap
end PriceOverlay
