import PriceOverlay.Controller.Schedule
/-!
# When decision cycles start

Each tick of the loop is one of three things: the shutdown comes before it, its cycle is the last
one and not completed, or its cycle is completed and the loop goes on. `Ticks` has a case for each,
with the time at which the tick is due and the one from which on the loop is free. What it says of
the cycles is shown along these cases. Of two things that happen at one time either may be the first
that the loop sees, so the cases overlap there.

A tick that is late by no more than the tolerance does not move those after it. So ticks that an
overrun held up come at once as long as they are that little late, which takes an interval of no
more than the tolerance.

**Results**
* `Ticks.spacing`: however far apart two cycles are in the plan, their starts are as many
  intervals apart, less the tolerance once.
* `Ticks.paced`: when the cycles of a loop start, and how they end.
-/
namespace PriceOverlay

/-- How the end of a cycle stands to the shutdown. One that is abandoned is found waiting for the
record of health if its duration was reported, and at work if not. -/
def ScheduledCycle.Meets (c : ScheduledCycle) (shutdown : Nat) : Prop :=
  match c.ending with
  | .completed | .brokenOff => c.finish ≤ shutdown
  | .abandoned p =>
    if p.reported then c.start + c.work ≤ shutdown ∧ shutdown ≤ c.finish
    else shutdown ≤ c.start + c.work

/-- The shutdown comes no later than the end of a cycle that it abandons. -/
theorem ScheduledCycle.Meets.le_finish {c : ScheduledCycle} {shutdown : Nat} (h : c.Meets shutdown)
    {p : Progress} (hp : c.ending = .abandoned p) : shutdown ≤ c.finish := by
  simp only [Meets, hp] at h
  split at h
  · exact h.2
  · exact Nat.le_trans h (Nat.le_add_right _ _)

/-- The cycles of a loop that is free from `now` on and whose next tick is due at `due`. -/
inductive Ticks (interval shutdown : Nat) : Nat → Nat → List ScheduledCycle → Prop where
  | stopped {due now : Nat} (late : shutdown ≤ max now due) : Ticks interval shutdown due now []
  | last {due now : Nat} {c : ScheduledCycle} (start : c.start = max now due)
      (inTime : c.start ≤ shutdown) (incomplete : c.ending ≠ .completed)
      (meets : c.Meets shutdown) : Ticks interval shutdown due now [c]
  | completed {due now : Nat} {c : ScheduledCycle} {rest : List ScheduledCycle}
      (start : c.start = max now due) (complete : c.ending = .completed)
      (inTime : c.finish ≤ shutdown)
      (go : Ticks interval shutdown (nextDue interval due c.start) c.finish rest) :
      Ticks interval shutdown due now (c :: rest)

section Due

variable (interval due handled : Nat)

theorem due_add_le_nextDue : due + interval ≤ nextDue interval due handled := by
  unfold nextDue
  split <;> omega

/-- A tick makes the next one due an interval after it was handled, or a little earlier. -/
theorem handled_add_le_nextDue :
    handled + interval ≤ nextDue interval due handled + tickTolerance := by
  unfold nextDue
  split <;> omega

variable {due handled}

theorem nextDue_le (h : due ≤ handled) : nextDue interval due handled ≤ handled + interval := by
  unfold nextDue
  split <;> omega

variable {interval}

theorem nextDue_of_late (h : due + tickTolerance < handled) :
    nextDue interval due handled = handled + interval :=
  if_pos h

end Due

namespace Ticks

variable {interval shutdown due now : Nat} {l : List ScheduledCycle}

/-- No cycle starts before the loop is free, or before it is due. -/
theorem le_start (h : Ticks interval shutdown due now l) :
    ∀ c ∈ l, now ≤ c.start ∧ due ≤ c.start := by
  induction h with
  | stopped => exact fun c hc => absurd hc List.not_mem_nil
  | last start =>
    intro c hc
    obtain rfl := List.mem_singleton.1 hc
    omega
  | @completed due now d rest start _ _ _ ih =>
    intro c hc
    obtain rfl | hc := List.mem_cons.1 hc
    · omega
    · have hnext := due_add_le_nextDue interval due d.start
      have hrest := ih c hc
      simp only [ScheduledCycle.finish] at hrest
      omega

/-- A tick that comes before the shutdown starts a cycle. -/
theorem head_start (h : Ticks interval shutdown due now l) :
    l.head?.map (·.start) = some (max now due) ∨ l = [] ∧ shutdown ≤ max now due := by
  cases h with
  | stopped late => exact .inr ⟨rfl, late⟩
  | last start | completed start => exact .inl (congrArg some start)

/-- The tick that comes after `j` others is due at least `j` intervals after the first. -/
theorem due_le_start (h : Ticks interval shutdown due now l) :
    ∀ j c, l[j]? = some c → due + j * interval ≤ c.start := by
  induction h with
  | stopped => simp
  | last start =>
    intro j c hc
    cases j with
    | zero =>
      cases hc
      omega
    | succ j => simp at hc
  | @completed due now d rest start _ _ _ ih =>
    intro j c hc
    cases j with
    | zero =>
      cases hc
      omega
    | succ j =>
      have hnext := due_add_le_nextDue interval due d.start
      have hrest := ih j c hc
      rw [Nat.add_mul, Nat.one_mul]
      omega

theorem start_le_shutdown (h : Ticks interval shutdown due now l) :
    ∀ c ∈ l, c.start ≤ shutdown := by
  induction h with
  | stopped => exact fun c hc => absurd hc List.not_mem_nil
  | last _ inTime => exact List.forall_mem_singleton.2 inTime
  | completed _ _ inTime _ ih =>
    refine List.forall_mem_cons.2 ⟨?_, ih⟩
    simp only [ScheduledCycle.finish] at inTime
    omega

theorem meets (h : Ticks interval shutdown due now l) : ∀ c ∈ l, c.Meets shutdown := by
  induction h with
  | stopped => exact fun c hc => absurd hc List.not_mem_nil
  | last _ _ _ meets => exact List.forall_mem_singleton.2 meets
  | completed _ complete inTime _ ih =>
    refine List.forall_mem_cons.2 ⟨?_, ih⟩
    simp only [ScheduledCycle.Meets, complete]
    exact inTime

/-- A cycle starts only when those before it have run to their ends. -/
theorem apart (h : Ticks interval shutdown due now l) :
    l.Pairwise fun a b => a.ending = .completed ∧ a.finish ≤ b.start := by
  induction h with
  | stopped => exact .nil
  | last => exact List.pairwise_singleton _ _
  | completed _ complete _ go ih =>
    exact List.pairwise_cons.2 ⟨fun c hc => ⟨complete, (go.le_start c hc).1⟩, ih⟩

/-- The `k`-th cycle after one starts no earlier than `k` intervals after it, less the tolerance
once for all of them. -/
theorem spacing (h : Ticks interval shutdown due now l) :
    ∀ i k a b, l[i]? = some a → l[i + k]? = some b →
      a.start + k * interval ≤ b.start + tickTolerance := by
  induction h with
  | stopped => simp
  | last =>
    intro i k a b ha hb
    obtain ⟨rfl, rfl⟩ : i = 0 ∧ k = 0 := by
      have hi := (List.getElem?_eq_some_iff.1 hb).1
      simp only [List.length_singleton] at hi
      omega
    cases ha
    cases hb
    omega
  | @completed due now d rest _ _ _ go ih =>
    intro i k a b ha hb
    cases i with
    | succ i =>
      rw [Nat.add_right_comm] at hb
      exact ih i k a b ha hb
    | zero =>
      rw [Nat.zero_add] at hb
      cases ha
      cases k with
      | zero =>
        cases hb
        omega
      | succ k =>
        have hnext := handled_add_le_nextDue interval due d.start
        have hrest := go.due_le_start k b hb
        rw [Nat.add_mul, Nat.one_mul]
        omega

/-- After a start that was late, the next cycle is a full interval away. -/
theorem head_of_late (h : Ticks interval shutdown due now l) {a b : ScheduledCycle}
    (ha : l[0]? = some a) (hb : l[1]? = some b) (late : due + tickTolerance < a.start) :
    a.start + interval ≤ b.start := by
  cases h with
  | stopped => simp at ha
  | last => simp at hb
  | completed _ _ _ go =>
    cases ha
    have hnext := go.due_le_start 0 b hb
    rw [nextDue_of_late late] at hnext
    omega

/-- A cycle that starts more than an interval and the tolerance after the one before it was held
up, and the next one is a full interval away. -/
theorem overrun (h : Ticks interval shutdown due now l) :
    ∀ i p a b, l[i]? = some p → l[i + 1]? = some a → l[i + 2]? = some b →
      p.start + interval + tickTolerance < a.start → a.start + interval ≤ b.start := by
  induction h with
  | stopped => simp
  | last => simp
  | @completed due now d rest start _ _ go ih =>
    intro i p a b hp ha hb late
    cases i with
    | succ i => exact ih i p a b hp ha hb late
    | zero =>
      cases hp
      have hnext := nextDue_le interval (show due ≤ d.start by omega)
      exact go.head_of_late ha hb (by omega)

/-- A cycle does not wait longer than for the one before it and for an interval. -/
theorem prompt (h : Ticks interval shutdown due now l) :
    ∀ i a b, l[i]? = some a → l[i + 1]? = some b → b.start ≤ max a.finish (a.start + interval) := by
  induction h with
  | stopped => simp
  | last => simp
  | @completed due now d rest start _ _ go ih =>
    intro i a b ha hb
    cases i with
    | succ i => exact ih i a b ha hb
    | zero =>
      cases ha
      have hnext := nextDue_le interval (show due ≤ d.start by omega)
      cases go with
      | stopped => simp at hb
      | last start | completed start =>
        cases hb
        omega

/-- The plan ends because of the shutdown, unless a cycle breaks off. -/
theorem last_cut (h : Ticks interval shutdown due now l) :
    ∀ c, l.getLast? = some c →
      c.ending = .brokenOff ∨ shutdown ≤ max c.finish (c.start + interval) := by
  induction h with
  | stopped => simp
  | @last due now d _ _ incomplete meets =>
    intro c hc
    obtain rfl := Option.some.inj (List.getLast?_singleton.symm.trans hc)
    cases he : d.ending with
    | completed => exact absurd he incomplete
    | abandoned p => exact .inr (Nat.le_trans (meets.le_finish he) (Nat.le_max_left _ _))
    | brokenOff => exact .inl rfl
  | @completed due now d rest start _ _ go ih =>
    intro c hc
    cases rest with
    | cons e rest => exact ih c (by rwa [List.getLast?_cons_cons] at hc)
    | nil =>
      obtain rfl := Option.some.inj (List.getLast?_singleton.symm.trans hc)
      have hnext := nextDue_le interval (show due ≤ d.start by omega)
      cases go with
      | stopped late => exact .inr (by omega)

end Ticks

/-- When the cycles of a loop start, and how they end. -/
structure Paced (interval shutdown : Nat) (l : List ScheduledCycle) : Prop where
  /-- The first cycle starts at once, unless the shutdown comes first. -/
  first : l.head?.map (·.start) = some 0 ∨ l = [] ∧ shutdown = 0
  apart : l.Pairwise fun a b => a.ending = .completed ∧ a.finish ≤ b.start
  inTime : ∀ c ∈ l, c.start ≤ shutdown
  meets : ∀ c ∈ l, c.Meets shutdown
  spacing : ∀ i k a b, l[i]? = some a → l[i + k]? = some b →
    a.start + k * interval ≤ b.start + tickTolerance
  overrun : ∀ i p a b, l[i]? = some p → l[i + 1]? = some a → l[i + 2]? = some b →
    p.start + interval + tickTolerance < a.start → a.start + interval ≤ b.start
  prompt : ∀ i a b, l[i]? = some a → l[i + 1]? = some b →
    b.start ≤ max a.finish (a.start + interval)
  last_cut : ∀ c, l.getLast? = some c →
    c.ending = .brokenOff ∨ shutdown ≤ max c.finish (c.start + interval)

theorem Ticks.paced {interval shutdown : Nat} {l : List ScheduledCycle}
    (h : Ticks interval shutdown 0 0 l) : Paced interval shutdown l where
  first := h.head_start.imp_right fun ⟨hl, hs⟩ => ⟨hl, Nat.le_zero.1 hs⟩
  apart := h.apart
  inTime := h.start_le_shutdown
  meets := h.meets
  spacing := h.spacing
  overrun := h.overrun
  prompt := h.prompt
  last_cut := h.last_cut

end PriceOverlay
