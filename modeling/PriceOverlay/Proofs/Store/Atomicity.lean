import Mathlib.Data.List.DropRight
import PriceOverlay.Proofs.Store.Collection
import PriceOverlay.Proofs.Store.Versions
/-!
# Calls that succeed wholly or change nothing

A write succeeds by what is under its name. It then replaces what is under its name and in the index
of its name, stamps a version that was never given out before, and enters itself in the log; if it is
refused, it changes nothing. A collection and what is put into a store without a write are never
refused and are not entered, and whoever takes the log leaves it empty.

What a run was is kept as its records, each of an event and the store that the event came upon.

**Results**
* `isOk_write_iff`: when a write succeeds.
* `stamped_happen`: a version that is stamped is the next one.
* `stamped_history`: no version was stamped that is yet to come.
* `writes_run`: the log is the writes that succeeded since it was taken last.
* `calls_atomic`: what a write does after any run.
-/
namespace PriceOverlay

/-- An event of a run: a call that may change the store, or one that takes its log. -/
inductive StoreEvent where
  | change (c : StoreChange)
  | takeLog

/-- An event of a run with the store that it came upon. -/
structure StoreRecord where
  found : ObjectStore
  event : StoreEvent

/-- The overlay that a write is given, if it is given one. -/
def Write.given : Write → Option StoredOverlay
  | create o | update o => some o
  | delete _ => none

namespace StoreRecord

/-- The version that the event stamped. -/
def stamped? (r : StoreRecord) : Option String :=
  match r.event with
  | .change c => (r.found.stored? c).bind (·.version)
  | .takeLog => none

/-- What a write that succeeded is in the log. -/
def logged? (r : StoreRecord) : Option (WriteVerb × String) :=
  match r.event with
  | .change (.write w) => if (r.found.write w).1.isOk then some (w.verb, w.name) else none
  | .change (.seed _) | .change (.collect _) | .takeLog => none

def takesLog (r : StoreRecord) : Bool :=
  match r.event with
  | .takeLog => true
  | .change _ => false

end StoreRecord

namespace ObjectStore

variable {s : ObjectStore} {w : Write} {e : StoreEvent}

def happen (s : ObjectStore) : StoreEvent → ObjectStore
  | .change c => s.change c
  | .takeLog => s.clearLog

def run (s : ObjectStore) (es : List StoreEvent) : ObjectStore := es.foldl happen s

/-- The records of a run. -/
def history (s : ObjectStore) : List StoreEvent → List StoreRecord
  | [] => []
  | e :: r => ⟨s, e⟩ :: (s.happen e).history r

theorem run_append (s : ObjectStore) (es ds : List StoreEvent) :
    s.run (es ++ ds) = (s.run es).run ds :=
  List.foldl_append

theorem history_append_singleton (s : ObjectStore) (es : List StoreEvent) (e : StoreEvent) :
    s.history (es ++ [e]) = s.history es ++ [⟨s.run es, e⟩] := by
  induction es generalizing s with
  | nil => rfl
  | cons d r ih => exact congrArg (_ :: ·) (ih (s.happen d))

/-! ## One write -/

theorem isOk_write_iff : (s.write w).1.isOk = true ↔ s.Accepts w := by
  rcases s.write_cases w with ⟨hno, e, heq⟩ | ⟨o, rfl, hfree, heq⟩ | ⟨o, a, rfl, ha, hv, heq⟩ |
    ⟨name, a, rfl, ha, heq⟩ <;> rw [heq]
  · exact ⟨nofun, fun h => absurd h hno⟩
  · exact ⟨fun _ => hfree, fun _ => rfl⟩
  · exact ⟨fun _ => ⟨a, ha, hv⟩, fun _ => rfl⟩
  · exact ⟨fun _ => ⟨a, ha⟩, fun _ => rfl⟩

/-- A write through faults succeeds if it gets to the store and succeeds there. -/
theorem isOk_writeVia_iff {faults : StoreFaults} :
    (s.writeVia faults w).1.isOk = true ↔ faults (.write w) = none ∧ s.Accepts w := by
  unfold writeVia
  cases faults (.write w) with
  | some e => exact ⟨nofun, nofun⟩
  | none => exact isOk_write_iff.trans (and_iff_right rfl).symm

/-- Whether a write succeeds goes by what is under its name. -/
theorem accepts_congr {s' : ObjectStore} (h : s.get? w.name = s'.get? w.name) :
    s.Accepts w ↔ s'.Accepts w := by
  cases w <;> simp only [Write.name] at h <;> simp only [Accepts, h]

/-- A write that succeeds answers what it was given, with the next version. -/
theorem answer_of_ok {stored : Option StoredOverlay} (h : (s.write w).1 = .ok stored) :
    stored = w.given.map ({ · with version := some s.nextVersion }) := by
  rcases s.write_cases w with ⟨-, e, heq⟩ | ⟨o, rfl, -, heq⟩ | ⟨o, a, rfl, -, -, heq⟩ |
    ⟨name, a, rfl, -, heq⟩ <;> rw [heq] at h <;> cases h <;> rfl

/-! ## Versions -/

/-- A version that is stamped is the next one, which is then given out. -/
theorem stamped_happen {v : String} (h : StoreRecord.stamped? ⟨s, e⟩ = some v) :
    v = s.nextVersion ∧ (s.happen e).lastVersion = s.lastVersion + 1 := by
  cases e with
  | takeLog => cases h
  | change c =>
    cases c with
    | seed o =>
      cases h
      exact ⟨rfl, rfl⟩
    | collect uid => cases h
    | write w =>
      simp only [StoreRecord.stamped?, stored?] at h
      show v = _ ∧ (s.write w).2.lastVersion = _
      rcases s.write_cases w with ⟨-, e, heq⟩ | ⟨o, -, -, heq⟩ | ⟨o, a, -, -, -, heq⟩ |
        ⟨name, a, -, -, heq⟩ <;> rw [heq] at h ⊢ <;> cases h <;> exact ⟨rfl, rfl⟩

theorem lastVersion_le_happen (s : ObjectStore) (e : StoreEvent) :
    s.lastVersion ≤ (s.happen e).lastVersion := by
  cases e with
  | change c => exact s.lastVersion_le_change c
  | takeLog => exact Nat.le_refl _

/-- Every version that a run has stamped is among those given out. -/
theorem stamped_history {es : List StoreEvent} {r : StoreRecord} {v : String}
    (hr : r ∈ empty.history es) (hv : r.stamped? = some v) :
    ∃ k ≤ (empty.run es).lastVersion, v = Decimal.natural k := by
  induction es using List.reverseRecOn with
  | nil => cases hr
  | append_singleton es e ih =>
    rw [history_append_singleton, List.mem_append, List.mem_singleton] at hr
    rw [run_append]
    rcases hr with hr | rfl
    · obtain ⟨k, hk, hv⟩ := ih hr
      exact ⟨k, Nat.le_trans hk (lastVersion_le_happen _ e), hv⟩
    · obtain ⟨rfl, hlast⟩ := stamped_happen hv
      exact ⟨_, Nat.le_of_eq hlast.symm, rfl⟩

theorem stamped_ne_nextVersion {es : List StoreEvent} {r : StoreRecord}
    (hr : r ∈ empty.history es) : r.stamped? ≠ some (empty.run es).nextVersion := by
  intro hv
  obtain ⟨k, hk, hnext⟩ := stamped_history hr hv
  have := Decimal.natural_injective hnext
  omega

/-! ## The log -/

theorem writes_happen (s : ObjectStore) (e : StoreEvent) :
    (s.happen e).writes =
      if StoreRecord.takesLog ⟨s, e⟩ then []
      else s.writes ++ (StoreRecord.logged? ⟨s, e⟩).toList := by
  cases e with
  | takeLog => rfl
  | change c =>
    cases c with
    | seed o => exact (List.append_nil _).symm
    | collect uid => exact (List.append_nil _).symm
    | write w =>
      simp only [StoreRecord.takesLog, StoreRecord.logged?, Bool.false_eq_true, if_false]
      show (s.write w).2.writes = _
      cases h : (s.write w).1 with
      | error e =>
        rw [state_of_error h]
        exact (List.append_nil _).symm
      | ok stored => exact writes_of_ok h

/-- The log of a run is the writes that succeeded since it was taken last. -/
theorem writes_run (es : List StoreEvent) :
    (empty.run es).writes =
      ((empty.history es).rtakeWhile fun r => !r.takesLog).filterMap (·.logged?) := by
  induction es using List.reverseRecOn with
  | nil => rfl
  | append_singleton es e ih =>
    rw [run_append, history_append_singleton]
    refine (writes_happen _ e).trans ?_
    cases ht : StoreRecord.takesLog ⟨empty.run es, e⟩ with
    | true =>
      rw [List.rtakeWhile_concat_neg _ _ _ (by simp only [ht, Bool.not_true, Bool.false_eq_true,
        not_false_eq_true])]
      rfl
    | false =>
      rw [List.rtakeWhile_concat_pos _ _ _ (by simp only [ht, Bool.not_false]),
        List.filterMap_append, ← ih]
      cases he : StoreRecord.logged? ⟨empty.run es, e⟩ <;>
        simp only [List.filterMap_cons, List.filterMap_nil, he] <;> rfl

/-- A refused create and what was written before the log was taken are not in it. -/
example : (empty.run [.change (.write (.create (ownedOverlay "a" []))), .takeLog,
    .change (.write (.create (ownedOverlay "a" []))), .change (.write (.delete "a")),
    .change (.seed (ownedOverlay "b" []))]).writes = [(.delete, "a")] := by decide +kernel

/-! ## Calls after a run -/

/-- **Atomic calls.** After any run, a write succeeds exactly if a create finds nothing under its
name, an update finds the version it was made from, or a delete finds something. If it is refused,
the store is as it was. If it succeeds, its name has what it was given, with the next version, or
nothing; every other name has what it had and is listed as it was; and no event of the run stamped
the version that it stamps. The log is the writes that succeeded since it was taken last, in their
order. -/
theorem calls_atomic (es : List StoreEvent) (w : Write) :
    let s := empty.run es
    let past := empty.history es
    ((s.write w).1.isOk = true ↔ s.Accepts w) ∧
    (∀ e, (s.write w).1 = .error e → (s.write w).2 = s) ∧
    (∀ stored, (s.write w).1 = .ok stored →
      stored = w.given.map ({ · with version := some s.nextVersion }) ∧
      (s.write w).2.get? w.name = stored ∧
      (∀ n ≠ w.name, (s.write w).2.get? n = s.get? n ∧
        ∀ uid, n ∈ (s.write w).2.ownedBy uid ↔ n ∈ s.ownedBy uid) ∧
      ∀ o, stored = some o → ∀ r ∈ past, r.stamped? ≠ o.version) ∧
    s.writes = (past.rtakeWhile fun r => !r.takesLog).filterMap (·.logged?) := by
  intro s past
  refine ⟨isOk_write_iff, fun e => state_of_error, fun stored h => ?_, writes_run es⟩
  refine ⟨answer_of_ok h, get?_write_of_ok h,
    fun n hn => ⟨get?_write_of_ne hn, fun uid => mem_ownedBy_write_of_ne hn⟩, ?_⟩
  rintro o rfl r hr
  rw [version_of_write h]
  exact stamped_ne_nextVersion hr

end ObjectStore
end PriceOverlay
