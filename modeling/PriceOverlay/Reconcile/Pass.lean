import PriceOverlay.Reconcile.Counts
import PriceOverlay.Reconcile.Plan
import PriceOverlay.Reconcile.Scope
import PriceOverlay.Store.Objects
import PriceOverlay.Telemetry.Signal
/-!
# Passes

A pass lists the overlays of its scope, plans, and attempts the writes of the plan one by
one, each on its own: a write that fails is counted and reported, and the rest goes on.
Only the listing can fail a pass.

What a pass attempts is fixed by its plan. So a pass is the list of its attempts, and its
counts, reports and records are functions of the outcomes. Of the store it is known only that it
answers writes; a pass over the store of this library is an instance.
-/
namespace PriceOverlay

/-- A write that a plan asks for; an overlay with a flaw is never written. -/
structure Attempt where
  verb : WriteVerb
  name : String
  write : Except OverlayFlaw Write

namespace Plan

/-- The attempts of a plan: first the creates, then the updates, then the deletes. -/
def attempts (p : Plan) : List Attempt :=
  p.creates.map (fun d => ⟨.create, d.name, d.check.map fun _ => .create d.toStored⟩) ++
    p.updates.map (fun u =>
      ⟨.update, u.1.name, u.1.check.map fun _ => .update (u.1.replacing u.2)⟩) ++
    p.deletes.map fun o => ⟨.delete, o.name, .ok (.delete o.name)⟩

end Plan

namespace Attempt

/-- Whether an answer of the store means that the attempt did what it was to do. What is
to be deleted may be gone already. -/
def settled (verb : WriteVerb) : Except StoreError (Option StoredOverlay) → Except String Unit
  | .ok _ => .ok ()
  | .error e =>
    match verb, e with
    | .delete, .notFound _ => .ok ()
    | _, e => .error e.message

/-- Makes an attempt on anything that answers writes. -/
def runOn {σ : Type} (write : σ → Write → Except StoreError (Option StoredOverlay) × σ) (x : σ)
    (a : Attempt) : Except String Unit × σ :=
  match a.write with
  | .error flaw => (.error flaw.message, x)
  | .ok w =>
    let (answer, x) := write x w
    (settled a.verb answer, x)

/-- Makes an attempt on a store. -/
def run (faults : StoreFaults) (s : ObjectStore) (a : Attempt) :
    Except String Unit × ObjectStore :=
  a.runOn (·.writeVia faults ·) s

end Attempt

/-- An attempt and how it went. -/
structure Outcome where
  verb : WriteVerb
  name : String
  result : Except String Unit

namespace Outcome

/-- What an outcome adds to the counts. -/
def counts (o : Outcome) : Counts :=
  match o.result, o.verb with
  | .error _, _ => { errors := 1 }
  | .ok _, .create => { created := 1 }
  | .ok _, .update => { updated := 1 }
  | .ok _, .delete => { deleted := 1 }

/-- What is told about an outcome. -/
def signals (kind : OverlayKind) (o : Outcome) : List Signal :=
  match o.result with
  | .ok _ => [.metric (.operation kind o.verb true)]
  | .error text =>
    [.metric (.operation kind o.verb false),
      .log ⟨Component.reconciler, .operationFailed o.verb o.name text⟩]

end Outcome

/-- Makes attempts one after the other on anything that answers writes. -/
def attemptAllOn {σ : Type} (write : σ → Write → Except StoreError (Option StoredOverlay) × σ)
    (x : σ) : List Attempt → List Outcome × σ
  | [] => ([], x)
  | a :: r =>
    let (result, x) := a.runOn write x
    let (outcomes, x) := attemptAllOn write x r
    (⟨a.verb, a.name, result⟩ :: outcomes, x)

/-- Makes attempts one after the other. -/
def attemptAll (faults : StoreFaults) (s : ObjectStore) (as : List Attempt) :
    List Outcome × ObjectStore :=
  attemptAllOn (·.writeVia faults ·) s as

theorem attemptAll_nil (faults : StoreFaults) (s : ObjectStore) :
    attemptAll faults s [] = ([], s) := rfl

theorem attemptAll_cons (faults : StoreFaults) (s : ObjectStore) (a : Attempt)
    (r : List Attempt) :
    attemptAll faults s (a :: r) =
      (⟨a.verb, a.name, (a.run faults s).1⟩ :: (attemptAll faults (a.run faults s).2 r).1,
        (attemptAll faults (a.run faults s).2 r).2) := rfl

/-- The scope whose overlays could not be listed, and why. -/
structure ListFailure where
  scope : String
  cause : StoreError
  deriving DecidableEq, Repr

namespace ListFailure

def message (f : ListFailure) : String :=
  "failed to list overlays for " ++ f.scope ++ ": " ++ f.cause.message

end ListFailure

/-- What a step leaves: an answer, the store and the signals it sent. -/
structure Effect (α : Type) where
  answer : α
  store : ObjectStore
  signals : List Signal

namespace Plan

/-- Applies a plan for overlays of a kind to anything that answers writes: the counts, the signals
and what is left. -/
def applyOn {σ : Type} (p : Plan) (kind : OverlayKind)
    (write : σ → Write → Except StoreError (Option StoredOverlay) × σ) (x : σ) :
    Counts × List Signal × σ :=
  let (outcomes, x) := attemptAllOn write x p.attempts
  (outcomes.foldl (fun c o => c.merge o.counts) { unchanged := p.unchanged },
    outcomes.flatMap (Outcome.signals kind), x)

/-- Applies a plan for overlays of a kind. -/
def apply (p : Plan) (kind : OverlayKind) (faults : StoreFaults) (s : ObjectStore) :
    Effect Counts :=
  let (answer, signals, store) := p.applyOn kind (·.writeVia faults ·) s
  { answer, store, signals }

end Plan

/-- The overlays of a scope. -/
def Scope.listed (scope : Scope) (faults : StoreFaults) (s : ObjectStore) :
    Except ListFailure (List StoredOverlay) :=
  (s.listVia faults scope.selector).mapError (⟨scope.text, ·⟩)

/-- Brings stores in line with wanted overlays. If it has an owner, that owns every overlay
it writes. -/
structure Reconciler where
  owner : Option Owner := none
  deriving DecidableEq, Repr

namespace Reconciler

/-- A wanted overlay with the owner of the reconciler, unless one of its uid is there. -/
def owned (r : Reconciler) (d : Overlay) : Overlay :=
  match r.owner with
  | none => d
  | some w => if d.owners.any (·.uid == w.uid) then d else { d with owners := d.owners ++ [w] }

/-- One pass over a scope. -/
def pass (r : Reconciler) (scope : Scope) (desired : List Overlay) (faults : StoreFaults)
    (s : ObjectStore) : Effect (Except ListFailure Counts) :=
  match scope.listed faults s with
  | .error e => ⟨.error e, s, [.metric (.pass scope.kind "failed")]⟩
  | .ok existing =>
    let done := (Plan.compute (desired.map r.owned) existing).apply scope.kind faults s
    { answer := .ok done.answer
      store := done.store
      signals := done.signals ++
        [.metric (.pass scope.kind done.answer.result),
          .log ⟨Component.reconciler, .pass scope.kind scope.source done.answer⟩] }

end Reconciler
end PriceOverlay
