import PriceOverlay.Decimal.Text
import PriceOverlay.Store.Basic
/-!
# A store of overlays

The store holds overlays by name, stamps every write with the next version, and keeps an
index of the overlays that each owner owns. Garbage collection removes an owner from the
overlays it owns and, with the last owner, the overlay itself.

Every overlay is kept under its own name, with a version that the store has given out;
both are part of the type of a store.

**Results**
* `state_of_error`: a refused write changes nothing.
-/
namespace PriceOverlay

/-- A set of names. -/
abbrev NameSet := Table String Unit

/-- Each overlay is filed under its own name, and its version is one of the first `last`. -/
structure Filed (objects : Table String StoredOverlay) (last : Nat) : Prop where
  name : ∀ {n o}, objects.get? n = some o → o.name = n
  version : ∀ {n o}, objects.get? n = some o → ∃ k ≤ last, o.version = some (Decimal.natural k)

namespace Filed

variable {objects : Table String StoredOverlay} {last : Nat}

theorem empty : Filed ∅ 0 := ⟨by simp, by simp⟩

theorem insert (h : Filed objects last) {o : StoredOverlay} {k next : Nat} (hn : last ≤ next)
    (hk : k ≤ next) (hv : o.version = some (Decimal.natural k)) :
    Filed (objects.insert o.name o) next := by
  refine ⟨fun {n a} ha => ?_, fun {n a} ha => ?_⟩ <;> rw [Table.get?_insert] at ha <;> split at ha
  · rename_i he
    cases ha
    exact (Std.LawfulEqOrd.eq_of_compare he).symm
  · exact h.name ha
  · cases ha
    exact ⟨k, hk, hv⟩
  · obtain ⟨j, hj, hv⟩ := h.version ha
    exact ⟨j, Nat.le_trans hj hn, hv⟩

theorem erase (h : Filed objects last) (name : String) : Filed (objects.erase name) last := by
  refine ⟨fun {n a} ha => ?_, fun {n a} ha => ?_⟩ <;> rw [Table.get?_erase] at ha <;> split at ha
  · cases ha
  · exact h.name ha
  · cases ha
  · exact h.version ha

end Filed

structure ObjectStore where
  objects : Table String StoredOverlay
  /-- The names of the overlays that each owner owns, by the uid of the owner. -/
  owned : Table String NameSet
  lastVersion : Nat
  /-- The writes that succeeded, the latest last. -/
  writes : List (WriteVerb × String)
  filed : Filed objects lastVersion

namespace ObjectStore

/-- The store without overlays. -/
def empty : ObjectStore := ⟨∅, ∅, 0, [], .empty⟩

/-- The version that the next write stamps. -/
def nextVersion (s : ObjectStore) : String := Decimal.natural (s.lastVersion + 1)

/-! ## The index of owners -/

/-- Enters an overlay under each of its owners. -/
def link (owned : Table String NameSet) (o : StoredOverlay) : Table String NameSet :=
  o.owners.foldl (fun t w => t.adjust w.uid ∅ fun names => names.insert o.name ()) owned

/-- Takes an overlay out from under every owner; an owner of nothing leaves the index. -/
def unlink (owned : Table String NameSet) (name : String) : Table String NameSet :=
  (owned.map fun _ names => names.erase name).filter fun _ names => !names.isEmpty

/-! ## Reading -/

def get? (s : ObjectStore) (name : String) : Option StoredOverlay := s.objects.get? name

/-- The overlays that match a selector, by name. -/
def list (s : ObjectStore) (selector : Selector) : List StoredOverlay :=
  s.objects.values.filter (·.matchesSelector selector)

/-- The names of the overlays that an owner owns, by the index. -/
def ownedBy (s : ObjectStore) (uid : String) : List String :=
  ((s.owned.get? uid).map Table.keys).getD []

/-! ## Writing -/

/-- Stamps an overlay and puts it under its name, with the index given. -/
def put (s : ObjectStore) (owned : Table String NameSet) (o : StoredOverlay) :
    StoredOverlay × ObjectStore :=
  let o := { o with version := some s.nextVersion }
  (o, { s with
    objects := s.objects.insert o.name o
    owned := link owned o
    lastVersion := s.lastVersion + 1
    filed := s.filed.insert (Nat.le_succ _) (Nat.le_refl _) rfl })

/-- Puts an overlay into the store whatever was there; this is no write of the log. -/
def seed (s : ObjectStore) (o : StoredOverlay) : StoredOverlay × ObjectStore :=
  s.put s.owned o

def logged (s : ObjectStore) (v : WriteVerb) (name : String) : ObjectStore :=
  { s with writes := s.writes ++ [(v, name)] }

def create (s : ObjectStore) (o : StoredOverlay) : Except StoreError StoredOverlay × ObjectStore :=
  if s.objects.contains o.name then (.error (.alreadyExists o.name), s)
  else
    let (o, s) := s.put s.owned o
    (.ok o, s.logged .create o.name)

def update (s : ObjectStore) (o : StoredOverlay) : Except StoreError StoredOverlay × ObjectStore :=
  match s.objects.get? o.name with
  | none => (.error (.notFound o.name), s)
  | some current =>
    if current.version ≠ o.version then (.error (.conflict o.name o.version), s)
    else
      let (o, s) := s.put (unlink s.owned o.name) o
      (.ok o, s.logged .update o.name)

def delete (s : ObjectStore) (name : String) : Except StoreError Unit × ObjectStore :=
  if s.objects.contains name then
    (.ok (), { s with
      objects := s.objects.erase name
      owned := unlink s.owned name
      filed := s.filed.erase name }.logged .delete name)
  else (.error (.notFound name), s)

/-- One write; the overlay as it was stored, unless it was deleted. -/
def write (s : ObjectStore) : Write → Except StoreError (Option StoredOverlay) × ObjectStore
  | .create o => let (r, s) := s.create o; (r.map some, s)
  | .update o => let (r, s) := s.update o; (r.map some, s)
  | .delete name => let (r, s) := s.delete name; (r.map fun _ => none, s)

/-- Removes an owner from one overlay, and the overlay if it had no other. -/
def disown (uid : String) (objects : Table String StoredOverlay) (name : String) :
    Table String StoredOverlay :=
  match objects.get? name with
  | none => objects
  | some o =>
    let owners := o.owners.filter (·.uid ≠ uid)
    if owners.isEmpty then objects.erase name else objects.insert name { o with owners }

theorem filed_disown (uid : String) {objects : Table String StoredOverlay} {last : Nat}
    (h : Filed objects last) (name : String) : Filed (disown uid objects name) last := by
  unfold disown
  split
  · exact h
  · rename_i o ho
    dsimp only
    split
    · exact h.erase name
    · obtain ⟨k, hk, hv⟩ := h.version ho
      have hn := h.name ho
      subst hn
      let kept := { o with owners := o.owners.filter (·.uid ≠ uid) }
      exact h.insert (o := kept) (Nat.le_refl _) hk hv

theorem filed_disownAll (uid : String) (names : List String) {last : Nat} :
    ∀ {objects : Table String StoredOverlay}, Filed objects last →
      Filed (names.foldl (disown uid) objects) last := by
  induction names with
  | nil => exact id
  | cons n r ih => exact fun h => ih (filed_disown uid h n)

/-- Removes an owner that is gone from all that the index lists for it; returns the names. -/
def collectGarbage (s : ObjectStore) (uid : String) : List String × ObjectStore :=
  let names := s.ownedBy uid
  (names, { s with
    objects := names.foldl (disown uid) s.objects
    owned := s.owned.erase uid
    filed := filed_disownAll uid names s.filed })

/-- The same store with an empty log. -/
def clearLog (s : ObjectStore) : ObjectStore := { s with writes := [] }

/-! ## Calls that may fail on the way -/

/-- Lists through faults. -/
def listVia (s : ObjectStore) (faults : StoreFaults) (selector : Selector) :
    Except StoreError (List StoredOverlay) :=
  match faults (.list selector) with
  | some e => .error e
  | none => .ok (s.list selector)

/-- Reads through faults. -/
def getVia (s : ObjectStore) (faults : StoreFaults) (name : String) :
    Except StoreError (Option StoredOverlay) :=
  match faults (.get name) with
  | some e => .error e
  | none => .ok (s.get? name)

/-- Writes through faults. -/
def writeVia (s : ObjectStore) (faults : StoreFaults) (w : Write) :
    Except StoreError (Option StoredOverlay) × ObjectStore :=
  match faults (.write w) with
  | some e => (.error e, s)
  | none => s.write w

/-! ## What a write changes -/

/-- A refused write changes nothing. -/
theorem state_of_error {s : ObjectStore} {w : Write} {e : StoreError}
    (h : (s.write w).1 = .error e) : (s.write w).2 = s := by
  cases w with
  | create o =>
    simp only [write, create] at h ⊢
    split
    · rfl
    · simp_all [Except.map]
  | update o =>
    simp only [write, update] at h ⊢
    split
    · rfl
    · split
      · rfl
      · simp_all [Except.map]
  | delete name =>
    simp only [write, delete] at h ⊢
    split
    · simp_all [Except.map]
    · rfl

end ObjectStore
end PriceOverlay
