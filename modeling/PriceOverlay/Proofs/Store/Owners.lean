import PriceOverlay.Proofs.Store.Writes
/-!
# The index of owners

A store keeps an index of the overlays that each owner owns, and collects garbage by it. Writes
keep the index in step with the owners of the overlays: it lists a name under an owner exactly if
the overlay of that name has the owner. An overlay that is put over another one without a write is
listed under its own owners, but stays listed under those of the other.

**Results**
* `lists_link`, `lists_unlink`: what the index lists after a change.
* `get?_collectGarbage`: what becomes of an overlay when an owner is collected.
* `write_cases`: when a write is refused, and what it does if it is not.
* `covered_changes`: the index lists every overlay under each of its owners.
* `filled_ext`: an index without owners of nothing is given by what it lists.
* `Indexed.get?_collectGarbage_eq_some_iff`: what a collection leaves if the index is exact.
* `Indexed.change`: one change keeps the index exact, unless it puts an overlay over another.
* `owners_indexed`: what the index is after any writes and collections.
-/
namespace PriceOverlay

namespace StoredOverlay

/-- Whether an owner with the uid given is among the owners of the overlay. -/
def OwnedBy (uid : String) (o : StoredOverlay) : Prop := ∃ w ∈ o.owners, w.uid = uid

/-- The overlay without the owners of some uids. -/
def without (uids : List String) (o : StoredOverlay) : StoredOverlay :=
  { o with owners := o.owners.filter fun w => w.uid ∉ uids }

/-- What is left of an overlay when an owner is collected: nothing if it has no other. -/
def left? (uid : String) (o : StoredOverlay) : Option StoredOverlay :=
  if (o.without [uid]).owners.isEmpty then none else some (o.without [uid])

theorem ownedBy_without {uids : List String} {o : StoredOverlay} {uid : String} :
    (o.without uids).OwnedBy uid ↔ o.OwnedBy uid ∧ uid ∉ uids := by
  simp only [OwnedBy, without, List.mem_filter, decide_eq_true_eq]
  constructor
  · rintro ⟨w, ⟨hw, hno⟩, rfl⟩
    exact ⟨⟨w, hw, rfl⟩, hno⟩
  · rintro ⟨⟨w, hw, rfl⟩, hno⟩
    exact ⟨w, ⟨hw, hno⟩, rfl⟩

theorem without_eq_self_iff {uids : List String} {o : StoredOverlay} :
    o.without uids = o ↔ ∀ uid ∈ uids, ¬ o.OwnedBy uid := by
  constructor
  · intro h uid huid howned
    rw [← h, ownedBy_without] at howned
    exact howned.2 huid
  · intro h
    have howners : o.owners.filter (fun w => w.uid ∉ uids) = o.owners :=
      List.filter_eq_self.2 fun w hw =>
        decide_eq_true fun hmem => h w.uid hmem ⟨w, hw, rfl⟩
    rw [without, howners]

theorem without_nil (o : StoredOverlay) : o.without [] = o :=
  without_eq_self_iff.2 fun _ h => absurd h List.not_mem_nil

theorem without_without (xs ys : List String) (o : StoredOverlay) :
    (o.without xs).without ys = o.without (xs ++ ys) := by
  simp only [without, List.filter_filter, List.mem_append, not_or, Bool.decide_and, Bool.and_comm]

theorem left?_eq_some_iff {uid : String} {o b : StoredOverlay} :
    o.left? uid = some b ↔ b = o.without [uid] ∧ b.owners ≠ [] := by
  unfold left?
  split
  · rename_i h
    rw [List.isEmpty_iff] at h
    constructor
    · nofun
    · rintro ⟨rfl, hne⟩
      exact absurd h hne
  · rename_i h
    rw [List.isEmpty_iff] at h
    constructor
    · intro hb
      cases hb
      exact ⟨rfl, h⟩
    · rintro ⟨rfl, -⟩
      rfl

end StoredOverlay

namespace ObjectStore

/-! ## What the index lists -/

/-- Whether an index lists a name under an owner. -/
def lists (owned : Table String NameSet) (uid n : String) : Bool :=
  (owned.get? uid).any (·.contains n)

/-- No owner is in the index with nothing. -/
def Filled (owned : Table String NameSet) : Prop :=
  ∀ uid names, owned.get? uid = some names → names.isEmpty = false

variable {owned : Table String NameSet} {uid n : String}

theorem lists_adjust (owned : Table String NameSet) (uid' n' uid n : String) :
    lists (owned.adjust uid' ∅ fun names => names.insert n' ()) uid n = true ↔
      lists owned uid n = true ∨ n = n' ∧ uid' = uid := by
  unfold lists
  rw [Table.get?_adjust_eq]
  by_cases hu : uid = uid'
  · subst hu
    simp only [if_true, Option.any_some, Table.contains, Table.get?_insert_eq, and_true]
    by_cases hn : n = n'
    · simp only [hn, if_true, Option.isSome_some, or_true]
    · simp only [hn, if_false, or_false]
      cases owned.get? uid <;> rfl
  · simp only [hu, Ne.symm hu, if_false, and_false, or_false]

/-- An overlay is entered under each of its owners, and nothing else is. -/
theorem lists_link (owned : Table String NameSet) (o : StoredOverlay) (uid n : String) :
    lists (link owned o) uid n = true ↔ lists owned uid n = true ∨ n = o.name ∧ o.OwnedBy uid := by
  unfold link StoredOverlay.OwnedBy
  induction o.owners generalizing owned with
  | nil => simp only [List.foldl_nil, List.not_mem_nil, false_and, exists_false, and_false, or_false]
  | cons w r ih =>
    rw [List.foldl_cons, ih, lists_adjust, List.exists_mem_cons_iff, and_or_left, or_assoc]

theorem filled_link (h : Filled owned) (o : StoredOverlay) : Filled (link owned o) := by
  unfold link
  induction o.owners generalizing owned with
  | nil => exact h
  | cons w r ih =>
    refine ih fun uid names hnames => ?_
    rw [Table.get?_adjust_eq] at hnames
    split at hnames
    · cases hnames
      refine Table.isEmpty_eq_false_iff.2 ⟨o.name, (), ?_⟩
      rw [Table.get?_insert_eq, if_pos rfl]
    · exact h uid names hnames

theorem get?_unlink (owned : Table String NameSet) (name uid : String) :
    (unlink owned name).get? uid =
      ((owned.get? uid).map (·.erase name)).filter (!·.isEmpty) := by
  rw [unlink, Table.get?_filter, Table.get?_map]

theorem lists_unlink (owned : Table String NameSet) (name uid n : String) :
    lists (unlink owned name) uid n = true ↔ n ≠ name ∧ lists owned uid n = true := by
  unfold lists
  rw [get?_unlink]
  cases owned.get? uid with
  | none => exact ⟨fun h => absurd h Bool.false_ne_true, fun h => h.2⟩
  | some names =>
    rw [Option.map_some, Option.any_some, Option.filter]
    have herase := names.get?_erase_eq name n
    split
    · rw [Option.any_some, Table.contains, Table.contains, herase]
      by_cases hn : n = name
      · simp only [hn, if_true, Option.isSome_none, Bool.false_eq_true, ne_eq, not_true_eq_false,
          false_and]
      · simp only [hn, if_false, ne_eq, not_false_eq_true, true_and]
    · -- an owner of nothing but this name leaves the index
      rename_i hempty
      refine ⟨fun h => absurd h Bool.false_ne_true, fun h => ?_⟩
      obtain ⟨hn, hlisted⟩ := h
      rw [if_neg hn] at herase
      obtain ⟨a, ha⟩ := Option.isSome_iff_exists.1 hlisted
      rw [Table.isEmpty_eq_false_iff.2 ⟨n, a, herase.trans ha⟩] at hempty
      exact absurd rfl hempty

theorem filled_unlink (owned : Table String NameSet) (name : String) :
    Filled (unlink owned name) := by
  intro uid names hnames
  rw [get?_unlink] at hnames
  exact Bool.not_eq_true' _ ▸ (Option.filter_eq_some_iff.1 hnames).2

theorem exists_lists (h : Filled owned) {names : NameSet} (hn : owned.get? uid = some names) :
    ∃ n, lists owned uid n = true := by
  obtain ⟨n, a, ha⟩ := Table.isEmpty_eq_false_iff.1 (h uid names hn)
  refine ⟨n, ?_⟩
  rw [lists, hn, Option.any_some, Table.contains, ha]
  rfl

/-- An index without owners of nothing is given by what it lists. -/
theorem filled_ext {owned' : Table String NameSet} (h : Filled owned) (h' : Filled owned')
    (hlists : ∀ uid n, lists owned uid n = true ↔ lists owned' uid n = true) : owned = owned' := by
  refine Table.ext_get? fun uid => ?_
  cases ho : owned.get? uid with
  | none =>
    cases ho' : owned'.get? uid with
    | none => rfl
    | some names' =>
      obtain ⟨n, hn⟩ := exists_lists h' ho'
      rw [← hlists, lists, ho] at hn
      cases hn
  | some names =>
    cases ho' : owned'.get? uid with
    | none =>
      obtain ⟨n, hn⟩ := exists_lists h ho
      rw [hlists, lists, ho'] at hn
      cases hn
    | some names' =>
      refine congrArg some (Table.ext_get? fun n => ?_)
      have hn := hlists uid n
      rw [lists, lists, ho, ho', Option.any_some, Option.any_some, Table.contains,
        Table.contains] at hn
      cases hc : names.get? n with
      | none =>
        rw [hc] at hn
        exact (Option.not_isSome_iff_eq_none.1 fun hs => Bool.false_ne_true (hn.2 hs)).symm
      | some a =>
        rw [hc] at hn
        exact Option.some_get (hn.1 rfl)

variable {s : ObjectStore}

theorem mem_ownedBy_iff : n ∈ s.ownedBy uid ↔ lists s.owned uid n = true := by
  unfold ownedBy lists
  cases s.owned.get? uid with
  | none => exact ⟨fun h => absurd h List.not_mem_nil, nofun⟩
  | some names =>
    rw [Option.map_some, Option.getD_some, Option.any_some, Table.contains, Table.mem_keys_iff,
      Option.isSome_iff_exists]

/-- The index lists the names under an owner in ascending order, each once. -/
theorem ascending_ownedBy (s : ObjectStore) (uid : String) :
    (s.ownedBy uid).Pairwise (· < ·) := by
  unfold ownedBy
  cases s.owned.get? uid with
  | none => exact .nil
  | some names =>
    rw [Option.map_some, Option.getD_some, Table.keys, List.pairwise_map]
    exact names.ascending.imp compareOfLessAndEq_eq_lt.1

/-! ## Collecting an owner -/

theorem get?_disown (uid : String) (objects : Table String StoredOverlay) (name n : String) :
    (disown uid objects name).get? n =
      if n = name then (objects.get? n).bind (·.left? uid) else objects.get? n := by
  unfold disown
  cases ho : objects.get? name with
  | none =>
    dsimp only
    split
    · rename_i hn
      rw [hn, ho]
      rfl
    · rfl
  | some o =>
    have hkept : o.owners.filter (·.uid ≠ uid) = (o.without [uid]).owners := by
      simp only [StoredOverlay.without, List.mem_singleton, ne_eq]
    dsimp only
    rw [hkept]
    split
    · rename_i hnone
      rw [Table.get?_erase_eq]
      split
      · rename_i hn
        rw [hn, ho, Option.bind_some, StoredOverlay.left?, if_pos hnone]
      · rfl
    · rename_i hsome
      rw [Table.get?_insert_eq]
      split
      · rename_i hn
        rw [hn, ho, Option.bind_some, StoredOverlay.left?, if_neg hsome]
        rfl
      · rfl

theorem get?_foldl_disown (uid : String) {names : List String} (hnodup : names.Nodup) (n : String)
    (objects : Table String StoredOverlay) :
    (names.foldl (disown uid) objects).get? n =
      if n ∈ names then (objects.get? n).bind (·.left? uid) else objects.get? n := by
  induction names generalizing objects with
  | nil => rfl
  | cons name r ih =>
    obtain ⟨hno, hr⟩ := List.nodup_cons.1 hnodup
    rw [List.foldl_cons, ih hr, get?_disown]
    by_cases hn : n = name
    · subst hn
      simp only [hno, if_false, if_true, List.mem_cons, true_or]
    · simp only [hn, if_false, List.mem_cons, false_or]

/-- Collecting an owner leaves of each overlay that the index lists for it what the others own. -/
theorem get?_collectGarbage (s : ObjectStore) (uid n : String) :
    (s.collectGarbage uid).2.get? n =
      if n ∈ s.ownedBy uid then (s.get? n).bind (·.left? uid) else s.get? n :=
  get?_foldl_disown uid ((s.ascending_ownedBy uid).imp (fun h => String.ne_of_lt h)) n s.objects

theorem mem_ownedBy_collectGarbage {uid' : String} :
    n ∈ (s.collectGarbage uid).2.ownedBy uid' ↔ uid' ≠ uid ∧ n ∈ s.ownedBy uid' := by
  simp only [mem_ownedBy_iff, lists]
  show ((s.owned.erase uid).get? uid').any _ = true ↔ _
  rw [Table.get?_erase_eq]
  by_cases hu : uid' = uid
  · simp only [hu, if_true, Option.any_none, Bool.false_eq_true, ne_eq, not_true_eq_false, false_and]
  · simp only [hu, if_false, ne_eq, not_false_eq_true, true_and]

/-! ## Changes -/

/-- Whether a write is let through: it creates where there is nothing, or replaces what has the
version that it was made from, or deletes what is there. -/
def Accepts (s : ObjectStore) : Write → Prop
  | .create o => s.get? o.name = none
  | .update o => ∃ a, s.get? o.name = some a ∧ a.version = o.version
  | .delete name => ∃ a, s.get? name = some a

theorem filed_dropped (s : ObjectStore) (name : String) :
    Filed (s.objects.erase name) s.lastVersion :=
  s.filed.erase name

/-- The store without the overlay of a name. -/
def dropped (s : ObjectStore) (name : String) : ObjectStore :=
  { s with
    objects := s.objects.erase name
    owned := unlink s.owned name
    filed := s.filed_dropped name }

/-- What a write does: it is refused and changes nothing, or it creates where there was nothing, or
it replaces what has the version it was made from, or it deletes what was there. -/
theorem write_cases (s : ObjectStore) (w : Write) :
    (¬ s.Accepts w ∧ ∃ e, s.write w = (.error e, s)) ∨
    (∃ o, w = .create o ∧ s.get? o.name = none ∧
      s.write w = (.ok (some (s.put s.owned o).1),
        (s.put s.owned o).2.logged .create o.name)) ∨
    (∃ o a, w = .update o ∧ s.get? o.name = some a ∧ a.version = o.version ∧
      s.write w = (.ok (some (s.put (unlink s.owned o.name) o).1),
        (s.put (unlink s.owned o.name) o).2.logged .update o.name)) ∨
    ∃ name a, w = .delete name ∧ s.get? name = some a ∧
      s.write w = (.ok none, (s.dropped name).logged .delete name) := by
  cases w with
  | create o =>
    cases h : s.get? o.name with
    | some a =>
      exact .inl ⟨fun hfree => Option.some_ne_none a (h.symm.trans hfree), _,
        write_create_of_some h⟩
    | none =>
      refine .inr (.inl ⟨o, rfl, h, ?_⟩)
      simp only [write, create, Table.contains_eq_false_iff.2 h, Bool.false_eq_true, if_false]
      rfl
  | update o =>
    cases h : s.get? o.name with
    | none =>
      refine .inl ⟨?_, _, write_update_of_missing h⟩
      rintro ⟨a, ha, -⟩
      cases h.symm.trans ha
    | some a =>
      by_cases hv : a.version = o.version
      · refine .inr (.inr (.inl ⟨o, a, rfl, h, hv, ?_⟩))
        simp only [write, update, show s.objects.get? o.name = some a from h, hv, ne_eq,
          not_true_eq_false, if_false]
        rfl
      · refine .inl ⟨?_, _, write_update_of_changed h hv⟩
        rintro ⟨b, hb, hbv⟩
        cases h.symm.trans hb
        exact hv hbv
  | delete name =>
    cases h : s.get? name with
    | none =>
      refine .inl ⟨?_, _, write_delete_of_missing h⟩
      rintro ⟨a, ha⟩
      cases h.symm.trans ha
    | some a =>
      have hc : s.objects.contains name = true := by
        rw [Table.contains, show s.objects.get? name = some a from h]
        rfl
      refine .inr (.inr (.inr ⟨name, a, rfl, h, ?_⟩))
      simp only [write, delete, hc, if_true]
      rfl

end ObjectStore

/-- A call that changes a store: an overlay is put into it whatever was there, a write is made, or
an owner that is gone is collected. -/
inductive StoreChange where
  | seed (o : StoredOverlay)
  | write (w : Write)
  | collect (uid : String)

namespace StoreChange

def isSeed : StoreChange → Bool
  | seed _ => true
  | write _ | collect _ => false

/-- The owner that a change collects. -/
def collected : StoreChange → List String
  | collect uid => [uid]
  | seed _ | write _ => []

end StoreChange

namespace ObjectStore

variable {s : ObjectStore} {o : StoredOverlay} {owned : Table String NameSet}

def change (s : ObjectStore) : StoreChange → ObjectStore
  | .seed o => (s.seed o).2
  | .write w => (s.write w).2
  | .collect uid => (s.collectGarbage uid).2

def changes (s : ObjectStore) (cs : List StoreChange) : ObjectStore := cs.foldl change s

theorem changes_append (s : ObjectStore) (cs ds : List StoreChange) :
    s.changes (cs ++ ds) = (s.changes cs).changes ds :=
  List.foldl_append

/-! ## Every overlay is listed -/

/-- The index lists every overlay under each of its owners. -/
def Covered (s : ObjectStore) : Prop :=
  ∀ n o, s.get? n = some o → ∀ uid, o.OwnedBy uid → n ∈ s.ownedBy uid

theorem covered_put (h : s.Covered)
    (hkeep : ∀ uid n, n ≠ o.name → n ∈ s.ownedBy uid → lists owned uid n = true) :
    (s.put owned o).2.Covered := by
  intro n a ha uid hu
  refine mem_ownedBy_iff.2 ((lists_link owned _ uid n).2 ?_)
  rw [get?_put] at ha
  split at ha
  · rename_i hn
    cases ha
    exact .inr ⟨hn, hu⟩
  · rename_i hn
    exact .inl (hkeep uid n hn (h n a ha uid hu))

theorem covered_collectGarbage (h : s.Covered) (uid : String) :
    (s.collectGarbage uid).2.Covered := by
  intro n b hb uid' hu
  rw [get?_collectGarbage] at hb
  rw [mem_ownedBy_collectGarbage]
  split at hb
  · obtain ⟨a, ha, hb⟩ := Option.bind_eq_some_iff.1 hb
    obtain ⟨rfl, -⟩ := StoredOverlay.left?_eq_some_iff.1 hb
    obtain ⟨hu, hne⟩ := StoredOverlay.ownedBy_without.1 hu
    exact ⟨fun he => hne (he ▸ List.mem_singleton_self _), h n a ha uid' hu⟩
  · rename_i hn
    have hlisted := h n b hb uid' hu
    exact ⟨fun he => hn (he ▸ hlisted), hlisted⟩

theorem covered_change (h : s.Covered) (c : StoreChange) : (s.change c).Covered := by
  cases c with
  | seed o => exact covered_put h fun uid n _ => mem_ownedBy_iff.1
  | write w =>
    show (s.write w).2.Covered
    rcases s.write_cases w with ⟨-, e, heq⟩ | ⟨o, -, -, heq⟩ | ⟨o, a, -, -, -, heq⟩ |
      ⟨name, a, -, -, heq⟩ <;> rw [heq]
    · exact h
    · exact covered_put h fun uid n _ => mem_ownedBy_iff.1
    · exact covered_put h fun uid n hn hm => (lists_unlink ..).2 ⟨hn, mem_ownedBy_iff.1 hm⟩
    · intro n b hb uid hu
      replace hb := (s.objects.get?_erase_eq name n).symm.trans hb
      split at hb
      · cases hb
      · rename_i hn
        exact mem_ownedBy_iff.2 ((lists_unlink ..).2 ⟨hn, mem_ownedBy_iff.1 (h n b hb uid hu)⟩)
  | collect uid => exact covered_collectGarbage h uid

theorem covered_changes (cs : List StoreChange) : (empty.changes cs).Covered :=
  List.foldlRecOn cs change (motive := Covered) (fun _ _ ho => nomatch ho)
    fun _ h c _ => covered_change h c

/-! ## Nothing else is listed -/

/-- The index lists a name under an owner exactly if the overlay of that name has the owner, and
has no owner of nothing. -/
structure Indexed (s : ObjectStore) : Prop where
  listed_iff : ∀ uid n, n ∈ s.ownedBy uid ↔ ∃ o, s.get? n = some o ∧ o.OwnedBy uid
  filled : Filled s.owned

namespace Indexed

theorem empty : ObjectStore.empty.Indexed :=
  ⟨fun _ _ => ⟨fun h => absurd h List.not_mem_nil, fun ⟨_, ho, _⟩ => nomatch ho⟩, nofun⟩

theorem logged (h : s.Indexed) (v : WriteVerb) (name : String) : (s.logged v name).Indexed :=
  ⟨h.listed_iff, h.filled⟩

/-- What is put into a store is listed as it should be if the index that it is entered in lists the
other names as before. -/
theorem put (h : s.Indexed) (hfilled : Filled owned)
    (hothers : ∀ uid n, lists owned uid n = true ↔ n ≠ o.name ∧ n ∈ s.ownedBy uid) :
    (s.put owned o).2.Indexed := by
  refine ⟨fun uid n => ?_, filled_link hfilled _⟩
  rw [mem_ownedBy_iff, get?_put]
  refine (lists_link owned _ uid n).trans ?_
  rw [hothers, h.listed_iff]
  by_cases hn : n = o.name
  · simp only [hn, ne_eq, not_true_eq_false, false_and, true_and, false_or, if_true,
      Option.some.injEq, exists_eq_left']
  · simp only [hn, ne_eq, not_false_eq_true, true_and, false_and, or_false, if_false]

theorem collectGarbage (h : s.Indexed) (uid : String) : (s.collectGarbage uid).2.Indexed := by
  refine ⟨fun uid' n => ?_, fun uid' names hnames => ?_⟩
  · rw [mem_ownedBy_collectGarbage, get?_collectGarbage]
    split
    · constructor
      · rintro ⟨hne, hlisted⟩
        obtain ⟨a, ha, hu⟩ := (h.listed_iff uid' n).1 hlisted
        have hleft : (a.without [uid]).OwnedBy uid' :=
          StoredOverlay.ownedBy_without.2 ⟨hu, fun hm => hne (List.mem_singleton.1 hm)⟩
        refine ⟨a.without [uid], ?_, hleft⟩
        rw [ha, Option.bind_some, StoredOverlay.left?_eq_some_iff]
        obtain ⟨w, hw, -⟩ := hleft
        exact ⟨rfl, List.ne_nil_of_mem hw⟩
      · rintro ⟨b, hb, hu⟩
        obtain ⟨a, ha, hb⟩ := Option.bind_eq_some_iff.1 hb
        obtain ⟨rfl, -⟩ := StoredOverlay.left?_eq_some_iff.1 hb
        obtain ⟨hu, hne⟩ := StoredOverlay.ownedBy_without.1 hu
        exact ⟨fun he => hne (he ▸ List.mem_singleton_self _), (h.listed_iff uid' n).2 ⟨a, ha, hu⟩⟩
    · rename_i hn
      rw [h.listed_iff uid' n]
      refine ⟨fun hlisted => hlisted.2, fun hlisted => ⟨fun he => hn ?_, hlisted⟩⟩
      exact he ▸ (h.listed_iff uid' n).2 hlisted
  · have herase := s.owned.get?_erase_eq uid uid'
    rw [show s.owned.erase uid = (s.collectGarbage uid).2.owned from rfl, hnames] at herase
    split at herase
    · cases herase
    · exact h.filled uid' names herase.symm

/-- The index is given by the overlays. -/
theorem owned_eq {s' : ObjectStore} (h : s.Indexed) (h' : s'.Indexed)
    (hget : ∀ n, s.get? n = s'.get? n) : s.owned = s'.owned := by
  refine filled_ext h.filled h'.filled fun uid n => ?_
  rw [← mem_ownedBy_iff, ← mem_ownedBy_iff, h.listed_iff, h'.listed_iff, hget]

/-- Collecting an owner takes it out of every overlay, and leaves those that do not lose their last
owner. -/
theorem get?_collectGarbage_eq_some_iff (h : s.Indexed) {uid n : String} {b : StoredOverlay} :
    (s.collectGarbage uid).2.get? n = some b ↔ ∃ a, s.get? n = some a ∧
      b = a.without [uid] ∧ (a.OwnedBy uid → b.owners ≠ []) := by
  rw [get?_collectGarbage]
  split
  · rename_i hlisted
    obtain ⟨a, ha, howned⟩ := (h.listed_iff uid n).1 hlisted
    simp only [ha, Option.bind_some, StoredOverlay.left?_eq_some_iff, Option.some.injEq,
      exists_eq_left', howned, forall_const]
  · rename_i hno
    have hsame : ∀ a, s.get? n = some a → ¬ a.OwnedBy uid ∧ a.without [uid] = a := by
      intro a ha
      have howned : ¬ a.OwnedBy uid := fun hu => hno ((h.listed_iff uid n).2 ⟨a, ha, hu⟩)
      refine ⟨howned, StoredOverlay.without_eq_self_iff.2 fun u hu => ?_⟩
      exact List.mem_singleton.1 hu ▸ howned
    constructor
    · intro hb
      obtain ⟨howned, heq⟩ := hsame b hb
      exact ⟨b, hb, heq.symm, fun hu => absurd hu howned⟩
    · rintro ⟨a, ha, rfl, -⟩
      rwa [(hsame a ha).2]

/-- What is put where there was nothing is listed as it should be. -/
theorem put_free (h : s.Indexed) (hfree : s.get? o.name = none) :
    (s.put s.owned o).2.Indexed := by
  refine put h h.filled fun uid n => ?_
  rw [← mem_ownedBy_iff]
  refine ⟨fun hlisted => ⟨?_, hlisted⟩, fun hlisted => hlisted.2⟩
  rintro rfl
  obtain ⟨b, hb, -⟩ := (h.listed_iff uid o.name).1 hlisted
  cases hfree.symm.trans hb

/-- A change keeps the index exact, unless it may put an overlay over another. -/
theorem change (h : s.Indexed) {c : StoreChange} (hc : c.isSeed = false) :
    (s.change c).Indexed := by
  cases c with
  | seed o => cases hc
  | write w =>
    show (s.write w).2.Indexed
    rcases s.write_cases w with ⟨-, e, heq⟩ | ⟨o, -, hfree, heq⟩ | ⟨o, a, -, -, -, heq⟩ |
      ⟨name, a, -, -, heq⟩ <;> rw [heq]
    · exact h
    · exact (h.put_free hfree).logged _ _
    · refine logged (put h (filled_unlink _ _) fun uid n => ?_) _ _
      rw [lists_unlink, mem_ownedBy_iff]
    · refine logged ⟨fun uid n => ?_, filled_unlink _ _⟩ _ _
      rw [mem_ownedBy_iff, get?]
      simp only [dropped, lists_unlink, Table.get?_erase_eq]
      rw [← mem_ownedBy_iff, h.listed_iff, get?]
      by_cases hn : n = name
      · simp only [hn, ne_eq, not_true_eq_false, false_and, if_true, reduceCtorEq, exists_false]
      · simp only [hn, ne_eq, not_false_eq_true, true_and, if_false]
  | collect uid => exact h.collectGarbage uid

end Indexed

theorem indexed_changes {cs : List StoreChange} (h : ∀ c ∈ cs, c.isSeed = false) :
    (empty.changes cs).Indexed :=
  List.foldlRecOn cs change (motive := Indexed) .empty fun _ hs c hc => hs.change (h c hc)

/-- **The index.** After any writes and collections, refused or not, the index lists under a uid the
names of the overlays with an owner of that uid, ascending, and no uid without names; and every
overlay is kept under its own name and has a version. -/
theorem owners_indexed (cs : List StoreChange) (unseeded : ∀ c ∈ cs, c.isSeed = false) :
    let s := empty.changes cs
    (∀ uid, (s.ownedBy uid).Pairwise (· < ·) ∧
      ∀ n, n ∈ s.ownedBy uid ↔ ∃ o, s.get? n = some o ∧ ∃ w ∈ o.owners, w.uid = uid) ∧
    (∀ uid names, s.owned.get? uid = some names → names.isEmpty = false) ∧
    ∀ n o, s.get? n = some o → o.name = n ∧ ∃ k ≤ s.lastVersion,
      o.version = some (Decimal.natural k) := by
  intro s
  have h : s.Indexed := indexed_changes unseeded
  exact ⟨fun uid => ⟨s.ascending_ownedBy uid, h.listed_iff uid⟩, h.filled,
    fun n o ho => ⟨name_of_get? ho, s.filed.version ho⟩⟩

/-- An overlay with the owners of some uids. -/
def ownedOverlay (name : String) (uids : List String) : StoredOverlay :=
  ⟨name, ∅, uids.map (Owner.nodePool "general"), none, [.is "team" "batch"], 1, "-5%"⟩

/-- One overlay has an owner twice, one changes its owners, a create and a delete are refused, and
an owner is collected that leaves one of two overlays. -/
def sharedChanges : List StoreChange :=
  [.write (.create (ownedOverlay "b" ["uid-1", "uid-2"])),
    .write (.create (ownedOverlay "a" ["uid-1", "uid-1"])),
    .write (.create (ownedOverlay "a" ["uid-3"])),
    .write (.update { ownedOverlay "b" ["uid-2", "uid-1"] with version := some "1" }),
    .write (.create (ownedOverlay "c" ["uid-2"])),
    .write (.delete "d"),
    .collect "uid-1"]

theorem owners_indexed_shared :
    let s := empty.changes sharedChanges
    ((∀ c ∈ sharedChanges, c.isSeed = false) ∧ s.ownedBy "uid-2" = ["b", "c"] ∧
        s.ownedBy "uid-1" = [] ∧ s.objects.keys = ["b", "c"]) ∧
      ∀ n, n ∈ s.ownedBy "uid-2" ↔ ∃ o, s.get? n = some o ∧ ∃ w ∈ o.owners, w.uid = "uid-2" := by
  intro s
  have h := owners_indexed sharedChanges (by decide)
  exact ⟨by decide +kernel, (h.1 "uid-2").2⟩

end ObjectStore
end PriceOverlay
