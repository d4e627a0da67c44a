import PriceOverlay.Controller.Preferences
import PriceOverlay.Proofs.Overlay.Rendering
import PriceOverlay.Proofs.Reconcile.Divided
/-!
# The overlays of NodePools over a run

A run starts from an empty store and handles events without faults. The store divides among
the NodePools by name: the share of a live one is what it asked for when it was last seen, and
every other share is empty.

**Results**
* `divided_handle`: one event keeps the store divided among the live NodePools.
* `run_stores_live`: after any events the store has what the live NodePools ask for, and
  nothing else.
-/
namespace PriceOverlay

/-! ## Live NodePools -/

namespace NodePoolEvent

/-- The NodePools that an event shows. -/
def seen : NodePoolEvent → List NodePool
  | applied p => [p]
  | deleted _ => []
  | restarted ps => ps

/-- The live NodePools after one more event. -/
def track (live : Table String NodePool) : NodePoolEvent → Table String NodePool
  | applied p => live.insert p.name p
  | deleted p => live.erase p.name
  | restarted ps => Table.ofList (ps.map fun p => (p.name, p))

/-- The live NodePools after events, each as it was last seen. -/
def live (events : List NodePoolEvent) : Table String NodePool := events.foldl track ∅

end NodePoolEvent

namespace PreferenceController

variable {c : PreferenceController} {live : Table String NodePool} {s : ObjectStore}

/-- The counts and the store after one more event without faults. -/
def step (c : PreferenceController) (x : WantedCounts × ObjectStore) (e : NodePoolEvent) :
    WantedCounts × ObjectStore :=
  let done := c.handle e .none x.1 x.2
  (done.1, done.2.store)

/-- The counts and the store after events, from an empty store. -/
def run (c : PreferenceController) (events : List NodePoolEvent) : WantedCounts × ObjectStore :=
  events.foldl c.step (∅, .empty)

/-- An overlay as the controller stores it, apart from the version: its owner joins in. -/
def stored (c : PreferenceController) (d : Overlay) : StoredOverlay :=
  { d.toStored with owners := d.owners ++ c.reconciler.owner.toList }

/-- What a cluster grants: NodePools have object names and uids of their own. And every overlay
that the NodePool asks for may be written. -/
structure Admits (c : PreferenceController) (p : NodePool) : Prop where
  name : Name.isName p.name = true
  uid : ∃ uid, p.uid = some uid ∧ ∀ w, c.reconciler.owner = some w → w.uid ≠ uid
  sound : ∀ d ∈ c.rendering.nodePool p, d.check = .ok ()

/-! ## The share of a NodePool -/

/-- What the NodePool of a name asks for. -/
def share (c : PreferenceController) (live : Table String NodePool) (n : String) : List Overlay :=
  match live.get? n with
  | some p => (c.rendering.nodePool p).map c.reconciler.owned
  | none => []

theorem mem_share {n : String} {d : Overlay} : d ∈ c.share live n ↔
    ∃ p, live.get? n = some p ∧ d ∈ (c.rendering.nodePool p).map c.reconciler.owned := by
  unfold share
  split
  · rename_i p hp
    simp [hp]
  · rename_i hp
    simp [hp]

/-- The live NodePools are kept under their names, and the controller admits them. -/
def Tracked (c : PreferenceController) (live : Table String NodePool) : Prop :=
  ∀ n p, live.get? n = some p → p.name = n ∧ c.Admits p

/-- The overlay for a preference of a NodePool with a uid, as the controller stores it. -/
def asked (c : PreferenceController) (uid : String) (q : Preference) : Overlay :=
  { c.rendering.preference q with
    owners := .nodePool q.nodePool uid :: c.reconciler.owner.toList }

theorem name_asked (c : PreferenceController) (uid : String) (q : Preference) :
    (c.asked uid q).name = preferenceOverlayName q.nodePool q.number :=
  Rendering.name_preference _ _

/-- The owner of the controller is not the NodePool, so it joins the NodePool as an owner. -/
theorem owned_eq {p : NodePool} (hp : c.Admits p) {d : Overlay} (hd : d ∈ c.rendering.nodePool p) :
    c.reconciler.owned d = { d with owners := d.owners ++ c.reconciler.owner.toList } := by
  obtain ⟨uid, hu, hne⟩ := hp.uid
  rw [Rendering.nodePool_eq_map hu] at hd
  obtain ⟨q, -, rfl⟩ := List.mem_map.1 hd
  refine Reconciler.owned_eq_of_apart fun w hw a ha => ?_
  rw [List.mem_singleton.1 ha]
  exact (hne w hw).symm

theorem exists_of_mem_owned {p : NodePool} (hp : c.Admits p) {d : Overlay}
    (hd : d ∈ (c.rendering.nodePool p).map c.reconciler.owned) :
    ∃ q uid, q.nodePool = p.name ∧ p.uid = some uid ∧ d = c.asked uid q := by
  obtain ⟨uid, hu, -⟩ := hp.uid
  obtain ⟨e, he, rfl⟩ := List.mem_map.1 hd
  rw [owned_eq hp he]
  rw [Rendering.nodePool_eq_map hu] at he
  obtain ⟨q, hq, rfl⟩ := List.mem_map.1 he
  have hn := NodePool.nodePool_of_declared hq
  exact ⟨q, uid, hn, hu, by rw [asked, hn]; rfl⟩

/-- The scopes that an overlay of a share belongs to. -/
theorem matches_share_iff (ht : c.Tracked live) {n : String} {d : Overlay} (hd : d ∈ c.share live n)
    {scope : Scope} : d.toStored.matchesSelector scope.selector = true ↔
      scope.kind = .preference ∧ ∀ source, scope.source = some source → source = n := by
  obtain ⟨p, hp, hd⟩ := mem_share.1 hd
  obtain ⟨e, he, rfl⟩ := List.mem_map.1 hd
  rw [← (ht n p hp).1, ← Rendering.matches_nodePool_iff he, StoredOverlay.matchesSelector_iff,
    StoredOverlay.matchesSelector_iff]
  simp only [Overlay.toStored, Reconciler.owned_labels]

theorem marked_share (ht : c.Tracked live) (i : String) : ∀ n, ∀ d ∈ c.share live n,
    d.toStored.matchesSelector (Scope.nodePool i).selector = true ↔ n = i := by
  intro n d hd
  rw [matches_share_iff ht hd]
  simp only [Scope.nodePool, Option.some.injEq, forall_eq', true_and]
  exact eq_comm

/-- A NodePool may take over the share of its name. -/
theorem follows_share (ht : c.Tracked live) {p : NodePool} (hp : c.Admits p) :
    Follows (.nodePool p.name) (c.share live) p.name
      ((c.rendering.nodePool p).map c.reconciler.owned) := by
  have hsame : ∀ n, ∀ e ∈ c.share live n, ∀ d ∈ (c.rendering.nodePool p).map c.reconciler.owned,
      e.name = d.name → ∃ q q' uid uid', q'.nodePool = n ∧ q'.nodePool = q.nodePool ∧
        q'.number = q.number ∧ q.nodePool = p.name ∧ p.uid = some uid ∧
        e = c.asked uid' q' ∧ d = c.asked uid q := by
    intro n e he d hd hed
    obtain ⟨p', hp', he'⟩ := mem_share.1 he
    obtain ⟨rfl, hadm⟩ := ht n p' hp'
    obtain ⟨q', uid', hq', -, rfl⟩ := exists_of_mem_owned hadm he'
    obtain ⟨q, uid, hq, hu, rfl⟩ := exists_of_mem_owned hp hd
    rw [name_asked, name_asked] at hed
    obtain ⟨hpool, hnumber⟩ :=
      preferenceOverlayName_injective (hq' ▸ hadm.name) (hq ▸ hp.name) hed
    exact ⟨q, q', uid, uid', hq', hpool, hnumber, hq, hu, rfl, rfl⟩
  refine ⟨Reconciler.sound_owned hp.sound, marked_share ht _, ?_, ?_, ?_⟩
  · intro n e he d hd hed
    obtain ⟨q, q', -, -, hn, hpool, -, hq, -, -, -⟩ := hsame n e he d hd hed
    rw [← hn, hpool, hq]
  · intro e he d hd hed
    obtain ⟨q, q', uid, uid', -, hpool, hnumber, -, -, rfl, rfl⟩ := hsame _ e he d hd hed
    exact Rendering.labels_preference_eq _ hpool hnumber
  · intro e he d hd hed hdiffers
    obtain ⟨q, q', uid, uid', -, hpool, -, -, hu, rfl, rfl⟩ := hsame _ e he d hd hed
    obtain ⟨-, -, -, -, howners⟩ := Overlay.differs_eq_false_iff.1 hdiffers
    -- the uid of the NodePool has to be there, and no other owner has it
    obtain ⟨a, ha, hau⟩ := howners (.nodePool q.nodePool uid) (List.mem_cons_self ..)
    rcases List.mem_cons.1 ha with rfl | ha
    · have huid : uid' = uid := hau
      simp only [asked, hpool, huid]
    · obtain ⟨u, hu', hne⟩ := hp.uid
      rw [hu] at hu'
      cases hu'
      exact absurd hau (hne a (Option.mem_toList.1 ha))

/-! ## One event -/

theorem tracked_empty : c.Tracked ∅ := by
  intro n p h
  cases h

theorem tracked_insert (ht : c.Tracked live) {p : NodePool} (hp : c.Admits p) :
    c.Tracked (live.insert p.name p) := by
  intro n q hq
  rw [Table.get?_insert_eq] at hq
  split at hq
  · rename_i hn
    cases hq
    exact ⟨hn.symm, hp⟩
  · exact ht n q hq

theorem tracked_erase (ht : c.Tracked live) (name : String) : c.Tracked (live.erase name) := by
  intro n q hq
  rw [Table.get?_erase_eq] at hq
  split at hq
  · cases hq
  · exact ht n q hq

theorem divided_applied (ht : c.Tracked live) (h : Divided (c.share live) s) {p : NodePool}
    (hp : c.Admits p) (w : WantedCounts) :
    Divided (c.share (live.insert p.name p)) (c.applied p .none w s).2.store := by
  have hshare : c.share (live.insert p.name p) = Function.update (c.share live) p.name
      (Overlay.firsts ((c.rendering.nodePool p).map c.reconciler.owned)) := by
    have hn := Rendering.nodup_names_nodePool c.rendering hp.name
    rw [Overlay.firsts_eq_self (by rwa [Reconciler.map_name_owned])]
    funext n
    unfold share
    rw [Table.get?_insert_eq]
    by_cases hpn : n = p.name
    · rw [if_pos hpn, hpn, Function.update_self]
    · rw [if_neg hpn, Function.update_of_ne hpn]
  rw [hshare]
  exact h.pass (follows_share ht hp)

theorem divided_deleted (ht : c.Tracked live) (h : Divided (c.share live) s) (name : String)
    (w : WantedCounts) :
    Divided (c.share (live.erase name)) (c.deleted name .none w s).2.store := by
  have hshare : c.share (live.erase name) = Function.update (c.share live) name
      (Overlay.firsts ([].map c.reconciler.owned)) := by
    funext n
    unfold share
    rw [Table.get?_erase_eq]
    by_cases hn : n = name
    · rw [if_pos hn, hn, Function.update_self]
      rfl
    · rw [if_neg hn, Function.update_of_ne hn]
  rw [hshare]
  exact h.pass ⟨nofun, marked_share ht name, nofun, nofun, nofun⟩

/-- The live NodePools after a list of them was applied. -/
def applyAll (live : Table String NodePool) (ps : List NodePool) : Table String NodePool :=
  ps.foldl (fun t p => t.insert p.name p) live

theorem tracked_applyAll (ht : c.Tracked live) {ps : List NodePool}
    (hps : ∀ p ∈ ps, c.Admits p) : c.Tracked (applyAll live ps) := by
  induction ps generalizing live with
  | nil => exact ht
  | cons p r ih =>
    simp only [List.forall_mem_cons] at hps
    exact ih (tracked_insert ht hps.1) hps.2

theorem divided_appliedAll (ht : c.Tracked live) (h : Divided (c.share live) s)
    {ps : List NodePool} (hps : ∀ p ∈ ps, c.Admits p) (w : WantedCounts) :
    Divided (c.share (applyAll live ps)) (c.appliedAll .none w s ps).2.store := by
  induction ps generalizing live s w with
  | nil => exact h
  | cons p r ih =>
    simp only [List.forall_mem_cons] at hps
    exact ih (tracked_insert ht hps.1) (divided_applied ht h hps.1 w) hps.2 _

/-- The source label of an overlay of a share names the NodePool. -/
theorem source_of_content (ht : c.Tracked live) {n : String} {d : Overlay} {o : StoredOverlay}
    (hd : d ∈ c.share live n) (ho : o.content = d.toStored) :
    o.matchesSelector allPreferences.selector = true ∧ o.labels.get? Label.source = some n := by
  have hm : ∀ scope : Scope, o.matchesSelector scope.selector = true ↔
      scope.kind = .preference ∧ ∀ source, scope.source = some source → source = n := by
    intro scope
    rw [StoredOverlay.matchesSelector_of_content ho, matches_share_iff ht hd]
  refine ⟨(hm allPreferences).2 ⟨rfl, nofun⟩, ?_⟩
  have hn := (hm (.nodePool n)).2 ⟨rfl, fun source h => by cases h; rfl⟩
  exact (Scope.matches_selector_iff.1 hn).2.2 n rfl

/-- Removing orphans empties the shares of the NodePools that are gone. -/
theorem get?_orphans {names : List String} {n : String} {o : StoredOverlay} :
    (orphans names .none s).store.get? n = some o ↔ s.get? n = some o ∧
      ¬ (o.matchesSelector allPreferences.selector = true ∧ isOrphan names o = true) := by
  have hn : (((s.list allPreferences.selector).filter (isOrphan names)).map (·.name)).Nodup :=
    (List.filter_sublist.map _).nodup (s.nodup_names_list _)
  have hs : ∀ o ∈ (s.list allPreferences.selector).filter (isOrphan names),
      s.get? o.name = some o := fun o ho =>
    (ObjectStore.mem_list_iff.1 (List.mem_filter.1 ho).1).1
  refine (Plan.get?_deleting hn hs).trans (and_congr_right fun ho => not_congr ?_)
  rw [List.mem_filter, ObjectStore.mem_list_iff, ObjectStore.name_of_get? ho]
  exact ⟨fun h => ⟨h.1.2, h.2⟩, fun h => ⟨⟨ho, h.1⟩, h.2⟩⟩

theorem get?_applyAll {ps : List NodePool} (hn : (ps.map (·.name)).Nodup)
    (live : Table String NodePool) (n : String) : (applyAll live ps).get? n =
      (Table.find n (ps.map fun p => (p.name, p))).or (live.get? n) := by
  have hk : ((ps.map fun p => (p.name, p)).map (·.1)).Nodup := by rwa [List.map_map]
  rw [← Table.get?_foldl_insert hk, List.foldl_map]
  rfl

/-- Under a listed name it does not matter what was live before the listing. -/
theorem share_applyAll_of_mem {ps : List NodePool} (hn : (ps.map (·.name)).Nodup) {n : String}
    (hm : n ∈ ps.map (·.name)) (live : Table String NodePool) :
    c.share (applyAll ∅ ps) n = c.share (applyAll live ps) n := by
  obtain ⟨p, hp, rfl⟩ := List.mem_map.1 hm
  have hfind : Table.find p.name (ps.map fun p => (p.name, p)) = some p :=
    (Table.find_eq_some_iff_mem (by rwa [List.map_map])).2 (List.mem_map.2 ⟨p, hp, rfl⟩)
  unfold share
  rw [get?_applyAll hn, get?_applyAll hn, hfind, Option.some_or, Option.some_or]

theorem share_applyAll_of_not_mem {ps : List NodePool} (hn : (ps.map (·.name)).Nodup) {n : String}
    (hm : n ∉ ps.map (·.name)) : c.share (applyAll ∅ ps) n = [] := by
  unfold share
  rw [get?_applyAll hn, Table.find_eq_none (by rwa [List.map_map])]
  rfl

/-- The overlay of a NodePool is an orphan unless the NodePool is listed. -/
theorem isOrphan_iff {names : List String} {o : StoredOverlay} {n : String}
    (h : o.labels.get? Label.source = some n) : isOrphan names o = true ↔ n ∉ names := by
  simp [isOrphan, h]

theorem divided_restarted (ht : c.Tracked live) (h : Divided (c.share live) s)
    {ps : List NodePool} (hps : ∀ p ∈ ps, c.Admits p) (hn : (ps.map (·.name)).Nodup)
    (w : WantedCounts) :
    Divided (c.share (applyAll ∅ ps)) (c.restarted ps .none w s).2.store := by
  have ht' := tracked_applyAll ht hps
  have h' := divided_appliedAll ht h hps w
  constructor
  · intro n o ho
    obtain ⟨ho, hkept⟩ := get?_orphans.1 ho
    obtain ⟨j, d, hd, hdn, hc⟩ := h'.stored ho
    obtain ⟨hm, hsource⟩ := source_of_content ht' hd hc
    have hj : j ∈ ps.map (·.name) := by
      by_contra hj
      exact hkept ⟨hm, (isOrphan_iff hsource).2 hj⟩
    exact ⟨j, d, share_applyAll_of_mem hn hj live ▸ hd, hdn, hc⟩
  · intro j d hd
    have hj : j ∈ ps.map (·.name) := by
      by_contra hj
      rw [share_applyAll_of_not_mem hn hj] at hd
      cases hd
    rw [share_applyAll_of_mem hn hj live] at hd
    obtain ⟨o, ho, hc⟩ := h'.present hd
    obtain ⟨-, hsource⟩ := source_of_content ht' hd hc
    exact ⟨o, get?_orphans.2 ⟨ho, fun hk => (isOrphan_iff hsource).1 hk.2 hj⟩, hc⟩

theorem track_restarted (live : Table String NodePool) (ps : List NodePool) :
    (NodePoolEvent.restarted ps).track live = applyAll ∅ ps := by
  rw [NodePoolEvent.track, Table.ofList, List.foldl_map]
  rfl

/-- One event keeps the store divided among the live NodePools. -/
theorem divided_handle (ht : c.Tracked live) (h : Divided (c.share live) s) {e : NodePoolEvent}
    (he : ∀ p ∈ e.seen, c.Admits p) (hn : (e.seen.map (·.name)).Nodup) (w : WantedCounts) :
    c.Tracked (e.track live) ∧ Divided (c.share (e.track live)) (c.handle e .none w s).2.store := by
  cases e with
  | applied p =>
    have hp := he p (List.mem_singleton.2 rfl)
    exact ⟨tracked_insert ht hp, divided_applied ht h hp w⟩
  | deleted p => exact ⟨tracked_erase ht p.name, divided_deleted ht h p.name w⟩
  | restarted ps =>
    rw [track_restarted]
    exact ⟨tracked_applyAll tracked_empty he, divided_restarted ht h he hn w⟩

/-! ## Runs -/

theorem divided_run {events : List NodePoolEvent}
    (admitted : ∀ e ∈ events, ∀ p ∈ e.seen, c.Admits p)
    (distinct : ∀ e ∈ events, (e.seen.map (·.name)).Nodup) :
    c.Tracked (NodePoolEvent.live events) ∧
      Divided (c.share (NodePoolEvent.live events)) (c.run events).2 := by
  have hempty : c.Tracked ∅ ∧ Divided (c.share ∅) .empty := ⟨tracked_empty, Divided.empty⟩
  -- by induction on the events, what is live and the state taking each step together
  refine List.foldl_rel (r := fun live (x : WantedCounts × ObjectStore) =>
    c.Tracked live ∧ Divided (c.share live) x.2) hempty ?_
  intro e he live x ⟨ht, h⟩
  exact divided_handle ht h (admitted e he) (distinct e he) x.1

/-- What the live NodePools ask for has distinct names. -/
theorem nodup_names_live (ht : c.Tracked live) :
    ((live.values.flatMap fun p => (c.rendering.nodePool p).map c.stored).map (·.name)).Nodup := by
  have hnames : ∀ p : NodePool, ((c.rendering.nodePool p).map c.stored).map (·.name) =
      (c.rendering.nodePool p).map (·.name) := fun p => List.map_map
  have hadm : ∀ p ∈ live.values, c.Admits p := by
    intro p hp
    obtain ⟨n, hn⟩ := Table.mem_values_iff.1 hp
    exact (ht n p hn).2
  have hkeys : live.values.map (·.name) = live.keys := by
    rw [Table.values, Table.keys, List.map_map]
    exact List.map_congr_left fun e he => (ht e.1 e.2 (Table.get?_eq_some_iff.2 he)).1
  have hdistinct : (live.values.map (·.name)).Nodup := hkeys ▸ live.nodup_keys
  have hsame : (live.values.flatMap fun p => (c.rendering.nodePool p).map c.stored).map (·.name) =
      (live.values.flatMap c.rendering.nodePool).map (·.name) := by
    rw [List.map_flatMap, List.map_flatMap]
    simp only [hnames]
  rw [hsame]
  exact Rendering.nodup_names_nodePools _ (fun p hp => (hadm p hp).name) hdistinct

/-- **Events drive reconciliation.** After any events the stored overlays are, apart from their
versions, those that the live NodePools ask for, each as it was last seen. -/
theorem run_stores_live (c : PreferenceController) (events : List NodePoolEvent)
    (admitted : ∀ e ∈ events, ∀ p ∈ e.seen, c.Admits p)
    (distinct : ∀ e ∈ events, (e.seen.map (·.name)).Nodup) :
    ((c.run events).2.objects.values.map (·.content)).Perm
      ((NodePoolEvent.live events).values.flatMap fun p =>
        (c.rendering.nodePool p).map c.stored) := by
  obtain ⟨ht, h⟩ := divided_run admitted distinct
  have hstored : ((c.run events).2.objects.values.map (·.content)).Nodup := by
    refine List.Nodup.of_map (·.name) ?_
    rw [List.map_map]
    exact (ObjectStore.map_name_values _).symm ▸ Table.nodup_keys _
  refine (List.perm_ext_iff_of_nodup hstored (.of_map _ (nodup_names_live ht))).2 fun o => ?_
  simp only [List.mem_map, List.mem_flatMap]
  constructor
  · rintro ⟨a, ha, rfl⟩
    obtain ⟨n, d, hd, -, hc⟩ := h.stored (ObjectStore.mem_values_iff.1 ha)
    obtain ⟨p, hp, hd⟩ := mem_share.1 hd
    obtain ⟨e, he, rfl⟩ := List.mem_map.1 hd
    refine ⟨p, Table.mem_values_iff.2 ⟨n, hp⟩, e, he, ?_⟩
    rw [hc, owned_eq (ht n p hp).2 he]
    rfl
  · rintro ⟨p, hp, e, he, rfl⟩
    obtain ⟨n, hp⟩ := Table.mem_values_iff.1 hp
    have hadm := (ht n p hp).2
    obtain ⟨a, ha, hc⟩ := h.present (mem_share.2 ⟨p, hp, List.mem_map.2 ⟨e, he, rfl⟩⟩)
    refine ⟨a, Table.mem_values_iff.2 ⟨_, ha⟩, ?_⟩
    rw [hc, owned_eq hadm he]
    rfl

/-- A NodePool with one preference. -/
def preferring (name uid number value : String) : NodePool :=
  ⟨name, some uid, (∅ : Annotations).insert (annotationStart ++ number) value⟩

/-- Two NodePools come; a listing then has only the first, with another preference. -/
def relisting : List NodePoolEvent :=
  [.applied (preferring "general" "uid-1" "1" "karpenter.k8s.aws/instance-family=m7i adjust=-10%"),
    .applied (preferring "batch" "uid-2" "1" "kubernetes.io/arch=arm64 adjust=+5%"),
    .restarted [preferring "general" "uid-1" "2" "kubernetes.io/os=linux adjust=-20%"]]

theorem run_stores_live_relisting :
    let c : PreferenceController := { reconciler := ⟨some (.deployment "controller" "uid-0")⟩ }
    ((c.run relisting).2.objects.values.map (·.content)).Perm
        ((NodePoolEvent.live relisting).values.flatMap fun p =>
          (c.rendering.nodePool p).map c.stored) ∧
      (NodePoolEvent.live relisting).keys = ["general"] := by
  refine ⟨run_stores_live _ relisting ?_ (by decide), by decide +kernel⟩
  have hall : ∀ {p : NodePool} {uid : String}, p.uid = some uid → uid ≠ "uid-0" →
      Name.isName p.name = true → (∀ d ∈ Rendering.nodePool {} p, d.check = .ok ()) →
      Admits { reconciler := ⟨some (.deployment "controller" "uid-0")⟩ } p := fun hu hne hn hs =>
    ⟨hn, ⟨_, hu, fun w hw => by cases hw; exact hne.symm⟩, hs⟩
  intro e he p hp
  simp only [relisting, List.mem_cons, List.not_mem_nil, or_false] at he
  rcases he with rfl | rfl | rfl <;> cases List.mem_singleton.1 hp <;>
    exact hall rfl (by decide) (by decide) (by decide +kernel)

end PreferenceController
end PriceOverlay
