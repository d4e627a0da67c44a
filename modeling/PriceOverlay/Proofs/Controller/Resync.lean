import PriceOverlay.Proofs.Controller.Isolation
import PriceOverlay.Proofs.Controller.Preferences
/-!
# Full listings repair any store

NodePools are brought in line one by one, and orphans go last. So in one listing a create may find
its name taken by a preference overlay that is marked for another NodePool or for none. But each
NodePool's pass clears what is marked for it and not wanted by it, and the orphans are what is
marked for no NodePool there is. After one listing every preference overlay is marked for the
NodePool that wants its name; from then on no name is in the way of another NodePool.

**Results**
* `placed_restarted`: one listing places every preference overlay that it leaves.
* `holds_appliedAll`: where all are placed, every pass gets its names and the later ones keep off.
* `restarted_twice_repairs`: two listings leave exactly what the NodePools ask for.
-/
namespace PriceOverlay.PreferenceController

variable {c : PreferenceController} {ps : List NodePool} {s s' : ObjectStore} {w : WantedCounts}

/-! ## Stores on the way -/

/-- No object other than a preference overlay has a name that a NodePool asks for. -/
def Unclaimed (c : PreferenceController) (ps : List NodePool) (s : ObjectStore) : Prop :=
  ∀ p ∈ ps, ∀ d ∈ c.rendering.nodePool p, ∀ o, s.get? d.name = some o →
    o.matchesSelector allPreferences.selector = true

/-- Every preference overlay is marked for a NodePool that asks for its name. -/
def Placed (c : PreferenceController) (ps : List NodePool) (s : ObjectStore) : Prop :=
  ∀ n o, s.get? n = some o → o.matchesSelector allPreferences.selector = true →
    ∃ p ∈ ps, o.matchesSelector (Scope.nodePool p.name).selector = true ∧
      ∃ d ∈ c.rendering.nodePool p, d.name = n

/-- An overlay is stored for a NodePool as it is wanted. -/
def Holds (c : PreferenceController) (p : NodePool) (d : Overlay) (s : ObjectStore) : Prop :=
  ∃ o, s.get? d.name = some o ∧ o.matchesSelector (Scope.nodePool p.name).selector = true ∧
    (c.reconciler.owned d).differs o = false

/-- The preference overlays are those that the NodePools ask for, each stored as it is wanted, with
the owner of the controller and without. -/
structure Repaired (c : PreferenceController) (ps : List NodePool) (s : ObjectStore) : Prop where
  names : ((s.list allPreferences.selector).map (·.name)).Perm
    ((ps.flatMap c.rendering.nodePool).map (·.name))
  held : ∀ d ∈ ps.flatMap c.rendering.nodePool, ∃ o ∈ s.list allPreferences.selector,
    o.name = d.name ∧ d.differs o = false ∧ (c.reconciler.owned d).differs o = false

theorem name_eq_of_matches {a b : String} {o : StoredOverlay}
    (ha : o.matchesSelector (Scope.nodePool a).selector = true)
    (hb : o.matchesSelector (Scope.nodePool b).selector = true) : a = b :=
  Option.some.inj (congrArg Scope.source (Scope.eq_of_matches rfl rfl ha hb))

theorem Unclaimed.of_confined (h : c.Unclaimed ps s)
    (hs : s.Confined (·.matchesSelector allPreferences.selector = true) s') :
    c.Unclaimed ps s' := by
  intro p hp d hd o ho
  rcases hs d.name with hsame | ⟨-, hnew⟩
  · exact h p hp d hd o (hsame ▸ ho)
  · exact hnew o ho

/-! ## One NodePool -/

/-- What is marked for a NodePool after its pass has a name that it asks for. -/
theorem wanted_applied {p : NodePool} {n : String} {o : StoredOverlay}
    (ho : (c.applied p .none w s).2.store.get? n = some o)
    (hm : o.matchesSelector (Scope.nodePool p.name).selector = true) :
    ∃ d ∈ c.rendering.nodePool p, d.name = n := by
  obtain ⟨d, hd, rfl⟩ := exists_first_of_stored ho hm
  exact Reconciler.exists_desired hd

theorem placed_applied (h : c.Placed ps s) {p : NodePool} (hp : p ∈ ps) :
    c.Placed ps (c.applied p .none w s).2.store := by
  intro n o ho hm
  by_cases hs : s.get? n = some o
  · exact h n o hs hm
  · have hmp := (confined_applied p .none w s).written ho hs
    exact ⟨p, hp, hmp, wanted_applied ho hmp⟩

/-- Where all are placed, a name that a NodePool asks for is free or already its own, so the pass
over the NodePool stores everything it wants. -/
theorem holds_applied (h : c.Placed ps s) (hu : c.Unclaimed ps s)
    (named : ∀ p ∈ ps, Name.isName p.name = true) {p : NodePool} (hp : p ∈ ps)
    (sound : ∀ d ∈ c.rendering.nodePool p, d.check = .ok ()) {d : Overlay}
    (hd : d ∈ c.rendering.nodePool p) : c.Holds p d (c.applied p .none w s).2.store := by
  have hlabelled : ∀ e ∈ c.rendering.nodePool p,
      e.toStored.matchesSelector (Scope.nodePool p.name).selector = true := fun e he =>
    (Rendering.matches_nodePool_iff he).2 ⟨rfl, fun source hs => (Option.some.inj hs).symm⟩
  have hfree : ∀ e ∈ c.rendering.nodePool p, ∀ o, s.get? e.name = some o →
      o.matchesSelector (Scope.nodePool p.name).selector = true := by
    intro e he o ho
    obtain ⟨q, hq, hmq, e', he', hn⟩ := h e.name o ho (hu p hp e he o ho)
    have hqp := Rendering.name_eq_of_mem_nodePool (named q hq) (named p hp) he' he hn
    exact hqp ▸ hmq
  have hfirsts : Overlay.firsts ((c.rendering.nodePool p).map c.reconciler.owned) =
      (c.rendering.nodePool p).map c.reconciler.owned := by
    refine Overlay.firsts_eq_self ?_
    rw [Reconciler.map_name_owned]
    exact Rendering.nodup_names_nodePool _ (named p hp)
  have hmem : c.reconciler.owned d ∈
      Overlay.firsts ((c.rendering.nodePool p).map c.reconciler.owned) := by
    rw [hfirsts]
    exact List.mem_map.2 ⟨d, hd, rfl⟩
  obtain ⟨o, ho, hm, hf, -⟩ := stored_of_first sound hlabelled hfree hmem
  rw [Reconciler.owned_name] at ho
  exact ⟨o, ho, hm, hf⟩

/-! ## One listing -/

section
variable (distinct : (ps.map (·.name)).Nodup)
include distinct

/-- What is marked for one of the NodePools after all their passes has a name that it asks for: its
own pass saw to that, and the others do not write what is marked for it. -/
theorem wanted_appliedAll {p : NodePool} (hp : p ∈ ps) {n : String} {o : StoredOverlay}
    (ho : (c.appliedAll .none w s ps).2.store.get? n = some o)
    (hm : o.matchesSelector (Scope.nodePool p.name).selector = true) :
    ∃ d ∈ c.rendering.nodePool p, d.name = n := by
  induction ps generalizing w s with
  | nil => cases hp
  | cons q rest ih =>
    simp only [List.map_cons, List.nodup_cons] at distinct
    rcases List.mem_cons.1 hp with rfl | hp
    · by_cases hs : (c.applied p .none w s).2.store.get? n = some o
      · exact wanted_applied hs hm
      · obtain ⟨q, hq, hmq⟩ := (confined_appliedAll .none rest _ _).written ho hs
        exact absurd (List.mem_map.2 ⟨q, hq, name_eq_of_matches hmq hm⟩) distinct.1
    · exact ih distinct.2 hp ho

/-- After a listing every preference overlay is placed, whatever the store was before. -/
theorem placed_restarted : c.Placed ps (c.restarted ps .none w s).2.store := by
  intro n o ho hm
  obtain ⟨ho, hkept⟩ := get?_orphans.1 ho
  have hno : isOrphan (ps.map (·.name)) o = false := by
    rw [← Bool.not_eq_true]
    exact fun h => hkept ⟨hm, h⟩
  unfold isOrphan at hno
  split at hno
  · rename_i source hsource
    obtain ⟨p, hp, rfl⟩ := List.mem_map.1 (by simpa using hno : source ∈ ps.map (·.name))
    obtain ⟨hmanaged, hkind, -⟩ := Scope.matches_selector_iff.1 hm
    have hmp : o.matchesSelector (Scope.nodePool p.name).selector = true :=
      Scope.matches_selector_iff.2 ⟨hmanaged, hkind, fun _ h => by cases h; exact hsource⟩
    exact ⟨p, hp, hmp, wanted_appliedAll distinct hp ho hmp⟩
  · cases hno

end

/-- Where all are placed, each of the NodePools gets what it asks for and keeps it while the others
get theirs. -/
theorem holds_appliedAll (named : ∀ p ∈ ps, Name.isName p.name = true)
    (sound : ∀ p ∈ ps, ∀ d ∈ c.rendering.nodePool p, d.check = .ok ()) {qs : List NodePool}
    (hqs : ∀ q ∈ qs, q ∈ ps) (distinct : (qs.map (·.name)).Nodup) (h : c.Placed ps s)
    (hu : c.Unclaimed ps s) :
    ∀ p ∈ qs, ∀ d ∈ c.rendering.nodePool p, c.Holds p d (c.appliedAll .none w s qs).2.store := by
  induction qs generalizing w s with
  | nil => exact fun _ => nofun
  | cons q rest ih =>
    simp only [List.map_cons, List.nodup_cons] at distinct
    simp only [List.forall_mem_cons] at hqs
    intro p hp d hd
    rcases List.mem_cons.1 hp with rfl | hp
    · obtain ⟨o, ho, hm, hf⟩ := holds_applied h hu named hqs.1 (sound p hqs.1) hd
      refine ⟨o, (confined_appliedAll .none rest _ _).stays ho ?_, hm, hf⟩
      rintro ⟨q, hq, hmq⟩
      exact distinct.1 (List.mem_map.2 ⟨q, hq, name_eq_of_matches hmq hm⟩)
    · have hu' : c.Unclaimed ps (c.applied q .none w s).2.store :=
        hu.of_confined ((confined_applied q .none w s).mono fun _ => matches_allPreferences)
      exact ih hqs.2 distinct.2 (placed_applied h hqs.1) hu' p hp d hd

/-- A listing from a store where all are placed. -/
theorem holds_restarted (named : ∀ p ∈ ps, Name.isName p.name = true)
    (sound : ∀ p ∈ ps, ∀ d ∈ c.rendering.nodePool p, d.check = .ok ())
    (distinct : (ps.map (·.name)).Nodup) (h : c.Placed ps s) (hu : c.Unclaimed ps s) :
    ∀ p ∈ ps, ∀ d ∈ c.rendering.nodePool p, c.Holds p d (c.restarted ps .none w s).2.store := by
  intro p hp d hd
  obtain ⟨o, ho, hm, hf⟩ :=
    holds_appliedAll named sound (fun _ hq => hq) distinct h hu p hp d hd
  have hsource := (Scope.matches_selector_iff.1 hm).2.2 p.name rfl
  refine ⟨o, get?_orphans.2 ⟨ho, fun horphan => ?_⟩, hm, hf⟩
  exact (isOrphan_iff hsource).1 horphan.2 (List.mem_map.2 ⟨p, hp, rfl⟩)

/-! ## Two listings -/

theorem repaired_of_placed (named : ∀ p ∈ ps, Name.isName p.name = true)
    (distinct : (ps.map (·.name)).Nodup) (h : c.Placed ps s)
    (hh : ∀ p ∈ ps, ∀ d ∈ c.rendering.nodePool p, c.Holds p d s) : c.Repaired ps s := by
  have hheld : ∀ p ∈ ps, ∀ d ∈ c.rendering.nodePool p, ∃ o ∈ s.list allPreferences.selector,
      o.name = d.name ∧ (c.reconciler.owned d).differs o = false := by
    intro p hp d hd
    obtain ⟨o, ho, hm, hf⟩ := hh p hp d hd
    have hn := ObjectStore.name_of_get? ho
    exact ⟨o, ObjectStore.mem_list_iff.2 ⟨hn.symm ▸ ho, matches_allPreferences hm⟩, hn, hf⟩
  constructor
  · refine (List.perm_ext_iff_of_nodup (ObjectStore.nodup_names_list _ _)
      (Rendering.nodup_names_nodePools _ named distinct)).2 fun n => ?_
    simp only [List.mem_map, List.mem_flatMap]
    constructor
    · rintro ⟨o, ho, rfl⟩
      obtain ⟨ho, hm⟩ := ObjectStore.mem_list_iff.1 ho
      obtain ⟨p, hp, -, d, hd, hn⟩ := h _ o ho hm
      exact ⟨d, ⟨p, hp, hd⟩, hn⟩
    · rintro ⟨d, ⟨p, hp, hd⟩, rfl⟩
      obtain ⟨o, ho, hn, -⟩ := hheld p hp d hd
      exact ⟨o, ho, hn⟩
  · intro d hd
    obtain ⟨p, hp, hd⟩ := List.mem_flatMap.1 hd
    obtain ⟨o, ho, hn, hf⟩ := hheld p hp d hd
    have hrealizes : Realizes c.reconciler d none o := realizes_of_not_differs hf nofun
    exact ⟨o, ho, hn, hrealizes.not_differs, hf⟩

/-- **Repair.** Whatever the preference overlays of a store have become, two listings of the same
NodePools leave exactly what the NodePools ask for, as long as no other object has one of the names
asked for. -/
theorem restarted_twice_repairs (c : PreferenceController) (ps : List NodePool) (s : ObjectStore)
    (w : WantedCounts) (named : ∀ p ∈ ps, Name.isName p.name = true)
    (distinct : (ps.map (·.name)).Nodup)
    (sound : ∀ p ∈ ps, ∀ d ∈ c.rendering.nodePool p, d.check = .ok ())
    (unclaimed : c.Unclaimed ps s) :
    c.Repaired ps ([.restarted ps, .restarted ps].foldl c.step (w, s)).2 := by
  let once := c.handle (.restarted ps) .none w s
  have hplaced : c.Placed ps once.2.store := placed_restarted distinct
  have hunclaimed : c.Unclaimed ps once.2.store :=
    unclaimed.of_confined (confined_restarted ps .none w s)
  exact repaired_of_placed named distinct (placed_restarted distinct)
    (holds_restarted named sound distinct hplaced hunclaimed)

/-- Two NodePools with a preference each. -/
def swappedPools : List NodePool :=
  [preferring "general" "uid-1" "1" "karpenter.k8s.aws/instance-family=m7i adjust=-10%",
    preferring "batch" "uid-2" "1" "kubernetes.io/arch=arm64 adjust=+5%"]

/-- A store in which each of their overlays is marked for the other, beside a preference overlay
that is marked for none. -/
def swappedStore : ObjectStore :=
  let marked (name source : String) : StoredOverlay :=
    { (Rendering.preference {} ⟨1, source, [], ⟨0⟩⟩).toStored with name }
  let stray := marked "stray" "general"
  let s := (ObjectStore.empty.seed (marked "general-preference-1" "batch")).2
  let s := (s.seed (marked "batch-preference-1" "general")).2
  (s.seed { stray with labels := stray.labels.erase Label.source }).2

theorem restarted_twice_repairs_swapped :
    let once := step {} (∅, swappedStore) (.restarted swappedPools)
    once.2.objects.keys = ["batch-preference-1"] ∧
      Repaired {} swappedPools (step {} once (.restarted swappedPools)).2 :=
  ⟨by decide +kernel, restarted_twice_repairs {} swappedPools swappedStore ∅ (by decide)
    (by decide) (by decide +kernel) (by
      show ∀ p ∈ swappedPools, ∀ d ∈ Rendering.nodePool {} p, ∀ o ∈ swappedStore.get? d.name, _
      decide +kernel)⟩

end PriceOverlay.PreferenceController
