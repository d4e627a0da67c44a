import Mathlib.Data.List.Dedup
import PriceOverlay.Overlay.Rendering
import PriceOverlay.Proofs.Reconcile.Pass
/-!
# One pass converges

Sound overlays that carry the labels of their scope, under names that nothing outside the
scope has, are all in place after one pass without faults, and a second pass finds nothing
to do.

**Results**
* `differs_replacing`, `differs_toStored`: what a pass writes does not differ from what it wants.
* `errors_apply`: such a pass has no errors.
* `pass_converges`: what the pass leaves, inside and outside the scope, and the second pass.
-/
namespace PriceOverlay

/-! ## What differs -/

namespace Overlay

theorem differs_toStored (d : Overlay) (v : Option String) :
    d.differs { d.toStored with version := v } = false :=
  differs_eq_false_iff.2 ⟨rfl, rfl, rfl, fun _ _ h => h, fun w hw => ⟨w, hw, rfl⟩⟩

theorem differs_replacing (d : Overlay) (o : StoredOverlay) (v : Option String) :
    d.differs { d.replacing o with version := v } = false := by
  refine differs_eq_false_iff.2 ⟨rfl, rfl, rfl, fun k a h => ?_, fun w hw => ⟨w, hw, rfl⟩⟩
  exact (get?_labels_replacing d o k).trans (by rw [h, Option.some_or])

end Overlay

theorem Reconciler.mem_owned {r : Reconciler} {d : Overlay} {w : Owner} (h : w ∈ d.owners) :
    w ∈ (r.owned d).owners := by
  unfold owned
  split
  · exact h
  · split
    · exact h
    · exact List.mem_append_left _ h

theorem Reconciler.owner_mem_owned {r : Reconciler} (d : Overlay) {w : Owner}
    (h : r.owner = some w) : ∃ a ∈ (r.owned d).owners, a.uid = w.uid := by
  unfold owned
  rw [h]
  dsimp only
  split
  · rename_i ha
    simpa only [List.any_eq_true, beq_iff_eq] using ha
  · exact ⟨w, List.mem_append_right _ (List.mem_singleton.2 rfl), rfl⟩

/-! ## Passes without errors -/

theorem Plan.errors_tally_of_ok {outcomes : List Outcome}
    (h : ∀ x ∈ outcomes, x.result = .ok ()) (p : Plan) : (p.tally outcomes).errors = 0 := by
  rw [p.errors_tally, List.countP_eq_zero]
  intro x hx
  rw [h x hx]
  exact Bool.false_ne_true

section
variable {s : ObjectStore} {scope : Scope} {wanted : List Overlay}
  (sound : ∀ d ∈ wanted, d.check = .ok ())
  (labelled : ∀ d ∈ wanted, d.toStored.matchesSelector scope.selector = true)
  (free : ∀ d ∈ wanted, ∀ o, s.get? d.name = some o →
    o.matchesSelector scope.selector = true)

include sound free

/-- An attempt of such a pass succeeds on every store that has under its name what was listed. -/
theorem attempt_ok {a : Attempt} (ha : a ∈ (s.planFor scope wanted).attempts) {s₀ : ObjectStore}
    (h₀ : s₀.get? a.name = s.get? a.name) : (a.run .none s₀).1 = .ok () := by
  rcases ObjectStore.attempt_cases ha with ⟨d, hd, hno, rfl⟩ | ⟨d, hd, o, ho, -, -, rfl⟩ |
    ⟨o, ho, -, -, rfl⟩
  · have hd := Overlay.mem_of_mem_firsts hd
    have hnone : s.get? d.name = none :=
      Option.eq_none_iff_forall_ne_some.2 fun o ho => hno o ho (free d hd o ho)
    exact (Attempt.run_create (sound d hd) (h₀.trans hnone)).1
  · exact (Attempt.run_update (sound d (Overlay.mem_of_mem_firsts hd)) (h₀.trans ho)).1
  · exact (Attempt.run_delete (h₀.trans ho)).1

theorem outcomes_ok :
    ∀ x ∈ (attemptAll .none s (s.planFor scope wanted).attempts).1, x.result = .ok () := by
  intro x hx
  obtain ⟨a, ha, s₀, h₀, rfl⟩ := attemptAll_outcomes (Plan.named_attempts _)
    (s.nodup_names_planFor scope wanted) s x hx
  exact attempt_ok sound free ha h₀

theorem errors_apply (kind : OverlayKind) :
    ((s.planFor scope wanted).apply kind .none s).answer.errors = 0 :=
  Plan.errors_tally_of_ok (outcomes_ok sound free) _

/-! ## The store after a pass -/

include labelled in
/-- Each wanted overlay is stored in the scope and does not differ. -/
theorem stored_of_wanted {d : Overlay} (hd : d ∈ Overlay.firsts wanted) {o' : Option StoredOverlay}
    (h : Settled scope wanted d.name (s.get? d.name) o') :
    ∃ o, o' = some o ∧ o.matchesSelector scope.selector = true ∧ d.differs o = false ∧
      ∀ a, s.get? d.name = some a → ∀ k, d.labels.get? k = none →
        o.labels.get? k = a.labels.get? k := by
  have hw := Overlay.mem_of_mem_firsts hd
  generalize ho : s.get? d.name = old at h
  cases h with
  | @created e v he hn _ =>
    obtain rfl := first_unique he hd hn
    exact ⟨_, rfl, labelled e hw, e.differs_toStored _, fun a ha => by cases ha⟩
  | @rewritten e o v he hn _ hm _ =>
    obtain rfl := first_unique he hd hn
    refine ⟨_, rfl, Overlay.matches_replacing (labelled e hw) o _, e.differs_replacing o _,
      fun a ha k hk => ?_⟩
    cases ha
    exact (e.get?_labels_replacing o k).trans (by rw [hk, Option.none_or])
  | @agreed e o he hn hm hf =>
    obtain rfl := first_unique he hd hn
    exact ⟨o, rfl, hm, hf, fun a ha k _ => by cases ha; rfl⟩
  | @taken e o he hn hm => exact absurd (free d hw o ho) hm
  | @refused e _ he hn hc =>
    obtain rfl := first_unique he hd hn
    exact absurd (sound e hw) hc
  | removed hno _ => exact absurd rfl (hno d hw)
  | spared hno _ => exact absurd rfl (hno d hw)

omit sound free in
/-- What the scope has after a pass is wanted. -/
theorem wanted_of_stored {n : String} {old : Option StoredOverlay} {o : StoredOverlay}
    (h : Settled scope wanted n old (some o)) (hm : o.matchesSelector scope.selector = true) :
    ∃ d ∈ Overlay.firsts wanted, d.name = n := by
  cases h with
  | created hd hn _ => exact ⟨_, hd, hn⟩
  | rewritten hd hn _ _ _ => exact ⟨_, hd, hn⟩
  | agreed hd hn _ _ => exact ⟨_, hd, hn⟩
  | taken hd hn _ => exact ⟨_, hd, hn⟩
  | refused hd hn _ => exact ⟨_, hd, hn⟩
  | spared _ hno => exact absurd hm (hno o rfl)

include labelled in
omit sound free in
/-- Outside the scope a pass changes nothing. -/
theorem outside_iff {n : String} {old new : Option StoredOverlay}
    (h : Settled scope wanted n old new) {o : StoredOverlay}
    (hm : ¬ o.matchesSelector scope.selector = true) : old = some o ↔ new = some o := by
  cases h with
  | @created d v hd _ _ =>
    have hl := labelled d (Overlay.mem_of_mem_firsts hd)
    exact ⟨nofun, fun h => by cases h; exact absurd hl hm⟩
  | @rewritten d a v hd _ _ ha _ =>
    have hl := labelled d (Overlay.mem_of_mem_firsts hd)
    refine ⟨fun h => by cases h; exact absurd ha hm, fun h => ?_⟩
    cases h
    exact absurd (Overlay.matches_replacing hl a _) hm
  | agreed => exact Iff.rfl
  | taken => exact Iff.rfl
  | refused => exact Iff.rfl
  | @removed a _ ha => exact ⟨fun h => by cases h; exact absurd ha hm, nofun⟩
  | spared => exact Iff.rfl

end

/-! ## The second pass -/

theorem Overlay.perm_names_firsts (desired : List Overlay) :
    ((firsts desired).map (·.name)).Perm (desired.map (·.name)).dedup := by
  refine (List.perm_ext_iff_of_nodup (nodup_names_firsts desired) (List.nodup_dedup _)).2 ?_
  intro n
  simp only [List.mem_dedup, List.mem_map]
  constructor
  · rintro ⟨d, hd, rfl⟩
    exact ⟨d, mem_of_mem_firsts hd, rfl⟩
  · rintro ⟨d, hd, rfl⟩
    exact exists_first hd

theorem Overlay.length_firsts (desired : List Overlay) :
    (firsts desired).length = (desired.map (·.name)).dedup.length := by
  rw [← (perm_names_firsts desired).length_eq, List.length_map]

namespace ObjectStore

variable {s : ObjectStore} {scope : Scope} {wanted : List Overlay}
  (hw : ∀ d ∈ Overlay.firsts wanted, ∃ o, s.get? d.name = some o ∧
    o.matchesSelector scope.selector = true ∧ d.differs o = false)
  (hs : ∀ n o, s.get? n = some o → o.matchesSelector scope.selector = true →
    ∃ d ∈ Overlay.firsts wanted, d.name = n)

section
include hw

theorem creates_of_settled : (s.planFor scope wanted).creates = [] := by
  refine List.eq_nil_iff_forall_not_mem.2 fun d hd => ?_
  obtain ⟨hd, hno⟩ := (Plan.mem_creates (s.nodup_names_list _)).1 hd
  obtain ⟨o, ho, hm, -⟩ := hw d hd
  have hn := name_of_get? ho
  exact hno o (mem_list_iff.2 ⟨hn.symm ▸ ho, hm⟩) hn

theorem updates_of_settled : (s.planFor scope wanted).updates = [] := by
  refine List.eq_nil_iff_forall_not_mem.2 fun ⟨d, a⟩ hd => ?_
  obtain ⟨hd, ha, hn, hf⟩ := (Plan.mem_updates (s.nodup_names_list _)).1 hd
  obtain ⟨o, ho, -, hno⟩ := hw d hd
  rw [← hn, (mem_list_iff.1 ha).1] at ho
  cases ho
  rw [hno] at hf
  cases hf

/-- Every wanted overlay is found, and none of those found differs. -/
theorem unchanged_of_settled :
    (s.planFor scope wanted).unchanged = (Overlay.firsts wanted).length := by
  have hl := s.nodup_names_list scope.selector
  simp only [planFor, Plan.compute]
  rw [List.countP_eq_length.2, List.filterMap_length_eq_length.2]
  · intro d hd
    obtain ⟨o, ho, hm, -⟩ := hw d hd
    have hn := name_of_get? ho
    rw [(Plan.get?_byName hl).2 ⟨mem_list_iff.2 ⟨hn.symm ▸ ho, hm⟩, hn⟩]
    rfl
  · rintro ⟨d, a⟩ hm
    obtain ⟨e, he, hm⟩ := List.mem_filterMap.1 hm
    obtain ⟨b, hb, hm⟩ := Option.map_eq_some_iff.1 hm
    cases hm
    obtain ⟨hb, hn⟩ := (Plan.get?_byName hl).1 hb
    obtain ⟨o, ho, -, hno⟩ := hw _ he
    rw [← hn, (mem_list_iff.1 hb).1] at ho
    cases ho
    rw [hno]
    rfl

end

include hs in
theorem deletes_of_settled : (s.planFor scope wanted).deletes = [] := by
  refine List.eq_nil_iff_forall_not_mem.2 fun o ho => ?_
  obtain ⟨ho, -, hno⟩ := Plan.mem_deletes.1 ho
  obtain ⟨ho, hm⟩ := mem_list_iff.1 ho
  obtain ⟨d, hd, hn⟩ := hs _ o ho hm
  exact hno d (Overlay.mem_of_mem_firsts hd) hn

include hw hs in
/-- A store that has every wanted overlay in the scope, and nothing else there, needs no write. -/
theorem planFor_of_settled :
    s.planFor scope wanted = ⟨[], [], [], (Overlay.firsts wanted).length⟩ := by
  have hcreates := creates_of_settled hw
  have hupdates := updates_of_settled hw
  have hdeletes := deletes_of_settled hs
  have hunchanged := unchanged_of_settled hw
  cases hp : s.planFor scope wanted
  simp only [hp] at hcreates hupdates hdeletes hunchanged
  rw [hcreates, hupdates, hdeletes, hunchanged]

end ObjectStore

/-! ## Convergence -/

/-- An overlay `o` is stored as `d` is wanted by a reconciler; under labels that `d` does not
set it keeps what `old` had. -/
structure Realizes (r : Reconciler) (d : Overlay) (old : Option StoredOverlay)
    (o : StoredOverlay) : Prop where
  requirements : o.requirements = d.requirements
  weight : o.weight = d.weight
  price : o.price = d.price
  labels : ∀ k v, d.labels.get? k = some v → o.labels.get? k = some v
  owners : ∀ w ∈ d.owners, ∃ a ∈ o.owners, a.uid = w.uid
  controller : ∀ w, r.owner = some w → ∃ a ∈ o.owners, a.uid = w.uid
  kept : ∀ a, old = some a → ∀ k, d.labels.get? k = none → o.labels.get? k = a.labels.get? k

theorem realizes_of_not_differs {r : Reconciler} {d : Overlay} {old : Option StoredOverlay}
    {o : StoredOverlay} (h : (r.owned d).differs o = false)
    (hk : ∀ a, old = some a → ∀ k, d.labels.get? k = none → o.labels.get? k = a.labels.get? k) :
    Realizes r d old o := by
  obtain ⟨hq, hw, hp, hl, ho⟩ := Overlay.differs_eq_false_iff.1 h
  have hfix : (r.owned d).requirements = d.requirements ∧ (r.owned d).weight = d.weight ∧
      (r.owned d).price = d.price := by
    unfold Reconciler.owned
    split
    · exact ⟨rfl, rfl, rfl⟩
    · split <;> exact ⟨rfl, rfl, rfl⟩
  obtain ⟨fq, fw, fp⟩ := hfix
  refine ⟨hq.symm.trans fq, hw.symm.trans fw, hp.symm.trans fp, fun k v hv => hl k v ?_,
    fun w hw => ho w (r.mem_owned hw), fun w hw => ?_, hk⟩
  · rw [r.owned_labels]
    exact hv
  · obtain ⟨a, ha, hau⟩ := r.owner_mem_owned d hw
    obtain ⟨b, hb, hbu⟩ := ho a ha
    exact ⟨b, hb, hbu.trans hau⟩

theorem Realizes.not_differs {r : Reconciler} {d : Overlay} {old : Option StoredOverlay}
    {o : StoredOverlay} (h : Realizes r d old o) : d.differs o = false :=
  Overlay.differs_eq_false_iff.2
    ⟨h.requirements.symm, h.weight.symm, h.price.symm, h.labels, h.owners⟩

/-- A store after a pass: the scope has exactly the wanted names, each overlay there is stored as
the first one of its name is wanted, and outside the scope the store is as it was. -/
structure Converged (r : Reconciler) (scope : Scope) (desired : List Overlay)
    (before after : ObjectStore) : Prop where
  names : ((after.list scope.selector).map (·.name)).Perm (desired.map (·.name)).dedup
  realized : ∀ o ∈ after.list scope.selector, ∃ d,
    desired.find? (·.name == o.name) = some d ∧ Realizes r d (before.get? o.name) o
  outside : ∀ n o, ¬ o.matchesSelector scope.selector = true →
    (before.get? n = some o ↔ after.get? n = some o)

section
variable {r : Reconciler} {scope : Scope} {desired : List Overlay} {s : ObjectStore}

/-- What the scope has after a pass is wanted. -/
theorem exists_first_of_stored {n : String} {o : StoredOverlay}
    (ho : (r.pass scope desired .none s).store.get? n = some o)
    (hm : o.matchesSelector scope.selector = true) :
    ∃ d ∈ Overlay.firsts (desired.map r.owned), d.name = n :=
  wanted_of_stored (ho ▸ r.pass_settled scope desired s n) hm

theorem labelled_owned
    (labelled : ∀ d ∈ desired, d.toStored.matchesSelector scope.selector = true) :
    ∀ d ∈ desired.map r.owned, d.toStored.matchesSelector scope.selector = true := by
  refine Reconciler.forall_owned fun d hd => StoredOverlay.matchesSelector_iff.2 fun k v hv => ?_
  have h := StoredOverlay.matchesSelector_iff.1 (labelled d hd) k v hv
  exact (congrArg (·.get? k) (r.owned_labels d)).trans h

theorem free_owned (free : ∀ d ∈ desired, ∀ o, s.get? d.name = some o →
    o.matchesSelector scope.selector = true) :
    ∀ d ∈ desired.map r.owned, ∀ o, s.get? d.name = some o →
      o.matchesSelector scope.selector = true := by
  refine Reconciler.forall_owned fun d hd => ?_
  rw [r.owned_name]
  exact free d hd

variable (sound : ∀ d ∈ desired, d.check = .ok ())
  (labelled : ∀ d ∈ desired, d.toStored.matchesSelector scope.selector = true)
  (free : ∀ d ∈ desired, ∀ o, s.get? d.name = some o →
    o.matchesSelector scope.selector = true)

include sound labelled free

/-- After a pass each wanted overlay is stored in the scope and does not differ. -/
theorem stored_of_first {d : Overlay} (hd : d ∈ Overlay.firsts (desired.map r.owned)) :
    ∃ o, (r.pass scope desired .none s).store.get? d.name = some o ∧
      o.matchesSelector scope.selector = true ∧ d.differs o = false ∧
      ∀ a, s.get? d.name = some a → ∀ k, d.labels.get? k = none →
        o.labels.get? k = a.labels.get? k :=
  stored_of_wanted (Reconciler.sound_owned sound) (labelled_owned labelled) (free_owned free) hd
    (r.pass_settled scope desired s d.name)

theorem names_after : (((r.pass scope desired .none s).store.list scope.selector).map
    (·.name)).Perm (desired.map (·.name)).dedup := by
  refine (List.perm_ext_iff_of_nodup (ObjectStore.nodup_names_list _ _)
    (List.nodup_dedup _)).2 fun n => ?_
  rw [List.mem_dedup, ← r.map_name_owned]
  constructor
  · intro hn
    obtain ⟨o, ho, rfl⟩ := List.mem_map.1 hn
    obtain ⟨ho, hm⟩ := ObjectStore.mem_list_iff.1 ho
    obtain ⟨d, hd, hdn⟩ := exists_first_of_stored ho hm
    exact List.mem_map.2 ⟨d, Overlay.mem_of_mem_firsts hd, hdn⟩
  · intro hn
    obtain ⟨d, hd, rfl⟩ := List.mem_map.1 hn
    obtain ⟨e, he, hen⟩ := Overlay.exists_first hd
    obtain ⟨o, ho, hm, -, -⟩ := stored_of_first sound labelled free he
    have hon := ObjectStore.name_of_get? ho
    exact List.mem_map.2 ⟨o, ObjectStore.mem_list_iff.2 ⟨hon.symm ▸ ho, hm⟩, hon.trans hen⟩

theorem realized_after {o : StoredOverlay}
    (ho : o ∈ (r.pass scope desired .none s).store.list scope.selector) :
    ∃ d, desired.find? (·.name == o.name) = some d ∧ Realizes r d (s.get? o.name) o := by
  obtain ⟨ho, hm⟩ := ObjectStore.mem_list_iff.1 ho
  obtain ⟨e, he, hen⟩ := exists_first_of_stored ho hm
  obtain ⟨o', ho', -, hf, hk⟩ := stored_of_first sound labelled free he
  rw [hen, ho] at ho'
  cases ho'
  have hfind := Overlay.mem_firsts_iff.1 he
  rw [hen, r.find?_map_owned] at hfind
  obtain ⟨d, hd, rfl⟩ := Option.map_eq_some_iff.1 hfind
  rw [hen, r.owned_labels] at hk
  exact ⟨d, hd, realizes_of_not_differs hf hk⟩

/-- The plan of a second pass. -/
theorem planFor_pass : (r.pass scope desired .none s).store.planFor scope (desired.map r.owned) =
    ⟨[], [], [], (desired.map (·.name)).dedup.length⟩ := by
  rw [← r.map_name_owned, ← Overlay.length_firsts]
  refine ObjectStore.planFor_of_settled (fun d hd => ?_) fun n o => exists_first_of_stored
  obtain ⟨o, ho, hm, hf, -⟩ := stored_of_first sound labelled free hd
  exact ⟨o, ho, hm, hf⟩

end

/-- **Convergence.** A pass without faults over sound overlays with the labels of the scope and
names that only the scope has makes no error and leaves the scope as wanted, and a second pass
writes nothing and counts every name as unchanged. -/
theorem pass_converges (r : Reconciler) (scope : Scope) (desired : List Overlay) (s : ObjectStore)
    (sound : ∀ d ∈ desired, d.check = .ok ())
    (labelled : ∀ d ∈ desired, d.toStored.matchesSelector scope.selector = true)
    (free : ∀ d ∈ desired, ∀ o, s.get? d.name = some o →
      o.matchesSelector scope.selector = true) :
    (∃ counts, (r.pass scope desired .none s).answer = .ok counts ∧ counts.errors = 0) ∧
      Converged r scope desired s (r.pass scope desired .none s).store ∧
      (r.pass scope desired .none (r.pass scope desired .none s).store).store =
        (r.pass scope desired .none s).store ∧
      (r.pass scope desired .none (r.pass scope desired .none s).store).answer =
        .ok { unchanged := (desired.map (·.name)).dedup.length } := by
  have herrors := errors_apply (Reconciler.sound_owned (r := r) sound) (free_owned free) scope.kind
  have hconverged : Converged r scope desired s (r.pass scope desired .none s).store :=
    ⟨names_after sound labelled free, fun _ ho => realized_after sound labelled free ho,
      fun n o hm => outside_iff (labelled_owned labelled) (r.pass_settled scope desired s n) hm⟩
  refine ⟨⟨_, r.pass_answer scope desired s, herrors⟩, hconverged, ?_⟩
  rw [r.pass_store scope desired (r.pass scope desired .none s).store, r.pass_answer,
    ObjectStore.passed, planFor_pass sound labelled free]
  exact ⟨rfl, rfl⟩

/-- The overlay for the savings plans of an instance family. -/
def planOverlay (family : String) (weight : Int) : Overlay :=
  Rendering.decision {} ⟨"savings-plan-" ++ family, .instancePlan, .family family "us-west-2",
    true, "", weight, freePrice⟩

/-- A store with one overlay that has drifted, one that is not wanted any more, and one that
lost its labels. -/
def driftedStore : ObjectStore :=
  let m5 := (planOverlay "m5" 5).toStored
  let s := (ObjectStore.empty.seed { m5 with labels := m5.labels.insert "team" "batch" }).2
  let s := (s.seed (planOverlay "c5" 20).toStored).2
  (s.seed { (planOverlay "r5" 20).toStored with labels := ∅ }).2

theorem pass_converges_drifted :
    let desired := [planOverlay "m5" 20, planOverlay "t3" 20, planOverlay "m5" 7]
    let after := (Reconciler.pass {} (.commitment .instancePlan) desired .none driftedStore).store
    Converged {} (.commitment .instancePlan) desired driftedStore after ∧
      (Reconciler.pass {} (.commitment .instancePlan) desired .none after).answer =
        .ok { unchanged := 2 } := by
  intro desired after
  have h := pass_converges {} (.commitment .instancePlan) desired driftedStore
    (by decide +kernel) (by decide +kernel)
    (by
      show ∀ d ∈ desired, ∀ o ∈ driftedStore.get? d.name, _
      decide +kernel)
  exact ⟨h.2.1, h.2.2.2⟩

end PriceOverlay
