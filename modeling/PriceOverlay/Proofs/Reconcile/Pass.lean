import PriceOverlay.Proofs.Reconcile.Attempts
/-!
# What a pass makes of each name

A pass without faults is told name by name: what it stores under a name depends only on
what was stored there and on the first overlay that is wanted under that name.

**Results**
* `matchesSelector_iff`, `matches_selector_iff`: which labels an overlay of a scope has.
* `settled_attempt`, `settled_of_not_attempted`: what the plan of a pass makes of each name.
* `pass_settled`: for every name, what a pass makes of it (`Settled` lists the cases).
* `pass_answer`: a pass always answers with its counts.
-/
namespace PriceOverlay

/-! ## Overlays of a scope -/

theorem StoredOverlay.matchesSelector_iff {o : StoredOverlay} {selector : Selector} :
    o.matchesSelector selector = true ↔
      ∀ k v, selector.get? k = some v → o.labels.get? k = some v := by
  simp only [matchesSelector, List.all_eq_true, beq_iff_eq, Table.get?_eq_some_iff, Prod.forall]

namespace Overlay

theorem get?_labels_replacing (d : Overlay) (o : StoredOverlay) (k : String) :
    (d.replacing o).labels.get? k = (d.labels.get? k).or (o.labels.get? k) :=
  Table.get?_union _ _ _

/-- What replaces an overlay has the wanted labels. -/
theorem matches_replacing {d : Overlay} {selector : Selector}
    (h : d.toStored.matchesSelector selector = true) (o : StoredOverlay) (v : Option String) :
    StoredOverlay.matchesSelector { d.replacing o with version := v } selector = true := by
  refine StoredOverlay.matchesSelector_iff.2 fun k a hk => ?_
  have hd : d.labels.get? k = some a := StoredOverlay.matchesSelector_iff.1 h k a hk
  exact (d.get?_labels_replacing o k).trans (by rw [hd, Option.some_or])

end Overlay

namespace Scope

theorem get?_selector (scope : Scope) (k : String) :
    scope.selector.get? k =
      if k = Label.source ∧ scope.source.isSome then scope.source
      else if k = Label.kind then some scope.kind.text
      else if k = Label.managedBy then some Label.manager
      else none := by
  unfold selector
  cases hs : scope.source with
  | none => simp only [Table.get?_insert_eq, Table.get?_empty, Option.isSome_none,
      Bool.false_eq_true, and_false, if_false]
  | some source => simp only [Table.get?_insert_eq, Table.get?_empty, Option.isSome_some, and_true]

theorem get?_selector_managedBy (scope : Scope) :
    scope.selector.get? Label.managedBy = some Label.manager := by
  rw [get?_selector, if_neg (fun h => absurd h.1 (by decide)), if_neg (by decide), if_pos rfl]

/-- An overlay of the scope is managed, of its kind and, if the scope has one, of its source. -/
theorem matches_selector_iff {scope : Scope} {o : StoredOverlay} :
    o.matchesSelector scope.selector = true ↔ o.labels.get? Label.managedBy = some Label.manager ∧
      o.labels.get? Label.kind = some scope.kind.text ∧
      ∀ source, scope.source = some source → o.labels.get? Label.source = some source := by
  have hks : Label.kind ≠ Label.source := by decide
  have hms : Label.managedBy ≠ Label.source := by decide
  have hmk : Label.managedBy ≠ Label.kind := by decide
  rw [StoredOverlay.matchesSelector_iff]
  constructor
  · intro h
    refine ⟨h _ _ scope.get?_selector_managedBy, h _ _ ?_, fun source hs => h _ _ ?_⟩
    · rw [get?_selector, if_neg (fun h => hks h.1), if_pos rfl]
    · rw [get?_selector, hs, if_pos ⟨rfl, rfl⟩]
  · rintro ⟨hm, hk, hs⟩ k v h
    rw [get?_selector] at h
    split at h
    · rename_i hk'
      rw [hk'.1]
      exact hs v h
    split at h
    · rename_i hk'
      cases h
      rw [hk', hk]
    split at h
    · rename_i hk'
      cases h
      rw [hk', hm]
    · cases h

theorem isManaged_of_matches {scope : Scope} {o : StoredOverlay}
    (h : o.matchesSelector scope.selector = true) : o.isManaged = true := by
  rw [StoredOverlay.isManaged, (matches_selector_iff.1 h).1, beq_self_eq_true]

end Scope

/-! ## The cases of a pass -/

/-- What a pass over a scope that wants `wanted` makes of what is stored under a name. -/
inductive Settled (scope : Scope) (wanted : List Overlay) (n : String) :
    Option StoredOverlay → Option StoredOverlay → Prop
  /-- The name was free. -/
  | created {d : Overlay} {v : String} (hd : d ∈ Overlay.firsts wanted) (hn : d.name = n)
      (hc : d.check = .ok ()) : Settled scope wanted n none
        (some { d.toStored with version := some v })
  /-- The stored overlay of the scope differed. -/
  | rewritten {d : Overlay} {o : StoredOverlay} {v : String} (hd : d ∈ Overlay.firsts wanted)
      (hn : d.name = n) (hc : d.check = .ok ())
      (hm : o.matchesSelector scope.selector = true) (hf : d.differs o = true) :
      Settled scope wanted n (some o) (some { d.replacing o with version := some v })
  /-- The stored overlay of the scope is as wanted. -/
  | agreed {d : Overlay} {o : StoredOverlay} (hd : d ∈ Overlay.firsts wanted) (hn : d.name = n)
      (hm : o.matchesSelector scope.selector = true) (hf : d.differs o = false) :
      Settled scope wanted n (some o) (some o)
  /-- The name belongs to an overlay outside the scope. -/
  | taken {d : Overlay} {o : StoredOverlay} (hd : d ∈ Overlay.firsts wanted) (hn : d.name = n)
      (hm : ¬ o.matchesSelector scope.selector = true) :
      Settled scope wanted n (some o) (some o)
  /-- The wanted overlay has a flaw. -/
  | refused {d : Overlay} {o : Option StoredOverlay} (hd : d ∈ Overlay.firsts wanted)
      (hn : d.name = n) (hc : d.check ≠ .ok ()) : Settled scope wanted n o o
  /-- An overlay of the scope that is not wanted. -/
  | removed {o : StoredOverlay} (hd : ∀ d ∈ wanted, d.name ≠ n)
      (hm : o.matchesSelector scope.selector = true) : Settled scope wanted n (some o) none
  /-- Nothing of the scope is stored or wanted. -/
  | spared {o : Option StoredOverlay} (hd : ∀ d ∈ wanted, d.name ≠ n)
      (hm : ∀ a, o = some a → ¬ a.matchesSelector scope.selector = true) :
      Settled scope wanted n o o

/-! ## One pass -/

/-- The plan of a pass without faults. -/
def ObjectStore.planFor (s : ObjectStore) (scope : Scope) (wanted : List Overlay) : Plan :=
  Plan.compute wanted (s.list scope.selector)

/-- The store after the attempts of that plan. -/
def ObjectStore.passed (s : ObjectStore) (scope : Scope) (wanted : List Overlay) : ObjectStore :=
  (attemptAll .none s (s.planFor scope wanted).attempts).2

namespace Reconciler

theorem owned_name (r : Reconciler) (d : Overlay) : (r.owned d).name = d.name := by
  unfold owned
  split
  · rfl
  · split <;> rfl

theorem owned_labels (r : Reconciler) (d : Overlay) : (r.owned d).labels = d.labels := by
  unfold owned
  split
  · rfl
  · split <;> rfl

theorem owned_check (r : Reconciler) (d : Overlay) : (r.owned d).check = d.check := by
  unfold owned
  split
  · rfl
  · split <;> rfl

/-- The owner of a reconciler joins the owners of an overlay unless one has its uid. -/
theorem owned_eq_of_apart {r : Reconciler} {d : Overlay}
    (h : ∀ w, r.owner = some w → ∀ a ∈ d.owners, a.uid ≠ w.uid) :
    r.owned d = { d with owners := d.owners ++ r.owner.toList } := by
  unfold owned
  cases hw : r.owner with
  | none => simp only [Option.toList, List.append_nil]
  | some w =>
    have hno : d.owners.any (·.uid == w.uid) = false := by
      simp only [List.any_eq_false, beq_iff_eq]
      exact h w hw
    simp only [hno, Bool.false_eq_true, if_false, Option.toList]

theorem find?_map_owned (r : Reconciler) (desired : List Overlay) (n : String) :
    (desired.map r.owned).find? (·.name == n) = (desired.find? (·.name == n)).map r.owned := by
  rw [List.find?_map]
  simp only [Function.comp_def, r.owned_name]

theorem map_name_owned (r : Reconciler) (desired : List Overlay) :
    (desired.map r.owned).map (·.name) = desired.map (·.name) := by
  rw [List.map_map]
  exact List.map_congr_left fun d _ => r.owned_name d

theorem forall_owned {r : Reconciler} {desired : List Overlay} {P : Overlay → Prop}
    (h : ∀ d ∈ desired, P (r.owned d)) : ∀ d ∈ desired.map r.owned, P d := by
  intro d hd
  obtain ⟨e, he, rfl⟩ := List.mem_map.1 hd
  exact h e he

/-- What a plan wants has the name of something desired. -/
theorem exists_desired {r : Reconciler} {desired : List Overlay} {d : Overlay}
    (hd : d ∈ Overlay.firsts (desired.map r.owned)) : ∃ e ∈ desired, e.name = d.name := by
  obtain ⟨e, he, rfl⟩ := List.mem_map.1 (Overlay.mem_of_mem_firsts hd)
  exact ⟨e, he, (r.owned_name e).symm⟩

theorem sound_owned {r : Reconciler} {desired : List Overlay}
    (sound : ∀ d ∈ desired, d.check = .ok ()) : ∀ d ∈ desired.map r.owned, d.check = .ok () :=
  forall_owned fun d hd => (r.owned_check d).trans (sound d hd)

variable (r : Reconciler) (scope : Scope) (desired : List Overlay) (s : ObjectStore)

theorem pass_store : (r.pass scope desired .none s).store =
    s.passed scope (desired.map r.owned) := rfl

/-- A pass always answers with its counts. -/
theorem pass_answer : (r.pass scope desired .none s).answer =
    .ok ((s.planFor scope (desired.map r.owned)).apply scope.kind .none s).answer := rfl

end Reconciler

section
variable {s : ObjectStore} {scope : Scope} {wanted : List Overlay} {n : String}

/-- An attempt of a plan under a name is for the wanted overlay of that name, or deletes. -/
theorem ObjectStore.attempt_cases {a : Attempt} (ha : a ∈ (s.planFor scope wanted).attempts) :
    (∃ d ∈ Overlay.firsts wanted, (∀ o, s.get? d.name = some o →
        ¬ o.matchesSelector scope.selector = true) ∧ a = .create d) ∨
      (∃ d ∈ Overlay.firsts wanted, ∃ o, s.get? d.name = some o ∧
        o.matchesSelector scope.selector = true ∧ d.differs o = true ∧ a = .update d o) ∨
      ∃ o, s.get? o.name = some o ∧ o.matchesSelector scope.selector = true ∧
        (∀ d ∈ wanted, d.name ≠ o.name) ∧ a = .delete o := by
  have hl := s.nodup_names_list scope.selector
  rcases Plan.mem_attempts.1 ha with ⟨d, hd, rfl⟩ | ⟨d, o, hd, rfl⟩ | ⟨o, ho, rfl⟩
  · obtain ⟨hd, hno⟩ := (Plan.mem_creates hl).1 hd
    refine .inl ⟨d, hd, fun o ho hm => ?_, rfl⟩
    have hn := name_of_get? ho
    exact hno o (mem_list_iff.2 ⟨hn.symm ▸ ho, hm⟩) hn
  · obtain ⟨hd, ho, hn, hf⟩ := (Plan.mem_updates hl).1 hd
    obtain ⟨ho, hm⟩ := mem_list_iff.1 ho
    exact .inr (.inl ⟨d, hd, o, hn ▸ ho, hm, hf, rfl⟩)
  · obtain ⟨ho, -, hno⟩ := Plan.mem_deletes.1 ho
    obtain ⟨ho, hm⟩ := mem_list_iff.1 ho
    exact .inr (.inr ⟨o, ho, hm, hno, rfl⟩)

/-- No name is attempted twice. -/
theorem ObjectStore.nodup_names_planFor (s : ObjectStore) (scope : Scope) (wanted : List Overlay) :
    ((s.planFor scope wanted).attempts.map (·.name)).Nodup :=
  Plan.nodup_names_attempts (s.nodup_names_list scope.selector)

theorem first_unique {d e : Overlay} (hd : d ∈ Overlay.firsts wanted)
    (he : e ∈ Overlay.firsts wanted) (hn : d.name = e.name) : d = e := by
  have h := Overlay.mem_firsts_iff.1 hd
  rw [hn, Overlay.mem_firsts_iff.1 he] at h
  exact (Option.some.inj h).symm

/-- A wanted overlay is to be created if the scope does not have its name. -/
theorem ObjectStore.create_mem_attempts {d : Overlay} (hd : d ∈ Overlay.firsts wanted)
    (hno : ∀ o, s.get? d.name = some o → ¬ o.matchesSelector scope.selector = true) :
    Attempt.create d ∈ (s.planFor scope wanted).attempts := by
  refine Plan.mem_attempts.2 (.inl ⟨d, ?_, rfl⟩)
  refine (Plan.mem_creates (s.nodup_names_list scope.selector)).2 ⟨hd, fun o ho hn => ?_⟩
  obtain ⟨ho, hm⟩ := mem_list_iff.1 ho
  exact hno o (hn ▸ ho) hm

/-- A wanted overlay is to be written over the one of the scope that differs. -/
theorem ObjectStore.update_mem_attempts {d : Overlay} {o : StoredOverlay}
    (hd : d ∈ Overlay.firsts wanted) (ho : s.get? d.name = some o)
    (hm : o.matchesSelector scope.selector = true) (hf : d.differs o = true) :
    Attempt.update d o ∈ (s.planFor scope wanted).attempts := by
  have hn := name_of_get? ho
  have hl : o ∈ s.list scope.selector := mem_list_iff.2 ⟨hn.symm ▸ ho, hm⟩
  refine Plan.mem_attempts.2 (.inr (.inl ⟨d, o, ?_, rfl⟩))
  exact (Plan.mem_updates (s.nodup_names_list scope.selector)).2 ⟨hd, hl, hn, hf⟩

/-- What the scope has under a name that is not wanted is to be deleted. -/
theorem ObjectStore.delete_mem_attempts {o : StoredOverlay} (hd : ∀ d ∈ wanted, d.name ≠ n)
    (ho : s.get? n = some o) (hm : o.matchesSelector scope.selector = true) :
    Attempt.delete o ∈ (s.planFor scope wanted).attempts := by
  obtain rfl := name_of_get? ho
  refine Plan.mem_attempts.2 (.inr (.inr ⟨o, ?_, rfl⟩))
  exact Plan.mem_deletes.2 ⟨mem_list_iff.2 ⟨ho, hm⟩, Scope.isManaged_of_matches hm, hd⟩

/-! ## Every name is settled -/

/-- An attempt of the plan settles its name on every store that has there what was listed. -/
theorem ObjectStore.settled_attempt {a : Attempt} {s₀ : ObjectStore}
    (ha : a ∈ (s.planFor scope wanted).attempts) (h₀ : s₀.get? a.name = s.get? a.name) :
    Settled scope wanted a.name (s.get? a.name) ((a.run .none s₀).2.get? a.name) := by
  rcases attempt_cases ha with ⟨d, hd, hno, rfl⟩ | ⟨d, hd, o, ho, hm, hf, rfl⟩ |
    ⟨o, ho, hm, hno, rfl⟩
  · change s₀.get? d.name = s.get? d.name at h₀
    change Settled scope wanted d.name (s.get? d.name)
      (((Attempt.create d).run .none s₀).2.get? d.name)
    cases hc : d.check with
    | error flaw =>
      rw [Attempt.run_flawed (Attempt.write_create_of_flaw hc), h₀]
      exact .refused hd rfl (hc ▸ nofun)
    | ok _ =>
      cases ho : s.get? d.name with
      | none =>
        rw [(Attempt.run_create hc (h₀.trans ho)).2]
        exact .created hd rfl hc
      | some o =>
        -- the create is attempted and finds the name taken
        rw [Attempt.run_create_of_some hc (h₀.trans ho), h₀, ho]
        exact .taken hd rfl (hno o ho)
  · change s₀.get? d.name = s.get? d.name at h₀
    change Settled scope wanted d.name (s.get? d.name)
      (((Attempt.update d o).run .none s₀).2.get? d.name)
    cases hc : d.check with
    | error flaw =>
      rw [Attempt.run_flawed (Attempt.write_update_of_flaw hc o), h₀]
      exact .refused hd rfl (hc ▸ nofun)
    | ok _ =>
      rw [(Attempt.run_update hc (h₀.trans ho)).2, ho]
      exact .rewritten hd rfl hc hm hf
  · change s₀.get? o.name = s.get? o.name at h₀
    change Settled scope wanted o.name (s.get? o.name)
      (((Attempt.delete o).run .none s₀).2.get? o.name)
    rw [(Attempt.run_delete (h₀.trans ho)).2, ho]
    exact .removed hno hm

/-- A name that the plan does not attempt is settled as it is. -/
theorem ObjectStore.settled_of_not_attempted
    (h : ∀ a ∈ (s.planFor scope wanted).attempts, a.name ≠ n) :
    Settled scope wanted n (s.get? n) (s.get? n) := by
  by_cases hex : ∃ d ∈ wanted, d.name = n
  · obtain ⟨e, he, rfl⟩ := hex
    obtain ⟨d, hd, hn⟩ := Overlay.exists_first he
    by_cases hm : ∃ o, s.get? d.name = some o ∧ o.matchesSelector scope.selector = true
    · obtain ⟨o, ho, hm⟩ := hm
      cases hf : d.differs o with
      | true => exact absurd hn (h _ (update_mem_attempts hd ho hm hf))
      | false => exact hn ▸ ho.symm ▸ .agreed hd rfl hm hf
    · exact absurd hn (h _ (create_mem_attempts hd fun o ho hom => hm ⟨o, ho, hom⟩))
  · have hno : ∀ d ∈ wanted, d.name ≠ n := fun d hd hn => hex ⟨d, hd, hn⟩
    refine .spared hno fun o ho hm => ?_
    exact h _ (delete_mem_attempts hno ho hm) (name_of_get? ho)

theorem ObjectStore.settled_passed (s : ObjectStore) (scope : Scope) (wanted : List Overlay)
    (n : String) : Settled scope wanted n (s.get? n) ((s.passed scope wanted).get? n) := by
  have hnamed := Plan.named_attempts (s.planFor scope wanted)
  by_cases hex : ∃ a ∈ (s.planFor scope wanted).attempts, a.name = n
  · obtain ⟨a, ha, rfl⟩ := hex
    obtain ⟨s₀, h₀, h₁⟩ :=
      attemptAll_own .none hnamed (s.nodup_names_planFor scope wanted) ha s
    rw [passed, h₁]
    exact settled_attempt ha h₀
  · have hno : ∀ a ∈ (s.planFor scope wanted).attempts, a.name ≠ n :=
      fun a ha hn => hex ⟨a, ha, hn⟩
    rw [passed, get?_attemptAll_of_not_mem hnamed (by simpa using hno)]
    exact settled_of_not_attempted hno

end

/-- For every name, what a pass makes of it. -/
theorem Reconciler.pass_settled (r : Reconciler) (scope : Scope) (desired : List Overlay)
    (s : ObjectStore) (n : String) :
    Settled scope (desired.map r.owned) n (s.get? n)
      ((r.pass scope desired .none s).store.get? n) :=
  s.settled_passed scope (desired.map r.owned) n

end PriceOverlay
