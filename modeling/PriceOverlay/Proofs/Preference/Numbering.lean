import PriceOverlay.Proofs.Decimal.Integers
import PriceOverlay.Proofs.Preference.Declared
/-!
# The numbers of preferences

Several keys can denote one number, since zeros may come before its digits. Of the annotations that
denote a number the first good one is the preference; those before it are reported with their own
errors and those after it as duplicates. Annotations that denote other numbers do not matter.

**Results**
* `annotationNumber_eq_ok_iff`: the keys that denote a number.
* `Declared.yields_iff`: what becomes of an annotation.
* `Declared.summed_entries`: what is declared, annotation by annotation.
* `Declared.partition_annotations`: every annotation counts once, and every number by itself.
-/
namespace PriceOverlay

/-! ## Keys -/

/-- The key of an annotation for preference `n`: the number in decimal, with zeros before it or
none. -/
def Denotes (key : String) (n : Nat) : Prop :=
  0 < n ∧ Word.unsigned32.holds n = true ∧
    ∃ zeros, key.toList =
      annotationStart.toList ++ (List.replicate zeros '0' ++ Decimal.digits n)

theorem Text.after?_append (start cs : List Char) : after? start (start ++ cs) = some cs := by
  have hstart : start.isPrefixOf (start ++ cs) = true :=
    List.isPrefixOf_iff_prefix.2 (List.prefix_append start cs)
  rw [after?, if_pos hstart, List.drop_left]

theorem Text.after?_eq_none {start cs : List Char} (h : ¬ start <+: cs) :
    after? start cs = none :=
  if_neg fun hstart => h (List.isPrefixOf_iff_prefix.1 hstart)

section
variable {key : String}

theorem annotationNumber_of_append {rest : List Char}
    (h : key.toList = annotationStart.toList ++ rest) :
    annotationNumber key =
      some (match Decimal.natural? rest with
        | some n =>
          if 0 < n ∧ Word.unsigned32.holds n then .ok n else .error (.invalidAnnotationKey key)
        | none => .error (.invalidAnnotationKey key)) := by
  rw [annotationNumber, h, Text.after?_append]
  rfl

theorem annotationNumber_eq_none_iff :
    annotationNumber key = none ↔ ¬ annotationStart.toList <+: key.toList := by
  constructor
  · rintro h ⟨rest, hrest⟩
    rw [annotationNumber_of_append hrest.symm] at h
    cases h
  · intro h
    rw [annotationNumber, Text.after?_eq_none h]
    rfl

theorem annotationNumber_eq_ok_iff {n : Nat} :
    annotationNumber key = some (.ok n) ↔ Denotes key n := by
  constructor
  · intro h
    by_cases hstart : annotationStart.toList <+: key.toList
    · obtain ⟨rest, hrest⟩ := hstart
      rw [annotationNumber_of_append hrest.symm] at h
      split at h
      · rename_i m hm
        split at h
        · rename_i hpos
          cases h
          obtain ⟨zeros, rfl⟩ := (Decimal.natural?_eq_some_iff_zeros hpos.1).1 hm
          exact ⟨hpos.1, hpos.2, zeros, hrest.symm⟩
        · cases h
      · cases h
    · rw [annotationNumber_eq_none_iff.2 hstart] at h
      cases h
  · rintro ⟨hpos, hholds, zeros, hkey⟩
    rw [annotationNumber_of_append hkey,
      (Decimal.natural?_eq_some_iff_zeros hpos).2 ⟨zeros, rfl⟩]
    exact congrArg some (if_pos ⟨hpos, hholds⟩)

theorem Denotes.unique {m n : Nat} (hm : Denotes key m) (hn : Denotes key n) : m = n := by
  cases (annotationNumber_eq_ok_iff.2 hm).symm.trans (annotationNumber_eq_ok_iff.2 hn)
  rfl

instance (n : Nat) : Decidable (Denotes key n) :=
  decidable_of_iff _ annotationNumber_eq_ok_iff

theorem eq_of_annotationNumber_error {e : PreferenceError}
    (h : annotationNumber key = some (.error e)) : e = .invalidAnnotationKey key := by
  unfold annotationNumber at h
  obtain ⟨rest, -, hrest⟩ := Option.map_eq_some_iff.1 h
  split at hrest
  · split at hrest
    · cases hrest
    · cases hrest
      rfl
  · cases hrest
    rfl

theorem annotationNumber_eq_error_iff {e : PreferenceError} :
    annotationNumber key = some (.error e) ↔
      annotationStart.toList <+: key.toList ∧ (∀ n, ¬ Denotes key n) ∧
        e = .invalidAnnotationKey key := by
  constructor
  · intro h
    refine ⟨?_, fun n hn => ?_, eq_of_annotationNumber_error h⟩
    · by_contra hstart
      cases h.symm.trans (annotationNumber_eq_none_iff.2 hstart)
    · cases h.symm.trans (annotationNumber_eq_ok_iff.2 hn)
  · rintro ⟨hstart, hnone, rfl⟩
    cases h : annotationNumber key with
    | none => exact absurd hstart (annotationNumber_eq_none_iff.1 h)
    | some number =>
      cases number with
      | ok n => exact absurd (annotationNumber_eq_ok_iff.1 h) (hnone n)
      | error f => rw [eq_of_annotationNumber_error h]

end

/-! ## Annotations -/

/-- What becomes of an annotation. -/
inductive Verdict where
  | nothing
  | preference (p : Preference)
  | error (e : PreferenceError)

namespace Verdict

def preference? : Verdict → Option Preference
  | preference p => some p
  | _ => none

def error? : Verdict → Option PreferenceError
  | error e => some e
  | _ => none

end Verdict

namespace Declared

/-- The preference `n` that an entry declares on its own. -/
def declares? (nodePool : String) (n : Nat) (entry : String × String) : Option Preference :=
  if Denotes entry.1 n then (Preference.read nodePool n entry.2).toOption else none

/-- The preference `n` of some entries: that of the first that declares it. -/
def first? (nodePool : String) (n : Nat) (entries : List (String × String)) : Option Preference :=
  entries.findSome? (declares? nodePool n)

/-- What becomes of an annotation, with those that come before it. -/
inductive Yields (nodePool : String) (earlier : List (String × String)) (key value : String) :
    Verdict → Prop
  | unrelated (h : ¬ annotationStart.toList <+: key.toList) :
    Yields nodePool earlier key value .nothing
  | misnumbered (h : annotationStart.toList <+: key.toList) (hnone : ∀ n, ¬ Denotes key n) :
    Yields nodePool earlier key value (.error (.invalidAnnotationKey key))
  | duplicate {n : Nat} (hn : Denotes key n)
    (h : ∃ e ∈ earlier, Denotes e.1 n ∧ ∃ p, Preference.read nodePool n e.2 = .ok p) :
    Yields nodePool earlier key value (.error (.duplicateNumber n))
  | unread {n : Nat} {f : PreferenceError} (hn : Denotes key n)
    (hfirst : ∀ e ∈ earlier, Denotes e.1 n → ∀ p, Preference.read nodePool n e.2 ≠ .ok p)
    (h : Preference.read nodePool n value = .error f) :
    Yields nodePool earlier key value (.error f)
  | declared {n : Nat} {p : Preference} (hn : Denotes key n)
    (hfirst : ∀ e ∈ earlier, Denotes e.1 n → ∀ p, Preference.read nodePool n e.2 ≠ .ok p)
    (h : Preference.read nodePool n value = .ok p) :
    Yields nodePool earlier key value (.preference p)

/-- The verdict on an entry, with the entries before it. -/
def verdict (nodePool : String) (earlier : List (String × String)) (entry : String × String) :
    Verdict :=
  match annotationNumber entry.1 with
  | none => .nothing
  | some (.error e) => .error e
  | some (.ok n) =>
    if (first? nodePool n earlier).isSome then .error (.duplicateNumber n)
    else match Preference.read nodePool n entry.2 with
      | .ok p => .preference p
      | .error e => .error e

section
variable {nodePool : String} {n : Nat}

theorem declares?_eq_some_iff {e : String × String} {p : Preference} :
    declares? nodePool n e = some p ↔ Denotes e.1 n ∧ Preference.read nodePool n e.2 = .ok p := by
  unfold declares?
  cases Preference.read nodePool n e.2 <;> simp [Except.toOption]

theorem isSome_first?_iff {l : List (String × String)} :
    (first? nodePool n l).isSome = true ↔
      ∃ e ∈ l, Denotes e.1 n ∧ ∃ p, Preference.read nodePool n e.2 = .ok p := by
  simp only [first?, List.isSome_findSome?, List.any_eq_true, Option.isSome_iff_exists,
    declares?_eq_some_iff, exists_and_left]

theorem first?_eq_none_iff {l : List (String × String)} :
    first? nodePool n l = none ↔
      ∀ e ∈ l, Denotes e.1 n → ∀ p, Preference.read nodePool n e.2 ≠ .ok p := by
  rw [← Option.not_isSome_iff_eq_none, isSome_first?_iff]
  simp only [not_exists, not_and, ne_eq]

theorem yields_verdict (earlier : List (String × String)) (entry : String × String) :
    Yields nodePool earlier entry.1 entry.2 (verdict nodePool earlier entry) := by
  unfold verdict
  split
  · rename_i hnumber
    exact .unrelated (annotationNumber_eq_none_iff.1 hnumber)
  · rename_i f hnumber
    obtain ⟨hstart, hnone, rfl⟩ := annotationNumber_eq_error_iff.1 hnumber
    exact .misnumbered hstart hnone
  · rename_i m hnumber
    have hm := annotationNumber_eq_ok_iff.1 hnumber
    split
    · rename_i hsome
      exact .duplicate hm (isSome_first?_iff.1 hsome)
    · rename_i hnone
      have hfirst := first?_eq_none_iff.1 (Option.not_isSome_iff_eq_none.1 hnone)
      split
      · rename_i p hread
        exact .declared hm hfirst hread
      · rename_i f hread
        exact .unread hm hfirst hread

theorem verdict_of_yields {earlier : List (String × String)} {key value : String} {v : Verdict}
    (h : Yields nodePool earlier key value v) : v = verdict nodePool earlier (key, value) := by
  unfold verdict
  cases h with
  | unrelated h => rw [annotationNumber_eq_none_iff.2 h]
  | misnumbered h hnone => rw [annotationNumber_eq_error_iff.2 ⟨h, hnone, rfl⟩]
  | duplicate hn h =>
    rw [annotationNumber_eq_ok_iff.2 hn]
    dsimp only
    rw [if_pos (isSome_first?_iff.2 h)]
  | unread hn hfirst h =>
    rw [annotationNumber_eq_ok_iff.2 hn]
    dsimp only
    rw [first?_eq_none_iff.2 hfirst, h]
    rfl
  | declared hn hfirst h =>
    rw [annotationNumber_eq_ok_iff.2 hn]
    dsimp only
    rw [first?_eq_none_iff.2 hfirst, h]
    rfl

/-- **One verdict.** Each annotation has one, and it is the one that is computed. -/
theorem yields_iff {earlier : List (String × String)} {entry : String × String} {v : Verdict} :
    Yields nodePool earlier entry.1 entry.2 v ↔ v = verdict nodePool earlier entry :=
  ⟨verdict_of_yields, fun h => h ▸ yields_verdict earlier entry⟩

/-! ## Reading the annotations in order -/

/-- What a verdict on an annotation changes. -/
def settle (d : Declared) (key : String) : Verdict → Declared
  | .nothing => d
  | .preference p => { d with byNumber := d.byNumber.insert p.number p }
  | .error e => d.reject key e

theorem number_of_read {value : String} {p : Preference}
    (h : Preference.read nodePool n value = .ok p) : p.number = n := by
  obtain ⟨d, a, -, -, rfl⟩ := Preference.exists_draft_of_read h
  rfl

/-- One more annotation is settled by its verdict, if the preferences so far are those of the
annotations before it. -/
theorem add_eq_settle {d : Declared} {earlier : List (String × String)}
    (hd : ∀ n, d.byNumber.get? n = first? nodePool n earlier) (entry : String × String) :
    d.add nodePool entry = d.settle entry.1 (verdict nodePool earlier entry) := by
  have hcontains (m) : d.byNumber.contains m = (first? nodePool m earlier).isSome := by
    rw [Table.contains, hd]
  have hyields : Yields nodePool earlier entry.1 entry.2 (verdict nodePool earlier entry) :=
    yields_verdict earlier entry
  generalize verdict nodePool earlier entry = v at hyields
  unfold add
  dsimp only
  cases hyields with
  | unrelated h =>
    rw [annotationNumber_eq_none_iff.2 h]
    rfl
  | misnumbered h hnone =>
    rw [annotationNumber_eq_error_iff.2 ⟨h, hnone, rfl⟩]
    rfl
  | duplicate hn h =>
    rw [annotationNumber_eq_ok_iff.2 hn]
    exact if_pos ((hcontains _).trans (isSome_first?_iff.2 h))
  | unread hn hfirst h =>
    rw [annotationNumber_eq_ok_iff.2 hn]
    dsimp only
    rw [hcontains, first?_eq_none_iff.2 hfirst, h]
    rfl
  | declared hn hfirst h =>
    rw [annotationNumber_eq_ok_iff.2 hn]
    dsimp only
    rw [hcontains, first?_eq_none_iff.2 hfirst, h]
    obtain rfl := number_of_read h
    rfl

theorem preference?_verdict_eq_some_iff {earlier : List (String × String)}
    {entry : String × String} {p : Preference} :
    (verdict nodePool earlier entry).preference? = some p ↔
      declares? nodePool p.number entry = some p ∧ first? nodePool p.number earlier = none := by
  rw [declares?_eq_some_iff, first?_eq_none_iff]
  constructor
  · intro h
    have hyields : Yields nodePool earlier entry.1 entry.2 (verdict nodePool earlier entry) :=
      yields_verdict earlier entry
    generalize verdict nodePool earlier entry = v at h hyields
    cases hyields with
    | declared hn hfirst hread =>
      cases h
      obtain rfl := number_of_read hread
      exact ⟨⟨hn, hread⟩, hfirst⟩
    | unrelated | misnumbered | duplicate | unread => cases h
  · rintro ⟨⟨hn, hread⟩, hfirst⟩
    rw [← verdict_of_yields (.declared hn hfirst hread)]
    rfl

theorem errors_settle (d : Declared) (key : String) (v : Verdict) :
    (d.settle key v).errors = d.errors ++ (v.error?.map (AnnotationError.mk key)).toList := by
  cases v with
  | error e => rfl
  | nothing | preference p => exact (List.append_nil _).symm

theorem preferences_settle {d : Declared} {key : String} {v : Verdict}
    (h : ∀ p, v.preference? = some p → d.byNumber.get? p.number = none) :
    (d.settle key v).preferences.Perm (d.preferences ++ v.preference?.toList) := by
  cases v with
  | preference p =>
    exact (Table.values_insert_perm (h p rfl)).trans (List.perm_append_singleton _ _).symm
  | nothing | error e => exact .of_eq (List.append_nil _).symm

theorem byNumber_settle (d : Declared) (key : String) (v : Verdict) :
    (d.settle key v).byNumber =
      match v.preference? with
      | none => d.byNumber
      | some p => d.byNumber.insert p.number p := by
  cases v <;> rfl

theorem get?_settle {d : Declared} {earlier : List (String × String)}
    (hd : ∀ n, d.byNumber.get? n = first? nodePool n earlier) (entry : String × String) (n : Nat) :
    (d.settle entry.1 (verdict nodePool earlier entry)).byNumber.get? n =
      first? nodePool n (earlier ++ [entry]) := by
  have happend : first? nodePool n (earlier ++ [entry]) =
      (first? nodePool n earlier).or (declares? nodePool n entry) := by
    rw [first?, List.findSome?_append, List.findSome?_singleton]
    rfl
  rw [byNumber_settle, happend]
  cases hv : (verdict nodePool earlier entry).preference? with
  | none =>
    dsimp only
    rw [hd]
    cases hfirst : first? nodePool n earlier with
    | some p => rfl
    | none =>
      -- an entry that declares a new preference would have it for its verdict
      rw [Option.none_or, eq_comm, Option.eq_none_iff_forall_ne_some]
      intro p hp
      obtain rfl := number_of_read (declares?_eq_some_iff.1 hp).2
      cases hv.symm.trans (preference?_verdict_eq_some_iff.2 ⟨hp, hfirst⟩)
  | some p =>
    obtain ⟨hdeclares, hfirst⟩ := preference?_verdict_eq_some_iff.1 hv
    dsimp only
    rw [Table.get?_insert_eq]
    split
    · rename_i heq
      subst heq
      rw [hfirst, hdeclares]
      rfl
    · rename_i hne
      have hother : declares? nodePool n entry = none := by
        refine if_neg fun hn => hne ?_
        exact hn.unique (declares?_eq_some_iff.1 hdeclares).1
      rw [hd, hother, Option.or_none]

/-- The entries of a list whose keys come before a key. -/
def before (l : List (String × String)) (key : String) : List (String × String) :=
  l.filter (compare ·.1 key == .lt)

theorem before_append_self {l : List (String × String)} {entry : String × String}
    (h : ∀ e ∈ l, compare e.1 entry.1 = .lt) : before (l ++ [entry]) entry.1 = l := by
  have hl : l.filter (compare ·.1 entry.1 == .lt) = l :=
    List.filter_eq_self.2 fun e he => by rw [h e he]; rfl
  rw [before, List.filter_append, hl, List.filter_cons_of_neg (by simp), List.filter_nil,
    List.append_nil]

theorem before_append_of_lt {l : List (String × String)} {entry : String × String} {key : String}
    (h : compare key entry.1 = .lt) : before (l ++ [entry]) key = before l key := by
  have hgt : compare entry.1 key = .gt := Std.OrientedCmp.gt_of_lt h
  rw [before, List.filter_append, List.filter_cons_of_neg (by simp [hgt]), List.filter_nil,
    List.append_nil]
  rfl

/-- What some entries in key order have come to: the first preferences, and the verdict on each
entry. -/
structure Summed (nodePool : String) (l : List (String × String)) (d : Declared) : Prop where
  get?_eq : ∀ n, d.byNumber.get? n = first? nodePool n l
  errors_eq : d.errors = l.filterMap fun e =>
    (verdict nodePool (before l e.1) e).error?.map (AnnotationError.mk e.1)
  preferences_perm : d.preferences.Perm
    (l.filterMap fun e => (verdict nodePool (before l e.1) e).preference?)

/-- The verdicts on the entries of a list stay what they are when one more entry follows. -/
theorem filterMap_verdict_append {β : Type} {l : List (String × String)} {entry : String × String}
    (hlast : ∀ e ∈ l, compare e.1 entry.1 = .lt) (f : String → Verdict → Option β) :
    (l ++ [entry]).filterMap
        (fun e => f e.1 (verdict nodePool (before (l ++ [entry]) e.1) e)) =
      l.filterMap (fun e => f e.1 (verdict nodePool (before l e.1) e)) ++
        (f entry.1 (verdict nodePool l entry)).toList := by
  have hone (g : String × String → Option β) : [entry].filterMap g = (g entry).toList := by
    cases hg : g entry <;> simp [hg]
  rw [List.filterMap_append, hone, before_append_self hlast]
  refine congrArg (· ++ _) (List.filterMap_congr fun e he => ?_)
  rw [before_append_of_lt (hlast e he)]

theorem summed_add {d : Declared} {l : List (String × String)} {entry : String × String}
    (hd : Summed nodePool l d) (hlast : ∀ e ∈ l, compare e.1 entry.1 = .lt) :
    Summed nodePool (l ++ [entry]) (d.add nodePool entry) := by
  rw [add_eq_settle hd.get?_eq]
  refine ⟨get?_settle hd.get?_eq entry, ?_, ?_⟩
  · rw [errors_settle, hd.errors_eq,
      filterMap_verdict_append hlast fun key v => v.error?.map (AnnotationError.mk key)]
  · rw [filterMap_verdict_append hlast fun _ v => v.preference?]
    refine (preferences_settle fun p hp => ?_).trans (hd.preferences_perm.append_right _)
    rw [hd.get?_eq]
    exact (preference?_verdict_eq_some_iff.1 hp).2

theorem summed_foldl {l : List (String × String)}
    (h : l.Pairwise fun a b => compare a.1 b.1 = .lt) :
    Summed nodePool l (l.foldl (add nodePool) ⟨∅, []⟩) := by
  -- from the last entry, which comes after all the others
  induction l using List.reverseRecOn with
  | nil => exact ⟨fun _ => rfl, rfl, .refl _⟩
  | append_singleton l entry ih =>
    obtain ⟨hl, -, hlast⟩ := List.pairwise_append.1 h
    rw [List.foldl_append]
    exact summed_add (ih hl) fun e he => hlast e he entry (List.mem_singleton_self entry)

theorem summed_entries (nodePool : String) (annotations : Annotations) :
    Summed nodePool annotations.entries (ofAnnotations nodePool annotations) :=
  summed_foldl annotations.ascending

/-! ## One number -/

/-- What is declared for a number: its preference, and the errors of the keys that denote it. -/
def outcome (d : Declared) (n : Nat) : Option Preference × List AnnotationError :=
  (d.preferences.find? (·.number == n), d.errors.filter fun e => Denotes e.key n)

theorem find?_number {d : Declared} (h : ∀ n p, d.byNumber.get? n = some p → p.number = n)
    (n : Nat) : d.preferences.find? (·.number == n) = d.byNumber.get? n := by
  have hnumber : ∀ p ∈ d.preferences, d.byNumber.get? p.number = some p := by
    intro p hp
    obtain ⟨m, hm⟩ := Table.mem_values_iff.1 hp
    rwa [h m p hm]
  cases hfind : d.preferences.find? (·.number == n) with
  | some p =>
    obtain rfl : p.number = n := by simpa using List.find?_some hfind
    exact (hnumber p (List.mem_of_find?_eq_some hfind)).symm
  | none =>
    rw [eq_comm, Option.eq_none_iff_forall_ne_some]
    intro p hp
    have hne := List.find?_eq_none.1 hfind p (Table.mem_values_iff.2 ⟨n, hp⟩)
    exact hne (by simpa using h n p hp)

/-- Only entries with keys that denote the number count for it. -/
theorem first?_filter (l : List (String × String)) :
    first? nodePool n (l.filter fun e => Denotes e.1 n) = first? nodePool n l := by
  rw [first?, first?, ← List.head?_filterMap, ← List.head?_filterMap, List.filterMap_filter]
  refine congrArg List.head? (List.filterMap_congr fun e _ => ?_)
  unfold declares?
  by_cases hn : Denotes e.1 n <;> simp [hn]

theorem verdict_filter {entry : String × String} (hn : Denotes entry.1 n)
    (l : List (String × String)) :
    verdict nodePool (l.filter fun e => Denotes e.1 n) entry = verdict nodePool l entry := by
  unfold verdict
  rw [annotationNumber_eq_ok_iff.2 hn]
  dsimp only
  rw [first?_filter]

theorem find?_ofAnnotations (nodePool : String) (annotations : Annotations) (n : Nat) :
    (ofAnnotations nodePool annotations).preferences.find? (·.number == n) =
      first? nodePool n annotations.entries := by
  rw [find?_number fun m p hm => (of_get?_ofAnnotations hm).2]
  exact (summed_entries nodePool annotations).get?_eq n

theorem outcome_filter (nodePool : String) (annotations : Annotations) (n : Nat) :
    (ofAnnotations nodePool (annotations.filter fun key _ => Denotes key n)).outcome n =
      (ofAnnotations nodePool annotations).outcome n := by
  refine Prod.ext ?_ ?_
  · show List.find? _ _ = List.find? _ _
    rw [find?_ofAnnotations, find?_ofAnnotations]
    exact first?_filter annotations.entries
  · show List.filter _ _ = List.filter _ _
    rw [(summed_entries nodePool _).errors_eq, (summed_entries nodePool annotations).errors_eq,
      List.filter_filterMap, List.filter_filterMap]
    show List.filterMap _ (annotations.entries.filter fun e => Denotes e.1 n) = _
    rw [List.filterMap_filter]
    refine List.filterMap_congr fun e _ => ?_
    by_cases hn : Denotes e.1 n
    · have hbefore : before (annotations.filter fun key _ => Denotes key n).entries e.1 =
          (before annotations.entries e.1).filter fun e => Denotes e.1 n :=
        List.filter_comm _ _ _
      rw [if_pos (decide_eq_true hn), hbefore, verdict_filter hn]
    · rw [if_neg (by simpa using hn)]
      cases (verdict nodePool (before annotations.entries e.1) e).error? with
      | none => rfl
      | some f => exact (Option.filter_some_neg (by simpa using hn)).symm

theorem pairwise_preferences (nodePool : String) (annotations : Annotations) :
    (ofAnnotations nodePool annotations).preferences.Pairwise
      fun p q => p.number < q.number := by
  rw [preferences, Table.values, List.pairwise_map]
  refine (ofAnnotations nodePool annotations).byNumber.ascending.imp_of_mem ?_
  intro a b ha hb hab
  rw [(of_get?_ofAnnotations (Table.get?_eq_some_iff.2 ha)).2,
    (of_get?_ofAnnotations (Table.get?_eq_some_iff.2 hb)).2]
  exact Nat.compare_eq_lt.1 hab

theorem pairwise_errors (nodePool : String) (annotations : Annotations) :
    (ofAnnotations nodePool annotations).errors.Pairwise
      fun a b => compare a.key b.key = .lt := by
  rw [(summed_entries nodePool annotations).errors_eq, List.pairwise_filterMap]
  refine annotations.ascending.imp ?_
  intro a b hab x hx y hy
  obtain ⟨f, -, rfl⟩ := Option.map_eq_some_iff.1 hx
  obtain ⟨g, -, rfl⟩ := Option.map_eq_some_iff.1 hy
  exact hab

end

/-- **Partition.** Every annotation has one verdict, from those before it in key order, and these
are what is declared, each of them once. The errors ascend by key and the preferences by number.
The preference for a number is that of the first good annotation whose key denotes it, and
annotations whose keys do not denote it make no difference. -/
theorem partition_annotations (nodePool : String) (annotations : Annotations) :
    let d := ofAnnotations nodePool annotations
    (∃ verdict : String × String → Verdict,
      (∀ e ∈ annotations.entries, ∀ v,
        Yields nodePool (before annotations.entries e.1) e.1 e.2 v ↔ v = verdict e) ∧
      d.errors = annotations.entries.filterMap
        (fun e => (verdict e).error?.map (AnnotationError.mk e.1)) ∧
      d.preferences.Perm (annotations.entries.filterMap fun e => (verdict e).preference?)) ∧
    (d.errors.Pairwise fun a b => compare a.key b.key = .lt) ∧
    (d.preferences.Pairwise fun p q => p.number < q.number) ∧
    (∀ n, d.preferences.find? (·.number == n) = annotations.entries.findSome? fun e =>
      if Denotes e.1 n then (Preference.read nodePool n e.2).toOption else none) ∧
    ∀ n, d.outcome n =
      (ofAnnotations nodePool (annotations.filter fun key _ => Denotes key n)).outcome n := by
  intro d
  obtain ⟨-, herrors, hpreferences⟩ := summed_entries nodePool annotations
  refine ⟨⟨fun e => verdict nodePool (before annotations.entries e.1) e,
    fun e _ v => yields_iff, herrors, hpreferences⟩, pairwise_errors nodePool annotations,
    pairwise_preferences nodePool annotations, find?_ofAnnotations nodePool annotations,
    fun n => (outcome_filter nodePool annotations n).symm⟩

end Declared
end PriceOverlay
