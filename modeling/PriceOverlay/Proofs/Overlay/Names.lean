import PriceOverlay.Overlay.Rendering
import PriceOverlay.Proofs.Text.Ends
/-!
# Names of overlays

Making a name of a text keeps what is a name already, and a name within a text is kept with what
stands around it. So the overlays of NodePools have names of their own. The names of decisions are
told apart by the words they begin with, and by what follows on these as long as nothing is cut from
their ends.

**Results**
* `Name.isTidy_sanitize`: what is made of a text has the form of a name.
* `Name.toList_sanitize_around`: a name within a text.
* `preferenceOverlayName_injective`: NodePool and number can be read back from the name.
* `PlanKey.toList_overlayName_regional`: the characters of the name for a regional plan.
* `PlanKey.overlayName_ne_reserved`, `PlanKey.overlayName_regional_ne_global`: names of
  different commitments differ.
-/
namespace PriceOverlay

/-! ## Making names -/

theorem Text.mem_of_getLast?_append {a b : List Char} (hb : b ≠ []) {c : Char}
    (h : c ∈ (a ++ b).getLast?) : c ∈ b := by
  rw [List.getLast?_append] at h
  cases hl : b.getLast? with
  | none => exact absurd (List.getLast?_eq_none_iff.1 hl) hb
  | some d =>
    rw [hl, Option.some_or] at h
    cases h
    exact List.mem_of_getLast? hl

namespace Name

theorem lower_of_allowed {c : Char} (h : allowed c = true) : Text.lower c = [c] := by
  unfold Text.lower
  split
  · rename_i hc
    revert h
    simp only [allowed, Decimal.isDigit, Bool.or_eq_true, decide_eq_true_eq, beq_iff_eq]
    simp only [Char.le_def, UInt32.le_iff_toNat_le] at hc ⊢
    rintro (((h | h) | rfl) | rfl) <;> simp_all
    · omega
    · omega
  · split
    · rename_i hc
      subst hc
      exact absurd h (by decide)
    · split
      · rename_i hc
        subst hc
        exact absurd h (by decide)
      · rfl

theorem fold_append (a b : List Char) : fold (a ++ b) = fold a ++ fold b := by
  rw [fold, List.flatMap_append, List.map_append, fold, fold]

theorem fold_of_allowed {cs : List Char} (h : ∀ c ∈ cs, allowed c = true) : fold cs = cs := by
  induction cs with
  | nil => rfl
  | cons c r ih =>
    simp only [List.forall_mem_cons] at h
    have hc : fold [c] = [c] := by
      simp only [fold, List.flatMap_singleton, lower_of_allowed h.1, List.map_cons, h.1, if_true,
        List.map_nil]
    rw [← List.singleton_append, fold_append, hc, ih h.2]

theorem sanitize_of_ends {s : String} (hh : ∀ c ∈ (fold s.toList).head?, isEdge c = false)
    (hl : ∀ c ∈ (fold s.toList).getLast?, isEdge c = false) :
    (sanitize s).toList = fold s.toList := by
  rw [sanitize, String.toList_ofList, Text.trimEnds_of_ends hh hl]

/-- Whether a text is an object name; those of a cluster keep to further rules on dots. -/
def isName (s : String) : Bool :=
  !s.isEmpty && s.toList.all allowed && s.toList.head?.all (!isEdge ·) &&
    s.toList.getLast?.all (!isEdge ·)

theorem allowed_of_isName {s : String} (h : isName s = true) :
    ∀ c ∈ s.toList, allowed c = true := by
  simp only [isName, Bool.and_eq_true] at h
  exact List.all_eq_true.1 h.1.1.2

/-- A name begins with a character that is no edge. -/
theorem exists_head_of_isName {s : String} (h : isName s = true) :
    ∃ c cs, s.toList = c :: cs ∧ isEdge c = false := by
  simp only [isName, Bool.and_eq_true, Bool.not_eq_true'] at h
  cases hs : s.toList with
  | nil =>
    rw [String.toList_eq_nil_iff.1 hs] at h
    exact absurd h.1.1.1 (by decide)
  | cons c cs =>
    refine ⟨c, cs, rfl, ?_⟩
    have hc := h.1.2
    rw [hs] at hc
    simpa using hc

/-- Lower-case ASCII letters, digits, dashes and dots, with neither a dash nor a dot at an end. -/
structure IsTidy (s : String) : Prop where
  chars : ∀ c ∈ s.toList, ('a' ≤ c ∧ c ≤ 'z') ∨ ('0' ≤ c ∧ c ≤ '9') ∨ c = '-' ∨ c = '.'
  head : ∀ c ∈ s.toList.head?, c ≠ '-' ∧ c ≠ '.'
  last : ∀ c ∈ s.toList.getLast?, c ≠ '-' ∧ c ≠ '.'

theorem allowed_iff {c : Char} : allowed c = true ↔
    ('a' ≤ c ∧ c ≤ 'z') ∨ ('0' ≤ c ∧ c ≤ '9') ∨ c = '-' ∨ c = '.' := by
  simp only [allowed, Decimal.isDigit, Bool.or_eq_true, decide_eq_true_eq, beq_iff_eq, or_assoc]

theorem isEdge_eq_false_iff {c : Char} : isEdge c = false ↔ c ≠ '-' ∧ c ≠ '.' := by
  simp only [isEdge, Bool.or_eq_false_iff, beq_eq_false_iff_ne, ne_eq]

/-- The object names are the tidy texts that are not empty. -/
theorem isName_iff {s : String} : isName s = true ↔ s ≠ "" ∧ IsTidy s := by
  simp only [isName, Bool.and_eq_true, Bool.not_eq_true', String.isEmpty_eq_false_iff,
    List.all_eq_true, Option.all_eq_true, allowed_iff, isEdge_eq_false_iff, and_assoc]
  exact and_congr_right fun _ =>
    ⟨fun ⟨chars, head, last⟩ => ⟨chars, head, last⟩, fun ⟨chars, head, last⟩ => ⟨chars, head, last⟩⟩

theorem allowed_of_mem_fold {c : Char} {cs : List Char} (h : c ∈ fold cs) : allowed c = true := by
  obtain ⟨d, -, rfl⟩ := List.mem_map.1 h
  split
  · assumption
  · decide

/-- What is made of a text is tidy, whatever the text. -/
theorem isTidy_sanitize (s : String) : IsTidy (sanitize s) where
  chars := by
    rw [sanitize, String.toList_ofList]
    exact fun c hc => allowed_iff.1 (allowed_of_mem_fold (Text.mem_of_mem_trimEnds hc))
  head := by
    rw [sanitize, String.toList_ofList]
    exact fun c hc => isEdge_eq_false_iff.1 (Text.head_trimEnds c hc)
  last := by
    rw [sanitize, String.toList_ofList]
    exact fun c hc => isEdge_eq_false_iff.1 (Text.last_trimEnds c hc)

/-- An object name within a text stays as it is in the name of the text. -/
theorem toList_sanitize_around {x : String} (hx : isName x = true) (s t : String) :
    (sanitize (s ++ x ++ t)).toList =
      (fold s.toList).dropWhile isEdge ++ x.toList ++ (fold t.toList).rdropWhile isEdge := by
  obtain ⟨hne, tidy⟩ := isName_iff.1 hx
  have hfold : fold (s ++ x ++ t).toList = fold s.toList ++ x.toList ++ fold t.toList := by
    rw [String.toList_append, String.toList_append, fold_append, fold_append,
      fold_of_allowed (allowed_of_isName hx)]
  rw [sanitize, String.toList_ofList, hfold]
  exact Text.trimEnds_around (String.toList_eq_nil_iff.not.2 hne)
    (fun c hc => isEdge_eq_false_iff.2 (tidy.head c hc))
    (fun c hc => isEdge_eq_false_iff.2 (tidy.last c hc))

/-- A text with an object name in it has a name therefore. -/
theorem isName_sanitize_around {x : String} (hx : isName x = true) (s t : String) :
    isName (sanitize (s ++ x ++ t)) = true := by
  refine isName_iff.2 ⟨fun h => ?_, isTidy_sanitize _⟩
  have hlist := toList_sanitize_around hx s t
  rw [h] at hlist
  simp only [String.toList_empty, List.nil_eq, List.append_eq_nil_iff] at hlist
  exact (isName_iff.1 hx).1 (String.toList_eq_nil_iff.1 hlist.1.2)

end Name

/-! ## Preferences -/

namespace Decimal

theorem isDigit_of_mem_digits {n : Nat} {c : Char} (h : c ∈ digits n) : isDigit c = true := by
  have hc := Nat.isDigit_of_mem_toDigits (by decide) (by decide) h
  simpa [isDigit, Char.isDigit, Char.le_def, UInt32.le_iff_toNat_le] using hc

theorem digits_ne_nil (n : Nat) : digits n ≠ [] := by
  simp [digits]

theorem digits_injective {m n : Nat} (h : digits m = digits n) : m = n := by
  calc
    m = Nat.ofDigitChars 10 (digits m) 0 := Nat.ofDigitChars_ten_toDigits.symm
    _ = Nat.ofDigitChars 10 (digits n) 0 := by rw [h]
    _ = n := Nat.ofDigitChars_ten_toDigits

theorem natural_injective {m n : Nat} (h : natural m = natural n) : m = n :=
  digits_injective (String.ofList_injective h)

end Decimal

namespace Text

/-- The first dash parts a text in one way. -/
theorem eq_of_first_dash {x y a b : List Char} (hx : '-' ∉ x) (hy : '-' ∉ y)
    (h : x ++ '-' :: a = y ++ '-' :: b) : x = y ∧ a = b := by
  induction x generalizing y with
  | nil =>
    cases y with
    | nil => exact ⟨rfl, (List.cons.inj h).2⟩
    | cons c r => exact absurd (List.mem_cons.2 (.inl (List.cons.inj h).1)) hy
  | cons c r ih =>
    cases y with
    | nil => exact absurd (List.mem_cons.2 (.inl (List.cons.inj h).1.symm)) hx
    | cons d t =>
      simp only [List.mem_cons, not_or] at hx hy
      obtain ⟨hcd, ht⟩ := List.cons.inj h
      obtain ⟨hr, hab⟩ := ih hx.2 hy.2 ht
      exact ⟨by rw [hcd, hr], hab⟩

/-- The last dash parts a text in one way. -/
theorem eq_of_last_dash {a b x y : List Char} (hx : '-' ∉ x) (hy : '-' ∉ y)
    (h : a ++ '-' :: x = b ++ '-' :: y) : a = b ∧ x = y := by
  have hr := congrArg List.reverse h
  simp only [List.reverse_append, List.reverse_cons, List.append_assoc,
    List.singleton_append] at hr
  obtain ⟨hxy, hab⟩ := eq_of_first_dash (by simpa using hx) (by simpa using hy) hr
  exact ⟨List.reverse_inj.1 hab, List.reverse_inj.1 hxy⟩

end Text

/-- Digits may stand anywhere in a name. -/
theorem Name.of_mem_digits {n : Nat} {c : Char} (hc : c ∈ Decimal.digits n) :
    allowed c = true ∧ isEdge c = false := by
  have h := Decimal.isDigit_of_mem_digits hc
  refine ⟨by simp [allowed, h], ?_⟩
  simp only [isEdge, Bool.or_eq_false_iff, beq_eq_false_iff_ne]
  constructor <;> rintro rfl <;> exact absurd h (by decide)

/-- What the name for a preference ends with is an object name already. -/
theorem Name.isName_numbered (n : Nat) : isName ("preference-" ++ Decimal.natural n) = true := by
  have hlist : ("preference-" ++ Decimal.natural n).toList =
      "preference-".toList ++ Decimal.digits n := by
    rw [String.toList_append, show (Decimal.natural n).toList = _ from String.toList_ofList]
  refine isName_iff.2 ⟨fun h => ?_, ?_, ?_, ?_⟩
  · rw [h] at hlist
    cases hlist
  · rw [hlist]
    intro c hc
    have hword : "preference-".toList.all allowed = true := by decide
    exact allowed_iff.1 <| (List.mem_append.1 hc).elim (List.all_eq_true.1 hword c)
      fun hc => (of_mem_digits hc).1
  · rw [hlist]
    rintro c ⟨⟩
    decide
  · rw [hlist]
    intro c hc
    exact isEdge_eq_false_iff.1
      (of_mem_digits (Text.mem_of_getLast?_append (Decimal.digits_ne_nil n) hc)).2

theorem preferenceOverlayName_around (nodePool : String) (n : Nat) :
    preferenceOverlayName nodePool n =
      Name.sanitize (nodePool ++ "-" ++ ("preference-" ++ Decimal.natural n) ++ "") := by
  have hword : "-preference-" = "-" ++ "preference-" := by decide
  rw [preferenceOverlayName, hword]
  simp only [String.append_assoc, String.append_empty]

/-- Whatever the NodePool is called, its overlays have names: the number is kept. -/
theorem isName_preferenceOverlayName (nodePool : String) (n : Nat) :
    Name.isName (preferenceOverlayName nodePool n) = true := by
  rw [preferenceOverlayName_around]
  exact Name.isName_sanitize_around (Name.isName_numbered n) _ _

theorem preferenceOverlayName_ne_empty (p : String) (n : Nat) : preferenceOverlayName p n ≠ "" :=
  (Name.isName_iff.1 (isName_preferenceOverlayName p n)).1

theorem toList_preferenceOverlayName {p : String} (hp : Name.isName p = true) (n : Nat) :
    (preferenceOverlayName p n).toList =
      (p.toList ++ "-preference".toList) ++ '-' :: Decimal.digits n := by
  have hs : (p ++ "-preference-" ++ Decimal.natural n).toList =
      (p.toList ++ "-preference".toList) ++ '-' :: Decimal.digits n := by
    simp [Decimal.natural]
  have hf : Name.fold (p ++ "-preference-" ++ Decimal.natural n).toList =
      (p.toList ++ "-preference".toList) ++ '-' :: Decimal.digits n := by
    rw [hs]
    refine Name.fold_of_allowed fun c hc => ?_
    simp only [List.mem_append, List.mem_cons] at hc
    rcases hc with (hc | hc) | rfl | hc
    · exact Name.allowed_of_isName hp c hc
    · have hword : "-preference".toList.all Name.allowed = true := by decide
      exact List.all_eq_true.1 hword c hc
    · decide
    · exact (Name.of_mem_digits hc).1
  rw [preferenceOverlayName, Name.sanitize_of_ends ?_ ?_, hf] <;> rw [hf] <;> intro c hc
  · obtain ⟨d, r, hd, he⟩ := Name.exists_head_of_isName hp
    rw [hd] at hc
    cases hc
    exact he
  · rw [List.append_cons] at hc
    exact (Name.of_mem_digits (Text.mem_of_getLast?_append (Decimal.digits_ne_nil n) hc)).2

theorem preferenceOverlayName_injective {p q : String} (hp : Name.isName p = true)
    (hq : Name.isName q = true) {m n : Nat}
    (h : preferenceOverlayName p m = preferenceOverlayName q n) : p = q ∧ m = n := by
  have hl := congrArg String.toList h
  rw [toList_preferenceOverlayName hp, toList_preferenceOverlayName hq] at hl
  have hdash : ∀ n, '-' ∉ Decimal.digits n := fun n hm =>
    absurd (Decimal.isDigit_of_mem_digits hm) (by decide)
  obtain ⟨hpq, hd⟩ := Text.eq_of_last_dash (hdash m) (hdash n) hl
  exact ⟨String.toList_inj.1 (List.append_cancel_right hpq), Decimal.digits_injective hd⟩

/-! ## Decisions -/

namespace Name

/-- ASCII letters and digits. -/
def isAlnum (c : Char) : Bool :=
  decide ('a' ≤ c ∧ c ≤ 'z') || decide ('A' ≤ c ∧ c ≤ 'Z') || Decimal.isDigit c

/-- Whether a text begins and ends with an ASCII letter or digit. -/
def isPlain (s : String) : Bool := s.toList.head?.any isAlnum && s.toList.getLast?.any isAlnum

theorem isEdge_of_isAlnum {c : Char} (h : isAlnum c = true) : isEdge c = false := by
  rw [isEdge_eq_false_iff]
  constructor <;> rintro rfl <;> exact absurd h (by decide)

theorem fold_alnum {c : Char} (h : isAlnum c = true) :
    ∃ d, fold [c] = [d] ∧ isEdge d = false := by
  by_cases hu : 'A' ≤ c ∧ c ≤ 'Z'
  · have hall : ∀ n < 26, fold [Char.ofNat (n + 65)] = [Char.ofNat (n + 97)] ∧
        isEdge (Char.ofNat (n + 97)) = false := by decide +kernel
    have hlo : 65 ≤ c.toNat := by simpa [Char.le_def, UInt32.le_iff_toNat_le] using hu.1
    have hhi : c.toNat ≤ 90 := by simpa [Char.le_def, UInt32.le_iff_toNat_le] using hu.2
    have hc := hall (c.toNat - 65) (by omega)
    rw [Nat.sub_add_cancel hlo, Char.ofNat_toNat] at hc
    exact ⟨_, hc⟩
  · refine ⟨c, fold_of_allowed fun d hd => ?_, isEdge_of_isAlnum h⟩
    simp only [isAlnum, hu, decide_false, Bool.or_false] at h
    rw [List.mem_singleton.1 hd, allowed, Bool.or_assoc, h, Bool.true_or]

/-- The name of a text that begins like a name and ends plainly is the text folded. -/
theorem toList_sanitize {s region : String} {c : Char} {cs : List Char}
    (hs : s.toList = (c :: cs) ++ region.toList) (hc : allowed c = true) (he : isEdge c = false)
    (hr : isPlain region = true) : (sanitize s).toList = fold s.toList := by
  refine sanitize_of_ends ?_ ?_ <;> rw [hs, fold_append]
  · rw [← List.singleton_append, fold_append, fold_of_allowed (by simpa using hc)]
    rintro d ⟨⟩
    exact he
  · simp only [isPlain, Bool.and_eq_true, Option.any_eq_true] at hr
    obtain ⟨-, d, hd, ha⟩ := hr
    obtain ⟨r, hr⟩ := List.getLast?_eq_some_iff.1 hd
    obtain ⟨d', hf, hd'⟩ := fold_alnum ha
    rw [hr, fold_append, hf, ← List.append_assoc, List.getLast?_concat]
    rintro _ ⟨⟩
    exact hd'

end Name

theorem PlanKey.toList_overlayName_regional {family region : String}
    (hr : Name.isPlain region = true) : (regional family region).overlayName.toList =
      "savings-plan-".toList ++ Name.fold family.toList ++ '-' :: Name.fold region.toList := by
  have hs : ("savings-plan-" ++ family ++ "-" ++ region).toList =
      ("savings-plan-".toList ++ family.toList ++ "-".toList) ++ region.toList := by
    simp only [String.toList_append, List.append_assoc]
  rw [overlayName, Name.toList_sanitize hs (by decide) (by decide) hr, hs]
  simp only [Name.fold_append, List.append_assoc]
  rfl

/-- Nothing like the family and region of a plan is in the name for plans of every family. -/
theorem PlanKey.overlayName_regional_ne_global {family region : String}
    (hr : Name.isPlain region = true) :
    (regional family region).overlayName ≠ PlanKey.global.overlayName := by
  intro h
  have hl := congrArg String.toList h
  rw [toList_overlayName_regional hr, overlayName,
    show "savings-plan-global".toList = "savings-plan-".toList ++ "global".toList from by decide,
    List.append_assoc, List.append_cancel_left_eq] at hl
  exact absurd (hl ▸ List.mem_append_right _ List.mem_cons_self) (by decide : '-' ∉ "global".toList)

theorem PlanKey.overlayName_around (family region : String) :
    (regional family region).overlayName =
      Name.sanitize ("" ++ "savings-plan" ++ ("-" ++ family ++ "-" ++ region)) := by
  have hword : "savings-plan-" = "savings-plan" ++ "-" := by decide
  rw [overlayName, hword]
  simp only [String.append_assoc, String.empty_append]

theorem ReservedKey.overlayName_around (k : ReservedKey) :
    k.overlayName =
      Name.sanitize ("" ++ "reserved-instance" ++ ("-" ++ k.instanceType ++ "-" ++ k.region)) := by
  have hword : "reserved-instance-" = "reserved-instance" ++ "-" := by decide
  rw [overlayName, hword]
  simp only [String.append_assoc, String.empty_append]

theorem PlanKey.isName_overlayName (k : PlanKey) : Name.isName k.overlayName = true := by
  cases k with
  | global => decide
  | regional family region =>
    rw [overlayName_around]
    exact Name.isName_sanitize_around (by decide) _ _

theorem ReservedKey.isName_overlayName (k : ReservedKey) : Name.isName k.overlayName = true := by
  rw [overlayName_around]
  exact Name.isName_sanitize_around (by decide) _ _

theorem PlanKey.overlayName_ne_empty (k : PlanKey) : k.overlayName ≠ "" :=
  (Name.isName_iff.1 k.isName_overlayName).1

theorem ReservedKey.overlayName_ne_empty (k : ReservedKey) : k.overlayName ≠ "" :=
  (Name.isName_iff.1 k.isName_overlayName).1

/-- The name for savings plans begins with what they are called, even if the family and the region
leave nothing behind. -/
theorem PlanKey.begins_savingsPlan (k : PlanKey) :
    "savings-plan".toList <+: k.overlayName.toList := by
  cases k with
  | global => exact ⟨"-global".toList, rfl⟩
  | regional family region =>
    rw [overlayName_around, Name.toList_sanitize_around (by decide)]
    exact List.prefix_append _ _

theorem ReservedKey.begins_reservedInstance (k : ReservedKey) :
    "reserved-instance".toList <+: k.overlayName.toList := by
  rw [overlayName_around, Name.toList_sanitize_around (by decide)]
  exact List.prefix_append _ _

/-- No savings plan shares its name with a reserved instance. -/
theorem PlanKey.overlayName_ne_reserved (k : PlanKey) (j : ReservedKey) :
    k.overlayName ≠ j.overlayName := by
  intro h
  obtain ⟨t, ht⟩ := j.begins_reservedInstance
  obtain ⟨u, hu⟩ := k.begins_savingsPlan
  rw [h, ← ht] at hu
  exact absurd (List.cons.inj hu).1 (by decide)

end PriceOverlay
