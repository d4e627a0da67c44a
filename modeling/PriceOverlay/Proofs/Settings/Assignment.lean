import Mathlib.Data.List.Nodup
import PriceOverlay.Settings.KeyPath
/-!
# Settings by key

A key is a path, and its first step is always a name in the table of all settings. Only this one
setting is changed: to the setting itself where the path ends there, and to a table or a list
where it goes on. So a flag, a number or a text that has been set can be lost in one way only, by a
longer key that makes a collection of it.

**Results**
* `KeyStep.ofKey_eq`: the first name of a key, and what a key without further steps is.
* `Setting.get?_set`: what is found after one setting has been set.
* `Setting.kept_foldl_set`: what is left of a setting when all have been set.
-/
namespace PriceOverlay

/-! ## Keys -/

namespace KeyStep

/-- The name that a key leads to first. -/
def first (key : String) : String :=
  match ofKey key with
  | .key name :: _ => name
  | _ => key

/-- The steps of a key after the first one. -/
def further (key : String) : List KeyStep := (ofKey key).tail

theorem eq_nil_of_rest? {fuel : Nat} {cs : List Char} (h : rest? fuel cs = some []) : cs = [] := by
  cases fuel with
  | zero => cases h
  | succ fuel =>
    unfold rest? at h
    split at h
    · rfl
    · dsimp only at h
      split at h
      · cases h
      · simp at h
    · dsimp only at h
      split at h
      · simp at h
      · cases h
    · cases h

theorem path?_eq_some {cs : List Char} {steps : List KeyStep} (h : path? cs = some steps) :
    ∃ name rest, steps = .key (String.ofList name) :: rest ∧ (rest = [] → name = cs) := by
  unfold path? at h
  dsimp only at h
  split at h
  · cases h
  · obtain ⟨rest, hrest, rfl⟩ := Option.map_eq_some_iff.1 h
    refine ⟨_, rest, rfl, ?_⟩
    rintro rfl
    have hdrop := List.drop_eq_nil_iff.1 (eq_nil_of_rest? hrest)
    exact (List.takeWhile_prefix inName).eq_of_length_le hdrop

/-- A key leads to a name first, and no further only if it is that name. -/
theorem ofKey_eq (key : String) :
    ofKey key = .key (first key) :: further key ∧ (further key = [] → first key = key) := by
  cases hpath : path? key.toList with
  | none =>
    have hkey : ofKey key = [.key key] := by rw [ofKey, hpath, Option.getD_none]
    simp only [first, further, hkey, List.tail_cons, implies_true, and_self]
  | some steps =>
    obtain ⟨name, rest, rfl, hname⟩ := path?_eq_some hpath
    have hkey : ofKey key = .key (String.ofList name) :: rest := by
      rw [ofKey, hpath, Option.getD_some]
    simp only [first, further, hkey, List.tail_cons, true_and]
    intro hrest
    rw [hname hrest, String.ofList_toList]

/-- A key in small letters that is no path. -/
def IsPlain (key : String) : Prop := ofKey key = [.key key] ∧ Text.lowered key = key

instance (key : String) : Decidable (IsPlain key) :=
  inferInstanceAs (Decidable (_ ∧ _))

/-- Of all keys in small letters only the plain one leads to its name and no further. -/
theorem further_ne_nil {key name : String} (hlow : Text.lowered key = key)
    (hfirst : Text.lowered (first key) = name) (hne : key ≠ name) : further key ≠ [] := by
  intro hnil
  rw [(ofKey_eq key).2 hnil, hlow] at hfirst
  exact hne hfirst

end KeyStep

/-! ## Tables and collections -/

namespace Setting

theorem get?_put (key : String) (s : Setting) (fs : List (String × Setting)) (k : String) :
    (table (put key s fs)).get? k = if k = key then some s else (table fs).get? k := by
  simp only [get?, fields]
  induction fs with
  | nil =>
    by_cases hk : k = key
    · simp [put, hk]
    · simp [put, hk, Ne.symm hk]
  | cons f r ih =>
    by_cases hf : f.1 = key
    · by_cases hk : k = key
      · simp [put, hf, hk]
      · simp [put, hf, hk, Ne.symm hk]
    · rw [put, if_neg (by simpa using hf), List.find?_cons, List.find?_cons]
      by_cases hk : f.1 = k
      · simp [← hk, hf]
      · simpa only [beq_false_of_ne hk] using ih

theorem get?_alter (t : Setting) (key : String) (change : Option Setting → Setting) (k : String) :
    (t.alter key change).get? k =
      if k = Text.lowered key then some (change (t.get? k)) else t.get? k := by
  rw [alter, get?_put]
  split
  · rename_i hk
    rw [hk]
  · rfl

/-- Setting a key changes the setting of its first name only. -/
theorem get?_set (old : Setting) (key : String) (s : Setting) (k : String) :
    (old.set key s).get? k =
      if k = Text.lowered (KeyStep.first key)
      then some (assign s (KeyStep.further key) (old.get? k)) else old.get? k := by
  rw [set, (KeyStep.ofKey_eq key).1, assign, Option.getD_some, get?_alter]

/-- Whether a setting is made of settings. -/
def isCollection : Setting → Bool
  | .list _ => true
  | .table _ => true
  | _ => false

/-- A collection is no text. -/
theorem text?_of_isCollection {s : Setting} (h : s.isCollection = true) : s.text? = none := by
  cases s with
  | list | table => rfl
  | _ => cases h

theorem assign_nil {s : Setting} (h : s.isCollection = false) (old : Option Setting) :
    assign s [] old = s := by
  cases s with
  | list | table => cases h
  | _ => simp only [assign, overlaid]

/-- Any further step makes a collection. -/
theorem isCollection_assign {steps : List KeyStep} (h : steps ≠ []) (s : Setting)
    (old : Option Setting) : (assign s steps old).isCollection = true := by
  fun_cases assign s steps old with
  | case1 => exact absurd rfl h
  | case2 | case3 | case4 => rfl

/-! ## What is left of a setting -/

/-- What may be found where a setting was put: the setting itself, or a collection. -/
def Kept (s : Setting) (found : Option Setting) : Prop :=
  found = some s ∨ ∃ x, found = some x ∧ x.isCollection = true

theorem get?_set_plain {k : String} (hk : KeyStep.IsPlain k) {s : Setting}
    (hs : s.isCollection = false) (t : Setting) : (t.set k s).get? k = some s := by
  have hfirst : KeyStep.first k = k := by rw [KeyStep.first, hk.1]
  have hfurther : KeyStep.further k = [] := by rw [KeyStep.further, hk.1, List.tail_cons]
  rw [get?_set, hfirst, hk.2, if_pos rfl, hfurther, assign_nil hs]

theorem kept_set {k : String} {s t : Setting} (h : Kept s (t.get? k)) {key : String}
    (hlow : Text.lowered key = key) (hne : key ≠ k) (s' : Setting) :
    Kept s ((t.set key s').get? k) := by
  rw [get?_set]
  split
  · rename_i hk
    exact .inr ⟨_, rfl, isCollection_assign (KeyStep.further_ne_nil hlow hk.symm hne) _ _⟩
  · exact h

/-- Settings with other keys may make a collection of it, and change nothing else. -/
theorem kept_foldl_set_of_ne {l : List (String × Setting)} {k : String}
    (hl : ∀ e ∈ l, Text.lowered e.1 = e.1 ∧ e.1 ≠ k) {s t : Setting} (h : Kept s (t.get? k)) :
    Kept s ((l.foldl (fun t e => t.set e.1 e.2) t).get? k) := by
  induction l generalizing t with
  | nil => exact h
  | cons e r ih =>
    rw [List.forall_mem_cons] at hl
    exact ih hl.2 (kept_set h hl.1.1 hl.1.2 e.2)

/-- Of settings that are set one after the other, each with a key of its own, what is left of a
flag, a number or a text with a plain key is the setting itself, unless there is a collection. -/
theorem kept_foldl_set {l : List (String × Setting)} (hnodup : (l.map (·.1)).Nodup)
    (hlow : ∀ e ∈ l, Text.lowered e.1 = e.1) {k : String} (hk : KeyStep.IsPlain k) {s : Setting}
    (hs : s.isCollection = false) (hmem : (k, s) ∈ l) (t : Setting) :
    Kept s ((l.foldl (fun t e => t.set e.1 e.2) t).get? k) := by
  obtain ⟨before, after, rfl⟩ := List.append_of_mem hmem
  have hafter : ∀ e ∈ after, Text.lowered e.1 = e.1 ∧ e.1 ≠ k := by
    intro e he
    refine ⟨hlow e (by simp [he]), ?_⟩
    rintro rfl
    rw [List.map_append, List.map_cons] at hnodup
    exact (List.nodup_cons.1 hnodup.of_append_right).1 (List.mem_map.2 ⟨e, he, rfl⟩)
  rw [List.foldl_append, List.foldl_cons]
  exact kept_foldl_set_of_ne hafter (.inl (get?_set_plain hk hs _))

end Setting
end PriceOverlay
