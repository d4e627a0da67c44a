import Mathlib.Data.List.Induction
import PriceOverlay.Proofs.Lookup
import PriceOverlay.Proofs.Settings.Assignment
import PriceOverlay.Proofs.Text.Lower
import PriceOverlay.Settings.Environment
/-!
# The settings of the environment

The names of variables are told apart without regard to case, and of several with one name the last
counts. The keys that they stand for are in small letters already.

**Results**
* `get?_settings`: the setting of a key is that of the last variable for it.
* `kept_of_value?`: what is left of the value of a variable when all settings are set.
-/
namespace PriceOverlay.Environment

/-! ## Keys -/

theorem mem_of_mem_pointed {cs : List Char} {c : Char} (h : c ∈ pointed cs) : c = '.' ∨ c ∈ cs := by
  fun_induction pointed cs with
  | case1 r ih =>
    rcases List.mem_cons.1 h with rfl | h
    · exact .inl rfl
    · exact (ih h).imp_right fun h => by simp [h]
  | case2 d r _ ih =>
    rcases List.mem_cons.1 h with rfl | h
    · exact .inr List.mem_cons_self
    · exact (ih h).imp_right (List.mem_cons_of_mem d)
  | case3 => cases h

theorem lowered_of_key? {name key : String} (h : key? name = some key) :
    Text.lowered key = key := by
  unfold key? at h
  dsimp only at h
  split at h
  · rw [← Option.some.inj h]
    refine Text.lowered_eq_self fun c hc => ?_
    rw [String.toList_ofList] at hc
    rcases mem_of_mem_pointed hc with rfl | hc
    · decide
    · exact Text.lower_of_mem_lowered (List.mem_of_mem_drop hc)
  · cases h

/-! ## Values -/

/-- The value that variables have under a name, whatever the case of its letters: that of the last
one. -/
def value? (vs : Variables) (name : String) : Option String :=
  (vs.reverse.find? fun v => key? v.1 == key? name).map (·.2)

theorem value?_append (vs : Variables) (v : String × String) (name : String) :
    value? (vs ++ [v]) name = if key? v.1 = key? name then some v.2 else value? vs name := by
  rw [value?, List.reverse_append, List.reverse_singleton, List.singleton_append, List.find?_cons]
  by_cases h : key? v.1 = key? name
  · rw [if_pos h, beq_iff_eq.2 h]
    rfl
  · rw [if_neg h, beq_false_of_ne h]
    rfl

theorem settings_append (vs : Variables) (v : String × String) :
    settings (vs ++ [v]) =
      (key? v.1).elim (settings vs) fun k => (settings vs).insert k (setting v.2) := by
  rw [settings, List.filterMap_append, Table.ofList, List.foldl_append, List.filterMap_cons]
  cases key? v.1 <;> rfl

/-- The setting of a key is that of the last variable for it. -/
theorem get?_settings (vs : Variables) {name key : String} (h : key? name = some key) :
    (settings vs).get? key = (value? vs name).map setting := by
  -- from the last variable, the only one that can have overridden another
  induction vs using List.reverseRecOn with
  | nil => rfl
  | append_singleton vs v ih =>
    rw [settings_append, value?_append, h]
    cases hv : key? v.1 with
    | none => exact ih
    | some k =>
      rw [Option.elim_some, Table.get?_insert_eq, ih]
      by_cases hk : k = key
      · rw [hk, if_pos rfl, if_pos rfl, Option.map_some]
      · rw [if_neg (Ne.symm hk), if_neg (fun he => hk (Option.some.inj he))]

theorem exists_key?_of_get?_settings {vs : Variables} {key : String} {s : Setting}
    (h : (settings vs).get? key = some s) : ∃ name, key? name = some key := by
  induction vs using List.reverseRecOn with
  | nil => cases h
  | append_singleton vs v ih =>
    rw [settings_append] at h
    cases hv : key? v.1 with
    | none =>
      rw [hv, Option.elim_none] at h
      exact ih h
    | some k =>
      rw [hv, Option.elim_some, Table.get?_insert_eq] at h
      split at h
      · rename_i hk
        exact ⟨v.1, hk ▸ hv⟩
      · exact ih h

theorem isCollection_setting (value : String) : (setting value).isCollection = false := by
  fun_cases setting value <;> rfl

/-- When the settings of the environment are set over others, what is left of the value of a
variable is its setting, unless another variable has made a collection of it. -/
theorem kept_of_value? {vs : Variables} {name key v : String} (hkey : key? name = some key)
    (hplain : KeyStep.IsPlain key) (hv : value? vs name = some v) (t : Setting) :
    Setting.Kept (setting v)
      (((settings vs).entries.foldl (fun s e => s.set e.1 e.2) t).get? key) := by
  refine Setting.kept_foldl_set (settings vs).nodup_keys ?_ hplain (isCollection_setting v) ?_ t
  · intro e he
    obtain ⟨name, hname⟩ := exists_key?_of_get?_settings (Table.get?_eq_some_iff.2 he)
    exact lowered_of_key? hname
  · rw [← Table.get?_eq_some_iff, get?_settings vs hkey, hv, Option.map_some]

end PriceOverlay.Environment
