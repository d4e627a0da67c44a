import PriceOverlay.Cli.Run
import PriceOverlay.Proofs.Lookup
import PriceOverlay.Proofs.Overlay.Names
/-!
# Lint tells what the controller would do

The annotations of a NodePool can be given to `lint` one by one, in any order and with keys in full
or shortened. It puts them together to the same table that the controller reads, so it shows the
same overlays and reports the same errors.

**Results**
* `Collected.add_of_spells`: an argument is taken for the annotation that it spells out.
* `Collected.ofArguments_of_spells`: all of them are collected, whatever their order.
* `report_eq_declared`: the report is that of the NodePool.
-/
namespace PriceOverlay

namespace Cli.Lint

/-! ## Arguments that spell out annotations -/

/-- A key of a preference that can be written before an equals sign. -/
structure Plain (key : String) : Prop where
  start : annotationStart.toList <+: key.toList
  noEquals : '=' ∉ key.toList
  trimmed : Text.trim key.toList = key.toList

/-- An argument spells out an annotation: its key in full, or shortened. -/
inductive Spells : String × String → String → Prop
  | full (key value : String) : Spells (key, value) (key ++ "=" ++ value)
  | short (suffix value : String) :
      Spells (annotationStart ++ suffix, value) (shortStart ++ suffix ++ "=" ++ value)

theorem Plain.fullKey? {key : String} (h : Plain key) : fullKey? key.toList = some key := by
  have hstart : annotationStart.toList.isPrefixOf key.toList = true :=
    List.isPrefixOf_iff_prefix.2 h.start
  rw [Lint.fullKey?, if_pos hstart, String.ofList_toList]

/-- A shortened key begins otherwise than a full one, and is read as the full one. -/
theorem fullKey?_short (suffix : String) :
    fullKey? (shortStart ++ suffix).toList = some (annotationStart ++ suffix) := by
  have hno : ¬ annotationStart.toList.isPrefixOf (shortStart ++ suffix).toList = true := by
    rw [String.toList_append]
    exact nofun
  have hafter : Text.after? shortStart.toList (shortStart ++ suffix).toList =
      some suffix.toList := by
    have hp : shortStart.toList.isPrefixOf (shortStart.toList ++ suffix.toList) = true :=
      List.isPrefixOf_iff_prefix.2 (List.prefix_append _ _)
    rw [String.toList_append, Text.after?, if_pos hp, List.drop_left]
  rw [Lint.fullKey?, if_neg hno, hafter, Option.map_some, String.ofList_toList]

/-- A shortened key is as plain as the full one. -/
theorem Plain.short {suffix : String} (h : Plain (annotationStart ++ suffix)) :
    '=' ∉ (shortStart ++ suffix).toList ∧
      Text.trim (shortStart ++ suffix).toList = (shortStart ++ suffix).toList := by
  have hequals := h.noEquals
  have hlast := Text.last_of_trimEnds h.trimmed
  rw [String.toList_append] at hequals hlast
  rw [String.toList_append]
  refine ⟨?_, Text.trimEnds_of_ends ?_ ?_⟩
  · rw [List.mem_append, not_or] at hequals ⊢
    exact ⟨by decide, hequals.2⟩
  · intro c hc
    cases hc
    decide
  · intro c hc
    by_cases hs : suffix.toList = []
    · rw [hs, List.append_nil] at hc
      cases hc
      decide
    · rw [List.getLast?_append_of_ne_nil _ hs] at hlast hc
      exact hlast c hc

/-! ## Collecting -/

namespace Collected

variable {c : Collected}

/-- An argument whose key reads as a new one is taken for the annotation under that key. -/
theorem add_of_key {written key : String} (hequals : '=' ∉ written.toList)
    (htrim : Text.trim written.toList = written.toList)
    (hfull : fullKey? written.toList = some key) (hnew : c.annotations.contains key = false)
    (value : String) :
    c.add (written ++ "=" ++ value) =
      { c with annotations := c.annotations.insert key value } := by
  have hlist : (written ++ "=" ++ value).toList = written.toList ++ '=' :: value.toList := by
    rw [String.toList_append, String.toList_append, List.append_assoc]
    rfl
  have hkey : (written ++ "=" ++ value).toList.takeWhile (· != '=') = written.toList := by
    have hno : ∀ a ∈ written.toList, (a != '=') = true := by
      intro a ha
      rw [bne_iff_ne]
      rintro rfl
      exact hequals ha
    rw [hlist, List.takeWhile_append_of_pos hno, List.takeWhile_cons_of_neg (by decide),
      List.append_nil]
  unfold add
  dsimp only
  rw [hkey, hlist, List.drop_left]
  dsimp only
  rw [htrim, hfull]
  dsimp only
  rw [hnew, String.ofList_toList]
  rfl

/-- An argument is taken for the annotation that it spells out. -/
theorem add_of_spells {e : String × String} {argument : String} (h : Spells e argument)
    (hplain : Plain e.1) (hnew : c.annotations.contains e.1 = false) :
    c.add argument = { c with annotations := c.annotations.insert e.1 e.2 } := by
  cases h with
  | full key value => exact add_of_key hplain.noEquals hplain.trimmed hplain.fullKey? hnew value
  | short suffix value =>
    exact add_of_key hplain.short.1 hplain.short.2 (fullKey?_short suffix) hnew value

theorem foldl_add {entries : List (String × String)} {arguments : List String}
    (h : List.Forall₂ Spells entries arguments) (hplain : ∀ e ∈ entries, Plain e.1)
    (hnodup : (entries.map (·.1)).Nodup)
    (hnew : ∀ e ∈ entries, c.annotations.contains e.1 = false) :
    arguments.foldl add c =
      { c with annotations := entries.foldl (fun t e => t.insert e.1 e.2) c.annotations } := by
  induction h generalizing c with
  | nil => rfl
  | @cons e argument entries arguments hspell _ ih =>
    simp only [List.map_cons, List.nodup_cons] at hnodup
    simp only [List.forall_mem_cons] at hplain hnew
    rw [List.foldl_cons, add_of_spells hspell hplain.1 hnew.1]
    refine ih hplain.2 hnodup.2 fun e' he' => ?_
    have hne : e'.1 ≠ e.1 := fun he => hnodup.1 (he ▸ List.mem_map.2 ⟨e', he', rfl⟩)
    have hnone := Table.contains_eq_false_iff.1 (hnew.2 e' he')
    exact Table.contains_eq_false_iff.2 (by rw [Table.get?_insert_eq, if_neg hne, hnone])

/-- Arguments that spell out annotations, in any order, are collected without an error. -/
theorem ofArguments_of_spells {annotations : Annotations} {entries : List (String × String)}
    {arguments : List String} (hplain : ∀ e ∈ annotations.entries, Plain e.1)
    (horder : entries.Perm annotations.entries) (h : List.Forall₂ Spells entries arguments) :
    ofArguments arguments = ⟨annotations, []⟩ := by
  have hnodup : (entries.map (·.1)).Nodup :=
    (horder.map _).nodup_iff.2 annotations.nodup_keys
  rw [ofArguments, foldl_add h (fun e he => hplain e (horder.mem_iff.1 he)) hnodup fun _ _ => rfl]
  show (⟨Table.ofList entries, []⟩ : Collected) = _
  rw [Table.ofList_of_perm horder]

end Collected

/-- **Lint.** For arguments that spell out the annotations of a NodePool, in any order and with any
keys shortened, the report shows the overlays that the controller wants for the NodePool, as long as
no uid is known and nothing is disabled, and has its errors; and the command ends well if and only
if there are none. -/
theorem report_eq_declared (name : String) (annotations : Annotations)
    (plain : ∀ e ∈ annotations.entries, Plain e.1) (entries : List (String × String))
    (order : entries.Perm annotations.entries) (arguments : List String)
    (spelled : List.Forall₂ Spells entries arguments) :
    let p : NodePool := ⟨name, none, annotations⟩
    (Report.of name arguments).overlays = Rendering.nodePool {} p ∧
    (Report.of name arguments).errors = p.declared.errors.map AnnotationError.message ∧
    ∀ format net, ((Command.lint name arguments).run format net).code = 0 ↔
      p.declared.errors = [] := by
  intro p
  have hreport : Report.of name arguments =
      ⟨name, p.declared.preferences, p.declared.errors.map AnnotationError.message⟩ := by
    rw [Report.of, Collected.ofArguments_of_spells plain order spelled]
    rfl
  refine ⟨by rw [hreport]; rfl, by rw [hreport], fun format net => ?_⟩
  have hcode : ((Command.lint name arguments).run format net).code =
      if (Report.of name arguments).clean then 0 else 1 := rfl
  rw [hcode, hreport, Report.clean, List.isEmpty_map]
  cases p.declared.errors with
  | nil => exact ⟨fun _ => rfl, fun _ => rfl⟩
  | cons e r => exact ⟨nofun, nofun⟩

/-- A NodePool with a preference and an annotation whose key has no number. -/
def misnumbered : Annotations :=
  ((∅ : Annotations).insert "capacity-overlay.dev/preference.1"
    "kubernetes.io/arch=arm64 adjust=-20%").insert "capacity-overlay.dev/preference.one" "a=b"

theorem report_eq_declared_misnumbered :
    let arguments := ["preference.one=a=b",
      "capacity-overlay.dev/preference.1=kubernetes.io/arch=arm64 adjust=-20%"]
    (Report.of "general" arguments).overlays =
        Rendering.nodePool {} ⟨"general", none, misnumbered⟩ ∧
      (Report.of "general" arguments).errors.length = 1 ∧
      ((Command.lint "general" arguments).run .table .offline).code ≠ 0 := by
  intro arguments
  have hplain : ∀ e ∈ misnumbered.entries, Plain e.1 := by
    intro e he
    have hentries : e = ("capacity-overlay.dev/preference.1",
        "kubernetes.io/arch=arm64 adjust=-20%") ∨
        e = ("capacity-overlay.dev/preference.one", "a=b") := by
      simpa using (show e ∈ [_, _] from he)
    rcases hentries with rfl | rfl <;>
      exact ⟨by decide, by decide, by decide⟩
  have hspelled : List.Forall₂ Spells
      [("capacity-overlay.dev/preference.one", "a=b"),
        ("capacity-overlay.dev/preference.1", "kubernetes.io/arch=arm64 adjust=-20%")]
      arguments :=
    .cons (.short "one" "a=b") (.cons (.full _ _) .nil)
  have h := report_eq_declared "general" misnumbered hplain _ (List.Perm.swap _ _ []) arguments
    hspelled
  have herrors : (NodePool.mk "general" none misnumbered).declared.errors =
      [⟨"capacity-overlay.dev/preference.one", .invalidAnnotationKey
        "capacity-overlay.dev/preference.one"⟩] := by decide +kernel
  refine ⟨h.1, ?_, ?_⟩
  · rw [h.2.1, herrors]
    rfl
  · rw [ne_eq, h.2.2, herrors]
    exact nofun

end Cli.Lint
end PriceOverlay
