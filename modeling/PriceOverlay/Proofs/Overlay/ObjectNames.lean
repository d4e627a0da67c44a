import PriceOverlay.Proofs.Overlay.Names
import PriceOverlay.Proofs.Text.Lower
/-!
# Texts as object names

What is made of a text is an object name, or nothing where no ASCII letter or digit is left of the
text in lower case. The fixed words in the names of overlays are object names themselves, and so
none of these names is ever empty.

**Results**
* `Name.sanitize_eq_self_iff`, `Name.sanitize_eq_empty_iff`: the texts that stay as they are, and
  those of which nothing is left.
* `rtakeWhile_preferenceOverlayName`: the number of a preference is read off the end of the name.
* `object_names_usable`: the names of all overlays.
-/
namespace PriceOverlay

namespace Name

theorem fold_empty : fold "".toList = [] := rfl

theorem sanitize_eq_self_iff {s : String} : sanitize s = s ↔ IsTidy s := by
  refine ⟨fun h => h ▸ isTidy_sanitize s, fun tidy => ?_⟩
  by_cases hne : s = ""
  · rw [hne]
    decide
  · have hlist := toList_sanitize_around (isName_iff.2 ⟨hne, tidy⟩) "" ""
    rw [String.empty_append, String.append_empty, fold_empty, List.dropWhile_nil,
      List.rdropWhile_nil, List.nil_append, List.append_nil] at hlist
    exact String.toList_inj.1 hlist

/-- It makes no difference if capitals count among the letters: in lower case there are none. -/
theorem fold_eq (cs : List Char) : fold cs =
    (cs.flatMap Text.lower).map fun c => if isAlnum c || isEdge c then c else '-' := by
  refine List.map_congr_left fun c hc => ?_
  obtain ⟨d, -, hd⟩ := List.mem_flatMap.1 hc
  have hcapital := Text.not_capital_of_mem_lower hd
  have hallowed : allowed c = (isAlnum c || isEdge c) := by
    simp only [allowed, isAlnum, isEdge, hcapital, decide_false, Bool.or_false, Bool.or_assoc]
  rw [hallowed]

/-- Letters and digits are never cut, and whatever else there is becomes a dash. -/
theorem isEdge_folded (c : Char) :
    isEdge (if isAlnum c || isEdge c then c else '-') = !isAlnum c := by
  cases ha : isAlnum c with
  | true => exact isEdge_of_isAlnum ha
  | false =>
    rw [Bool.false_or]
    cases he : isEdge c with
    | true => exact he
    | false => rfl

theorem sanitize_eq_empty_iff {s : String} :
    sanitize s = "" ↔ (s.toList.flatMap Text.lower).any isAlnum = false := by
  rw [sanitize, String.ofList_eq_empty_iff, Text.trimEnds_eq_nil_iff, fold_eq, List.forall_mem_map,
    List.any_eq_false]
  simp only [isEdge_folded, Bool.not_eq_true', Bool.not_eq_true]

end Name

theorem toList_preferenceOverlayName_numbered (nodePool : String) (n : Nat) :
    (preferenceOverlayName nodePool n).toList =
      (Name.fold (nodePool ++ "-").toList).dropWhile Name.isEdge ++
        ("preference-" ++ Decimal.natural n).toList := by
  rw [preferenceOverlayName_around, Name.toList_sanitize_around (Name.isName_numbered n),
    Name.fold_empty, List.rdropWhile_nil, List.append_nil]

theorem exists_preferenceOverlayName_eq (nodePool : String) (n : Nat) :
    ∃ start, preferenceOverlayName nodePool n = start ++ "preference-" ++ Decimal.natural n := by
  refine ⟨String.ofList ((Name.fold (nodePool ++ "-").toList).dropWhile Name.isEdge),
    String.toList_inj.1 ?_⟩
  simp only [toList_preferenceOverlayName_numbered, String.toList_append, String.toList_ofList,
    List.append_assoc]

/-- The digits at the end of the name are those of the number, whatever the NodePool is called. -/
theorem rtakeWhile_preferenceOverlayName (nodePool : String) (n : Nat) :
    (preferenceOverlayName nodePool n).toList.rtakeWhile Decimal.isDigit = Decimal.digits n := by
  obtain ⟨start, hname⟩ := exists_preferenceOverlayName_eq nodePool n
  have hlist : (preferenceOverlayName nodePool n).toList =
      (start.toList ++ "preference".toList) ++ '-' :: Decimal.digits n := by
    rw [hname]
    simp [Decimal.natural]
  rw [hlist]
  exact Text.rtakeWhile_append_cons (by decide) fun _ hc => Decimal.isDigit_of_mem_digits hc

/-- **Usable names.** What is made of a text has only small ASCII letters, digits, dashes and dots,
with a letter or digit at either end, and stays as it is when a name is made of it again, as every
such text does. It is empty only if no ASCII letter or digit is in the text in lower case. That
never happens to an overlay: the name for a preference keeps its number, at the end, and the name
for savings plans or reserved instances keeps what they are called, at the beginning, whatever
characters the NodePool, the family, the region and the type of instances are written with. -/
theorem object_names_usable :
    (∀ s : String, Name.IsTidy (Name.sanitize s) ∧
      Name.sanitize (Name.sanitize s) = Name.sanitize s ∧
      (Name.sanitize s = s ↔ Name.IsTidy s) ∧
      (Name.sanitize s = "" ↔ (s.toList.flatMap Text.lower).any Name.isAlnum = false)) ∧
    (∀ (nodePool : String) (n : Nat), preferenceOverlayName nodePool n ≠ "" ∧
      Name.IsTidy (preferenceOverlayName nodePool n) ∧
      (∃ start, preferenceOverlayName nodePool n = start ++ "preference-" ++ Decimal.natural n) ∧
      (preferenceOverlayName nodePool n).toList.rtakeWhile Decimal.isDigit = Decimal.digits n) ∧
    (∀ k : PlanKey, k.overlayName ≠ "" ∧ Name.IsTidy k.overlayName ∧
      "savings-plan".toList <+: k.overlayName.toList) ∧
    ∀ k : ReservedKey, k.overlayName ≠ "" ∧ Name.IsTidy k.overlayName ∧
      "reserved-instance".toList <+: k.overlayName.toList := by
  refine ⟨fun s => ⟨Name.isTidy_sanitize s, ?_, Name.sanitize_eq_self_iff,
    Name.sanitize_eq_empty_iff⟩, fun nodePool n => ?_, fun k => ?_, fun k => ?_⟩
  · exact Name.sanitize_eq_self_iff.2 (Name.isTidy_sanitize s)
  · obtain ⟨hne, tidy⟩ := Name.isName_iff.1 (isName_preferenceOverlayName nodePool n)
    exact ⟨hne, tidy, exists_preferenceOverlayName_eq nodePool n,
      rtakeWhile_preferenceOverlayName nodePool n⟩
  · obtain ⟨hne, tidy⟩ := Name.isName_iff.1 k.isName_overlayName
    exact ⟨hne, tidy, k.begins_savingsPlan⟩
  · obtain ⟨hne, tidy⟩ := Name.isName_iff.1 k.isName_overlayName
    exact ⟨hne, tidy, k.begins_reservedInstance⟩

/-- A dotted capital I leaves a dash behind it, and only dashes and dots between letters stay. -/
example : Name.sanitize ".\u0130\u212A_\u00C9-" = "i-k" := by decide

end PriceOverlay
