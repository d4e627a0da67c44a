import PriceOverlay.Cli.Lint
import PriceOverlay.Proofs.Overlay.Prices
import PriceOverlay.Proofs.Overlay.Rendering
import PriceOverlay.Proofs.Preference.Percentage
/-!
# Which preferences may be written

What an annotation is read to is rendered with a name, and with requirements that have no fault, for
every NodePool and in both modes. So the check of the overlay turns on the price alone: it refuses
the percentages that no double holds, which reading takes to be infinite, and nothing else.

**Results**
* `Rendering.check_preference`: the check of the overlay for a sound preference.
* `Preference.overlays_checked`: the check of every overlay that a NodePool asks for, and of those
  that are shown for its annotations.
-/
namespace PriceOverlay

theorem Rendering.check_preference (r : Rendering) {q : Preference}
    (hsound : ∀ m ∈ q.matchers, m.requirement.fault? = none) :
    (r.preference q).check =
      if q.adjustment.percent.isInf then
        .error (.badPrice (r.preference q).name (r.preference q).price)
      else .ok () := by
  have hfault : ∀ s ∈ Requirement.is Label.nodePool q.nodePool ::
      q.matchers.map Matcher.requirement, s.fault? = none := by
    refine List.forall_mem_cons.2 ⟨fault?_is (by decide), fun s hs => ?_⟩
    obtain ⟨m, hm, rfl⟩ := List.mem_map.1 hs
    exact hsound m hm
  have hprice := Adjustment.isPrice_text_iff q.adjustment
  rw [name_preference, price_preference, preference]
  refine (check_finish r ?_ ?_ ?_).trans ?_
  · exact preferenceOverlayName_ne_empty _ _
  · exact List.cons_ne_nil _ _
  · exact hfault
  · show (if Overlay.isPrice q.adjustment.text = true then _ else _) = _
    cases hinf : q.adjustment.percent.isInf with
    | false => rw [if_pos (hprice.2 hinf), if_neg Bool.false_ne_true]
    | true => rw [if_neg (fun h => by rw [hprice.1 h] at hinf; cases hinf), if_pos rfl]

namespace Preference

/-- An overlay is rendered from one of the annotations of a NodePool, and its check turns on the
operand of the only `adjust` token there. -/
def Checked (nodePool : String) (annotations : Annotations) (o : Overlay) : Prop :=
  ∃ key value n operand, annotations.get? key = some value ∧
    annotationNumber key = some (.ok n) ∧ operands value = [operand] ∧
    o.name = preferenceOverlayName nodePool n ∧
    o.check = if Adjustment.isTooGreat operand then .error (.badPrice o.name o.price) else .ok ()

theorem checked_preference {r : Rendering} {nodePool : String} {annotations : Annotations}
    {q : Preference} (hq : q ∈ (Declared.ofAnnotations nodePool annotations).preferences) :
    Checked nodePool annotations (r.preference q) := by
  obtain ⟨n, hn⟩ := Table.mem_values_iff.1 hq
  obtain ⟨⟨key, value⟩, he, hkey, hread⟩ :=
    Declared.readFrom_ofAnnotations nodePool annotations n q hn
  obtain ⟨hpool, hnumber⟩ := Declared.of_get?_ofAnnotations hn
  obtain ⟨hsound, operand, hone, hadjust⟩ := of_read hread
  refine ⟨key, value, n, operand, Table.get?_eq_some_iff.2 he, hkey, hone, ?_, ?_⟩
  · rw [Rendering.name_preference, hpool, hnumber]
  · rw [r.check_preference hsound, Adjustment.isInf_of_read hadjust]

/-- **Writable.** Every overlay that a NodePool asks for, in either mode, and every one that is
shown for annotations of that NodePool, is refused for its price if the percentage in its annotation is
too great, and may be written otherwise. -/
theorem overlays_checked (r : Rendering) (p : NodePool) (arguments : List String) :
    (∀ o ∈ r.nodePool p, Checked p.name p.annotations o) ∧
      ∀ o ∈ (Cli.Lint.Report.of p.name arguments).overlays,
        Checked p.name (Cli.Lint.Collected.ofArguments arguments).annotations o := by
  constructor
  · intro o ho
    obtain ⟨q, hq, rfl⟩ := List.mem_map.1 ho
    have hchecked : Checked p.name p.annotations (r.preference q) := checked_preference hq
    -- The owner of an overlay is not looked at.
    split
    · exact hchecked
    · exact hchecked
  · intro o ho
    obtain ⟨q, hq, rfl⟩ := List.mem_map.1 ho
    exact checked_preference hq

theorem overlays_checked_arm :
    let arguments := ["preference.1=kubernetes.io/arch=arm64 adjust=-12.5%"]
    ∃ o ∈ (Cli.Lint.Report.of "general" arguments).overlays,
      Checked "general" (Cli.Lint.Collected.ofArguments arguments).annotations o ∧
        o.price = "-12.5%" ∧ o.check = .ok () := by
  intro arguments
  have hshown : ("-12.5%", Except.ok ()) ∈
      (Cli.Lint.Report.of "general" arguments).overlays.map fun o => (o.price, o.check) := by
    decide +kernel
  obtain ⟨o, ho, heq⟩ := List.mem_map.1 hshown
  obtain ⟨hprice, hcheck⟩ := Prod.mk.inj heq
  exact ⟨o, ho, (overlays_checked {} ⟨"general", none, ∅⟩ arguments).2 o ho, hprice, hcheck⟩

/-- An annotation whose percentage has 309 digits. -/
def farValue : List Char :=
  "kubernetes.io/arch=arm64 adjust=+".toList ++ List.replicate 309 '9' ++ ['%']

def farPreference : Preference :=
  ⟨1, "general", [⟨"kubernetes.io/arch", .oneOf, ["arm64"]⟩], ⟨Decimal.infinity⟩⟩

theorem read_farValue : read "general" 1 (String.ofList farValue) = .ok farPreference := by
  unfold read
  rw [String.toList_ofList]
  decide +kernel

theorem exists_pool_farPreference :
    ∃ p : NodePool, p.name ≠ "" ∧ p.uid = none ∧ p.declared.preferences = [farPreference] := by
  have hkey : annotationNumber "capacity-overlay.dev/preference.1" = some (.ok 1) := by
    decide +kernel
  exact ⟨_, by decide, rfl, NodePool.declared_insert none hkey read_farValue⟩

/-- Not everything that is read may be written. -/
theorem not_all_writable :
    ¬ ∀ (r : Rendering) (p : NodePool), p.name ≠ "" → ∀ o ∈ r.nodePool p, o.check = .ok () := by
  intro h
  obtain ⟨p, hname, huid, hdeclared⟩ := exists_pool_farPreference
  have hmem : Rendering.preference {} farPreference ∈ Rendering.nodePool {} p := by
    rw [Rendering.nodePool, hdeclared, huid]
    exact List.mem_singleton_self _
  have hcheck := h {} p hname _ hmem
  rw [Rendering.check_preference _ (by decide), if_pos (by decide +kernel)] at hcheck
  cases hcheck

end Preference
end PriceOverlay
