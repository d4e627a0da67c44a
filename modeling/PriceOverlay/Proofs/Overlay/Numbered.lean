import PriceOverlay.Proofs.Overlay.Rendering
import PriceOverlay.Proofs.Preference.Numbering
/-!
# Numbered overlays

The overlay for a preference is called after its NodePool and its number. The number is what stands
after the last dash, so the name gives both back, even if the NodePool is called like an overlay of
another one. What a cluster asks for therefore has distinct names as long as its NodePools have.

**Results**
* `preferenceOverlayName_eq`: a name is made by appending, without a character changed or cut.
* `Rendering.forall₂_nodePool`: the overlays of a NodePool, number by number.
* `Rendering.preferences_never_collide`: the overlays of a cluster.
-/
namespace PriceOverlay

theorem preferenceOverlayName_eq {p : String} (hp : Name.isName p = true) (n : Nat) :
    preferenceOverlayName p n = p ++ "-preference-" ++ Decimal.natural n := by
  rw [← String.toList_inj, toList_preferenceOverlayName hp]
  simp [Decimal.natural]

/-- The overlay for the preference of that number of the NodePool. -/
structure Overlay.IsNumbered (nodePool : String) (n : Nat) (o : Overlay) : Prop where
  origin : o.origin = .preference nodePool n
  name : o.name = preferenceOverlayName nodePool n
  weight : o.weight = min (n : Int) (2 ^ 31 - 1)

namespace Rendering

theorem isNumbered_preference (r : Rendering) (q : Preference) :
    (r.preference q).IsNumbered q.nodePool q.number where
  origin := origin_finish r _
  name := name_preference r q
  weight := by
    rw [preference, weight_finish]
    simp only [Word.clamp, Word.signed32]
    omega

/-- A NodePool has an overlay for each of its numbers, in their order. -/
theorem forall₂_nodePool (r : Rendering) (p : NodePool) :
    List.Forall₂ (Overlay.IsNumbered p.name) (p.declared.preferences.map (·.number))
      (r.nodePool p) := by
  rw [nodePool, List.forall₂_map_left_iff, List.forall₂_map_right_iff, List.forall₂_same]
  intro q hq
  obtain ⟨horigin, hname, hweight⟩ := r.isNumbered_preference q
  rw [← NodePool.nodePool_of_declared hq]
  split <;> exact ⟨horigin, hname, hweight⟩

/-- **No collisions.** The overlay for a preference of a NodePool with an object name is called
after that name and the number, and no other NodePool or number gives the same name. NodePools with
distinct names therefore ask for overlays with distinct names, each NodePool for one overlay a
number, in ascending order, with the number as its weight as far as 32 bits hold it. -/
theorem preferences_never_collide :
    (∀ p q, Name.isName p = true → Name.isName q = true → ∀ m n,
      preferenceOverlayName p m = p ++ "-preference-" ++ Decimal.natural m ∧
        (preferenceOverlayName p m = preferenceOverlayName q n ↔ p = q ∧ m = n)) ∧
    ∀ (r : Rendering) (ps : List NodePool), (∀ p ∈ ps, Name.isName p.name = true) →
      (ps.map (·.name)).Nodup →
      ((ps.flatMap r.nodePool).map (·.name)).Nodup ∧
        ∀ p ∈ ps, (p.declared.preferences.map (·.number)).Pairwise (· < ·) ∧
          List.Forall₂ (Overlay.IsNumbered p.name) (p.declared.preferences.map (·.number))
            (r.nodePool p) := by
  refine ⟨fun p q hp hq m n => ⟨preferenceOverlayName_eq hp m, ?_, ?_⟩,
    fun r ps named distinct => ⟨nodup_names_nodePools r named distinct, fun p _ => ⟨?_, ?_⟩⟩⟩
  · exact preferenceOverlayName_injective hp hq
  · rintro ⟨rfl, rfl⟩
    rfl
  · exact List.pairwise_map.2 (Declared.pairwise_preferences p.name p.annotations)
  · exact forall₂_nodePool r p

/-- Two NodePools, one called like an overlay of the other. -/
def nested : List NodePool :=
  [⟨"a", none, Table.ofList
      [(annotationStart ++ "2", "kubernetes.io/arch=arm64 adjust=-5%"),
        (annotationStart ++ "2147483648", "kubernetes.io/arch=amd64 adjust=-5%")]⟩,
    ⟨"a-preference-2", none, Table.ofList
      [(annotationStart ++ "2", "kubernetes.io/arch=arm64 adjust=-5%")]⟩]

theorem preferences_never_collide_nested :
    ((nested.flatMap (nodePool {})).map (·.name)).Nodup ∧
      (nested.flatMap (nodePool {})).map (fun o => (o.name, o.weight)) =
        [("a-preference-2", 2), ("a-preference-2147483648", 2147483647),
          ("a-preference-2-preference-2", 2)] ∧
      preferenceOverlayName "a" 2 ≠ preferenceOverlayName "a-preference-2" 2 := by
  obtain ⟨hnames, hpools⟩ := preferences_never_collide
  refine ⟨(hpools {} nested (by decide) (by decide)).1, by decide +kernel, fun h => ?_⟩
  exact absurd ((hnames "a" "a-preference-2" (by decide) (by decide) 2 2).2.1 h).1 (by decide)

end Rendering
end PriceOverlay
