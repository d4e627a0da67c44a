import PriceOverlay.Preference.Annotation
import PriceOverlay.Proofs.Lookup
import PriceOverlay.Proofs.Preference.Reading
/-!
# What a NodePool declares

Every preference that is declared was read from an annotation of the NodePool, and carries the
number of that annotation and the NodePool.

**Results**
* `readFrom_ofAnnotations`: the annotation that a preference found under a number is from.
* `nodePool_of_declared`, `nodup_numbers_declared`: the preferences of a NodePool.
-/
namespace PriceOverlay

namespace Declared

/-- Every preference was read from an entry with its number in the key. -/
def ReadFrom (nodePool : String) (entries : List (String × String)) (d : Declared) : Prop :=
  ∀ n p, d.byNumber.get? n = some p →
    ∃ e ∈ entries, annotationNumber e.1 = some (.ok n) ∧ Preference.read nodePool n e.2 = .ok p

theorem readFrom_add {nodePool : String} {entries : List (String × String)} {d : Declared}
    (h : d.ReadFrom nodePool entries) {entry : String × String} (he : entry ∈ entries) :
    (d.add nodePool entry).ReadFrom nodePool entries := by
  unfold add
  dsimp only
  split
  · exact h
  · exact h
  · rename_i n hn
    split
    · exact h
    · split
      · rename_i p hp
        intro m q hq
        rw [Table.get?_insert_eq] at hq
        split at hq
        · rename_i hm
          cases hq
          subst hm
          exact ⟨entry, he, hn, hp⟩
        · exact h m q hq
      · exact h

theorem readFrom_ofAnnotations (nodePool : String) (annotations : Annotations) :
    (ofAnnotations nodePool annotations).ReadFrom nodePool annotations.entries := by
  have hempty : (⟨∅, []⟩ : Declared).ReadFrom nodePool annotations.entries :=
    fun n p h => by cases h
  exact List.foldlRecOn _ _ hempty fun d hd e he => readFrom_add hd he

/-- Every preference is kept under its number and belongs to the NodePool. -/
theorem of_get?_ofAnnotations {nodePool : String} {annotations : Annotations} {n : Nat}
    {p : Preference} (h : (ofAnnotations nodePool annotations).byNumber.get? n = some p) :
    p.nodePool = nodePool ∧ p.number = n := by
  obtain ⟨e, -, -, hread⟩ := readFrom_ofAnnotations nodePool annotations n p h
  obtain ⟨d, a, -, -, rfl⟩ := Preference.exists_draft_of_read hread
  exact ⟨rfl, rfl⟩

end Declared

namespace NodePool

theorem nodePool_of_declared {p : NodePool} {q : Preference} (h : q ∈ p.declared.preferences) :
    q.nodePool = p.name := by
  obtain ⟨n, hn⟩ := Table.mem_values_iff.1 h
  exact (Declared.of_get?_ofAnnotations hn).1

/-- A NodePool with one annotation, which is good, declares what it is read to. -/
theorem declared_insert {name key value : String} {n : Nat} {q : Preference} (uid : Option String)
    (hkey : annotationNumber key = some (.ok n)) (hread : Preference.read name n value = .ok q) :
    (NodePool.mk name uid ((∅ : Annotations).insert key value)).declared.preferences = [q] := by
  have hentries : ((∅ : Annotations).insert key value).entries = [(key, value)] := rfl
  have hcontains : (∅ : Table Nat Preference).contains n = false := rfl
  rw [NodePool.declared, Declared.ofAnnotations, hentries, List.foldl_cons, List.foldl_nil,
    Declared.add]
  simp only [hkey, hcontains, Bool.false_eq_true, if_false, hread]
  rfl

/-- The numbers of the declared preferences are the keys of the table. -/
theorem map_number_declared (p : NodePool) :
    p.declared.preferences.map (·.number) = p.declared.byNumber.keys := by
  rw [Declared.preferences, Table.values, Table.keys, List.map_map]
  refine List.map_congr_left fun e he => ?_
  exact (Declared.of_get?_ofAnnotations (Table.get?_eq_some_iff.2 he)).2

theorem nodup_numbers_declared (p : NodePool) :
    (p.declared.preferences.map (·.number)).Nodup := by
  rw [map_number_declared]
  exact Table.nodup_keys _

end NodePool
end PriceOverlay
