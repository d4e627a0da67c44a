import Mathlib.Data.List.DropRight
import PriceOverlay.Text.Blank
/-!
# Cutting the ends

A class of characters is cut from both ends of a text. What is left begins and ends with characters
of no such class, and a part of the text that does so is left with all that stands between it and
the nearest others.

**Results**
* `trimEnds_around`: what is left around such a part.
* `head_trimEnds`, `last_trimEnds`: the ends of what is left.
* `trimEnds_eq_nil_iff`: when nothing is left.
-/
namespace PriceOverlay.Text

variable {p : Char → Bool}

theorem dropWhile_append_of_kept {a x : List Char} (hx : x.dropWhile p = x) :
    (a ++ x).dropWhile p = a.dropWhile p ++ x := by
  rw [List.dropWhile_append]
  split
  · rename_i ha
    rw [List.isEmpty_iff.1 ha, hx, List.nil_append]
  · rfl

theorem rdropWhile_append_of_kept {x b : List Char} (hx : x.rdropWhile p = x) :
    (x ++ b).rdropWhile p = x ++ b.rdropWhile p := by
  have hreverse : x.reverse.dropWhile p = x.reverse := by
    rw [← List.reverse_inj, List.reverse_reverse]
    exact hx
  rw [List.rdropWhile, List.reverse_append, dropWhile_append_of_kept hreverse, List.reverse_append,
    List.reverse_reverse, List.rdropWhile]

/-- A part whose ends are not cut stays, and the cuts stop in what stands around it. -/
theorem trimEnds_around {a x b : List Char} (hx : x ≠ []) (hh : ∀ c ∈ x.head?, p c = false)
    (hl : ∀ c ∈ x.getLast?, p c = false) :
    trimEnds p (a ++ x ++ b) = a.dropWhile p ++ x ++ b.rdropWhile p := by
  have hstart : (x ++ b).dropWhile p = x ++ b := by
    obtain ⟨c, r, rfl⟩ := List.exists_cons_of_ne_nil hx
    exact List.dropWhile_cons_of_neg (by simp [hh c rfl])
  have hfinish : (a.dropWhile p ++ x).rdropWhile p = a.dropWhile p ++ x := by
    obtain ⟨r, c, rfl⟩ := (List.eq_nil_or_concat' x).resolve_left hx
    rw [← List.append_assoc]
    exact List.rdropWhile_concat_neg p _ c (by simp [hl c List.getLast?_concat])
  calc
    trimEnds p (a ++ x ++ b) = ((a ++ (x ++ b)).dropWhile p).rdropWhile p := by
      rw [List.append_assoc]
      rfl
    _ = (a.dropWhile p ++ x ++ b).rdropWhile p := by
      rw [dropWhile_append_of_kept hstart, List.append_assoc]
    _ = a.dropWhile p ++ x ++ b.rdropWhile p := rdropWhile_append_of_kept hfinish

theorem trimEnds_of_ends {cs : List Char} (hh : ∀ c ∈ cs.head?, p c = false)
    (hl : ∀ c ∈ cs.getLast?, p c = false) : trimEnds p cs = cs := by
  by_cases hne : cs = []
  · rw [hne]
    rfl
  · have haround := trimEnds_around (a := []) (b := []) hne hh hl
    rwa [List.dropWhile_nil, List.rdropWhile_nil, List.append_nil, List.nil_append] at haround

theorem head_trimEnds {cs : List Char} : ∀ c ∈ (trimEnds p cs).head?, p c = false := by
  intro c hc
  -- the cut at the end leaves the first character, on which the other cut has decided
  obtain ⟨r, hr⟩ := List.head?_eq_some_iff.1 hc
  obtain ⟨t, ht⟩ := List.rdropWhile_prefix p (cs.dropWhile p)
  have hhead := List.head?_dropWhile_not p cs
  rw [← ht, show (cs.dropWhile p).rdropWhile p = c :: r from hr] at hhead
  exact hhead

theorem last_trimEnds {cs : List Char} : ∀ c ∈ (trimEnds p cs).getLast?, p c = false := by
  intro c hc
  rw [trimEnds, List.getLast?_reverse] at hc
  have hhead := List.head?_dropWhile_not p (cs.dropWhile p).reverse
  rw [hc] at hhead
  exact hhead

/-- What the cut leaves alone does not end with a character of the class. -/
theorem last_of_trimEnds {cs : List Char} (h : trimEnds p cs = cs) :
    ∀ c ∈ cs.getLast?, p c = false :=
  fun c hc => last_trimEnds c (h.symm ▸ hc)

theorem mem_of_mem_trimEnds {cs : List Char} {c : Char} (h : c ∈ trimEnds p cs) : c ∈ cs :=
  (List.dropWhile_sublist p).mem ((List.rdropWhile_prefix p (cs.dropWhile p)).mem h)

/-- A character that is not cut is a part of its own, and so nothing is left only of the class. -/
theorem trimEnds_eq_nil_iff {cs : List Char} : trimEnds p cs = [] ↔ ∀ c ∈ cs, p c = true := by
  constructor
  · intro h c hc
    by_contra hp
    obtain ⟨a, b, rfl⟩ := List.append_of_mem hc
    have hkept : ∀ d ∈ some c, p d = false := by
      rintro d ⟨⟩
      exact Bool.not_eq_true _ ▸ hp
    have haround := trimEnds_around (a := a) (b := b) (List.cons_ne_nil c []) hkept hkept
    rw [List.append_assoc, List.singleton_append, h] at haround
    simp at haround
  · intro h
    rw [trimEnds, List.dropWhile_eq_nil_iff.2 h]
    rfl

/-- The characters of the class at the end of a text, after one that is not of it. -/
theorem rtakeWhile_append_cons {a b : List Char} {c : Char} (hc : p c = false)
    (hb : ∀ d ∈ b, p d = true) : (a ++ c :: b).rtakeWhile p = b := by
  have hreverse : (a ++ c :: b).reverse = b.reverse ++ c :: a.reverse := by
    rw [List.reverse_append, List.reverse_cons, List.append_assoc, List.singleton_append]
  have hall : ∀ d ∈ b.reverse, p d = true := fun d hd => hb d (List.mem_reverse.1 hd)
  rw [List.rtakeWhile, hreverse, List.takeWhile_append_of_pos hall,
    List.takeWhile_cons_of_neg (by simp [hc]), List.append_nil, List.reverse_reverse]

end PriceOverlay.Text
