import PriceOverlay.Text.Blank
/-!
# Words and blanks

The words of a text have no blanks and are not empty, and words that are put together with a blank
between every two are found again.

**Results**
* `isWord_of_mem_words`: what a text splits into.
* `words_intercalate_append`: words put together and split again.
-/
namespace PriceOverlay.Text

/-- A text that can be a word. -/
structure IsWord (cs : List Char) : Prop where
  ne_nil : cs ≠ []
  unbroken : ∀ c ∈ cs, isBlank c = false

theorem unbroken_iff {cs : List Char} :
    (∀ c ∈ cs, isBlank c = false) ↔ cs.all (!isBlank ·) = true := by
  simp

theorem forall_mem_splitOnP (p : Char → Bool) (cs : List Char) :
    ∀ t ∈ cs.splitOnP p, ∀ c ∈ t, p c = false := by
  induction cs with
  | nil => simp
  | cons c cs ih =>
    obtain ⟨t, ts, hsplit⟩ := List.exists_cons_of_ne_nil (List.splitOnP_ne_nil p cs)
    rw [List.splitOnP_cons_eq_if_modifyHead]
    rw [hsplit] at ih ⊢
    split
    · exact List.forall_mem_cons.2 ⟨fun _ h => (by cases h), ih⟩
    · rename_i hc
      rw [List.forall_mem_cons] at ih
      rw [List.modifyHead_cons, List.forall_mem_cons, List.forall_mem_cons]
      exact ⟨⟨by simpa using hc, ih.1⟩, ih.2⟩

theorem isWord_of_mem_words {t cs : List Char} (h : t ∈ words cs) : IsWord t := by
  obtain ⟨hsplit, hne⟩ := List.mem_filter.1 h
  exact ⟨by simpa using hne, forall_mem_splitOnP isBlank cs t hsplit⟩

theorem words_of_isWord {t : List Char} (h : IsWord t) : words t = [t] := by
  rw [words, List.splitOnP_eq_singleton h.unbroken,
    List.filter_cons_of_pos (by simp [h.ne_nil]), List.filter_nil]

theorem words_append_cons {t : List Char} (h : IsWord t) {b : Char} (hb : isBlank b = true)
    (cs : List Char) : words (t ++ b :: cs) = t :: words cs := by
  rw [words, List.splitOnP_append_cons_of_forall_mem h.unbroken b hb,
    List.filter_cons_of_pos (by simp [h.ne_nil]), words]

/-- Words with a blank after each of them are found again, and what follows is split on its own. -/
theorem words_intercalate_append {ts : List (List Char)} (hne : ts ≠ []) (h : ∀ t ∈ ts, IsWord t)
    {b : Char} (hb : isBlank b = true) (cs : List Char) :
    words ([b].intercalate ts ++ b :: cs) = ts ++ words cs := by
  induction ts with
  | nil => exact absurd rfl hne
  | cons t ts ih =>
    rw [List.forall_mem_cons] at h
    cases ts with
    | nil =>
      rw [List.intercalate_singleton, words_append_cons h.1 hb]
      rfl
    | cons u ts =>
      rw [List.intercalate_cons_cons, List.append_assoc, List.append_assoc, List.singleton_append,
        words_append_cons h.1 hb, ih (List.cons_ne_nil u ts) h.2]
      rfl

theorem unbroken_intercalate {separator : List Char} {ts : List (List Char)}
    (hseparator : ∀ c ∈ separator, isBlank c = false) (h : ∀ t ∈ ts, ∀ c ∈ t, isBlank c = false) :
    ∀ c ∈ separator.intercalate ts, isBlank c = false := by
  induction ts with
  | nil => exact fun _ hc => (by cases hc)
  | cons t ts ih =>
    rw [List.forall_mem_cons] at h
    cases ts with
    | nil =>
      rw [List.intercalate_singleton]
      exact h.1
    | cons u ts =>
      rw [List.intercalate_cons_cons, List.forall_mem_append, List.forall_mem_append]
      exact ⟨⟨h.1, hseparator⟩, ih h.2⟩

end PriceOverlay.Text
