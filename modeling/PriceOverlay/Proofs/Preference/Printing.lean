import PriceOverlay.Proofs.Preference.Grammar
/-!
# Printing and reading matchers

A matcher that can be written is written in one way only, as its text. So a row of such texts with
an adjustment after it is read to what was printed, whatever characters the values have, and what
an annotation is read to can be printed and read again.

**Results**
* `Matcher.writtenAs_iff`: the token that a matcher is written as.
* `Preference.read_print`: printing and reading are inverse.
-/
namespace PriceOverlay

namespace Decimal

theorem isBlank_of_isDigit {c : Char} (h : isDigit c = true) : Text.isBlank c = false := by
  have hblanks : ∀ d < 10, Text.blanks.contains ('0'.toNat + d) = false := by decide
  obtain ⟨d, hlt, hc, -⟩ := digit_of_isDigit h
  rw [Text.isBlank, hc, hblanks d hlt]

/-- No text of an integer starts with an equals sign. -/
theorem IsInt64.head?_ne {cs : List Char} (h : IsInt64 cs) : cs.head? ≠ some '=' := by
  obtain ⟨n, htext, -⟩ := h
  cases htext with
  | unsigned hd =>
    obtain ⟨c, r, rfl, hc⟩ := head?_of_isDigits hd
    rintro hhead
    obtain rfl : c = '=' := by simpa using hhead
    cases hc
  | plus | minus => simp

end Decimal

/-! ## Matchers -/

namespace Matcher

theorem toList_text (m : Matcher) :
    m.text.toList = m.token.key ++ (m.token.operator.symbol.toList ++ m.token.operand) := by
  rw [text, String.toList_append, String.toList_append, List.append_assoc]
  rfl

instance (m : Matcher) : Decidable m.Writable :=
  decidable_of_iff (ofToken [] m.token = .ok m)
    (((outcome_ofToken [] m.token).1 m).trans (and_iff_left rfl))

/-- Keys have no blanks and no characters at which an operator starts. -/
theorem Writable.key_plain {m : Matcher} (w : m.Writable) :
    m.token.key ≠ [] ∧ (∀ c ∈ m.token.key, Token.startsOperator c = false) ∧
      ∀ c ∈ m.token.key, Text.isBlank c = false := by
  have hkeys : ∀ k ∈ keys, (!k.toList.isEmpty &&
      k.toList.all fun c => !(Token.startsOperator c || Text.isBlank c)) = true := by
    decide +kernel
  have hkey : m.key.toList ≠ [] ∧
      ∀ c ∈ m.key.toList, Token.startsOperator c = false ∧ Text.isBlank c = false := by
    simpa using hkeys m.key w.key_mem
  exact ⟨hkey.1, fun c hc => (hkey.2 c hc).1, fun c hc => (hkey.2 c hc).2⟩

theorem cut_text {m : Matcher} (w : m.Writable) : Token.Cut m.text.toList m.token := by
  refine ⟨w.key_plain.1, w.key_plain.2.1, m.toList_text, fun hnumeric => ?_⟩
  obtain ⟨v, hv, hint⟩ := w.numeric hnumeric
  rw [token, hv, String.intercalate_singleton]
  exact hint.head?_ne

/-- A matcher is written as its text only. -/
theorem writtenAs_iff {m : Matcher} {text : List Char} :
    m.WrittenAs text ↔ m.Writable ∧ text = m.text.toList := by
  constructor
  · rintro ⟨w, hcut⟩
    exact ⟨w, hcut.text.trans m.toList_text.symm⟩
  · rintro ⟨w, rfl⟩
    exact ⟨w, cut_text w⟩

/-- Matchers are written as the row of their texts only. -/
theorem forall₂_writtenAs_iff {ms : List Matcher} {tokens : List (List Char)} :
    List.Forall₂ WrittenAs ms tokens ↔
      (∀ m ∈ ms, m.Writable) ∧ tokens = ms.map (·.text.toList) := by
  have hwritten : WrittenAs = fun m token => m.Writable ∧ m.text.toList = token := by
    funext m token
    rw [writtenAs_iff, eq_comm (a := token)]
  rw [hwritten, List.forall₂_and_left, ← List.forall₂_map_left_iff (R := Eq),
    List.forall₂_eq_eq_eq, eq_comm (a := tokens)]

theorem isWord_text {m : Matcher} (w : m.Writable)
    (hvalues : ∀ v ∈ m.values, ∀ c ∈ v.toList, Text.isBlank c = false) :
    Text.IsWord m.text.toList := by
  have hsymbols (o : MatchOperator) : o.symbol.toList.all (!Text.isBlank ·) = true := by
    cases o <;> decide +kernel
  have hcomma : ∀ c ∈ [','], Text.isBlank c = false := Text.unbroken_iff.2 (by decide)
  have htoList : ",".toList = [','] := by decide
  rw [toList_text]
  refine ⟨List.append_ne_nil_of_left_ne_nil w.key_plain.1 _, ?_⟩
  rw [List.forall_mem_append, List.forall_mem_append]
  refine ⟨w.key_plain.2.2, Text.unbroken_iff.2 (hsymbols _), ?_⟩
  rw [token, String.toList_intercalate, htoList]
  exact Text.unbroken_intercalate hcomma (List.forall_mem_map.2 hvalues)

end Matcher

/-! ## Adjustments -/

theorem Adjustment.Written.unbroken {operand sign whole fraction : List Char}
    (w : Written operand sign whole fraction) : ∀ c ∈ operand, Text.isBlank c = false := by
  have hsigns : ∀ s ∈ [[], ['+'], ['-']], s.all (!Text.isBlank ·) = true := by decide
  have hsign := Text.unbroken_iff.2 (hsigns sign w.sign_mem)
  have hdigits {ds : List Char} (hd : Decimal.isDigits ds = true) :
      ∀ c ∈ ds, Text.isBlank c = false :=
    fun c hc => Decimal.isBlank_of_isDigit (Decimal.isDigit_of_isDigits hd hc)
  have hpercent : ∀ c ∈ ['%'], Text.isBlank c = false := Text.unbroken_iff.2 (by decide)
  have hpoint : Text.isBlank '.' = false := by decide
  rcases w.text with ⟨-, rfl⟩ | ⟨hfraction, rfl⟩
  · rw [List.forall_mem_append, List.forall_mem_append]
    exact ⟨hsign, hdigits w.whole_digits, hpercent⟩
  · rw [List.forall_mem_append, List.forall_mem_append, List.forall_mem_cons,
      List.forall_mem_append]
    exact ⟨hsign, hdigits w.whole_digits, hpoint, hdigits hfraction, hpercent⟩

theorem Adjustment.WrittenAs.isWord {a : Adjustment} {text : List Char} (h : a.WrittenAs text) :
    Text.IsWord text := by
  have hstart : "adjust=".toList.all (!Text.isBlank ·) = true := by decide +kernel
  obtain ⟨operand, rfl, sign, whole, fraction, w, -⟩ := h
  refine ⟨by simp, List.forall_mem_append.2 ⟨Text.unbroken_iff.2 hstart, w.unbroken⟩⟩

namespace Preference

/-- The matchers in a row, and an `adjust` token after them. -/
def print (ms : List Matcher) (adjust : String) : String :=
  " ".intercalate (ms.map Matcher.text) ++ " " ++ adjust

theorem words_print {ms : List Matcher} {adjust : String} (hne : ms ≠ [])
    (hms : ∀ m ∈ ms, Text.IsWord m.text.toList) (hadjust : Text.IsWord adjust.toList) :
    Text.words (print ms adjust).toList = ms.map (·.text.toList) ++ [adjust.toList] := by
  have hblank : " ".toList = [' '] := by decide
  have hwords : ∀ t ∈ ms.map (·.text.toList), Text.IsWord t := List.forall_mem_map.2 hms
  rw [print, String.toList_append, String.toList_append, String.toList_intercalate, hblank,
    List.map_map, List.append_assoc, List.singleton_append, ← Text.words_of_isWord hadjust]
  exact Text.words_intercalate_append (by simpa using hne) hwords (by decide) _

section
variable {nodePool : String} {n : Nat}

theorem read_print_of_isWord {ms : List Matcher} {a : Adjustment} {adjust : String} (hne : ms ≠ [])
    (hwritable : ∀ m ∈ ms, m.Writable) (hwords : ∀ m ∈ ms, Text.IsWord m.text.toList)
    (ha : a.WrittenAs adjust.toList) :
    read nodePool n (print ms adjust) = .ok ⟨n, nodePool, ms, a⟩ := by
  refine read_of_spelled ⟨rfl, rfl, hne, ms.map (·.text.toList), adjust.toList, [], ?_, ha, ?_⟩
  · exact words_print hne hwords ha.isWord
  · rw [List.append_nil]
    exact Matcher.forall₂_writtenAs_iff.2 ⟨hwritable, rfl⟩

/-- What was read is printed with the `adjust` token that it was read from, and read again. -/
theorem read_print_of_read {value adjust : String} {p : Preference}
    (h : read nodePool n value = .ok p) (hmem : adjust.toList ∈ Text.words value.toList)
    (hadjust : IsAdjust adjust.toList) : read nodePool n (print p.matchers adjust) = .ok p := by
  obtain ⟨number, pool, ms, a⟩ := p
  obtain ⟨rfl, rfl, hne, before, token, after, hwords, ha, hall⟩ :=
    ((outcome_read nodePool n value).1 _).1 h
  have hmatchers := exists_forall₂_iff.1 ⟨_, hall⟩
  obtain ⟨hwritable, htexts⟩ := Matcher.forall₂_writtenAs_iff.1 hall
  rw [hwords] at hmem
  obtain htoken | hmem := mem_append_cons.1 hmem
  case inr => exact absurd hadjust (not_isAdjust_of_isMatcher (hmatchers _ hmem))
  refine read_print_of_isWord hne hwritable (fun m hm => ?_) (htoken ▸ ha)
  have htext : m.text.toList ∈ before ++ after := htexts ▸ List.mem_map_of_mem hm
  exact Text.isWord_of_mem_words (hwords ▸ mem_append_cons.2 (.inr htext))

end

/-- **Printing and reading.** The matchers of an annotation, printed with its `adjust` token, are
read to what the annotation was read to. Matchers that can be written in an annotation without
blanks are read from their texts, with any `adjust` token. -/
theorem read_print (nodePool : String) (n : Nat) :
    (∀ value p, read nodePool n value = .ok p →
      (∃ adjust : String, adjust.toList ∈ Text.words value.toList ∧ IsAdjust adjust.toList) ∧
      ∀ adjust : String, adjust.toList ∈ Text.words value.toList → IsAdjust adjust.toList →
        read nodePool n (print p.matchers adjust) = .ok p) ∧
    ∀ ms : List Matcher, ms ≠ [] → (∀ m ∈ ms, m.Writable) →
      (∀ m ∈ ms, ∀ v ∈ m.values, ∀ c ∈ v.toList, Text.isBlank c = false) →
      ∀ (a : Adjustment) (adjust : String), a.WrittenAs adjust.toList →
        read nodePool n (print ms adjust) = .ok ⟨n, nodePool, ms, a⟩ := by
  refine ⟨fun value p h => ⟨?_, fun adjust => read_print_of_read h⟩, ?_⟩
  · obtain ⟨-, -, -, before, token, after, hwords, ha, -⟩ :=
      ((outcome_read nodePool n value).1 p).1 h
    refine ⟨String.ofList token, ?_, p.adjustment, ?_⟩
    · rw [hwords, String.toList_ofList]
      exact mem_append_cons.2 (.inl rfl)
    · rwa [String.toList_ofList]
  · intro ms hne hwritable hvalues a adjust ha
    have hwords : ∀ m ∈ ms, Text.IsWord m.text.toList := fun m hm =>
      Matcher.isWord_text (hwritable m hm) (hvalues m hm)
    exact read_print_of_isWord hne hwritable hwords ha

/-- Values that have the characters of operators, at their start and after it. -/
def markedMatchers : List Matcher :=
  [⟨"kubernetes.io/arch", .oneOf, ["=a>", "!b"]⟩, ⟨"kubernetes.io/os", .noneOf, ["=", "<="]⟩,
    ⟨"karpenter.k8s.aws/instance-cpu", .above, ["+007"]⟩]

def markedValue : String :=
  "adjust=-12.50%\t kubernetes.io/arch==a>,!b kubernetes.io/os!==,<=\n" ++
    "karpenter.k8s.aws/instance-cpu>+007"

theorem read_print_marked :
    read "general" 1 markedValue = .ok ⟨1, "general", markedMatchers, ⟨-12.5⟩⟩ ∧
      read "general" 1 (print markedMatchers "adjust=-12.50%") =
        .ok ⟨1, "general", markedMatchers, ⟨-12.5⟩⟩ ∧
      print markedMatchers "adjust=5%" =
        "kubernetes.io/arch==a>,!b kubernetes.io/os!==,<= " ++
          "karpenter.k8s.aws/instance-cpu>+007 adjust=5%" ∧
      read "general" 1 (print markedMatchers "adjust=5%") =
        .ok ⟨1, "general", markedMatchers, ⟨5⟩⟩ := by
  have hread : read "general" 1 markedValue = .ok ⟨1, "general", markedMatchers, ⟨-12.5⟩⟩ := by
    decide +kernel
  have hmem : "adjust=-12.50%".toList ∈ Text.words markedValue.toList := by decide +kernel
  have hfall : IsAdjust "adjust=-12.50%".toList :=
    ⟨⟨-12.5⟩, "-12.50%".toList, by simp, Adjustment.read_eq_ok_iff.1 (by decide +kernel)⟩
  have hrise : (⟨5⟩ : Adjustment).WrittenAs "adjust=5%".toList :=
    ⟨"5%".toList, by simp, Adjustment.read_eq_ok_iff.1 (by decide +kernel)⟩
  have hwritable : ∀ m ∈ markedMatchers, m.Writable := by decide +kernel
  have hvalues : ∀ m ∈ markedMatchers, ∀ v ∈ m.values, v.toList.all (!Text.isBlank ·) = true := by
    decide +kernel
  have hround := read_print "general" 1
  exact ⟨hread, (hround.1 markedValue _ hread).2 _ hmem hfall, by decide +kernel,
    hround.2 markedMatchers (by decide) hwritable
      (fun m hm v hv => Text.unbroken_iff.2 (hvalues m hm v hv)) _ _ hrise⟩

end Preference
end PriceOverlay
