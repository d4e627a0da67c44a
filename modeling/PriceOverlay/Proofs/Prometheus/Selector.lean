import Mathlib.Data.List.TakeDrop
import PriceOverlay.Prometheus.Source
/-!
# Selectors read back

A server reads a selector from left to right: after the metric, in braces and with commas between
them, matchers of a label each. A matcher is an identifier, an equals sign, and a value in quotes.
The value ends at the first quote that is not escaped, so only what was written as the value of a
label can ever be read as its value, whatever characters are in it.

**Results**
* `readMatcher?_matcher`: a matcher is read back, whatever follows it.
* `readBraces?_braces`: so is any list of matchers in braces.
* `newline_notMem_braces`: no value breaks the line.
* `selector_sealed`: what is read of a query, and that the query determines it.
-/
namespace PriceOverlay.Prometheus

/-! ## Reading -/

def isLetter (c : Char) : Bool :=
  decide (('a' ≤ c ∧ c ≤ 'z') ∨ ('A' ≤ c ∧ c ≤ 'Z')) || c == '_'

def inIdentifier (c : Char) : Bool := isLetter c || Decimal.isDigit c

/-- Letters, digits and underscores, and no digit first. -/
def isIdentifier (cs : List Char) : Bool := cs.head?.any isLetter && cs.all inIdentifier

/-- Reads an identifier, an equals sign and a value in quotes; also what follows them. -/
def readMatcher? (cs : List Char) : Option ((String × String) × List Char) :=
  let name := cs.takeWhile inIdentifier
  match cs.dropWhile inIdentifier with
  | '=' :: '"' :: r =>
    if isIdentifier name then
      (readValue r).map fun p => ((String.ofList name, String.ofList p.1), p.2)
    else none
  | _ => none

/-- A value is shorter than the text it is read from. -/
theorem length_lt_of_readValue {cs : List Char} {p : List Char × List Char}
    (h : readValue cs = some p) : p.2.length < cs.length := by
  fun_induction readValue cs generalizing p with
  | case1 => cases h
  | case2 r =>
    cases h
    exact Nat.lt_succ_self _
  | case3 r ih | case4 r ih | case5 r ih =>
    obtain ⟨q, hq, rfl⟩ := Option.map_eq_some_iff.1 h
    have hlt := ih hq
    simp only [List.length_cons]
    omega
  | case6 => cases h
  | case7 c r _ _ _ _ _ ih =>
    obtain ⟨q, hq, rfl⟩ := Option.map_eq_some_iff.1 h
    have hlt := ih hq
    exact Nat.lt_succ_of_lt hlt

theorem length_lt_of_readMatcher? {cs : List Char} {p : (String × String) × List Char}
    (h : readMatcher? cs = some p) : p.2.length < cs.length := by
  unfold readMatcher? at h
  dsimp only at h
  split at h
  · rename_i r hr
    split at h
    · obtain ⟨q, hq, rfl⟩ := Option.map_eq_some_iff.1 h
      have hdrop := (List.dropWhile_sublist inIdentifier (l := cs)).length_le
      have hvalue := length_lt_of_readValue hq
      rw [hr] at hdrop
      simp only [List.length_cons] at hdrop ⊢
      omega
    · cases h
  · cases h

/-- Reads one or more matchers, with commas between them, and the closing brace that ends the
text. -/
def readMatchers? (cs : List Char) : Option (List (String × String)) :=
  match _ : readMatcher? cs with
  | some (m, ',' :: r) => (readMatchers? r).map (m :: ·)
  | some (m, ['\x7d']) => some [m]
  | _ => none
termination_by cs.length
decreasing_by
  have hlt := length_lt_of_readMatcher? ‹_›
  simp only [List.length_cons] at hlt
  omega

theorem readMatchers?_of_comma {cs r : List Char} {m : String × String}
    (h : readMatcher? cs = some (m, ',' :: r)) :
    readMatchers? cs = (readMatchers? r).map (m :: ·) := by
  rw [readMatchers?]
  split
  · rename_i heq
    cases h.symm.trans heq
    rfl
  · rename_i heq
    cases h.symm.trans heq
  · rename_i hcomma _
    exact absurd h (hcomma m r)

theorem readMatchers?_of_brace {cs : List Char} {m : String × String}
    (h : readMatcher? cs = some (m, ['\x7d'])) : readMatchers? cs = some [m] := by
  rw [readMatchers?]
  split
  · rename_i heq
    cases h.symm.trans heq
  · rename_i heq
    cases h.symm.trans heq
    rfl
  · rename_i _ hbrace
    exact absurd h (hbrace m)

/-- Reads what stands in braces. -/
def readBraces? : List Char → Option (List (String × String))
  | ['\x7b', '\x7d'] => some []
  | '\x7b' :: r => readMatchers? r
  | _ => none

/-! ## What is written -/

/-- The text of matchers with commas between them. -/
def listed (ms : List (String × String)) : List Char :=
  [','].intercalate (ms.map fun m => (matcher m.1 m.2).toList)

/-- The text of matchers in braces. -/
def braces (ms : List (String × String)) : List Char := '\x7b' :: (listed ms ++ ['\x7d'])

theorem listed_singleton (m : String × String) : listed [m] = (matcher m.1 m.2).toList :=
  List.intercalate_singleton

theorem listed_cons_cons (m m' : String × String) (ms : List (String × String)) :
    listed (m :: m' :: ms) = (matcher m.1 m.2).toList ++ ',' :: listed (m' :: ms) := by
  rw [listed, List.map_cons, List.map_cons, List.intercalate_cons_cons, List.append_assoc,
    List.singleton_append]
  rfl

theorem toList_matcher (name value : String) :
    (matcher name value).toList =
      name.toList ++ '=' :: '"' :: (value.toList.flatMap escape ++ ['"']) := by
  simp [matcher, writeValue]

/-- A selector is the metric and its matchers in braces, that of the account last. -/
theorem toList_selector (metric : String) (labels : List (String × String))
    (account : Option String) :
    (selector metric labels account).toList =
      metric.toList ++ braces (labels ++ account.toList.map fun a => ("account_id", a)) := by
  simp [selector, braces, listed, String.toList_intercalate, Function.comp_def]

/-! ## Reading what is written -/

theorem readMatcher?_matcher {name : String} (h : isIdentifier name.toList = true) (value : String)
    (rest : List Char) :
    readMatcher? ((matcher name value).toList ++ rest) = some ((name, value), rest) := by
  have hname : ∀ c ∈ name.toList, inIdentifier c = true :=
    List.all_eq_true.1 (Bool.and_eq_true_iff.1 h).2
  have hequals : inIdentifier '=' = false := by decide
  rw [toList_matcher, List.append_assoc, readMatcher?, List.takeWhile_append_of_pos hname,
    List.dropWhile_append_of_pos hname]
  simp only [List.cons_append, List.takeWhile_cons, List.dropWhile_cons, hequals,
    Bool.false_eq_true, if_false, List.append_nil, h, if_true, List.append_assoc,
    List.nil_append, readValue_writeValue, Option.map_some, String.ofList_toList]

theorem readMatchers?_listed {ms : List (String × String)} (hne : ms ≠ [])
    (h : ∀ m ∈ ms, isIdentifier m.1.toList = true) :
    readMatchers? (listed ms ++ ['\x7d']) = some ms := by
  induction ms with
  | nil => exact absurd rfl hne
  | cons m ms ih =>
    rw [List.forall_mem_cons] at h
    cases ms with
    | nil =>
      rw [listed_singleton]
      exact readMatchers?_of_brace (readMatcher?_matcher h.1 m.2 ['\x7d'])
    | cons m' ms =>
      rw [listed_cons_cons, List.append_assoc, List.cons_append,
        readMatchers?_of_comma (readMatcher?_matcher h.1 m.2 _), ih (List.cons_ne_nil m' ms) h.2]
      rfl

theorem readBraces?_braces {ms : List (String × String)}
    (h : ∀ m ∈ ms, isIdentifier m.1.toList = true) : readBraces? (braces ms) = some ms := by
  cases ms with
  | nil => rfl
  | cons m ms =>
    have hread := readMatchers?_listed (List.cons_ne_nil m ms) h
    rw [braces, readBraces?]
    · exact hread
    · intro hempty
      rw [hempty, readMatchers?] at hread
      cases hread

/-! ## Line breaks -/

theorem newline_notMem_escape (c : Char) : '\n' ∉ escape c := by
  fun_cases escape c with
  | case1 | case2 | case3 => decide
  | case4 c _ _ hc => exact fun h => hc (List.mem_singleton.1 h).symm

theorem newline_notMem_matcher {name : String} (h : isIdentifier name.toList = true)
    (value : String) : '\n' ∉ (matcher name value).toList := by
  have hname : '\n' ∉ name.toList := fun hmem =>
    absurd (List.all_eq_true.1 (Bool.and_eq_true_iff.1 h).2 _ hmem) (by decide)
  have hvalue : '\n' ∉ value.toList.flatMap escape := fun hmem => by
    obtain ⟨c, -, hc⟩ := List.mem_flatMap.1 hmem
    exact newline_notMem_escape c hc
  simp [toList_matcher, hname, hvalue]

/-- No value breaks the line, whatever is in it. -/
theorem newline_notMem_braces {ms : List (String × String)}
    (h : ∀ m ∈ ms, isIdentifier m.1.toList = true) : '\n' ∉ braces ms := by
  have hlisted : '\n' ∉ listed ms := by
    induction ms with
    | nil => exact List.not_mem_nil
    | cons m ms ih =>
      rw [List.forall_mem_cons] at h
      have hm := newline_notMem_matcher h.1 m.2
      cases ms with
      | nil =>
        rw [listed_singleton]
        exact hm
      | cons m' ms =>
        rw [listed_cons_cons]
        simp [hm, ih h.2]
  simp [braces, hlisted]

/-! ## Queries -/

/-- The matcher for an account; none for an account that is empty or not given. -/
def accountMatcher : Option String → List (String × String)
  | some a => if a = "" then [] else [("account_id", a)]
  | none => []

theorem account_ofUrl {url : String} {account : Option String} {c : Client}
    (h : Client.ofUrl url account = .ok c) : c.account = account.filter (!·.isEmpty) := by
  unfold Client.ofUrl at h
  split at h
  · cases h
    rfl
  · cases h

theorem accountMatcher_eq (account : Option String) :
    ((account.filter (!·.isEmpty)).toList.map fun a => ("account_id", a)) =
      accountMatcher account := by
  cases account with
  | none => rfl
  | some a =>
    by_cases ha : a = ""
    · subst ha
      rfl
    · simp [accountMatcher, ha]

/-- Labels of other names are told from the account that follows them. -/
theorem eq_of_append_account {labels labels' : List (String × String)} {a a' : Option String}
    (hl : ∀ l ∈ labels, l.1 ≠ "account_id") (hl' : ∀ l ∈ labels', l.1 ≠ "account_id")
    (h : labels ++ a.toList.map (fun a => ("account_id", a)) =
      labels' ++ a'.toList.map (fun a => ("account_id", a))) : labels = labels' ∧ a = a' := by
  have hfilter : ∀ (ls : List (String × String)) (b : Option String),
      (∀ l ∈ ls, l.1 ≠ "account_id") →
      (ls ++ b.toList.map fun b => ("account_id", b)).filter (·.1 != "account_id") = ls := by
    intro ls b hls
    rw [List.filter_append, List.filter_eq_self.2 (by simpa using hls)]
    cases b <;> simp
  have hlabels : labels = labels' := by rw [← hfilter labels a hl, h, hfilter labels' a' hl']
  refine ⟨hlabels, ?_⟩
  rw [hlabels, List.append_cancel_left_eq] at h
  cases a <;> cases a' <;> simp_all

/-- With the account behind them, labels still have identifiers for names. -/
theorem isIdentifier_append_account {labels : List (String × String)}
    (named : ∀ l ∈ labels, isIdentifier l.1.toList = true) (a : Option String) :
    ∀ m ∈ labels ++ a.toList.map (fun a => ("account_id", a)), isIdentifier m.1.toList = true := by
  have haccount : isIdentifier "account_id".toList = true := by decide
  rw [List.forall_mem_append, List.forall_mem_map]
  exact ⟨named, fun _ _ => haccount⟩

/-- What is read of a query are its labels and the account that the client was made for. -/
theorem exists_text_selector {url : String} {account : Option String} {c : Client}
    (hc : Client.ofUrl url account = .ok c) (metric : String) {labels : List (String × String)}
    (named : ∀ l ∈ labels, isIdentifier l.1.toList = true) :
    ∃ text, (selector metric labels c.account).toList = metric.toList ++ text ∧
      readBraces? text = some (labels ++ accountMatcher account) ∧ '\n' ∉ text := by
  have hnamed := isIdentifier_append_account named c.account
  refine ⟨_, toList_selector metric labels c.account, ?_, newline_notMem_braces hnamed⟩
  rw [readBraces?_braces hnamed, account_ofUrl hc, accountMatcher_eq]

/-- **Queries are sealed.** After the metric of a query stand braces without a line break, in which
exactly the labels with their values are read, and then the account that the client was made for
unless it is empty. So, of labels none of which is that of the account, the query determines labels
and account. -/
theorem selector_sealed {url : String} {account : Option String} {c : Client}
    (hc : Client.ofUrl url account = .ok c) (metric : String) {labels : List (String × String)}
    (named : ∀ l ∈ labels, isIdentifier l.1.toList = true) :
    (∃ text, (selector metric labels c.account).toList = metric.toList ++ text ∧
      readBraces? text = some (labels ++ accountMatcher account) ∧ '\n' ∉ text) ∧
    ∀ {url' : String} {account' : Option String} {c' : Client},
      Client.ofUrl url' account' = .ok c' → ∀ {labels' : List (String × String)},
      (∀ l ∈ labels', isIdentifier l.1.toList = true) →
      (∀ l ∈ labels, l.1 ≠ "account_id") → (∀ l ∈ labels', l.1 ≠ "account_id") →
      selector metric labels c.account = selector metric labels' c'.account →
      labels = labels' ∧ c.account = c'.account := by
  constructor
  · exact exists_text_selector hc metric named
  · intro url' account' c' _ labels' named' hl hl' heq
    have htext := congrArg String.toList heq
    rw [toList_selector, toList_selector, List.append_cancel_left_eq] at htext
    have hread := readBraces?_braces (isIdentifier_append_account named c.account)
    rw [htext, readBraces?_braces (isIdentifier_append_account named' c'.account)] at hread
    exact eq_of_append_account hl hl' (Option.some.inj hread).symm

/-- A client at an address, for an account with a quote and a backslash. -/
def quotedClient : Client := ⟨"http", "/api/v1/query", some "4\"2\\"⟩

/-- A region that goes on like a matcher, and ends with a line break. -/
def hostileLabels : List (String × String) := [("region", "us\",type=\"x\n")]

theorem selector_sealed_hostile :
    Client.ofUrl "http://[::1]:9090" (some "4\"2\\") = .ok quotedClient ∧
      (∃ text, (selector "up" hostileLabels quotedClient.account).toList = "up".toList ++ text ∧
        readBraces? text = some [("region", "us\",type=\"x\n"), ("account_id", "4\"2\\")]) ∧
      selector "up" hostileLabels quotedClient.account ≠
        selector "up" [("region", "us"), ("type", "x\n")] quotedClient.account := by
  have hclient : Client.ofUrl "http://[::1]:9090" (some "4\"2\\") = .ok quotedClient := rfl
  have hnamed : ∀ l ∈ hostileLabels, isIdentifier l.1.toList = true := by decide
  obtain ⟨⟨text, htext, hread, -⟩, hdetermined⟩ := selector_sealed hclient "up" hnamed
  refine ⟨hclient, ⟨text, htext, hread⟩, fun heq => ?_⟩
  exact absurd (hdetermined hclient (by decide) (by decide) (by decide) heq).1 (by decide)

end PriceOverlay.Prometheus
