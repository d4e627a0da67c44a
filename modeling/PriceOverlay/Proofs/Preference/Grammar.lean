import Mathlib.Data.List.Forall2
import PriceOverlay.Proofs.Preference.Tokens
/-!
# The grammar of preferences

An annotation is read exactly if its tokens are matchers, at least one, and one `adjust` token,
wherever that stands. The matchers are kept in their order. Where it is not read, the error is that
of the leftmost token that cannot be taken; only where there is no such token it is what the row
lacks.

**Results**
* `Draft.outcome_add`: the tokens that are taken, and what is wrong with the others.
* `Draft.foldlM_eq_ok_iff`: the rows of tokens that give a draft.
* `Preference.outcome_read`: the annotations that are read, and what is wrong with the others.
* `Preference.read_follows_grammar`: the same as a grammar.
-/
namespace PriceOverlay

/-- A run stops with the error of the first element at which a step fails. -/
theorem foldlM_eq_error_iff {σ α ε : Type} {step : σ → α → Except ε σ} {s : σ} {xs : List α}
    {e : ε} :
    xs.foldlM step s = .error e ↔
      ∃ before x after t, xs = before ++ x :: after ∧ before.foldlM step s = .ok t ∧
        step t x = .error e := by
  induction xs generalizing s with
  | nil =>
    constructor
    · intro h
      cases h
    · rintro ⟨before, x, after, t, h, -⟩
      simp at h
  | cons y ys ih =>
    rw [List.foldlM_cons]
    cases hy : step s y with
    | error f =>
      constructor
      · intro h
        cases h
        exact ⟨[], y, ys, s, rfl, rfl, hy⟩
      · rintro ⟨_ | ⟨z, before⟩, x, after, t, h, hbefore, hx⟩
        · cases h
          cases hbefore
          rw [hy] at hx
          exact hx
        · cases h
          rw [List.foldlM_cons, hy] at hbefore
          cases hbefore
    | ok u =>
      refine ih.trans ⟨?_, ?_⟩
      · rintro ⟨before, x, after, t, rfl, hbefore, hx⟩
        refine ⟨y :: before, x, after, t, rfl, ?_, hx⟩
        rw [List.foldlM_cons, hy]
        exact hbefore
      · rintro ⟨_ | ⟨z, before⟩, x, after, t, h, hbefore, hx⟩
        · cases h
          cases hbefore
          rw [hy] at hx
          cases hx
        · cases h
          rw [List.foldlM_cons, hy] at hbefore
          exact ⟨before, x, after, t, rfl, hbefore, hx⟩

theorem mem_append_cons {α : Type} {before after : List α} {x y : α} :
    y ∈ before ++ x :: after ↔ y = x ∨ y ∈ before ++ after :=
  List.perm_middle.mem_iff.trans List.mem_cons

/-! ## One token -/

theorem Token.cut_adjust_iff {token operand : List Char} :
    Cut token ⟨"adjust".toList, .oneOf, operand⟩ ↔ token = "adjust=".toList ++ operand := by
  have hkey : ∀ c ∈ "adjust".toList, startsOperator c = false := by simp [startsOperator]
  have hne : "adjust".toList ≠ [] := by simp
  constructor
  · intro h
    simpa using h.text
  · rintro rfl
    exact ⟨hne, hkey, by simp, fun hnumeric => by cases hnumeric⟩

theorem Matcher.Writable.key_ne_adjust {m : Matcher} (w : m.Writable) :
    m.token.key ≠ "adjust".toList := by
  have hadjust : "adjust" ∉ keys := by decide
  intro hkey
  exact hadjust (String.toList_inj.1 hkey ▸ w.key_mem)

namespace Preference

/-- A token that is a matcher. -/
def IsMatcher (token : List Char) : Prop := ∃ m : Matcher, m.WrittenAs token

/-- A token that is an adjustment. -/
def IsAdjust (token : List Char) : Prop := ∃ a : Adjustment, a.WrittenAs token

theorem not_isAdjust_of_isMatcher {token : List Char} (hm : IsMatcher token) :
    ¬ IsAdjust token := by
  obtain ⟨m, w, hcut⟩ := hm
  rintro ⟨a, operand, htoken, -⟩
  have hread := (Token.read_of_cut hcut).symm.trans
    (Token.read_of_cut (Token.cut_adjust_iff.2 htoken))
  exact w.key_ne_adjust (congrArg Token.key (Except.ok.inj hread))

theorem exists_forall₂_iff {tokens : List (List Char)} :
    (∃ ms, List.Forall₂ Matcher.WrittenAs ms tokens) ↔ ∀ token ∈ tokens, IsMatcher token := by
  induction tokens with
  | nil => exact ⟨fun _ _ h => (by cases h), fun _ => ⟨[], .nil⟩⟩
  | cons token tokens ih =>
    rw [List.forall_mem_cons, ← ih]
    constructor
    · rintro ⟨_, hall⟩
      obtain ⟨m, ms, hm, hms, rfl⟩ := List.forall₂_cons_right_iff.1 hall
      exact ⟨⟨m, hm⟩, ms, hms⟩
    · rintro ⟨⟨m, hm⟩, ms, hms⟩
      exact ⟨m :: ms, .cons hm hms⟩

namespace Draft

/-- What a token that is taken makes of a draft. -/
inductive Taken (d : Draft) (token : List Char) : Draft → Prop
  | matcher {m : Matcher} (h : m.WrittenAs token) :
    Taken d token ⟨d.matchers ++ [m], d.adjustment⟩
  | adjustment {a : Adjustment} (h : a.WrittenAs token) (hnone : d.adjustment = none) :
    Taken d token ⟨d.matchers, some a⟩

/-- Why a token is not taken, `adjusted` if there was an `adjust` token before it. -/
inductive Refused (adjusted : Bool) (token : List Char) : PreferenceError → Prop
  | uncut {e : PreferenceError} (h : Token.Uncut token e) : Refused adjusted token e
  | comparison {operator : MatchOperator} {operand : List Char}
    (h : Token.Cut token ⟨"adjust".toList, operator, operand⟩) (hne : operator ≠ .oneOf) :
    Refused adjusted token (.malformedAdjustment (String.ofList token))
  | again {operand : List Char} (h : token = "adjust=".toList ++ operand)
    (hadjusted : adjusted = true) : Refused adjusted token .duplicateAdjustment
  | malformed {operand : List Char} (h : token = "adjust=".toList ++ operand)
    (hadjusted : adjusted = false) (hnone : ∀ a, ¬ Adjustment.Stated operand a) :
    Refused adjusted token (.malformedAdjustment (String.ofList operand))
  | unfit {t : Token} {e : PreferenceError} (hcut : Token.Cut token t)
    (hkey : t.key ≠ "adjust".toList) (h : Matcher.Unfit token t e) : Refused adjusted token e

/-- A token with another key is read as a matcher. -/
theorem add_of_cut {d : Draft} {token : List Char} {t : Token} (hcut : Token.Cut token t)
    (hkey : t.key ≠ "adjust".toList) :
    d.add token =
      (Matcher.ofToken token t).map fun m => ⟨d.matchers ++ [m], d.adjustment⟩ := by
  unfold add
  rw [Token.read_of_cut hcut]
  dsimp only [bind, Except.bind]
  rw [if_neg hkey]
  cases Matcher.ofToken token t <;> rfl

/-- An `adjust` token is read if it is the first and its operator is the equals sign. -/
theorem add_of_cut_adjust {d : Draft} {token : List Char} {t : Token} (hcut : Token.Cut token t)
    (hkey : t.key = "adjust".toList) :
    d.add token =
      if t.operator ≠ .oneOf then .error (.malformedAdjustment (String.ofList token))
      else if d.adjustment.isSome then .error .duplicateAdjustment
      else (Adjustment.read t.operand).map fun a => ⟨d.matchers, some a⟩ := by
  unfold add
  rw [Token.read_of_cut hcut]
  dsimp only [bind, Except.bind]
  rw [if_pos hkey]
  cases Adjustment.read t.operand <;> rfl

theorem add_adjust (d : Draft) (operand : List Char) :
    d.add ("adjust=".toList ++ operand) =
      if d.adjustment.isSome then .error .duplicateAdjustment
      else (Adjustment.read operand).map fun a => ⟨d.matchers, some a⟩ := by
  rw [add_of_cut_adjust (Token.cut_adjust_iff.2 rfl) rfl]
  exact if_neg (not_not_intro rfl)

theorem add_of_taken {d d' : Draft} {token : List Char} (h : Taken d token d') :
    d.add token = .ok d' := by
  cases h with
  | matcher h =>
    obtain ⟨w, hcut⟩ := h
    rw [add_of_cut hcut w.key_ne_adjust, Matcher.ofToken_of_writable w]
    rfl
  | adjustment h hnone =>
    obtain ⟨operand, rfl, hstated⟩ := h
    rw [add_adjust, if_neg (by simp [hnone]), Adjustment.read_of_stated hstated]
    rfl

theorem add_of_refused {d : Draft} {token : List Char} {e : PreferenceError}
    (h : Refused d.adjustment.isSome token e) : d.add token = .error e := by
  cases h with
  | uncut h =>
    unfold add
    rw [Token.read_of_uncut h]
    rfl
  | comparison h hne => rw [add_of_cut_adjust h rfl, if_pos hne]
  | again h hadjusted =>
    subst h
    rw [add_adjust, if_pos hadjusted]
  | malformed h hadjusted hnone =>
    subst h
    rw [add_adjust, if_neg (by simp [hadjusted]), Adjustment.read_eq_error_iff.2 ⟨hnone, rfl⟩]
    rfl
  | unfit hcut hkey h =>
    rw [add_of_cut hcut hkey, Matcher.ofToken_of_unfit h]
    rfl

theorem taken_or_refused (d : Draft) (token : List Char) :
    (∃ d', Taken d token d') ∨ ∃ e, Refused d.adjustment.isSome token e := by
  rcases Token.cut_or_uncut token with ⟨t, hcut⟩ | ⟨e, he⟩
  case inr => exact .inr ⟨e, .uncut he⟩
  by_cases hkey : t.key = "adjust".toList
  case neg =>
    rcases Matcher.writable_or_unfit token t with ⟨m, w, rfl⟩ | ⟨e, he⟩
    · exact .inl ⟨_, .matcher ⟨w, hcut⟩⟩
    · exact .inr ⟨e, .unfit hcut hkey he⟩
  obtain ⟨key, operator, operand⟩ := t
  obtain rfl : key = _ := hkey
  by_cases hne : operator = .oneOf
  case neg => exact .inr ⟨_, .comparison hcut hne⟩
  subst hne
  have htoken := Token.cut_adjust_iff.1 hcut
  cases hadjustment : d.adjustment with
  | some a => exact .inr ⟨_, .again htoken rfl⟩
  | none =>
    by_cases hstated : ∃ a, Adjustment.Stated operand a
    · obtain ⟨a, ha⟩ := hstated
      exact .inl ⟨_, .adjustment ⟨operand, htoken, ha⟩ hadjustment⟩
    · exact .inr ⟨_, .malformed htoken rfl (not_exists.1 hstated)⟩

theorem outcome_add (d : Draft) (token : List Char) :
    (∀ d', d.add token = .ok d' ↔ Taken d token d') ∧
      ∀ e, d.add token = .error e ↔ Refused d.adjustment.isSome token e :=
  outcome_iff (fun _ => add_of_taken) (fun _ => add_of_refused) (taken_or_refused d token)

/-! ## Rows of tokens -/

/-- A row of tokens spells a draft: its matchers are the tokens in their order, but for the one that
is the adjustment, if there is one. -/
def Spells (tokens : List (List Char)) (d : Draft) : Prop :=
  match d.adjustment with
  | none => List.Forall₂ Matcher.WrittenAs d.matchers tokens
  | some a => ∃ before token after, tokens = before ++ token :: after ∧ a.WrittenAs token ∧
      List.Forall₂ Matcher.WrittenAs d.matchers (before ++ after)

theorem Spells.ne_nil {tokens : List (List Char)} {d : Draft} {a : Adjustment}
    (h : Spells tokens d) (ha : d.adjustment = some a) : tokens ≠ [] := by
  obtain ⟨ms, adjustment⟩ := d
  obtain rfl : adjustment = some a := ha
  obtain ⟨before, token, after, rfl, -⟩ := h
  simp

theorem spells_add {tokens : List (List Char)} {d d' : Draft} {token : List Char}
    (hd : Spells tokens d) (h : Taken d token d') : Spells (tokens ++ [token]) d' := by
  obtain ⟨ms, adjustment⟩ := d
  cases h with
  | @matcher m h =>
    have hone : List.Forall₂ Matcher.WrittenAs [m] [token] := .cons h .nil
    cases adjustment with
    | none => exact List.rel_append hd hone
    | some a =>
      obtain ⟨before, t, after, rfl, ha, hall⟩ := hd
      refine ⟨before, t, after ++ [token], by simp, ha, ?_⟩
      rw [← List.append_assoc]
      exact List.rel_append hall hone
  | adjustment h hnone =>
    obtain rfl : adjustment = none := hnone
    refine ⟨tokens, token, [], rfl, h, ?_⟩
    rw [List.append_nil]
    exact hd

theorem spells_of_foldlM {tokens : List (List Char)} {d : Draft}
    (h : tokens.foldlM add ⟨[], none⟩ = .ok d) : Spells tokens d := by
  have hstart : Spells [] ⟨[], none⟩ := .nil
  refine foldlM_induction hstart (fun tokens token d d' hd hadd => ?_) h
  exact spells_add hd (((outcome_add d token).1 d').1 hadd)

/-- Matchers are added to what there is. -/
theorem foldlM_matchers {ms : List Matcher} {tokens : List (List Char)}
    (h : List.Forall₂ Matcher.WrittenAs ms tokens) (d : Draft) :
    tokens.foldlM add d = .ok ⟨d.matchers ++ ms, d.adjustment⟩ := by
  induction h generalizing d with
  | nil =>
    rw [List.append_nil]
    rfl
  | cons hm _ ih =>
    rw [List.foldlM_cons, add_of_taken (.matcher hm)]
    refine (ih _).trans ?_
    rw [List.append_assoc, List.singleton_append]

theorem foldlM_of_spells {tokens : List (List Char)} {d : Draft} (h : Spells tokens d) :
    tokens.foldlM add ⟨[], none⟩ = .ok d := by
  obtain ⟨ms, adjustment⟩ := d
  cases adjustment with
  | none => exact foldlM_matchers h ⟨[], none⟩
  | some a =>
    obtain ⟨before, token, after, rfl, ha, hall⟩ := h
    have hbefore := List.forall₂_take_append _ _ _ hall
    have hafter := List.forall₂_drop_append _ _ _ hall
    rw [List.foldlM_append, foldlM_matchers hbefore]
    show (token :: after).foldlM add _ = _
    rw [List.foldlM_cons, add_of_taken (.adjustment ha rfl)]
    refine (foldlM_matchers hafter _).trans ?_
    rw [List.nil_append, List.take_append_drop]

/-- **Rows.** The tokens give the draft that they spell. -/
theorem foldlM_eq_ok_iff {tokens : List (List Char)} {d : Draft} :
    tokens.foldlM add ⟨[], none⟩ = .ok d ↔ Spells tokens d :=
  ⟨spells_of_foldlM, foldlM_of_spells⟩

/-- No token is refused for what the row lacks. -/
theorem not_lacks_of_refused {adjusted : Bool} {token : List Char} {e : PreferenceError}
    (h : Refused adjusted token e) : e ∉ [.empty, .missingAdjustment, .noMatchers] := by
  cases h with
  | uncut h => cases h <;> simp
  | comparison | again | malformed => simp
  | unfit _ _ h => cases h <;> simp

/-- A row that spells a draft has matchers and adjustments only. -/
theorem isMatcher_or_isAdjust_of_spells {tokens : List (List Char)} {d : Draft}
    (h : Spells tokens d) : ∀ token ∈ tokens, IsMatcher token ∨ IsAdjust token := by
  obtain ⟨ms, _ | a⟩ := d
  · intro token ht
    exact .inl (exists_forall₂_iff.1 ⟨ms, h⟩ token ht)
  · obtain ⟨before, t, after, rfl, ha, hall⟩ := h
    have hmatchers := exists_forall₂_iff.1 ⟨ms, hall⟩
    intro token ht
    rcases mem_append_cons.1 ht with rfl | ht
    · exact .inr ⟨a, ha⟩
    · exact .inl (hmatchers token ht)

end Draft

/-! ## Annotations -/

/-- What a row of good tokens lacks. -/
inductive Lacks (tokens : List (List Char)) (d : Draft) : PreferenceError → Prop
  | tokens (h : tokens = []) : Lacks tokens d .empty
  | adjustment (hne : tokens ≠ []) (h : d.adjustment = none) : Lacks tokens d .missingAdjustment
  | matchers {a : Adjustment} (hadjusted : d.adjustment = some a) (h : d.matchers = []) :
    Lacks tokens d .noMatchers

/-- Why a row of tokens is not read: the leftmost token that is not taken, and only if all are
taken what the row lacks. -/
inductive Unread (tokens : List (List Char)) : PreferenceError → Prop
  | token {before after : List (List Char)} {token : List Char} {d : Draft} {e : PreferenceError}
    (h : tokens = before ++ token :: after) (hbefore : Draft.Spells before d)
    (htoken : Draft.Refused d.adjustment.isSome token e) : Unread tokens e
  | row {d : Draft} {e : PreferenceError} (h : Draft.Spells tokens d) (hlacks : Lacks tokens d e) :
    Unread tokens e

/-- A row of tokens that is read as a preference. -/
structure Spelled (nodePool : String) (n : Nat) (tokens : List (List Char)) (p : Preference) :
    Prop where
  number_eq : p.number = n
  nodePool_eq : p.nodePool = nodePool
  matchers_ne_nil : p.matchers ≠ []
  spells : Draft.Spells tokens ⟨p.matchers, some p.adjustment⟩

section
variable {nodePool : String} {n : Nat} {value : String}

theorem read_of_spelled {p : Preference} (h : Spelled nodePool n (Text.words value.toList) p) :
    read nodePool n value = .ok p := by
  obtain ⟨number, pool, ms, a⟩ := p
  obtain ⟨rfl, rfl, hne, hspells⟩ := h
  have htokens := hspells.ne_nil rfl
  unfold read
  dsimp only
  rw [Draft.foldlM_of_spells hspells]
  dsimp only [bind, Except.bind]
  rw [if_neg (by simpa using htokens), if_neg (by simpa using hne)]
  rfl

theorem read_of_unread {e : PreferenceError} (h : Unread (Text.words value.toList) e) :
    read nodePool n value = .error e := by
  unfold read
  dsimp only
  cases h with
  | token h hbefore htoken =>
    have hfold : (Text.words value.toList).foldlM Draft.add ⟨[], none⟩ = .error e :=
      foldlM_eq_error_iff.2
        ⟨_, _, _, _, h, Draft.foldlM_of_spells hbefore, Draft.add_of_refused htoken⟩
    rw [hfold]
    rfl
  | row h hlacks =>
    rw [Draft.foldlM_of_spells h]
    dsimp only [bind, Except.bind]
    cases hlacks with
    | tokens htokens => rw [if_pos (by simpa using htokens)]
    | adjustment hne hnone => rw [if_neg (by simpa using hne), hnone]
    | matchers hadjusted hnil =>
      rw [if_neg (by simpa using h.ne_nil hadjusted), hadjusted, hnil]
      rfl

theorem spelled_or_unread (nodePool : String) (n : Nat) (tokens : List (List Char)) :
    (∃ p, Spelled nodePool n tokens p) ∨ ∃ e, Unread tokens e := by
  cases hfold : tokens.foldlM Draft.add ⟨[], none⟩ with
  | error e =>
    obtain ⟨before, token, after, d, h, hbefore, htoken⟩ := foldlM_eq_error_iff.1 hfold
    exact .inr ⟨e, .token h (Draft.spells_of_foldlM hbefore)
      (((Draft.outcome_add d token).2 e).1 htoken)⟩
  | ok d =>
    have hspells := Draft.spells_of_foldlM hfold
    by_cases htokens : tokens = []
    case pos => exact .inr ⟨_, .row hspells (.tokens htokens)⟩
    obtain ⟨ms, _ | a⟩ := d
    case none => exact .inr ⟨_, .row hspells (.adjustment htokens rfl)⟩
    by_cases hms : ms = []
    case pos => exact .inr ⟨_, .row hspells (.matchers rfl hms)⟩
    exact .inl ⟨⟨n, nodePool, ms, a⟩, rfl, rfl, hms, hspells⟩

theorem outcome_read (nodePool : String) (n : Nat) (value : String) :
    (∀ p, read nodePool n value = .ok p ↔ Spelled nodePool n (Text.words value.toList) p) ∧
      ∀ e, read nodePool n value = .error e ↔ Unread (Text.words value.toList) e :=
  outcome_iff (fun _ => read_of_spelled) (fun _ => read_of_unread)
    (spelled_or_unread nodePool n _)

/-- The tokens of a preference: at least one matcher and exactly one adjustment. -/
theorem exists_spelled_iff {tokens : List (List Char)} :
    (∃ p, Spelled nodePool n tokens p) ↔
      (∃ token ∈ tokens, IsMatcher token) ∧
      (∃ before token after, tokens = before ++ token :: after ∧ IsAdjust token ∧
        ∀ other ∈ before ++ after, ¬ IsAdjust other) ∧
      ∀ token ∈ tokens, IsMatcher token ∨ IsAdjust token := by
  constructor
  · rintro ⟨p, -, -, hne, hspells⟩
    have hall := Draft.isMatcher_or_isAdjust_of_spells hspells
    obtain ⟨before, token, after, rfl, ha, hmatchers⟩ := hspells
    have hothers := exists_forall₂_iff.1 ⟨_, hmatchers⟩
    refine ⟨?_, ⟨before, token, after, rfl, ⟨_, ha⟩, fun other ho => ?_⟩, hall⟩
    · have hsome : before ++ after ≠ [] := by
        intro hnil
        rw [hnil] at hmatchers
        exact hne (List.forall₂_nil_right_iff.1 hmatchers)
      obtain ⟨other, ho⟩ := List.exists_mem_of_ne_nil _ hsome
      exact ⟨other, mem_append_cons.2 (.inr ho), hothers other ho⟩
    · exact not_isAdjust_of_isMatcher (hothers other ho)
  · rintro ⟨⟨matcher, hmem, hmatcher⟩, ⟨before, token, after, rfl, ⟨a, ha⟩, hothers⟩, hall⟩
    have hmatchers : ∀ other ∈ before ++ after, IsMatcher other := by
      intro other ho
      exact (hall other (mem_append_cons.2 (.inr ho))).resolve_right (hothers other ho)
    obtain ⟨ms, hms⟩ := exists_forall₂_iff.2 hmatchers
    refine ⟨⟨n, nodePool, ms, a⟩, rfl, rfl, ?_, before, token, after, rfl, ha, hms⟩
    rintro rfl
    rcases mem_append_cons.1 hmem with rfl | hmem
    · exact not_isAdjust_of_isMatcher hmatcher ⟨a, ha⟩
    · rw [List.forall₂_nil_left_iff.1 hms] at hmem
      cases hmem

end

/-- **Grammar.** An annotation is read exactly if its tokens are matchers, at least one, and one
adjustment. What is read is what they are written from, in their order. Otherwise the error is that
of the leftmost token that is refused, and if none is, of what the row lacks. -/
theorem read_follows_grammar (nodePool : String) (n : Nat) (value : String) :
    let tokens := Text.words value.toList
    ((∃ p, read nodePool n value = .ok p) ↔
      (∃ token ∈ tokens, IsMatcher token) ∧
      (∃ before token after, tokens = before ++ token :: after ∧ IsAdjust token ∧
        ∀ other ∈ before ++ after, ¬ IsAdjust other) ∧
      ∀ token ∈ tokens, IsMatcher token ∨ IsAdjust token) ∧
    (∀ p, read nodePool n value = .ok p ↔
      p.number = n ∧ p.nodePool = nodePool ∧ p.matchers ≠ [] ∧
        ∃ before token after, tokens = before ++ token :: after ∧
          p.adjustment.WrittenAs token ∧
          List.Forall₂ Matcher.WrittenAs p.matchers (before ++ after)) ∧
    (∀ e, read nodePool n value = .error e ↔ Unread tokens e) ∧
    ∀ e ∈ [.empty, .missingAdjustment, .noMatchers], read nodePool n value = .error e →
      ∀ token ∈ tokens, IsMatcher token ∨ IsAdjust token := by
  intro tokens
  obtain ⟨hok, herror⟩ := outcome_read nodePool n value
  refine ⟨?_, fun p => (hok p).trans ⟨?_, ?_⟩, herror, fun e he h => ?_⟩
  · simp only [hok]
    exact exists_spelled_iff
  · rintro ⟨hnumber, hpool, hne, hspells⟩
    exact ⟨hnumber, hpool, hne, hspells⟩
  · rintro ⟨hnumber, hpool, hne, hspells⟩
    exact ⟨hnumber, hpool, hne, hspells⟩
  · cases (herror e).1 h with
    | token _ _ htoken => exact absurd he (Draft.not_lacks_of_refused htoken)
    | row hspells _ => exact Draft.isMatcher_or_isAdjust_of_spells hspells

end Preference
end PriceOverlay
