import SmallLisp.Proofs.TokenTree

/-!
# The first form of a text

Tokens begin with a tree, with a closing parenthesis, or with an opening one that has no partner,
unless there are none. Reading one form takes the tokens of the tree and leaves all others. A tree
ends where the depth first is back at zero.

The check of parentheses looks at the first token, at the last one and at the depth of all. So it
accepts any text that begins with a list and goes on with tokens of depth zero, the last of which
is a closing parenthesis, whereas only the list alone is a text of one form.

## Main results

* `firstForm_cases`: how a sequence of tokens begins
* `readForm_tokens`, `readForm_eq_ok_iff`: one form is read from the tokens of one tree
* `depth_pos_of_prefix_tokens`: the depth is positive within a tree
* `checkParens_eq_ok_iff_tokens`: the texts that the check of parentheses accepts
* `exists_parse_list_iff`: the texts of one list
* `checkParens_iff_firstList`: the check of parentheses and the reading of one form
* `checkParens_two_lists`: they differ on two lists
-/

namespace SmallLisp

open TokenTree

/-! ## The first tree -/

/-- Tokens begin with a tree, a stray parenthesis or one that is not closed, if there are any. -/
theorem firstForm_cases (ts : List Token) :
    ts = [] ∨ (∃ us, ts = .closing :: us) ∨ Unclosed ts ∨ ∃ t us, ts = tokens t ++ us := by
  obtain ⟨f, us, rfl, hus⟩ := exists_tokensAll_append ts
  cases f with
  | nil =>
    rw [tokensAll_nil, List.nil_append]
    cases hus with
    | none => exact .inl rfl
    | stray us => exact .inr (.inl ⟨us, rfl⟩)
    | unclosed h => exact .inr (.inr (.inl h))
  | cons t f =>
    rw [tokensAll, List.append_assoc]
    exact .inr (.inr (.inr ⟨t, _, rfl⟩))

theorem tokensAll_singleton (t : TokenTree) : tokensAll [t] = tokens t := by
  rw [tokensAll, tokensAll_nil, List.append_nil]

@[simp] theorem depth_tokens (t : TokenTree) : depth (tokens t) = 0 := by
  rw [← tokensAll_singleton, depth_tokensAll]

theorem tokens_ne_nil (t : TokenTree) : tokens t ≠ [] := by
  cases t <;> simp [tokens]

/-- **The depth is positive within a tree.** -/
theorem depth_pos_of_prefix_tokens {t : TokenTree} {p : List Token} (hp : p <+: tokens t)
    (hnil : p ≠ []) (hall : p ≠ tokens t) : 0 < depth p := by
  cases t with
  | leaf w =>
    rw [tokens, List.prefix_cons_iff] at hp
    rcases hp with rfl | ⟨q, rfl, hq⟩
    · exact absurd rfl hnil
    · rw [List.prefix_nil.mp hq, tokens] at hall
      exact absurd rfl hall
  | node items =>
    rw [tokens, List.prefix_cons_iff] at hp
    rcases hp with rfl | ⟨q, rfl, hq⟩
    · exact absurd rfl hnil
    · rcases List.prefix_concat_iff.mp hq with rfl | hq
      · rw [tokens] at hall
        exact absurd rfl hall
      · have hitems := depthsIn_tokensAll (Int.le_refl 0) items q hq
        simp only [depth_cons, Token.weight]
        omega

/-- **One form is read from the tokens of one tree**, and what follows is left. -/
theorem readForm_tokens {limit : Nat} {t : TokenTree} (us : List Token)
    (ht : DepthsIn (· ≤ (limit : Int)) 0 (tokens t)) :
    readForm limit (tokens t ++ us) = ⟨.ok (value t), us⟩ := by
  cases t with
  | leaf w => rw [tokens, value, List.singleton_append, readForm, readFrom]
  | node items =>
    simp only [tokens, depthsIn_cons, depthsIn_append, Token.weight] at ht
    rw [tokens, value, List.cons_append, List.append_assoc, List.singleton_append]
    exact readForm_node us ht.2.1

/-- Only a node has a list as its value. -/
theorem value_eq_list_iff {t : TokenTree} {vs : List Value} :
    value t = .list vs ↔ ∃ items, t = .node items ∧ valueAll items = vs := by
  cases t with
  | leaf w =>
    rw [value, atom]
    cases Number.int? w with
    | some n => simp
    | none => cases Number.float? w <;> simp
  | node items => simp [value]

section Reading

variable {limit : Nat} {ts us : List Token} {t : TokenTree} {v : Value} {source : String}

theorem NestsWithin.depthsIn_self (h : NestsWithin limit ts) (hts : DepthsIn (0 ≤ ·) 0 ts) :
    DepthsIn (· ≤ (limit : Int)) 0 ts := by
  rw [← List.append_nil ts] at h
  exact h.depthsIn hts

theorem NestsWithin.depthsIn_tokens (h : NestsWithin limit (tokens t ++ us)) :
    DepthsIn (· ≤ (limit : Int)) 0 (tokens t) := by
  refine h.depthsIn ?_
  rw [← tokensAll_singleton]
  exact depthsIn_tokensAll (Int.le_refl 0) [t]

/-- Tokens nest within a limit that no part of them exceeds. -/
theorem nestsWithin_of_inits (h : ∀ p ∈ ts.inits, depth p ≤ (limit : Int)) :
    NestsWithin limit ts :=
  fun p hp _ => h p ((List.mem_inits p ts).mpr hp)

/-- A form is read just if the tokens begin with its tree. -/
theorem readForm_eq_ok_iff (h : NestsWithin limit ts) :
    readForm limit ts = ⟨.ok v, us⟩ ↔ ∃ t, ts = tokens t ++ us ∧ value t = v := by
  constructor
  · intro hread
    rcases firstForm_cases ts with rfl | ⟨us', rfl⟩ | hopen | ⟨t, us', rfl⟩
    · simp [readForm, readFrom] at hread
    · simp [readForm, readFrom] at hread
    · have hdepths := h.depthsIn_self (hopen.depthsIn (Int.le_refl 0))
      rw [readForm, hopen.readFrom_eq [] hdepths] at hread
      cases hread
    · rw [readForm_tokens us' h.depthsIn_tokens] at hread
      cases hread
      exact ⟨t, rfl, rfl⟩
  · rintro ⟨t, rfl, rfl⟩
    exact readForm_tokens us h.depthsIn_tokens

/-- A list is read just if the tokens begin with trees between parentheses. -/
theorem readForm_eq_list_iff (h : NestsWithin limit ts) {vs : List Value} :
    readForm limit ts = ⟨.ok (.list vs), us⟩ ↔
      ∃ items, ts = tokens (.node items) ++ us ∧ valueAll items = vs := by
  rw [readForm_eq_ok_iff h]
  constructor
  · rintro ⟨t, hts, ht⟩
    obtain ⟨items, rfl, hitems⟩ := value_eq_list_iff.mp ht
    exact ⟨items, hts, hitems⟩
  · rintro ⟨items, hts, hitems⟩
    exact ⟨.node items, hts, value_eq_list_iff.mpr ⟨items, rfl, hitems⟩⟩

/-- The only form of a text is read from all of its tokens. -/
theorem parse_eq_ok_iff :
    parse limit source = .ok v ↔ readForm limit (tokenize source) = ⟨.ok v, []⟩ := by
  simp only [parse]
  cases tokenize source with
  | nil => simp [readForm, readFrom]
  | cons t ts =>
    generalize readForm limit (t :: ts) = reading
    obtain ⟨result, left⟩ := reading
    cases result with
    | error e => simp
    | ok w => rcases left with _ | ⟨_ | _ | _, left⟩ <;> simp

/-- A text with more tokens after its first form is refused. -/
theorem parse_of_left_ne_nil (h : readForm limit (tokenize source) = ⟨.ok v, us⟩) (hus : us ≠ []) :
    parse limit source = .error .closingAfter ∨
      ∃ text, parse limit source = .error (.trailing text) := by
  unfold parse
  cases hts : tokenize source with
  | nil =>
    rw [hts] at h
    simp [readForm, readFrom] at h
  | cons t ts =>
    rw [hts] at h
    rcases us with _ | ⟨_ | _ | _, us⟩ <;> simp [h] at hus ⊢

end Reading

/-! ## The check of parentheses -/

/-- The check passes texts whose first token opens, whose last token closes, and which close as much
as they open. -/
theorem checkParens_eq_ok_iff {source : String} :
    checkParens source = .ok () ↔ (tokenize source).head? = some .opening ∧
      (tokenize source).getLast? = some .closing ∧ depth (tokenize source) = 0 := by
  simp only [checkParens]
  cases tokenize source with
  | nil => simp
  | cons t ts =>
    simp only [List.isEmpty_cons, Bool.false_eq_true, if_false]
    split
    · rename_i h
      exact ⟨nofun, fun ⟨hhead, hlast, _⟩ => (h.elim (· hhead) (· hlast)).elim⟩
    · rename_i h
      rw [not_or, Decidable.not_not, Decidable.not_not] at h
      simp only [h, true_and, ite_not]
      split <;> simp_all

/-- The check gives an error of the language if it does not accept. -/
theorem fails_checkParens {source : String} (h : checkParens source ≠ .ok ()) :
    Fails (checkParens source) .unexpectedEnd ∨ Fails (checkParens source) .mismatchedParens ∨
      Fails (checkParens source) .malformed := by
  simp only [checkParens] at h ⊢
  split
  · exact .inl (fails_error.mpr rfl)
  · split
    · exact .inr (.inr (fails_error.mpr rfl))
    · split
      · exact .inr (.inl (fails_error.mpr rfl))
      · simp_all

/-- **The check accepts a list with tokens of depth zero after it**, if the last token is a closing
parenthesis. -/
theorem checkParens_eq_ok_iff_tokens {source : String} :
    checkParens source = .ok () ↔ ∃ items us, tokenize source = tokens (.node items) ++ us ∧
      depth us = 0 ∧ ∀ t ∈ us.getLast?, t = .closing := by
  rw [checkParens_eq_ok_iff]
  constructor
  · rintro ⟨hhead, hlast, hdepth⟩
    rcases firstForm_cases (tokenize source) with hts | ⟨us, hts⟩ | hopen | ⟨t, us, hts⟩
    · simp [hts] at hhead
    · simp [hts] at hhead
    · exact absurd hdepth (Int.ne_of_gt hopen.depth_pos)
    · rw [hts] at hhead hlast hdepth
      cases t with
      | leaf w => simp [tokens] at hhead
      | node items =>
        rw [depth_append, depth_tokens, Int.zero_add] at hdepth
        refine ⟨items, us, hts, hdepth, fun t ht => ?_⟩
        rw [List.getLast?_append, Option.mem_def.mp ht, Option.some_or] at hlast
        exact Option.some.inj hlast
  · rintro ⟨items, us, hts, hdepth, hlast⟩
    rw [hts, depth_append, depth_tokens, hdepth]
    refine ⟨by simp [tokens], ?_, rfl⟩
    rw [List.getLast?_append]
    cases hus : us.getLast? with
    | none => rw [tokens, ← List.cons_append, List.getLast?_concat, Option.none_or]
    | some t => rw [hlast t hus, Option.some_or]

/-- **A text is one list just if it is accepted and something is open within it.** -/
theorem exists_parse_list_iff {limit : Nat} {source : String}
    (hnest : NestsWithin limit (tokenize source)) :
    (∃ items, parse limit source = .ok (.list items)) ↔
      checkParens source = .ok () ∧
        ∀ p, p <+: tokenize source → p ≠ [] → p ≠ tokenize source → 0 < depth p := by
  rw [checkParens_eq_ok_iff_tokens]
  constructor
  · rintro ⟨vs, hparse⟩
    obtain ⟨items, hts, -⟩ := (readForm_eq_list_iff hnest).mp (parse_eq_ok_iff.mp hparse)
    refine ⟨⟨items, [], hts, rfl, by simp⟩, ?_⟩
    rw [hts, List.append_nil]
    exact fun p => depth_pos_of_prefix_tokens
  · -- the first list is a part of depth zero, so it is the whole text
    rintro ⟨⟨items, us, hts, -⟩, hpos⟩
    have hwhole : tokens (.node items) = tokenize source := by
      by_contra hne
      have hlt := hpos _ (hts ▸ List.prefix_append _ us) (tokens_ne_nil _) hne
      rw [depth_tokens] at hlt
      exact absurd hlt (Int.lt_irrefl 0)
    have hread := (readForm_eq_list_iff hnest).mpr ⟨items, by rw [hwhole, List.append_nil], rfl⟩
    exact ⟨valueAll items, parse_eq_ok_iff.mpr hread⟩

/-- **The check of parentheses and the reading of one form.** The check accepts just the texts that
begin with a list and go on with nothing, or with tokens of depth zero up to a closing parenthesis.
The text is one list just if it is accepted and every shorter part of it leaves something open.
Otherwise an accepted text is refused by the reader, for what comes after its first list. A text
that is not accepted is refused with an error of the language. -/
theorem checkParens_iff_firstList {limit : Nat} {source : String}
    (hnest : NestsWithin limit (tokenize source)) :
    (checkParens source = .ok () ↔ ∃ items left,
        readForm limit (tokenize source) = ⟨.ok (.list items), left⟩ ∧ depth left = 0 ∧
          ∀ t ∈ left.getLast?, t = .closing) ∧
      ((∃ items, parse limit source = .ok (.list items)) ↔
        checkParens source = .ok () ∧
          ∀ p, p <+: tokenize source → p ≠ [] → p ≠ tokenize source → 0 < depth p) ∧
      (checkParens source = .ok () → (¬ ∃ items, parse limit source = .ok (.list items)) →
        parse limit source = .error .closingAfter ∨
          ∃ text, parse limit source = .error (.trailing text)) ∧
      (checkParens source ≠ .ok () → Fails (checkParens source) .unexpectedEnd ∨
        Fails (checkParens source) .mismatchedParens ∨ Fails (checkParens source) .malformed) := by
  refine ⟨?_, exists_parse_list_iff hnest, ?_, fails_checkParens⟩
  · rw [checkParens_eq_ok_iff_tokens]
    constructor
    · rintro ⟨items, us, hts, hus⟩
      exact ⟨valueAll items, us, (readForm_eq_list_iff hnest).mpr ⟨items, hts, rfl⟩, hus⟩
    · rintro ⟨vs, us, hread, hus⟩
      obtain ⟨items, hts, -⟩ := (readForm_eq_list_iff hnest).mp hread
      exact ⟨items, us, hts, hus⟩
  · rw [checkParens_eq_ok_iff_tokens]
    rintro ⟨items, us, hts, -⟩ hnot
    have hread := (readForm_eq_list_iff hnest).mpr ⟨items, hts, rfl⟩
    refine parse_of_left_ne_nil hread fun hus => hnot ⟨valueAll items, ?_⟩
    rw [parse_eq_ok_iff, hread, hus]

/-- A list with a list in it, after which something stays open. -/
theorem checkParens_iff_firstList_nested :
    NestsWithin 2 (tokenize "(f (x) y)") ∧ checkParens "(f (x) y)" = .ok () ∧
      ∃ items, parse 2 "(f (x) y)" = .ok (.list items) := by
  have htokens : tokenize "(f (x) y)" = [.opening, .word "f", .opening, .word "x", .closing,
      .word "y", .closing] := by
    decide +kernel
  have hnest : NestsWithin 2 (tokenize "(f (x) y)") := by
    rw [htokens]
    exact nestsWithin_of_inits (by decide)
  have hcheck : checkParens "(f (x) y)" = .ok () := by
    rw [checkParens_eq_ok_iff, htokens]
    decide
  refine ⟨hnest, hcheck, (checkParens_iff_firstList hnest).2.1.mpr ⟨hcheck, ?_⟩⟩
  rw [htokens]
  intro p hp
  rw [← List.mem_inits] at hp
  revert p
  decide

/-- **Two lists are accepted, but are no text of one form.** -/
theorem checkParens_two_lists :
    NestsWithin 1 (tokenize "() ()") ∧ checkParens "() ()" = .ok () ∧
      parse 1 "() ()" = .error (.trailing "( )") ∧
      ¬ (checkParens "() ()" = .ok () ↔ ∃ items, parse 1 "() ()" = .ok (.list items)) := by
  have htokens : tokenize "() ()" = [.opening, .closing, .opening, .closing] := by
    decide +kernel
  have hcheck : checkParens "() ()" = .ok () := by
    rw [checkParens_eq_ok_iff, htokens]
    decide
  have hparse : parse 1 "() ()" = .error (.trailing "( )") := by
    simp only [parse, htokens]
    rfl
  refine ⟨?_, hcheck, hparse, ?_⟩
  · rw [htokens]
    exact nestsWithin_of_inits (by decide)
  · simp [hcheck, hparse]

end SmallLisp
