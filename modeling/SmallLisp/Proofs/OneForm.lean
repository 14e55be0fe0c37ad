import SmallLisp.Proofs.FirstForm

/-!
# Where the first form ends

The tokens of a form can be told by counting: they are the shortest part at the front that closes
as much as it opens. Reading one form takes just these tokens, whatever comes after them. If there
is no such part, then the first token is a closing parenthesis, which is taken alone, or the first
list stays open up to the last token.

A text is one form just if its forms are that one. A text that is not is refused for how it begins,
or else for the token after its first form, whatever comes after that token.

## Main definitions

* `FormTokens`: something is open before the last token, and nothing after it
* `NeverClosed`: the first token opens a list that is not closed
* `FirstNestsWithin`: at most so many lists are open at a time within the first form
* `RefusedAs`: how a text that is not one form is refused

## Main results

* `FormTokens.exists_tokens`: the tokens of a form are those of a tree
* `unclosed_iff_neverClosed`: a first list that is not closed, by depths
* `not_mismatched_of_open`: no closing parenthesis is stray while a list is open
* `readForm_takes_first_form`: reading one form takes its tokens and no others
* `fails_parse_iff`: how a text that is not one form is refused
* `parse_agrees_with_parseAll`: the only form of a text and all of its forms
-/

namespace SmallLisp

open TokenTree

/-! ## The tokens of a form -/

/-- Something is open after each shorter part of the tokens, and nothing is after all of them. -/
structure FormTokens (ts : List Token) : Prop where
  ne_nil : ts ≠ []
  complete : depth ts = 0
  before : ∀ p, p <+: ts → p ≠ [] → p ≠ ts → 0 < depth p

/-- The first token opens a list, and the tokens after it do not close that list. -/
def NeverClosed (ts : List Token) : Prop :=
  ∃ rest, ts = .opening :: rest ∧ ∀ p, p <+: rest → 0 ≤ depth p

/-- At most `limit` lists are open at a time, up to the end of the first form. -/
def FirstNestsWithin (limit : Nat) (ts : List Token) : Prop :=
  ∀ p, p <+: ts → (∀ q, q <+: p → q ≠ [] → 0 < depth q) → depth p ≤ limit

section Tokens

variable {limit : Nat} {ts us : List Token} {t : TokenTree}

/-- The tokens of a tree are those of one form. -/
theorem formTokens_tokens (t : TokenTree) : FormTokens (tokens t) where
  ne_nil := tokens_ne_nil t
  complete := depth_tokens t
  before _ := depth_pos_of_prefix_tokens

theorem FormTokens.depthsIn (h : FormTokens ts) : DepthsIn (0 ≤ ·) 0 ts := by
  rw [depthsIn_zero_iff]
  intro p hp
  by_cases hnil : p = []
  · exact Int.le_of_eq (hnil ▸ rfl)
  · by_cases hall : p = ts
    · exact Int.le_of_eq (hall ▸ h.complete.symm)
    · exact Int.le_of_lt (h.before p hp hnil hall)

/-- **The tokens of a form are those of a tree.** -/
theorem FormTokens.exists_tokens (h : FormTokens ts) : ∃ t, ts = tokens t := by
  obtain ⟨f, rfl⟩ := exists_tokensAll_of_depth h.depthsIn h.complete
  cases f with
  | nil => exact absurd tokensAll_nil h.ne_nil
  | cons t f =>
    refine ⟨t, ?_⟩
    by_contra hne
    have hprefix : tokens t <+: tokensAll (t :: f) := by
      rw [tokensAll]
      exact List.prefix_append _ _
    have hpos := h.before _ hprefix (tokens_ne_nil t) (Ne.symm hne)
    rw [depth_tokens] at hpos
    exact absurd hpos (Int.lt_irrefl 0)

/-- **A first list that is not closed**, told by depths. -/
theorem unclosed_iff_neverClosed : Unclosed ts ↔ NeverClosed ts := by
  constructor
  · intro h
    cases h with
    | last f => exact ⟨_, rfl, depthsIn_zero_iff.mp (depthsIn_tokensAll (Int.le_refl 0) f)⟩
    | nested f inner =>
      refine ⟨_, rfl, depthsIn_zero_iff.mp ?_⟩
      rw [depthsIn_append, depth_tokensAll]
      exact ⟨depthsIn_tokensAll (Int.le_refl 0) f, inner.depthsIn (Int.le_refl 0)⟩
  · rintro ⟨rest, rfl, hrest⟩
    rcases firstForm_cases (.opening :: rest) with h | ⟨us, h⟩ | h | ⟨t, us, h⟩
    · cases h
    · cases h
    · exact h
    · cases t with
      | leaf w => simp [tokens] at h
      | node items =>
        rw [tokens, List.cons_append, List.cons.injEq] at h
        have hclosed := hrest (tokensAll items ++ [.closing]) ⟨us, h.2.symm⟩
        rw [depth_append, depth_tokensAll] at hclosed
        exact absurd hclosed (by decide)

/-- Something is open after each part of the tokens, if their first list is not closed. -/
theorem NeverClosed.depth_pos (h : NeverClosed ts) {p : List Token} (hp : p <+: ts)
    (hne : p ≠ []) : 0 < depth p := by
  obtain ⟨rest, rfl, hrest⟩ := h
  rcases List.prefix_cons_iff.mp hp with rfl | ⟨q, rfl, hq⟩
  · exact absurd rfl hne
  · have hdepth := hrest q hq
    simp only [depth_cons, Token.weight]
    omega

/-! ### Nesting of the first form -/

theorem FirstNestsWithin.depthsIn_tokens (h : FirstNestsWithin limit (tokens t ++ us)) :
    DepthsIn (· ≤ (limit : Int)) 0 (tokens t) := by
  intro p hp
  rw [Int.zero_add]
  by_cases hall : p = tokens t
  · rw [hall, depth_tokens]
    exact Int.natCast_nonneg limit
  · refine h p (hp.trans (List.prefix_append _ us)) fun q hq hne => ?_
    refine depth_pos_of_prefix_tokens (hq.trans hp) hne fun hq' => hall ?_
    exact hp.eq_of_length_le (hq' ▸ hq.length_le)

theorem FirstNestsWithin.depthsIn_neverClosed (h : FirstNestsWithin limit ts)
    (hopen : NeverClosed ts) : DepthsIn (· ≤ (limit : Int)) 0 ts := by
  intro p hp
  rw [Int.zero_add]
  exact h p hp fun q hq hne => hopen.depth_pos (hq.trans hp) hne

/-- The nesting of the first form is seen on the parts of the tokens. -/
theorem firstNestsWithin_of_inits
    (h : ∀ p ∈ ts.inits, (∀ q ∈ p.inits, q ≠ [] → 0 < depth q) → depth p ≤ (limit : Int)) :
    FirstNestsWithin limit ts := by
  intro p hp hopen
  refine h p ((List.mem_inits p ts).mpr hp) fun q hq hne => ?_
  exact hopen q ((List.mem_inits q p).mp hq) hne

end Tokens

/-! ## Reading one form -/

section Reading

variable {limit : Nat} {ts form rest : List Token}

/-- Whatever comes after a form, it is read alone. -/
theorem FormTokens.exists_readForm (h : FormTokens form)
    (hnest : FirstNestsWithin limit (form ++ rest)) :
    ∃ v, ∀ others, readForm limit (form ++ others) = ⟨.ok v, others⟩ := by
  obtain ⟨t, rfl⟩ := h.exists_tokens
  exact ⟨value t, fun others => readForm_tokens others hnest.depthsIn_tokens⟩

/-- A list that is never closed is read to the end of the tokens, and refused. -/
theorem NeverClosed.readForm_eq (h : NeverClosed ts) (hnest : FirstNestsWithin limit ts) :
    readForm limit ts = ⟨.error .unclosed, []⟩ :=
  (unclosed_iff_neverClosed.mpr h).readFrom_eq [] (hnest.depthsIn_neverClosed h)

theorem readForm_closing (limit : Nat) (rest : List Token) :
    readForm limit (.closing :: rest) = ⟨.error .strayClosing, rest⟩ := rfl

/-- **No closing parenthesis is stray while a list is open.** -/
theorem not_mismatched_of_open (limit : Nat) (lists : List (List Value)) (ts : List Token)
    (h : lists ≠ []) : ¬ Fails (readFrom limit lists ts).result .mismatchedParens := by
  -- by the tokens: as long as reading goes on, some list is open
  induction ts generalizing lists with
  | nil =>
    rw [readFrom, List.isEmpty_eq_false_iff.mpr h]
    simp [ReadError.kind]
  | cons t ts ih =>
    cases t with
    | opening =>
      rw [readFrom]
      split
      · exact ih _ (List.cons_ne_nil _ _)
      · simp [ReadError.kind]
    | closing =>
      rcases lists with _ | ⟨items, _ | ⟨next, rest⟩⟩
      · exact absurd rfl h
      · simp [readFrom]
      · rw [readFrom]
        exact ih _ (List.cons_ne_nil _ _)
    | word w =>
      rcases lists with _ | ⟨items, rest⟩
      · exact absurd rfl h
      · rw [readFrom]
        exact ih _ (List.cons_ne_nil _ _)

/-- Tokens that do not begin with a form, and not with a closing parenthesis, open a list that is
not closed, if there are any. -/
theorem eq_nil_or_neverClosed (hform : ∀ form, FormTokens form → ¬ form <+: ts)
    (hclosing : ∀ rest, ts ≠ .closing :: rest) : ts = [] ∨ NeverClosed ts := by
  rcases firstForm_cases ts with hnil | ⟨rest, hrest⟩ | hopen | ⟨t, rest, rfl⟩
  · exact .inl hnil
  · exact absurd hrest (hclosing rest)
  · exact .inr (unclosed_iff_neverClosed.mp hopen)
  · exact absurd (List.prefix_append _ rest) (hform _ (formTokens_tokens t))

end Reading

/-- **Reading one form takes its tokens and no others.** If the tokens begin with those of a form,
it is read from them alone, and what comes after is left. A closing parenthesis at the front is
taken and refused. In all other cases there are no tokens, or the first list is not closed, and the
tokens are used up. No closing parenthesis is refused while a list is open. -/
theorem readForm_takes_first_form {limit : Nat} {ts : List Token}
    (hnest : FirstNestsWithin limit ts) :
    (∀ form rest, FormTokens form → ts = form ++ rest →
        ∃ v, readForm limit ts = ⟨.ok v, rest⟩ ∧
          ∀ others, readForm limit (form ++ others) = ⟨.ok v, others⟩) ∧
      (∀ rest, ts = .closing :: rest →
        Fails (readForm limit ts).result .mismatchedParens ∧ (readForm limit ts).left = rest) ∧
      ((∀ form, FormTokens form → ¬ form <+: ts) → (∀ rest, ts ≠ .closing :: rest) →
        (ts = [] ∨ NeverClosed ts) ∧
          Fails (readForm limit ts).result .unexpectedEnd ∧ (readForm limit ts).left = []) ∧
      ∀ lists us, lists ≠ [] → ¬ Fails (readFrom limit lists us).result .mismatchedParens := by
  refine ⟨?_, ?_, ?_, not_mismatched_of_open limit⟩
  · rintro form rest hform rfl
    obtain ⟨v, hread⟩ := hform.exists_readForm hnest
    exact ⟨v, hread rest, hread⟩
  · rintro rest rfl
    rw [readForm_closing]
    exact ⟨fails_error.mpr rfl, rfl⟩
  · intro hform hclosing
    have hcases := eq_nil_or_neverClosed hform hclosing
    refine ⟨hcases, ?_⟩
    rcases hcases with rfl | hopen
    · exact ⟨fails_error.mpr rfl, rfl⟩
    · rw [hopen.readForm_eq hnest]
      exact ⟨fails_error.mpr rfl, rfl⟩

/-- A list is read, though what comes after it is nested more deeply and is not closed. -/
theorem readForm_takes_first_form_only :
    let form := [.opening, .word "f", .opening, .closing, .closing]
    let rest := [.opening, .opening, .opening, .word "x"]
    FirstNestsWithin 2 (form ++ rest) ∧ FormTokens form ∧
      ∃ v, readForm 2 (form ++ rest) = ⟨.ok v, rest⟩ ∧
        ∀ others, readForm 2 (form ++ others) = ⟨.ok v, others⟩ := by
  intro form rest
  have hnest : FirstNestsWithin 2 (form ++ rest) :=
    firstNestsWithin_of_inits (by decide)
  have hform : FormTokens form :=
    formTokens_tokens (.node [.leaf "f", .node []])
  exact ⟨hnest, hform, (readForm_takes_first_form hnest).1 form rest hform rfl⟩

/-! ## The only form of a text -/

/-- How tokens that are not those of one form are refused: for how they begin, or for the token
after the first form. -/
def RefusedAs (ts : List Token) : ErrorKind → Prop
  | .unexpectedEnd => ts = [] ∨ NeverClosed ts
  | .mismatchedParens =>
    (∃ rest, ts = .closing :: rest) ∨ ∃ form rest, FormTokens form ∧ ts = form ++ .closing :: rest
  | .malformed => ∃ form t rest, FormTokens form ∧ t ≠ .closing ∧ ts = form ++ t :: rest
  | _ => False

section Text

variable {limit : Nat} {source : String} {v : Value} {kind : ErrorKind}

/-- A result fails with errors of one kind only. -/
theorem Fails.kind_eq {α : Type} {r : Except ReadError α} {kind' : ErrorKind} (h : Fails r kind)
    (h' : Fails r kind') : kind = kind' := by
  obtain ⟨e, rfl, rfl⟩ := h
  exact fails_error.mp h'

theorem results_readForms_of_ok {ts left : List Token}
    (h : readForm limit ts = ⟨.ok v, left⟩) :
    (readForms limit ts).results = (readForms limit left).results.map (v :: ·) := by
  cases ts with
  | nil => cases h
  | cons t ts =>
    rw [readForms]
    simp only [h]

theorem results_readForms_of_error {ts left : List Token} {e : ReadError} (hne : ts ≠ [])
    (h : readForm limit ts = ⟨.error e, left⟩) : (readForms limit ts).results = .error e := by
  cases ts with
  | nil => exact absurd rfl hne
  | cons t ts =>
    rw [readForms]
    simp only [h]

/-- Only no tokens are no forms. -/
theorem results_readForms_eq_nil_iff {ts : List Token} :
    (readForms limit ts).results = .ok [] ↔ ts = [] := by
  by_cases hne : ts = []
  · subst hne
    simp [readForms]
  · simp only [hne, iff_false]
    rcases hread : readForm limit ts with ⟨_ | v, left⟩
    · rw [results_readForms_of_error hne hread]
      simp
    · rw [results_readForms_of_ok hread]
      cases (readForms limit left).results <;> simp [Except.map]

/-- The forms of a text are one form just if nothing is left after it. -/
theorem parseAll_eq_singleton_iff :
    parseAll limit source = .ok [v] ↔ readForm limit (tokenize source) = ⟨.ok v, []⟩ := by
  rw [parseAll]
  generalize tokenize source = ts
  by_cases hne : ts = []
  · subst hne
    simp [readForms, readForm, readFrom]
  · rcases hread : readForm limit ts with ⟨_ | w, left⟩
    · rw [results_readForms_of_error hne hread]
      simp
    · have hleft : (readForms limit left).results = .ok [] ↔ left = [] :=
        results_readForms_eq_nil_iff
      rw [results_readForms_of_ok hread]
      cases hothers : (readForms limit left).results <;> simp [Except.map, ← hleft, hothers]

/-- A text whose first form cannot be read is refused for that. -/
theorem parse_of_error {e : ReadError} {left : List Token} (hne : tokenize source ≠ [])
    (h : readForm limit (tokenize source) = ⟨.error e, left⟩) : parse limit source = .error e := by
  simp [parse, h, hne]

theorem tokenize_ne_nil_of_readForm {left : List Token}
    (h : readForm limit (tokenize source) = ⟨.ok v, left⟩) : tokenize source ≠ [] := by
  intro hnil
  rw [hnil] at h
  cases h

/-- A closing parenthesis after the form is refused as such. -/
theorem parse_of_closing {rest : List Token}
    (h : readForm limit (tokenize source) = ⟨.ok v, .closing :: rest⟩) :
    parse limit source = .error .closingAfter := by
  simp [parse, h, tokenize_ne_nil_of_readForm h]

/-- Any other token after the form is refused as more input. -/
theorem parse_of_trailing {t : Token} {rest : List Token} (ht : t ≠ .closing)
    (h : readForm limit (tokenize source) = ⟨.ok v, t :: rest⟩) :
    parse limit source = .error (.trailing (Text.joinWith " " ((t :: rest).map Token.text))) := by
  cases t with
  | closing => exact absurd rfl ht
  | opening => simp [parse, h, tokenize_ne_nil_of_readForm h]
  | word w => simp [parse, h, tokenize_ne_nil_of_readForm h]

variable (hnest : FirstNestsWithin limit (tokenize source))

include hnest

theorem FormTokens.exists_readForm_of_tokenize {form rest : List Token} (hform : FormTokens form)
    (hts : tokenize source = form ++ rest) :
    ∃ v, readForm limit (tokenize source) = ⟨.ok v, rest⟩ := by
  rw [hts] at hnest ⊢
  obtain ⟨v, hread⟩ := hform.exists_readForm hnest
  exact ⟨v, hread rest⟩

/-- **A text is refused as its tokens say.** -/
theorem RefusedAs.fails_parse (h : RefusedAs (tokenize source) kind) :
    Fails (parse limit source) kind := by
  unfold RefusedAs at h
  split at h
  · rcases h with hnil | hopen
    · simp [parse, hnil, ReadError.kind]
    · have hne : tokenize source ≠ [] := by
        obtain ⟨rest, hrest, -⟩ := hopen
        simp [hrest]
      rw [parse_of_error hne (hopen.readForm_eq hnest), fails_error]
      rfl
  · rcases h with ⟨rest, hrest⟩ | ⟨form, rest, hform, hts⟩
    · have hread : readForm limit (tokenize source) = ⟨.error .strayClosing, rest⟩ := by
        rw [hrest, readForm_closing]
      rw [parse_of_error (by simp [hrest]) hread, fails_error]
      rfl
    · obtain ⟨v, hread⟩ := hform.exists_readForm_of_tokenize hnest hts
      rw [parse_of_closing hread, fails_error]
      rfl
  · obtain ⟨form, t, rest, hform, ht, hts⟩ := h
    obtain ⟨v, hread⟩ := hform.exists_readForm_of_tokenize hnest hts
    rw [parse_of_trailing ht hread, fails_error]
    rfl
  · exact h.elim

/-- Every text is one form or is refused. -/
theorem parse_ok_or_refusedAs :
    (∃ v, parse limit source = .ok v) ∨ ∃ kind, RefusedAs (tokenize source) kind := by
  rcases firstForm_cases (tokenize source) with hnil | ⟨rest, hrest⟩ | hopen | ⟨t, left, hts⟩
  · exact .inr ⟨.unexpectedEnd, .inl hnil⟩
  · exact .inr ⟨.mismatchedParens, .inl ⟨rest, hrest⟩⟩
  · exact .inr ⟨.unexpectedEnd, .inr (unclosed_iff_neverClosed.mp hopen)⟩
  · have hform := formTokens_tokens t
    rcases left with _ | ⟨u, rest⟩
    · obtain ⟨v, hread⟩ := hform.exists_readForm_of_tokenize hnest hts
      exact .inl ⟨v, parse_eq_ok_iff.mpr hread⟩
    · by_cases hu : u = .closing
      · subst hu
        exact .inr ⟨.mismatchedParens, .inr ⟨_, rest, hform, hts⟩⟩
      · exact .inr ⟨.malformed, _, u, rest, hform, hu, hts⟩

/-- **How a text that is not one form is refused.** -/
theorem fails_parse_iff :
    Fails (parse limit source) kind ↔ RefusedAs (tokenize source) kind := by
  refine ⟨fun hfails => ?_, RefusedAs.fails_parse hnest⟩
  -- an error has one kind, so it is the kind that the tokens account for
  rcases parse_ok_or_refusedAs hnest with ⟨v, hok⟩ | ⟨kind', h⟩
  · rw [hok] at hfails
    exact absurd hfails not_fails_ok
  · rwa [hfails.kind_eq (h.fails_parse hnest)]

end Text

/-- **The only form of a text and all of its forms.** A text is one form just if its forms are that
one. It ends too early if it is empty or its first list is not closed. It has mismatched
parentheses if it begins with a closing one, or one directly follows its first form. If any other
token follows the first form, it is malformed, whatever comes after. -/
theorem parse_agrees_with_parseAll {limit : Nat} {source : String}
    (hnest : FirstNestsWithin limit (tokenize source)) :
    (∀ v, parse limit source = .ok v ↔ parseAll limit source = .ok [v]) ∧
      (Fails (parse limit source) .unexpectedEnd ↔
        tokenize source = [] ∨ NeverClosed (tokenize source)) ∧
      (Fails (parse limit source) .mismatchedParens ↔
        (∃ rest, tokenize source = .closing :: rest) ∨
          ∃ form rest, FormTokens form ∧ tokenize source = form ++ .closing :: rest) ∧
      (Fails (parse limit source) .malformed ↔
        ∃ form t rest, FormTokens form ∧ t ≠ .closing ∧ tokenize source = form ++ t :: rest) := by
  refine ⟨fun v => ?_, fails_parse_iff hnest, fails_parse_iff hnest, fails_parse_iff hnest⟩
  rw [parse_eq_ok_iff, parseAll_eq_singleton_iff]

/-- A word follows the first list, and a parenthesis without a partner follows the word. -/
theorem parse_agrees_with_parseAll_trailing :
    FirstNestsWithin 1 (tokenize "(f) x )") ∧ Fails (parse 1 "(f) x )") .malformed := by
  have htokens : tokenize "(f) x )" = [.opening, .word "f", .closing, .word "x", .closing] := by
    decide +kernel
  have hnest : FirstNestsWithin 1 (tokenize "(f) x )") := by
    rw [htokens]
    exact firstNestsWithin_of_inits (by decide)
  have hform : FormTokens [.opening, .word "f", .closing] := formTokens_tokens (.node [.leaf "f"])
  refine ⟨hnest, (parse_agrees_with_parseAll hnest).2.2.2.mpr ?_⟩
  exact ⟨_, .word "x", [.closing], hform, by decide, htokens⟩

end SmallLisp
