import SmallLisp.Reader
import Mathlib.Data.List.Infix

/-!
# Token trees

A token tree is a word or a sequence of trees between parentheses. Written out, a sequence of trees
is a sequence of tokens in which every parenthesis has its partner. A sequence of tokens comes from
at most one sequence of trees, and reading finds it: the tokens are those of a sequence of trees,
up to a closing parenthesis without a partner, or up to opening ones that are left without one.

## Main definitions

* `TokenTree`: a word, or trees between parentheses
* `TokenTree.tokensAll`: the tokens of a sequence of trees
* `TokenTree.valueAll`: the values a sequence of trees is read as
* `NestsWithin`: at most so many lists are open at a time, up to the first stray parenthesis
* `Unclosed`: tokens that begin with an opening parenthesis which has no partner

## Main results

* `exists_tokensAll_append`: all tokens but a stray or an unclosed rest are those of trees
* `TokenTree.tokensAll_injective`: the trees are determined by their tokens
* `results_readForms_tokensAll`: reading the tokens of trees gives their values
* `parseAll_iff_depth`: the depths of the prefixes of a text decide how its reading ends
-/

namespace SmallLisp

/-- A word, or trees between parentheses. -/
inductive TokenTree where
  | leaf (word : String)
  | node (items : List TokenTree)

namespace TokenTree

mutual

/-- The tokens of a tree. -/
def tokens : TokenTree → List Token
  | .leaf w => [.word w]
  | .node items => .opening :: (tokensAll items ++ [.closing])

/-- The tokens of trees, one after another. -/
def tokensAll : List TokenTree → List Token
  | [] => []
  | t :: ts => tokens t ++ tokensAll ts

end

mutual

/-- The value a tree is read as. -/
def value : TokenTree → Value
  | .leaf w => atom w
  | .node items => .list (valueAll items)

/-- The values trees are read as. -/
def valueAll : List TokenTree → List Value
  | [] => []
  | t :: ts => value t :: valueAll ts

end

@[simp] theorem tokensAll_nil : tokensAll [] = [] := by
  rw [tokensAll]

@[simp] theorem tokensAll_leaf (w : String) (f : List TokenTree) :
    tokensAll (.leaf w :: f) = .word w :: tokensAll f := by
  rw [tokensAll, tokens, List.singleton_append]

@[simp] theorem tokensAll_node (items f : List TokenTree) :
    tokensAll (.node items :: f) = .opening :: (tokensAll items ++ .closing :: tokensAll f) := by
  rw [tokensAll, tokens, List.cons_append, List.append_assoc, List.singleton_append]

theorem tokensAll_append (f g : List TokenTree) :
    tokensAll (f ++ g) = tokensAll f ++ tokensAll g := by
  induction f with
  | nil => simp
  | cons t f ih => rw [List.cons_append, tokensAll, ih, tokensAll, List.append_assoc]

theorem valueAll_append (f g : List TokenTree) :
    valueAll (f ++ g) = valueAll f ++ valueAll g := by
  induction f with
  | nil => rw [valueAll, List.nil_append, List.nil_append]
  | cons t f ih => rw [List.cons_append, valueAll, ih, valueAll, List.cons_append]

/-- What holds of no trees, and of trees after a word or after trees between parentheses, holds of
all sequences of trees. -/
theorem induction_forest {motive : List TokenTree → Prop} (nil : motive [])
    (leaf : ∀ w f, motive f → motive (.leaf w :: f))
    (node : ∀ items f, motive items → motive f → motive (.node items :: f)) :
    ∀ f, motive f
  | [] => nil
  | .leaf w :: f => leaf w f (induction_forest nil leaf node f)
  | .node items :: f =>
    node items f (induction_forest nil leaf node items) (induction_forest nil leaf node f)

end TokenTree

open TokenTree

/-! ## Depths of prefixes -/

theorem forall_prefix_cons {α : Type} {P : List α → Prop} {a : α} {l : List α} :
    (∀ p, p <+: a :: l → P p) ↔ P [] ∧ ∀ p, p <+: l → P (a :: p) := by
  constructor
  · intro h
    exact ⟨h [] List.nil_prefix, fun p hp => h (a :: p) ((List.prefix_cons_inj a).mpr hp)⟩
  · rintro ⟨hnil, hcons⟩ p hp
    rcases List.prefix_cons_iff.mp hp with rfl | ⟨q, rfl, hq⟩
    · exact hnil
    · exact hcons q hq

/-- A prefix of two parts is one of the first, or goes on into the second. -/
theorem forall_prefix_append {α : Type} {P : List α → Prop} {l l' : List α} :
    (∀ p, p <+: l ++ l' → P p) ↔ (∀ p, p <+: l → P p) ∧ ∀ p, p <+: l' → P (l ++ p) := by
  induction l generalizing P with
  | nil =>
    simp only [List.nil_append, List.prefix_nil, forall_eq]
    exact ⟨fun h => ⟨h [] List.nil_prefix, h⟩, fun h => h.2⟩
  | cons a l ih =>
    rw [List.cons_append, forall_prefix_cons, forall_prefix_cons, ih, and_assoc]
    rfl

/-- With `k` lists open before the tokens, the number of open lists always satisfies `P`. -/
def DepthsIn (P : Int → Prop) (k : Int) (ts : List Token) : Prop :=
  ∀ p, p <+: ts → P (k + depth p)

section Depths

variable {P : Int → Prop} {k : Int} {ts us : List Token}

/-- The empty prefix counts. -/
theorem DepthsIn.start (h : DepthsIn P k ts) : P k := by
  simpa using h [] List.nil_prefix

@[simp] theorem depthsIn_nil : DepthsIn P k [] ↔ P k := by
  simp only [DepthsIn, List.prefix_nil, forall_eq, depth_nil, Int.add_zero]

@[simp] theorem depthsIn_cons {t : Token} :
    DepthsIn P k (t :: ts) ↔ P k ∧ DepthsIn P (k + t.weight) ts := by
  unfold DepthsIn
  rw [forall_prefix_cons]
  simp only [depth_nil, depth_cons, Int.add_zero, Int.add_assoc]

/-- The depths in two parts are those in the first, and those in the second from there on. -/
@[simp] theorem depthsIn_append :
    DepthsIn P k (ts ++ us) ↔ DepthsIn P k ts ∧ DepthsIn P (k + depth ts) us := by
  unfold DepthsIn
  rw [forall_prefix_append]
  simp only [depth_append, Int.add_assoc]

end Depths

/-- Trees close what they open. -/
@[simp] theorem depth_tokensAll (f : List TokenTree) : depth (tokensAll f) = 0 := by
  induction f using induction_forest with
  | nil => simp
  | leaf w f ih => simp [Token.weight, ih]
  | node items f ihItems ih => simp [Token.weight, ihItems, ih]

/-- Trees close only lists that they open. -/
theorem depthsIn_tokensAll {k : Int} (hk : 0 ≤ k) (f : List TokenTree) :
    DepthsIn (0 ≤ ·) k (tokensAll f) := by
  induction f using induction_forest generalizing k with
  | nil => simpa using hk
  | leaf w f ih => simpa [Token.weight, hk] using ih hk
  | node items f ihItems ih =>
    have hopen : 0 ≤ k + 1 := Int.add_nonneg hk (by decide)
    have hclose : k + 1 + -1 = k := Int.add_neg_cancel_right k 1
    simp [Token.weight, hk, hopen, ihItems hopen, hclose, ih hk]

/-! ## Reading the tokens of trees -/

/-- Trees in a list that is open are read as its next items. -/
theorem readFrom_tokensAll {limit : Nat} (f : List TokenTree) (items : List Value)
    (rest : List (List Value)) (ts : List Token)
    (hf : DepthsIn (· ≤ (limit : Int)) (rest.length + 1) (tokensAll f)) :
    readFrom limit (items :: rest) (tokensAll f ++ ts) =
      readFrom limit (((valueAll f).reverse ++ items) :: rest) ts := by
  -- by the trees; a node opens a list, so the lists around it are arbitrary
  induction f using induction_forest generalizing items rest ts with
  | nil => simp [valueAll]
  | leaf w f ih =>
    simp only [tokensAll_leaf, depthsIn_cons, Token.weight, Int.add_zero] at hf
    rw [tokensAll_leaf, List.cons_append, readFrom, ih _ _ _ hf.2]
    simp [valueAll, value]
  | node inner f ihInner ih =>
    simp only [tokensAll_node, depthsIn_cons, depthsIn_append, depth_tokensAll, Token.weight] at hf
    obtain ⟨-, hinner, -, hf⟩ := hf
    have hlt : (items :: rest).length < limit := by
      have hopen := hinner.start
      simp only [List.length_cons]
      omega
    rw [tokensAll_node, List.cons_append, List.append_assoc, List.cons_append, readFrom,
      if_pos hlt, ihInner [] (items :: rest) _ (by simpa using hinner), readFrom,
      ih _ _ _ (by simpa [Int.add_assoc] using hf)]
    simp [valueAll, value]

/-- A list is read up to its closing parenthesis, whatever follows. -/
theorem readForm_node {limit : Nat} {items : List TokenTree} (ts : List Token)
    (h : DepthsIn (· ≤ (limit : Int)) 1 (tokensAll items)) :
    readForm limit (.opening :: (tokensAll items ++ .closing :: ts)) =
      ⟨.ok (.list (valueAll items)), ts⟩ := by
  have hlt : ([] : List (List Value)).length < limit := by
    have hopen := h.start
    simp only [List.length_nil]
    omega
  rw [readForm, readFrom, if_pos hlt, readFrom_tokensAll items [] [] _ (by simpa using h), readFrom]
  simp

/-- Trees outside of any list are read as forms, one after another. -/
theorem results_readForms_tokensAll {limit : Nat} (f : List TokenTree) (ts : List Token)
    (hf : DepthsIn (· ≤ (limit : Int)) 0 (tokensAll f)) :
    (readForms limit (tokensAll f ++ ts)).results =
      (readForms limit ts).results.map (valueAll f ++ ·) := by
  induction f using induction_forest with
  | nil =>
    simp only [tokensAll_nil, List.nil_append, valueAll]
    cases (readForms limit ts).results <;> rfl
  | leaf w f ih =>
    simp only [tokensAll_leaf, depthsIn_cons, Token.weight, Int.add_zero] at hf
    rw [tokensAll_leaf, List.cons_append, readForms]
    simp only [readForm, readFrom, ih hf.2, valueAll, value]
    cases (readForms limit ts).results <;> rfl
  | node items f _ ih =>
    simp only [tokensAll_node, depthsIn_cons, depthsIn_append, depth_tokensAll, Token.weight] at hf
    obtain ⟨-, hitems, -, hf⟩ := hf
    rw [tokensAll_node, List.cons_append, List.append_assoc, List.cons_append, readForms]
    simp only [readForm_node _ hitems, ih hf, valueAll, value]
    cases (readForms limit ts).results <;> rfl

/-- A text with the tokens of trees is read as their values. -/
theorem parseAll_of_tokensAll {limit : Nat} {source : String} {f : List TokenTree}
    (h : tokenize source = tokensAll f) (hf : DepthsIn (· ≤ (limit : Int)) 0 (tokensAll f)) :
    parseAll limit source = .ok (valueAll f) := by
  rw [parseAll, h, ← List.append_nil (tokensAll f), results_readForms_tokensAll f [] hf, readForms,
    Except.map, List.append_nil]

/-! ## What is left beside trees -/

/-- The tokens begin with an opening parenthesis that has no partner, and none of them closes a
list that is not open. -/
inductive Unclosed : List Token → Prop
  | last (f : List TokenTree) : Unclosed (.opening :: tokensAll f)
  | nested (f : List TokenTree) {ts : List Token} (inner : Unclosed ts) :
      Unclosed (.opening :: (tokensAll f ++ ts))

/-- What can follow the tokens of trees if no tree follows. -/
inductive Remainder : List Token → Prop
  | none : Remainder []
  | stray (ts : List Token) : Remainder (.closing :: ts)
  | unclosed {ts : List Token} (h : Unclosed ts) : Remainder ts

/-- Tokens that end inside a list have opened more than they have closed. -/
theorem Unclosed.depth_pos {ts : List Token} (h : Unclosed ts) : 0 < depth ts := by
  induction h with
  | last f => simp [Token.weight]
  | nested f _ ih =>
    simp only [depth_cons, depth_append, depth_tokensAll, Token.weight]
    omega

/-- On the way they do not close more than was opened. -/
theorem Unclosed.depthsIn {ts : List Token} {k : Int} (h : Unclosed ts) (hk : 0 ≤ k) :
    DepthsIn (0 ≤ ·) k ts := by
  induction h generalizing k with
  | last f =>
    simp only [depthsIn_cons, Token.weight]
    exact ⟨hk, depthsIn_tokensAll (by omega) f⟩
  | nested f _ ih =>
    simp only [depthsIn_cons, depthsIn_append, depth_tokensAll, Token.weight]
    exact ⟨hk, depthsIn_tokensAll (by omega) f, ih (by omega)⟩

/-- Reading ends within the innermost list that is not closed. -/
theorem Unclosed.readFrom_eq {limit : Nat} {ts : List Token} (h : Unclosed ts)
    (lists : List (List Value)) (hts : DepthsIn (· ≤ (limit : Int)) lists.length ts) :
    readFrom limit lists ts = ⟨.error .unclosed, []⟩ := by
  induction h generalizing lists with
  | last f =>
    simp only [depthsIn_cons, Token.weight] at hts
    have hlt : lists.length < limit := by
      have hopen := hts.2.start
      omega
    rw [readFrom, if_pos hlt, ← List.append_nil (tokensAll f), readFrom_tokensAll f _ _ _ hts.2,
      readFrom]
    simp
  | nested f _ ih =>
    simp only [depthsIn_cons, depthsIn_append, depth_tokensAll, Token.weight] at hts
    obtain ⟨-, hf, hts⟩ := hts
    have hlt : lists.length < limit := by
      have hopen := hf.start
      omega
    rw [readFrom, if_pos hlt, readFrom_tokensAll f _ _ _ hf, ih _ (by simpa using hts)]

theorem results_readForms_stray (limit : Nat) (ts : List Token) :
    (readForms limit (.closing :: ts)).results = .error .strayClosing := by
  rw [readForms]
  simp only [readForm, readFrom]

/-- Tokens that end inside a list are refused as not closed. -/
theorem Unclosed.results_readForms {limit : Nat} {ts : List Token} (h : Unclosed ts)
    (hts : DepthsIn (· ≤ (limit : Int)) 0 ts) :
    (readForms limit ts).results = .error .unclosed := by
  have hread := h.readFrom_eq [] hts
  cases ts with
  | nil => cases h
  | cons t ts =>
    rw [readForms]
    simp only [readForm, hread]

/-- All tokens are those of trees, up to a stray parenthesis or to one that is not closed. -/
theorem exists_tokensAll_append (ts : List Token) :
    ∃ f us, ts = tokensAll f ++ us ∧ Remainder us := by
  match ts with
  | [] => exact ⟨[], [], rfl, .none⟩
  | .closing :: ts => exact ⟨[], .closing :: ts, rfl, .stray ts⟩
  | .word w :: ts =>
    obtain ⟨f, us, rfl, hus⟩ := exists_tokensAll_append ts
    exact ⟨.leaf w :: f, us, by simp, hus⟩
  | .opening :: ts =>
    obtain ⟨f, us, hts, hus⟩ := exists_tokensAll_append ts
    cases hus with
    | none =>
      rw [List.append_nil] at hts
      exact ⟨[], .opening :: ts, rfl, .unclosed (hts ▸ .last f)⟩
    | unclosed h => exact ⟨[], .opening :: ts, rfl, .unclosed (hts ▸ .nested f h)⟩
    | stray us =>
      have hlt : us.length < ts.length + 1 := by
        simp only [hts, List.length_append, List.length_cons]
        omega
      obtain ⟨g, vs, rfl, hvs⟩ := exists_tokensAll_append us
      exact ⟨.node f :: g, vs, by simp [hts], hvs⟩
termination_by ts.length

/-- Tokens that close what they open, and nothing else, are those of trees. -/
theorem exists_tokensAll_of_depth {ts : List Token} (h : DepthsIn (0 ≤ ·) 0 ts)
    (hdepth : depth ts = 0) : ∃ f, ts = tokensAll f := by
  obtain ⟨f, us, rfl, hus⟩ := exists_tokensAll_append ts
  cases hus with
  | none => exact ⟨f, List.append_nil _⟩
  | stray us =>
    simp only [depthsIn_append, depthsIn_cons, depth_tokensAll, Token.weight] at h
    exact absurd h.2.2.start (by decide)
  | unclosed hus =>
    have hpos := hus.depth_pos
    rw [depth_append, depth_tokensAll] at hdepth
    omega

/-! ## The trees of a sequence of tokens -/

/-- The trees before the end of the tokens, or before a stray parenthesis, are determined by the
tokens. -/
theorem TokenTree.tokensAll_append_injective {f g : List TokenTree} {us vs : List Token}
    (hus : ∀ t ∈ us.head?, t = .closing) (hvs : ∀ t ∈ vs.head?, t = .closing)
    (h : tokensAll f ++ us = tokensAll g ++ vs) : f = g ∧ us = vs := by
  induction f using induction_forest generalizing g us vs with
  | nil =>
    rw [tokensAll_nil, List.nil_append] at h
    subst h
    match g with
    | [] => exact ⟨rfl, rfl⟩
    | .leaf w :: g => simp at hus
    | .node items :: g => simp at hus
  | leaf w f ih =>
    match g with
    | [] =>
      rw [tokensAll_nil, List.nil_append] at h
      subst h
      simp at hvs
    | .leaf w' :: g =>
      simp only [tokensAll_leaf, List.cons_append, List.cons.injEq, Token.word.injEq] at h
      obtain ⟨rfl, h⟩ := h
      obtain ⟨rfl, rfl⟩ := ih hus hvs h
      exact ⟨rfl, rfl⟩
    | .node items :: g => simp at h
  | node items f ihItems ih =>
    -- both sides open a list; its trees end at the same closing parenthesis (induction)
    match g with
    | [] =>
      rw [tokensAll_nil, List.nil_append] at h
      subst h
      simp at hvs
    | .leaf w :: g => simp at h
    | .node items' :: g =>
      simp only [tokensAll_node, List.cons_append, List.append_assoc, List.cons.injEq,
        true_and] at h
      obtain ⟨rfl, hrest⟩ := ihItems (by simp) (by simp) h
      obtain ⟨rfl, rfl⟩ := ih hus hvs (List.tail_eq_of_cons_eq hrest)
      exact ⟨rfl, rfl⟩

/-- **Trees with the same tokens are the same.** -/
theorem TokenTree.tokensAll_injective {f g : List TokenTree} (h : tokensAll f = tokensAll g) :
    f = g := by
  have happend : tokensAll f ++ [] = tokensAll g ++ [] := by
    rw [h]
  have hend : ∀ t ∈ ([] : List Token).head?, t = .closing := by
    simp
  exact (tokensAll_append_injective hend hend happend).1

/-! ## Reading a text -/

/-- At most `limit` lists are open at a time, up to the first closing parenthesis without a
partner. -/
def NestsWithin (limit : Nat) (ts : List Token) : Prop :=
  ∀ p, p <+: ts → (∀ q, q <+: p → 0 ≤ depth q) → depth p ≤ limit

/-- The outcome is an error of the given kind. -/
def Fails {α : Type} (r : Except ReadError α) (kind : ErrorKind) : Prop :=
  ∃ e, r = .error e ∧ e.kind = kind

@[simp] theorem fails_error {α : Type} {e : ReadError} {kind : ErrorKind} :
    Fails (.error e : Except ReadError α) kind ↔ e.kind = kind := by
  simp [Fails]

@[simp] theorem not_fails_ok {α : Type} {a : α} {kind : ErrorKind} :
    ¬ Fails (.ok a : Except ReadError α) kind := by
  simp [Fails]

/-- Tokens at the front that do not close too much are not nested too deeply either. -/
theorem NestsWithin.depthsIn {limit : Nat} {ts us : List Token} (h : NestsWithin limit (ts ++ us))
    (hts : DepthsIn (0 ≤ ·) 0 ts) : DepthsIn (· ≤ (limit : Int)) 0 ts := by
  intro p hp
  rw [Int.zero_add]
  refine h p (hp.trans (List.prefix_append ts us)) fun q hq => ?_
  simpa using hts q (hq.trans hp)

/-- No prefix closes more than it opens. -/
theorem depthsIn_zero_iff {ts : List Token} :
    DepthsIn (0 ≤ ·) 0 ts ↔ ∀ p, p <+: ts → 0 ≤ depth p := by
  simp only [DepthsIn, Int.zero_add]

/-- A text is read as the values of the trees it begins with, and then as what is left. -/
theorem parseAll_of_tokens {limit : Nat} {source : String} {f : List TokenTree} {us : List Token}
    (hnest : NestsWithin limit (tokenize source)) (hts : tokenize source = tokensAll f ++ us) :
    parseAll limit source = (readForms limit us).results.map (valueAll f ++ ·) := by
  rw [hts] at hnest
  rw [parseAll, hts]
  exact results_readForms_tokensAll f us (hnest.depthsIn (depthsIn_tokensAll (Int.le_refl 0) f))

/-- **Reading by depths**: a text fails on a stray parenthesis if some prefix of its tokens closes
more than it opens, it ends too early if no prefix does and something is left open, and otherwise
its forms are the values of the only trees that have its tokens. -/
theorem parseAll_iff_depth {limit : Nat} {source : String}
    (hnest : NestsWithin limit (tokenize source)) :
    (Fails (parseAll limit source) .mismatchedParens ↔
        ∃ p, p <+: tokenize source ∧ depth p < 0) ∧
      (Fails (parseAll limit source) .unexpectedEnd ↔
        (∀ p, p <+: tokenize source → 0 ≤ depth p) ∧ 0 < depth (tokenize source)) ∧
      ((∀ p, p <+: tokenize source → 0 ≤ depth p) → ¬ 0 < depth (tokenize source) →
        ∃ forest, (∀ other, tokensAll other = tokenize source ↔ other = forest) ∧
          parseAll limit source = .ok (valueAll forest)) := by
  obtain ⟨f, us, hts, hus⟩ := exists_tokensAll_append (tokenize source)
  have hread := parseAll_of_tokens hnest hts
  have hf := depthsIn_tokensAll (Int.le_refl 0) f
  have hnone : (∃ p, p <+: tokenize source ∧ depth p < 0) ↔
      ¬ ∀ p, p <+: tokenize source → 0 ≤ depth p := by
    simp
  rw [hnone, hts, ← depthsIn_zero_iff]
  cases hus with
  | none =>
    rw [List.append_nil]
    rw [readForms, Except.map, List.append_nil] at hread
    simp only [hread, not_fails_ok, hf, depth_tokensAll]
    exact ⟨by simp, by simp, fun _ _ => ⟨f, fun _ => ⟨tokensAll_injective, congrArg _⟩, rfl⟩⟩
  | stray us =>
    have hstray : ¬ DepthsIn (0 ≤ ·) 0 (tokensAll f ++ .closing :: us) := by
      simp only [depthsIn_append, depthsIn_cons, depth_tokensAll, Token.weight]
      intro h
      exact absurd h.2.2.start (by decide)
    rw [results_readForms_stray, Except.map] at hread
    simp only [hread, fails_error, hstray]
    exact ⟨by simp [ReadError.kind], by simp [ReadError.kind], False.elim⟩
  | unclosed h =>
    have hdepths : DepthsIn (0 ≤ ·) 0 (tokensAll f ++ us) := by
      rw [depthsIn_append, depth_tokensAll]
      exact ⟨hf, h.depthsIn (Int.le_refl 0)⟩
    have hpos : 0 < depth (tokensAll f ++ us) := by
      simpa using h.depth_pos
    have hus : DepthsIn (· ≤ (limit : Int)) 0 us := by
      rw [hts, ← List.append_nil (tokensAll f ++ us)] at hnest
      have hall := hnest.depthsIn hdepths
      rw [depthsIn_append, depth_tokensAll] at hall
      exact hall.2
    rw [h.results_readForms hus, Except.map] at hread
    simp only [hread, fails_error, hdepths, hpos]
    exact ⟨by simp [ReadError.kind], by simp [ReadError.kind], fun _ h => absurd trivial h⟩

/-- A text with a list in a list, which is just as deep as the limit allows, has the tokens of one
forest only and is read as its values. -/
theorem parseAll_nested_lists :
    NestsWithin 2 (tokenize "(f (x y)) z") ∧
      ∃ forest, (∀ other, tokensAll other = tokenize "(f (x y)) z" ↔ other = forest) ∧
        parseAll 2 "(f (x y)) z" = .ok (valueAll forest) := by
  have htokens : tokenize "(f (x y)) z" = [.opening, .word "f", .opening, .word "x", .word "y",
      .closing, .closing, .word "z"] := by
    decide +kernel
  have hdepths : ∀ p, p <+: tokenize "(f (x y)) z" → 0 ≤ depth p ∧ depth p ≤ 2 := by
    intro p hp
    rw [htokens, ← List.mem_inits] at hp
    revert p
    decide
  have hnest : NestsWithin 2 (tokenize "(f (x y)) z") := fun p hp _ => (hdepths p hp).2
  exact ⟨hnest, (parseAll_iff_depth hnest).2.2 (fun p hp => (hdepths p hp).1)
    (by rw [htokens]; decide)⟩

end SmallLisp
