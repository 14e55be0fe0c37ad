import SmallLisp.Proofs.Confinement
import SmallLisp.Proofs.Store.History

/-!
# The names of special forms

The names `if`, `defun` and `format` stand for special forms wherever they head a list, whatever is
bound to them. So if a program has them in no other place, its evaluation never looks up what is
bound to them. Two stores that differ in such bindings only then give the same outcome, and differ
in such bindings only afterwards.

One of the stores may have made more functions than the other, so that they number the functions
that are made from now on differently. Such a function is bound in a scope that was made for its
definition alone, and nothing looks there any more, so the numbers never come together.

## Main definitions

* `Value.specialsLead`: the names of special forms stand only in front of other items
* `Scope.SameOrdinary`, `Store.SameOrdinary`: the same bindings but for the names of special forms
* `FreshTwin`: equal values, or functions that were made at the same time on both sides
* `Twinned`: stores in which evaluations see the same but for the names of special forms
* `Oblivious`: a computation that such stores cannot be told apart by

## Main results

* `nestedWithin_oblivious`: evaluation does not tell such stores apart
* `special_names_not_shadowed`: bindings of the names of special forms make no difference
-/

namespace SmallLisp

open StoreM

/-! ## Programs in which special names only lead -/

/-- Whether a symbol is the name of a special form. -/
def Symbol.isSpecial (x : Symbol) : Bool :=
  (SpecialForm.ofSymbol? x).isSome

namespace Value

mutual

/-- Whether the names of special forms stand only in front of the items of lists and tuples. -/
def specialsLead : Value → Bool
  | .sym x => !x.isSpecial
  | .list vs => specialsLeadItems vs
  | .tuple vs => specialsLeadItems vs
  | _ => true

/-- The same for the items of a list or a tuple, of which the first may be any symbol. -/
def specialsLeadItems : List Value → Bool
  | [] => true
  | .sym _ :: vs => specialsLeadAll vs
  | v :: vs => specialsLead v && specialsLeadAll vs

/-- The same for several values. -/
def specialsLeadAll : List Value → Bool
  | [] => true
  | v :: vs => specialsLead v && specialsLeadAll vs

end

theorem specialsLeadAll_eq_true_iff {vs : List Value} :
    specialsLeadAll vs = true ↔ ∀ v ∈ vs, v.specialsLead = true := by
  induction vs with
  | nil => simp [specialsLeadAll]
  | cons v vs ih => simp [specialsLeadAll, ih]

/-- All items after the first are free of special names outside of lists, and so is the first if it
is not such a name itself. -/
theorem specialsLead_of_items {head : Value} {tail : List Value}
    (h : specialsLeadItems (head :: tail) = true) :
    (∀ v ∈ tail, v.specialsLead = true) ∧
      ((∀ x, head = .sym x → SpecialForm.ofSymbol? x = none) → head.specialsLead = true) := by
  cases head with
  | sym x =>
    refine ⟨specialsLeadAll_eq_true_iff.mp h, fun hordinary => ?_⟩
    simp [specialsLead, Symbol.isSpecial, hordinary x rfl]
  | _ =>
    rw [specialsLeadItems, Bool.and_eq_true] at h
    · exact ⟨specialsLeadAll_eq_true_iff.mp h.2, fun _ => h.1⟩
    · rintro _ ⟨⟩

end Value

/-! ## Bindings of other names -/

namespace Scope

/-- The bindings of a scope but for the names of special forms. -/
def ordinary (sc : Scope) : List (Symbol × Value) :=
  sc.bindings.filter fun b => !b.1.isSpecial

/-- The scopes lie within the same scope. Apart from the names of special forms they bind the same
symbols in the same order, to values in the relation `R`. -/
structure SameOrdinary (R : Value → Value → Prop) (sc sc' : Scope) : Prop where
  outer_eq : sc.outer = sc'.outer
  bindings : List.Forall₂ (fun b c => b.1 = c.1 ∧ R b.2 c.2) sc.ordinary sc'.ordinary

/-- A binding for a special name is not among the ordinary bindings. -/
theorem ordinary_put (sc : Scope) (x : Symbol) (v : Value) :
    (sc.put x v).ordinary = if x.isSpecial then sc.ordinary else putBinding x v sc.ordinary := by
  obtain ⟨bs, o⟩ := sc
  simp only [ordinary, put]
  induction bs with
  | nil => cases hx : x.isSpecial <;> simp [putBinding, hx]
  | cons b bs ih =>
    by_cases hb : b.1 = x
    · subst hb
      cases hx : b.1.isSpecial <;> simp [putBinding, hx]
    · cases hx : x.isSpecial <;> cases hspecial : b.1.isSpecial <;> simp_all [putBinding]

/-- Ordinary names are found among the ordinary bindings. -/
theorem get?_eq_ordinary (sc : Scope) {x : Symbol} (hx : x.isSpecial = false) :
    sc.get? x = getBinding? x sc.ordinary := by
  obtain ⟨bs, o⟩ := sc
  simp only [get?, ordinary]
  induction bs with
  | nil => rfl
  | cons b bs ih =>
    by_cases hb : b.1 = x
    · subst hb
      simp [getBinding?, hx]
    · cases hspecial : b.1.isSpecial <;> simp [getBinding?, hb, hspecial, ih]

theorem forall₂_putBinding {R : Value → Value → Prop} (x : Symbol) {v w : Value} (hvw : R v w)
    {bs cs : List (Symbol × Value)}
    (h : List.Forall₂ (fun b c => b.1 = c.1 ∧ R b.2 c.2) bs cs) :
    List.Forall₂ (fun b c => b.1 = c.1 ∧ R b.2 c.2) (putBinding x v bs) (putBinding x w cs) := by
  induction h with
  | nil => exact .cons ⟨rfl, hvw⟩ .nil
  | @cons b c bs cs hbc hrest ih =>
    rw [putBinding, putBinding, ← hbc.1]
    split
    · exact .cons ⟨rfl, hvw⟩ hrest
    · exact .cons hbc ih

namespace SameOrdinary

variable {R : Value → Value → Prop} {sc sc' : Scope}

theorem refl (hR : ∀ v, R v v) (sc : Scope) : SameOrdinary R sc sc where
  outer_eq := rfl
  bindings := List.forall₂_same.mpr fun b _ => ⟨rfl, hR b.2⟩

theorem mono {R' : Value → Value → Prop} (h : SameOrdinary R sc sc')
    (hR : ∀ v w, R v w → R' v w) : SameOrdinary R' sc sc' where
  outer_eq := h.outer_eq
  bindings := h.bindings.imp fun _ _ hbc => ⟨hbc.1, hR _ _ hbc.2⟩

theorem put (h : SameOrdinary R sc sc') (x : Symbol) {v w : Value} (hvw : R v w) :
    SameOrdinary R (sc.put x v) (sc'.put x w) where
  outer_eq := h.outer_eq
  bindings := by
    rw [ordinary_put, ordinary_put]
    split
    · exact h.bindings
    · exact forall₂_putBinding x hvw h.bindings

theorem putAll (hR : ∀ v, R v v) (h : SameOrdinary R sc sc') (xs : List Symbol)
    (vs : List Value) : SameOrdinary R (sc.putAll xs vs) (sc'.putAll xs vs) := by
  unfold Scope.putAll
  induction xs.zip vs generalizing sc sc' with
  | nil => exact h
  | cons b bs ih => exact ih (h.put b.1 (hR b.2))

/-- Scopes that are the same up to equal values have equal ordinary bindings. -/
theorem ordinary_eq (h : SameOrdinary Eq sc sc') : sc.ordinary = sc'.ordinary := by
  have heq : List.Forall₂ Eq sc.ordinary sc'.ordinary :=
    h.bindings.imp fun b c hbc => Prod.ext hbc.1 hbc.2
  rwa [List.forall₂_eq_eq_eq] at heq

end SameOrdinary

end Scope

namespace Store

/-- The stores have as many scopes, and the same ones but for the names of special forms and up to
the relation `R`. -/
structure SameOrdinary (R : Value → Value → Prop) (s t : Store) : Prop where
  size_eq : s.scopes.size = t.scopes.size
  scope : ∀ (i : ScopeId) (sc sc' : Scope), s.scopes[i]? = some sc → t.scopes[i]? = some sc' →
    sc.SameOrdinary R sc'

namespace SameOrdinary

variable {R : Value → Value → Prop} {s t : Store}

theorem mono {R' : Value → Value → Prop} (h : s.SameOrdinary R t)
    (hR : ∀ v w, R v w → R' v w) : s.SameOrdinary R' t where
  size_eq := h.size_eq
  scope i sc sc' hsc hsc' := (h.scope i sc sc' hsc hsc').mono hR

theorem push (h : s.SameOrdinary R t) {sc sc' : Scope} (hsc : sc.SameOrdinary R sc') :
    (s.push sc).SameOrdinary R (t.push sc') where
  size_eq := by rw [size_push, size_push, h.size_eq]
  scope := by
    intro i new new' hnew hnew'
    simp only [Store.push, Array.getElem?_push, ← h.size_eq] at hnew hnew'
    by_cases hi : i = s.scopes.size
    · rw [if_pos hi] at hnew hnew'
      cases hnew
      cases hnew'
      exact hsc
    · rw [if_neg hi] at hnew hnew'
      exact h.scope i new new' hnew hnew'

theorem modify (h : s.SameOrdinary R t) (i : ScopeId) {f g : Scope → Scope}
    (hfg : ∀ sc sc', s.scopes[i]? = some sc → t.scopes[i]? = some sc' →
      (f sc).SameOrdinary R (g sc')) : (s.modify i f).SameOrdinary R (t.modify i g) where
  size_eq := by rw [size_modify, size_modify, h.size_eq]
  scope := by
    intro j new new' hnew hnew'
    by_cases hji : j = i
    · subst hji
      simp only [Store.modify, Array.getElem?_modify, if_true, Option.map_eq_some_iff] at hnew hnew'
      obtain ⟨sc, hsc, rfl⟩ := hnew
      obtain ⟨sc', hsc', rfl⟩ := hnew'
      exact hfg sc sc' hsc hsc'
    · rw [scopes_modify_of_ne _ hji] at hnew hnew'
      exact h.scope j new new' hnew hnew'

end SameOrdinary

end Store

/-! ## Stores that are twinned -/

/-- Equal values, or functions that differ in their numbers only, where `m` and `n` are the first
numbers that the two sides give to new functions. -/
inductive FreshTwin (m n : Nat) : Value → Value → Prop
  | same (v : Value) : FreshTwin m n v v
  | fresh (k : Nat) (name : Symbol) (params : List Symbol) (body : Value)
      (scope : Option ScopeId) :
      FreshTwin m n (.function (m + k) name params body scope)
        (.function (n + k) name params body scope)

/-- Sides that give the same numbers make the same functions. -/
theorem freshTwin_self_iff {m : Nat} {v w : Value} : FreshTwin m m v w ↔ v = w := by
  constructor
  · intro h
    cases h <;> rfl
  · rintro rfl
    exact .same v

/-- The stores are the same but for the names of special forms and for new functions. The scopes in
`L` bind no new functions, the scopes around them are in `L` too, all functions that they bind to
other names have the property `p`, and such functions capture only scopes in `L`. -/
structure Twinned (p : FunctionData → Prop) (m n : Nat) (L : Set ScopeId) (s t : Store) : Prop where
  nextId : ∃ k, s.nextId = m + k ∧ t.nextId = n + k
  same : s.SameOrdinary (FreshTwin m n) t
  scope : ∀ i ∈ L, ∃ sc sc', s.scopes[i]? = some sc ∧ t.scopes[i]? = some sc' ∧
    sc.SameOrdinary Eq sc' ∧ (∀ o, sc.outer = some o → o ∈ L) ∧ ∀ b ∈ sc.ordinary, b.2.Holds p
  captured : ∀ f d, p f → f.scope = some d → d ∈ L

namespace Twinned

variable {p : FunctionData → Prop} {m n : Nat} {L : Set ScopeId} {s s' t t' : Store} {i : ScopeId}

/-- Stores that only get more scopes of the same kind stay twinned. -/
theorem of_extends (h : Twinned p m n L s t) (hs : s.Extends s') (ht : t.Extends t')
    (hid : ∃ k, s'.nextId = m + k ∧ t'.nextId = n + k)
    (hsame : s'.SameOrdinary (FreshTwin m n) t') : Twinned p m n L s' t' where
  nextId := hid
  same := hsame
  scope i hi := by
    obtain ⟨sc, sc', hsc, hsc', hrest⟩ := h.scope i hi
    exact ⟨sc, sc', hs i sc hsc, ht i sc' hsc', hrest⟩
  captured := h.captured

/-- A new scope on both sides, which is looked into from now on. -/
theorem push (h : Twinned p m n L s t) {sc : Scope} (ho : ∀ o, sc.outer = some o → o ∈ L)
    (hp : ∀ b ∈ sc.ordinary, b.2.Holds p) :
    Twinned p m n (insert s.scopes.size L) (s.push sc) (t.push sc) where
  nextId := h.nextId
  same := h.same.push (.refl .same sc)
  scope := by
    rintro i (rfl | hi)
    · refine ⟨sc, sc, s.scopes_push_size sc, ?_, .refl (fun _ => rfl) sc,
        fun o h => .inr (ho o h), hp⟩
      rw [h.same.size_eq]
      exact t.scopes_push_size sc
    · obtain ⟨old, old', hs, ht, heq, ho', hp'⟩ := h.scope i hi
      exact ⟨old, old', Store.scopes_push_of_some sc hs, Store.scopes_push_of_some sc ht, heq,
        fun o h => .inr (ho' o h), hp'⟩
  captured f d hf hd := .inr (h.captured f d hf hd)

theorem holds_putAll {sc : Scope} (hsc : ∀ b ∈ sc.ordinary, b.2.Holds p) (xs : List Symbol)
    {vs : List Value} (hvs : ∀ v ∈ vs, v.Holds p) :
    ∀ b ∈ (sc.putAll xs vs).ordinary, b.2.Holds p := by
  refine Scope.putAll_induction (P := fun sc => ∀ b ∈ sc.ordinary, b.2.Holds p) hsc xs ?_
  intro sc x v hv hsc b hb
  rw [Scope.ordinary_put] at hb
  split at hb
  · exact hsc b hb
  · rcases Scope.mem_putBinding hb with rfl | hb
    · exact hvs v hv
    · exact hsc b hb

/-- The same symbols bound on both sides in a scope that is looked into. -/
theorem modify (h : Twinned p m n L s t) (hi : i ∈ L) (xs : List Symbol) {vs : List Value}
    (hvs : ∀ v ∈ vs, v.Holds p) :
    Twinned p m n L (s.modify i (·.putAll xs vs)) (t.modify i (·.putAll xs vs)) where
  nextId := h.nextId
  same := by
    refine h.same.modify i fun sc sc' hsc hsc' => ?_
    exact (h.same.scope i sc sc' hsc hsc').putAll .same xs vs
  scope j hj := by
    obtain ⟨sc, sc', hs, ht, heq, ho, hp⟩ := h.scope j hj
    by_cases hji : j = i
    · subst hji
      refine ⟨sc.putAll xs vs, sc'.putAll xs vs, Store.scopes_modify_self _ hs,
        Store.scopes_modify_self _ ht, heq.putAll (fun _ => rfl) xs vs, ?_,
        holds_putAll hp xs hvs⟩
      rw [Scope.outer_putAll]
      exact ho
    · exact ⟨sc, sc', (Store.scopes_modify_of_ne _ hji).trans hs,
        (Store.scopes_modify_of_ne _ hji).trans ht, heq, ho, hp⟩
  captured := h.captured

/-- Ordinary names are found alike in twinned stores. -/
theorem findFrom_eq (h : Twinned p m n L s t) (hi : i ∈ L) {x : Symbol}
    (hx : x.isSpecial = false) (fuel : Nat) :
    s.findFrom x fuel i = t.findFrom x fuel i ∧
      ∀ v, s.findFrom x fuel i = some v → v.Holds p := by
  induction fuel generalizing i with
  | zero =>
    refine ⟨rfl, ?_⟩
    rintro _ ⟨⟩
  | succ fuel ih =>
    obtain ⟨sc, sc', hs, ht, heq, ho, hp⟩ := h.scope i hi
    have hget : sc.get? x = sc'.get? x := by
      rw [sc.get?_eq_ordinary hx, sc'.get?_eq_ordinary hx, heq.ordinary_eq]
    simp only [Store.findFrom, hs, ht, ← hget, ← heq.outer_eq]
    cases hv : sc.get? x with
    | some w =>
      refine ⟨rfl, ?_⟩
      rintro v ⟨⟩
      rw [sc.get?_eq_ordinary hx] at hv
      exact hp _ (Store.mem_of_getBinding? hv)
    | none =>
      cases houter : sc.outer with
      | none =>
        refine ⟨rfl, ?_⟩
        rintro _ ⟨⟩
      | some o => exact ih (ho o houter)

/-- Both stores show the same from a scope in `L` for any other name, and only functions with the
property `p`. -/
theorem find?_eq (h : Twinned p m n L s t) (hi : i ∈ L) {x : Symbol}
    (hx : x.isSpecial = false) :
    s.find? i x = t.find? i x ∧ ∀ v, s.find? i x = some v → v.Holds p := by
  rw [Store.find?, Store.find?, ← h.same.size_eq]
  exact h.findFrom_eq hi hx s.scopes.size

end Twinned

/-! ## Computations that do not tell twinned stores apart -/

/-- From both stores the computation fails with the same error or gives the same value, which is in
`Q`, and the stores that it leaves are the same but for the names of special forms and for new
functions. -/
structure Oblivious {α : Type} (m n : Nat) (Q : α → Prop) (c : StoreM α) (s t : Store) : Prop where
  outcome_eq : outcome c s = outcome c t
  result : ∀ a, outcome c s = .ok a → Q a
  nextId : ∃ k, (after c s).nextId = m + k ∧ (after c t).nextId = n + k
  same : (after c s).SameOrdinary (FreshTwin m n) (after c t)

namespace Oblivious

variable {α β : Type} {Q : α → Prop} {Q' : β → Prop} {p : FunctionData → Prop} {m n : Nat}
  {L : Set ScopeId} {s t : Store} {i : ScopeId}

theorem ofResult (h : Twinned p m n L s t) {r : Except Error α} (hr : ∀ a, r = .ok a → Q a) :
    Oblivious m n Q (StoreM.ofResult r) s t where
  outcome_eq := by rw [outcome_ofResult, outcome_ofResult]
  result := by rwa [outcome_ofResult]
  nextId := by
    rw [after_ofResult, after_ofResult]
    exact h.nextId
  same := by
    rw [after_ofResult, after_ofResult]
    exact h.same

theorem pure (h : Twinned p m n L s t) {a : α} (ha : Q a) :
    Oblivious m n Q (Pure.pure a) s t := by
  refine ofResult (r := .ok a) h ?_
  rintro _ ⟨⟩
  exact ha

theorem throw (h : Twinned p m n L s t) (e : Error) :
    Oblivious m n Q (MonadExcept.throw e) s t := by
  refine ofResult (r := .error e) h ?_
  rintro _ ⟨⟩

theorem findSymbol (h : Twinned p m n L s t) (hi : i ∈ L) {x : Symbol}
    (hx : x.isSpecial = false) : Oblivious m n (Value.Holds p) (StoreM.findSymbol i x) s t := by
  obtain ⟨heq, hp⟩ := h.find?_eq hi hx
  cases hv : s.find? i x with
  | none =>
    have hv' := heq.symm.trans hv
    refine ⟨?_, ?_, ?_, ?_⟩ <;> simp only [outcome, after, StoreM.findSymbol, hv, hv']
    · rintro _ ⟨⟩
    · exact h.nextId
    · exact h.same
  | some v =>
    have hv' := heq.symm.trans hv
    refine ⟨?_, ?_, ?_, ?_⟩ <;> simp only [outcome, after, StoreM.findSymbol, hv, hv']
    · rintro _ ⟨⟩
      exact hp v hv
    · exact h.nextId
    · exact h.same

theorem bindSymbols (h : Twinned p m n L s t) (hi : i ∈ L) (xs : List Symbol) {vs : List Value}
    (hvs : ∀ v ∈ vs, v.Holds p) :
    Oblivious m n (fun _ => True) (StoreM.bindSymbols i xs vs) s t where
  outcome_eq := rfl
  result _ _ := trivial
  nextId := h.nextId
  same := (h.modify hi xs hvs).same

/-- Computations one after another do not tell stores apart if the first does not, and the other
does not tell the stores apart that the first leaves. -/
theorem bind {c : StoreM α} {f : α → StoreM β} (h : Oblivious m n Q c s t)
    (hf : ∀ a, Q a → Oblivious m n Q' (f a) (after c s) (after c t)) :
    Oblivious m n Q' (c >>= f) s t := by
  cases hc : outcome c s with
  | error e =>
    have hc' := h.outcome_eq.symm.trans hc
    refine ⟨?_, ?_, ?_, ?_⟩
    · rw [outcome_bind, outcome_bind, hc, hc']
      rfl
    · rw [outcome_bind, hc]
      rintro _ ⟨⟩
    · rw [after_bind_error hc, after_bind_error hc']
      exact h.nextId
    · rw [after_bind_error hc, after_bind_error hc']
      exact h.same
  | ok a =>
    have hc' := h.outcome_eq.symm.trans hc
    obtain ⟨hout, hres, hid, hsame⟩ := hf a (h.result a hc)
    refine ⟨?_, ?_, ?_, ?_⟩
    · rw [outcome_bind, outcome_bind, hc, hc']
      exact hout
    · rw [outcome_bind, hc]
      exact hres
    · rw [after_bind_ok hc, after_bind_ok hc']
      exact hid
    · rw [after_bind_ok hc, after_bind_ok hc']
      exact hsame

/-- Twinned stores stay so if the computation only adds scopes. -/
theorem twinned {c : StoreM α} (h : Oblivious m n Q c s t) (hl : Twinned p m n L s t)
    (hc : Grows c) : Twinned p m n L (after c s) (after c t) :=
  hl.of_extends (hc s) (hc t) h.nextId h.same

end Oblivious

/-! ## Evaluators that do not tell twinned stores apart -/

/-- The evaluator does not tell twinned stores apart by values in which special names only lead,
and gives only functions with the property `p`. -/
def Evaluator.Oblivious (p : FunctionData → Prop) (m n : Nat) (ev : Evaluator) : Prop :=
  ∀ (expr : Value) (L : Set ScopeId) (s t : Store) (i : ScopeId), expr.specialsLead = true →
    Twinned p m n L s t → i ∈ L → SmallLisp.Oblivious m n (Value.Holds p) (ev expr i) s t

section Steps

variable {p : FunctionData → Prop} {m n : Nat} {L : Set ScopeId} {s t : Store} {i : ScopeId}

/-- Evaluations in a new scope. It has the same place on both sides. -/
theorem Evaluator.Oblivious.inNewScope {ev : Evaluator} (h : ev.Oblivious p m n)
    (hl : Twinned p m n L s t) {sc : Scope} (ho : ∀ o, sc.outer = some o → o ∈ L)
    (hp : ∀ b ∈ sc.ordinary, b.2.Holds p) {expr : Value} (hexpr : expr.specialsLead = true) :
    SmallLisp.Oblivious m n (Value.Holds p) (pushScope sc >>= ev expr) s t := by
  have hnew := h expr _ _ _ _ hexpr (hl.push ho hp) (Set.mem_insert _ _)
  have ht : (pushScope sc >>= ev expr) t = ev expr s.scopes.size (t.push sc) := by
    rw [hl.same.size_eq]
    rfl
  have hout : outcome (pushScope sc >>= ev expr) t =
      outcome (ev expr s.scopes.size) (t.push sc) := by
    rw [outcome, outcome, ht]
  have hafter : after (pushScope sc >>= ev expr) t = after (ev expr s.scopes.size) (t.push sc) := by
    rw [after, after, ht]
  exact ⟨hnew.outcome_eq.trans hout.symm, hnew.result, hafter ▸ hnew.nextId, hafter ▸ hnew.same⟩

theorem Evaluator.Oblivious.evalInChild {ev : Evaluator} (h : ev.Oblivious p m n)
    (hl : Twinned p m n L s t) (hi : i ∈ L) {expr : Value} (hexpr : expr.specialsLead = true) :
    SmallLisp.Oblivious m n (Value.Holds p) (evalInChild ev expr i) s t := by
  refine h.inNewScope hl ?_ (List.forall_mem_nil _) hexpr
  rintro o ⟨⟩
  exact hi

theorem Evaluator.Oblivious.evalEach {ev : Evaluator} (h : ev.Oblivious p m n)
    (hlocal : ev.IsLocal) (hl : Twinned p m n L s t) (hi : i ∈ L) {exprs : List Value}
    (hexprs : ∀ expr ∈ exprs, expr.specialsLead = true) :
    SmallLisp.Oblivious m n (fun vs => ∀ v ∈ vs, v.Holds p) (evalEach ev i exprs) s t := by
  induction exprs generalizing s t with
  | nil => exact .pure hl (List.forall_mem_nil _)
  | cons expr exprs ih =>
    rw [List.forall_mem_cons] at hexprs
    have hfirst := h.evalInChild hl hi hexprs.1
    have hl₁ := hfirst.twinned hl (hlocal.evalInChild expr i)
    refine hfirst.bind fun v hv => ?_
    have hrest := ih hl₁ hexprs.2
    have hl₂ := hrest.twinned hl₁ (hlocal.evalEach i exprs)
    exact hrest.bind fun vs hvs => .pure hl₂ (List.forall_mem_cons.mpr ⟨hv, hvs⟩)

variable {ev : Nested} (hev : ∀ taken, (ev taken).Oblivious p m n)
  (hlocal : ∀ taken, (ev taken).IsLocal) (hl : Twinned p m n L s t) (hi : i ∈ L)

include hev hlocal hl hi

theorem oblivious_evalIf {tail : List Value} (htail : ∀ v ∈ tail, v.specialsLead = true) :
    Oblivious m n (Value.Holds p) (evalIf ev tail i) s t := by
  match tail with
  | [condition, thenPart, elsePart] =>
    have hcond := (hev partPlaces).evalInChild hl hi (htail condition (by simp))
    have hl₁ := hcond.twinned hl ((hlocal _).evalInChild condition i)
    refine hcond.bind fun c _ => ?_
    split
    · exact (hev _).evalInChild hl₁ hi (htail elsePart (by simp))
    · exact (hev _).evalInChild hl₁ hi (htail thenPart (by simp))
  | [] => exact .throw hl _
  | [_] => exact .throw hl _
  | [_, _] => exact .throw hl _
  | _ :: _ :: _ :: _ :: _ => exact .throw hl _

theorem oblivious_evalFormat (room : Nat) {tail : List Value}
    (htail : ∀ v ∈ tail, v.specialsLead = true) :
    Oblivious m n (Value.Holds p) (evalFormat room ev tail i) s t := by
  cases tail with
  | nil => exact .throw hl _
  | cons destination parts =>
    simp only [evalFormat]
    cases templateText room (splitFill parts).1 with
    | error fault => exact .throw hl _
    | ok template =>
      cases hfill : (splitFill parts).2 with
      | none => exact .pure hl (Value.forall_functions_of_isAtom rfl)
      | some expr =>
        have hexpr := htail expr (.tail _ (mem_of_splitFill hfill))
        have hvalue := (hev partPlaces).evalInChild hl hi hexpr
        have hl₁ := hvalue.twinned hl ((hlocal _).evalInChild expr i)
        exact hvalue.bind fun v _ => .ofResult hl₁ fun w hw => functions_filled hw

omit hev hlocal hi in
/-- A definition makes the next function of each side. -/
theorem oblivious_evalDefun (mode : Scoping) (room : Nat) (tail : List Value) :
    Oblivious m n (Value.Holds p) (evalDefun mode room tail i) s t := by
  simp only [evalDefun]
  cases Definition.ofParts room tail with
  | error e => exact .throw hl e
  | ok d =>
    obtain ⟨k, hs, ht⟩ := hl.nextId
    refine ⟨rfl, ?_, ⟨k + 1, congrArg (· + 1) hs, congrArg (· + 1) ht⟩, ?_⟩
    · rintro _ ⟨⟩
      exact Value.forall_functions_of_isAtom rfl
    · have hbumped : Store.SameOrdinary (FreshTwin m n) { s with nextId := s.nextId + 1 }
          { t with nextId := t.nextId + 1 } := ⟨hl.same.size_eq, hl.same.scope⟩
      refine hbumped.modify i fun sc sc' hsc hsc' => ?_
      refine (hl.same.scope i sc sc' hsc hsc').put d.name ?_
      rw [hs, ht]
      exact .fresh k d.name d.params d.body (mode.captured i)

/-! ### Calls -/

omit hlocal in
/-- Calls of functions do not tell twinned stores apart. -/
theorem oblivious_applyFunction {f : FunctionData} (hf : p f) (hbody : f.body.specialsLead = true)
    {args : List Value} (hargs : ∀ v ∈ args, v.Holds p) :
    Oblivious m n (Value.Holds p) (applyFunction ev f.name f.params f.body f.scope args i) s t := by
  cases hscope : f.scope with
  | none =>
    simp only [applyFunction]
    split
    · exact .throw hl _
    · refine (Oblivious.bindSymbols hl hi f.params hargs).bind fun _ _ => ?_
      exact (hev bodyPlaces).evalInChild (hl.modify hi f.params hargs) hi hbody
  | some d =>
    simp only [applyFunction]
    split
    · exact .throw hl _
    · refine (hev bodyPlaces).inNewScope hl ?_ ?_ hbody
      · rw [Scope.outer_putAll]
        rintro o ⟨⟩
        exact hl.captured f d hf hscope
      · exact Twinned.holds_putAll (List.forall_mem_nil _) f.params hargs

omit hlocal in
/-- Applications do not tell twinned stores apart, whatever is applied. -/
theorem oblivious_apply (hp : ∀ f, p f → f.body.specialsLead = true) (room : Nat) {head : Value}
    (hhead : head.Holds p) {args : List Value} (hargs : ∀ v ∈ args, v.Holds p) :
    Oblivious m n (Value.Holds p) (apply room ev head args i) s t := by
  cases head with
  | function id name params body closure =>
    have hf : p ⟨id, name, params, body, closure⟩ := hhead _ (.head _)
    exact oblivious_applyFunction hev hl hi hf (hp _ hf) hargs
  | builtin b => exact .ofResult hl fun w hw => b.functions_call hargs hw
  | int k => exact .pure hl (Value.forall_functions_of_isAtom rfl)
  | float x => exact .pure hl (Value.forall_functions_of_isAtom rfl)
  | bool b => exact .pure hl (Value.forall_functions_of_isAtom rfl)
  | str text => exact .pure hl (Value.forall_functions_of_isAtom rfl)
  | nothing => exact .throw hl _
  | sym x => exact .throw hl _
  | list vs => exact .throw hl _
  | tuple vs => exact .throw hl _

theorem oblivious_evalApplication (hp : ∀ f, p f → f.body.specialsLead = true) (room : Nat)
    {head : Value} (hhead : head.specialsLead = true) {tail : List Value}
    (htail : ∀ v ∈ tail, v.specialsLead = true) :
    Oblivious m n (Value.Holds p) (evalApplication room ev head tail i) s t := by
  have hf := (hev headPlaces).evalInChild hl hi hhead
  have hl₁ := hf.twinned hl ((hlocal _).evalInChild head i)
  refine hf.bind fun f hf => ?_
  have hargs := (hev argumentPlaces).evalEach (hlocal _) hl₁ hi htail
  have hl₂ := hargs.twinned hl₁ ((hlocal _).evalEach i tail)
  exact hargs.bind fun args hargs => oblivious_apply hev hl₂ hi hp _ hf hargs

/-- The name of a special form that heads a list is never looked up. -/
theorem oblivious_evalItems (hp : ∀ f, p f → f.body.specialsLead = true) (mode : Scoping)
    (room : Nat) {items : List Value} (hitems : Value.specialsLeadItems items = true) :
    Oblivious m n (Value.Holds p) (evalItems mode room ev items i) s t := by
  cases items with
  | nil => exact .throw hl _
  | cons head tail =>
    obtain ⟨htail, hhead⟩ := Value.specialsLead_of_items hitems
    rcases ordinary_or_special head with ordinary | ⟨x, special, rfl, hspecial⟩
    · rw [evalItems_of_ordinary _ ordinary]
      exact oblivious_evalApplication hev hlocal hl hi hp room (hhead ordinary) htail
    · simp only [evalItems, hspecial]
      cases special with
      | conditional => exact oblivious_evalIf hev hlocal hl hi htail
      | definition => exact oblivious_evalDefun hl mode _ tail
      | format => exact oblivious_evalFormat hev hlocal hl hi _ htail

end Steps

/-- **A step of evaluation does not tell twinned stores apart.** -/
theorem step_oblivious {p : FunctionData → Prop} {m n : Nat}
    (hp : ∀ f, p f → f.body.specialsLead = true) {ev : Nested}
    (hev : ∀ taken, (ev taken).Oblivious p m n) (hlocal : ∀ taken, (ev taken).IsLocal)
    (mode : Scoping) (room : Nat) : Evaluator.Oblivious p m n (step mode room ev) := by
  intro expr L s t i hexpr hl hi
  cases expr with
  | list items => exact oblivious_evalItems hev hlocal hl hi hp mode room hexpr
  | tuple items => exact oblivious_evalItems hev hlocal hl hi hp mode room hexpr
  | sym x => exact .findSymbol hl hi (by simpa [Value.specialsLead] using hexpr)
  | int k => exact .pure hl (Value.forall_functions_of_isAtom rfl)
  | float x => exact .pure hl (Value.forall_functions_of_isAtom rfl)
  | bool b => exact .pure hl (Value.forall_functions_of_isAtom rfl)
  | nothing => exact .throw hl _
  | str text => exact .throw hl _
  | function id name params body scope => exact .throw hl _
  | builtin b => exact .throw hl _

/-- **Evaluation does not tell twinned stores apart**, under either mode and within any room. -/
theorem nestedWithin_oblivious {p : FunctionData → Prop} (m n : Nat)
    (hp : ∀ f, p f → f.body.specialsLead = true) (mode : Scoping) (room taken : Nat) :
    Evaluator.Oblivious p m n (nestedWithin mode room taken) := by
  induction room generalizing taken with
  | zero => exact fun expr L s t i _ hl _ => .throw hl _
  | succ room ih =>
    cases taken with
    | zero => exact step_oblivious hp ih (nestedWithin_isLocal mode room) mode room
    | succ taken => exact ih taken

/-! ## Stores that differ in the names of special forms -/

/-- Evaluations in a well-formed store look only into its scopes, and meet only functions that are
bound there to other names. -/
theorem Store.WellFormed.twinned {s t : Store} (hs : s.WellFormed) (hst : s.SameOrdinary Eq t)
    (hbodies : ∀ sc ∈ s.scopes, ∀ b ∈ sc.ordinary,
      b.2.Holds fun f => f.body.specialsLead = true) :
    Twinned (fun f => f.body.specialsLead = true ∧ f.Anchored s.scopes.size) s.nextId t.nextId
      {j | j < s.scopes.size} s t where
  nextId := ⟨0, rfl, rfl⟩
  same := by
    refine hst.mono ?_
    rintro v _ rfl
    exact .same v
  scope j hj := by
    have hj' : j < t.scopes.size := by rwa [← hst.size_eq]
    have hsc := Array.getElem?_eq_getElem hj
    have hsc' := Array.getElem?_eq_getElem hj'
    refine ⟨_, _, hsc, hsc', hst.scope j _ _ hsc hsc',
      fun o ho => Nat.lt_trans (hs.outer_lt j o _ hsc ho) hj, ?_⟩
    intro b hb f hf
    refine ⟨hbodies _ (Array.getElem_mem hj) b hb f hf, hs.captured_lt f ?_⟩
    exact mem_functions_iff.mpr
      ⟨j, _, hsc, List.mem_flatMap.mpr ⟨b, List.mem_of_mem_filter hb, hf⟩⟩
  captured f d hf hd := hf.2 d hd

/-- **Special forms cannot be shadowed.** Two stores are the same but for what the names `if`,
`defun` and `format` are bound to, in any scopes. The scopes that they refer to are there, each
within older ones. A value has these names only in front of lists, and so have the bodies of all
functions within values bound to other names. Its evaluation in any scope then gives the same value
or the same error in both, under either mode and within any room, and leaves stores that are again
the same but for these names. Functions made on the way are the same but for their numbers, which go
on from those of each store: if both stores give the same numbers, they are the same. -/
theorem special_names_not_shadowed {s t : Store} (hs : s.WellFormed)
    (hst : s.SameOrdinary Eq t)
    (hbodies : ∀ sc ∈ s.scopes, ∀ b ∈ sc.ordinary,
      b.2.Holds fun f => f.body.specialsLead = true)
    {expr : Value} (hexpr : expr.specialsLead = true) {i : ScopeId} (hi : i < s.scopes.size)
    (mode : Scoping) (room : Nat) :
    outcome (evaluate mode room expr i) s = outcome (evaluate mode room expr i) t ∧
      (after (evaluate mode room expr i) s).SameOrdinary (FreshTwin s.nextId t.nextId)
        (after (evaluate mode room expr i) t) ∧
      (s.nextId = t.nextId →
        (after (evaluate mode room expr i) s).nextId =
          (after (evaluate mode room expr i) t).nextId ∧
        (after (evaluate mode room expr i) s).SameOrdinary Eq
          (after (evaluate mode room expr i) t)) := by
  have htwinned := hs.twinned hst hbodies
  have heval := nestedWithin_oblivious s.nextId t.nextId (fun f hf => hf.1) mode room 0 expr _ s t i
    hexpr htwinned hi
  rw [outcome_evaluate, outcome_evaluate, after_evaluate, after_evaluate]
  refine ⟨congrArg (Except.mapError reportedError) heval.outcome_eq, heval.same, fun hid => ?_⟩
  obtain ⟨k, hs', ht'⟩ := heval.nextId
  refine ⟨?_, heval.same.mono fun v w hvw => ?_⟩
  · rw [evalWithin, hs', ht', hid]
  · rw [hid] at hvw
    exact freshTwin_self_iff.mp hvw

/-- One store binds `if` to a function, the other binds `format` and a `defun` that is a text. A
function makes a definition on the way to its value. -/
theorem special_names_not_shadowed_nested :
    let definition : Value := .list [.sym ⟨"defun"⟩, .sym ⟨"g"⟩, .list [.sym ⟨"if"⟩], .sym ⟨"x"⟩]
    let f : Value := .function 0 ⟨"f"⟩ [⟨"x"⟩]
      (.list [.sym ⟨"if"⟩, definition, .sym ⟨"x"⟩, .sym ⟨"y"⟩]) none
    let shadow : Value := .function 1 ⟨"if"⟩ [] (.sym ⟨"if"⟩) (some 0)
    let s : Store := ⟨#[⟨[(⟨"if"⟩, shadow), (⟨"f"⟩, f)], none⟩], 2⟩
    let t : Store := ⟨#[⟨[(⟨"format"⟩, .int 1), (⟨"f"⟩, f), (⟨"defun"⟩, .str "f")], none⟩], 1⟩
    let call : Value := .list [.sym ⟨"f"⟩, .int 7]
    s.SameOrdinary Eq t ∧ outcome (evaluate .dynamic 9 call 0) s = .ok (.int 7) ∧
      outcome (evaluate .dynamic 9 call 0) t = .ok (.int 7) ∧
      (after (evaluate .dynamic 9 call 0) s).SameOrdinary (FreshTwin 2 1)
        (after (evaluate .dynamic 9 call 0) t) := by
  intro definition f shadow s t call
  have hs : s.WellFormed := by
    constructor
    · rintro i o sc hsc ho
      obtain ⟨hi, rfl⟩ := Array.getElem?_eq_some_iff.mp hsc
      obtain rfl : i = 0 := Nat.lt_one_iff.mp hi
      cases ho
    · have hfunctions : s.functions =
        [⟨1, ⟨"if"⟩, [], .sym ⟨"if"⟩, some 0⟩,
          ⟨0, ⟨"f"⟩, [⟨"x"⟩], .list [.sym ⟨"if"⟩, definition, .sym ⟨"x"⟩, .sym ⟨"y"⟩], none⟩] := rfl
      rw [hfunctions]
      simp [s]
  have hst : s.SameOrdinary Eq t := by
    refine ⟨rfl, fun i sc sc' hsc hsc' => ?_⟩
    obtain ⟨hi, rfl⟩ := Array.getElem?_eq_some_iff.mp hsc
    obtain ⟨-, rfl⟩ := Array.getElem?_eq_some_iff.mp hsc'
    obtain rfl : i = 0 := Nat.lt_one_iff.mp hi
    exact ⟨rfl, .cons ⟨rfl, rfl⟩ .nil⟩
  have hbodies : ∀ sc ∈ s.scopes, ∀ b ∈ sc.ordinary,
      b.2.Holds fun f => f.body.specialsLead = true := by
    intro sc hsc b hb
    obtain rfl : sc = _ := by simpa [s] using hsc
    obtain rfl : b = (⟨"f"⟩, f) := by
      simpa [Scope.ordinary, Symbol.isSpecial, SpecialForm.ofSymbol?] using hb
    intro g hg
    obtain rfl : g = _ := List.mem_singleton.mp hg
    rfl
  have hcall : call.specialsLead = true := rfl
  obtain ⟨heq, hsame, -⟩ := special_names_not_shadowed hs hst hbodies hcall
    (Nat.zero_lt_one : 0 < s.scopes.size) .dynamic 9
  have hvalue : outcome (evaluate .dynamic 9 call 0) s = .ok (.int 7) := rfl
  exact ⟨hst, hvalue, heq ▸ hvalue, hsame⟩

end SmallLisp
