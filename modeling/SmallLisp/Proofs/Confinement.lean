import Mathlib.Data.Set.Insert
import SmallLisp.Proofs.Refinement
import SmallLisp.Proofs.ScopingModes
import SmallLisp.Proofs.Store.Functions

/-!
# Two evaluations of the same value

The same value is evaluated in two stores, under scoping modes that may differ. The stores have the
same scopes wherever the evaluations can look: in a set of scopes that contains the scopes around
its members, and the scopes that the functions bound in its members capture. Then the evaluations
cannot be told apart. A definition on the way makes a function that depends on the mode, but it is
bound in a scope that was made for the definition alone, and nothing looks there any more.

## Main definitions

* `Alike`: stores with the same scopes in a set that evaluations do not leave
* `InTandem`: computations with the same outcome that make as many scopes and functions
* `Evaluator.Confined`: evaluators that stay in tandem in stores that are alike

## Main results

* `nestedWithin_confined`: evaluations under any two modes stay in tandem
* `Alike.evalWithin_plain`: a value that is no definition leaves stores alike
* `evalWithin_dynamic_eq_lexical`: the mode of an evaluation matters for definitions only
-/

namespace SmallLisp

open StoreM

/-! ## Stores that are alike -/

/-- The scopes in `L` are in both stores, and the same there. The scopes around them are in `L`
too, all functions that they bind have the property `p`, and such functions capture only scopes in
`L`. -/
structure Alike (p : FunctionData → Prop) (L : Set ScopeId) (s t : Store) : Prop where
  size_eq : s.scopes.size = t.scopes.size
  nextId_eq : s.nextId = t.nextId
  scope : ∀ i ∈ L, ∃ sc, s.scopes[i]? = some sc ∧ t.scopes[i]? = some sc ∧
    (∀ o, sc.outer = some o → o ∈ L) ∧ ∀ f ∈ sc.functions, p f
  captured : ∀ f d, p f → f.scope = some d → d ∈ L

namespace Alike

variable {p : FunctionData → Prop} {L : Set ScopeId} {s s' t t' : Store} {i : ScopeId}

/-- Stores that look alike go on to do so when the same scopes are added to both. -/
theorem of_extends (h : Alike p L s t) (hs : s.Extends s') (ht : t.Extends t')
    (hsize : s'.scopes.size = t'.scopes.size) (hid : s'.nextId = t'.nextId) : Alike p L s' t' where
  size_eq := hsize
  nextId_eq := hid
  scope i hi := by
    obtain ⟨sc, hsc, hsc', hrest⟩ := h.scope i hi
    exact ⟨sc, hs i sc hsc, ht i sc hsc', hrest⟩
  captured := h.captured

/-- A new scope on both sides, which is looked into from now on. -/
theorem push (h : Alike p L s t) {sc : Scope} (ho : ∀ o, sc.outer = some o → o ∈ L)
    (hf : ∀ f ∈ sc.functions, p f) :
    Alike p (insert s.scopes.size L) (s.push sc) (t.push sc) where
  size_eq := by rw [Store.size_push, Store.size_push, h.size_eq]
  nextId_eq := h.nextId_eq
  scope := by
    rintro i (rfl | hi)
    · refine ⟨sc, s.scopes_push_size sc, ?_, fun o h => .inr (ho o h), hf⟩
      rw [h.size_eq]
      exact t.scopes_push_size sc
    · obtain ⟨sc', hs, ht, ho', hf'⟩ := h.scope i hi
      exact ⟨sc', Store.scopes_push_of_some sc hs, Store.scopes_push_of_some sc ht,
        fun o h => .inr (ho' o h), hf'⟩
  captured f d hf hd := .inr (h.captured f d hf hd)

/-- The same symbols bound in a scope on both sides. -/
theorem modify (h : Alike p L s t) (i : ScopeId) (xs : List Symbol) {vs : List Value}
    (hvs : ∀ v ∈ vs, v.Holds p) :
    Alike p L (s.modify i (·.putAll xs vs)) (t.modify i (·.putAll xs vs)) where
  size_eq := by rw [Store.size_modify, Store.size_modify, h.size_eq]
  nextId_eq := h.nextId_eq
  scope j hj := by
    obtain ⟨sc, hs, ht, ho, hf⟩ := h.scope j hj
    by_cases hji : j = i
    · subst hji
      refine ⟨sc.putAll xs vs, Store.scopes_modify_self _ hs, Store.scopes_modify_self _ ht, ?_,
        fun f hmem => ?_⟩
      · rw [Scope.outer_putAll]
        exact ho
      · rcases Scope.functions_putAll hmem with ⟨v, hv, hfv⟩ | hsc
        · exact hvs v hv f hfv
        · exact hf f hsc
    · exact ⟨sc, (Store.scopes_modify_of_ne _ hji).trans hs,
        (Store.scopes_modify_of_ne _ hji).trans ht, ho, hf⟩
  captured := h.captured

/-- Look-ups agree in stores that look alike. -/
theorem findFrom_eq (h : Alike p L s t) (hi : i ∈ L) (x : Symbol) (fuel : Nat) :
    s.findFrom x fuel i = t.findFrom x fuel i ∧
      ∀ v, s.findFrom x fuel i = some v → v.Holds p := by
  -- a look-up goes outward, and the scopes around those in `L` are in `L`
  induction fuel generalizing i with
  | zero => exact ⟨rfl, fun v h => by cases h⟩
  | succ fuel ih =>
    obtain ⟨sc, hs, ht, ho, hf⟩ := h.scope i hi
    simp only [Store.findFrom, hs, ht]
    cases hx : sc.get? x with
    | some w =>
      refine ⟨rfl, ?_⟩
      rintro v ⟨⟩ f hfv
      exact hf f (Scope.functions_of_get? hx hfv)
    | none =>
      cases houter : sc.outer with
      | none => exact ⟨rfl, fun v h => by cases h⟩
      | some o => exact ih (ho o houter)

/-- Both stores show the same from a scope in `L`, and functions with the property `p` only. -/
theorem find?_eq (h : Alike p L s t) (hi : i ∈ L) (x : Symbol) :
    s.find? i x = t.find? i x ∧ ∀ v, s.find? i x = some v → v.Holds p := by
  rw [Store.find?, Store.find?, ← h.size_eq]
  exact h.findFrom_eq hi x s.scopes.size

end Alike

/-! ## Computations in tandem -/

/-- Both computations fail with the same error or give the same value, which is in `Q`, and they
make as many scopes and functions. -/
structure InTandem {α : Type} (Q : α → Prop) (m : StoreM α) (s : Store) (m' : StoreM α)
    (t : Store) : Prop where
  outcome_eq : outcome m s = outcome m' t
  result : ∀ a, outcome m s = .ok a → Q a
  size_eq : (after m s).scopes.size = (after m' t).scopes.size
  nextId_eq : (after m s).nextId = (after m' t).nextId

namespace InTandem

variable {α β : Type} {Q : α → Prop} {Q' : β → Prop} {p : FunctionData → Prop} {L : Set ScopeId}
  {s t : Store}

theorem pure (h : Alike p L s t) {a : α} (ha : Q a) :
    InTandem Q (Pure.pure a) s (Pure.pure a) t where
  outcome_eq := rfl
  result := by rintro _ ⟨⟩; exact ha
  size_eq := h.size_eq
  nextId_eq := h.nextId_eq

theorem throw (h : Alike p L s t) (e : Error) :
    InTandem Q (MonadExcept.throw e) s (MonadExcept.throw e) t where
  outcome_eq := rfl
  result := nofun
  size_eq := h.size_eq
  nextId_eq := h.nextId_eq

theorem ofResult (h : Alike p L s t) {r : Except Error α} (hr : ∀ a, r = .ok a → Q a) :
    InTandem Q (StoreM.ofResult r) s (StoreM.ofResult r) t where
  outcome_eq := by rw [outcome_ofResult, outcome_ofResult]
  result := by rwa [outcome_ofResult]
  size_eq := by rw [after_ofResult, after_ofResult, h.size_eq]
  nextId_eq := by rw [after_ofResult, after_ofResult, h.nextId_eq]

theorem bindSymbols (h : Alike p L s t) (i : ScopeId) (xs : List Symbol) (vs : List Value) :
    InTandem (fun _ => True) (StoreM.bindSymbols i xs vs) s (StoreM.bindSymbols i xs vs) t where
  outcome_eq := rfl
  result _ _ := trivial
  size_eq := (s.size_modify i _).trans (h.size_eq.trans (t.size_modify i _).symm)
  nextId_eq := h.nextId_eq

theorem findSymbol (h : Alike p L s t) {i : ScopeId} (hi : i ∈ L) (x : Symbol) :
    InTandem (Value.Holds p) (StoreM.findSymbol i x) s
      (StoreM.findSymbol i x) t := by
  obtain ⟨heq, hp⟩ := h.find?_eq hi x
  cases hx : s.find? i x with
  | none =>
    have hx' := heq.symm.trans hx
    refine ⟨?_, ?_, ?_, ?_⟩ <;> simp only [outcome, after, StoreM.findSymbol, hx, hx']
    · rintro _ ⟨⟩
    · exact h.size_eq
    · exact h.nextId_eq
  | some v =>
    have hx' := heq.symm.trans hx
    refine ⟨?_, ?_, ?_, ?_⟩ <;> simp only [outcome, after, StoreM.findSymbol, hx, hx']
    · rintro _ ⟨⟩
      exact hp v hx
    · exact h.size_eq
    · exact h.nextId_eq

/-- Computations one after another stay in tandem if the first two do, and the others do from the
stores that these leave. -/
theorem bind {m m' : StoreM α} {f g : α → StoreM β} (h : InTandem Q m s m' t)
    (hfg : ∀ a, Q a → InTandem Q' (f a) (after m s) (g a) (after m' t)) :
    InTandem Q' (m >>= f) s (m' >>= g) t := by
  cases hm : outcome m s with
  | error e =>
    have hm' := h.outcome_eq.symm.trans hm
    refine ⟨?_, ?_, ?_, ?_⟩
    · rw [outcome_bind, outcome_bind, hm, hm']
      rfl
    · rw [outcome_bind, hm]
      exact nofun
    · rw [after_bind_error hm, after_bind_error hm', h.size_eq]
    · rw [after_bind_error hm, after_bind_error hm', h.nextId_eq]
  | ok a =>
    have hm' := h.outcome_eq.symm.trans hm
    obtain ⟨hout, hres, hsize, hid⟩ := hfg a (h.result a hm)
    refine ⟨?_, ?_, ?_, ?_⟩
    · rw [outcome_bind, outcome_bind, hm, hm']
      exact hout
    · rw [outcome_bind, hm]
      exact hres
    · rw [after_bind_ok hm, after_bind_ok hm', hsize]
    · rw [after_bind_ok hm, after_bind_ok hm', hid]

/-- Stores that are alike stay so if the computations only add scopes. -/
theorem alike {m m' : StoreM α} (h : InTandem Q m s m' t) (hl : Alike p L s t) (hm : Grows m)
    (hm' : Grows m') : Alike p L (after m s) (after m' t) :=
  hl.of_extends (hm s) (hm' t) h.size_eq h.nextId_eq

end InTandem

/-! ## Evaluators that are confined -/

/-- The evaluators stay in tandem in stores that are alike, and give only functions with the
property `p`. -/
def Evaluator.Confined (p : FunctionData → Prop) (ev ev' : Evaluator) : Prop :=
  ∀ (expr : Value) (L : Set ScopeId) (s t : Store) (i : ScopeId), Alike p L s t → i ∈ L →
    InTandem (Value.Holds p) (ev expr i) s (ev' expr i) t

section Steps

variable {p : FunctionData → Prop} {L : Set ScopeId} {s t : Store} {i : ScopeId}

/-- Evaluations in a new scope. It has the same place on both sides. -/
theorem Evaluator.Confined.inNewScope {ev ev' : Evaluator} (h : ev.Confined p ev')
    (hl : Alike p L s t) (sc : Scope) (ho : ∀ o, sc.outer = some o → o ∈ L)
    (hf : ∀ f ∈ sc.functions, p f) (expr : Value) :
    InTandem (Value.Holds p) (pushScope sc >>= ev expr) s (pushScope sc >>= ev' expr) t := by
  have hnew := h expr _ _ _ _ (hl.push ho hf) (Set.mem_insert _ _)
  have ht : (pushScope sc >>= ev' expr) t = ev' expr s.scopes.size (t.push sc) := by
    rw [hl.size_eq]
    rfl
  have hout : outcome (pushScope sc >>= ev' expr) t =
      outcome (ev' expr s.scopes.size) (t.push sc) := by
    rw [outcome, outcome, ht]
  have hafter : after (pushScope sc >>= ev' expr) t =
      after (ev' expr s.scopes.size) (t.push sc) := by
    rw [after, after, ht]
  exact ⟨hnew.outcome_eq.trans hout.symm, hnew.result, hafter ▸ hnew.size_eq,
    hafter ▸ hnew.nextId_eq⟩

theorem Evaluator.Confined.evalInChild {ev ev' : Evaluator} (h : ev.Confined p ev')
    (hl : Alike p L s t) (hi : i ∈ L) (expr : Value) :
    InTandem (Value.Holds p) (evalInChild ev expr i) s (evalInChild ev' expr i) t := by
  refine h.inNewScope hl ⟨[], some i⟩ ?_ (List.forall_mem_nil p) expr
  rintro o ⟨⟩
  exact hi

theorem Evaluator.Confined.evalEach {ev ev' : Evaluator} (h : ev.Confined p ev')
    (hlocal : ev.IsLocal) (hlocal' : ev'.IsLocal) (hl : Alike p L s t) (hi : i ∈ L)
    (exprs : List Value) :
    InTandem (fun vs => ∀ v ∈ vs, v.Holds p) (evalEach ev i exprs) s (evalEach ev' i exprs) t := by
  induction exprs generalizing s t with
  | nil => exact .pure hl (List.forall_mem_nil _)
  | cons expr exprs ih =>
    have hfirst := h.evalInChild hl hi expr
    have hl₁ := hfirst.alike hl (hlocal.evalInChild expr i) (hlocal'.evalInChild expr i)
    refine hfirst.bind fun v hv => ?_
    have hrest := ih hl₁
    have hl₂ := hrest.alike hl₁ (hlocal.evalEach i exprs) (hlocal'.evalEach i exprs)
    exact hrest.bind fun vs hvs => .pure hl₂ (List.forall_mem_cons.mpr ⟨hv, hvs⟩)

variable {ev ev' : Nested} (hev : ∀ taken, (ev taken).Confined p (ev' taken))
  (hlocal : ∀ taken, (ev taken).IsLocal) (hlocal' : ∀ taken, (ev' taken).IsLocal)
  (hl : Alike p L s t) (hi : i ∈ L)

include hev hlocal hlocal' hl hi

theorem inTandem_evalIf (tail : List Value) :
    InTandem (Value.Holds p) (evalIf ev tail i) s (evalIf ev' tail i) t := by
  match tail with
  | [condition, thenPart, elsePart] =>
    have hcond := (hev partPlaces).evalInChild hl hi condition
    have hl₁ := hcond.alike hl ((hlocal _).evalInChild condition i)
      ((hlocal' _).evalInChild condition i)
    refine hcond.bind fun c _ => ?_
    split
    · exact (hev _).evalInChild hl₁ hi elsePart
    · exact (hev _).evalInChild hl₁ hi thenPart
  | [] => exact .throw hl _
  | [_] => exact .throw hl _
  | [_, _] => exact .throw hl _
  | _ :: _ :: _ :: _ :: _ => exact .throw hl _

theorem inTandem_evalFormat (room : Nat) (tail : List Value) :
    InTandem (Value.Holds p) (evalFormat room ev tail i) s (evalFormat room ev' tail i) t := by
  cases tail with
  | nil => exact .throw hl _
  | cons destination parts =>
    simp only [evalFormat]
    cases templateText room (splitFill parts).1 with
    | error fault => exact .throw hl _
    | ok template =>
      cases (splitFill parts).2 with
      | none => exact .pure hl (Value.forall_functions_of_isAtom rfl)
      | some expr =>
        have hfill := (hev partPlaces).evalInChild hl hi expr
        have hl₁ := hfill.alike hl ((hlocal _).evalInChild expr i)
          ((hlocal' _).evalInChild expr i)
        exact hfill.bind fun v _ => .ofResult hl₁ fun w hw => functions_filled hw

omit hev hlocal hlocal' hi in
/-- Definitions give the same under any two modes. The functions that they make may differ. -/
theorem inTandem_evalDefun (mode mode' : Scoping) (room : Nat) (tail : List Value) :
    InTandem (Value.Holds p) (evalDefun mode room tail i) s (evalDefun mode' room tail i) t := by
  simp only [evalDefun]
  cases Definition.ofParts room tail with
  | error e => exact .throw hl e
  | ok d =>
    refine ⟨rfl, ?_, ?_, congrArg (· + 1) hl.nextId_eq⟩
    · rintro _ ⟨⟩
      exact Value.forall_functions_of_isAtom rfl
    · exact (Store.size_modify _ _ _).trans (hl.size_eq.trans (Store.size_modify _ _ _).symm)

/-! ### Calls -/

omit hlocal hlocal' in
/-- Calls of functions go on in tandem, in the caller's scope or the captured one. -/
theorem inTandem_applyFunction {f : FunctionData} (hf : p f) {args : List Value}
    (hargs : ∀ v ∈ args, v.Holds p) :
    InTandem (Value.Holds p) (applyFunction ev f.name f.params f.body f.scope args i) s
      (applyFunction ev' f.name f.params f.body f.scope args i) t := by
  cases hscope : f.scope with
  | none =>
    simp only [applyFunction]
    split
    · exact .throw hl _
    · refine (InTandem.bindSymbols hl i f.params args).bind fun _ _ => ?_
      exact (hev bodyPlaces).evalInChild (hl.modify i f.params hargs) hi f.body
  | some d =>
    simp only [applyFunction]
    split
    · exact .throw hl _
    · refine (hev bodyPlaces).inNewScope hl _ ?_ (fun g hg => ?_) f.body
      · rw [Scope.outer_putAll]
        rintro o ⟨⟩
        exact hl.captured f d hf hscope
      · rcases Scope.functions_putAll hg with ⟨v, hv, hgv⟩ | hnil
        · exact hargs v hv g hgv
        · cases hnil

omit hlocal hlocal' in
theorem inTandem_apply (room : Nat) {head : Value} (hhead : head.Holds p) {args : List Value}
    (hargs : ∀ v ∈ args, v.Holds p) :
    InTandem (Value.Holds p) (apply room ev head args i) s (apply room ev' head args i) t := by
  cases head with
  | function id name params body closure =>
    have hf : p ⟨id, name, params, body, closure⟩ := hhead _ (.head _)
    exact inTandem_applyFunction hev hl hi hf hargs
  | builtin b => exact .ofResult hl fun w hw => b.functions_call hargs hw
  | int n => exact .pure hl (Value.forall_functions_of_isAtom rfl)
  | float x => exact .pure hl (Value.forall_functions_of_isAtom rfl)
  | bool b => exact .pure hl (Value.forall_functions_of_isAtom rfl)
  | str t => exact .pure hl (Value.forall_functions_of_isAtom rfl)
  | nothing => exact .throw hl _
  | sym x => exact .throw hl _
  | list vs => exact .throw hl _
  | tuple vs => exact .throw hl _

theorem inTandem_evalApplication (room : Nat) (head : Value) (tail : List Value) :
    InTandem (Value.Holds p) (evalApplication room ev head tail i) s
      (evalApplication room ev' head tail i) t := by
  have hhead := (hev headPlaces).evalInChild hl hi head
  have hl₁ := hhead.alike hl ((hlocal _).evalInChild head i) ((hlocal' _).evalInChild head i)
  refine hhead.bind fun f hf => ?_
  have hargs := (hev argumentPlaces).evalEach (hlocal _) (hlocal' _) hl₁ hi tail
  have hl₂ := hargs.alike hl₁ ((hlocal _).evalEach i tail) ((hlocal' _).evalEach i tail)
  exact hargs.bind fun args hargs => inTandem_apply hev hl₂ hi _ hf hargs

/-- Forms go on in tandem, unless they are definitions. -/
theorem inTandem_evalItems (mode mode' : Scoping) (room : Nat) (items : List Value) :
    InTandem (Value.Holds p) (evalItems mode room ev items i) s
      (evalItems mode' room ev' items i) t := by
  cases items with
  | nil => exact .throw hl _
  | cons head tail =>
    have application := inTandem_evalApplication hev hlocal hlocal' hl hi room head tail
    cases head with
    | sym x =>
      simp only [evalItems]
      cases SpecialForm.ofSymbol? x with
      | none => exact application
      | some form =>
        cases form with
        | conditional => exact inTandem_evalIf hev hlocal hlocal' hl hi tail
        | definition => exact inTandem_evalDefun hl mode mode' _ tail
        | format => exact inTandem_evalFormat hev hlocal hlocal' hl hi _ tail
    | _ => exact application

end Steps

/-- **A step of evaluation is confined.** -/
theorem step_confined {p : FunctionData → Prop} {ev ev' : Nested}
    (hev : ∀ taken, (ev taken).Confined p (ev' taken)) (hlocal : ∀ taken, (ev taken).IsLocal)
    (hlocal' : ∀ taken, (ev' taken).IsLocal) (mode mode' : Scoping) (room : Nat) :
    Evaluator.Confined p (step mode room ev) (step mode' room ev') := by
  intro expr L s t i hl hi
  cases expr with
  | list items => exact inTandem_evalItems hev hlocal hlocal' hl hi mode mode' room items
  | tuple items => exact inTandem_evalItems hev hlocal hlocal' hl hi mode mode' room items
  | sym x => exact .findSymbol hl hi x
  | int n => exact .pure hl (Value.forall_functions_of_isAtom rfl)
  | float x => exact .pure hl (Value.forall_functions_of_isAtom rfl)
  | bool b => exact .pure hl (Value.forall_functions_of_isAtom rfl)
  | nothing => exact .throw hl _
  | str t => exact .throw hl _
  | function id name params body scope => exact .throw hl _
  | builtin b => exact .throw hl _

/-- **Evaluations under any two modes stay in tandem**, within the same room. -/
theorem nestedWithin_confined (p : FunctionData → Prop) (mode mode' : Scoping) (room taken : Nat) :
    Evaluator.Confined p (nestedWithin mode room taken) (nestedWithin mode' room taken) := by
  induction room generalizing taken with
  | zero => exact fun expr L s t i hl hi => .throw hl _
  | succ room ih =>
    cases taken with
    | zero =>
      exact step_confined ih (nestedWithin_isLocal mode room) (nestedWithin_isLocal mode' room)
        mode mode' room
    | succ taken => exact ih taken

/-! ## Stores after an evaluation -/

section After

variable {p : FunctionData → Prop} {L : Set ScopeId} {s t : Store} {i : ScopeId} {room : Nat}
  {expr : Value} {mode : Scoping}

/-- A value that is no definition binds the same symbols to the same values in both stores. -/
theorem Rebinds.of_alike {xs : List Symbol} {vs : List Value}
    (h : Rebinds mode i s room expr xs vs) (hl : Alike p L s t) (hi : i ∈ L)
    (hplain : expr.definitionParts? = none) (mode' : Scoping) :
    Rebinds mode' i t room expr xs vs ∧ ∀ v ∈ vs, v.Holds p := by
  cases h with
  | definition form =>
    rw [Value.definitionParts?_eq_some_iff.mpr form] at hplain
    cases hplain
  | @call room _ head tail _ _ _ _ _ _ _ form ordinary headValue argValues arity =>
    obtain ⟨hf, rfl⟩ := eq_ok_iff.mp headValue
    obtain ⟨hargs, rfl⟩ := eq_ok_iff.mp argValues
    have hhead := (nestedWithin_confined p mode mode' room headPlaces).evalInChild hl hi head
    have hl₁ := hhead.alike hl ((nestedWithin_isLocal mode room _).evalInChild head i)
      ((nestedWithin_isLocal mode' room _).evalInChild head i)
    have htail := (nestedWithin_confined p mode mode' room argumentPlaces).evalEach
      (nestedWithin_isLocal mode room _) (nestedWithin_isLocal mode' room _) hl₁ hi tail
    refine ⟨.call form ordinary (eq_ok_iff.mpr ⟨hhead.outcome_eq ▸ hf, rfl⟩)
      (eq_ok_iff.mpr ⟨htail.outcome_eq ▸ hargs, rfl⟩) arity, htail.result _ hargs⟩

theorem Alike.symm (h : Alike p L s t) : Alike p L t s where
  size_eq := h.size_eq.symm
  nextId_eq := h.nextId_eq.symm
  scope i hi := by
    obtain ⟨sc, hs, ht, hrest⟩ := h.scope i hi
    exact ⟨sc, ht, hs, hrest⟩
  captured := h.captured

/-- **A value that is no definition leaves stores alike**: what it binds in its own scope does not
depend on the mode. -/
theorem Alike.evalWithin_plain (hl : Alike p L s t) (hi : i ∈ L)
    (hplain : expr.definitionParts? = none) (mode mode' : Scoping) (room : Nat) :
    Alike p L (after (evalWithin mode room expr i) s) (after (evalWithin mode' room expr i) t) := by
  have htandem := nestedWithin_confined p mode mode' room 0 expr L s t i hl hi
  cases room with
  | zero => exact hl
  | succ room =>
    have hlocal := nestedWithin_isLocal mode room
    have hlocal' := nestedWithin_isLocal mode' room
    by_cases h : ∃ xs vs, Rebinds mode i s (room + 1) expr xs vs
    · obtain ⟨xs, vs, h⟩ := h
      obtain ⟨h', hvs⟩ := h.of_alike hl hi hplain mode'
      exact (hl.modify i xs hvs).of_extends (step_of_rebinds hlocal h)
        (step_of_rebinds hlocal' h') htandem.size_eq htandem.nextId_eq
    · have hnot (xs : List Symbol) (vs : List Value) : ¬ Rebinds mode i s (room + 1) expr xs vs :=
        fun hr => h ⟨xs, vs, hr⟩
      have hnot' (xs : List Symbol) (vs : List Value) :
          ¬ Rebinds mode' i t (room + 1) expr xs vs :=
        fun hr => h ⟨xs, vs, (hr.of_alike hl.symm hi hplain mode).1⟩
      exact hl.of_extends (step_of_not_rebinds hlocal hnot) (step_of_not_rebinds hlocal' hnot')
        htandem.size_eq htandem.nextId_eq

end After

/-- Evaluations in a well-formed store look only into its scopes, and meet only functions that it
binds. -/
theorem Store.WellFormed.alike {s : Store} (hs : s.WellFormed) :
    Alike (· ∈ s.functions) {j | j < s.scopes.size} s s where
  size_eq := rfl
  nextId_eq := rfl
  scope j hj := by
    have hsc := Array.getElem?_eq_getElem hj
    exact ⟨s.scopes[j], hsc, hsc, fun o ho => Nat.lt_trans (hs.outer_lt j o _ hsc ho) hj,
      fun f hf => mem_functions_iff.mpr ⟨j, _, hsc, hf⟩⟩
  captured f d hf hd := hs.captured_lt f hf d hd

/-- **The mode of an evaluation matters for definitions only.** A value that is no definition itself
gives the same under dynamic and under lexical scoping, and leaves the scopes that were there with
the same bindings, whatever mix of functions they bind and whatever it defines on the way. -/
theorem evalWithin_dynamic_eq_lexical {s : Store} (hs : s.WellFormed) {i : ScopeId}
    (hi : i < s.scopes.size) (room : Nat) {expr : Value} (hplain : expr.definitionParts? = none) :
    outcome (evalWithin .dynamic room expr i) s = outcome (evalWithin .lexical room expr i) s ∧
      ∀ j < s.scopes.size, (after (evalWithin .dynamic room expr i) s).scopes[j]? =
        (after (evalWithin .lexical room expr i) s).scopes[j]? := by
  have halike := hs.alike
  constructor
  · exact (nestedWithin_confined _ .dynamic .lexical room 0 expr _ s s i halike hi).outcome_eq
  · intro j hj
    have hafter := halike.evalWithin_plain hi hplain .dynamic .lexical room
    obtain ⟨sc, hd, hl, -⟩ := hafter.scope j hj
    rw [hd, hl]

/-- A function that captures nothing calls a closure, which makes a definition on the way. -/
theorem evalWithin_modes_nested_definition :
    let f : Value := .function 0 ⟨"f"⟩ [⟨"x"⟩] (.list [.sym ⟨"g"⟩, .sym ⟨"x"⟩]) none
    let definition : Value := .list [.sym ⟨"defun"⟩, .sym ⟨"h"⟩, .list [], .sym ⟨"y"⟩]
    let g : Value := .function 1 ⟨"g"⟩ [⟨"y"⟩]
      (.list [.sym ⟨"if"⟩, definition, .sym ⟨"y"⟩, .sym ⟨"x"⟩]) (some 0)
    let s : Store := ⟨#[⟨[(⟨"f"⟩, f), (⟨"g"⟩, g)], none⟩], 2⟩
    let call : Value := .list [.sym ⟨"f"⟩, .int 7]
    s.WellFormed ∧ call.definitionParts? = none ∧
      (outcome (evalWithin .dynamic 9 call 0) s).isOk = true ∧
      outcome (evalWithin .dynamic 9 call 0) s = outcome (evalWithin .lexical 9 call 0) s ∧
      (after (evalWithin .dynamic 9 call 0) s).scopes[0]? =
        (after (evalWithin .lexical 9 call 0) s).scopes[0]? := by
  intro f definition g s call
  have hs : s.WellFormed := {
    outer_lt := by
      intro i o sc hsc ho
      cases i with
      | zero => cases hsc; cases ho
      | succ i => cases hsc
    captured_lt := by
      simp [s, f, g, Store.functions, Value.functions] }
  have hplain : call.definitionParts? = none := rfl
  have hroot : 0 < s.scopes.size := by decide
  have hok : (outcome (evalWithin .dynamic 9 call 0) s).isOk = true := by decide +kernel
  have hmodes := evalWithin_dynamic_eq_lexical hs hroot 9 hplain
  exact ⟨hs, hplain, hok, hmodes.1, hmodes.2 0 hroot⟩

end SmallLisp
