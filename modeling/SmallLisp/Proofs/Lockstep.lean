import SmallLisp.Proofs.Builtin.Related
import SmallLisp.Proofs.Frame
import SmallLisp.Proofs.Room
import SmallLisp.Proofs.Store.View

/-!
# Evaluation under both scoping modes

The same value is evaluated under dynamic scoping in one store and under lexical scoping in
another. Under dynamic scoping a function sees what the call sees, and leaves its parameters bound
there. Under lexical scoping it sees what the outermost scope shows, and its parameters. The two
cannot be told apart if functions mention no parameters but their own: then the names that a body
takes from outside are never those that calls leave behind.

The two evaluations go in lockstep. They keep apart the names of a list `P`, which holds all
parameters: outside of `P`, what is seen at any place under dynamic scoping is what the outermost
scope shows under lexical scoping.

## Main definitions

* `Value.symbols`: the symbols within a value
* `Counterparts`: a function under dynamic scoping and the same function under lexical scoping
* `Linked`: stores and scopes in which both evaluations see the same
* `InStep`: computations with the same outcome, unless one of them runs out of room
* `Evaluator.Lockstep`: evaluators that stay in step in linked stores

## Main results

* `InStep.bind`: computations one after another stay in step
* `inStep_applyFunction`: calls of counterparts stay in step
* `nestedWithin_lockstep`: evaluation under dynamic and under lexical scoping stay in step
-/

namespace SmallLisp

open StoreM
open Value (Related)

/-! ## The symbols within a value -/

namespace Value

mutual

/-- The symbols within a value, at any depth. -/
def symbols : Value → List Symbol
  | .sym x => [x]
  | .list vs => symbolsAll vs
  | .tuple vs => symbolsAll vs
  | _ => []

/-- The symbols within several values. -/
def symbolsAll : List Value → List Symbol
  | [] => []
  | v :: vs => symbols v ++ symbolsAll vs

end

theorem symbols_subset_symbolsAll {v : Value} {vs : List Value} (h : v ∈ vs) :
    v.symbols ⊆ symbolsAll vs := by
  induction h with
  | head vs =>
    rw [symbolsAll]
    exact List.subset_append_left _ _
  | tail w _ ih =>
    rw [symbolsAll]
    exact List.Subset.trans ih (List.subset_append_right _ _)

theorem symbols_of_formItems? {expr : Value} {items : List Value}
    (h : expr.formItems? = some items) : expr.symbols = symbolsAll items := by
  cases expr <;> simp_all [formItems?, symbols]

end Value

/-! ## Functions and bindings under both modes -/

/-- A function as it is under dynamic scoping, and the same function under lexical scoping, where
it captures the scope `r`. Its parameters are in `P`, and it mentions no others of `P`. -/
structure Counterparts (P : List Symbol) (r : ScopeId) (f g : FunctionData) : Prop where
  scope_dynamic : f.scope = none
  scope_lexical : g.scope = some r
  params_subset : f.params ⊆ P
  mem_params : ∀ x ∈ f.body.symbols, x ∈ P → x ∈ f.params

/-- What a symbol stands for under both modes: nothing, or values with counterparts as their
functions. -/
abbrev SameBinding (P : List Symbol) (r : ScopeId) : Option Value → Option Value → Prop :=
  Option.Rel (Related (Counterparts P r))

theorem Bindings.extendAll_of_notMem {ρ : Bindings} {xs : List Symbol} {vs : List Value}
    {x : Symbol} (h : x ∉ xs) : ρ.extendAll xs vs x = ρ x := by
  rw [extendAll_apply]
  have hnone : (xs.zip vs).reverse.lookup x = none := by
    rw [List.lookup_eq_none_iff]
    intro b hb
    have hmem := (List.of_mem_zip (List.mem_reverse.mp hb)).1
    simpa using ne_of_mem_of_not_mem hmem h |>.symm
  rw [hnone, Option.none_or]

/-- Parameters bound to related arguments are bound to the same. -/
theorem Bindings.extendAll_related {R : Value → Value → Prop} {ρ σ : Bindings} {xs : List Symbol}
    {vs ws : List Value} {x : Symbol} (hvs : List.Forall₂ R vs ws) (hlen : vs.length = xs.length)
    (hx : x ∉ xs → Option.Rel R (ρ x) (σ x)) :
    Option.Rel R (ρ.extendAll xs vs x) (σ.extendAll xs ws x) := by
  induction hvs generalizing ρ σ xs with
  | nil =>
    obtain rfl := List.eq_nil_of_length_eq_zero hlen.symm
    exact hx List.not_mem_nil
  | @cons v w vs ws hvw _ ih =>
    match xs, hlen with
    | y :: ys, hlen =>
      show Option.Rel R ((ρ.extend y v).extendAll ys vs x) ((σ.extend y w).extendAll ys ws x)
      refine ih (Nat.succ.inj hlen) fun hys => ?_
      unfold extend
      by_cases hy : y = x
      · rw [if_pos hy, if_pos hy]
        exact .some hvw
      · rw [if_neg hy, if_neg hy]
        exact hx (List.not_mem_cons_of_ne_of_not_mem (Ne.symm hy) hys)

/-! ## Linked stores -/

/-- The store `s` at the scope `i` under dynamic scoping, and the store `t` at the scope `j` under
lexical scoping, where `r` is the outermost scope. From both places the symbols in `xs` are seen
alike, and what is seen from `i` outside of `P` is what `r` shows. -/
structure Linked (P : List Symbol) (r : ScopeId) (xs : List Symbol) (s : Store) (i : ScopeId)
    (t : Store) (j : ScopeId) : Prop where
  nextId_eq : s.nextId = t.nextId
  grounded_dynamic : s.Grounded i
  grounded_lexical : t.Grounded j
  grounded_root : t.Grounded r
  mentioned : ∀ x ∈ xs, SameBinding P r (s.view i x) (t.view j x)
  outside : ∀ x, x ∉ P → SameBinding P r (s.view i x) (t.view r x)

namespace Linked

variable {P : List Symbol} {r : ScopeId} {xs ys : List Symbol} {s s' t t' : Store} {i j : ScopeId}

theorem mono (h : Linked P r xs s i t j) (hys : ys ⊆ xs) : Linked P r ys s i t j :=
  { h with mentioned := fun x hx => h.mentioned x (hys hx) }

/-- Scopes that are linked stay so when scopes are added on both sides. -/
theorem of_extends (h : Linked P r xs s i t j) (hs : s.Extends s') (ht : t.Extends t')
    (hid : s'.nextId = t'.nextId) : Linked P r xs s' i t' j where
  nextId_eq := hid
  grounded_dynamic := h.grounded_dynamic.of_extends hs
  grounded_lexical := h.grounded_lexical.of_extends ht
  grounded_root := h.grounded_root.of_extends ht
  mentioned := by
    rw [h.grounded_dynamic.view_of_extends hs, h.grounded_lexical.view_of_extends ht]
    exact h.mentioned
  outside := by
    rw [h.grounded_dynamic.view_of_extends hs, h.grounded_root.view_of_extends ht]
    exact h.outside

/-- New empty scopes on both sides. -/
theorem child (h : Linked P r xs s i t j) :
    Linked P r xs (s.push ⟨[], some i⟩) s.scopes.size (t.push ⟨[], some j⟩) t.scopes.size where
  nextId_eq := h.nextId_eq
  grounded_dynamic := h.grounded_dynamic.push rfl
  grounded_lexical := h.grounded_lexical.push rfl
  grounded_root := h.grounded_root.of_extends (t.extends_push _)
  mentioned := by
    rw [h.grounded_dynamic.view_child, h.grounded_lexical.view_child]
    exact h.mentioned
  outside := by
    rw [h.grounded_dynamic.view_child, h.grounded_root.view_of_extends (t.extends_push _)]
    exact h.outside

/-- The scopes in which the body of a function runs: one within the scope of the call, where the
parameters are bound, and one within the outermost scope. -/
theorem call (h : Linked P r xs s i t j) {f g : FunctionData} (hfg : Counterparts P r f g)
    {args args' : List Value} (hargs : List.Forall₂ (Related (Counterparts P r)) args args')
    (hlen : args.length = f.params.length) :
    Linked P r f.body.symbols
      ((s.modify i (·.putAll f.params args)).push ⟨[], some i⟩) s.scopes.size
      (t.push (Scope.putAll ⟨[], some r⟩ f.params args')) t.scopes.size := by
  have hmodify := h.grounded_dynamic.modify f.params args
  have hsize : (s.modify i (·.putAll f.params args)).scopes.size = s.scopes.size :=
    Array.size_modify
  have hview : ((s.modify i (·.putAll f.params args)).push ⟨[], some i⟩).view s.scopes.size =
      (s.view i).extendAll f.params args := by
    rw [← h.grounded_dynamic.view_modify, ← hmodify.view_child, hsize]
  refine ⟨h.nextId_eq, hsize ▸ hmodify.push rfl, h.grounded_root.push (Scope.outer_putAll _ _ _),
    h.grounded_root.of_extends (t.extends_push _), fun x hx => ?_, fun x hx => ?_⟩
  · rw [hview, h.grounded_root.view_push]
    refine Bindings.extendAll_related hargs hlen fun hnot => h.outside x fun hP => ?_
    exact hnot (hfg.mem_params x hx hP)
  · rw [hview, Bindings.extendAll_of_notMem fun hmem => hx (hfg.params_subset hmem),
      h.grounded_root.view_of_extends (t.extends_push _)]
    exact h.outside x hx

end Linked

/-! ## Computations in step -/

/-- Unless one of the two runs out of room, both computations fail with the same error or give
values in the relation `Q`, and they make as many functions. -/
def InStep {α β : Type} (Q : α → β → Prop) (m : StoreM α) (s : Store) (m' : StoreM β) (t : Store) :
    Prop :=
  outcome m s ≠ .error .stackExhausted → outcome m' t ≠ .error .stackExhausted →
    SameOutcome Q (outcome m s) (outcome m' t) ∧ (after m s).nextId = (after m' t).nextId

namespace InStep

variable {α β α' β' : Type} {Q : α → β → Prop} {Q' : α' → β' → Prop} {s t : Store}

theorem pure {a : α} {b : β} (h : Q a b) (hid : s.nextId = t.nextId) :
    InStep Q (Pure.pure a) s (Pure.pure b) t :=
  fun _ _ => ⟨.ok h, hid⟩

theorem throw (e : Error) (hid : s.nextId = t.nextId) :
    InStep Q (MonadExcept.throw e) s (MonadExcept.throw e) t :=
  fun _ _ => ⟨.error e, hid⟩

theorem ofResult {x : Except Error α} {y : Except Error β}
    (h : x ≠ .error .stackExhausted → y ≠ .error .stackExhausted → SameOutcome Q x y)
    (hid : s.nextId = t.nextId) : InStep Q (StoreM.ofResult x) s (StoreM.ofResult y) t := by
  intro hx hy
  rw [outcome_ofResult] at hx hy
  simp only [outcome_ofResult, after_ofResult]
  exact ⟨h hx hy, hid⟩

/-- Results that agree in each room, and that settle, agree also in two different rooms. -/
theorem ofSettling {f : Nat → Except Error α} {g : Nat → Except Error β}
    (h : ∀ room, SameOutcome Q (f room) (g room)) (hg : Settles .stackExhausted g) (m n : Nat)
    (hid : s.nextId = t.nextId) :
    InStep Q (StoreM.ofResult (f m)) s (StoreM.ofResult (g n)) t := by
  refine ofResult (fun hf hn => ?_) hid
  have hm := h m
  have hgm : g m ≠ .error .stackExhausted := by
    intro he
    rw [he] at hm
    generalize hx : f m = x at hm hf
    cases hm
    exact hf rfl
  rwa [hg.eq_of_ne hgm hn] at hm

/-- Symbols whose bindings are counterparts are looked up alike. -/
theorem findSymbol {P : List Symbol} {r i j : ScopeId} {x : Symbol}
    (h : SameBinding P r (s.view i x) (t.view j x)) (hid : s.nextId = t.nextId) :
    InStep (Related (Counterparts P r)) (StoreM.findSymbol i x) s (StoreM.findSymbol j x) t := by
  intro _ _
  simp only [Store.view] at h
  simp only [outcome, after, StoreM.findSymbol]
  cases hs : s.find? i x with
  | none =>
    cases ht : t.find? j x with
    | none => exact ⟨.error _, hid⟩
    | some w => rw [hs, ht] at h; cases h
  | some v =>
    cases ht : t.find? j x with
    | none => rw [hs, ht] at h; cases h
    | some w =>
      rw [hs, ht] at h
      cases h with
      | some hvw => exact ⟨.ok hvw, hid⟩

/-- Computations one after another stay in step if the first two do, and the others do from the
stores that these leave. -/
theorem bind {m : StoreM α} {m' : StoreM β} {f : α → StoreM α'} {g : β → StoreM β'}
    (h : InStep Q m s m' t)
    (hfg : ∀ a b, Q a b → (after m s).nextId = (after m' t).nextId →
      InStep Q' (f a) (after m s) (g b) (after m' t)) :
    InStep Q' (m >>= f) s (m' >>= g) t := by
  intro hs ht
  obtain ⟨hout, hid⟩ := h (outcome_ne_error_of_bind hs) (outcome_ne_error_of_bind ht)
  rw [outcome_bind] at hs ht
  rw [outcome_bind, outcome_bind]
  cases hm : outcome m s with
  | error e =>
    cases hm' : outcome m' t with
    | ok b => rw [hm, hm'] at hout; cases hout
    | error e' =>
      rw [hm, hm'] at hout
      cases hout
      rw [after_bind_error hm, after_bind_error hm']
      exact ⟨.error e, hid⟩
  | ok a =>
    cases hm' : outcome m' t with
    | error e' => rw [hm, hm'] at hout; cases hout
    | ok b =>
      rw [hm, hm'] at hout
      rw [hm] at hs
      rw [hm'] at ht
      rw [after_bind_ok hm, after_bind_ok hm']
      cases hout with
      | ok hab => exact hfg a b hab hid hs ht

end InStep

/-! ## Evaluators in lockstep -/

/-- The evaluators stay in step wherever both see the symbols of the value alike. -/
def Evaluator.Lockstep (P : List Symbol) (r : ScopeId) (ev ev' : Evaluator) : Prop :=
  ∀ (expr : Value) (s : Store) (i : ScopeId) (t : Store) (j : ScopeId),
    Linked P r expr.symbols s i t j →
      InStep (Related (Counterparts P r)) (ev expr i) s (ev' expr j) t

section Steps

variable {P : List Symbol} {r : ScopeId} {s t : Store} {i j : ScopeId}

theorem Evaluator.Lockstep.evalInChild {ev ev' : Evaluator} (h : ev.Lockstep P r ev')
    {expr : Value} (hl : Linked P r expr.symbols s i t j) :
    InStep (Related (Counterparts P r)) (evalInChild ev expr i) s (evalInChild ev' expr j) t :=
  h expr _ _ _ _ hl.child

theorem Evaluator.Lockstep.evalEach {ev ev' : Evaluator} (h : ev.Lockstep P r ev')
    (hlocal : ev.IsLocal) (hlocal' : ev'.IsLocal) {exprs : List Value}
    (hl : Linked P r (Value.symbolsAll exprs) s i t j) :
    InStep (List.Forall₂ (Related (Counterparts P r))) (evalEach ev i exprs) s
      (evalEach ev' j exprs) t := by
  induction exprs generalizing s t with
  | nil => exact .pure .nil hl.nextId_eq
  | cons expr exprs ih =>
    rw [Value.symbolsAll] at hl
    have hexpr := hl.mono (List.subset_append_left _ _)
    have hexprs := hl.mono (List.subset_append_right _ _)
    refine .bind (h.evalInChild hexpr) fun v w hvw hid => ?_
    refine .bind (ih (hexprs.of_extends (hlocal.evalInChild expr i s)
      (hlocal'.evalInChild expr j t) hid)) fun vs ws hvws hid => ?_
    exact .pure (.cons hvw hvws) hid

variable {ev ev' : Nested} (hev : ∀ taken, (ev taken).Lockstep P r (ev' taken))
  (hlocal : ∀ taken, (ev taken).IsLocal) (hlocal' : ∀ taken, (ev' taken).IsLocal)

include hev hlocal hlocal' in
/-- Conditionals are in step: both sides choose the same branch. -/
theorem inStep_evalIf {tail : List Value} (hl : Linked P r (Value.symbolsAll tail) s i t j) :
    InStep (Related (Counterparts P r)) (evalIf ev tail i) s (evalIf ev' tail j) t := by
  match tail with
  | [condition, thenPart, elsePart] =>
    have hpart {part : Value} (hmem : part ∈ [condition, thenPart, elsePart]) :=
      hl.mono (Value.symbols_subset_symbolsAll hmem)
    refine .bind ((hev _).evalInChild (hpart (by simp))) fun c c' hc hid => ?_
    have hbranch {part : Value} (hmem : part ∈ [condition, thenPart, elsePart]) :=
      (hev partPlaces).evalInChild ((hpart hmem).of_extends ((hlocal _).evalInChild condition i s)
        ((hlocal' _).evalInChild condition j t) hid)
    cases hc with
    | atom plain =>
      cases c with
      | bool b =>
        cases b with
        | false => exact hbranch (by simp)
        | true => exact hbranch (by simp)
      | _ => exact hbranch (by simp)
    | function data => exact hbranch (by simp)
    | list items => exact hbranch (by simp)
    | tuple items => exact hbranch (by simp)
  | [] => exact .throw _ hl.nextId_eq
  | [_] => exact .throw _ hl.nextId_eq
  | [_, _] => exact .throw _ hl.nextId_eq
  | _ :: _ :: _ :: _ :: _ => exact .throw _ hl.nextId_eq

theorem mem_of_splitFill {parts : List Value} {expr : Value}
    (h : (splitFill parts).2 = some expr) : expr ∈ parts := by
  unfold splitFill at h
  split at h
  · rename_i vs hlast
    cases h
    exact List.mem_of_getLast? hlast
  · cases h

/-- What is filled in alike gives the same text. -/
theorem filled_related {R : FunctionData → FunctionData → Prop} (template : String) {v w : Value}
    (h : Related R v w) (room : Nat) :
    SameOutcome (Related R) (filled room template v) (filled room template w) := by
  simp only [filled, Value.print, h.render_eq]
  cases Value.render .printed room w with
  | error fault => exact .error _
  | ok text => exact .ok (.atom rfl)

/-- Errors that show values with the same text are the same, whatever the two rooms for them. -/
theorem inStep_showing {R : FunctionData → FunctionData → Prop} {v w : Value}
    (h : ∀ room, v.inspect room = w.inspect room) (cause : String → Error) (m n : Nat)
    (hid : s.nextId = t.nextId) :
    InStep (Related R) (throw (.showing (v.inspect m) cause)) s
      (throw (.showing (w.inspect n) cause)) t := by
  refine InStep.ofSettling (f := fun room => .error (.showing (v.inspect room) cause)) ?_
    (settles_showing (Value.settles_render .inspected w) cause) m n hid
  intro room
  rw [h room]
  exact .error _

include hev in
/-- Format forms are in step. -/
theorem inStep_evalFormat {tail : List Value} (hl : Linked P r (Value.symbolsAll tail) s i t j)
    (m n : Nat) :
    InStep (Related (Counterparts P r)) (evalFormat m ev tail i) s (evalFormat n ev' tail j) t := by
  cases tail with
  | nil => exact .throw _ hl.nextId_eq
  | cons destination parts =>
    intro hs ht
    have htemplate : templateText m (splitFill parts).1 = templateText n (splitFill parts).1 := by
      refine (settles_templateText _).eq_of_ne (fun hlack => hs ?_) fun hlack => ht ?_
      · simp only [evalFormat, hlack]
        rfl
      · simp only [evalFormat, hlack]
        rfl
    revert hs ht
    simp only [evalFormat, htemplate]
    cases templateText n (splitFill parts).1 with
    | error fault => exact InStep.throw _ hl.nextId_eq
    | ok template =>
      cases hfill : (splitFill parts).2 with
      | none => exact InStep.pure (.atom rfl) hl.nextId_eq
      | some expr =>
        have hmem : expr ∈ destination :: parts := .tail _ (mem_of_splitFill hfill)
        have hexpr := hl.mono (Value.symbols_subset_symbolsAll hmem)
        refine InStep.bind ((hev _).evalInChild hexpr) fun v w hvw hid => ?_
        exact .ofSettling (filled_related template hvw) (settles_filled template w) m n hid

/-- Both make a function or neither does. It is seen again only if the scope is. -/
theorem inStep_evalDefun (m n : Nat) (tail : List Value) (hid : s.nextId = t.nextId) :
    InStep (Related (Counterparts P r)) (evalDefun .dynamic m tail i) s
      (evalDefun .lexical n tail j) t := by
  have hparts : InStep (fun d e => d = e) (StoreM.ofResult (Definition.ofParts m tail)) s
      (StoreM.ofResult (Definition.ofParts n tail)) t := by
    refine .ofSettling (f := fun room => Definition.ofParts room tail) (fun room => ?_)
      (settles_ofParts tail) m n hid
    cases Definition.ofParts room tail with
    | error e => exact .error e
    | ok d => exact .ok rfl
  refine hparts.bind fun d e hde hid => ?_
  subst hde
  exact fun _ _ => ⟨.ok (.atom rfl), congrArg (· + 1) hid⟩

/-! ### Calls -/

include hev in
/-- Calls of counterparts stay in step. -/
theorem inStep_applyFunction {xs : List Symbol} (hl : Linked P r xs s i t j) {f g : FunctionData}
    (hfg : Counterparts P r f g) {args args' : List Value}
    (hargs : List.Forall₂ (Related (Counterparts P r)) args args') :
    InStep (Related (Counterparts P r))
      (applyFunction ev f.name f.params f.body f.scope args i) s
      (applyFunction ev' f.name f.params f.body g.scope args' j) t := by
  rw [hfg.scope_dynamic, hfg.scope_lexical]
  simp only [applyFunction, ← hargs.length_eq]
  split
  · exact .throw _ hl.nextId_eq
  · rename_i hlen
    -- one body runs within the scope of the call, the other within the outermost scope
    have hbody := hev bodyPlaces f.body _ _ _ _ (hl.call hfg hargs (not_not.mp hlen))
    have hsize : (s.modify i (·.putAll f.params args)).scopes.size = s.scopes.size :=
      Array.size_modify
    rw [← hsize] at hbody
    exact hbody

include hev in
/-- Applications are in step, though they bind parameters in different scopes. -/
theorem inStep_apply {xs : List Symbol} (hl : Linked P r xs s i t j) {head head' : Value}
    (hhead : Related (Counterparts P r) head head') {args args' : List Value}
    (hargs : List.Forall₂ (Related (Counterparts P r)) args args') (m n : Nat) :
    InStep (Related (Counterparts P r)) (apply m ev head args i) s
      (apply n ev' head' args' j) t := by
  cases hhead with
  | function data => exact inStep_applyFunction hev hl data hargs
  | list items =>
    exact inStep_showing ((Related.list items).render_eq .inspected) _ m n hl.nextId_eq
  | tuple items =>
    exact inStep_showing ((Related.tuple items).render_eq .inspected) _ m n hl.nextId_eq
  | atom plain =>
    cases head with
    | builtin b =>
      exact .ofSettling (fun room => b.call_related room hargs) (settles_call b args') m n
        hl.nextId_eq
    | int n => exact .pure (.atom rfl) hl.nextId_eq
    | float x => exact .pure (.atom rfl) hl.nextId_eq
    | bool b => exact .pure (.atom rfl) hl.nextId_eq
    | str t => exact .pure (.atom rfl) hl.nextId_eq
    | nothing => exact inStep_showing (fun _ => rfl) _ m n hl.nextId_eq
    | sym x => exact inStep_showing (fun _ => rfl) _ m n hl.nextId_eq
    | list vs => cases plain
    | tuple vs => cases plain
    | function id name params body scope => cases plain

include hev hlocal hlocal' in
theorem inStep_evalApplication {head : Value} {tail : List Value}
    (hl : Linked P r (Value.symbolsAll (head :: tail)) s i t j) (m n : Nat) :
    InStep (Related (Counterparts P r)) (evalApplication m ev head tail i) s
      (evalApplication n ev' head tail j) t := by
  rw [Value.symbolsAll] at hl
  have hhead := hl.mono (List.subset_append_left _ _)
  have htail := hl.mono (List.subset_append_right _ _)
  refine .bind ((hev _).evalInChild hhead) fun f g hfg hid => ?_
  have htail := htail.of_extends ((hlocal _).evalInChild head i s)
    ((hlocal' _).evalInChild head j t) hid
  refine .bind ((hev _).evalEach (hlocal _) (hlocal' _) htail) fun args args' hargs hid => ?_
  exact inStep_apply hev (htail.of_extends ((hlocal _).evalEach i tail _)
    ((hlocal' _).evalEach j tail _) hid) hfg hargs _ _

include hev hlocal hlocal' in
/-- Forms are in step, whatever is their head. -/
theorem inStep_evalItems {items : List Value} (hl : Linked P r (Value.symbolsAll items) s i t j)
    (m n : Nat) :
    InStep (Related (Counterparts P r)) (evalItems .dynamic m ev items i) s
      (evalItems .lexical n ev' items j) t := by
  cases items with
  | nil => exact .throw _ hl.nextId_eq
  | cons head tail =>
    have application := inStep_evalApplication hev hlocal hlocal' hl m n
    cases head with
    | sym x =>
      have htail := hl.mono (List.subset_cons_self x (Value.symbolsAll tail))
      simp only [evalItems]
      cases SpecialForm.ofSymbol? x with
      | none => exact application
      | some form =>
        cases form with
        | conditional => exact inStep_evalIf hev hlocal hlocal' htail
        | definition => exact inStep_evalDefun _ _ tail hl.nextId_eq
        | format => exact inStep_evalFormat hev htail _ _
    | _ => exact application

include hev hlocal hlocal' in
/-- One step of evaluation under both modes. -/
theorem step_lockstep (m n : Nat) :
    Evaluator.Lockstep P r (step .dynamic m ev) (step .lexical n ev') := by
  intro expr s i t j hl
  cases expr with
  | list items => exact inStep_evalItems hev hlocal hlocal' hl m n
  | tuple items => exact inStep_evalItems hev hlocal hlocal' hl m n
  | sym x => exact .findSymbol (hl.mentioned x (.head _)) hl.nextId_eq
  | int n => exact .pure (.atom rfl) hl.nextId_eq
  | float x => exact .pure (.atom rfl) hl.nextId_eq
  | bool b => exact .pure (.atom rfl) hl.nextId_eq
  | nothing => exact inStep_showing (fun _ => rfl) _ m n hl.nextId_eq
  | str t => exact inStep_showing (fun _ => rfl) _ m n hl.nextId_eq
  | builtin b => exact inStep_showing (fun _ => rfl) _ m n hl.nextId_eq
  | function id name params body scope => exact inStep_showing (fun _ => rfl) _ m n hl.nextId_eq

end Steps

/-- **Both scoping modes stay in step**, within any two rooms. -/
theorem nestedWithin_lockstep (P : List Symbol) (r : ScopeId) (m n taken : Nat) :
    Evaluator.Lockstep P r (nestedWithin .dynamic m taken) (nestedWithin .lexical n taken) := by
  -- by both rooms; a side without room is out of the comparison
  induction m generalizing n taken with
  | zero => exact fun expr s i t j hl h _ => absurd rfl h
  | succ m ih =>
    cases n with
    | zero => exact fun expr s i t j hl _ h => absurd rfl h
    | succ n =>
      cases taken with
      | zero =>
        exact step_lockstep (ih n) (nestedWithin_isLocal .dynamic m)
          (nestedWithin_isLocal .lexical n) m n
      | succ taken => exact ih n taken

end SmallLisp
