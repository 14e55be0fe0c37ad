import SmallLisp.Proofs.Store.Extension

/-!
# The frame of an evaluation

An evaluation in a scope leaves every other scope as it was. It changes the bindings of its own
scope in two cases only: a definition binds its name, and the call of a function that is not a
closure binds the parameters of the function to the arguments. What is nested in an evaluation is
evaluated in new scopes, so it never reaches a scope that was there before.

## Main definitions

* `Evaluator.IsLocal`: an evaluator that changes nothing but the bindings of its own scope
* `Rebinds`: the two cases in which an evaluation changes its own scope, with what it binds

## Main results

* `step_of_rebinds`, `step_of_not_rebinds`: one step binds just what `Rebinds` says
* `exists_modify_step`: one step binds nothing in its own scope, or what `Rebinds` says
* `nestedWithin_isLocal`: evaluation within any room is local
* `scopes_after_evalWithin`: what an evaluation does to the scopes that were there before
-/

namespace SmallLisp

open StoreM

/-! ## Evaluation in new scopes -/

/-- An evaluator that changes nothing but the bindings of the scope it evaluates in. -/
def Evaluator.IsLocal (ev : Evaluator) : Prop :=
  ∀ (expr : Value) (i : ScopeId) (s : Store), s.ChangesOnly i (after (ev expr i) s)

theorem Evaluator.IsLocal.evalInChild {ev : Evaluator} (h : ev.IsLocal) (expr : Value)
    (i : ScopeId) : Grows (evalInChild ev expr i) :=
  fun s => Store.Extends.of_push (h expr s.scopes.size (s.push ⟨[], some i⟩))

theorem Evaluator.IsLocal.evalEach {ev : Evaluator} (h : ev.IsLocal) (i : ScopeId)
    (exprs : List Value) : Grows (evalEach ev i exprs) := by
  induction exprs with
  | nil => exact .pure []
  | cons expr exprs ih =>
    refine .bind (h.evalInChild expr i) fun v => ?_
    exact .bind ih fun vs => .pure (v :: vs)

section Step

variable {ev : Nested} (hev : ∀ taken, (ev taken).IsLocal)

include hev

theorem grows_evalIf (tail : List Value) (i : ScopeId) : Grows (evalIf ev tail i) := by
  unfold evalIf
  split
  · refine .bind ((hev _).evalInChild _ i) fun c => ?_
    split
    · exact (hev _).evalInChild _ i
    · exact (hev _).evalInChild _ i
  · exact .throw _

theorem grows_evalFormat (room : Nat) (tail : List Value) (i : ScopeId) :
    Grows (evalFormat room ev tail i) := by
  unfold evalFormat
  split
  · exact .throw _
  · split
    · exact .throw _
    · exact .pure _
    · exact .bind ((hev _).evalInChild _ i) fun v => .ofResult _

/-- A closure runs in a new scope. -/
theorem grows_applyFunction_closure (name : Symbol) (params : List Symbol) (body : Value)
    (defining : ScopeId) (args : List Value) (i : ScopeId) :
    Grows (applyFunction ev name params body (some defining) args i) := by
  unfold applyFunction
  split
  · exact .throw _
  · exact fun s => Store.Extends.of_push (hev _ body s.scopes.size _)

/-- Any other function binds its parameters in the scope of the call first. -/
theorem after_applyFunction (name : Symbol) {params : List Symbol} (body : Value)
    {args : List Value} (h : args.length = params.length) (i : ScopeId) (s : Store) :
    (s.modify i (·.putAll params args)).Extends
      (after (applyFunction ev name params body none args i) s) := by
  simp only [applyFunction, h, ne_eq, not_true_eq_false, if_false]
  exact (hev bodyPlaces).evalInChild body i (s.modify i (·.putAll params args))

/-- An application of a head only adds scopes, unless it calls a function that is not a
closure. -/
theorem grows_apply (room : Nat) {head : Value} {args : List Value}
    (h : ∀ id name params body, head = .function id name params body none →
      args.length ≠ params.length) (i : ScopeId) : Grows (apply room ev head args i) := by
  cases head with
  | function id name params body closure =>
    cases closure with
    | none =>
      have hne := h id name params body rfl
      simp only [apply, applyFunction, if_pos hne]
      exact .throw _
    | some defining => exact grows_applyFunction_closure hev name params body defining args i
  | builtin b => exact .ofResult _
  | int n => exact .pure _
  | float x => exact .pure _
  | bool b => exact .pure _
  | str t => exact .pure _
  | nothing => exact .throw _
  | sym x => exact .throw _
  | list vs => exact .throw _
  | tuple vs => exact .throw _

end Step

/-! ## What an evaluation binds -/

/-- The items of a value that is evaluated as a form. -/
def Value.formItems? : Value → Option (List Value)
  | .list items => some items
  | .tuple items => some items
  | _ => none

theorem step_of_formItems {expr : Value} {items : List Value} (h : expr.formItems? = some items)
    (mode : Scoping) (room : Nat) (ev : Nested) (i : ScopeId) :
    step mode room ev expr i = evalItems mode room ev items i := by
  cases expr <;> simp_all [Value.formItems?, step]

/-- A head is either the symbol of a special form or nothing special. -/
theorem ordinary_or_special (head : Value) :
    (∀ x, head = .sym x → SpecialForm.ofSymbol? x = none) ∨
      ∃ x special, head = .sym x ∧ SpecialForm.ofSymbol? x = some special := by
  cases head with
  | sym x =>
    cases hx : SpecialForm.ofSymbol? x with
    | some special => exact .inr ⟨x, special, rfl, hx⟩
    | none =>
      left
      rintro _ ⟨⟩
      exact hx
  | _ => exact .inl nofun

/-- A head that is no special form is evaluated, and applied to the arguments. -/
theorem evalItems_of_ordinary {head : Value} (tail : List Value)
    (h : ∀ x, head = .sym x → SpecialForm.ofSymbol? x = none) (mode : Scoping) (room : Nat)
    (ev : Nested) (i : ScopeId) :
    evalItems mode room ev (head :: tail) i = evalApplication room ev head tail i := by
  cases head with
  | sym x => simp [evalItems, h x rfl]
  | _ => rfl

theorem parameters_eq_ok_iff {room : Nat} {ps : List Value} {xs : List Symbol} :
    parameters room ps = .ok xs ↔ ps = xs.map .sym := by
  induction ps generalizing xs with
  | nil => cases xs <;> simp [parameters]
  | cons p ps ih =>
    cases p with
    | sym x =>
      rw [parameters, map_eq_ok_iff]
      constructor
      · rintro ⟨ys, hys, rfl⟩
        rw [ih.mp hys, List.map_cons]
      · intro h
        obtain ⟨y, ys, rfl, hy, hys⟩ := List.map_eq_cons_iff.mp h.symm
        obtain rfl := Value.sym.inj hy
        exact ⟨ys, ih.mpr hys.symm, rfl⟩
    | _ => cases xs <;> simp [parameters]

/-- A definition has a symbol, a list of symbols and a body, and nothing else. -/
theorem Definition.ofParts_eq_ok_iff {room : Nat} {tail : List Value} {d : Definition} :
    Definition.ofParts room tail = .ok d ↔
      tail = [.sym d.name, .list (d.params.map .sym), d.body] := by
  obtain ⟨name, params, body⟩ := d
  constructor
  · intro h
    unfold Definition.ofParts at h
    split at h
    · obtain ⟨xs, hxs, hd⟩ := map_eq_ok_iff.mp h
      obtain ⟨rfl, rfl, rfl⟩ := Definition.mk.inj hd
      rw [parameters_eq_ok_iff.mp hxs]
    all_goals cases h
  · rintro rfl
    have hps : parameters room (params.map .sym) = .ok params := parameters_eq_ok_iff.mpr rfl
    simp [Definition.ofParts, hps, Except.map]

/-- A definition that is found in one room is found in any room. -/
theorem Definition.ofParts_room {m : Nat} {tail : List Value} {d : Definition}
    (h : Definition.ofParts m tail = .ok d) (n : Nat) : Definition.ofParts n tail = .ok d :=
  Definition.ofParts_eq_ok_iff.mpr (Definition.ofParts_eq_ok_iff.mp h)

/-- The cases in which an evaluation in the scope `i` changes the bindings of that scope, with the
symbols that it binds and their values. -/
inductive Rebinds (mode : Scoping) (i : ScopeId) (s : Store) :
    Nat → Value → List Symbol → List Value → Prop
  /-- A definition binds its name to the new function. -/
  | definition {room : Nat} {expr : Value} {name : Symbol} {params : List Symbol} {body : Value}
      (form : expr.formItems? =
        some [.sym ⟨"defun"⟩, .sym name, .list (params.map .sym), body]) :
      Rebinds mode i s (room + 1) expr [name]
        [.function s.nextId name params body (mode.captured i)]
  /-- A function that is not a closure binds its parameters, once the head and all arguments have
  their values and there is an argument for each parameter. -/
  | call {room : Nat} {expr head : Value} {tail : List Value} {s₁ s₂ : Store} {id : Nat}
      {name : Symbol} {params : List Symbol} {body : Value} {args : List Value}
      (form : expr.formItems? = some (head :: tail))
      (ordinary : ∀ x, head = .sym x → SpecialForm.ofSymbol? x = none)
      (headValue : evalInChild (nestedWithin mode room headPlaces) head i s =
        .ok (.function id name params body none) s₁)
      (argValues : evalEach (nestedWithin mode room argumentPlaces) i tail s₁ = .ok args s₂)
      (arity : args.length = params.length) :
      Rebinds mode i s (room + 1) expr params args

theorem SpecialForm.ofSymbol?_eq_definition_iff {x : Symbol} :
    SpecialForm.ofSymbol? x = some .definition ↔ x = ⟨"defun"⟩ := by
  constructor
  · intro h
    unfold SpecialForm.ofSymbol? at h
    split at h
    · cases h
    · split at h
      case isTrue hx => exact congrArg Symbol.mk hx
      case isFalse => split at h <;> cases h
  · rintro rfl
    rfl

/-- A definition binds its name in the scope, and changes no other. -/
theorem extends_evalDefun {room : Nat} {tail : List Value} {d : Definition}
    (h : Definition.ofParts room tail = .ok d) (mode : Scoping) (i : ScopeId) (s : Store) :
    (s.modify i (·.putAll [d.name] [.function s.nextId d.name d.params d.body
      (mode.captured i)])).Extends (after (evalDefun mode room tail i) s) := by
  simp only [evalDefun, h]
  exact fun j sc hj => hj

section Rebinding

variable {mode : Scoping} {room : Nat} {i : ScopeId} {s : Store} {expr : Value}
  (hev : ∀ taken, (nestedWithin mode room taken).IsLocal)

include hev

/-- One step extends the store with what the two cases bind. -/
theorem step_of_rebinds {xs : List Symbol} {vs : List Value}
    (h : Rebinds mode i s (room + 1) expr xs vs) :
    (s.modify i (·.putAll xs vs)).Extends
      (after (step mode room (nestedWithin mode room) expr i) s) := by
  cases h with
  | @definition _ _ name params body form =>
    rw [step_of_formItems form]
    have hd : Definition.ofParts (room - partPlaces) [.sym name, .list (params.map .sym), body] =
        .ok ⟨name, params, body⟩ := Definition.ofParts_eq_ok_iff.mpr rfl
    exact extends_evalDefun hd mode i s
  | @call _ _ head tail s₁ s₂ id name _ body _ form ordinary headValue argValues arity =>
    rw [step_of_formItems form, evalItems_of_ordinary _ ordinary]
    obtain ⟨hf, rfl⟩ := eq_ok_iff.mp headValue
    obtain ⟨hargs, rfl⟩ := eq_ok_iff.mp argValues
    have hhead := (hev headPlaces).evalInChild head i s
    have htail := (hev argumentPlaces).evalEach i tail
    rw [evalApplication, after_bind_ok hf, after_bind_ok hargs]
    exact ((hhead.trans (htail _)).modify i _).trans (after_applyFunction hev name body arity i _)

/-- An application that calls no function but closures only adds scopes. -/
theorem evalApplication_of_not_rebinds {head : Value} {tail : List Value}
    (form : expr.formItems? = some (head :: tail))
    (ordinary : ∀ x, head = .sym x → SpecialForm.ofSymbol? x = none)
    (h : ∀ xs vs, ¬ Rebinds mode i s (room + 1) expr xs vs) :
    s.Extends (after (evalApplication room (nestedWithin mode room) head tail i) s) := by
  have hhead := (hev headPlaces).evalInChild head i s
  have htail := (hev argumentPlaces).evalEach i tail
  cases hf : outcome (evalInChild (nestedWithin mode room headPlaces) head i) s with
  | error e =>
    rw [evalApplication, after_bind_error hf]
    exact hhead
  | ok f =>
    rw [evalApplication, after_bind_ok hf]
    refine hhead.trans ?_
    cases hargs : outcome (evalEach (nestedWithin mode room argumentPlaces) i tail) _ with
    | error e =>
      rw [after_bind_error hargs]
      exact htail _
    | ok args =>
      -- a call that binds something here would be the second case of `Rebinds`
      rw [after_bind_ok hargs]
      refine (htail _).trans (grows_apply hev _ ?_ i _)
      rintro id name params body rfl arity
      exact h params args
        (.call form ordinary (eq_ok_iff.mpr ⟨hf, rfl⟩) (eq_ok_iff.mpr ⟨hargs, rfl⟩) arity)

/-- In all other cases, one step only adds scopes. -/
theorem step_of_not_rebinds (h : ∀ xs vs, ¬ Rebinds mode i s (room + 1) expr xs vs) :
    s.Extends (after (step mode room (nestedWithin mode room) expr i) s) := by
  cases hform : expr.formItems? with
  | none =>
    cases expr with
    | list items => cases hform
    | tuple items => cases hform
    | sym x => exact Grows.findSymbol i x s
    | _ => exact .refl s
  | some items =>
    rw [step_of_formItems hform]
    match items, hform with
    | [], _ => exact .refl s
    | head :: tail, hform =>
      rcases ordinary_or_special head with ordinary | ⟨x, special, rfl, hspecial⟩
      · rw [evalItems_of_ordinary _ ordinary]
        exact evalApplication_of_not_rebinds hev hform ordinary h
      · simp only [evalItems, hspecial]
        cases special with
        | conditional => exact grows_evalIf hev tail i s
        | format => exact grows_evalFormat hev _ tail i s
        | definition =>
          obtain rfl := SpecialForm.ofSymbol?_eq_definition_iff.mp hspecial
          cases hd : Definition.ofParts (room - partPlaces) tail with
          | ok d =>
            rw [Definition.ofParts_eq_ok_iff.mp hd] at hform
            exact absurd (.definition hform) (h _ _)
          | error e =>
            simp only [evalSpecial, evalDefun, hd]
            exact .refl s

/-- What one step binds in its own scope is nothing, or what one of the two cases binds. -/
theorem exists_modify_step (expr : Value) (i : ScopeId) (s : Store) :
    ∃ xs vs, (xs = [] ∨ Rebinds mode i s (room + 1) expr xs vs) ∧
      (s.modify i (·.putAll xs vs)).Extends
        (after (step mode room (nestedWithin mode room) expr i) s) := by
  by_cases h : ∃ xs vs, Rebinds mode i s (room + 1) expr xs vs
  · obtain ⟨xs, vs, h⟩ := h
    exact ⟨xs, vs, .inr h, step_of_rebinds hev h⟩
  · have hnot : ∀ xs vs, ¬ Rebinds mode i s (room + 1) expr xs vs := by simpa using h
    refine ⟨[], [], .inl rfl, ?_⟩
    simp only [Scope.putAll_nil, Store.modify_id]
    exact step_of_not_rebinds hev hnot

end Rebinding

/-- **Evaluation is local**: within any room, it changes nothing but the bindings of the scope it
evaluates in. -/
theorem nestedWithin_isLocal (mode : Scoping) (room taken : Nat) :
    (nestedWithin mode room taken).IsLocal := by
  -- by the room; with none left, evaluation fails at once
  induction room generalizing taken with
  | zero => exact fun expr i s => (Store.Extends.refl s).changesOnly i
  | succ room ih =>
    cases taken with
    | succ taken => exact ih taken
    | zero =>
      intro expr i s
      obtain ⟨xs, vs, -, h⟩ := exists_modify_step ih expr i s
      exact h.changesOnly_of_modify fun sc => Scope.outer_putAll sc xs vs

end SmallLisp
