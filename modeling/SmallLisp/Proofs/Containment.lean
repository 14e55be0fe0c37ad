import Mathlib.Logic.Relation
import SmallLisp.Proofs.Programs
import SmallLisp.Proofs.ScopingModes
import SmallLisp.Proofs.Store.Functions

/-!
# Errors of programs

A session that begins with a root scope and evaluates what is read from texts never meets a value
of the surrounding program. The functions that it binds have programs as bodies, its built-in
procedures are those of root scopes, and its lists and tuples hold numbers that can be written out.
So the errors of its evaluations are errors of the language, with one exception: an integer with too
many digits cannot be written into the template of a format form. Errors of binding do not occur at
all, since a call has as many arguments as parameters before it binds them, and parameters are
symbols.

## Main definitions

* `Store.Native`: a store in which all scopes from some place on bind values of programs only
* `Evaluation`, `Evaluation.Calls`: evaluations, and those that they call for
* `Evaluation.Overfills`: a format form whose value has too many digits for its template
* `Contained`: computations that keep stores native and fail in the allowed ways only
* `Store.Programmed`: the stores that programs lead to from a root scope
* `applyChecked`, `evalDefunChecked`: calls and definitions by operations that check what they bind

## Main results

* `nestedWithin_contained`: evaluation is contained
* `applyFunction_eq_checked`, `evalDefun_eq_checked`: the checks never fail
* `errors_contained`: the errors of programs
-/

namespace SmallLisp

open StoreM

/-! ## Stores with values of programs only -/

/-- The body of the function is a program, and it captures a scope from `base` on, or none. -/
def FunctionData.Native (base : ScopeId) (f : FunctionData) : Prop :=
  f.body.isProgram = true ∧ ∀ d, f.scope = some d → base ≤ d

/-- The value is one as programs make it from the scope `base` on. -/
abbrev Value.NativeFrom (base : ScopeId) (v : Value) : Prop :=
  v.Native (FunctionData.Native base)

/-- The scope lies within one from `base` on, or within none, and binds values of programs. -/
structure Scope.Native (base : ScopeId) (sc : Scope) : Prop where
  outer_ge : ∀ o, sc.outer = some o → base ≤ o
  bindings : ∀ b ∈ sc.bindings, b.2.NativeFrom base

/-- All scopes from `base` on lie within each other and bind values of programs. -/
structure Store.Native (base : ScopeId) (s : Store) : Prop where
  base_le : base ≤ s.scopes.size
  scope : ∀ (i : ScopeId) (sc : Scope), base ≤ i → s.scopes[i]? = some sc → sc.Native base

section Native

variable {base : ScopeId} {s : Store} {i : ScopeId}

theorem Scope.Native.put {sc : Scope} (h : sc.Native base) (x : Symbol) {v : Value}
    (hv : v.NativeFrom base) : (sc.put x v).Native base where
  outer_ge := h.outer_ge
  bindings b hb := by
    rcases Scope.mem_putBinding hb with rfl | hb
    · exact hv
    · exact h.bindings b hb

theorem Scope.Native.putAll {sc : Scope} (h : sc.Native base) (xs : List Symbol)
    {vs : List Value} (hvs : ∀ v ∈ vs, v.NativeFrom base) : (sc.putAll xs vs).Native base :=
  putAll_induction h xs fun _ x v hv hsc => hsc.put x (hvs v hv)

theorem Scope.native_empty {outer : Option ScopeId} (h : ∀ o, outer = some o → base ≤ o) :
    (⟨[], outer⟩ : Scope).Native base :=
  ⟨h, List.forall_mem_nil _⟩

namespace Store.Native

theorem push (h : s.Native base) {sc : Scope} (hsc : sc.Native base) : (s.push sc).Native base where
  base_le := by
    rw [size_push]
    exact Nat.le_succ_of_le h.base_le
  scope j sc' hj hsc' := by
    rw [Store.push, Array.getElem?_push] at hsc'
    split at hsc'
    · cases hsc'
      exact hsc
    · exact h.scope j sc' hj hsc'

theorem modify (h : s.Native base) {f : Scope → Scope}
    (hf : ∀ sc, sc.Native base → (f sc).Native base) : (s.modify i f).Native base where
  base_le := by
    rw [size_modify]
    exact h.base_le
  scope j sc' hj hsc' := by
    by_cases hji : j = i
    · subst hji
      rw [Store.modify, Array.getElem?_modify, if_pos rfl, Option.map_eq_some_iff] at hsc'
      obtain ⟨sc, hsc, rfl⟩ := hsc'
      exact hf sc (h.scope j sc hj hsc)
    · rw [scopes_modify_of_ne f hji] at hsc'
      exact h.scope j sc' hj hsc'

theorem withNextId (h : s.Native base) (n : Nat) : ({ s with nextId := n } : Store).Native base :=
  ⟨h.base_le, h.scope⟩

/-- Look-ups from a native scope on find native values, as they never go before `base`. -/
theorem findFrom (h : s.Native base) (hi : base ≤ i) {x : Symbol} {fuel : Nat} {v : Value}
    (hv : s.findFrom x fuel i = some v) : v.NativeFrom base := by
  induction fuel generalizing i with
  | zero => cases hv
  | succ fuel ih =>
    cases hsc : s.scopes[i]? with
    | none => simp [Store.findFrom, hsc] at hv
    | some sc =>
      have hnative := h.scope i sc hi hsc
      cases hget : sc.get? x with
      | some w =>
        simp only [Store.findFrom, hsc, hget, Option.some.injEq] at hv
        subst hv
        exact hnative.bindings _ (Store.mem_of_getBinding? hget)
      | none =>
        cases houter : sc.outer with
        | none => simp [Store.findFrom, hsc, hget, houter] at hv
        | some o =>
          simp only [Store.findFrom, hsc, hget, houter] at hv
          exact ih (hnative.outer_ge o houter) hv

end Store.Native

end Native

/-! ## Evaluations within evaluations -/

/-- An evaluation of a value in a scope of a store, within a room of which some places are taken
first. -/
structure Evaluation where
  room : Nat
  taken : Nat
  expr : Value
  scope : ScopeId
  store : Store

namespace Evaluation

/-- The evaluation of a value in a new scope within the scope `i`. -/
def inChild (room taken : Nat) (expr : Value) (i : ScopeId) (s : Store) : Evaluation :=
  ⟨room, taken, expr, s.scopes.size, s.push ⟨[], some i⟩⟩

/-- The evaluations that an evaluation calls for: one that begins when a place is taken, or one of
a part of the value that is evaluated, once the parts before it have their values. -/
inductive Calls (mode : Scoping) : Evaluation → Evaluation → Prop
  | place {room taken : Nat} {expr : Value} {i : ScopeId} {s : Store} :
      Calls mode ⟨room + 1, taken + 1, expr, i, s⟩ ⟨room, taken, expr, i, s⟩
  | head {room : Nat} {expr head : Value} {tail : List Value} {i : ScopeId} {s : Store}
      (form : expr.formItems? = some (head :: tail))
      (ordinary : ∀ x, head = .sym x → SpecialForm.ofSymbol? x = none) :
      Calls mode ⟨room + 1, 0, expr, i, s⟩ (inChild room headPlaces head i s)
  | argument {room : Nat} {expr head f arg : Value} {before rest vs : List Value} {i : ScopeId}
      {s s₁ s₂ : Store} (form : expr.formItems? = some (head :: (before ++ arg :: rest)))
      (ordinary : ∀ x, head = .sym x → SpecialForm.ofSymbol? x = none)
      (headValue : evalInChild (nestedWithin mode room headPlaces) head i s = .ok f s₁)
      (argValues : evalEach (nestedWithin mode room argumentPlaces) i before s₁ = .ok vs s₂) :
      Calls mode ⟨room + 1, 0, expr, i, s⟩ (inChild room argumentPlaces arg i s₂)
  /-- The body of a closure runs in a new scope within the captured one. -/
  | closure {room id : Nat} {expr head body : Value} {tail args : List Value} {name : Symbol}
      {params : List Symbol} {i defining : ScopeId} {s s₁ s₂ : Store}
      (form : expr.formItems? = some (head :: tail))
      (ordinary : ∀ x, head = .sym x → SpecialForm.ofSymbol? x = none)
      (headValue : evalInChild (nestedWithin mode room headPlaces) head i s =
        .ok (.function id name params body (some defining)) s₁)
      (argValues : evalEach (nestedWithin mode room argumentPlaces) i tail s₁ = .ok args s₂)
      (arity : args.length = params.length) :
      Calls mode ⟨room + 1, 0, expr, i, s⟩ ⟨room, bodyPlaces, body, s₂.scopes.size,
        s₂.push (Scope.putAll ⟨[], some defining⟩ params args)⟩
  /-- The body of any other function runs in a new scope within that of the call. -/
  | function {room id : Nat} {expr head body : Value} {tail args : List Value} {name : Symbol}
      {params : List Symbol} {i : ScopeId} {s s₁ s₂ : Store}
      (form : expr.formItems? = some (head :: tail))
      (ordinary : ∀ x, head = .sym x → SpecialForm.ofSymbol? x = none)
      (headValue : evalInChild (nestedWithin mode room headPlaces) head i s =
        .ok (.function id name params body none) s₁)
      (argValues : evalEach (nestedWithin mode room argumentPlaces) i tail s₁ = .ok args s₂)
      (arity : args.length = params.length) :
      Calls mode ⟨room + 1, 0, expr, i, s⟩
        (inChild room bodyPlaces body i (s₂.modify i (·.putAll params args)))
  | condition {room : Nat} {expr condition thenPart elsePart : Value} {x : Symbol} {i : ScopeId}
      {s : Store} (form : expr.formItems? = some [.sym x, condition, thenPart, elsePart])
      (special : SpecialForm.ofSymbol? x = some .conditional) :
      Calls mode ⟨room + 1, 0, expr, i, s⟩ (inChild room partPlaces condition i s)
  | thenBranch {room : Nat} {expr condition thenPart elsePart v : Value} {x : Symbol} {i : ScopeId}
      {s s₁ : Store} (form : expr.formItems? = some [.sym x, condition, thenPart, elsePart])
      (special : SpecialForm.ofSymbol? x = some .conditional)
      (conditionValue : evalInChild (nestedWithin mode room partPlaces) condition i s = .ok v s₁)
      (chosen : v ≠ .bool false) :
      Calls mode ⟨room + 1, 0, expr, i, s⟩ (inChild room partPlaces thenPart i s₁)
  | elseBranch {room : Nat} {expr condition thenPart elsePart : Value} {x : Symbol} {i : ScopeId}
      {s s₁ : Store} (form : expr.formItems? = some [.sym x, condition, thenPart, elsePart])
      (special : SpecialForm.ofSymbol? x = some .conditional)
      (conditionValue : evalInChild (nestedWithin mode room partPlaces) condition i s =
        .ok (.bool false) s₁) :
      Calls mode ⟨room + 1, 0, expr, i, s⟩ (inChild room partPlaces elsePart i s₁)
  | fill {room : Nat} {expr destination fill : Value} {parts : List Value} {x : Symbol}
      {i : ScopeId} {s : Store} (form : expr.formItems? = some (.sym x :: destination :: parts))
      (special : SpecialForm.ofSymbol? x = some .format)
      (last : (splitFill parts).2 = some fill) :
      Calls mode ⟨room + 1, 0, expr, i, s⟩ (inChild room partPlaces fill i s)

/-- The evaluation is that of a format form, the last part of which has a value that cannot be
written out. -/
inductive Overfills (mode : Scoping) : Evaluation → Prop
  | intro {room : Nat} {expr destination fill v : Value} {parts : List Value} {x : Symbol}
      {i : ScopeId} {s s₁ : Store}
      (form : expr.formItems? = some (.sym x :: destination :: parts))
      (special : SpecialForm.ofSymbol? x = some .format)
      (last : (splitFill parts).2 = some fill)
      (fillValue : evalInChild (nestedWithin mode room partPlaces) fill i s = .ok v s₁)
      (unprintable : v.print (room - partPlaces) = .error .digitLimit) :
      Overfills mode ⟨room + 1, 0, expr, i, s⟩

/-- The evaluation, or one that it calls for on the way, is that of a format form whose value cannot
be written out. -/
def ReachesOverfill (mode : Scoping) (e : Evaluation) : Prop :=
  ∃ e', Relation.ReflTransGen (Calls mode) e e' ∧ Overfills mode e'

/-- An evaluation that overfills reaches an overfilling, itself. -/
theorem Overfills.reaches {mode : Scoping} {e : Evaluation} (h : Overfills mode e) :
    e.ReachesOverfill mode :=
  ⟨e, .refl, h⟩

theorem Calls.reaches {mode : Scoping} {e e' : Evaluation} (h : Calls mode e e')
    (he' : e'.ReachesOverfill mode) : e.ReachesOverfill mode := by
  obtain ⟨last, hreach, hlast⟩ := he'
  exact ⟨last, .head h hreach, hlast⟩

end Evaluation

/-! ## Contained computations -/

/-- A list or tuple of numbers that can be written out can be shown in an error, if there is room.
-/
theorem Error.allowed_notApplicable {v : Value} {vs : List Value} {p : FunctionData → Prop}
    (h : v = .list vs ∨ v = .tuple vs) (hv : v.Native p) (room : Nat) :
    (Error.showing (v.inspect room) .notApplicable).Allowed := by
  have hitems (hvs : ∀ w ∈ vs, w.isShortNumber = true) (n : Nat) :
      Value.renderAll .inspected n vs ≠ .error .digitLimit :=
    Value.renderAll_ne_digitLimit (fun w hw => Value.isProgram_of_isShortNumber (hvs w hw)) n
  refine allowed_showing ?_ fun _ => isProper_of_kind rfl
  rcases h with rfl | rfl
  all_goals
    rw [Value.inspect, Value.render]
    split
    · nofun
    · exact mt map_eq_error_iff.mp (hitems hv _)

/-- The computation keeps the store native and gives only values in `Q`. It fails with an allowed
error, or with one about too many digits if `B` holds. -/
structure Contained {α : Type} (base : ScopeId) (Q : α → Prop) (B : Prop) (c : StoreM α)
    (s : Store) : Prop where
  native : (after c s).Native base
  result : ∀ a, outcome c s = .ok a → Q a
  error : ∀ e, outcome c s = .error e → e.Allowed ∨ e = .digitLimit ∧ B

namespace Contained

variable {α β : Type} {base : ScopeId} {Q : α → Prop} {Q' : β → Prop} {B : Prop} {s : Store}

theorem ofResult (hs : s.Native base) {r : Except Error α} (hr : ∀ a, r = .ok a → Q a)
    (he : ∀ e, r = .error e → e.Allowed ∨ e = .digitLimit ∧ B) :
    Contained base Q B (StoreM.ofResult r) s where
  native := by rwa [after_ofResult]
  result := by rwa [outcome_ofResult]
  error := by rwa [outcome_ofResult]

theorem pure (hs : s.Native base) {a : α} (ha : Q a) : Contained base Q B (Pure.pure a) s := by
  refine ofResult (r := .ok a) hs ?_ ?_
  · rintro _ ⟨⟩
    exact ha
  · rintro _ ⟨⟩

theorem throw (hs : s.Native base) {e : Error} (he : e.Allowed) :
    Contained base Q B (MonadExcept.throw e) s := by
  refine ofResult (r := .error e) hs ?_ ?_
  · rintro _ ⟨⟩
  · rintro _ ⟨⟩
    exact .inl he

theorem bind {c : StoreM α} {f : α → StoreM β} (h : Contained base Q B c s)
    (hf : ∀ a, outcome c s = .ok a → Q a → Contained base Q' B (f a) (after c s)) :
    Contained base Q' B (c >>= f) s := by
  cases hc : outcome c s with
  | error e =>
    refine ⟨?_, ?_, ?_⟩
    · rw [after_bind_error hc]
      exact h.native
    · rw [outcome_bind, hc]
      rintro _ ⟨⟩
    · rw [outcome_bind, hc]
      rintro _ ⟨⟩
      exact h.error e hc
  | ok a =>
    obtain ⟨hnative, hresult, herror⟩ := hf a hc (h.result a hc)
    refine ⟨?_, ?_, ?_⟩
    · rwa [after_bind_ok hc]
    · rwa [outcome_bind, hc]
    · rwa [outcome_bind, hc]

theorem mono {B' : Prop} {c : StoreM α} (h : Contained base Q B c s) (hB : B → B') :
    Contained base Q B' c s where
  native := h.native
  result := h.result
  error e he := (h.error e he).imp_right (And.imp_right hB)

theorem findSymbol (hs : s.Native base) {i : ScopeId} (hi : base ≤ i) (x : Symbol) :
    Contained base (Value.NativeFrom base) B (StoreM.findSymbol i x) s := by
  cases hv : s.find? i x with
  | none =>
    refine ⟨?_, ?_, ?_⟩ <;> simp only [outcome, after, StoreM.findSymbol, hv]
    · exact hs
    · rintro _ ⟨⟩
    · rintro _ ⟨⟩
      exact .inl (.inl (Error.isProper_of_kind rfl))
  | some v =>
    refine ⟨?_, ?_, ?_⟩ <;> simp only [outcome, after, StoreM.findSymbol, hv]
    · exact hs
    · rintro _ ⟨⟩
      exact hs.findFrom hi hv
    · rintro _ ⟨⟩

end Contained

/-! ## Steps of evaluation -/

/-- Evaluations within the room are contained: they fail for too many digits only if a format form
on the way does. -/
def ContainedWithin (mode : Scoping) (base : ScopeId) (room : Nat) : Prop :=
  ∀ (taken : Nat) (expr : Value) (i : ScopeId) (s : Store), expr.isProgram = true →
    s.Native base → base ≤ i →
    Contained base (Value.NativeFrom base)
      (Evaluation.ReachesOverfill mode ⟨room, taken, expr, i, s⟩)
      (nestedWithin mode room taken expr i) s

section Steps

open Evaluation (ReachesOverfill Calls Overfills inChild)

variable {mode : Scoping} {base : ScopeId} {room : Nat} (hev : ContainedWithin mode base room)
  {expr : Value} {i : ScopeId} {s : Store} (hs : s.Native base) (hi : base ≤ i)

include hev hs hi

omit hi in
/-- An evaluation in a new scope. -/
theorem contained_inNewScope {sc : Scope} (hsc : sc.Native base) {taken : Nat} {part : Value}
    (hpart : part.isProgram = true) {B : Prop}
    (hB : ReachesOverfill mode ⟨room, taken, part, s.scopes.size, s.push sc⟩ → B) :
    Contained base (Value.NativeFrom base) B
      (pushScope sc >>= nestedWithin mode room taken part) s := by
  obtain ⟨hnative, hresult, herror⟩ :=
    (hev taken part s.scopes.size _ hpart (hs.push hsc) hs.base_le).mono hB
  exact ⟨hnative, hresult, herror⟩

theorem contained_evalInChild {taken : Nat} {part : Value} (hpart : part.isProgram = true)
    {B : Prop} (hB : (inChild room taken part i s).ReachesOverfill mode → B) :
    Contained base (Value.NativeFrom base) B
      (evalInChild (nestedWithin mode room taken) part i) s := by
  refine contained_inNewScope hev hs (Scope.native_empty ?_) hpart hB
  rintro o ⟨⟩
  exact hi

theorem contained_evalEach {taken : Nat} {parts : List Value}
    (hparts : ∀ v ∈ parts, v.isProgram = true) {B : Prop}
    (hB : ∀ before part rest vs s₁, parts = before ++ part :: rest →
      evalEach (nestedWithin mode room taken) i before s = .ok vs s₁ →
      (inChild room taken part i s₁).ReachesOverfill mode → B) :
    Contained base (fun vs => ∀ v ∈ vs, v.NativeFrom base) B
      (evalEach (nestedWithin mode room taken) i parts) s := by
  induction parts generalizing s with
  | nil => exact .pure hs (List.forall_mem_nil _)
  | cons part rest ih =>
    rw [List.forall_mem_cons] at hparts
    have hfirst := contained_evalInChild hev hs hi hparts.1 (hB [] part rest [] s rfl rfl)
    refine hfirst.bind fun v hvalue hv => ?_
    have hrest := ih hfirst.native hparts.2 fun before next others vs s₁ heq hbefore => by
      refine hB (part :: before) next others (v :: vs) s₁ (congrArg (part :: ·) heq) ?_
      rw [evalEach, bind_of_eq_ok (eq_ok_iff.mpr ⟨hvalue, rfl⟩), bind_of_eq_ok hbefore]
      rfl
    exact hrest.bind fun vs _ hvs => .pure hrest.native (List.forall_mem_cons.mpr ⟨hv, hvs⟩)

/-! ### Special forms -/

variable {x : Symbol} {tail : List Value} (form : expr.formItems? = some (.sym x :: tail))
  (htail : ∀ v ∈ tail, v.isProgram = true)

include form htail

theorem contained_evalIf (special : SpecialForm.ofSymbol? x = some .conditional) :
    Contained base (Value.NativeFrom base) (ReachesOverfill mode ⟨room + 1, 0, expr, i, s⟩)
      (evalIf (nestedWithin mode room) tail i) s := by
  match tail with
  | [condition, thenPart, elsePart] =>
    have hcondition := contained_evalInChild hev hs hi (htail condition (by simp))
      (Calls.condition form special).reaches
    refine hcondition.bind fun v hvalue _ => ?_
    have hvalue := eq_ok_iff.mpr ⟨hvalue, rfl⟩
    split
    · exact contained_evalInChild hev hcondition.native hi (htail elsePart (by simp))
        (Calls.elseBranch form special hvalue).reaches
    · rename_i hne
      exact contained_evalInChild hev hcondition.native hi (htail thenPart (by simp))
        (Calls.thenBranch form special hvalue hne).reaches
  | [] => exact .throw hs (.inl (Error.isProper_of_kind rfl))
  | [_] => exact .throw hs (.inl (Error.isProper_of_kind rfl))
  | [_, _] => exact .throw hs (.inl (Error.isProper_of_kind rfl))
  | _ :: _ :: _ :: _ :: _ => exact .throw hs (.inl (Error.isProper_of_kind rfl))

/-- Only the value of the last part of a format form can have too many digits. -/
theorem contained_evalFormat (special : SpecialForm.ofSymbol? x = some .format) :
    Contained base (Value.NativeFrom base) (ReachesOverfill mode ⟨room + 1, 0, expr, i, s⟩)
      (evalFormat (room - partPlaces) (nestedWithin mode room) tail i) s := by
  cases tail with
  | nil => exact .throw hs (.inl (Error.isProper_of_kind rfl))
  | cons destination parts =>
    rw [List.forall_mem_cons] at htail
    have hwords := templateText_ne_digitLimit htail.2 (room - partPlaces)
    simp only [evalFormat]
    cases htemplate : templateText (room - partPlaces) (splitFill parts).1 with
    | error fault =>
      cases fault with
      | digitLimit => exact absurd htemplate hwords
      | stackExhausted => exact .throw hs (.inl (Error.isProper_of_kind rfl))
    | ok template =>
      cases hlast : (splitFill parts).2 with
      | none => exact .pure hs trivial
      | some fill =>
        have hfill := contained_evalInChild hev hs hi (htail.2 fill (mem_of_splitFill hlast))
          (Calls.fill form special hlast).reaches
        refine hfill.bind fun v hvalue _ => ?_
        unfold filled
        cases hprint : v.print (room - partPlaces) with
        | ok t => exact .pure hfill.native trivial
        | error fault =>
          cases fault with
          | stackExhausted => exact .throw hfill.native (.inl (Error.isProper_of_kind rfl))
          | digitLimit =>
            refine .ofResult hfill.native (by rintro _ ⟨⟩) ?_
            rintro _ ⟨⟩
            exact .inr ⟨rfl,
              (Overfills.intro form special hlast (eq_ok_iff.mpr ⟨hvalue, rfl⟩) hprint).reaches⟩

omit hev form in
/-- Definitions are contained, and do not overfill anything. -/
theorem contained_evalDefun {B : Prop} (free : Nat) :
    Contained base (Value.NativeFrom base) B (evalDefun mode free tail i) s := by
  simp only [evalDefun]
  cases hd : Definition.ofParts free tail with
  | error e => exact .throw hs (Definition.ofParts_allowed htail hd)
  | ok d =>
    have hbody : d.body.isProgram = true := by
      refine htail d.body ?_
      rw [Definition.ofParts_eq_ok_iff.mp hd]
      simp
    have hfunction : Value.NativeFrom base
        (.function s.nextId d.name d.params d.body (mode.captured i)) := by
      refine ⟨hbody, fun c hc => ?_⟩
      cases mode with
      | dynamic => cases hc
      | lexical =>
        cases hc
        exact hi
    refine ⟨?_, ?_, ?_⟩
    · exact (hs.withNextId (s.nextId + 1)).modify fun sc hsc => hsc.put d.name hfunction
    · rintro _ ⟨⟩
      exact trivial
    · rintro _ ⟨⟩

end Steps

/-! ### Applications -/

section Applications

open Evaluation (ReachesOverfill Calls)

variable {mode : Scoping} {base : ScopeId} {room : Nat} (hev : ContainedWithin mode base room)
  {expr : Value} {i : ScopeId} {s : Store} (hs : s.Native base) (hi : base ≤ i)

theorem contained_bindSymbols {s : Store} (hs : s.Native base) (i : ScopeId) (xs : List Symbol)
    {vs : List Value} (hvs : ∀ v ∈ vs, v.NativeFrom base) {B : Prop} :
    Contained base (fun _ => True) B (bindSymbols i xs vs) s where
  native := hs.modify fun _ hsc => hsc.putAll xs hvs
  result _ _ := trivial
  error := by rintro _ ⟨⟩

include hev hs hi

/-- A call of a function in the store after its head and its arguments. -/
theorem contained_applyFunction {f : FunctionData} (hf : f.Native base) {args : List Value}
    (hargs : ∀ v ∈ args, v.NativeFrom base) {B : Prop}
    (hclosure : ∀ d, f.scope = some d → args.length = f.params.length →
      ReachesOverfill mode ⟨room, bodyPlaces, f.body, s.scopes.size,
        s.push (Scope.putAll ⟨[], some d⟩ f.params args)⟩ → B)
    (hfunction : f.scope = none → args.length = f.params.length →
      (Evaluation.inChild room bodyPlaces f.body i
        (s.modify i (·.putAll f.params args))).ReachesOverfill mode → B) :
    Contained base (Value.NativeFrom base) B
      (applyFunction (nestedWithin mode room) f.name f.params f.body f.scope args i) s := by
  obtain ⟨hbody, hcaptured⟩ := hf
  by_cases harity : args.length = f.params.length
  · cases hscope : f.scope with
    | none =>
      simp only [applyFunction, harity, ne_eq, not_true_eq_false, if_false]
      have hbound := contained_bindSymbols (B := B) hs i f.params hargs
      refine hbound.bind fun _ _ _ => ?_
      exact contained_evalInChild hev hbound.native hi hbody (hfunction hscope harity)
    | some d =>
      simp only [applyFunction, harity, ne_eq, not_true_eq_false, if_false]
      refine contained_inNewScope hev hs ?_ hbody (hclosure d hscope harity)
      refine (Scope.native_empty ?_).putAll f.params hargs
      rintro o ⟨⟩
      exact hcaptured d hscope
  · simp only [applyFunction, ne_eq, harity, not_false_eq_true, if_true]
    exact .throw hs (.inl (Error.isProper_of_kind rfl))

/-- Applications fail with errors of the language, or within the head, an argument or the body. -/
theorem contained_evalApplication {head : Value} {tail : List Value}
    (form : expr.formItems? = some (head :: tail))
    (ordinary : ∀ x, head = .sym x → SpecialForm.ofSymbol? x = none)
    (hhead : head.isProgram = true) (htail : ∀ v ∈ tail, v.isProgram = true) :
    Contained base (Value.NativeFrom base) (ReachesOverfill mode ⟨room + 1, 0, expr, i, s⟩)
      (evalApplication room (nestedWithin mode room) head tail i) s := by
  have hf := contained_evalInChild hev hs hi hhead (Calls.head form ordinary).reaches
  refine hf.bind fun f headValue hnative => ?_
  have headValue := eq_ok_iff.mpr ⟨headValue, rfl⟩
  have hargs := contained_evalEach hev hf.native hi htail
    fun before part rest vs s₁ heq hbefore =>
      (Calls.argument (heq ▸ form) ordinary headValue hbefore).reaches
  refine hargs.bind fun args argValues hargNative => ?_
  have argValues := eq_ok_iff.mpr ⟨argValues, rfl⟩
  have hs₂ := hargs.native
  cases f with
  | function id name params body closure =>
    refine contained_applyFunction (f := ⟨id, name, params, body, closure⟩) hev hs₂ hi hnative
      hargNative ?_ ?_
    · rintro d rfl arity
      exact (Calls.closure form ordinary headValue argValues arity).reaches
    · rintro rfl arity
      exact (Calls.function form ordinary headValue argValues arity).reaches
  | builtin b =>
    refine .ofResult hs₂ (fun v hv => b.call_native hnative hargNative hv) fun e he => ?_
    rcases b.call_error hnative he with ⟨n, rfl⟩ | ⟨fault, rfl⟩ | rfl
    · exact .inl (.inl (Error.isProper_of_kind rfl))
    · exact .inl (Error.isProper_builtin b.name fault).allowed
    · exact .inl (.inr rfl)
  | int n => exact .pure hs₂ trivial
  | float x => exact .pure hs₂ trivial
  | bool b => exact .pure hs₂ trivial
  | str t => exact .pure hs₂ trivial
  | nothing =>
    refine .throw hs₂ (Error.allowed_showing ?_ fun _ => Error.isProper_of_kind rfl)
    rw [Value.inspect, Value.render]
    split <;> nofun
  | sym x =>
    exact .throw hs₂ (Error.allowed_showing (Value.render_ne_digitLimit rfl _)
      fun _ => Error.isProper_of_kind rfl)
  | list vs => exact .throw hs₂ (Error.allowed_notApplicable (.inl rfl) hnative _)
  | tuple vs => exact .throw hs₂ (Error.allowed_notApplicable (.inr rfl) hnative _)

end Applications

/-! ## Evaluation -/

section Step

open Evaluation (ReachesOverfill)

variable {mode : Scoping} {base : ScopeId} {room : Nat} (hev : ContainedWithin mode base room)

include hev

/-- Forms of programs are contained, whatever is their head. -/
theorem contained_evalItems {expr : Value} {items : List Value}
    (form : expr.formItems? = some items) (hitems : ∀ v ∈ items, v.isProgram = true)
    {i : ScopeId} {s : Store} (hs : s.Native base) (hi : base ≤ i) :
    Contained base (Value.NativeFrom base) (ReachesOverfill mode ⟨room + 1, 0, expr, i, s⟩)
      (evalItems mode room (nestedWithin mode room) items i) s := by
  cases items with
  | nil => exact .throw hs (.inl (Error.isProper_of_kind rfl))
  | cons head tail =>
    rw [List.forall_mem_cons] at hitems
    obtain ⟨hhead, htail⟩ := hitems
    rcases ordinary_or_special head with ordinary | ⟨x, special, rfl, hspecial⟩
    · rw [evalItems_of_ordinary _ ordinary]
      exact contained_evalApplication hev hs hi form ordinary hhead htail
    · simp only [evalItems, hspecial]
      cases special with
      | conditional => exact contained_evalIf hev hs hi form htail hspecial
      | definition => exact contained_evalDefun hs hi htail _
      | format => exact contained_evalFormat hev hs hi form htail hspecial

/-- **A step of evaluation is contained.** -/
theorem contained_step {expr : Value} (hexpr : expr.isProgram = true) {i : ScopeId} {s : Store}
    (hs : s.Native base) (hi : base ≤ i) :
    Contained base (Value.NativeFrom base) (ReachesOverfill mode ⟨room + 1, 0, expr, i, s⟩)
      (step mode room (nestedWithin mode room) expr i) s := by
  cases expr with
  | int n => exact .pure hs trivial
  | float x => exact .pure hs trivial
  | sym x => exact .findSymbol hs hi x
  | list items =>
    exact contained_evalItems hev rfl (Value.isProgram_of_formItems? hexpr rfl) hs hi
  | _ => cases hexpr

end Step

/-- **Evaluation is contained**, under either mode and within any room. -/
theorem nestedWithin_contained (mode : Scoping) (base : ScopeId) (room : Nat) :
    ContainedWithin mode base room := by
  induction room with
  | zero => exact fun taken expr i s _ hs _ => .throw hs (.inl (Error.isProper_of_kind rfl))
  | succ room ih =>
    intro taken expr i s hexpr hs hi
    cases taken with
    | zero => exact contained_step ih hexpr hs hi
    | succ taken => exact (ih taken expr i s hexpr hs hi).mono Evaluation.Calls.place.reaches

/-- How evaluation fails in a native store, as it is reported. -/
theorem Store.Native.evaluate_error {base : ScopeId} {s : Store} (hs : s.Native base) {expr : Value}
    (hexpr : expr.isProgram = true) {i : ScopeId} (hi : base ≤ i) {mode : Scoping} {room : Nat}
    {e : Error} (he : outcome (evaluate mode room expr i) s = .error e) :
    e.IsProper ∨ e = .outOfMemory ∨
      e = .digitLimit ∧ Evaluation.ReachesOverfill mode ⟨room, 0, expr, i, s⟩ := by
  have hcontained := nestedWithin_contained mode base room 0 expr i s hexpr hs hi
  rw [outcome_evaluate] at he
  cases hout : outcome (evalWithin mode room expr i) s with
  | ok v =>
    rw [hout] at he
    cases he
  | error e' =>
    rw [hout] at he
    cases he
    rcases hcontained.error e' hout with (hproper | rfl) | ⟨rfl, hreach⟩
    · exact .inl hproper
    · exact .inr (.inl rfl)
    · exact .inr (.inr ⟨rfl, hreach⟩)

/-! ## The stores of programs -/

/-- The stores that evaluations of what is read from texts lead to, from a root scope with the
built-in names. -/
inductive Store.Programmed (root : ScopeId) : Store → Prop
  | registered (s : Store) (h : s.scopes.size = root) :
      Programmed root ((s.push ⟨[], none⟩).register root)
  | evaluated {s : Store} (hs : Programmed root s) (mode : Scoping) (room : Nat) {form : Value}
      (hform : Parsed form) {i : ScopeId} (hi : root ≤ i) :
      Programmed root (after (evaluate mode room form i) s)

/-- Whether an entry is a procedure of the language, or a constant that holds no other values. -/
def Entry.isNative : Entry → Bool
  | .procedure (.extension _) _ => false
  | .procedure _ _ => true
  | .constant v => v.isScalar

/-- The built-in names stand for native values. -/
theorem native_of_mem_entries {e : String × Entry} (he : e ∈ entries) (id : Nat)
    (p : FunctionData → Prop) : (e.2.value e.1 id).Native p := by
  have hall : (entries.all fun e => e.2.isNative) = true := by
    decide
  have hentry := List.all_eq_true.mp hall e he
  obtain ⟨name, entry⟩ := e
  cases entry with
  | procedure operation arity =>
    rintro extension rfl
    cases hentry
  | constant v => exact Value.native_of_isScalar hentry

/-- A store stays native when the built-in names are bound. -/
theorem Store.native_register {base : ScopeId} {s : Store} (hs : s.Native base) (i : ScopeId) :
    (s.register i).Native base := by
  refine List.foldlRecOn (motive := fun s : Store => s.Native base) entries _ hs
    fun s hs e he => ?_
  have hput := hs.modify (i := i) fun sc hsc =>
    hsc.put ⟨e.1⟩ (native_of_mem_entries he s.nextId (FunctionData.Native base))
  exact hput.withNextId (s.nextId + 1)

/-- **Programs keep the store native.** -/
theorem Store.Programmed.native {root : ScopeId} {s : Store} (h : s.Programmed root) :
    s.Native root := by
  induction h with
  | registered s h =>
    subst h
    refine native_register ⟨by simp [Store.push], fun j sc hj hsc => ?_⟩ _
    rw [Store.push, Array.getElem?_push] at hsc
    split at hsc
    · cases hsc
      exact Scope.native_empty (by rintro _ ⟨⟩)
    · exact absurd (Array.getElem?_eq_some_iff.mp hsc).1 (Nat.not_lt.mpr hj)
  | evaluated _ mode room hform hi ih =>
    rw [after_evaluate]
    exact (nestedWithin_contained mode root room 0 _ _ _ hform.isProgram ih hi).native

/-! ## Binding with checks -/

/-- A call that binds its parameters by the operations that check what they bind. -/
def applyChecked (room : Nat) (ev : Nested) (name : Symbol) (params : List Value) (body : Value)
    (closure : Option ScopeId) (args : List Value) (scope : ScopeId) : StoreM Value :=
  if args.length ≠ params.length then throw (.arity name.name params.length args.length)
  else
    match closure with
    | some defining => do
      let inner ← createScope room params args (some defining)
      ev bodyPlaces body inner
    | none => do
      defineEach room scope (params.zip args)
      evalInChild (ev bodyPlaces) body scope

/-- A definition that binds its name by the operation that checks what it binds. -/
def evalDefunChecked (mode : Scoping) (room : Nat) (tail : List Value) (scope : ScopeId) :
    StoreM Value := do
  let d ← ofResult (Definition.ofParts room tail)
  let id ← freshId
  define room scope (.sym d.name) (.function id d.name d.params d.body (mode.captured scope))
  pure (.str (definitionNotice d.name))

/-- **Calls never fail to bind**: they have an argument for each parameter when they come to it, and
parameters are symbols. -/
theorem applyFunction_eq_checked (room : Nat) (ev : Nested) (name : Symbol) (params : List Symbol)
    (body : Value) (closure : Option ScopeId) (args : List Value) (scope : ScopeId) :
    applyFunction ev name params body closure args scope =
      applyChecked room ev name (params.map .sym) body closure args scope := by
  unfold applyFunction applyChecked
  rw [List.length_map]
  split
  · rfl
  · rename_i harity
    cases closure with
    | some defining => simp only [createScope_map room (not_not.mp harity)]
    | none => simp only [defineEach_zip]

/-- **Definitions never fail to bind**, as their names are symbols. -/
theorem evalDefun_eq_checked (mode : Scoping) (room : Nat) (tail : List Value) (scope : ScopeId) :
    evalDefun mode room tail scope = evalDefunChecked mode room tail scope := rfl

/-! ## The errors of programs -/

/-- **The errors of programs.** A store is reached from a root scope with the built-in names by
evaluating what is read from texts, in any of its scopes. Whatever else is read and evaluated there,
under either mode and within any room, fails with an error of the language only, or because an
integer has too many digits. The latter happens only if the evaluation comes to a format form whose
last part has a value that cannot be written out. Calls and definitions bind as the operations do
that check what they bind, and the error is none of theirs. -/
theorem errors_contained {root : ScopeId} {s : Store} (hs : s.Programmed root) {expr : Value}
    (hexpr : Parsed expr) {i : ScopeId} (hi : root ≤ i) (mode : Scoping) (room : Nat) :
    (∀ e, outcome (evaluate mode room expr i) s = .error e → e ≠ .outOfMemory →
      (e.isLanguage = true ∧ e.kind ≠ .invalidSymbol) ∨
      (e = .digitLimit ∧ ∃ overfilled,
        Relation.ReflTransGen (Evaluation.Calls mode) ⟨room, 0, expr, i, s⟩ overfilled ∧
        overfilled.Overfills mode)) ∧
    (∀ (free : Nat) (ev : Nested) (name : Symbol) (params : List Symbol) (body : Value)
      (closure : Option ScopeId) (args : List Value) (scope : ScopeId),
      applyFunction ev name params body closure args scope =
        applyChecked free ev name (params.map .sym) body closure args scope) ∧
    ∀ (free : Nat) (tail : List Value) (scope : ScopeId),
      evalDefun mode free tail scope = evalDefunChecked mode free tail scope := by
  refine ⟨?_, applyFunction_eq_checked, evalDefun_eq_checked mode⟩
  intro e he hmemory
  rcases hs.native.evaluate_error hexpr.isProgram hi he with hproper | hout | hdigits
  · exact .inl hproper
  · exact absurd hout hmemory
  · exact .inr hdigits

/-- A format form that is to be filled with an integer of 4434 digits. -/
theorem errors_contained_format :
    let s : Store := (Store.empty.push ⟨[], none⟩).register 0
    let expr : Value := .list [.sym ⟨"format"⟩, .sym ⟨"t"⟩, .sym ⟨"~a"⟩,
      .list [.sym ⟨"factorial"⟩, .int 1600]]
    s.Programmed 0 ∧ Parsed expr ∧ ∃ overfilled,
      Relation.ReflTransGen (Evaluation.Calls .lexical) ⟨9, 0, expr, 0, s⟩ overfilled ∧
      overfilled.Overfills .lexical := by
  intro s expr
  let trees : List TokenTree :=
    [.node [.leaf "format", .leaf "t", .leaf "~a", .node [.leaf "factorial", .leaf "1600"]]]
  have htokens : tokenize "(format t ~a (factorial 1600))" = TokenTree.tokensAll trees := by
    decide +kernel
  have hdepths : DepthsIn (· ≤ ((9 : Nat) : Int)) 0 (TokenTree.tokensAll trees) := by
    simp [trees, Token.weight]
  have hs : s.Programmed 0 := .registered Store.empty rfl
  have hvalues : TokenTree.valueAll trees = [expr] := rfl
  have hexpr : Parsed expr :=
    ⟨9, _, _, parseAll_of_tokensAll htokens hdepths, hvalues ▸ List.mem_singleton_self expr⟩
  have herror : (outcome (evaluate .lexical 9 expr 0) s).map (fun _ => ()) =
      .error .digitLimit := by
    decide +kernel
  refine ⟨hs, hexpr, ?_⟩
  cases he : outcome (evaluate .lexical 9 expr 0) s with
  | ok v =>
    rw [he] at herror
    cases herror
  | error e =>
    rw [he] at herror
    cases herror
    have hcontained := (errors_contained hs hexpr (Nat.le_refl 0) .lexical 9).1 _ he (by decide)
    rcases hcontained with ⟨hlanguage, -⟩ | ⟨-, hreach⟩
    · cases hlanguage
    · exact hreach

end SmallLisp
