import SmallLisp.Proofs.Lockstep
import SmallLisp.Session

/-!
# Closed programs under both scoping modes

A program is a list of forms that are evaluated in the root scope, one after another. It is closed
if the parameters of its definitions are mentioned only by the definitions they belong to. A closed
program gives the same under dynamic and under lexical scoping, although dynamic scoping leaves
parameters bound in the root scope, also after calls that fail.

## Main definitions

* `Value.definitionParts?`, `Value.definition?`: forms that are definitions
* `programParams`: the parameters of all definitions of a program
* `ClosedProgram`: a program that mentions parameters only where they are bound
* `Session.run`: the outcomes of the forms of a program, with the sessions after them
* `Session.afterForms`: a session after forms one after another

## Main results

* `Linked.evalWithin_plain`, `Linked.evalWithin_definition`: a form of a closed program keeps the
  root scopes linked
* `Twins.run`: sessions under both modes stay twins over a closed program
* `run_dynamic_lexical`: closed programs give the same under both modes
-/

namespace SmallLisp

open StoreM
open Value (Related)

/-! ## Closed programs -/

/-- The parts of a form that begins as a definition does. -/
def Value.definitionParts? (form : Value) : Option (List Value) :=
  match form.formItems? with
  | some (.sym x :: tail) => if x = ⟨"defun"⟩ then some tail else none
  | _ => none

/-- The definition that a form makes. It makes the same one in any room. -/
def Value.definition? (form : Value) : Option Definition :=
  form.definitionParts?.bind fun tail => (Definition.ofParts 0 tail).toOption

/-- The parameters of all definitions of a program. -/
def programParams (prog : List Value) : List Symbol :=
  (prog.filterMap Value.definition?).flatMap Definition.params

/-- A form that mentions no symbol of `P` if it is no definition, and none but its own parameters
in its body if it is one. -/
structure ClosedForm (P : List Symbol) (form : Value) : Prop where
  plain : form.definitionParts? = none → ∀ x ∈ form.symbols, x ∉ P
  body : ∀ d, form.definition? = some d → ∀ x ∈ d.body.symbols, x ∈ P → x ∈ d.params

/-- A program that mentions the parameters of its definitions only where they are bound. -/
def ClosedProgram (prog : List Value) : Prop :=
  ∀ form ∈ prog, ClosedForm (programParams prog) form

theorem Value.definitionParts?_eq_some_iff {form : Value} {tail : List Value} :
    form.definitionParts? = some tail ↔ form.formItems? = some (.sym ⟨"defun"⟩ :: tail) := by
  unfold definitionParts?
  split
  · rename_i x tail' hform
    rw [hform]
    split
    · simp_all
    · simp_all
  · rename_i hform
    constructor
    · intro h
      cases h
    · intro h
      exact absurd h (hform _ _)

theorem Value.definition?_eq_some {form : Value} {tail : List Value} {room : Nat} {d : Definition}
    (hparts : form.definitionParts? = some tail) (hd : Definition.ofParts room tail = .ok d) :
    form.definition? = some d := by
  rw [definition?, hparts, Option.bind_some, Definition.ofParts_room hd 0]
  rfl

theorem params_subset_programParams {prog : List Value} {form : Value} {d : Definition}
    (hform : form ∈ prog) (hd : form.definition? = some d) : d.params ⊆ programParams prog :=
  fun _ hx => List.mem_flatMap.mpr ⟨d, List.mem_filterMap.mpr ⟨form, hform, hd⟩, hx⟩

/-! ## Forms in the root scope -/

section Root

variable {P : List Symbol} {r : ScopeId} {s t : Store} {i j : ScopeId} {m n : Nat} {form : Value}

/-- If neither evaluation runs out of room, the heads of an application have values in step. -/
theorem Linked.sameOutcome_head (hl : Linked P r form.symbols s i t j)
    {head : Value} {tail : List Value} (hform : form.formItems? = some (head :: tail))
    (ordinary : ∀ x, head = .sym x → SpecialForm.ofSymbol? x = none)
    (hs : outcome (evalWithin .dynamic (m + 1) form i) s ≠ .error .stackExhausted)
    (ht : outcome (evalWithin .lexical (n + 1) form j) t ≠ .error .stackExhausted) :
    SameOutcome (Related (Counterparts P r))
      (outcome (evalInChild (nestedWithin .dynamic m headPlaces) head i) s)
      (outcome (evalInChild (nestedWithin .lexical n headPlaces) head j) t) := by
  have hhead : head.symbols ⊆ form.symbols := by
    rw [Value.symbols_of_formItems? hform]
    exact Value.symbols_subset_symbolsAll (.head _)
  have hstep (mode : Scoping) (room : Nat) (k : ScopeId) : evalWithin mode (room + 1) form k =
      evalApplication room (nestedWithin mode room) head tail k :=
    (step_of_formItems hform mode room _ k).trans
      (evalItems_of_ordinary tail ordinary mode room _ k)
  rw [hstep] at hs ht
  exact ((nestedWithin_lockstep P r m n headPlaces).evalInChild (hl.mono hhead)
    (outcome_ne_error_of_bind hs) (outcome_ne_error_of_bind ht)).1

/-- Calls under dynamic scoping bind only symbols of `P`. -/
theorem Linked.rebinds_dynamic (hl : Linked P r form.symbols s i t j)
    (hplain : form.definitionParts? = none)
    (hs : outcome (evalWithin .dynamic (m + 1) form i) s ≠ .error .stackExhausted)
    (ht : outcome (evalWithin .lexical (n + 1) form j) t ≠ .error .stackExhausted)
    {xs : List Symbol} {vs : List Value} (h : Rebinds .dynamic i s (m + 1) form xs vs) :
    xs ⊆ P := by
  cases h with
  | definition hform =>
    rw [Value.definitionParts?_eq_some_iff.mpr hform] at hplain
    cases hplain
  | call hform ordinary headValue argValues arity =>
    have hhead := hl.sameOutcome_head hform ordinary hs ht
    rw [(eq_ok_iff.mp headValue).1] at hhead
    generalize outcome _ t = y at hhead
    cases hhead with
    | ok hfg =>
      cases hfg with
      | atom plain => cases plain
      | function data => exact data.params_subset

/-- Under lexical scoping, calls bind nothing in the scope of the call. -/
theorem Linked.not_rebinds_lexical (hl : Linked P r form.symbols s i t j)
    (hplain : form.definitionParts? = none)
    (hs : outcome (evalWithin .dynamic (m + 1) form i) s ≠ .error .stackExhausted)
    (ht : outcome (evalWithin .lexical (n + 1) form j) t ≠ .error .stackExhausted)
    (xs : List Symbol) (vs : List Value) : ¬ Rebinds .lexical j t (n + 1) form xs vs := by
  intro h
  cases h with
  | definition hform =>
    rw [Value.definitionParts?_eq_some_iff.mpr hform] at hplain
    cases hplain
  | call hform ordinary headValue argValues arity =>
    have hhead := hl.sameOutcome_head hform ordinary hs ht
    rw [(eq_ok_iff.mp headValue).1] at hhead
    generalize outcome _ s = y at hhead
    cases hhead with
    | ok hfg =>
      cases hfg with
      | atom plain => cases plain
      | function data => cases data.scope_lexical

/-- Root scopes stay linked if what is newly bound in them is the same outside of `P`. -/
theorem Linked.of_modify {zs : List Symbol} {s' t' : Store} (hl : Linked P r zs s i t r)
    {xs ys : List Symbol} {vs ws : List Value} (hs : (s.modify i (·.putAll xs vs)).Extends s')
    (ht : (t.modify r (·.putAll ys ws)).Extends t') (hid : s'.nextId = t'.nextId)
    (hbound : ∀ x, x ∉ P →
      SameBinding P r ((s.view i).extendAll xs vs x) ((t.view r).extendAll ys ws x)) :
    Linked P r [] s' i t' r := by
  have hsmod := hl.grounded_dynamic.modify xs vs
  have htmod := hl.grounded_root.modify ys ws
  refine ⟨hid, hsmod.of_extends hs, htmod.of_extends ht, htmod.of_extends ht,
    List.forall_mem_nil _, ?_⟩
  rw [hsmod.view_of_extends hs, htmod.view_of_extends ht, hl.grounded_dynamic.view_modify,
    hl.grounded_root.view_modify]
  exact hbound

/-- A form that is no definition has the same outcome under both modes. Under dynamic scoping it
may bind symbols of `P` in the root scope. -/
theorem Linked.evalWithin_plain (hl : Linked P r form.symbols s i t r)
    (hplain : form.definitionParts? = none)
    (hs : outcome (evalWithin .dynamic m form i) s ≠ .error .stackExhausted)
    (ht : outcome (evalWithin .lexical n form r) t ≠ .error .stackExhausted) :
    SameOutcome (Related (Counterparts P r)) (outcome (evalWithin .dynamic m form i) s)
        (outcome (evalWithin .lexical n form r) t) ∧
      Linked P r [] (after (evalWithin .dynamic m form i) s) i
        (after (evalWithin .lexical n form r) t) r := by
  match m, n with
  | 0, _ => exact absurd rfl hs
  | _ + 1, 0 => exact absurd rfl ht
  | m + 1, n + 1 =>
    obtain ⟨hout, hid⟩ := nestedWithin_lockstep P r (m + 1) (n + 1) 0 form s i t r hl hs ht
    refine ⟨hout, ?_⟩
    obtain ⟨xs, vs, hxs, hsmod⟩ := exists_modify_step (nestedWithin_isLocal .dynamic m) form i s
    obtain ⟨ys, ws, hys, htmod⟩ := exists_modify_step (nestedWithin_isLocal .lexical n) form r t
    refine hl.of_modify hsmod htmod hid fun x hx => ?_
    have hxs : x ∉ xs := by
      rcases hxs with rfl | h
      · exact List.not_mem_nil
      · exact fun hmem => hx (hl.rebinds_dynamic hplain hs ht h hmem)
    rcases hys with rfl | h
    · rw [Bindings.extendAll_of_notMem hxs]
      exact hl.outside x hx
    · exact absurd h (hl.not_rebinds_lexical hplain hs ht ys ws)

/-- A definition binds counterparts in the root scopes. -/
theorem Linked.evalWithin_definition {xs : List Symbol} (hl : Linked P r xs s i t r)
    {tail : List Value} (hparts : form.definitionParts? = some tail)
    (hd : ∀ d, form.definition? = some d →
      d.params ⊆ P ∧ ∀ x ∈ d.body.symbols, x ∈ P → x ∈ d.params)
    (hs : outcome (evalWithin .dynamic m form i) s ≠ .error .stackExhausted)
    (ht : outcome (evalWithin .lexical n form r) t ≠ .error .stackExhausted) :
    SameOutcome (Related (Counterparts P r)) (outcome (evalWithin .dynamic m form i) s)
        (outcome (evalWithin .lexical n form r) t) ∧
      Linked P r [] (after (evalWithin .dynamic m form i) s) i
        (after (evalWithin .lexical n form r) t) r := by
  match m, n with
  | 0, _ => exact absurd rfl hs
  | _ + 1, 0 => exact absurd rfl ht
  | m + 1, n + 1 =>
    have hform := Value.definitionParts?_eq_some_iff.mp hparts
    have hstep (mode : Scoping) (room : Nat) (k : ScopeId) :
        evalWithin mode (room + 1) form k = evalDefun mode (room - partPlaces) tail k :=
      step_of_formItems hform mode room _ k
    rw [hstep] at hs ht
    rw [hstep, hstep]
    obtain ⟨hout, hid⟩ := inStep_evalDefun (P := P) (r := r) _ _ tail hl.nextId_eq hs ht
    refine ⟨hout, ?_⟩
    cases hparse : Definition.ofParts (m - partPlaces) tail with
    | error e =>
      cases hparse' : Definition.ofParts (n - partPlaces) tail with
      | error e' =>
        simp only [evalDefun, hparse, hparse']
        exact hl.mono (List.nil_subset xs)
      | ok d =>
        rw [Definition.ofParts_room hparse'] at hparse
        cases hparse
    | ok d =>
      obtain ⟨hparams, hbody⟩ := hd d (Value.definition?_eq_some hparts hparse)
      have hparse' := Definition.ofParts_room hparse (n - partPlaces)
      refine hl.of_modify (extends_evalDefun hparse .dynamic i s)
        (extends_evalDefun hparse' .lexical r t) hid fun x hx => ?_
      refine Bindings.extendAll_related (.cons ?_ .nil) rfl fun _ => hl.outside x hx
      rw [hl.nextId_eq]
      exact .function ⟨rfl, rfl, hparams, hbody⟩

/-- **A closed form** has the same outcome in linked root scopes under both modes, and leaves them
linked. -/
theorem Linked.evalWithin_closed (hl : Linked P r [] s i t r) (hclosed : ClosedForm P form)
    (hparams : ∀ d, form.definition? = some d → d.params ⊆ P)
    (hs : outcome (evalWithin .dynamic m form i) s ≠ .error .stackExhausted)
    (ht : outcome (evalWithin .lexical n form r) t ≠ .error .stackExhausted) :
    SameOutcome (Related (Counterparts P r)) (outcome (evalWithin .dynamic m form i) s)
        (outcome (evalWithin .lexical n form r) t) ∧
      Linked P r [] (after (evalWithin .dynamic m form i) s) i
        (after (evalWithin .lexical n form r) t) r := by
  cases hparts : form.definitionParts? with
  | some tail =>
    exact hl.evalWithin_definition hparts (fun d hd => ⟨hparams d hd, hclosed.body d hd⟩) hs ht
  | none =>
    have hform : Linked P r form.symbols s i t r :=
      { hl with mentioned := fun x hx => hl.outside x (hclosed.plain hparts x hx) }
    exact hform.evalWithin_plain hparts hs ht

end Root

/-! ## Sessions under both modes -/

/-- The outcomes of forms that are evaluated one after another, also after forms that fail, each
with the session after it. -/
def Session.run (s : Session) : List Value → List (Except Error Value × Session)
  | [] => []
  | form :: forms => s.evalForm form :: Session.run (s.evalForm form).2 forms

/-- The session after forms that are evaluated one after another, also after forms that fail. -/
def Session.afterForms (s : Session) (forms : List Value) : Session :=
  forms.foldl (fun s form => (s.evalForm form).2) s

/-- There is an outcome for each form, which is that of its evaluation after the forms before it. -/
theorem Session.getElem?_run (s : Session) (forms : List Value) (k : Nat) :
    (s.run forms)[k]? = forms[k]?.map (s.afterForms (forms.take k)).evalForm := by
  induction forms generalizing s k with
  | nil => rfl
  | cons form forms ih =>
    cases k with
    | zero => rfl
    | succ k => exact ih (s.evalForm form).2 k

/-- What a session does with a form, in terms of one evaluation in its root scope. -/
theorem Session.evalForm_eq (s : Session) (form : Value) :
    s.evalForm form =
      ((outcome (evalWithin s.scoping s.limit form s.root) s.store).mapError reportedError,
        { s with store := after (evalWithin s.scoping s.limit form s.root) s.store }) := by
  simp only [evalForm, act, evaluate, outcome, after]
  cases evalWithin s.scoping s.limit form s.root s.store <;> rfl

/-- A value that is reported is the value of the evaluation. -/
theorem Session.evalForm_eq_ok {s : Session} {form v : Value} (h : (s.evalForm form).1 = .ok v) :
    outcome (evalWithin s.scoping s.limit form s.root) s.store = .ok v := by
  rw [evalForm_eq] at h
  cases hout : outcome (evalWithin s.scoping s.limit form s.root) s.store with
  | ok w =>
    rw [hout] at h
    exact h
  | error e =>
    rw [hout] at h
    cases h

/-- If no exhaustion is reported, then there was none. -/
theorem Session.outcome_ne_stackExhausted {s : Session} {form : Value}
    (h : (s.evalForm form).1 ≠ .error .recursion) :
    outcome (evalWithin s.scoping s.limit form s.root) s.store ≠ .error .stackExhausted := by
  intro he
  rw [evalForm_eq, he] at h
  exact h rfl

/-- A session under dynamic scoping and one under lexical scoping whose root scopes show the same
outside of `P`. -/
structure Twins (P : List Symbol) (d l : Session) : Prop where
  dynamic : d.scoping = .dynamic
  lexical : l.scoping = .lexical
  linked : Linked P l.root [] d.store d.root l.store l.root

namespace Twins

variable {P : List Symbol} {d l : Session} {form : Value} {forms : List Value}

/-- The names outside of `P` have the same values, up to captured scopes. -/
theorem view_eq (h : Twins P d l) {x : Symbol} (hx : x ∉ P) :
    (d.store.view d.root x).map Value.withoutScopes =
      (l.store.view l.root x).map Value.withoutScopes := by
  have hsame := h.linked.outside x hx
  generalize d.store.view d.root x = v at hsame
  generalize l.store.view l.root x = w at hsame
  cases hsame with
  | none => rfl
  | some hvw => exact congrArg some hvw.withoutScopes_eq

/-- A closed form has the same outcome in twin sessions, and leaves them twins. -/
theorem evalForm (h : Twins P d l) (hclosed : ClosedForm P form)
    (hparams : ∀ d, form.definition? = some d → d.params ⊆ P)
    (hd : (d.evalForm form).1 ≠ .error .recursion) (hl : (l.evalForm form).1 ≠ .error .recursion) :
    (d.evalForm form).1.map Value.withoutScopes = (l.evalForm form).1.map Value.withoutScopes ∧
      Twins P (d.evalForm form).2 (l.evalForm form).2 := by
  have hs := Session.outcome_ne_stackExhausted hd
  have ht := Session.outcome_ne_stackExhausted hl
  rw [h.dynamic] at hs
  rw [h.lexical] at ht
  obtain ⟨hout, hlinked⟩ := h.linked.evalWithin_closed hclosed hparams hs ht
  rw [d.evalForm_eq, l.evalForm_eq, h.dynamic, h.lexical]
  refine ⟨?_, rfl, rfl, hlinked⟩
  generalize outcome _ d.store = x at hout
  generalize outcome _ l.store = y at hout
  cases hout with
  | ok hvw => exact congrArg Except.ok hvw.withoutScopes_eq
  | error e => rfl

/-- Closed forms one after another keep sessions twins. -/
theorem run (h : Twins P d l) (hclosed : ∀ form ∈ forms, ClosedForm P form)
    (hparams : ∀ form ∈ forms, ∀ d, form.definition? = some d → d.params ⊆ P)
    (hd : ∀ a ∈ d.run forms, a.1 ≠ .error .recursion)
    (hl : ∀ b ∈ l.run forms, b.1 ≠ .error .recursion) :
    List.Forall₂ (fun a b => a.1.map Value.withoutScopes = b.1.map Value.withoutScopes ∧
      Twins P a.2 b.2) (d.run forms) (l.run forms) := by
  induction forms generalizing d l with
  | nil => exact .nil
  | cons form forms ih =>
    rw [List.forall_mem_cons] at hclosed hparams
    rw [Session.run, List.forall_mem_cons] at hd hl
    have hform := h.evalForm hclosed.1 hparams.1 hd.1 hl.1
    exact .cons hform (ih hform.2 hclosed.2 hparams.2 hd.2 hl.2)

end Twins

/-! ## The root scope of a new session -/

theorem isAtom_of_mem_entries {e : String × Entry} (he : e ∈ entries) (id : Nat) :
    (e.2.value e.1 id).isAtom = true := by
  have hall : (entries.all fun e => (e.2.value e.1 0).isAtom) = true := by
    decide
  have hatom := List.all_eq_true.mp hall e he
  cases hentry : e.2 with
  | procedure operation arity => rfl
  | constant v => simpa [hentry, Entry.value] using hatom

/-- The scope `i` lies within no other, and binds neither functions nor anything that could hold
them. -/
def Store.IsPlainRoot (s : Store) (i : ScopeId) : Prop :=
  ∃ sc, s.scopes[i]? = some sc ∧ sc.outer = none ∧ ∀ x v, sc.get? x = some v → v.isAtom = true

theorem Store.isPlainRoot_register {s : Store} {i : ScopeId} (h : s.IsPlainRoot i) :
    (s.register i).IsPlainRoot i := by
  refine List.foldlRecOn (motive := fun s : Store => s.IsPlainRoot i) entries _ h
    fun s hs e he => ?_
  obtain ⟨sc, hsc, houter, hatoms⟩ := hs
  refine ⟨sc.put ⟨e.1⟩ (e.2.value e.1 s.nextId), scopes_modify_self _ hsc, houter, fun x v hv => ?_⟩
  rw [Scope.get?_put] at hv
  split at hv
  · cases hv
    exact isAtom_of_mem_entries he s.nextId
  · exact hatoms x v hv

theorem Store.isPlainRoot_push (s : Store) : (s.push ⟨[], none⟩).IsPlainRoot s.scopes.size :=
  ⟨⟨[], none⟩, scopes_push_size s _, rfl, fun _ v h => absurd h (Option.some_ne_none v).symm⟩

/-- A root scope without functions is linked to itself. -/
theorem Store.IsPlainRoot.linked {s : Store} {i : ScopeId} (h : s.IsPlainRoot i)
    (P : List Symbol) : Linked P i [] s i s i := by
  obtain ⟨sc, hsc, houter, hatoms⟩ := h
  have hg : s.Grounded i := .root hsc houter
  refine ⟨rfl, hg, hg, hg, List.forall_mem_nil _, fun x _ => ?_⟩
  have hview : s.view i x = sc.get? x := by
    rw [view, hg.find?_eq hsc, houter, Option.bind_none, Option.or_none]
  rw [hview]
  cases hx : sc.get? x with
  | none => exact .none
  | some v => exact .some (.atom (hatoms x v hx))

/-- New sessions in both modes are twins, whatever their limits. -/
theorem twins_initial (P : List Symbol) (m n : Nat) (store : Store) :
    Twins P (Session.initial .dynamic m store) (Session.initial .lexical n store) :=
  ⟨rfl, rfl, (Store.isPlainRoot_register store.isPlainRoot_push).linked P⟩

/-- **Closed programs give the same under both scoping modes**, unless one of the two runs out of
room: each form has the same value up to captured scopes or fails with the same error, and after
each form the root scopes bind all names but parameters alike. A run has an outcome for each form,
which is that of its evaluation after the forms before it. -/
theorem run_dynamic_lexical {prog : List Value} (hclosed : ClosedProgram prog) (m n : Nat)
    (store : Store)
    (hd : ∀ a ∈ (Session.initial .dynamic m store).run prog, a.1 ≠ .error .recursion)
    (hl : ∀ b ∈ (Session.initial .lexical n store).run prog, b.1 ≠ .error .recursion) :
    (∀ (s : Session) (k : Nat),
      (s.run prog)[k]? = prog[k]?.map (s.afterForms (prog.take k)).evalForm) ∧
    List.Forall₂ (fun a b =>
        a.1.map Value.withoutScopes = b.1.map Value.withoutScopes ∧
        ∀ x, x ∉ programParams prog →
          (a.2.store.view a.2.root x).map Value.withoutScopes =
            (b.2.store.view b.2.root x).map Value.withoutScopes)
      ((Session.initial .dynamic m store).run prog)
      ((Session.initial .lexical n store).run prog) := by
  have hparams (form : Value) (hform : form ∈ prog) (d : Definition)
      (hd : form.definition? = some d) : d.params ⊆ programParams prog :=
    params_subset_programParams hform hd
  have hrun := (twins_initial (programParams prog) m n store).run hclosed hparams hd hl
  exact ⟨fun s => s.getElem?_run prog,
    hrun.imp fun a b hab => ⟨hab.1, fun x hx => hab.2.view_eq hx⟩⟩

/-- A function calls another one, which is defined after it, and both give the argument. -/
theorem run_dynamic_lexical_nested_call :
    let prog : List Value := [
      .list [.sym ⟨"defun"⟩, .sym ⟨"f"⟩, .list [.sym ⟨"x"⟩], .list [.sym ⟨"g"⟩, .sym ⟨"x"⟩]],
      .list [.sym ⟨"defun"⟩, .sym ⟨"g"⟩, .list [.sym ⟨"y"⟩], .sym ⟨"y"⟩],
      .list [.sym ⟨"f"⟩, .int 7]]
    ClosedProgram prog ∧
      List.Forall₂ (fun a b => a.1.map Value.withoutScopes = b.1.map Value.withoutScopes)
        ((Session.initial .dynamic 9 Store.empty).run prog)
        ((Session.initial .lexical 9 Store.empty).run prog) := by
  intro prog
  have hclosed : ClosedProgram prog := by
    simp only [ClosedProgram, prog, List.forall_mem_cons, List.not_mem_nil, false_implies,
      implies_true, and_true]
    refine ⟨⟨nofun, fun d hd => ?_⟩, ⟨nofun, fun d hd => ?_⟩, ⟨fun _ => by decide, nofun⟩⟩
    · obtain rfl := Option.some.inj hd
      decide
    · obtain rfl := Option.some.inj hd
      decide
  have hok {r : Except Error Value} (h : r.isOk = true) : r ≠ .error .recursion := by
    rintro rfl
    cases h
  have hd : ((Session.initial .dynamic 9 Store.empty).run prog).all (·.1.isOk) = true := by
    decide +kernel
  have hl : ((Session.initial .lexical 9 Store.empty).run prog).all (·.1.isOk) = true := by
    decide +kernel
  rw [List.all_eq_true] at hd hl
  obtain ⟨-, hrun⟩ := run_dynamic_lexical hclosed 9 9 Store.empty (fun a ha => hok (hd a ha))
    (fun b hb => hok (hl b hb))
  exact ⟨hclosed, hrun.imp fun _ _ h => h.1⟩

end SmallLisp
