import SmallLisp.Proofs.Builtin.Related
import SmallLisp.Proofs.Frame
import SmallLisp.Proofs.Store.View

/-!
# Evaluation without a store

Evaluation changes the store all the time: functions bind their parameters in the scope of the
call, and every part of a form is evaluated in a scope of its own. None of these changes is ever
seen where it would matter. If no function captures a scope, or if every function does, evaluation
gives what the meaning without a store gives.

The reason is the same in both cases. What is nested in an evaluation runs in new scopes, so the
view from the scope of the evaluation stays the same until a function is called. A call extends the
view by the parameters. The functions that definitions make on the way are bound in new scopes that
nothing looks into any more.

## Main definitions

* `Bindings.All`: what holds of all functions within the values of bindings
* `Shows`: a store that shows only functions that may be met, and keeps the scopes they capture
* `Evaluator.Refines`: an evaluator that gives the meaning of a value

## Main results

* `nestedMeaning_keeps`: meanings contain only functions that the bindings contain
* `nestedWithin_refines`: evaluation within any room gives the meaning within that room
* `outcome_evalWithin_eq_meaning`: evaluation gives the meaning if no function captures a scope, and
  if all functions do
-/

namespace SmallLisp

open StoreM

/-! ## The functions within meanings -/

/-- All functions within the values of bindings have the property `p`. -/
def Bindings.All (p : FunctionData → Prop) (ρ : Bindings) : Prop :=
  ∀ x v, ρ x = some v → ∀ f ∈ v.functions, p f

variable {p : FunctionData → Prop}

/-- What holds of the functions in bindings holds of them in more bindings. -/
theorem Bindings.All.extendAll {ρ : Bindings} (h : ρ.All p) (xs : List Symbol) {vs : List Value}
    (hvs : ∀ v ∈ vs, ∀ f ∈ v.functions, p f) : (ρ.extendAll xs vs).All p := by
  intro x v hv
  rw [extendAll_apply, Option.or_eq_some_iff] at hv
  rcases hv with hv | ⟨-, hv⟩
  · obtain ⟨before, rest, heq, -⟩ := List.lookup_eq_some_iff.mp hv
    have hmem : (x, v) ∈ (xs.zip vs).reverse := by simp [heq]
    exact hvs v (List.of_mem_zip (List.mem_reverse.mp hmem)).2
  · exact h x v hv

/-- Meanings contain only functions with the property `p` if the bindings do. -/
def Interpretation.Keeps (p : FunctionData → Prop) (m : Interpretation) : Prop :=
  ∀ expr ρ v, ρ.All p → m expr ρ = .ok v → ∀ f ∈ v.functions, p f

theorem bind_eq_ok_iff {ε α β : Type} {x : Except ε α} {f : α → Except ε β} {b : β} :
    x >>= f = .ok b ↔ ∃ a, x = .ok a ∧ f a = .ok b := by
  cases x <;> simp [bind, Except.bind]

theorem Interpretation.Keeps.meaningEach {m : Interpretation} (h : m.Keeps p) {ρ : Bindings}
    (hρ : ρ.All p) {exprs vs : List Value} (hvs : meaningEach m ρ exprs = .ok vs) :
    ∀ v ∈ vs, ∀ f ∈ v.functions, p f := by
  induction exprs generalizing vs with
  | nil =>
    cases hvs
    exact List.forall_mem_nil _
  | cons expr exprs ih =>
    obtain ⟨v, hv, hrest⟩ := bind_eq_ok_iff.mp hvs
    obtain ⟨vs', hvs', heq⟩ := bind_eq_ok_iff.mp hrest
    cases heq
    exact List.forall_mem_cons.mpr ⟨h expr ρ v hρ hv, ih hvs'⟩

theorem functions_filled {room : Nat} {template : String} {v w : Value}
    (h : filled room template v = .ok w) : ∀ f ∈ w.functions, p f := by
  unfold filled at h
  split at h
  · cases h
    exact Value.forall_functions_of_isAtom rfl
  · cases h

section Meaning

variable {captured : ScopeId → Bindings} {room : Nat} {m : NestedInterpretation} {ρ : Bindings}
  {v : Value} (hm : ∀ taken, (m taken).Keeps p)

include hm

/-- The meanings of special forms have no functions but those at hand. -/
theorem meaningSpecial_keeps {form : SpecialForm} {tail : List Value} (hρ : ρ.All p)
    (h : meaningSpecial room m form tail ρ = .ok v) : ∀ f ∈ v.functions, p f := by
  cases form with
  | conditional =>
    simp only [meaningSpecial] at h
    split at h
    · obtain ⟨c, -, hbranch⟩ := bind_eq_ok_iff.mp h
      split at hbranch
      · exact hm _ _ ρ v hρ hbranch
      · exact hm _ _ ρ v hρ hbranch
    · cases h
  | definition =>
    obtain ⟨d, -, rfl⟩ := map_eq_ok_iff.mp h
    exact Value.forall_functions_of_isAtom rfl
  | format =>
    simp only [meaningSpecial] at h
    split at h
    · cases h
    · split at h
      · cases h
      · cases h
        exact Value.forall_functions_of_isAtom rfl
      · obtain ⟨fill, -, hfilled⟩ := bind_eq_ok_iff.mp h
        exact functions_filled hfilled

theorem meaningApply_keeps (hc : ∀ f d, p f → f.scope = some d → (captured d).All p)
    {head : Value} {args : List Value} (hhead : ∀ f ∈ head.functions, p f)
    (hargs : ∀ a ∈ args, ∀ f ∈ a.functions, p f) (hρ : ρ.All p)
    (h : meaningApply captured room m head args ρ = .ok v) : ∀ f ∈ v.functions, p f := by
  cases head with
  | function id name params body closure =>
    have hf : p ⟨id, name, params, body, closure⟩ := hhead _ (.head _)
    simp only [meaningApply] at h
    split at h
    · cases h
    · refine hm _ _ _ v (Bindings.All.extendAll ?_ params hargs) h
      cases closure with
      | none => exact hρ
      | some d => exact hc _ d hf rfl
  | builtin b => exact b.functions_call hargs h
  | int n => cases h; exact Value.forall_functions_of_isAtom rfl
  | float x => cases h; exact Value.forall_functions_of_isAtom rfl
  | bool b => cases h; exact Value.forall_functions_of_isAtom rfl
  | str t => cases h; exact Value.forall_functions_of_isAtom rfl
  | nothing => cases h
  | sym x => cases h
  | list vs => cases h
  | tuple vs => cases h

/-- A step of the meaning gives no functions but those at hand. -/
theorem meaningStep_keeps (hc : ∀ f d, p f → f.scope = some d → (captured d).All p) :
    (meaningStep captured room m).Keeps p := by
  have application (head : Value) (tail : List Value) (ρ : Bindings) (v : Value) (hρ : ρ.All p)
      (h : meaningApplication captured room m head tail ρ = .ok v) : ∀ f ∈ v.functions, p f := by
    obtain ⟨f, hf, hrest⟩ := bind_eq_ok_iff.mp h
    obtain ⟨args, hargs, happly⟩ := bind_eq_ok_iff.mp hrest
    exact meaningApply_keeps hm hc (hm _ _ ρ f hρ hf) ((hm _).meaningEach hρ hargs) hρ happly
  have items (items : List Value) (ρ : Bindings) (v : Value) (hρ : ρ.All p)
      (h : meaningItems captured room m items ρ = .ok v) : ∀ f ∈ v.functions, p f := by
    unfold meaningItems at h
    split at h
    · cases h
    · split at h
      · split at h
        · exact meaningSpecial_keeps hm hρ h
        · exact application _ _ ρ v hρ h
      · exact application _ _ ρ v hρ h
  intro expr ρ v hρ h
  cases expr with
  | int n => cases h; exact Value.forall_functions_of_isAtom rfl
  | float x => cases h; exact Value.forall_functions_of_isAtom rfl
  | bool b => cases h; exact Value.forall_functions_of_isAtom rfl
  | sym x =>
    simp only [meaningStep] at h
    cases hx : ρ x with
    | none => rw [hx] at h; cases h
    | some w => rw [hx] at h; cases h; exact hρ x v hx
  | list vs => exact items vs ρ v hρ h
  | tuple vs => exact items vs ρ v hρ h
  | nothing => cases h
  | str t => cases h
  | function id name params body closure => cases h
  | builtin b => cases h

end Meaning

/-- **Meanings contain only functions that the bindings contain**, those at the place of the value
and those that functions capture. -/
theorem nestedMeaning_keeps {captured : ScopeId → Bindings}
    (hc : ∀ f d, p f → f.scope = some d → (captured d).All p) (room taken : Nat) :
    (nestedMeaning captured room taken).Keeps p := by
  induction room generalizing taken with
  | zero =>
    intro expr ρ v hρ h
    cases h
  | succ room ih =>
    cases taken with
    | zero => exact meaningStep_keeps ih hc
    | succ taken => exact ih taken

/-! ## Evaluation gives the meaning -/

/-- A function that may be met while the first `n` scopes have to stay as they are: a function that
captures nothing only if there are none, since calling it changes the scope of the call, and any
other if it captures one of them. -/
def FunctionData.CapturesBelow (n : Nat) (f : FunctionData) : Prop :=
  match f.scope with
  | none => n = 0
  | some d => d < n

/-- The store `s` shows from the scope `i` only functions that may be met, and has the first `n`
scopes of `H`. -/
structure Shows (H : Store) (n : Nat) (s : Store) (i : ScopeId) : Prop where
  grounded : s.Grounded i
  keeps : H.KeepsBelow n s
  visible : (s.view i).All (FunctionData.CapturesBelow n)

namespace Shows

variable {H s s' : Store} {n : Nat} {i : ScopeId}

theorem of_extends (h : Shows H n s i) (hs : s.Extends s') : Shows H n s' i where
  grounded := h.grounded.of_extends hs
  keeps j sc hj hsc := hs j sc (h.keeps j sc hj hsc)
  visible := by
    rw [h.grounded.view_of_extends hs]
    exact h.visible

theorem push (h : Shows H n s i) (xs : List Symbol) {vs : List Value}
    (hvs : ∀ v ∈ vs, ∀ f ∈ v.functions, f.CapturesBelow n) :
    Shows H n (s.push (Scope.putAll ⟨[], some i⟩ xs vs)) s.scopes.size where
  grounded := h.grounded.push (Scope.outer_putAll _ xs vs)
  keeps := (h.of_extends (s.extends_push _)).keeps
  visible := by
    rw [h.grounded.view_push]
    exact h.visible.extendAll xs hvs

theorem child (h : Shows H n s i) : Shows H n (s.push ⟨[], some i⟩) s.scopes.size :=
  h.push [] (List.forall_mem_nil _)

/-- Parameters are bound in the scope itself only if no scopes have to stay as they are. -/
theorem modify (h : Shows H 0 s i) (xs : List Symbol) {vs : List Value}
    (hvs : ∀ v ∈ vs, ∀ f ∈ v.functions, f.CapturesBelow 0) :
    Shows H 0 (s.modify i (·.putAll xs vs)) i where
  grounded := h.grounded.modify xs vs
  keeps j sc hj _ := absurd hj (Nat.not_lt_zero j)
  visible := by
    rw [h.grounded.view_modify]
    exact h.visible.extendAll xs hvs

end Shows

/-- The evaluator `ev` gives the meaning `m` in every store that shows only functions that may be
met. -/
def Evaluator.Refines (H : Store) (n : Nat) (ev : Evaluator) (m : Interpretation) : Prop :=
  ∀ (expr : Value) (i : ScopeId) (s : Store), Shows H n s i →
    outcome (ev expr i) s = m expr (s.view i)

section Refinement

variable {H : Store} {n : Nat} {s : Store} {i : ScopeId}

theorem Evaluator.Refines.evalInChild {ev : Evaluator} {m : Interpretation}
    (h : ev.Refines H n m) (hs : Shows H n s i) (expr : Value) :
    outcome (evalInChild ev expr i) s = m expr (s.view i) := by
  rw [← hs.grounded.view_child]
  exact h expr s.scopes.size _ hs.child

/-- Several expressions have the values that they mean, since each leaves the view of the others
alone. -/
theorem Evaluator.Refines.evalEach {ev : Evaluator} {m : Interpretation} (h : ev.Refines H n m)
    (hlocal : ev.IsLocal) (hs : Shows H n s i) (exprs : List Value) :
    outcome (evalEach ev i exprs) s = meaningEach m (s.view i) exprs := by
  induction exprs generalizing s with
  | nil => rfl
  | cons expr exprs ih =>
    have hgrows := hlocal.evalInChild expr i s
    rw [SmallLisp.evalEach, outcome_bind, h.evalInChild hs, meaningEach]
    congr 1
    funext v
    rw [outcome_bind, ih (hs.of_extends hgrows), hs.grounded.view_of_extends hgrows]
    rfl

variable {ev : Nested} {m : NestedInterpretation}
  (hrefines : ∀ taken, (ev taken).Refines H n (m taken))

include hrefines

theorem outcome_evalIf (hlocal : ∀ taken, (ev taken).IsLocal) (hs : Shows H n s i) (room : Nat)
    (tail : List Value) :
    outcome (evalIf ev tail i) s = meaningSpecial room m .conditional tail (s.view i) := by
  match tail with
  | [condition, thenPart, elsePart] =>
    have hgrows := (hlocal partPlaces).evalInChild condition i s
    have hpart (part : Value) := (hrefines partPlaces).evalInChild (hs.of_extends hgrows) part
    rw [hs.grounded.view_of_extends hgrows] at hpart
    simp only [evalIf, meaningSpecial]
    rw [outcome_bind, (hrefines partPlaces).evalInChild hs]
    congr 1
    funext c
    cases c with
    | bool b =>
      cases b with
      | false => exact hpart elsePart
      | true => exact hpart thenPart
    | _ => exact hpart thenPart
  | [] => rfl
  | [_] => rfl
  | [_, _] => rfl
  | _ :: _ :: _ :: _ :: _ => rfl

theorem outcome_evalFormat (hs : Shows H n s i) (room : Nat) (tail : List Value) :
    outcome (evalFormat (room - partPlaces) ev tail i) s =
      meaningSpecial room m .format tail (s.view i) := by
  cases tail with
  | nil => rfl
  | cons destination parts =>
    simp only [evalFormat, meaningSpecial]
    cases templateText (room - partPlaces) (splitFill parts).1 with
    | error fault => rfl
    | ok template =>
      cases (splitFill parts).2 with
      | none => rfl
      | some expr =>
        simp only [outcome_bind, outcome_ofResult]
        rw [(hrefines partPlaces).evalInChild hs]

omit hrefines in
/-- A definition has the outcome that it means, which is a notice. -/
theorem outcome_evalDefun (mode : Scoping) (room : Nat) (tail : List Value) (ρ : Bindings) :
    outcome (evalDefun mode (room - partPlaces) tail i) s =
      meaningSpecial room m .definition tail ρ := by
  simp only [meaningSpecial, evalDefun]
  cases Definition.ofParts (room - partPlaces) tail <;> rfl

theorem outcome_evalSpecial (hlocal : ∀ taken, (ev taken).IsLocal) (mode : Scoping) (room : Nat)
    (hs : Shows H n s i) (form : SpecialForm) (tail : List Value) :
    outcome (evalSpecial mode room ev form tail i) s =
      meaningSpecial room m form tail (s.view i) := by
  cases form with
  | conditional => exact outcome_evalIf hrefines hlocal hs room tail
  | definition => exact outcome_evalDefun mode room tail _
  | format => exact outcome_evalFormat hrefines hs room tail

/-! ### Calls -/

variable {captured : ScopeId → Bindings}
  (hcaptured : ∀ d < n, Shows H n H d ∧ captured d = H.view d)

include hcaptured

/-- A call of a function has the outcome that it means, in the caller's scope or the captured one.
-/
theorem outcome_applyFunction (hs : Shows H n s i) {room : Nat}
    {id : Nat} {name : Symbol} {params : List Symbol} {body : Value} {closure : Option ScopeId}
    (hf : FunctionData.CapturesBelow n ⟨id, name, params, body, closure⟩) {args : List Value}
    (hargs : ∀ a ∈ args, ∀ f ∈ a.functions, f.CapturesBelow n) :
    outcome (applyFunction ev name params body closure args i) s =
      meaningApply captured room m (.function id name params body closure) args (s.view i) := by
  simp only [applyFunction, meaningApply]
  split
  · rfl
  · cases closure with
    | none =>
      obtain rfl : n = 0 := hf
      have hbody := (hrefines bodyPlaces).evalInChild (hs.modify params hargs) body
      rw [hs.grounded.view_modify] at hbody
      exact hbody
    | some d =>
      have hd : d < n := hf
      obtain ⟨hHd, hviewd⟩ := hcaptured d hd
      have hview : s.view d = H.view d := hHd.grounded.view_of_keeps hs.keeps hd
      have hsd : Shows H n s d := {
        grounded := hHd.grounded.of_keeps hs.keeps hd
        keeps := hs.keeps
        visible := hview ▸ hHd.visible }
      have hbody := hrefines bodyPlaces body s.scopes.size _ (hsd.push params hargs)
      rw [hsd.grounded.view_push, hview, ← hviewd] at hbody
      exact hbody

/-- An application has the outcome that it means. -/
theorem outcome_apply (hs : Shows H n s i) (room : Nat) {head : Value}
    (hhead : ∀ f ∈ head.functions, f.CapturesBelow n) {args : List Value}
    (hargs : ∀ a ∈ args, ∀ f ∈ a.functions, f.CapturesBelow n) :
    outcome (apply room ev head args i) s = meaningApply captured room m head args (s.view i) := by
  cases head with
  | function id name params body closure =>
    exact outcome_applyFunction hrefines hcaptured hs (hhead _ (.head _)) hargs
  | builtin b => exact outcome_ofResult _ s
  | _ => rfl

theorem outcome_evalApplication (hlocal : ∀ taken, (ev taken).IsLocal)
    (hkeeps : ∀ taken, (m taken).Keeps (FunctionData.CapturesBelow n))
    (hs : Shows H n s i) (room : Nat) (head : Value) (tail : List Value) :
    outcome (evalApplication room ev head tail i) s =
      meaningApplication captured room m head tail (s.view i) := by
  have hhead := (hlocal headPlaces).evalInChild head i s
  have htail := hhead.trans ((hlocal argumentPlaces).evalEach i tail _)
  have heach := (hrefines argumentPlaces).evalEach (hlocal _) (hs.of_extends hhead) tail
  rw [hs.grounded.view_of_extends hhead] at heach
  rw [evalApplication, meaningApplication, outcome_bind, (hrefines headPlaces).evalInChild hs]
  cases hf : m headPlaces head (s.view i) with
  | error e => rfl
  | ok f =>
    change outcome (_ >>= _) _ = (meaningEach _ _ _ >>= _)
    rw [outcome_bind, heach]
    cases hargs : meaningEach (m argumentPlaces) (s.view i) tail with
    | error e => rfl
    | ok args =>
      -- the call sees what the head and the arguments saw, and meets only functions they give
      have happly := outcome_apply hrefines hcaptured (hs.of_extends htail) (room - bodyPlaces)
        (hkeeps _ head _ f hs.visible hf) ((hkeeps _).meaningEach hs.visible hargs)
      rw [hs.grounded.view_of_extends htail] at happly
      exact happly

theorem outcome_evalItems (hlocal : ∀ taken, (ev taken).IsLocal)
    (hkeeps : ∀ taken, (m taken).Keeps (FunctionData.CapturesBelow n))
    (mode : Scoping) (hs : Shows H n s i) (room : Nat) (items : List Value) :
    outcome (evalItems mode room ev items i) s =
      meaningItems captured room m items (s.view i) := by
  have application := outcome_evalApplication hrefines hcaptured hlocal hkeeps hs room
  cases items with
  | nil => rfl
  | cons head tail =>
    cases head with
    | sym x =>
      simp only [evalItems, meaningItems]
      cases SpecialForm.ofSymbol? x with
      | some form => exact outcome_evalSpecial hrefines hlocal mode room hs form tail
      | none => exact application (.sym x) tail
    | _ => exact application _ tail

/-- One step of evaluation gives one step of the meaning. -/
theorem step_refines (hlocal : ∀ taken, (ev taken).IsLocal)
    (hkeeps : ∀ taken, (m taken).Keeps (FunctionData.CapturesBelow n)) (mode : Scoping)
    (room : Nat) : Evaluator.Refines H n (step mode room ev) (meaningStep captured room m) := by
  intro expr i s hs
  cases expr with
  | list items => exact outcome_evalItems hrefines hcaptured hlocal hkeeps mode hs room items
  | tuple items => exact outcome_evalItems hrefines hcaptured hlocal hkeeps mode hs room items
  | sym x =>
    simp only [step, meaningStep, Store.view, outcome, findSymbol]
    cases s.find? i x <;> rfl
  | _ => rfl

end Refinement

/-- **Evaluation within any room gives the meaning within that room**, as long as it meets only
functions that may be met. -/
theorem nestedWithin_refines {H : Store} {n : Nat} {captured : ScopeId → Bindings}
    (hcaptured : ∀ d < n, Shows H n H d ∧ captured d = H.view d)
    (mode : Scoping) (room taken : Nat) :
    Evaluator.Refines H n (nestedWithin mode room taken) (nestedMeaning captured room taken) := by
  have hall (f : FunctionData) (d : ScopeId) (hf : f.CapturesBelow n)
      (hd : f.scope = some d) : (captured d).All (FunctionData.CapturesBelow n) := by
    rw [FunctionData.CapturesBelow, hd] at hf
    obtain ⟨hHd, hview⟩ := hcaptured d hf
    exact hview ▸ hHd.visible
  induction room generalizing taken with
  | zero => exact fun expr i s hs => rfl
  | succ room ih =>
    cases taken with
    | zero =>
      exact step_refines ih hcaptured (nestedWithin_isLocal mode room)
        (nestedMeaning_keeps hall room) mode room
    | succ taken => exact ih taken

/-- **Evaluation gives the meaning without a store.** If no function in the store captures a scope,
evaluation under dynamic scoping gives the meaning in which a call extends the bindings of the
call. If all functions do, evaluation under lexical scoping gives the meaning in which a call
extends the bindings that the function captures, as they are before the evaluation. -/
theorem outcome_evalWithin_eq_meaning {s : Store} (hs : s.WellFormed) {i : ScopeId}
    (hi : i < s.scopes.size) (room : Nat) (expr : Value) :
    ((∀ f ∈ s.functions, f.scope = none) → ∀ captured : ScopeId → Bindings,
      outcome (evalWithin .dynamic room expr i) s = meaning captured room expr (s.view i)) ∧
    ((∀ f ∈ s.functions, f.scope ≠ none) →
      outcome (evalWithin .lexical room expr i) s = meaning s.view room expr (s.view i)) := by
  have hkeeps (n : Nat) : s.KeepsBelow n s := (Store.Extends.refl s).keepsBelow n
  constructor
  · intro hnone captured
    have hshows : Shows s 0 s i := {
      grounded := hs.grounded hi
      keeps := hkeeps 0
      visible := fun x v hv f hf => by
        rw [FunctionData.CapturesBelow, hnone f (Store.functions_of_find? hv hf)] }
    exact nestedWithin_refines (fun d hd => absurd hd (Nat.not_lt_zero d)) .dynamic room 0
      expr i s hshows
  · intro hsome
    have hshows (d : ScopeId) (hd : d < s.scopes.size) : Shows s s.scopes.size s d := {
      grounded := hs.grounded hd
      keeps := hkeeps _
      visible := fun x v hv f hf => by
        have hmem := Store.functions_of_find? hv hf
        obtain ⟨c, hc⟩ := Option.ne_none_iff_exists'.mp (hsome f hmem)
        rw [FunctionData.CapturesBelow, hc]
        exact hs.captured_lt f hmem c hc }
    exact nestedWithin_refines (fun d hd => ⟨hshows d hd, rfl⟩) .lexical room 0 expr i s
      (hshows i hi)

/-- A function that calls another which mentions the parameter of the first: the two modes differ,
and each gives its own meaning. -/
theorem outcome_evalWithin_nested_call :
    let root (c : Option ScopeId) : Store :=
      ⟨#[⟨[(⟨"f"⟩, .function 0 ⟨"f"⟩ [⟨"x"⟩] (.list [.sym ⟨"g"⟩]) c),
        (⟨"g"⟩, .function 1 ⟨"g"⟩ [] (.sym ⟨"x"⟩) c)], none⟩], 2⟩
    let call : Value := .list [.sym ⟨"f"⟩, .int 7]
    outcome (evalWithin .dynamic 9 call 0) (root none) =
        meaning (fun _ _ => none) 9 call ((root none).view 0) ∧
      meaning (fun _ _ => none) 9 call ((root none).view 0) = .ok (.int 7) ∧
      outcome (evalWithin .lexical 9 call 0) (root (some 0)) =
        meaning (root (some 0)).view 9 call ((root (some 0)).view 0) ∧
      meaning (root (some 0)).view 9 call ((root (some 0)).view 0) = .error (.unbound "x") := by
  intro root call
  have hfunctions (c : Option ScopeId) : ∀ f ∈ (root c).functions, f.scope = c := by
    simp [root, Store.functions, Value.functions]
  have hwf (c : Option ScopeId) (hc : ∀ d, c = some d → d < 1) : (root c).WellFormed := {
    outer_lt := by
      intro i o sc hsc ho
      cases i with
      | zero => cases hsc; cases ho
      | succ i => cases hsc
    captured_lt := fun f hf d hd => hc d ((hfunctions c f hf).symm.trans hd) }
  refine ⟨?_, rfl, ?_, rfl⟩
  · exact (outcome_evalWithin_eq_meaning (hwf none (by simp)) (by decide) 9 call).1
      (hfunctions none) _
  · refine (outcome_evalWithin_eq_meaning (hwf (some 0) (by simp)) (by decide) 9 call).2
      fun f hf => ?_
    rw [hfunctions (some 0) f hf]
    exact Option.some_ne_none 0

end SmallLisp
