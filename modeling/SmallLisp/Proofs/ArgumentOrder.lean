import SmallLisp.Proofs.Refinement
import SmallLisp.Proofs.Store.History

/-!
# The order of arguments

The arguments of an application are evaluated one after another, each in a scope of its own. What
an argument binds or defines stays in scopes that were made for it, so the next one sees what it
would have seen as the first. Whatever mix of functions the store binds, the value of an argument
is then its meaning under what is seen from the scope of the application, where closures see the
scopes they capture as these were before any argument was evaluated. So the order of the arguments
can only decide which of several errors comes out.

## Main definitions

* `Sees`: a store with all scopes of an earlier one, and a scope that shows only its functions
* `Evaluator.Reveals`: an evaluator that gives the meaning of a value in scopes that are new

## Main results

* `nestedWithin_reveals`: evaluation in a new scope gives the meaning within the same room
* `outcome_evalEach_eq_mapM`: values one after another are what each of them is alone
* `outcome_apply_of_extends`: a call gives the same after more scopes were added
* `arguments_independent`: the order of arguments does not matter for their values
-/

namespace SmallLisp

open StoreM

/-! ## What is seen in later stores -/

theorem Store.Extends.size_le {s s' : Store} (h : s.Extends s') :
    s.scopes.size ≤ s'.scopes.size := by
  by_contra hlt
  have hsc := h s'.scopes.size _ (Array.getElem?_eq_getElem (Nat.not_le.mp hlt))
  exact Nat.lt_irrefl _ (Array.getElem?_eq_some_iff.mp hsc).1

/-- The store `s` has all scopes of `H` as they were, and shows from the scope `i` only functions
that `H` binds. -/
structure Sees (H s : Store) (i : ScopeId) : Prop where
  keeps : H.Extends s
  grounded : s.Grounded i
  visible : (s.view i).All (· ∈ H.functions)

section Sight

variable {H s s' : Store} {i : ScopeId}

/-- The scopes of a well-formed store show the same in every store that extends it. -/
theorem Store.WellFormed.sees (hH : H.WellFormed) (hs : H.Extends s) (hi : i < H.scopes.size) :
    Sees H s i where
  keeps := hs
  grounded := (hH.grounded hi).of_extends hs
  visible := by
    rw [(hH.grounded hi).view_of_extends hs]
    exact fun x v hv f hf => Store.functions_of_find? hv hf

namespace Sees

theorem of_extends (h : Sees H s i) (hs : s.Extends s') : Sees H s' i where
  keeps := h.keeps.trans hs
  grounded := h.grounded.of_extends hs
  visible := by
    rw [h.grounded.view_of_extends hs]
    exact h.visible

theorem push (h : Sees H s i) (xs : List Symbol) {vs : List Value}
    (hvs : ∀ v ∈ vs, v.Holds (· ∈ H.functions)) :
    Sees H (s.push (Scope.putAll ⟨[], some i⟩ xs vs)) s.scopes.size where
  keeps := h.keeps.trans (s.extends_push _)
  grounded := h.grounded.push (Scope.outer_putAll _ xs vs)
  visible := by
    rw [h.grounded.view_push]
    exact h.visible.extendAll xs hvs

theorem child (h : Sees H s i) : Sees H (s.push ⟨[], some i⟩) s.scopes.size :=
  h.push [] (List.forall_mem_nil _)

/-- Symbols bound in a scope that is none of `H`. -/
theorem modify (h : Sees H s i) (hi : H.scopes.size ≤ i) (xs : List Symbol) {vs : List Value}
    (hvs : ∀ v ∈ vs, v.Holds (· ∈ H.functions)) :
    Sees H (s.modify i (·.putAll xs vs)) i where
  keeps j sc hj := by
    have hne : j ≠ i :=
      Nat.ne_of_lt (Nat.lt_of_lt_of_le (Array.getElem?_eq_some_iff.mp hj).1 hi)
    rw [Store.scopes_modify_of_ne _ hne]
    exact h.keeps j sc hj
  grounded := h.grounded.modify xs vs
  visible := by
    rw [h.grounded.view_modify]
    exact h.visible.extendAll xs hvs

end Sees

end Sight

/-! ## Evaluation in new scopes -/

/-- The evaluator `ev` gives the meaning `m` in every scope that is none of `H`. -/
def Evaluator.Reveals (H : Store) (ev : Evaluator) (m : Interpretation) : Prop :=
  ∀ (expr : Value) (i : ScopeId) (s : Store), Sees H s i → H.scopes.size ≤ i →
    outcome (ev expr i) s = m expr (s.view i)

/-- The meanings of several expressions are taken one by one, and none depends on another. -/
theorem meaningEach_eq_mapM (m : Interpretation) (ρ : Bindings) (exprs : List Value) :
    meaningEach m ρ exprs = exprs.mapM (m · ρ) := by
  induction exprs with
  | nil => rfl
  | cons expr exprs ih => rw [meaningEach, List.mapM_cons, ih]

section Steps

variable {H s : Store} {i : ScopeId}

/-- The scope of the evaluation is new, whether or not the one around it is. -/
theorem Evaluator.Reveals.evalInChild {ev : Evaluator} {m : Interpretation} (h : ev.Reveals H m)
    (hs : Sees H s i) (expr : Value) : outcome (evalInChild ev expr i) s = m expr (s.view i) := by
  rw [← hs.grounded.view_child]
  exact h expr s.scopes.size _ hs.child hs.keeps.size_le

theorem Evaluator.Reveals.evalEach {ev : Evaluator} {m : Interpretation} (h : ev.Reveals H m)
    (hlocal : ev.IsLocal) (hs : Sees H s i) (exprs : List Value) :
    outcome (evalEach ev i exprs) s = meaningEach m (s.view i) exprs := by
  induction exprs generalizing s with
  | nil => rfl
  | cons expr exprs ih =>
    have hgrows := hlocal.evalInChild expr i s
    rw [SmallLisp.evalEach, outcome_bind, h.evalInChild hs, meaningEach]
    congr 1
    funext v
    rw [outcome_bind, ih (hs.of_extends hgrows), hs.grounded.view_of_extends hgrows]
    rfl

variable {ev : Nested} {m : NestedInterpretation} (hev : ∀ taken, (ev taken).Reveals H (m taken))

include hev

theorem reveals_evalIf (hlocal : ∀ taken, (ev taken).IsLocal) (hs : Sees H s i) (room : Nat)
    (tail : List Value) :
    outcome (evalIf ev tail i) s = meaningSpecial room m .conditional tail (s.view i) := by
  match tail with
  | [condition, thenPart, elsePart] =>
    have hgrows := (hlocal partPlaces).evalInChild condition i s
    have hpart (part : Value) := (hev partPlaces).evalInChild (hs.of_extends hgrows) part
    rw [hs.grounded.view_of_extends hgrows] at hpart
    simp only [evalIf, meaningSpecial]
    rw [outcome_bind, (hev partPlaces).evalInChild hs]
    congr 1
    funext c
    cases c with
    | bool b =>
      cases b with
      | false => exact hpart elsePart
      | true => exact hpart thenPart
    | _ => exact hpart thenPart
  | [] => rfl
  | [_] => rfl
  | [_, _] => rfl
  | _ :: _ :: _ :: _ :: _ => rfl

theorem reveals_evalFormat (hs : Sees H s i) (room : Nat) (tail : List Value) :
    outcome (evalFormat (room - partPlaces) ev tail i) s =
      meaningSpecial room m .format tail (s.view i) := by
  cases tail with
  | nil => rfl
  | cons destination parts =>
    simp only [evalFormat, meaningSpecial]
    cases templateText (room - partPlaces) (splitFill parts).1 with
    | error fault => rfl
    | ok template =>
      cases (splitFill parts).2 with
      | none => rfl
      | some expr =>
        simp only [outcome_bind, outcome_ofResult]
        rw [(hev partPlaces).evalInChild hs]

/-! ### Calls -/

variable (hH : H.WellFormed)

include hH

/-- A closure runs in a new scope within one of `H`, wherever it is called. -/
theorem reveals_closure (hs : H.Extends s) (i : ScopeId) (ρ : Bindings) (room : Nat) {id : Nat}
    {name : Symbol} {params : List Symbol} {body : Value} {d : ScopeId}
    (hf : ⟨id, name, params, body, some d⟩ ∈ H.functions) {args : List Value}
    (hargs : ∀ v ∈ args, v.Holds (· ∈ H.functions)) :
    outcome (apply room ev (.function id name params body (some d)) args i) s =
      meaningApply H.view room m (.function id name params body (some d)) args ρ := by
  simp only [apply, applyFunction, meaningApply, calleeBindings]
  split
  · rfl
  · have hlt := hH.captured_lt _ hf d rfl
    have hsd := hH.sees hs hlt
    have hbody := hev bodyPlaces body s.scopes.size _ (hsd.push params hargs) hs.size_le
    rw [hsd.grounded.view_push, (hH.grounded hlt).view_of_extends hs] at hbody
    exact hbody

theorem reveals_apply (hs : Sees H s i) (hi : H.scopes.size ≤ i) (room : Nat) {head : Value}
    (hhead : head.Holds (· ∈ H.functions)) {args : List Value}
    (hargs : ∀ v ∈ args, v.Holds (· ∈ H.functions)) :
    outcome (apply room ev head args i) s = meaningApply H.view room m head args (s.view i) := by
  cases head with
  | function id name params body closure =>
    cases closure with
    | some d => exact reveals_closure hev hH hs.keeps i _ room (hhead _ (.head _)) hargs
    | none =>
      simp only [apply, applyFunction, meaningApply, calleeBindings]
      split
      · rfl
      · have hbody := (hev bodyPlaces).evalInChild (hs.modify hi params hargs) body
        rw [hs.grounded.view_modify] at hbody
        exact hbody
  | builtin b => exact outcome_ofResult _ s
  | _ => rfl

/-- Head, arguments and application reveal no more than their meaning. -/
theorem reveals_evalApplication (hlocal : ∀ taken, (ev taken).IsLocal)
    (hkeeps : ∀ taken, (m taken).Keeps (· ∈ H.functions)) (hs : Sees H s i)
    (hi : H.scopes.size ≤ i) (room : Nat) (head : Value) (tail : List Value) :
    outcome (evalApplication room ev head tail i) s =
      meaningApplication H.view room m head tail (s.view i) := by
  have hhead := (hlocal headPlaces).evalInChild head i s
  have htail := hhead.trans ((hlocal argumentPlaces).evalEach i tail _)
  have heach := (hev argumentPlaces).evalEach (hlocal _) (hs.of_extends hhead) tail
  rw [hs.grounded.view_of_extends hhead] at heach
  rw [evalApplication, meaningApplication, outcome_bind, (hev headPlaces).evalInChild hs]
  cases hf : m headPlaces head (s.view i) with
  | error e => rfl
  | ok f =>
    change outcome (_ >>= _) _ = (meaningEach _ _ _ >>= _)
    rw [outcome_bind, heach]
    cases hargs : meaningEach (m argumentPlaces) (s.view i) tail with
    | error e => rfl
    | ok args =>
      have happly := reveals_apply hev hH (hs.of_extends htail) hi (room - bodyPlaces)
        (hkeeps _ head _ f hs.visible hf) ((hkeeps _).meaningEach hs.visible hargs)
      rw [hs.grounded.view_of_extends htail] at happly
      exact happly

/-- **A step of evaluation reveals no more than its meaning.** -/
theorem step_reveals (hlocal : ∀ taken, (ev taken).IsLocal)
    (hkeeps : ∀ taken, (m taken).Keeps (· ∈ H.functions)) (mode : Scoping) (room : Nat) :
    Evaluator.Reveals H (step mode room ev) (meaningStep H.view room m) := by
  have items (items : List Value) {i : ScopeId} {s : Store} (hs : Sees H s i)
      (hi : H.scopes.size ≤ i) :
      outcome (evalItems mode room ev items i) s =
        meaningItems H.view room m items (s.view i) := by
    have application := reveals_evalApplication hev hH hlocal hkeeps hs hi room
    cases items with
    | nil => rfl
    | cons head tail =>
      cases head with
      | sym x =>
        simp only [evalItems, meaningItems]
        cases SpecialForm.ofSymbol? x with
        | none => exact application (.sym x) tail
        | some form =>
          cases form with
          | conditional => exact reveals_evalIf hev hlocal hs room tail
          | definition => exact outcome_evalDefun mode room tail _
          | format => exact reveals_evalFormat hev hs room tail
      | _ => exact application _ tail
  intro expr i s hs hi
  cases expr with
  | list vs => exact items vs hs hi
  | tuple vs => exact items vs hs hi
  | sym x =>
    simp only [step, meaningStep, Store.view, outcome, findSymbol]
    cases s.find? i x <;> rfl
  | _ => rfl

end Steps

section Meaning

variable {H : Store} (hH : H.WellFormed)

include hH

/-- The functions that meanings come to in a well-formed store are functions of that store. -/
theorem Store.WellFormed.nestedMeaning_keeps (room taken : Nat) :
    (nestedMeaning H.view room taken).Keeps (· ∈ H.functions) :=
  SmallLisp.nestedMeaning_keeps
    (fun f d hf hd => (hH.sees (.refl H) (hH.captured_lt f hf d hd)).visible) room taken

/-- **Evaluation in a new scope gives the meaning within the same room**, whatever mix of functions
there is. -/
theorem nestedWithin_reveals (mode : Scoping) (room taken : Nat) :
    Evaluator.Reveals H (nestedWithin mode room taken) (nestedMeaning H.view room taken) := by
  induction room generalizing taken with
  | zero => exact fun expr i s hs hi => rfl
  | succ room ih =>
    cases taken with
    | zero =>
      exact step_reveals ih hH (nestedWithin_isLocal mode room) (hH.nestedMeaning_keeps room) mode
        room
    | succ taken => exact ih taken

end Meaning

/-! ## Arguments one after another -/

section Arguments

variable {H s : Store} (hH : H.WellFormed) (hs : H.Extends s) {i : ScopeId}
  (hi : i < H.scopes.size) (mode : Scoping) (room taken : Nat)

include hH hs hi

/-- A value in a scope of its own is the same in every later store. -/
theorem outcome_evalInChild_of_extends (expr : Value) :
    outcome (evalInChild (nestedWithin mode room taken) expr i) s =
      outcome (evalInChild (nestedWithin mode room taken) expr i) H := by
  have hreveals := nestedWithin_reveals hH mode room taken
  rw [hreveals.evalInChild (hH.sees hs hi), hreveals.evalInChild (hH.sees (.refl H) hi),
    (hH.grounded hi).view_of_extends hs]

/-- **Values one after another are what each of them is alone**, up to the first that fails. -/
theorem outcome_evalEach_eq_mapM (exprs : List Value) :
    outcome (evalEach (nestedWithin mode room taken) i exprs) s =
      exprs.mapM fun expr => outcome (evalInChild (nestedWithin mode room taken) expr i) H := by
  have hreveals := nestedWithin_reveals hH mode room taken
  have hlocal := nestedWithin_isLocal mode room taken
  rw [hreveals.evalEach hlocal (hH.sees hs hi), meaningEach_eq_mapM,
    (hH.grounded hi).view_of_extends hs]
  congr 1
  funext expr
  rw [hreveals.evalInChild (hH.sees (.refl H) hi)]

theorem holds_of_outcome_evalInChild {expr v : Value}
    (hv : outcome (evalInChild (nestedWithin mode room taken) expr i) s = .ok v) :
    v.Holds (· ∈ H.functions) := by
  have hsees := hH.sees hs hi
  rw [(nestedWithin_reveals hH mode room taken).evalInChild hsees] at hv
  exact hH.nestedMeaning_keeps room taken expr _ v hsees.visible hv

theorem holds_of_outcome_evalEach {exprs vs : List Value}
    (hvs : outcome (evalEach (nestedWithin mode room taken) i exprs) s = .ok vs) :
    ∀ v ∈ vs, v.Holds (· ∈ H.functions) := by
  have hsees := hH.sees hs hi
  rw [(nestedWithin_reveals hH mode room taken).evalEach (nestedWithin_isLocal mode room taken)
    hsees] at hvs
  exact (hH.nestedMeaning_keeps room taken).meaningEach hsees.visible hvs

/-- **A call gives the same after more scopes were added.** -/
theorem outcome_apply_of_extends (free : Nat) {head : Value}
    (hhead : head.Holds (· ∈ H.functions)) {args : List Value}
    (hargs : ∀ v ∈ args, v.Holds (· ∈ H.functions)) :
    outcome (apply free (nestedWithin mode room) head args i) s =
      outcome (apply free (nestedWithin mode room) head args i) H := by
  have hreveals := nestedWithin_reveals hH mode room
  cases head with
  | function id name params body closure =>
    cases closure with
    | some d =>
      have hf := hhead _ (.head _)
      rw [reveals_closure hreveals hH hs i (H.view i) free hf hargs,
        reveals_closure hreveals hH (.refl H) i (H.view i) free hf hargs]
    | none =>
      simp only [apply, applyFunction]
      split
      · rfl
      · have hbound : (H.modify i (·.putAll params args)).WellFormed :=
          (Store.Change.bind i params fun v hv f hf =>
            hH.captured_lt f (hargs v hv f hf)).wellFormed hH
        exact outcome_evalInChild_of_extends hbound (hs.modify i _)
          ((H.size_modify i _).symm ▸ hi) mode room bodyPlaces body
  | builtin b => exact (outcome_ofResult _ s).trans (outcome_ofResult _ H).symm
  | _ => rfl

omit hs in
/-- An application gives what the values that its head and its arguments have alone give. -/
theorem outcome_evalApplication_alone (head : Value) (tail : List Value) :
    outcome (evalApplication room (nestedWithin mode room) head tail i) H = (do
      let f ← outcome (evalInChild (nestedWithin mode room headPlaces) head i) H
      let args ← tail.mapM fun arg =>
        outcome (evalInChild (nestedWithin mode room argumentPlaces) arg i) H
      outcome (apply (room - bodyPlaces) (nestedWithin mode room) f args i) H) := by
  have hhead := (nestedWithin_isLocal mode room headPlaces).evalInChild head i H
  have htail := (nestedWithin_isLocal mode room argumentPlaces).evalEach i tail
  have heach := outcome_evalEach_eq_mapM hH hhead hi mode room argumentPlaces tail
  rw [evalApplication, outcome_bind]
  cases hf : outcome (evalInChild (nestedWithin mode room headPlaces) head i) H with
  | error e => rfl
  | ok f =>
    change outcome (_ >>= _) _ = (List.mapM _ _ >>= _)
    rw [outcome_bind, ← heach]
    cases hargs : outcome (evalEach (nestedWithin mode room argumentPlaces) i tail) _ with
    | error e => rfl
    | ok args =>
      -- head and arguments only add scopes, so the call sees what it would see before them
      exact outcome_apply_of_extends hH (hhead.trans (htail _)) hi mode room _
        (holds_of_outcome_evalInChild hH (.refl H) hi mode room headPlaces hf)
        (holds_of_outcome_evalEach hH hhead hi mode room argumentPlaces hargs)

end Arguments

/-- **The arguments of an application do not depend on each other.** In a store whose scopes lie
within older ones, each of the arguments has a value if it is evaluated alone in a new scope within
the scope `i`. Then they have the same values if they are evaluated one after another, in any order,
and all scopes that were there stay as they were. Whether or not all of them have values, what comes
out of a sequence is what comes out of each alone, up to the first error. So an application gives
what it gives with the values that head and arguments have alone, and the order of the arguments
decides only which error comes first. -/
theorem arguments_independent {s : Store} (hs : s.WellFormed) {i : ScopeId}
    (hi : i < s.scopes.size) (mode : Scoping) (room : Nat) (args : List Value) :
    let ev := nestedWithin mode room
    let alone (arg : Value) := outcome (evalInChild (ev argumentPlaces) arg i) s
    ((∀ arg ∈ args, ∃ v, alone arg = .ok v) → ∀ order : List Value, order.Perm args →
      ∃ vs, outcome (evalEach (ev argumentPlaces) i order) s = .ok vs ∧
        List.Forall₂ (fun arg v => alone arg = .ok v) order vs ∧
        ∀ (j : ScopeId) (sc : Scope), s.scopes[j]? = some sc →
          (after (evalEach (ev argumentPlaces) i order) s).scopes[j]? = some sc) ∧
    (∀ order : List Value,
      outcome (evalEach (ev argumentPlaces) i order) s = order.mapM alone) ∧
    ∀ head : Value, (∀ x, head = .sym x → SpecialForm.ofSymbol? x = none) →
      outcome (evalWithin mode (room + 1) (.list (head :: args)) i) s = (do
        let f ← outcome (evalInChild (ev headPlaces) head i) s
        let vs ← args.mapM alone
        outcome (apply (room - bodyPlaces) ev f vs i) s) := by
  intro ev alone
  have heach (order : List Value) :
      outcome (evalEach (ev argumentPlaces) i order) s = order.mapM alone :=
    outcome_evalEach_eq_mapM hs (.refl s) hi mode room argumentPlaces order
  refine ⟨fun halone order hperm => ?_, heach, fun head hordinary => ?_⟩
  · obtain ⟨vs, hvs⟩ := exists_mapM_eq_ok fun arg harg => halone arg (hperm.mem_iff.mp harg)
    exact ⟨vs, (heach order).trans hvs, mapM_eq_ok_iff.mp hvs,
      (nestedWithin_isLocal mode room argumentPlaces).evalEach i order s⟩
  · have happlication : evalWithin mode (room + 1) (.list (head :: args)) i =
        evalApplication room ev head args i :=
      evalItems_of_ordinary args hordinary mode room ev i
    rw [happlication]
    exact outcome_evalApplication_alone hs hi mode room head args

/-- A call that binds a parameter in its own scope, a definition, and a call of a closure that
mentions what the other two bind: in the opposite order they have the same values. -/
theorem arguments_independent_reversed :
    let f : Value := .function 0 ⟨"f"⟩ [⟨"x"⟩] (.list [.sym ⟨"g"⟩, .sym ⟨"x"⟩]) none
    let g : Value := .function 1 ⟨"g"⟩ [⟨"y"⟩]
      (.list [.sym ⟨"if"⟩, .sym ⟨"x"⟩, .sym ⟨"y"⟩, .sym ⟨"y"⟩]) (some 0)
    let s : Store := ⟨#[⟨[(⟨"f"⟩, f), (⟨"g"⟩, g), (⟨"x"⟩, .int 1)], none⟩, ⟨[], some 0⟩], 2⟩
    let call : Value := .list [.sym ⟨"f"⟩, .int 7]
    let definition : Value := .list [.sym ⟨"defun"⟩, .sym ⟨"g"⟩, .list [], .sym ⟨"x"⟩]
    let other : Value := .list [.sym ⟨"g"⟩, .sym ⟨"x"⟩]
    let ev := nestedWithin .dynamic 20 argumentPlaces
    s.WellFormed ∧
      (∀ arg ∈ [call, definition, other], ∃ v, outcome (evalInChild ev arg 1) s = .ok v) ∧
      ∃ vs, outcome (evalEach ev 1 [other, definition, call]) s = .ok vs ∧
        List.Forall₂ (fun arg v => outcome (evalInChild ev arg 1) s = .ok v)
          [other, definition, call] vs ∧
        ∀ (j : ScopeId) (sc : Scope), s.scopes[j]? = some sc →
          (after (evalEach ev 1 [other, definition, call]) s).scopes[j]? = some sc := by
  intro f g s call definition other ev
  have hs : s.WellFormed := {
    outer_lt := by
      intro i o sc hsc ho
      match i with
      | 0 => cases hsc; cases ho
      | 1 => cases hsc; cases ho; exact Nat.zero_lt_one
      | _ + 2 => cases hsc
    captured_lt := by simp [s, f, g, Store.functions, Value.functions] }
  have hvalues : ∀ arg ∈ [call, definition, other],
      ∃ v, outcome (evalInChild ev arg 1) s = .ok v := by
    have hok : ∀ arg ∈ [call, definition, other],
        (outcome (evalInChild ev arg 1) s).isOk = true := by
      decide +kernel
    intro arg harg
    have harg := hok arg harg
    cases hv : outcome (evalInChild ev arg 1) s with
    | ok v => exact ⟨v, rfl⟩
    | error e =>
      rw [hv] at harg
      cases harg
  have hreversed : [other, definition, call].Perm [call, definition, other] :=
    List.reverse_perm [call, definition, other]
  exact ⟨hs, hvalues,
    (arguments_independent hs (by decide) .dynamic 20 _).1 hvalues _ hreversed⟩

end SmallLisp
