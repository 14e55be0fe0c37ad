import SmallLisp.Proofs.Store.Extension
import SmallLisp.Proofs.Value.Printing

/-!
# More room does not change a result

An evaluation that comes to its end within some room takes the same course within more of it. The
only thing that depends on the room is where evaluation, or the writing of a value, stops for want
of it. This error is passed on by everything that it comes up in, so an evaluation that ends in
another way never met it.

## Main definitions

* `StoreM.Persists`: a computation that takes the course of another, unless that one lacks room

## Main results

* `StoreM.Persists.bind`: computations one after another persist if each does
* `settles_ofParts`, `settles_filled`, `settles_call`: what a step gives by writing values settles
* `step_persists`: one step persists if what is nested in it does
* `nestedWithin_persists`: evaluation persists within more room
* `evaluate_of_le`: more room gives the same outcome and leaves the same store
-/

namespace SmallLisp

open StoreM

/-! ## Computations that lack no room -/

namespace StoreM

variable {α β : Type}

/-- Whenever `m` ends in another way than for want of room, `m'` ends in that way too, and leaves
the same store. -/
def Persists (m m' : StoreM α) : Prop :=
  ∀ s : Store, outcome m s ≠ .error .stackExhausted → m' s = m s

namespace Persists

theorem refl (m : StoreM α) : Persists m m :=
  fun _ _ => rfl

theorem ofResult {x y : Except Error α} (h : x ≠ .error .stackExhausted → y = x) :
    Persists (StoreM.ofResult x) (StoreM.ofResult y) := by
  intro s hs
  rw [outcome_ofResult] at hs
  rw [h hs]

/-- Computations one after another: what is lacking in the first part is lacking in the whole. -/
theorem bind {m m' : StoreM α} {f f' : α → StoreM β} (hm : Persists m m')
    (hf : ∀ a, Persists (f a) (f' a)) : Persists (m >>= f) (m' >>= f') := by
  intro s h
  have hfirst : m' s = m s := hm s (outcome_ne_error_of_bind h)
  cases hms : m s with
  | error e s₁ => simp only [Bind.bind, EStateM.bind, hfirst, hms]
  | ok a s₁ =>
    have hrest : outcome (f a) s₁ ≠ .error .stackExhausted := by
      obtain ⟨hok, rfl⟩ := eq_ok_iff.mp hms
      rw [outcome_bind, hok] at h
      exact h
    rw [bind_of_eq_ok (hfirst.trans hms), bind_of_eq_ok hms]
    exact hf a s₁ hrest

/-- With more room the outcome is the same, unless the smaller room was exhausted. -/
theorem outcome_eq {m m' : StoreM α} (h : Persists m m') {s : Store}
    (hs : outcome m s ≠ .error .stackExhausted) : outcome m' s = outcome m s := by
  rw [outcome, outcome, h s hs]

/-- With more room the store is the same, unless the smaller room was exhausted. -/
theorem after_eq {m m' : StoreM α} (h : Persists m m') {s : Store}
    (hs : outcome m s ≠ .error .stackExhausted) : after m' s = after m s := by
  rw [after, after, h s hs]

end Persists

end StoreM

/-! ## Values that are written on the way -/

/-- An error that shows a text settles if the text does. -/
theorem settles_showing {α : Type} {text : Nat → Except TextFault String}
    (h : Settles .stackExhausted text) (cause : String → Error) :
    Settles (α := α) Error.stackExhausted fun room => .error (.showing (text room) cause) := by
  intro m n hle hne
  have hm : text m ≠ .error .stackExhausted := fun he => hne (by simp only [he]; rfl)
  simp only [h hle hm]

/-- More room for the texts in errors changes nothing else about parameters. -/
theorem settles_parameters (vs : List Value) :
    Settles .stackExhausted fun room => parameters room vs := by
  induction vs with
  | nil => exact .const _
  | cons v vs ih =>
    cases v with
    | sym x => exact ih.map (x :: ·)
    | _ => exact settles_showing (Value.settles_render .inspected _) _

/-- **Definitions settle**, also where they fail. -/
theorem settles_ofParts (tail : List Value) :
    Settles .stackExhausted fun room => Definition.ofParts room tail := by
  have shown (v : Value) (cause : String → Error) :
      Settles (α := Definition) Error.stackExhausted
        fun room => .error (.showing (v.inspect room) cause) :=
    settles_showing (Value.settles_render .inspected v) cause
  unfold Definition.ofParts
  split
  · exact (settles_parameters _).map _
  · exact shown _ _
  · exact shown _ _
  · exact .const _

theorem settles_templateText (words : List Value) :
    Settles .stackExhausted fun room => templateText room words :=
  (Value.settles_renderAll .printed words).map _

/-- More room changes no filling that could be written. -/
theorem settles_filled (template : String) (v : Value) :
    Settles .stackExhausted fun room => filled room template v := by
  intro m n hle hne
  have hm : v.print m ≠ .error .stackExhausted := fun he => hne (by simp only [filled, he]; rfl)
  have hn : v.print n = v.print m := Value.settles_render .printed v hle hm
  simp only [filled, hn]

theorem settles_extension (e : Extension) (name : String) (args : List Value) :
    Settles .stackExhausted fun room => e.run room name args := by
  cases e with
  | print =>
    intro m n hle hne
    have hm : Value.renderAll .printed m args ≠ .error .stackExhausted :=
      fun he => hne (by simp only [Extension.run, he]; rfl)
    have hn : Value.renderAll .printed n args = Value.renderAll .printed m args :=
      Value.settles_renderAll .printed args hle hm
    simp only [Extension.run, hn]
  | _ => exact .const _

/-- **Calls of built-in procedures settle.** -/
theorem settles_call (b : Builtin) (args : List Value) :
    Settles .stackExhausted fun room => b.call room args := by
  have hrun : Settles .stackExhausted fun room => b.runOperation room args := by
    unfold Builtin.runOperation
    split
    · exact settles_extension _ _ _
    · exact .const _
  unfold Builtin.call
  split
  · split
    · exact .const _
    · exact hrun
  · exact hrun

/-! ## One step -/

/-- Whatever the one evaluator gives without lack of room, the other gives too. -/
def Evaluator.Persists (ev ev' : Evaluator) : Prop :=
  ∀ (expr : Value) (i : ScopeId), StoreM.Persists (ev expr i) (ev' expr i)

namespace Evaluator.Persists

variable {ev ev' : Evaluator}

theorem evalInChild (h : ev.Persists ev') (expr : Value) (i : ScopeId) :
    StoreM.Persists (evalInChild ev expr i) (evalInChild ev' expr i) :=
  .bind (.refl _) fun child => h expr child

theorem evalEach (h : ev.Persists ev') (i : ScopeId) (exprs : List Value) :
    StoreM.Persists (evalEach ev i exprs) (evalEach ev' i exprs) := by
  induction exprs with
  | nil => exact .refl _
  | cons expr exprs ih =>
    refine .bind (h.evalInChild expr i) fun v => ?_
    exact .bind ih fun vs => .refl _

end Evaluator.Persists

section Step

variable {ev ev' : Nested} (hev : ∀ taken, (ev taken).Persists (ev' taken))

variable {m n : Nat} (hle : m ≤ n)

include hev

theorem persists_evalIf (tail : List Value) (i : ScopeId) :
    Persists (evalIf ev tail i) (evalIf ev' tail i) := by
  unfold evalIf
  split
  · refine .bind ((hev partPlaces).evalInChild _ i) fun c => ?_
    split
    · exact (hev partPlaces).evalInChild _ i
    · exact (hev partPlaces).evalInChild _ i
  · exact .refl _

include hle in
/-- What a format form does persists with more room. -/
theorem persists_evalFormat (tail : List Value) (i : ScopeId) :
    Persists (evalFormat m ev tail i) (evalFormat n ev' tail i) := by
  cases tail with
  | nil => exact .refl _
  | cons destination parts =>
    by_cases hlack : templateText m (splitFill parts).1 = .error .stackExhausted
    · intro s hs
      exact absurd (by simp only [evalFormat, hlack]; rfl) hs
    · have htemplate := settles_templateText (splitFill parts).1 hle hlack
      simp only [evalFormat, htemplate]
      split
      · exact .refl _
      · exact .refl _
      · refine .bind ((hev partPlaces).evalInChild _ i) fun v => ?_
        exact .ofResult (settles_filled _ v hle)

/-- What a call does persists with more room. -/
theorem persists_applyFunction (name : Symbol) (params : List Symbol) (body : Value)
    (closure : Option ScopeId) (args : List Value) (i : ScopeId) :
    Persists (applyFunction ev name params body closure args i)
      (applyFunction ev' name params body closure args i) := by
  unfold applyFunction
  split
  · exact .refl _
  · cases closure with
    | some defining => exact .bind (.refl _) fun inner => hev bodyPlaces body inner
    | none => exact .bind (.refl _) fun _ => (hev bodyPlaces).evalInChild body i

include hle

/-- Only the call of a function evaluates anything. -/
theorem persists_apply (head : Value) (args : List Value) (i : ScopeId) :
    Persists (apply m ev head args i) (apply n ev' head args i) := by
  have shown (v : Value) : Persists (α := Value) (throw (.showing (v.inspect m) .notApplicable))
      (throw (.showing (v.inspect n) .notApplicable)) :=
    .ofResult (settles_showing (Value.settles_render .inspected v) .notApplicable hle)
  cases head with
  | function id name params body closure =>
    exact persists_applyFunction hev name params body closure args i
  | builtin b => exact .ofResult (settles_call b args hle)
  | nothing => exact shown _
  | sym x => exact shown _
  | list vs => exact shown _
  | tuple vs => exact shown _
  | _ => exact .refl _

theorem persists_evalApplication (head : Value) (tail : List Value) (i : ScopeId) :
    Persists (evalApplication m ev head tail i) (evalApplication n ev' head tail i) := by
  refine .bind ((hev headPlaces).evalInChild head i) fun f => ?_
  refine .bind ((hev argumentPlaces).evalEach i tail) fun args => ?_
  exact persists_apply hev (Nat.sub_le_sub_right hle bodyPlaces) f args i

theorem persists_evalItems (mode : Scoping) (items : List Value) (i : ScopeId) :
    Persists (evalItems mode m ev items i) (evalItems mode n ev' items i) := by
  have hpart := Nat.sub_le_sub_right hle partPlaces
  cases items with
  | nil => exact .refl _
  | cons head tail =>
    have application := persists_evalApplication hev hle head tail i
    cases head with
    | sym x =>
      simp only [evalItems]
      cases SpecialForm.ofSymbol? x with
      | none => exact application
      | some form =>
        cases form with
        | conditional => exact persists_evalIf hev tail i
        | definition =>
          refine .bind (.ofResult (settles_ofParts tail hpart)) fun d => ?_
          exact .refl _
        | format => exact persists_evalFormat hev hpart tail i
    | _ => exact application

/-- **One step persists** if what is nested in it does. -/
theorem step_persists (mode : Scoping) :
    Evaluator.Persists (step mode m ev) (step mode n ev') := by
  intro expr i
  have shown (v : Value) : Persists (α := Value) (throw (.showing (v.inspect m) .notEvaluable))
      (throw (.showing (v.inspect n) .notEvaluable)) :=
    .ofResult (settles_showing (Value.settles_render .inspected v) .notEvaluable hle)
  cases expr with
  | list items => exact persists_evalItems hev hle mode items i
  | tuple items => exact persists_evalItems hev hle mode items i
  | nothing => exact shown _
  | str t => exact shown _
  | function id name params body closure => exact shown _
  | builtin b => exact shown _
  | _ => exact .refl _

end Step

/-! ## Whole evaluations -/

/-- **Evaluation persists within more room**, whatever part of it is taken first. -/
theorem nestedWithin_persists (mode : Scoping) {m n : Nat} (h : m ≤ n) (taken : Nat) :
    (nestedWithin mode m taken).Persists (nestedWithin mode n taken) := by
  -- by the smaller room; with none left it is lacking at once
  induction m generalizing n taken with
  | zero => exact fun expr i s hs => absurd rfl hs
  | succ m ih =>
    obtain ⟨n, rfl⟩ := Nat.exists_eq_add_one_of_ne_zero (Nat.ne_zero_of_lt h)
    have hle : m ≤ n := Nat.le_of_succ_le_succ h
    cases taken with
    | zero => exact step_persists (fun taken => ih hle taken) hle mode
    | succ taken => exact ih hle taken

/-- **More room does not change a result.** An evaluation in any store and scope that does not end
with the error of too deep nesting gives the same value, or fails with the same error, within more
room, and it leaves the same store: the same bindings in every scope, old and new. -/
theorem evaluate_of_le {m n : Nat} (h : m ≤ n) (mode : Scoping) (expr : Value) (i : ScopeId)
    (s : Store) (hs : outcome (evaluate mode m expr i) s ≠ .error .recursion) :
    outcome (evaluate mode n expr i) s = outcome (evaluate mode m expr i) s ∧
      after (evaluate mode n expr i) s = after (evaluate mode m expr i) s := by
  have hroom : outcome (evalWithin mode m expr i) s ≠ .error .stackExhausted := by
    intro hlack
    rw [outcome_evaluate, hlack] at hs
    exact hs rfl
  have hpersists := nestedWithin_persists mode h 0 expr i
  constructor
  · rw [outcome_evaluate, outcome_evaluate]
    exact congrArg (Except.mapError reportedError) (hpersists.outcome_eq hroom)
  · rw [after_evaluate, after_evaluate]
    exact hpersists.after_eq hroom

/-- A call binds its parameter in the scope of the call and then fails, within four places and so
within ten thousand. Within three it lacks room. -/
theorem evaluate_of_le_failing_call :
    let s : Store := ⟨#[⟨[(⟨"f"⟩, .function 0 ⟨"f"⟩ [⟨"x"⟩] (.sym ⟨"y"⟩) none)], none⟩], 1⟩
    let call : Value := .list [.sym ⟨"f"⟩, .int 7]
    outcome (evaluate .dynamic 3 call 0) s = .error .recursion ∧
      outcome (evaluate .dynamic 4 call 0) s = .error (.unbound "y") ∧
      outcome (evaluate .dynamic 10000 call 0) s = .error (.unbound "y") ∧
      (after (evaluate .dynamic 10000 call 0) s).find? 0 ⟨"x"⟩ = some (.int 7) := by
  intro s call
  have hfails : outcome (evaluate .dynamic 4 call 0) s = .error (.unbound "y") := rfl
  have hother : outcome (evaluate .dynamic 4 call 0) s ≠ .error .recursion := by
    rw [hfails]
    exact nofun
  obtain ⟨houtcome, hafter⟩ := evaluate_of_le (by decide : 4 ≤ 10000) .dynamic call 0 s hother
  exact ⟨rfl, hfails, houtcome.trans hfails, by rw [hafter]; rfl⟩

end SmallLisp
