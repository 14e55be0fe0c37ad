import SmallLisp.Builtin.Call
import SmallLisp.Proofs.Value.Related

/-!
# Built-in procedures on related values

A built-in procedure treats functions as opaque: it may pass them on, put them into lists and
tuples and tell them apart, but it never looks at the scope that a function captures, and it makes
no functions. So related arguments give related results.

## Main definitions

* `SameOutcome`: results that are related values or the same error

## Main results

* `Builtin.call_related`: related arguments give related results
* `Builtin.functions_call`: what holds of all functions within the arguments holds of all functions
  within the result
-/

namespace SmallLisp

/-! ## Results in step -/

/-- Both results are values in the relation `P`, or both are the same error. -/
inductive SameOutcome {ε α β : Type} (P : α → β → Prop) : Except ε α → Except ε β → Prop
  | ok {a : α} {b : β} (h : P a b) : SameOutcome P (.ok a) (.ok b)
  | error (e : ε) : SameOutcome P (.error e) (.error e)

namespace SameOutcome

variable {ε ε' α β α' β' : Type} {P : α → β → Prop} {Q : α' → β' → Prop}

theorem bind {x : Except ε α} {y : Except ε β} {f : α → Except ε α'} {g : β → Except ε β'}
    (h : SameOutcome P x y) (hfg : ∀ a b, P a b → SameOutcome Q (f a) (g b)) :
    SameOutcome Q (x >>= f) (y >>= g) := by
  cases h with
  | ok hab => exact hfg _ _ hab
  | error e => exact .error e

theorem map {x : Except ε α} {y : Except ε β} {f : α → α'} {g : β → β'} (h : SameOutcome P x y)
    (hfg : ∀ a b, P a b → Q (f a) (g b)) : SameOutcome Q (x.map f) (y.map g) := by
  cases h with
  | ok hab => exact .ok (hfg _ _ hab)
  | error e => exact .error e

theorem mapError {x : Except ε α} {y : Except ε β} (h : SameOutcome P x y) (f : ε → ε') :
    SameOutcome P (x.mapError f) (y.mapError f) := by
  cases h with
  | ok hab => exact .ok hab
  | error e => exact .error (f e)

/-- A result is in step with itself if its value is related to itself. -/
theorem refl {P : α → α → Prop} (x : Except ε α) (h : ∀ a, P a a) : SameOutcome P x x := by
  cases x with
  | ok a => exact .ok (h a)
  | error e => exact .error e

theorem of_eq {x y : Except ε α} (h : x = y) : SameOutcome Eq x y :=
  h ▸ refl x fun _ => rfl

end SameOutcome

open Value (Related)

variable {R : FunctionData → FunctionData → Prop} {v v' w w' : Value} {vs ws : List Value}

/-! ## Arguments -/

theorem asReal_eq (h : Related R v w) : v.asReal = w.asReal := by
  cases h <;> rfl

theorem asInteger_eq (h : Related R v w) : v.asInteger = w.asInteger := by
  cases h <;> rfl

theorem ne_nothing (h : Related R v w) (hv : v ≠ .nothing) : w ≠ .nothing := by
  rintro rfl
  cases h
  exact hv rfl

/-- Related values have related items. -/
theorem asItems_related (h : Related R v w) :
    SameOutcome (List.Forall₂ (Related R)) v.asItems w.asItems := by
  cases h with
  | function data => exact .error _
  | list items => exact .ok items
  | tuple items => exact .ok items
  | atom plain =>
    cases v with
    | str t =>
      refine .ok (List.forall₂_same.mpr fun u hu => ?_)
      obtain ⟨c, -, rfl⟩ := List.mem_map.mp hu
      exact .atom rfl
    | list us => cases plain
    | tuple us => cases plain
    | _ => exact .error _

theorem oneArgument_related (name : String) (h : List.Forall₂ (Related R) vs ws) :
    SameOutcome (Related R) (oneArgument name vs) (oneArgument name ws) := by
  have hlen := h.length_eq
  match h with
  | .nil => exact .error _
  | .cons hv .nil => exact .ok hv
  | .cons hv (.cons hw hs) =>
    simp only [oneArgument, hlen]
    exact .error _

theorem twoArguments_related (name : String) (h : List.Forall₂ (Related R) vs ws) :
    SameOutcome (fun p q => Related R p.1 q.1 ∧ Related R p.2 q.2)
      (twoArguments name vs) (twoArguments name ws) := by
  have hlen := h.length_eq
  match h with
  | .nil => exact .error _
  | .cons hv .nil => exact .error _
  | .cons hv (.cons hw .nil) => exact .ok ⟨hv, hw⟩
  | .cons hv (.cons hw (.cons hu hs)) =>
    simp only [twoArguments, hlen]
    exact .error _

/-! ## Results without functions -/

/-- A result that is an error, or a value with nothing within. -/
def IsAtomic (x : Except Fault Value) : Prop :=
  ∀ v, x = .ok v → v.isAtom = true

namespace IsAtomic

theorem ok (h : v.isAtom = true) : IsAtomic (.ok v) := by
  rintro _ ⟨⟩
  exact h

theorem error (e : Fault) : IsAtomic (.error e) := nofun

theorem bind {α : Type} {x : Except Fault α} {f : α → Except Fault Value}
    (h : ∀ a, IsAtomic (f a)) : IsAtomic (x >>= f) := by
  cases x with
  | ok a => exact h a
  | error e => exact error e

theorem map {α : Type} {x : Except Fault α} {f : α → Value} (h : ∀ a, (f a).isAtom = true) :
    IsAtomic (x.map f) := by
  cases x with
  | ok a => exact ok (h a)
  | error e => exact error e

theorem ite {p : Prop} [Decidable p] {x y : Except Fault Value} (hx : IsAtomic x)
    (hy : IsAtomic y) : IsAtomic (if p then x else y) := by
  split
  · exact hx
  · exact hy

/-- The same result from related arguments. -/
theorem related {x y : Except Fault Value} (hx : IsAtomic x) (h : x = y) :
    SameOutcome (Related R) x y := by
  subst h
  cases x with
  | ok v => exact .ok (.atom (hx v rfl))
  | error e => exact .error e

end IsAtomic

/-! ## Arithmetic -/

theorem isAtomic_intArithmetic (op : Arithmetic) (a b : Int) :
    IsAtomic (Num.intArithmetic op a b) := by
  cases op with
  | div => exact .map fun _ => rfl
  | _ => exact .ok rfl

theorem isAtomic_floatArithmetic (op : Arithmetic) (x y : Number.Double) :
    IsAtomic (Num.floatArithmetic op x y) := by
  cases op with
  | div => exact .ite (.error _) (.ok rfl)
  | _ => exact .ok rfl

/-- Arithmetic on numbers gives an atom or fails. -/
theorem isAtomic_arithmetic (op : Arithmetic) (a b : Num) : IsAtomic (Num.arithmetic op a b) := by
  cases a with
  | int m =>
    cases b with
    | int n => exact isAtomic_intArithmetic op m n
    | float y => exact .bind fun x => .bind fun y => isAtomic_floatArithmetic op x y
  | float x => exact .bind fun x => .bind fun y => isAtomic_floatArithmetic op x y

theorem repeatList_related (n : Nat) (h : List.Forall₂ (Related R) vs ws) :
    List.Forall₂ (Related R) (repeatList n vs) (repeatList n ws) := by
  induction n with
  | zero => exact .nil
  | succ n ih => exact List.rel_append h ih

theorem repeatedItems_related (width : Nat) (n : Int) (h : List.Forall₂ (Related R) vs ws) :
    SameOutcome (List.Forall₂ (Related R)) (repeatedItems width vs n)
      (repeatedItems width ws n) := by
  have hempty : vs.isEmpty = ws.isEmpty := by cases h <;> rfl
  simp only [repeatedItems, hempty, h.length_eq]
  split
  · exact .ok .nil
  · split
    · exact .error _
    · exact .ok (repeatList_related _ h)

theorem repeated_related (hv : Related R v v') (hw : Related R w w') :
    SameOutcome (Related R) (repeated v w) (repeated v' w') := by
  simp only [repeated, hw.int?_eq, hw.kind_eq]
  split
  · exact .error _
  · split
    · exact .error _
    · cases hv with
      | function data => exact .error _
      | list items => exact .map (repeatedItems_related _ _ items) fun _ _ h => .list h
      | tuple items => exact .map (repeatedItems_related _ _ items) fun _ _ h => .tuple h
      | atom plain =>
        cases v with
        | list us => cases plain
        | tuple us => cases plain
        | str t =>
          refine IsAtomic.related ?_ rfl
          exact .ite (.error _) (.map fun _ => rfl)
        | _ => exact .error _

theorem isAtomic_concatenated (h : v.isAtom = true) : IsAtomic (concatenated v w) := by
  unfold concatenated
  split
  · exact .ok rfl
  · cases h
  · cases h
  · exact .error _

/-- Related values put together are related. -/
theorem concatenated_related (hv : Related R v v') (hw : Related R w w') :
    SameOutcome (Related R) (concatenated v w) (concatenated v' w') := by
  cases hv with
  | function data => cases hw <;> exact .error _
  | list items =>
    cases hw with
    | list items' => exact .ok (.list (List.rel_append items items'))
    | atom plain =>
      cases w with
      | list us => cases plain
      | _ => exact .error _
    | _ => exact .error _
  | tuple items =>
    cases hw with
    | tuple items' => exact .ok (.tuple (List.rel_append items items'))
    | atom plain =>
      cases w with
      | tuple us => cases plain
      | _ => exact .error _
    | _ => exact .error _
  | atom plain =>
    refine (isAtomic_concatenated plain).related ?_
    cases v with
    | list us => cases plain
    | tuple us => cases plain
    | _ => cases hw <;> rfl

theorem isSequence_eq (h : Related R v w) : v.isSequence = w.isSequence := by
  cases h <;> rfl

/-- Arithmetic does not tell related values apart. -/
theorem arithmetic_run_related (op : Arithmetic) (hv : Related R v v') (hw : Related R w w') :
    SameOutcome (Related R) (op.run v w) (op.run v' w') := by
  simp only [Arithmetic.run, hv.num?_eq, hw.num?_eq, hv.kind_eq, hw.kind_eq, isSequence_eq hv,
    isSequence_eq hw]
  split
  · exact (isAtomic_arithmetic op _ _).related rfl
  · cases op with
    | add =>
      dsimp only
      split
      · exact concatenated_related hv hw
      · exact .error _
    | mul =>
      dsimp only
      split
      · exact repeated_related hv hw
      · split
        · exact repeated_related hw hv
        · exact .error _
    | _ => exact .error _

/-! ## Sequences -/

theorem pick_related (e : Extreme) (hv : Related R v v') (h : List.Forall₂ (Related R) vs ws) :
    SameOutcome (Related R) (e.pick v vs) (e.pick v' ws) := by
  induction h generalizing v v' with
  | nil => exact .ok hv
  | cons hw _ ih =>
    refine .bind (.of_eq (hw.compare_eq e.comparison hv)) ?_
    rintro better _ rfl
    split
    · exact ih hw
    · exact ih hv

theorem extreme_run_related (e : Extreme) (h : List.Forall₂ (Related R) vs ws) :
    SameOutcome (Related R) (e.run vs) (e.run ws) := by
  match h with
  | .nil => exact .error _
  | .cons hv .nil =>
    refine .bind (asItems_related hv) fun us us' hus => ?_
    cases hus with
    | nil => exact .error _
    | cons hu hus => exact pick_related e hu hus
  | .cons hv (.cons hw hs) => exact pick_related e hv (.cons hw hs)

theorem multiplyAll_related (hv : Related R v v') (h : List.Forall₂ (Related R) vs ws) :
    SameOutcome (Related R) (multiplyAll v vs) (multiplyAll v' ws) := by
  induction h generalizing v v' with
  | nil => exact .ok hv
  | cons hw _ ih => exact .bind (arithmetic_run_related .mul hv hw) fun _ _ h => ih h

theorem prod_related (h : List.Forall₂ (Related R) vs ws) :
    SameOutcome (Related R) (Primitive.prod vs) (Primitive.prod ws) := by
  have hlen := h.length_eq
  match h with
  | .cons hv .nil =>
    exact .bind (asItems_related hv) fun _ _ hus => multiplyAll_related (.atom rfl) hus
  | .nil => exact .error _
  | .cons hv (.cons hw hs) =>
    simp only [Primitive.prod, hlen]
    split <;> exact .error _

/-! ## Functions of integers -/

theorem isAtomic_wholeOf (f : Bool → Nat → Int → Int) (x : Number.Double) :
    IsAtomic (wholeOf f x) := by
  unfold wholeOf
  split
  · exact .ok rfl
  · exact .error _
  · exact .error _

theorem integerPart_related (p : IntegerPart) (h : Related R v w) :
    SameOutcome (Related R) (p.run v) (p.run w) := by
  refine IsAtomic.related ?_ (by cases h <;> rfl)
  unfold IntegerPart.run
  split
  · exact isAtomic_wholeOf _ _
  · split
    · exact .ok rfl
    · split <;> exact .error _

theorem abs_related (h : Related R v w) :
    SameOutcome (Related R) (Primitive.abs v) (Primitive.abs w) := by
  refine IsAtomic.related ?_ (by cases h <;> rfl)
  unfold Primitive.abs
  split
  · exact .ok rfl
  · split
    · exact .ok rfl
    · exact .error _

theorem isAtomic_factorial (v : Value) : IsAtomic (Primitive.factorial v) :=
  .bind fun _ => .ite (.error _) (.ite (.error _) (.ok rfl))

theorem factorial_related (h : Related R v w) :
    SameOutcome (Related R) (Primitive.factorial v) (Primitive.factorial w) := by
  refine (isAtomic_factorial v).related ?_
  simp only [Primitive.factorial, asInteger_eq h]

theorem chosen_eq (hv : Related R v v') (hw : Related R w w') : chosen v w = chosen v' w' := by
  simp only [chosen, asInteger_eq hv, asInteger_eq hw]

theorem comb_related (hv : Related R v v') (hw : Related R w w') :
    SameOutcome (Related R) (Primitive.comb v w) (Primitive.comb v' w') := by
  refine IsAtomic.related ?_ ?_
  · exact .bind fun _ => .ite (.error _) (.ok rfl)
  · simp only [Primitive.comb, chosen_eq hv hw]

theorem isqrt_related (h : Related R v w) :
    SameOutcome (Related R) (Primitive.isqrt v) (Primitive.isqrt w) := by
  refine IsAtomic.related ?_ ?_
  · exact .bind fun _ => .ite (.error _) (.ok rfl)
  · simp only [Primitive.isqrt, asInteger_eq h]

theorem asIntegers_eq (h : List.Forall₂ (Related R) vs ws) : asIntegers vs = asIntegers ws := by
  induction h with
  | nil => rfl
  | cons hv _ ih => rw [asIntegers, asIntegers, asInteger_eq hv, ih]

/-- What is computed from integers alone. -/
theorem integers_related (f : List Int → Value) (hf : ∀ ns, (f ns).isAtom = true)
    (h : List.Forall₂ (Related R) vs ws) :
    SameOutcome (Related R) (asIntegers vs >>= fun ns => .ok (f ns))
      (asIntegers ws >>= fun ns => .ok (f ns)) := by
  rw [asIntegers_eq h]
  exact IsAtomic.related (.bind fun ns => .ok (hf ns)) rfl

/-- The number of ways to choose, where the second argument counts. -/
theorem perm_of_ne_nothing (h : w ≠ .nothing) :
    Primitive.perm [v, w] = chosen v w >>= fun p =>
      if p.2 ≤ p.1 ∧ maxWord < p.2 then .error (.countTooLarge "k")
      else .ok (.int (Number.permutations p.1 p.2)) := by
  cases w with
  | nothing => exact absurd rfl h
  | _ => rfl

theorem perm_related (h : List.Forall₂ (Related R) vs ws) :
    SameOutcome (Related R) (Primitive.perm vs) (Primitive.perm ws) := by
  have hlen := h.length_eq
  match h with
  | .nil => exact .error _
  | .cons hv .nil => exact factorial_related hv
  | .cons hv (.cons (a := w) hw .nil) =>
    by_cases hn : w = .nothing
    · subst hn
      cases hw
      exact factorial_related hv
    · rw [perm_of_ne_nothing hn, perm_of_ne_nothing (ne_nothing hw hn), chosen_eq hv hw]
      exact IsAtomic.related (.bind fun _ => .ite (.error _) (.ok rfl)) rfl
  | .cons hv (.cons hw (.cons hu hs)) =>
    simp only [Primitive.perm, hlen]
    exact .error _

theorem roundToInteger_related (h : Related R v w) :
    SameOutcome (Related R) (roundToInteger v) (roundToInteger w) := by
  refine IsAtomic.related ?_ (by cases h <;> rfl)
  unfold roundToInteger
  split
  · exact isAtomic_wholeOf _ _
  · split
    · exact .ok rfl
    · exact .error _

/-- Rounding to places. -/
theorem round_of_ne_nothing (h : w ≠ .nothing) :
    Primitive.round [v, w] = match v with
      | .float x => w.asInteger >>= fun n => roundFloat x n
      | v =>
        match v.int? with
        | some n => w.asInteger >>= fun places => pure (roundWhole n places)
        | none => .error (.noMethod v.kind "__round__") := by
  cases w with
  | nothing => exact absurd rfl h
  | _ => cases v <;> rfl

theorem round_related (h : List.Forall₂ (Related R) vs ws) :
    SameOutcome (Related R) (Primitive.round vs) (Primitive.round ws) := by
  have hlen := h.length_eq
  match h with
  | .nil => exact .error _
  | .cons hv .nil => exact roundToInteger_related hv
  | .cons hv (.cons (a := w) hw .nil) =>
    by_cases hn : w = .nothing
    · subst hn
      cases hw
      exact roundToInteger_related hv
    · rw [round_of_ne_nothing hn, round_of_ne_nothing (ne_nothing hw hn), asInteger_eq hw]
      refine IsAtomic.related ?_ (by cases hv <;> rfl)
      split
      · exact .bind fun _ => .ite (.error _) (.ok rfl)
      · split
        · exact .bind fun _ => .ok rfl
        · exact .error _
  | .cons hv (.cons hw (.cons hu hs)) =>
    simp only [Primitive.round, hlen]
    exact .error _

/-! ## Functions of floats -/

theorem logarithm_eval_eq (l : Logarithm) (h : Related R v w) : l.eval v = l.eval w := by
  simp only [Logarithm.eval, h.int?_eq, asReal_eq h]

theorem logarithm_related (l : Logarithm) (h : List.Forall₂ (Related R) vs ws) :
    SameOutcome (Related R) (l.run vs) (l.run ws) := by
  have one (l : Logarithm) : SameOutcome (Related R)
      (oneMathArgument l.name vs >>= fun v => l.eval v >>= fun x => pure (.float x))
      (oneMathArgument l.name ws >>= fun v => l.eval v >>= fun x => pure (.float x)) := by
    refine .bind (oneArgument_related _ h) fun v w hvw => ?_
    rw [logarithm_eval_eq l hvw]
    exact IsAtomic.related (.bind fun _ => .ok rfl) rfl
  cases l with
  | binary => exact one .binary
  | decimal => exact one .decimal
  | natural =>
    match h with
    | .nil => exact .error _
    | .cons hv .nil =>
      refine IsAtomic.related (.map fun _ => rfl) ?_
      simp only [Logarithm.run, logarithm_eval_eq _ hv]
    | .cons hv (.cons hw .nil) =>
      refine IsAtomic.related (.bind fun _ => .bind fun _ => .ite (.error _) (.ok rfl)) ?_
      simp only [Logarithm.run, logarithm_eval_eq _ hv, logarithm_eval_eq _ hw]
    | .cons hv (.cons hw (.cons hu hs)) => exact .error _

theorem isClose_related (h : List.Forall₂ (Related R) vs ws) :
    SameOutcome (Related R) (Primitive.isClose vs) (Primitive.isClose ws) := by
  have hlen := h.length_eq
  match h with
  | .nil => exact .error _
  | .cons hv .nil => exact .error _
  | .cons hv (.cons hw .nil) =>
    refine IsAtomic.related (.bind fun _ => .bind fun _ => .ok rfl) ?_
    simp only [Primitive.isClose, asReal_eq hv, asReal_eq hw]
  | .cons hv (.cons hw (.cons hu hs)) =>
    simp only [Primitive.isClose, hlen]
    split <;> exact .error _

theorem ldexp_related (hv : Related R v v') (hw : Related R w w') :
    SameOutcome (Related R) (Primitive.ldexp v w) (Primitive.ldexp v' w') := by
  simp only [Primitive.ldexp, asReal_eq hv, hw.int?_eq]
  refine IsAtomic.related (.bind fun _ => ?_) rfl
  split
  · exact .error _
  · exact .ite (.error _) (.ok rfl)

theorem asReals_eq (h : List.Forall₂ (Related R) vs ws) : asReals vs = asReals ws := by
  induction h with
  | nil => rfl
  | cons hv _ ih => rw [asReals, asReals, asReal_eq hv, ih]

theorem hypot_related (h : List.Forall₂ (Related R) vs ws) :
    SameOutcome (Related R) (Primitive.hypot vs) (Primitive.hypot ws) := by
  refine IsAtomic.related (.bind fun _ => .ok rfl) ?_
  rw [Primitive.hypot, Primitive.hypot, asReals_eq h]

theorem differences_eq {us us' : List Value} (h : List.Forall₂ (Related R) vs ws)
    (hu : List.Forall₂ (Related R) us us') : differences vs us = differences ws us' := by
  induction h generalizing us us' with
  | nil => rfl
  | cons hv _ ih =>
    cases hu with
    | nil => rfl
    | cons hu hus => rw [differences, differences, asReal_eq hv, asReal_eq hu, ih hus]

theorem dist_related (hv : Related R v v') (hw : Related R w w') :
    SameOutcome (Related R) (Primitive.dist v w) (Primitive.dist v' w') := by
  refine .bind (asItems_related hv) fun p p' hp => ?_
  refine .bind (asItems_related hw) fun q q' hq => ?_
  rw [hp.length_eq, hq.length_eq, differences_eq hp hq]
  exact IsAtomic.related (.ite (.error _) (.bind fun _ => .ok rfl)) rfl

theorem addTerms_eq (h : List.Forall₂ (Related R) vs ws) (s : Number.RunningSum) :
    addTerms s vs = addTerms s ws := by
  induction h generalizing s with
  | nil => rfl
  | cons hv _ ih => simp only [addTerms, asReal_eq hv, ih]

theorem fsum_related (h : Related R v w) :
    SameOutcome (Related R) (Primitive.fsum v) (Primitive.fsum w) := by
  refine .bind (asItems_related h) fun us us' hus => ?_
  rw [addTerms_eq hus]
  exact IsAtomic.related (.bind fun _ => .bind fun _ => .ok rfl) rfl

/-! ## Calls -/

/-- **Operations on related arguments give related results.** -/
theorem operation_related (op : Operation) (h : List.Forall₂ (Related R) vs ws) :
    SameOutcome (Related R) (op.run vs) (op.run ws) := by
  have one (name : String) {f : Value → Except Fault Value}
      (hf : ∀ v w, Related R v w → SameOutcome (Related R) (f v) (f w)) :
      SameOutcome (Related R) (oneArgument name vs >>= f) (oneArgument name ws >>= f) :=
    .bind (oneArgument_related name h) hf
  have real (name : String) {f : Number.Double → Except Fault Value} (hf : ∀ x, SameOutcome
      (Related R) (f x) (f x)) : SameOutcome (Related R)
      (oneArgument name vs >>= fun v => v.asReal >>= f)
      (oneArgument name ws >>= fun v => v.asReal >>= f) := by
    refine one name fun v w hvw => .bind (.of_eq (asReal_eq hvw)) ?_
    rintro x _ rfl
    exact hf x
  have two (name : String) {f : Value × Value → Except Fault Value}
      (hf : ∀ v w v' w', Related R v v' → Related R w w' →
        SameOutcome (Related R) (f (v, w)) (f (v', w'))) :
      SameOutcome (Related R) (twoArguments name vs >>= f) (twoArguments name ws >>= f) :=
    .bind (twoArguments_related name h) fun p q hpq => hf _ _ _ _ hpq.1 hpq.2
  cases op with
  | arithmetic op => exact two _ fun _ _ _ _ hv hw => arithmetic_run_related op hv hw
  | comparison op =>
    refine two _ fun _ _ _ _ hv hw => IsAtomic.related (.bind fun _ => .ok rfl) ?_
    simp only [hv.compare_eq op hw]
  | real f => exact real _ fun x => IsAtomic.related (.bind fun _ => .ok rfl) rfl
  | logarithm l => exact logarithm_related l h
  | realPair f =>
    refine two _ fun _ _ _ _ hv hw => IsAtomic.related ?_ ?_
    · exact .bind fun _ => .bind fun _ => .bind fun _ => .ok rfl
    · simp only [asReal_eq hv, asReal_eq hw]
  | realTest t => exact real _ fun x => .ok (.atom rfl)
  | integerPart p => exact one _ fun _ _ => integerPart_related p
  | extreme e => exact extreme_run_related e h
  | abs => exact one _ fun _ _ => abs_related
  | comb => exact two _ fun _ _ _ _ => comb_related
  | dist => exact two _ fun _ _ _ _ => dist_related
  | factorial => exact one _ fun _ _ => factorial_related
  | frexp =>
    refine real _ fun x => .ok (.tuple ?_)
    exact .cons (.atom rfl) (.cons (.atom rfl) .nil)
  | fsum => exact one _ fun _ _ => fsum_related
  | gcd => exact integers_related _ (fun _ => rfl) h
  | hypot => exact hypot_related h
  | isclose => exact isClose_related h
  | isqrt => exact one _ fun _ _ => isqrt_related
  | lcm => exact integers_related _ (fun _ => rfl) h
  | ldexp => exact two _ fun _ _ _ _ => ldexp_related
  | modf =>
    refine real _ fun x => .ok (.tuple ?_)
    exact .cons (.atom rfl) (.cons (.atom rfl) .nil)
  | perm => exact perm_related h
  | prod => exact prod_related h
  | round => exact round_related h
  | extension e => exact .error _

/-- Procedures of the surrounding program do not tell related values apart. -/
theorem extension_related (e : Extension) (room : Nat) (name : String)
    (h : List.Forall₂ (Related R) vs ws) :
    SameOutcome (Related R) (e.run room name vs) (e.run room name ws) := by
  cases e with
  | list => exact .ok (.list h)
  | tuple => exact .ok (.tuple h)
  | nothing => exact .ok (.atom rfl)
  | count =>
    simp only [Extension.run, h.length_eq]
    exact .ok (.atom rfl)
  | print =>
    simp only [Extension.run, Value.renderAll_congr .printed room h]
    split
    · exact .ok (.atom rfl)
    · exact .error _
  | fail failure => exact .error _

/-- **Operations of built-in procedures do not tell related values apart.** -/
theorem runOperation_related (b : Builtin) (room : Nat) (h : List.Forall₂ (Related R) vs ws) :
    SameOutcome (Related R) (b.runOperation room vs) (b.runOperation room ws) := by
  unfold Builtin.runOperation
  split
  · exact extension_related _ _ _ h
  · exact (operation_related _ h).mapError _

/-- **Built-in procedures give related results on related arguments.** -/
theorem Builtin.call_related (b : Builtin) (room : Nat) (h : List.Forall₂ (Related R) vs ws) :
    SameOutcome (Related R) (b.call room vs) (b.call room ws) := by
  simp only [Builtin.call, h.length_eq]
  split
  · split
    · exact .error _
    · exact runOperation_related b room h
  · exact runOperation_related b room h

/-- **Built-in procedures make no functions**: what holds of all functions within the arguments
holds of all functions within the result. -/
theorem Builtin.functions_call {p : FunctionData → Prop} (b : Builtin) {room : Nat}
    (h : ∀ v ∈ vs, ∀ f ∈ v.functions, p f) (hw : b.call room vs = .ok w) :
    ∀ f ∈ w.functions, p f := by
  have hself : List.Forall₂ (Related fun f g => f = g ∧ p f) vs vs :=
    List.forall₂_same.mpr fun v hv => Value.related_self fun f hf => ⟨rfl, h v hv f hf⟩
  have hrel := b.call_related room hself
  rw [hw] at hrel
  cases hrel with
  | ok hww =>
    intro g hg
    obtain ⟨f, -, rfl, hf⟩ := hww.exists_function hg
    exact hf

end SmallLisp
