import SmallLisp.Proofs.Builtin.Related
import SmallLisp.Proofs.Number.Shortest
import SmallLisp.Proofs.Value.Printing

/-!
# Results of built-in procedures

The built-in procedures of a root scope give numbers, booleans and texts, or pass on what they are
given. The only sequences that they make of other values are pairs of numbers, and the integers in
those are small. So all sequences that programs can get hold of without help from the surrounding
program are sequences of numbers that can be written out. A call fails only with a wrong number of
arguments, with a fault of the operation, or for want of memory.

## Main definitions

* `Value.isShortNumber`: a number that can be written out
* `Value.Native`: a value as programs make it by themselves
* `Yields`: a property of the value of a result, if there is one

## Main results

* `Operation.run_native`: operations on native values give native values
* `Builtin.call_native`, `Builtin.call_error`: what calls give, and how they fail
-/

namespace SmallLisp

/-! ## Values that programs make -/

namespace Value

/-- Whether a value is a number that can be written out. -/
def isShortNumber : Value → Bool
  | .int n => (Number.intText? n).isSome
  | .float _ => true
  | _ => false

/-- A value as programs make it by themselves: functions have the property `p`, built-in procedures
are none that were added, and lists and tuples hold numbers that can be written out. -/
def Native (p : FunctionData → Prop) : Value → Prop
  | .function id name params body scope => p ⟨id, name, params, body, scope⟩
  | .builtin b => ∀ e, b.operation ≠ .extension e
  | .list vs => ∀ v ∈ vs, v.isShortNumber = true
  | .tuple vs => ∀ v ∈ vs, v.isShortNumber = true
  | _ => True

/-- Whether a value is a number, a boolean or a text. -/
def isScalar : Value → Bool
  | .int _ | .float _ | .bool _ | .str _ => true
  | _ => false

variable {p : FunctionData → Prop} {v : Value}

/-- Numbers, booleans and texts are native values. -/
theorem native_of_isScalar (h : v.isScalar = true) : v.Native p := by
  cases v <;> first | exact trivial | cases h

theorem isScalar_of_isShortNumber (h : v.isShortNumber = true) : v.isScalar = true := by
  cases v <;> first | rfl | cases h

/-- The items of a native value are native. -/
theorem Native.items {vs : List Value} (h : v.Native p) (hvs : v.items? = some vs) :
    ∀ w ∈ vs, w.Native p := by
  intro w hw
  apply native_of_isScalar
  cases v with
  | list us =>
    cases hvs
    exact isScalar_of_isShortNumber (h w hw)
  | tuple us =>
    cases hvs
    exact isScalar_of_isShortNumber (h w hw)
  | str t =>
    cases hvs
    obtain ⟨c, -, rfl⟩ := List.mem_map.mp hw
    rfl
  | _ => cases hvs

theorem isProgram_of_isShortNumber (h : v.isShortNumber = true) : v.isProgram = true := by
  cases v with
  | int n => exact h
  | float x => rfl
  | _ => cases h

/-- Numbers are at one level. -/
theorem levelsAll_le_one {vs : List Value} (h : ∀ v ∈ vs, v.isShortNumber = true) :
    levelsAll vs ≤ 1 := by
  induction vs with
  | nil => exact Nat.zero_le 1
  | cons v vs ih =>
    rw [List.forall_mem_cons] at h
    rw [levelsAll]
    refine Nat.max_le.mpr ⟨?_, ih h.2⟩
    cases v with
    | int n => exact Nat.le_refl 1
    | float x => exact Nat.le_refl 1
    | _ => cases h.1

/-- The values of programs are at two levels at most, for which there is almost always room. -/
theorem Native.print_ne_stackExhausted (h : v.Native p) {room : Nat}
    (hroom : 2 * Style.printed.places ≤ room) : v.print room ≠ .error .stackExhausted := by
  have hplaces : ¬ room < Style.printed.places := by omega
  have hitems (style : Style) {vs : List Value} (hvs : ∀ w ∈ vs, w.isShortNumber = true) :
      renderAll style (room - Style.printed.places) vs ≠ .error .stackExhausted := by
    have hfills : ∀ w ∈ vs, w.FillsRoom style := fun w hw =>
      fillsRoom_of_isProgram (isProgram_of_isShortNumber (hvs w hw))
    have hlevels := levelsAll_le_one hvs
    have hle : style.places ≤ Style.printed.places := by cases style <;> decide
    obtain ⟨ts, hts⟩ := exists_renderAll_of_le hfills
      ((Nat.mul_le_mul hle hlevels).trans (by omega) :
        style.places * levelsAll vs ≤ room - Style.printed.places)
    rw [hts]
    rintro ⟨⟩
  cases v with
  | list vs =>
    rw [print, render, if_neg hplaces]
    exact mt map_eq_error_iff.mp (hitems .printed h)
  | tuple vs =>
    rw [print, render, if_neg hplaces]
    exact mt map_eq_error_iff.mp (hitems .inspected h)
  | int n =>
    rw [print, render, if_neg hplaces]
    exact intText_ne_stackExhausted n
  | _ =>
    rw [print, render, if_neg hplaces]
    rintro ⟨⟩

end Value

open Value (Native isScalar)

/-! ## Properties of results -/

/-- The value of the result, if there is one, has the property `Q`. -/
def Yields (Q : Value → Prop) (x : Except Fault Value) : Prop :=
  ∀ v, x = .ok v → Q v

namespace Yields

variable {Q : Value → Prop} {v : Value} {α : Type}

theorem ok (h : Q v) : Yields Q (.ok v) := by
  rintro _ ⟨⟩
  exact h

theorem error (e : Fault) : Yields Q (.error e) := by
  rintro _ ⟨⟩

/-- A result has the property if all results of its second part have it. -/
theorem bind {x : Except Fault α} {f : α → Except Fault Value}
    (h : ∀ a, x = .ok a → Yields Q (f a)) : Yields Q (x >>= f) := by
  cases x with
  | ok a => exact h a rfl
  | error e => exact error e

theorem map {x : Except Fault α} {f : α → Value} (h : ∀ a, x = .ok a → Q (f a)) :
    Yields Q (x.map f) := by
  cases x with
  | ok a => exact ok (h a rfl)
  | error e => exact error e

theorem ite {c : Prop} [Decidable c] {x y : Except Fault Value} (hx : Yields Q x)
    (hy : Yields Q y) : Yields Q (if c then x else y) := by
  split
  · exact hx
  · exact hy

end Yields

/-- The result is a number, a boolean or a text, if there is one. -/
abbrev YieldsScalar (x : Except Fault Value) : Prop :=
  Yields (fun v => v.isScalar = true) x

theorem YieldsScalar.native {x : Except Fault Value} (h : YieldsScalar x)
    (p : FunctionData → Prop) : Yields (Native p) x :=
  fun v hv => Value.native_of_isScalar (h v hv)

/-! ## Arithmetic -/

/-- Arithmetic on numbers gives numbers. -/
theorem arithmetic_scalar (op : Arithmetic) (a b : Num) : YieldsScalar (Num.arithmetic op a b) := by
  have hint (m n : Int) : YieldsScalar (Num.intArithmetic op m n) := by
    cases op with
    | div => exact .map fun _ _ => rfl
    | _ => exact .ok rfl
  have hfloat (x y : Number.Double) : YieldsScalar (Num.floatArithmetic op x y) := by
    cases op with
    | div => exact .ite (.error _) (.ok rfl)
    | _ => exact .ok rfl
  cases a with
  | int m =>
    cases b with
    | int n => exact hint m n
    | float y => exact .bind fun x _ => .bind fun y _ => hfloat x y
  | float x => exact .bind fun x _ => .bind fun y _ => hfloat x y

/-- Repetition brings no new items. -/
theorem mem_repeatedItems {α : Type} {width : Nat} {xs ys : List α} {count : Int}
    (h : repeatedItems width xs count = .ok ys) : ∀ y ∈ ys, y ∈ xs := by
  unfold repeatedItems at h
  split at h
  · cases h
    exact List.forall_mem_nil _
  · split at h
    · cases h
    · cases h
      intro y hy
      obtain ⟨zs, hzs, hy⟩ := List.mem_flatten.mp hy
      rwa [List.eq_of_mem_replicate hzs] at hy

section Native

variable {p : FunctionData → Prop} {v w : Value} {vs : List Value}

theorem repeated_native (hv : v.Native p) (w : Value) : Yields (Native p) (repeated v w) := by
  unfold repeated
  split
  · exact .error _
  · split
    · exact .error _
    · split
      · exact .ite (.error _) (.map fun _ _ => trivial)
      · exact .map fun us hus u hu => hv u (mem_repeatedItems hus u hu)
      · exact .map fun us hus u hu => hv u (mem_repeatedItems hus u hu)
      · exact .error _

theorem concatenated_native (hv : v.Native p) (hw : w.Native p) :
    Yields (Native p) (concatenated v w) := by
  unfold concatenated
  split
  · exact .ok trivial
  · exact .ok fun u hu => (List.mem_append.mp hu).elim (hv u) (hw u)
  · exact .ok fun u hu => (List.mem_append.mp hu).elim (hv u) (hw u)
  · exact .error _

/-- Arithmetic operations on native values give native values. -/
theorem arithmetic_run_native (op : Arithmetic) (hv : v.Native p) (hw : w.Native p) :
    Yields (Native p) (op.run v w) := by
  unfold Arithmetic.run
  split
  · exact (arithmetic_scalar op _ _).native p
  · split
    · exact .ite (concatenated_native hv hw) (.error _)
    · exact .ite (repeated_native hv w) (.ite (repeated_native hw v) (.error _))
    · exact .error _

/-! ## Sequences -/

/-- The extreme of native values is one of them. -/
theorem pick_native (e : Extreme) (hv : v.Native p) (hvs : ∀ w ∈ vs, w.Native p) :
    Yields (Native p) (e.pick v vs) := by
  induction vs generalizing v with
  | nil => exact .ok hv
  | cons w vs ih =>
    rw [List.forall_mem_cons] at hvs
    exact .bind fun better _ => .ite (ih hvs.1 hvs.2) (ih hv hvs.2)

theorem asItems_native (hv : v.Native p) (h : v.asItems = .ok vs) : ∀ w ∈ vs, w.Native p := by
  unfold Value.asItems at h
  split at h
  · rename_i hitems
    cases h
    exact hv.items hitems
  · cases h

theorem extreme_run_native (e : Extreme) (hvs : ∀ w ∈ vs, w.Native p) :
    Yields (Native p) (e.run vs) := by
  unfold Extreme.run
  split
  · exact .error _
  · refine .bind fun us hus => ?_
    have hitems := asItems_native (hvs _ (.head _)) hus
    split
    · exact .error _
    · rw [List.forall_mem_cons] at hitems
      exact pick_native e hitems.1 hitems.2
  · rw [List.forall_mem_cons] at hvs
    exact pick_native e hvs.1 hvs.2

theorem multiplyAll_native (hv : v.Native p) (hvs : ∀ w ∈ vs, w.Native p) :
    Yields (Native p) (multiplyAll v vs) := by
  induction vs generalizing v with
  | nil => exact .ok hv
  | cons w vs ih =>
    rw [List.forall_mem_cons] at hvs
    exact .bind fun u hu => ih (arithmetic_run_native .mul hv hvs.1 u hu) hvs.2

theorem prod_native (hvs : ∀ w ∈ vs, w.Native p) : Yields (Native p) (Primitive.prod vs) := by
  unfold Primitive.prod
  split
  · exact .bind fun us hus => multiplyAll_native trivial (asItems_native (hvs _ (.head _)) hus)
  · exact .ite (.error _) (.error _)

end Native

/-! ## Numbers -/

section Scalar

variable (v w : Value) (vs : List Value)

theorem wholeOf_scalar (f : Bool → Nat → Int → Int) (x : Number.Double) :
    YieldsScalar (wholeOf f x) := by
  unfold wholeOf
  split
  · exact .ok rfl
  · exact .error _
  · exact .error _

theorem integerPart_scalar (q : IntegerPart) : YieldsScalar (q.run v) := by
  unfold IntegerPart.run
  split
  · exact wholeOf_scalar _ _
  · split
    · exact .ok rfl
    · split <;> exact .error _

theorem abs_scalar : YieldsScalar (Primitive.abs v) := by
  unfold Primitive.abs
  split
  · exact .ok rfl
  · split
    · exact .ok rfl
    · exact .error _

theorem factorial_scalar : YieldsScalar (Primitive.factorial v) :=
  .bind fun _ _ => .ite (.error _) (.ite (.error _) (.ok rfl))

theorem perm_scalar : YieldsScalar (Primitive.perm vs) := by
  unfold Primitive.perm
  split
  · exact .error _
  · exact factorial_scalar _
  · exact factorial_scalar _
  · exact .bind fun _ _ => .ite (.error _) (.ok rfl)
  · exact .error _

theorem roundToInteger_scalar : YieldsScalar (roundToInteger v) := by
  unfold roundToInteger
  split
  · exact wholeOf_scalar _ _
  · split
    · exact .ok rfl
    · exact .error _

theorem round_scalar : YieldsScalar (Primitive.round vs) := by
  unfold Primitive.round
  split
  · exact .error _
  · exact roundToInteger_scalar _
  · exact roundToInteger_scalar _
  · split
    · exact .bind fun _ _ => .ite (.error _) (.ok rfl)
    · split
      · exact .bind fun _ _ => .ok rfl
      · exact .error _
  · exact .error _

theorem logarithm_scalar (l : Logarithm) : YieldsScalar (l.run vs) := by
  unfold Logarithm.run
  split
  · split
    · exact .map fun _ _ => rfl
    · exact .bind fun _ _ => .bind fun _ _ => .ite (.error _) (.ok rfl)
    · exact .error _
  · exact .bind fun _ _ => .bind fun _ _ => .ok rfl

theorem isClose_scalar : YieldsScalar (Primitive.isClose vs) := by
  unfold Primitive.isClose
  split
  · exact .error _
  · exact .error _
  · exact .bind fun _ _ => .bind fun _ _ => .ok rfl
  · exact .ite (.error _) (.error _)

theorem ldexp_scalar : YieldsScalar (Primitive.ldexp v w) := by
  refine .bind fun x _ => ?_
  split
  · exact .error _
  · exact .ite (.error _) (.ok rfl)

end Scalar

/-- The exponent of a float is small. -/
theorem Number.natAbs_fractionExponent_le (x : Double) :
    (fractionExponent x).2.natAbs ≤ 1200 := by
  unfold fractionExponent
  rcases ofDouble_cases x with ⟨negative, m, e, hx, hfloat, -⟩ | ⟨negative, hx, -⟩ | ⟨hx, -⟩
  · simp only [hx]
    split
    · exact Nat.zero_le _
    · rename_i hm
      have hwidth : m.log2 < 53 := (Nat.log2_lt hm).mpr hfloat.mantissa_lt
      have hge := hfloat.exponent_ge
      have hle := hfloat.exponent_le
      dsimp only
      omega
  · simp only [hx]
    exact Nat.zero_le _
  · simp only [hx]
    exact Nat.zero_le _

/-- Small integers can be written. -/
theorem Number.intText?_isSome_of_le {n : Int} (h : n.natAbs ≤ 1200) :
    (intText? n).isSome = true := by
  have hlt : n.natAbs < powTen digitLimit := by
    rw [powTen_eq]
    apply Nat.lt_of_le_of_lt h
    exact Nat.lt_of_lt_of_le (by decide : 1200 < 10 ^ 4)
      (Nat.pow_le_pow_right (by decide) (by decide))
  have htext : intText? n = some (toString n) := if_pos hlt
  rw [htext, Option.isSome_some]

/-! ## Calls -/

variable {p : FunctionData → Prop} {vs : List Value}

/-- **Operations on native values give native values.** -/
theorem Operation.run_native (op : Operation) (hvs : ∀ v ∈ vs, v.Native p) :
    Yields (Native p) (op.run vs) := by
  have htwo {name : String} {u : Value × Value} (hu : twoArguments name vs = .ok u) :
      u.1.Native p ∧ u.2.Native p := by
    unfold twoArguments at hu
    split at hu
    · cases hu
      exact ⟨hvs _ (.head _), hvs _ (.tail _ (.head _))⟩
    · cases hu
  cases op with
  | arithmetic op =>
    exact .bind fun u hu => arithmetic_run_native op (htwo hu).1 (htwo hu).2
  | extreme e => exact extreme_run_native e hvs
  | prod => exact prod_native hvs
  | frexp =>
    refine .bind fun v _ => .bind fun x _ => .ok fun u hu => ?_
    rcases List.mem_pair.mp hu with rfl | rfl
    · rfl
    · rw [Value.isShortNumber]
      exact Number.intText?_isSome_of_le (Number.natAbs_fractionExponent_le x)
  | modf =>
    refine .bind fun v _ => .bind fun x _ => .ok fun u hu => ?_
    rcases List.mem_pair.mp hu with rfl | rfl <;> rfl
  | comparison op => exact .bind fun _ _ => .bind fun _ _ => .ok trivial
  | real f => exact .bind fun _ _ => .bind fun _ _ => .bind fun _ _ => .ok trivial
  | logarithm l => exact (logarithm_scalar vs l).native p
  | realPair f =>
    exact .bind fun _ _ => .bind fun _ _ => .bind fun _ _ => .bind fun _ _ => .ok trivial
  | realTest t => exact .bind fun _ _ => .bind fun _ _ => .ok trivial
  | integerPart q => exact .bind fun v _ => (integerPart_scalar v q).native p
  | abs => exact .bind fun v _ => (abs_scalar v).native p
  | comb => exact .bind fun _ _ => .bind fun _ _ => .ite (.error _) (.ok trivial)
  | dist =>
    exact .bind fun _ _ => .bind fun _ _ => .bind fun _ _ =>
      .ite (.error _) (.bind fun _ _ => .ok trivial)
  | factorial => exact .bind fun v _ => (factorial_scalar v).native p
  | fsum =>
    exact .bind fun _ _ => .bind fun _ _ => .bind fun _ _ => .bind fun _ _ => .ok trivial
  | gcd => exact .bind fun _ _ => .ok trivial
  | hypot => exact .bind fun _ _ => .ok trivial
  | isclose => exact (isClose_scalar vs).native p
  | isqrt => exact .bind fun _ _ => .bind fun _ _ => .ite (.error _) (.ok trivial)
  | lcm => exact .bind fun _ _ => .ok trivial
  | ldexp => exact .bind fun u _ => (ldexp_scalar u.1 u.2).native p
  | perm => exact (perm_scalar vs).native p
  | round => exact (round_scalar vs).native p
  | extension e => exact .error _

theorem Builtin.runOperation_of_native {b : Builtin} {room : Nat}
    (hb : ∀ e, b.operation ≠ .extension e) :
    b.runOperation room vs = (b.operation.run vs).mapError (Fault.error b.name) := by
  unfold Builtin.runOperation
  split
  · rename_i e he
    exact absurd he (hb e)
  · rfl

/-- **Calls on native values give native values.** -/
theorem Builtin.call_native {b : Builtin} {room : Nat} (hb : ∀ e, b.operation ≠ .extension e)
    (hvs : ∀ v ∈ vs, v.Native p) {w : Value} (hw : b.call room vs = .ok w) : w.Native p := by
  have hrun (h : b.runOperation room vs = .ok w) : w.Native p := by
    rw [b.runOperation_of_native hb] at h
    cases hop : b.operation.run vs with
    | ok u =>
      rw [hop] at h
      cases h
      exact b.operation.run_native hvs w hop
    | error fault =>
      rw [hop] at h
      cases h
  unfold Builtin.call at hw
  split at hw
  · split at hw
    · cases hw
    · exact hrun hw
  · exact hrun hw

/-- **A call fails in three ways**: with a wrong number of arguments, with a fault of the operation,
or for want of memory. -/
theorem Builtin.call_error {b : Builtin} {room : Nat} (hb : ∀ e, b.operation ≠ .extension e)
    {e : Error} (he : b.call room vs = .error e) :
    (∃ n, e = .arity b.name n vs.length) ∨ (∃ fault, e = .builtin b.name fault) ∨
      e = .outOfMemory := by
  have hrun (h : b.runOperation room vs = .error e) :
      (∃ fault, e = .builtin b.name fault) ∨ e = .outOfMemory := by
    rw [b.runOperation_of_native hb] at h
    cases hop : b.operation.run vs with
    | ok u =>
      rw [hop] at h
      cases h
    | error fault =>
      rw [hop] at h
      cases h
      cases fault with
      | outOfMemory => exact .inr rfl
      | _ => exact .inl ⟨_, rfl⟩
  unfold Builtin.call at he
  split at he
  · split at he
    · cases he
      exact .inl ⟨_, rfl⟩
    · exact .inr (hrun he)
  · exact .inr (hrun he)

end SmallLisp
