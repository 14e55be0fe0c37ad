import SmallLisp.Builtin.Arguments
import SmallLisp.Number.Counting
import SmallLisp.Number.Rounding

/-!
# Operations on integers

Rounding to integers and places, absolute values, and functions that take only integers.

## Main definitions

* `IntegerPart.run`, `Primitive.round`, `Primitive.abs`: numbers to integers and to magnitudes
* `Primitive.comb`, `Primitive.perm`, `Primitive.factorial`, `Primitive.isqrt`, `Primitive.gcd`,
  `Primitive.lcm`: functions of integers
-/

namespace SmallLisp

open Number (Binary Double)

/-- An integer next to a float, by one of the rounding functions. -/
def wholeOf (f : Bool → Nat → Int → Int) (x : Double) : Except Fault Value :=
  match Binary.ofDouble x with
  | .finite negative m e => .ok (.int (f negative m e))
  | .infinite _ => .error .infinityToInteger
  | .nan => .error .nanToInteger

/-- The rounding function of a way to leave out a fraction. -/
def IntegerPart.whole : IntegerPart → Bool → Nat → Int → Int
  | .ceil => Number.ceilInt
  | .floor => Number.floorInt
  | .trunc => Number.truncInt

/-- The integer of a number without its fraction. -/
def IntegerPart.run (p : IntegerPart) (v : Value) : Except Fault Value :=
  match v with
  | .float x => wholeOf p.whole x
  | v =>
    match v.int? with
    | some n => .ok (.int n)
    | none =>
      match p with
      | .trunc => .error (.noMethod v.kind "__trunc__")
      | _ => .error (.notReal v.kind)

/-- A float rounded to a number of places. -/
def roundFloat (x : Double) (places : Int) : Except Fault Value :=
  let r := Number.roundPlaces x places
  if Number.isFinite x && !Number.isFinite r then .error .roundedTooLarge else .ok (.float r)

/-- An integer rounded to a number of places, which changes it only if they are negative. -/
def roundWhole (n places : Int) : Value :=
  .int (if 0 ≤ places then n else Number.roundToTens n places.natAbs)

/-- A number rounded to the nearest integer. -/
def roundToInteger (v : Value) : Except Fault Value :=
  match v with
  | .float x => wholeOf Number.roundInt x
  | v =>
    match v.int? with
    | some n => .ok (.int n)
    | none => .error (.noMethod v.kind "__round__")

/-- A number rounded to the nearest integer, or to a number of places. -/
def Primitive.round (vs : List Value) : Except Fault Value :=
  match vs with
  | [] => .error (.missing "round" "number" 1)
  | [v] => roundToInteger v
  | [v, .nothing] => roundToInteger v
  | [v, w] =>
    match v with
    | .float x => do roundFloat x (← w.asInteger)
    | v =>
      match v.int? with
      | some n => do pure (roundWhole n (← w.asInteger))
      | none => .error (.noMethod v.kind "__round__")
  | vs => .error (.atMostTaken "round" 2 vs.length)

/-- The magnitude of a number. -/
def Primitive.abs (v : Value) : Except Fault Value :=
  match v with
  | .float x => .ok (.float (Number.magnitudeOf x))
  | v =>
    match v.int? with
    | some n => .ok (.int n.natAbs)
    | none => .error (.noAbsolute v.kind)

/-- The factorial of an integer. -/
def Primitive.factorial (v : Value) : Except Fault Value := do
  let n ← v.asInteger
  if n < 0 then .error .negativeFactorial
  else if maxWord < n then .error .factorialTooLarge
  else .ok (.int (Number.factorial n.toNat))

/-- A number of things and a number of those to be chosen. -/
def chosen (v w : Value) : Except Fault (Nat × Nat) := do
  let n ← v.asInteger
  let k ← w.asInteger
  if n < 0 then .error (.negative "n")
  else if k < 0 then .error (.negative "k")
  else .ok (n.toNat, k.toNat)

/-- The number of ways to choose some of a number of things. -/
def Primitive.comb (v w : Value) : Except Fault Value := do
  let (n, k) ← chosen v w
  if k ≤ n ∧ maxWord < min k (n - k) then .error (.countTooLarge "min(n - k, k)")
  else .ok (.int (Number.combinations n k))

/-- The number of ways to choose some of a number of things in order, or all of them. -/
def Primitive.perm (vs : List Value) : Except Fault Value :=
  match vs with
  | [] => .error (.atLeast "perm" 1 0)
  | [v] => Primitive.factorial v
  | [v, .nothing] => Primitive.factorial v
  | [v, w] => do
    let (n, k) ← chosen v w
    if k ≤ n ∧ maxWord < k then .error (.countTooLarge "k")
    else .ok (.int (Number.permutations n k))
  | vs => .error (.atMost "perm" 2 vs.length)

/-- The integer square root. -/
def Primitive.isqrt (v : Value) : Except Fault Value := do
  let n ← v.asInteger
  if n < 0 then .error .negativeRoot else .ok (.int (Number.isqrt n.toNat))

/-- The integers of several values, the first that is none being at fault. -/
def asIntegers : List Value → Except Fault (List Int)
  | [] => .ok []
  | v :: vs => do
    let n ← v.asInteger
    let ns ← asIntegers vs
    pure (n :: ns)

/-- The greatest common divisor. -/
def Primitive.gcd (vs : List Value) : Except Fault Value := do
  let ns ← asIntegers vs
  pure (.int (ns.foldl (fun d n => Nat.gcd d n.natAbs) 0 : Nat))

/-- The least common multiple. -/
def Primitive.lcm (vs : List Value) : Except Fault Value := do
  let ns ← asIntegers vs
  pure (.int (ns.foldl (fun d n => Nat.lcm d n.natAbs) 1 : Nat))

end SmallLisp
