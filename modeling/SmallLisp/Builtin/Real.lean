import SmallLisp.Builtin.Arguments
import SmallLisp.Number.Norm
import SmallLisp.Number.Remainder
import SmallLisp.Number.Special
import SmallLisp.Number.Sum
import SmallLisp.Value.Compare

/-!
# Functions of floats

Elementary and special functions. A result that is no number, from arguments that are numbers, is
outside the domain. An infinite result from finite arguments is outside the domain too, or too
large, as the function asks.

## Main definitions

* `RealFunction.eval`, `RealPair.eval`, `Logarithm.eval`: the functions
* `Logarithm.run`, `Primitive.isClose`, `Primitive.ldexp`, `Primitive.hypot`, `Primitive.dist`,
  `Primitive.fsum`: the operations with arguments of their own kind
-/

namespace SmallLisp

open Number (Double isFinite isInfinite isNaN isNegative infinity notANumber)

/-- A result that is to be a number if the argument is one, and finite if the argument is. -/
def checkedReal (tooLarge : Fault) (x r : Double) : Except Fault Double :=
  if isNaN r && !isNaN x then .error .domain
  else if isInfinite r && isFinite x then .error tooLarge
  else .ok r

/-- The fault for a failure of the gamma function. -/
def gammaFault : Number.GammaFailure → Fault
  | .pole => .domain
  | .overflow => .range

/-- A result of the gamma function. -/
def checkedGamma (r : Except Number.GammaFailure Double) : Except Fault Double :=
  r.mapError gammaFault

/-- The value of a function of one float. -/
def RealFunction.eval (f : RealFunction) (x : Double) : Except Fault Double :=
  match f with
  | .acos => checkedReal .domain x (x.lift Float.acos)
  | .acosh => checkedReal .domain x (x.lift Float.acosh)
  | .asin => checkedReal .domain x (x.lift Float.asin)
  | .asinh => checkedReal .domain x (x.lift Float.asinh)
  | .atan => checkedReal .domain x (x.lift Float.atan)
  | .atanh => checkedReal .domain x (x.lift Float.atanh)
  | .cbrt => checkedReal .domain x (x.lift Float.cbrt)
  | .cos => checkedReal .domain x (x.lift Float.cos)
  | .cosh => checkedReal .range x (x.lift Float.cosh)
  | .degrees => .ok (x * (180.0 / Number.pi))
  | .erf => .ok (Number.errorFunction x)
  | .erfc => .ok (Number.errorComplement x)
  | .exp => checkedReal .range x (x.lift Float.exp)
  | .exp2 => checkedReal .range x (x.lift Float.exp2)
  | .expm1 => checkedReal .range x (Number.expMinusOne x)
  | .fabs => .ok (Number.magnitudeOf x)
  | .gamma => checkedGamma (Number.gamma x)
  | .lgamma => checkedGamma (Number.logGamma x)
  | .log1p => checkedReal .domain x (Number.logOnePlus x)
  | .radians => .ok (x * (Number.pi / 180.0))
  | .sin => checkedReal .domain x (x.lift Float.sin)
  | .sinh => checkedReal .range x (x.lift Float.sinh)
  | .sqrt => checkedReal .domain x (x.lift Float.sqrt)
  | .tan => checkedReal .domain x (x.lift Float.tan)
  | .tanh => checkedReal .domain x (x.lift Float.tanh)
  | .ulp => .ok (Number.unitLastPlace x)

/-- Whether a float is an odd integer. -/
def isOddWhole (x : Double) : Bool :=
  isFinite x && (Number.truncatedRemainder (Number.magnitudeOf x) 2.0).equals 1.0

/-- The power of an infinite base. -/
def infinitePower (x y : Double) : Double :=
  let odd := isOddWhole y
  if 0.0 < y then (if odd then x else Number.magnitudeOf x)
  else if y.equals 0.0 then 1.0
  else if odd then Number.floatOfBits (isNegative x) 0
  else 0.0

/-- A power with an infinite exponent. -/
def powerToInfinity (x y : Double) : Double :=
  let a := Number.magnitudeOf x
  if a.equals 1.0 then 1.0
  else if 0.0 < y && 1.0 < a then y
  else if y < 0.0 && a < 1.0 then -y
  else 0.0

/-- A power. Zero has no negative powers, and a finite power must not be too large. -/
def power (x y : Double) : Except Fault Double :=
  if isNaN x then .ok (if y.equals 0.0 then 1.0 else x)
  else if isNaN y then .ok (if x.equals 1.0 then 1.0 else y)
  else if isInfinite x then .ok (infinitePower x y)
  else if isInfinite y then .ok (powerToInfinity x y)
  else
    let r := x.pow y
    if isNaN r then .error .domain
    else if isInfinite r then .error (if x.equals 0.0 then .domain else .range)
    else .ok r

/-- A result of two arguments that is to be a number if both arguments are. -/
def checkedPair (x y r : Double) : Except Fault Double :=
  if isNaN r && !isNaN x && !isNaN y then .error .domain else .ok r

/-- The value of a function of two floats. -/
def RealPair.eval (f : RealPair) (x y : Double) : Except Fault Double :=
  match f with
  | .atan2 => .ok (if isNaN x || isNaN y then notANumber false else x.lift₂ Float.atan2 y)
  | .copysign => .ok (Number.withSign (isNegative y) x)
  | .fmod => checkedPair x y (Number.truncatedRemainder x y)
  | .nextafter => .ok (Number.stepTowards x y)
  | .pow => power x y
  | .remainder => checkedPair x y (Number.nearestRemainder x y)

/-- The outcome of a test of one float. -/
def RealTest.holds (t : RealTest) (x : Double) : Bool :=
  match t with
  | .isFinite => Number.isFinite x
  | .isInfinite => Number.isInfinite x
  | .isNaN => Number.isNaN x

/-! ## Logarithms -/

/-- The logarithm of a positive float. -/
def Logarithm.raw : Logarithm → Double → Double
  | .natural, x => x.log
  | .binary, x => x.lift Float.log2
  | .decimal, x => x.lift Float.log10

/-- The logarithm of a float. -/
def Logarithm.ofFloat (l : Logarithm) (x : Double) : Except Fault Double :=
  if isNaN x then .ok x
  else if 0.0 < x then .ok (if isInfinite x then x else l.raw x)
  else .error .domain

/-- The logarithm of a positive integer beyond the floats, from a fraction and an exponent. -/
def Logarithm.ofLarge (l : Logarithm) (n : Nat) : Double :=
  let width := n.log2 + 1
  let fraction := Number.floatOfRatio false n (Number.powTwo width)
  let (fraction, width) := if fraction.equals 1.0 then (0.5, width + 1) else (fraction, width)
  l.raw fraction + l.raw 2.0 * Number.smallFloat width

/-- The logarithm of a value. -/
def Logarithm.eval (l : Logarithm) (v : Value) : Except Fault Double :=
  match v.int? with
  | some n =>
    if n ≤ 0 then .error .domain
    else
      match Number.floatOfInt? n with
      | some x => l.ofFloat x
      | none => .ok (l.ofLarge n.toNat)
  | none => do
    let x ← v.asReal
    l.ofFloat x

/-- The logarithm of the first argument, for the base given by the second if there is one. -/
def Logarithm.run (l : Logarithm) (vs : List Value) : Except Fault Value :=
  match l with
  | .natural =>
    match vs with
    | [v] => (l.eval v).map .float
    | [v, base] => do
      let a ← l.eval v
      let b ← l.eval base
      if b.equals 0.0 then .error .divisionByZero else .ok (.float (a / b))
    | _ => .error .logarithmCount
  | _ => do
    let v ← oneMathArgument l.name vs
    let x ← l.eval v
    pure (.float x)

/-! ## Operations with arguments of their own kind -/

/-- Whether two floats are equal up to a billionth of the larger. -/
def closeFloats (x y : Double) : Bool :=
  if x.equals y then true
  else if isInfinite x || isInfinite y then false
  else
    let diff := Number.magnitudeOf (y - x)
    diff ≤ Number.magnitudeOf (1e-9 * y) || diff ≤ Number.magnitudeOf (1e-9 * x) || diff ≤ 0.0

/-- Whether two numbers are close. -/
def Primitive.isClose (vs : List Value) : Except Fault Value :=
  match vs with
  | [] => .error (.missing "isclose" "a" 1)
  | [_] => .error (.missing "isclose" "b" 2)
  | [v, w] => do
    let x ← v.asReal
    let y ← w.asReal
    pure (.bool (closeFloats x y))
  | vs =>
    if vs.length ≤ 4 then .error (.positional "isclose" 2 vs.length)
    else .error (.atMostTaken "isclose" 4 vs.length)

/-- A float times a power of two. -/
def Primitive.ldexp (v w : Value) : Except Fault Value := do
  let x ← v.asReal
  match w.int? with
  | none => .error .notExponent
  | some k =>
    let r := Number.scaleBy x k
    if isInfinite r && isFinite x then .error .range else .ok (.float r)

/-- The floats of several values, the first that is none being at fault. -/
def asReals : List Value → Except Fault (List Double)
  | [] => .ok []
  | v :: vs => do
    let x ← v.asReal
    let xs ← asReals vs
    pure (x :: xs)

/-- The length of the vector of all arguments. -/
def Primitive.hypot (vs : List Value) : Except Fault Value := do
  let xs ← asReals vs
  pure (.float (Number.norm xs))

/-- The differences of two points, one coordinate after another. -/
def differences : List Value → List Value → Except Fault (List Double)
  | v :: vs, w :: ws => do
    let x ← v.asReal
    let y ← w.asReal
    let ds ← differences vs ws
    pure ((x - y) :: ds)
  | _, _ => .ok []

/-- The distance of two points. -/
def Primitive.dist (v w : Value) : Except Fault Value := do
  let p ← v.asItems
  let q ← w.asItems
  if p.length ≠ q.length then .error .dimensions
  else
    let ds ← differences p q
    pure (.float (Number.norm ds))

/-- The fault for a failure of a sum. -/
def sumFault : Number.SumFailure → Fault
  | .overflow => .sumTooLarge
  | .oppositeInfinities => .oppositeInfinities

/-- Adds values to a sum, one after another. -/
def addTerms : Number.RunningSum → List Value → Except Fault Number.RunningSum
  | s, [] => .ok s
  | s, v :: vs => do
    let x ← v.asReal
    let s ← (s.add x).mapError sumFault
    addTerms s vs

/-- The exact sum of the items of a value. -/
def Primitive.fsum (v : Value) : Except Fault Value := do
  let vs ← v.asItems
  let s ← addTerms Number.RunningSum.zero vs
  let x ← s.value.mapError sumFault
  pure (.float x)

end SmallLisp
