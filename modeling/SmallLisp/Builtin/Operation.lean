/-!
# Operations

The operations that built-in procedures carry out, by family. What they compute is said in the
modules of the families.

## Main definitions

* `Arithmetic`, `Comparison`: the operators on two values
* `RealFunction`, `RealPair`, `RealTest`: functions of one and of two floats, and tests of one
* `IntegerPart`: the ways to leave out a fraction
* `Extension`: the procedures that a program using the library may add
* `Operation`: all of these and the operations that stand alone
-/

namespace SmallLisp

/-- The arithmetic operators. -/
inductive Arithmetic where
  | add
  | sub
  | mul
  | div
  deriving DecidableEq, Repr

/-- The comparison operators. -/
inductive Comparison where
  | le
  | lt
  | gt
  | ge
  | ne
  | eq
  deriving DecidableEq, Repr

/-- The functions of one float. -/
inductive RealFunction where
  | acos
  | acosh
  | asin
  | asinh
  | atan
  | atanh
  | cbrt
  | cos
  | cosh
  | degrees
  | erf
  | erfc
  | exp
  | exp2
  | expm1
  | fabs
  | gamma
  | lgamma
  | log1p
  | radians
  | sin
  | sinh
  | sqrt
  | tan
  | tanh
  | ulp
  deriving DecidableEq, Repr

/-- The logarithms that also take integers beyond the floats. -/
inductive Logarithm where
  | natural
  | binary
  | decimal
  deriving DecidableEq, Repr

/-- The functions of two floats. -/
inductive RealPair where
  | atan2
  | copysign
  | fmod
  | nextafter
  | pow
  | remainder
  deriving DecidableEq, Repr

/-- The tests of one float. -/
inductive RealTest where
  | isFinite
  | isInfinite
  | isNaN
  deriving DecidableEq, Repr

/-- The ways to leave out a fraction. -/
inductive IntegerPart where
  | ceil
  | floor
  | trunc
  deriving DecidableEq, Repr

/-- The extremes of a sequence. -/
inductive Extreme where
  | max
  | min
  deriving DecidableEq, Repr

/-- The ways in which an added procedure fails. -/
inductive ExtensionFailure where
  | zeroDivision
  | value
  | overflow
  | type
  | runtime
  | recursion
  | language
  deriving DecidableEq, Repr

/-- The procedures that a program using the library may add. They take any arguments. -/
inductive Extension where
  /-- Gives back the arguments as a list. -/
  | list
  /-- Gives back the arguments as a tuple. -/
  | tuple
  /-- Gives no value. -/
  | nothing
  /-- Counts the arguments. -/
  | count
  /-- Joins the printed arguments by spaces. -/
  | print
  /-- Fails. -/
  | fail (failure : ExtensionFailure)
  deriving DecidableEq, Repr

/-- What a built-in procedure does with its arguments. -/
inductive Operation where
  | arithmetic (op : Arithmetic)
  | comparison (op : Comparison)
  | real (f : RealFunction)
  | logarithm (l : Logarithm)
  | realPair (f : RealPair)
  | realTest (t : RealTest)
  | integerPart (p : IntegerPart)
  | extreme (e : Extreme)
  | abs
  | comb
  | dist
  | factorial
  | frexp
  | fsum
  | gcd
  | hypot
  | isclose
  | isqrt
  | lcm
  | ldexp
  | modf
  | perm
  | prod
  | round
  | extension (e : Extension)
  deriving DecidableEq, Repr

end SmallLisp
