import SmallLisp.Fault
import SmallLisp.Number.Binary

/-!
# Arguments of operations

What operations ask of their arguments, and the faults if they do not get it.

## Main definitions

* `RealFunction.name` and its like: the names of the operations
* `Value.asReal`, `Value.asInteger`, `Value.asItems`: arguments of a required sort
* `oneArgument`, `twoArguments`: a required number of arguments
-/

namespace SmallLisp

/-- The name of a function of one float. -/
def RealFunction.name : RealFunction → String
  | .acos => "acos"
  | .acosh => "acosh"
  | .asin => "asin"
  | .asinh => "asinh"
  | .atan => "atan"
  | .atanh => "atanh"
  | .cbrt => "cbrt"
  | .cos => "cos"
  | .cosh => "cosh"
  | .degrees => "degrees"
  | .erf => "erf"
  | .erfc => "erfc"
  | .exp => "exp"
  | .exp2 => "exp2"
  | .expm1 => "expm1"
  | .fabs => "fabs"
  | .gamma => "gamma"
  | .lgamma => "lgamma"
  | .log1p => "log1p"
  | .radians => "radians"
  | .sin => "sin"
  | .sinh => "sinh"
  | .sqrt => "sqrt"
  | .tan => "tan"
  | .tanh => "tanh"
  | .ulp => "ulp"

/-- The name of a logarithm. -/
def Logarithm.name : Logarithm → String
  | .natural => "log"
  | .binary => "log2"
  | .decimal => "log10"

/-- The name of a function of two floats. -/
def RealPair.name : RealPair → String
  | .atan2 => "atan2"
  | .copysign => "copysign"
  | .fmod => "fmod"
  | .nextafter => "nextafter"
  | .pow => "pow"
  | .remainder => "remainder"

/-- The name of a test of one float. -/
def RealTest.name : RealTest → String
  | .isFinite => "isfinite"
  | .isInfinite => "isinf"
  | .isNaN => "isnan"

/-- The name of a way to leave out a fraction. -/
def IntegerPart.name : IntegerPart → String
  | .ceil => "ceil"
  | .floor => "floor"
  | .trunc => "trunc"

/-- The name of an extreme. -/
def Extreme.name : Extreme → String
  | .max => "max"
  | .min => "min"

namespace Value

/-- A number as a float, which is the nearest one for an integer. -/
def asReal (v : Value) : Except Fault Number.Double :=
  match v with
  | .float x => .ok x
  | v =>
    match v.int? with
    | some n =>
      match Number.floatOfInt? n with
      | some x => .ok x
      | none => .error .intTooLarge
    | none => .error (.notReal v.kind)

/-- An integer, or a boolean as one. -/
def asInteger (v : Value) : Except Fault Int :=
  match v.int? with
  | some n => .ok n
  | none => .error (.notInteger v.kind)

/-- The items of a value that can be gone through. -/
def asItems (v : Value) : Except Fault (List Value) :=
  match v.items? with
  | some vs => .ok vs
  | none => .error (.notIterable v.kind)

end Value

/-- The only argument. -/
def oneArgument (name : String) : List Value → Except Fault Value
  | [v] => .ok v
  | vs => .error (.exactlyOne name vs.length)

/-- The only argument of a mathematical function. -/
def oneMathArgument (name : String) (vs : List Value) : Except Fault Value :=
  oneArgument ("math." ++ name) vs

/-- The only two arguments. -/
def twoArguments (name : String) : List Value → Except Fault (Value × Value)
  | [v, w] => .ok (v, w)
  | vs => .error (.exactly name 2 vs.length)

end SmallLisp
