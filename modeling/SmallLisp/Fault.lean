import SmallLisp.Value.Basic

/-!
# Faults of operations

What can go wrong in an operation, and the wording of each case.

## Main definitions

* `Fault`: the cause
* `FaultKind`: whether values are out of range, of the wrong sort, or divide by zero
* `Fault.message`: the wording
-/

namespace SmallLisp

/-- The symbol of an arithmetic operator. -/
def Arithmetic.symbol : Arithmetic → String
  | .add => "+"
  | .sub => "-"
  | .mul => "*"
  | .div => "/"

/-- The symbol of a comparison in error messages. -/
def Comparison.symbol : Comparison → String
  | .le => "<="
  | .lt => "<"
  | .gt => ">"
  | .ge => ">="
  | .ne => "!="
  | .eq => "=="

/-- The largest integer of a machine word. -/
def maxWord : Int := 9223372036854775807

/-- The least integer of a machine word. -/
def minWord : Int := -9223372036854775808

/-- What goes wrong in an operation. -/
inductive Fault where
  | divisionByZero
  -- values outside the domain of an operation
  | domain
  | emptySequence (name : String)
  | nanToInteger
  | negative (parameter : String)
  | negativeFactorial
  | negativeRoot
  | dimensions
  | oppositeInfinities
  | digitLimit
  | extensionValue
  -- results that are too large
  | range
  | intTooLarge
  | quotientTooLarge
  | repeatTooLarge
  | textTooLong
  /-- A result takes more memory than there is, which is not a fault of the procedure. -/
  | outOfMemory
  | infinityToInteger
  | roundedTooLarge
  | sumTooLarge
  | factorialTooLarge
  | countTooLarge (parameter : String)
  | extensionOverflow
  -- values of the wrong sort, and wrong numbers of arguments
  | operands (op : Arithmetic) (left right : Kind)
  | concatenation (left right : Kind)
  | repetition (count : Kind)
  | incomparable (op : Comparison) (left right : Kind)
  | notIterable (kind : Kind)
  | noAbsolute (kind : Kind)
  | noMethod (kind : Kind) (method : String)
  | notInteger (kind : Kind)
  | notReal (kind : Kind)
  | notExponent
  | exactlyOne (name : String) (given : Nat)
  | exactly (name : String) (expected given : Nat)
  | atLeast (name : String) (expected given : Nat)
  | atMost (name : String) (expected given : Nat)
  | atMostTaken (name : String) (expected given : Nat)
  | positional (name : String) (expected given : Nat)
  | missing (name parameter : String) (position : Nat)
  | logarithmCount
  | extensionType
  deriving DecidableEq, Repr

/-- The sorts of faults. -/
inductive FaultKind where
  | division
  | value
  | type
  deriving DecidableEq, Repr

namespace Fault

/-- The sort of a fault. -/
def kind : Fault → FaultKind
  | .divisionByZero => .division
  | .domain | .emptySequence _ | .nanToInteger | .negative _ | .negativeFactorial
  | .negativeRoot | .dimensions | .oppositeInfinities | .digitLimit | .extensionValue
  | .range | .intTooLarge | .quotientTooLarge | .repeatTooLarge | .textTooLong | .outOfMemory
  | .infinityToInteger | .roundedTooLarge | .sumTooLarge | .factorialTooLarge
  | .countTooLarge _ | .extensionOverflow => .value
  | .operands .. | .concatenation .. | .repetition _ | .incomparable .. | .notIterable _
  | .noAbsolute _ | .noMethod .. | .notInteger _ | .notReal _ | .notExponent
  | .exactlyOne .. | .exactly .. | .atLeast .. | .atMost .. | .atMostTaken ..
  | .positional .. | .missing .. | .logarithmCount | .extensionType => .type

/-- The noun "argument" in the number that `n` asks for. -/
def argumentNoun (n : Nat) : String :=
  if n = 1 then "argument" else "arguments"

/-- The text that a number with too many digits is refused with. -/
def digitLimitText : String :=
  "Exceeds the limit (4300 digits) for integer string conversion; " ++
    "use sys.set_int_max_str_digits() to increase the limit"

/-- The wording of a fault. -/
def message : Fault → String
  | .divisionByZero => "division by zero"
  | .domain => "math domain error"
  | .emptySequence name => s!"{name}() arg is an empty sequence"
  | .nanToInteger => "cannot convert float NaN to integer"
  | .negative parameter => s!"{parameter} must be a non-negative integer"
  | .negativeFactorial => "factorial() not defined for negative values"
  | .negativeRoot => "isqrt() argument must be nonnegative"
  | .dimensions => "both points must have the same number of dimensions"
  | .oppositeInfinities => "-inf + inf in fsum"
  | .digitLimit => digitLimitText
  | .extensionValue => "host value"
  | .range => "math range error"
  | .intTooLarge => "int too large to convert to float"
  | .quotientTooLarge => "integer division result too large for a float"
  | .repeatTooLarge => "cannot fit 'int' into an index-sized integer"
  | .textTooLong => "repeated string is too long"
  | .outOfMemory => ""
  | .infinityToInteger => "cannot convert float infinity to integer"
  | .roundedTooLarge => "rounded value too large to represent"
  | .sumTooLarge => "intermediate overflow in fsum"
  | .factorialTooLarge => s!"factorial() argument should not exceed {maxWord}"
  | .countTooLarge parameter => s!"{parameter} must not exceed {maxWord}"
  | .extensionOverflow => "host overflow"
  | .operands op left right =>
    "unsupported operand type(s) for " ++ op.symbol ++ ": '" ++ left.name ++ "' and '" ++
      right.name ++ "'"
  | .concatenation left right =>
    "can only concatenate " ++ left.name ++ " (not \"" ++ right.name ++ "\") to " ++ left.name
  | .repetition count => "can't multiply sequence by non-int of type '" ++ count.name ++ "'"
  | .incomparable op left right =>
    "'" ++ op.symbol ++ "' not supported between instances of '" ++ left.name ++ "' and '" ++
      right.name ++ "'"
  | .notIterable kind => "'" ++ kind.name ++ "' object is not iterable"
  | .noAbsolute kind => "bad operand type for abs(): '" ++ kind.name ++ "'"
  | .noMethod kind method => "type " ++ kind.name ++ " doesn't define " ++ method ++ " method"
  | .notInteger kind => "'" ++ kind.name ++ "' object cannot be interpreted as an integer"
  | .notReal kind => "must be real number, not " ++ kind.name
  | .notExponent => "Expected an int as second argument to ldexp."
  | .exactlyOne name given => s!"{name}() takes exactly one argument ({given} given)"
  | .exactly name expected given =>
    s!"{name} expected {expected} {argumentNoun expected}, got {given}"
  | .atLeast name expected given =>
    s!"{name} expected at least {expected} {argumentNoun expected}, got {given}"
  | .atMost name expected given =>
    s!"{name} expected at most {expected} {argumentNoun expected}, got {given}"
  | .atMostTaken name expected given =>
    s!"{name}() takes at most {expected} {argumentNoun expected} ({given} given)"
  | .positional name expected given =>
    s!"{name}() takes exactly {expected} positional {argumentNoun expected} ({given} given)"
  | .missing name parameter position =>
    s!"{name}() missing required argument '{parameter}' (pos {position})"
  | .logarithmCount => "math.log requires 1 to 2 arguments"
  | .extensionType => "host type"

end Fault

end SmallLisp
