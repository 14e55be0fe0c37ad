import SmallLisp.Builtin.Call
import SmallLisp.Store

/-!
# The names of a root scope

Every root scope binds the same names: mathematical functions and constants in alphabetical order,
then the arithmetic and comparison operators, the numeric procedures and the two booleans.

## Main definitions

* `Entry`: a procedure or a constant
* `entries`: the names with their entries, in order
* `register`: binds the names in a scope
-/

namespace SmallLisp

/-- What a name of a root scope stands for. -/
inductive Entry where
  | procedure (operation : Operation) (arity : Option Nat)
  | constant (value : Value)

/-- A procedure that checks its arguments itself. -/
def Entry.checked (operation : Operation) : Entry :=
  .procedure operation none

/-- A procedure of two arguments. -/
def Entry.binary (operation : Operation) : Entry :=
  .procedure operation (some 2)

/-- A float constant. -/
def Entry.float (x : Number.Double) : Entry :=
  .constant (.float x)

/-- The mathematical functions and constants. -/
def mathEntries : List (String × Entry) := [
  ("acos", .checked (.real .acos)),
  ("acosh", .checked (.real .acosh)),
  ("asin", .checked (.real .asin)),
  ("asinh", .checked (.real .asinh)),
  ("atan", .checked (.real .atan)),
  ("atan2", .checked (.realPair .atan2)),
  ("atanh", .checked (.real .atanh)),
  ("cbrt", .checked (.real .cbrt)),
  ("ceil", .checked (.integerPart .ceil)),
  ("comb", .checked .comb),
  ("copysign", .checked (.realPair .copysign)),
  ("cos", .checked (.real .cos)),
  ("cosh", .checked (.real .cosh)),
  ("degrees", .checked (.real .degrees)),
  ("dist", .checked .dist),
  ("e", .float 2.718281828459045),
  ("erf", .checked (.real .erf)),
  ("erfc", .checked (.real .erfc)),
  ("exp", .checked (.real .exp)),
  ("exp2", .checked (.real .exp2)),
  ("expm1", .checked (.real .expm1)),
  ("fabs", .checked (.real .fabs)),
  ("factorial", .checked .factorial),
  ("floor", .checked (.integerPart .floor)),
  ("fmod", .checked (.realPair .fmod)),
  ("frexp", .checked .frexp),
  ("fsum", .checked .fsum),
  ("gamma", .checked (.real .gamma)),
  ("gcd", .checked .gcd),
  ("hypot", .checked .hypot),
  ("inf", .float (Number.infinity false)),
  ("isclose", .checked .isclose),
  ("isfinite", .checked (.realTest .isFinite)),
  ("isinf", .checked (.realTest .isInfinite)),
  ("isnan", .checked (.realTest .isNaN)),
  ("isqrt", .checked .isqrt),
  ("lcm", .checked .lcm),
  ("ldexp", .checked .ldexp),
  ("lgamma", .checked (.real .lgamma)),
  ("log", .checked (.logarithm .natural)),
  ("log10", .checked (.logarithm .decimal)),
  ("log1p", .checked (.real .log1p)),
  ("log2", .checked (.logarithm .binary)),
  ("modf", .checked .modf),
  ("nan", .float (Number.notANumber false)),
  ("nextafter", .checked (.realPair .nextafter)),
  ("perm", .checked .perm),
  ("pi", .float Number.pi),
  ("pow", .checked (.realPair .pow)),
  ("prod", .checked .prod),
  ("radians", .checked (.real .radians)),
  ("remainder", .checked (.realPair .remainder)),
  ("sin", .checked (.real .sin)),
  ("sinh", .checked (.real .sinh)),
  ("sqrt", .checked (.real .sqrt)),
  ("tan", .checked (.real .tan)),
  ("tanh", .checked (.real .tanh)),
  ("tau", .float 6.283185307179586),
  ("trunc", .checked (.integerPart .trunc)),
  ("ulp", .checked (.real .ulp))]

/-- The arithmetic operators. -/
def arithmeticEntries : List (String × Entry) := [
  ("+", .binary (.arithmetic .add)),
  ("-", .binary (.arithmetic .sub)),
  ("*", .binary (.arithmetic .mul)),
  ("/", .binary (.arithmetic .div))]

/-- The comparison operators. -/
def comparisonEntries : List (String × Entry) := [
  ("<=", .binary (.comparison .le)),
  ("<", .binary (.comparison .lt)),
  (">", .binary (.comparison .gt)),
  (">=", .binary (.comparison .ge)),
  ("!=", .binary (.comparison .ne)),
  ("=", .binary (.comparison .eq))]

/-- The numeric procedures. -/
def numericEntries : List (String × Entry) := [
  ("abs", .checked .abs),
  ("max", .checked (.extreme .max)),
  ("min", .checked (.extreme .min)),
  ("round", .checked .round)]

/-- The booleans. -/
def booleanEntries : List (String × Entry) := [
  ("#t", .constant (.bool true)),
  ("#f", .constant (.bool false))]

/-- All names of a root scope, in order. -/
def entries : List (String × Entry) :=
  mathEntries ++ arithmeticEntries ++ comparisonEntries ++ numericEntries ++ booleanEntries

/-- The value of an entry under a name. A procedure takes the given identity. -/
def Entry.value (name : String) (id : Nat) : Entry → Value
  | .procedure operation arity => .builtin ⟨id, name, operation, arity⟩
  | .constant v => v

/-- Binds the names of a root scope in the scope `i`. -/
def Store.register (s : Store) (i : ScopeId) : Store :=
  entries.foldl (fun s e =>
    let s' := s.modify i (·.put ⟨e.1⟩ (e.2.value e.1 s.nextId))
    { s' with nextId := s.nextId + 1 }) s

/-- The procedure of a root scope with a given name. -/
def registered? (name : String) (id : Nat) : Option Value :=
  (entries.lookup name).map (Entry.value name id)

end SmallLisp
