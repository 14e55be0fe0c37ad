import SmallLisp.Builtin.Real
import SmallLisp.Builtin.Sequence
import SmallLisp.Builtin.Whole
import SmallLisp.Error
import SmallLisp.Value.Printer

/-!
# Calling built-in procedures

A call checks the number of arguments if the procedure fixes it, runs the operation, and turns a
fault of the operation into an error that names the procedure.

## Main definitions

* `Operation.run`: the result of an operation on arguments
* `Extension.run`: the result of an added procedure
* `Builtin.call`: the result of a call
-/

namespace SmallLisp

/-- The result of an operation on arguments. The operation of an added procedure is not among
these. -/
def Operation.run (op : Operation) (vs : List Value) : Except Fault Value :=
  match op with
  | .arithmetic op => do
    let (v, w) ← twoArguments op.symbol vs
    op.run v w
  | .comparison op => do
    let (v, w) ← twoArguments op.symbol vs
    let b ← Value.compare op v w
    pure (.bool b)
  | .real f => do
    let x ← (← oneMathArgument f.name vs).asReal
    let r ← f.eval x
    pure (.float r)
  | .logarithm l => l.run vs
  | .realPair f => do
    let (v, w) ← twoArguments f.name vs
    let x ← v.asReal
    let y ← w.asReal
    let r ← f.eval x y
    pure (.float r)
  | .realTest t => do
    let x ← (← oneMathArgument t.name vs).asReal
    pure (.bool (t.holds x))
  | .integerPart p => do p.run (← oneMathArgument p.name vs)
  | .extreme e => e.run vs
  | .abs => do Primitive.abs (← oneArgument "abs" vs)
  | .comb => do
    let (v, w) ← twoArguments "comb" vs
    Primitive.comb v w
  | .dist => do
    let (v, w) ← twoArguments "dist" vs
    Primitive.dist v w
  | .factorial => do Primitive.factorial (← oneMathArgument "factorial" vs)
  | .frexp => do
    let x ← (← oneMathArgument "frexp" vs).asReal
    let (fraction, exponent) := Number.fractionExponent x
    pure (.tuple [.float fraction, .int exponent])
  | .fsum => do Primitive.fsum (← oneMathArgument "fsum" vs)
  | .gcd => Primitive.gcd vs
  | .hypot => Primitive.hypot vs
  | .isclose => Primitive.isClose vs
  | .isqrt => do Primitive.isqrt (← oneMathArgument "isqrt" vs)
  | .lcm => Primitive.lcm vs
  | .ldexp => do
    let (v, w) ← twoArguments "ldexp" vs
    Primitive.ldexp v w
  | .modf => do
    let x ← (← oneMathArgument "modf" vs).asReal
    let (fraction, whole) := Number.splitParts x
    pure (.tuple [.float fraction, .float whole])
  | .perm => Primitive.perm vs
  | .prod => Primitive.prod vs
  | .round => Primitive.round vs
  | .extension _ => .error .extensionType

/-- The error of a failing procedure that was added under `name`. -/
def ExtensionFailure.error (name : String) : ExtensionFailure → Error
  | .zeroDivision => .builtin name .divisionByZero
  | .value => .builtin name .extensionValue
  | .overflow => .builtin name .extensionOverflow
  | .type => .builtin name .extensionType
  | failure => .extension failure

/-- The error of an added procedure for what keeps a value from being written. -/
def TextFault.extensionError (name : String) : TextFault → Error
  | .digitLimit => .builtin name .digitLimit
  | .stackExhausted => .stackExhausted

/-- The result of a procedure that was added under `name`, within a room. -/
def Extension.run (e : Extension) (room : Nat) (name : String) (vs : List Value) :
    Except Error Value :=
  match e with
  | .list => .ok (.list vs)
  | .tuple => .ok (.tuple vs)
  | .nothing => .ok .nothing
  | .count => .ok (.int vs.length)
  | .print =>
    match Value.renderAll .printed room vs with
    | .ok ts => .ok (.str (Text.joinWith " " ts))
    | .error fault => .error (fault.extensionError name)
  | .fail failure => .error (failure.error name)

/-- The error for a fault of the operation of the built-in procedure `name`. -/
def Fault.error (name : String) : Fault → Error
  | .outOfMemory => .outOfMemory
  | fault => .builtin name fault

/-- The result of the operation of a built-in procedure, whatever the number of arguments. -/
def Builtin.runOperation (b : Builtin) (room : Nat) (vs : List Value) : Except Error Value :=
  match b.operation with
  | .extension e => e.run room b.name vs
  | op => (op.run vs).mapError (Fault.error b.name)

/-- The result of a call of a built-in procedure. Of the procedures, only an added one can come to
need the room. -/
def Builtin.call (b : Builtin) (room : Nat) (vs : List Value) : Except Error Value :=
  match b.arity with
  | some n => if vs.length ≠ n then .error (.arity b.name n vs.length) else b.runOperation room vs
  | none => b.runOperation room vs

end SmallLisp
