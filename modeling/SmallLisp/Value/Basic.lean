import SmallLisp.Builtin.Operation
import SmallLisp.Number.Double
import SmallLisp.Symbol

/-!
# Values

One type holds both programs and what they compute. Source text gives integers, floats, symbols
and lists of these. Evaluation adds booleans, texts, tuples, functions and built-in procedures.

## Main definitions

* `ScopeId`: the place of a scope in the store
* `Builtin`: a built-in procedure
* `Value`: a program or a value
* `Kind`: the sorts of values, by which errors name them
-/

namespace SmallLisp

/-- The place of a scope in the store. -/
abbrev ScopeId := Nat

/-- A built-in procedure. It takes exactly `arity` arguments, or checks its arguments itself.
Two built-in procedures are the same if they have the same `id`. -/
structure Builtin where
  id : Nat
  name : String
  operation : Operation
  arity : Option Nat
  deriving DecidableEq, Repr

/-- A program or a value. -/
inductive Value where
  | int (n : Int)
  | float (x : Number.Double)
  | bool (b : Bool)
  | nothing
  | str (s : String)
  | sym (s : Symbol)
  | list (items : List Value)
  | tuple (items : List Value)
  /-- A function with its parameters and its body. A closure also has the scope in which it was
  defined. Two functions are the same if they have the same `id`. -/
  | function (id : Nat) (name : Symbol) (params : List Symbol) (body : Value)
      (scope : Option ScopeId)
  | builtin (b : Builtin)
  deriving Inhabited

/-- The sorts of values. -/
inductive Kind where
  | int
  | float
  | bool
  | nothing
  | str
  | sym
  | list
  | tuple
  | function
  | builtin
  deriving DecidableEq, Repr

/-- The name of a sort of values in error messages. -/
def Kind.name : Kind → String
  | .int => "int"
  | .float => "float"
  | .bool => "bool"
  | .nothing => "NoneType"
  | .str => "str"
  | .sym => "Symbol"
  | .list => "list"
  | .tuple => "tuple"
  | .function => "UserFunction"
  | .builtin => "Builtin"

namespace Value

/-- The sort of a value. -/
def kind : Value → Kind
  | .int _ => .int
  | .float _ => .float
  | .bool _ => .bool
  | .nothing => .nothing
  | .str _ => .str
  | .sym _ => .sym
  | .list _ => .list
  | .tuple _ => .tuple
  | .function .. => .function
  | .builtin _ => .builtin

/-- A value as an integer: booleans count as one and zero. -/
def int? : Value → Option Int
  | .int n => some n
  | .bool b => some (if b then 1 else 0)
  | _ => none

/-- The items of a value that can be gone through: a list, a tuple, or the characters of a
text. -/
def items? : Value → Option (List Value)
  | .list vs => some vs
  | .tuple vs => some vs
  | .str s => some (s.toList.map fun c => .str (String.singleton c))
  | _ => none

end Value

end SmallLisp
