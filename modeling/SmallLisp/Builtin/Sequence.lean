import SmallLisp.Builtin.Arithmetic

/-!
# Operations on sequences

The extremes of several values and the product of the items of a value.

## Main definitions

* `Extreme.run`: the greatest or the least of several values
* `Primitive.prod`: a product
-/

namespace SmallLisp

/-- The comparison by which an item takes the place of the best before it. -/
def Extreme.comparison : Extreme → Comparison
  | .max => .gt
  | .min => .lt

/-- The best of `best` and the items after it. An item takes its place only if it is better. -/
def Extreme.pick (e : Extreme) (best : Value) : List Value → Except Fault Value
  | [] => .ok best
  | v :: vs => do
    if ← Value.compare e.comparison v best then e.pick v vs else e.pick best vs

/-- The extreme of the arguments, or of the items of a single one. -/
def Extreme.run (e : Extreme) (vs : List Value) : Except Fault Value :=
  match vs with
  | [] => .error (.atLeast e.name 1 0)
  | [v] => do
    match ← v.asItems with
    | [] => .error (.emptySequence e.name)
    | w :: ws => e.pick w ws
  | v :: vs => e.pick v vs

/-- Multiplies values, one after another. -/
def multiplyAll (acc : Value) : List Value → Except Fault Value
  | [] => .ok acc
  | v :: vs => do multiplyAll (← Arithmetic.mul.run acc v) vs

/-- The product of the items of a value, from the integer one. -/
def Primitive.prod (vs : List Value) : Except Fault Value :=
  match vs with
  | [v] => do multiplyAll (.int 1) (← v.asItems)
  | vs =>
    if vs.length ≤ 2 then .error (.positional "prod" 1 vs.length)
    else .error (.atMostTaken "prod" 2 vs.length)

end SmallLisp
