import SmallLisp.Builtin.Arguments
import SmallLisp.Number.Parts
import SmallLisp.Value.Compare

/-!
# Arithmetic

The four operators. On integers they are exact but for the quotient, which is the nearest float.
If one number is a float, both are. Texts, lists and tuples can be put together and repeated.

## Main definitions

* `quotient`: the float nearest to a quotient of integers
* `Num.arithmetic`: the operators on numbers
* `repeated`: a text, list or tuple repeated, if the result is not too large
* `Arithmetic.run`: the operators on values
-/

namespace SmallLisp

open Number (Double)

/-- The float nearest to a quotient of integers. -/
def quotient (a b : Int) : Except Fault Double :=
  if b = 0 then .error .divisionByZero
  else
    let x := Number.floatOfRatio ((a < 0) != (b < 0)) a.natAbs b.natAbs
    if Number.isFinite x then .ok x else .error .quotientTooLarge

namespace Num

/-- A number as a float. -/
def toFloat : Num → Except Fault Double
  | .float x => .ok x
  | .int n =>
    match Number.floatOfInt? n with
    | some x => .ok x
    | none => .error .intTooLarge

/-- The operators on two integers. -/
def intArithmetic (op : Arithmetic) (a b : Int) : Except Fault Value :=
  match op with
  | .add => .ok (.int (a + b))
  | .sub => .ok (.int (a - b))
  | .mul => .ok (.int (a * b))
  | .div => (quotient a b).map .float

/-- The operators on two floats. -/
def floatArithmetic (op : Arithmetic) (x y : Double) : Except Fault Value :=
  match op with
  | .add => .ok (.float (x + y))
  | .sub => .ok (.float (x - y))
  | .mul => .ok (.float (x * y))
  | .div => if y.equals 0.0 then .error .divisionByZero else .ok (.float (x / y))

/-- The operators on two numbers. -/
def arithmetic (op : Arithmetic) : Num → Num → Except Fault Value
  | .int a, .int b => intArithmetic op a b
  | a, b => do
    let x ← a.toFloat
    let y ← b.toFloat
    floatArithmetic op x y

end Num

/-- A list `n` times, one after another. -/
def repeatList {α : Type} (n : Nat) (xs : List α) : List α :=
  (List.replicate n xs).flatten

/-- Whether a value is a text, a list or a tuple. -/
def Value.isSequence : Value → Bool
  | .str _ | .list _ | .tuple _ => true
  | _ => false

/-- The number of bytes that a character of a text takes, which is the same for all of them. -/
def characterWidth (cs : List Char) : Nat :=
  if cs.all (·.toNat < 0x100) then 1 else if cs.all (·.toNat < 0x10000) then 2 else 4

/-- The number of bytes that an item of a list or a tuple takes. -/
def itemWidth : Nat := 8

/-- The most bytes that a repetition may take. -/
def memoryLimit : Nat := 4294967296

/-- The items of a sequence repeated, each of which takes `width` bytes. Nothing is repeated for a
count below one, and whatever the count if there are no items. -/
def repeatedItems {α : Type} (width : Nat) (xs : List α) (count : Int) : Except Fault (List α) :=
  if xs.isEmpty || count ≤ 0 then .ok []
  else if memoryLimit < width * xs.length * count.toNat then .error .outOfMemory
  else .ok (repeatList count.toNat xs)

/-- A text, list or tuple repeated. -/
def repeated (sequence count : Value) : Except Fault Value :=
  match count.int? with
  | none => .error (.repetition count.kind)
  | some n =>
    if n < minWord ∨ maxWord < n then .error .repeatTooLarge
    else
      match sequence with
      | .str s =>
        if maxWord < s.length * n then .error .textTooLong
        else (repeatedItems (characterWidth s.toList) s.toList n).map (.str ∘ String.ofList)
      | .list vs => (repeatedItems itemWidth vs n).map .list
      | .tuple vs => (repeatedItems itemWidth vs n).map .tuple
      | v => .error (.operands .mul v.kind count.kind)

/-- Two texts, lists or tuples put together. -/
def concatenated (v w : Value) : Except Fault Value :=
  match v, w with
  | .str s, .str t => .ok (.str (s ++ t))
  | .list vs, .list ws => .ok (.list (vs ++ ws))
  | .tuple vs, .tuple ws => .ok (.tuple (vs ++ ws))
  | v, w => .error (.concatenation v.kind w.kind)

/-- An arithmetic operator on two values. -/
def Arithmetic.run (op : Arithmetic) (v w : Value) : Except Fault Value :=
  match v.num?, w.num? with
  | some a, some b => Num.arithmetic op a b
  | _, _ =>
    match op with
    | .add =>
      if v.isSequence then concatenated v w else .error (.operands op v.kind w.kind)
    | .mul =>
      if v.isSequence then repeated v w
      else if w.isSequence then repeated w v
      else .error (.operands op v.kind w.kind)
    | _ => .error (.operands op v.kind w.kind)

end SmallLisp
