import SmallLisp.Fault
import SmallLisp.Number.Binary

/-!
# Comparing values

Numbers are compared exactly, whatever their sort, texts by code points, and lists and tuples item
by item. Functions and built-in procedures are equal only to themselves. Values of other sorts
have no order.

## Main definitions

* `Num`: an integer or a float, the common view of numbers and booleans
* `Num.compare?`: the exact order of two numbers, if neither is the float that is no number
* `Value.same`: equality of values
* `Value.isKey`: whether a value can be looked for among names
* `Value.compare`: a comparison of values
-/

namespace SmallLisp

/-- An integer or a float. -/
inductive Num where
  | int (n : Int)
  | float (x : Number.Double)

/-- A value as a number: booleans count as one and zero. -/
def Value.num? : Value → Option Num
  | .int n => some (.int n)
  | .bool b => some (.int (if b then 1 else 0))
  | .float x => some (.float x)
  | _ => none

namespace Num

/-- A number apart from infinities as `a · 2 ^ e`. -/
def binary : Num → Number.Binary
  | .int n => .finite (n < 0) n.natAbs 0
  | .float x => Number.Binary.ofDouble x

/-- A signed magnitude as an integer. -/
def signed (negative : Bool) (m : Nat) : Int :=
  if negative then -m else m

/-- Compares `a · 2 ^ e` with `b · 2 ^ f`. -/
def compareScaled (a : Int) (e : Int) (b : Int) (f : Int) : Ordering :=
  let low := min e f
  Ord.compare (a * Number.powTwo (e - low).toNat) (b * Number.powTwo (f - low).toNat)

/-- The order of two numbers, which is exact. There is none if one is not a number. -/
def compare? (a b : Num) : Option Ordering :=
  match a.binary, b.binary with
  | .nan, _ => none
  | _, .nan => none
  | .infinite s, .infinite t => some (Ord.compare t s)
  | .infinite s, .finite .. => some (if s then .lt else .gt)
  | .finite .., .infinite t => some (if t then .gt else .lt)
  | .finite s m e, .finite t n f => some (compareScaled (signed s m) e (signed t n) f)

end Num

/-- Whether a comparison holds of two things in a given order, or of two without one. -/
def Comparison.holds : Comparison → Option Ordering → Bool
  | .le, some o => o != .gt
  | .lt, some o => o == .lt
  | .gt, some o => o == .gt
  | .ge, some o => o != .lt
  | .ne, some o => o != .eq
  | .eq, some o => o == .eq
  | .ne, none => true
  | _, none => false

/-- The order of two texts by code points. -/
def compareChars : List Char → List Char → Ordering
  | [], [] => .eq
  | [], _ :: _ => .lt
  | _ :: _, [] => .gt
  | c :: cs, d :: ds =>
    if c.toNat < d.toNat then .lt else if d.toNat < c.toNat then .gt else compareChars cs ds

namespace Value

/-- Whether a value is equal to a number. -/
def sameNum (a : Num) (w : Value) : Bool :=
  match w.num? with
  | some b => a.compare? b == some .eq
  | none => false

mutual

/-- Whether two values are equal. -/
def same : Value → Value → Bool
  | .nothing, .nothing => true
  | .str s, .str t => s == t
  | .sym s, .sym t => s == t
  | .list vs, .list ws => sameAll vs ws
  | .tuple vs, .tuple ws => sameAll vs ws
  | .function i _ _ _ _, .function j _ _ _ _ => i == j
  | .builtin b, .builtin c => b.id == c.id
  | .int n, w => sameNum (.int n) w
  | .float x, w => sameNum (.float x) w
  | .bool b, w => sameNum (.int (if b then 1 else 0)) w
  | _, _ => false

/-- Whether two lists of values are equal item by item. -/
def sameAll : List Value → List Value → Bool
  | [], [] => true
  | v :: vs, w :: ws => same v w && sameAll vs ws
  | _, _ => false

end

mutual

/-- Whether a value can be looked for among names: a list cannot, nor a tuple that holds one. -/
def isKey : Value → Bool
  | .list _ => false
  | .tuple vs => allKeys vs
  | _ => true

/-- Whether all of several values can be looked for among names. -/
def allKeys : List Value → Bool
  | [] => true
  | v :: vs => isKey v && allKeys vs

end

mutual

/-- An ordering comparison of values, at the first items that differ. -/
def order (op : Comparison) : Value → Value → Except Fault Bool
  | .str s, .str t => .ok (op.holds (some (compareChars s.toList t.toList)))
  | .list vs, .list ws => orderAll op vs ws
  | .tuple vs, .tuple ws => orderAll op vs ws
  | v, w =>
    match v.num?, w.num? with
    | some a, some b => .ok (op.holds (a.compare? b))
    | _, _ => .error (.incomparable op v.kind w.kind)

/-- An ordering comparison of lists of values. The shorter of two lists that agree as far as it
goes is the lesser. -/
def orderAll (op : Comparison) : List Value → List Value → Except Fault Bool
  | [], [] => .ok (op.holds (some .eq))
  | [], _ :: _ => .ok (op.holds (some .lt))
  | _ :: _, [] => .ok (op.holds (some .gt))
  | v :: vs, w :: ws => if same v w then orderAll op vs ws else order op v w

end

/-- A comparison of values. Equality and its negation never fail. -/
def compare (op : Comparison) (v w : Value) : Except Fault Bool :=
  match op with
  | .eq => .ok (same v w)
  | .ne => .ok (!same v w)
  | _ => order op v w

end Value

end SmallLisp
