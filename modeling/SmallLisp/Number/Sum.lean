import SmallLisp.Number.Double

/-!
# Sums

A sum of floats that is rounded only once. The sum so far is kept as parts that do not overlap, from
the smallest to the largest, so nothing of it is lost. A sum must not become too large on the way,
even if later terms would make it small again.

## Main definitions

* `addPart`: one number added to parts that do not overlap
* `roundParts`: the float nearest to the sum of such parts
* `RunningSum`: a sum under way
* `RunningSum.add`, `RunningSum.value`: one term more, and the value
-/

namespace SmallLisp.Number

/-- The sum of two numbers, and what is lost in it. -/
def exactPair (x y : Double) : Double × Double :=
  let (large, small) := if magnitudeOf x < magnitudeOf y then (y, x) else (x, y)
  let total := large + small
  (total, small - (total - large))

/-- Whether a number is zero. -/
def isZero (x : Double) : Bool :=
  magnitudeBits x = 0

/-- A number added to parts. What is lost on the way stays as parts, and the sum is the last of
them. -/
def addPart (x : Double) : List Double → List Double
  | [] => if isZero x then [] else [x]
  | y :: ys =>
    let (total, rest) := exactPair x y
    if isZero rest then addPart total ys else rest :: addPart total ys

/-- The sum `total` of the largest parts, where `rest` was lost in it and `next` is the part after
it. A tie is decided by the sign of that part. -/
def decideTie (total rest : Double) (next : Option Double) : Double :=
  match next with
  | none => total
  | some y =>
    let twice := rest * 2.0
    let other := total + twice
    if isNegative y == isNegative rest && (other - total).equals twice then other else total

/-- The float nearest to the sum of `total` and of parts that are given from the largest to the
smallest. -/
def roundFrom (total : Double) : List Double → Double
  | [] => total
  | y :: ys =>
    let next := total + y
    let rest := y - (next - total)
    if isZero rest then roundFrom next ys else decideTie next rest ys.head?

/-- The float nearest to the sum of parts. -/
def roundParts (parts : List Double) : Double :=
  match parts.reverse with
  | [] => 0.0
  | x :: xs => roundFrom x xs

/-- A sum under way: the parts of the sum of finite terms, the infinite terms, and the first term
that is no number. -/
structure RunningSum where
  parts : List Double
  positive : Bool
  negative : Bool
  nan : Option Double

/-- The ways in which a sum has no value. -/
inductive SumFailure where
  | overflow
  | oppositeInfinities
  deriving DecidableEq, Repr

/-- The sum without terms. -/
def RunningSum.zero : RunningSum := ⟨[], false, false, none⟩

/-- One term more. A term that is not finite begins the sum of the finite ones anew. -/
def RunningSum.add (s : RunningSum) (x : Double) : Except SumFailure RunningSum :=
  if isFinite x then
    let parts := addPart x s.parts
    if parts.all isFinite then .ok { s with parts := parts } else .error .overflow
  else if isNaN x then .ok { s with parts := [], nan := some (s.nan.getD x) }
  else if isNegative x then .ok { s with parts := [], negative := true }
  else .ok { s with parts := [], positive := true }

/-- The value of a sum. -/
def RunningSum.value (s : RunningSum) : Except SumFailure Double :=
  if s.positive && s.negative then .error .oppositeInfinities
  else
    match s.nan with
    | some x => .ok x
    | none =>
      if s.positive then .ok (infinity false)
      else if s.negative then .ok (infinity true)
      else .ok (roundParts s.parts)

end SmallLisp.Number
