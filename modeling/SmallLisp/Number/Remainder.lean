import SmallLisp.Number.Parts

/-!
# Remainders of floats

The remainder of a division of two floats is itself a float, so it is computed exactly on
integers.

## Main definitions

* `truncatedRemainder`: the remainder of the quotient cut off towards zero
* `nearestRemainder`: the remainder of the quotient rounded to the nearest integer
-/

namespace SmallLisp.Number

/-- The remainder of `a` by `b`, less `b` if the quotient is rounded up to the nearest integer. -/
def centredMod (a b : Nat) : Int :=
  let r := a % b
  if 2 * r > b || (2 * r == b && a / b % 2 == 1) then (r : Int) - b else r

/-- The number `n · 2 ^ e` as a float, with the sign turned if `negative`. A zero keeps that
sign. -/
def floatOfScaled (negative : Bool) (n : Int) (e : Int) : Double :=
  let (num, den) := ratioOf n.natAbs e
  floatOfRatio (negative != decide (n < 0)) num den

/-- The remainder of two floats under an operation on magnitudes. There is none if the first is
infinite or the second zero, and the first that is no number is given back. -/
def remainderBy (op : Nat → Nat → Int) (x y : Double) : Double :=
  match Binary.ofDouble x, Binary.ofDouble y with
  | .finite negative m e, .finite _ n f =>
    if n = 0 then notANumber true
    else
      let low := min e f
      floatOfScaled negative (op (scaleUp m (e - low)) (scaleUp n (f - low))) low
  | .finite .., .infinite _ => x
  | .nan, _ => x
  | _, .nan => y
  | _, _ => notANumber true

/-- The remainder of `x` by `y` that has the sign of `x`. -/
def truncatedRemainder (x y : Double) : Double :=
  remainderBy (fun a b => (a % b : Nat)) x y

/-- The remainder of `x` by `y` of least magnitude, a tie going to the even quotient. -/
def nearestRemainder (x y : Double) : Double :=
  remainderBy centredMod x y

end SmallLisp.Number
