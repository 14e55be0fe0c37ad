import SmallLisp.Number.Parts

/-!
# Norms

The length of a vector, which is the square root of the sum of the squares of its components. The
components are scaled by a power of two so that the largest one lies between one half and one.
Every square is taken in three parts, which lose nothing, and what is lost in adding them up is
summed apart. The root is corrected once by the rest that its own square leaves.

Vectors of very small components, for which there is no such power of two, are divided by the
largest one instead.

## Main definitions

* `halves`: a number as the sum of two with half its bits each
* `SquareSum`: a sum of squares with what was lost in it
* `norm`: the length of a vector
-/

namespace SmallLisp.Number

/-- A number as the sum of two numbers with at most half of its bits each. -/
def halves (x : Double) : Double × Double :=
  let t := x * 134217729.0
  let high := t - (t - x)
  (high, x - high)

/-- A sum of squares, which is one more than the squares give so that it is larger than each of
them, and what was lost in adding the leading, mixed and trailing parts of the squares. -/
structure SquareSum where
  total : Double
  leading : Double
  mixed : Double
  trailing : Double

namespace SquareSum

/-- The sum of no squares. -/
def zero : SquareSum := ⟨1.0, 0.0, 0.0, 0.0⟩

/-- What is lost when `term` is added to `total`. -/
def lost (total term : Double) : Double :=
  (total - (total + term)) + term

/-- One square more. The trailing part is too small to change the total. -/
def add (s : SquareSum) (x : Double) : SquareSum :=
  let (high, low) := halves x
  let a := high * high
  let b := 2.0 * high * low
  let t₁ := s.total + a
  ⟨t₁ + b, s.leading + lost s.total a, s.mixed + lost t₁ b, s.trailing + low * low⟩

/-- One square less. -/
def subtract (s : SquareSum) (x : Double) : SquareSum :=
  let (high, low) := halves x
  let a := -high * high
  let b := -2.0 * high * low
  let c := -low * low
  let t₁ := s.total + a
  let t₂ := t₁ + b
  ⟨t₂ + c, s.leading + lost s.total a, s.mixed + lost t₁ b, s.trailing + lost t₂ c⟩

/-- The value of a sum. -/
def value (s : SquareSum) : Double :=
  s.total - 1.0 + (s.leading + s.mixed + s.trailing)

/-- The square root of a sum, corrected once. -/
def root (s : SquareSum) : Double :=
  let h := s.value.sqrt
  h + (s.subtract h).value / (2.0 * h)

end SquareSum

/-- The length of a vector of magnitudes, which are scaled by `2 ^ k` on the way. -/
def scaledNorm (xs : List Double) (k : Int) : Double :=
  let scale := scaleBy 1.0 k
  (xs.foldl (fun s x => s.add (x * scale)) SquareSum.zero).root / scale

/-- A sum that is one more than its terms give, and what was lost in it. -/
def addLossy (s : Double × Double) (term : Double) : Double × Double :=
  (s.1 + term, s.2 + SquareSum.lost s.1 term)

/-- The length of a vector of very small components, of which `largest` is the largest. -/
def tinyNorm (xs : List Double) (largest : Double) : Double :=
  let s := xs.foldl (fun s x => addLossy s ((x / largest) * (x / largest))) (1.0, 0.0)
  largest * (s.1 - 1.0 + s.2).sqrt

/-- The largest of several magnitudes. -/
def largestOf (xs : List Double) : Double :=
  xs.foldl (fun best x => if best < x then x else best) 0.0

/-- The least exponent of a number for which there is a power of two that brings it near one. -/
def minScaled : Int := -1023

/-- The length of a vector. An infinite component makes it infinite, whatever the others are. -/
def norm (components : List Double) : Double :=
  let xs := components.map magnitudeOf
  let largest := largestOf xs
  if xs.any isInfinite then infinity false
  else if xs.any isNaN then notANumber false
  else if largest.equals 0.0 || xs.length ≤ 1 then largest
  else
    let exponent := (fractionExponent largest).2
    if minScaled ≤ exponent then scaledNorm xs (-exponent) else tinyNorm xs largest

end SmallLisp.Number
