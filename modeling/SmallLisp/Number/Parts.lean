import SmallLisp.Number.Rounding

/-!
# Parts of a float

Operations that take a float apart, put it together again or go to its neighbours. They are exact
but for the last step of scaling.

## Main definitions

* `fractionExponent`: a fraction between one half and one, and an exponent
* `scaleBy`: a float times a power of two
* `splitParts`: the parts after and before the point
* `stepTowards`: the next float in a direction
* `unitLastPlace`: the distance to the next float
-/

namespace SmallLisp.Number

/-- The float `f` and the exponent `k` with `x = f · 2 ^ k` and a magnitude of `f` from one half
to below one. Zero, infinities and what is no number are given back with exponent zero. -/
def fractionExponent (x : Double) : Double × Int :=
  match Binary.ofDouble x with
  | .finite negative m e =>
    if m = 0 then (x, 0)
    else
      let width := m.log2 + 1
      (floatOfRatio negative m (powTwo width), e + width)
  | _ => (x, 0)

/-- The bounds beyond which scaling by a power of two gives infinity or zero. -/
def scaleBound : Int := 2200

/-- A float times `2 ^ k`, rounded once. -/
def scaleBy (x : Double) (k : Int) : Double :=
  match Binary.ofDouble x with
  | .finite negative m e =>
    if m = 0 then x
    else if scaleBound < k then infinity negative
    else if k < -scaleBound then floatOfBits negative 0
    else
      let (num, den) := ratioOf m (e + k)
      floatOfRatio negative num den
  | _ => x

/-- The parts of a float after and before the point, both with its sign. -/
def splitParts (x : Double) : Double × Double :=
  match Binary.ofDouble x with
  | .finite negative m e =>
    let (num, den) := ratioOf m e
    (floatOfRatio negative (num % den) den, floatOfRatio negative (num / den) 1)
  | .infinite negative => (floatOfBits negative 0, x)
  | .nan => (x, x)

/-- The next float after `x` in the direction of `y`. -/
def stepTowards (x y : Double) : Double :=
  if isNaN y then y
  else if isNaN x then x
  else if x.equals y then y
  else if magnitudeBits x = 0 then floatOfBits (isNegative y) 1
  else if (x < y) == isNegative x then floatOfBits (isNegative x) (magnitudeBits x - 1)
  else floatOfBits (isNegative x) (magnitudeBits x + 1)

/-- The distance from the magnitude of a float to the next float, or from the one before if there
is no finite next one. -/
def unitLastPlace (x : Double) : Double :=
  let y := magnitudeOf x
  if isNaN x then x
  else if isInfinite x then y
  else
    let up := stepTowards y (infinity false)
    if isFinite up then up - y else y - stepTowards y (infinity true)

end SmallLisp.Number
