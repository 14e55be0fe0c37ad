import SmallLisp.Number.Parts

/-!
# Special functions

Functions of one float that are computed from polynomials and a few elementary functions: the
exponential and the logarithm near zero and one, the error functions and the gamma function. The
order of the floating-point operations is part of the definitions.

## Main definitions

* `expMinusOne`, `logOnePlus`
* `errorFunction`, `errorComplement`
* `gamma`, `logGamma`
-/

namespace SmallLisp.Number

/-- The upper half of the bits of a float's magnitude, by which ranges are told apart. -/
def highMagnitude (x : Double) : Nat :=
  magnitudeBits x / powTwo 32

/-- A float without the lower half of its bits. -/
def withoutLowWord (x : Double) : Double :=
  floatOfBits (isNegative x) (magnitudeBits x / powTwo 32 * powTwo 32)

/-- The leading part of the natural logarithm of two. -/
def ln2High : Double := 6.93147180369123816490e-01

/-- The rest of the natural logarithm of two. -/
def ln2Low : Double := 1.90821492927058770002e-10

/-! ## The exponential near zero -/

/-- The rational approximation shared by all ranges, for the reduced argument `x`: half its
square, and the correction term. -/
def expCorrection (x : Double) : Double × Double :=
  let hfx := 0.5 * x
  let hxs := x * hfx
  let r₁ := 1.0 + hxs * (-3.33333333333331316428e-02)
  let h₂ := hxs * hxs
  let r₂ := 1.58730158725481460165e-03 + hxs * (-7.93650757867487942473e-05)
  let h₄ := h₂ * h₂
  let r₃ := 4.00821782732936239552e-06 + hxs * (-2.01099218183624371326e-07)
  let r := r₁ + h₂ * r₂ + h₄ * r₃
  let t := 3.0 - r * hfx
  (hxs, hxs * ((r - t) / (6.0 - x * t)))

/-- Puts together `2 ^ k · (1 + x) - 1` from the reduced argument `x`, its error `c` and the
power `k`. -/
def expAssemble (x c : Double) (k : Int) : Double :=
  let (hxs, e) := expCorrection x
  if k = 0 then x - (x * e - hxs)
  else
    let e := x * (e - c) - c
    let e := e - hxs
    if k = -1 then 0.5 * (x - e) - 0.5
    else if k = 1 then
      if x < -0.25 then -2.0 * (e - (x + 0.5)) else 1.0 + 2.0 * (x - e)
    else if k ≤ -2 ∨ 56 < k then
      let y := 1.0 - (e - x)
      scaleBy y k - 1.0
    else if k < 20 then
      let t := 1.0 - scaleBy 1.0 (-k)
      scaleBy (t - (e - x)) k
    else
      let t := scaleBy 1.0 (-k)
      scaleBy (x - (e + t) + 1.0) k

/-- The integer before the point of a finite float. -/
def wholePart (x : Double) : Int :=
  match Binary.ofDouble x with
  | .finite negative m e => truncInt negative m e
  | _ => 0

/-- An integer of moderate size as a float. -/
def smallFloat (n : Int) : Double :=
  floatOfRatio (n < 0) n.natAbs 1

/-- The exponential of `x` less one. -/
def expMinusOne (x : Double) : Double :=
  let high := highMagnitude x
  if isNaN x then x
  else if isInfinite x then (if isNegative x then -1.0 else x)
  else if 709.782712893383973096 < x then infinity false
  else if 0x4043687A ≤ high && isNegative x then -1.0
  else if 0x3FD62E42 < high then
    let (hi, lo, k) :=
      if high < 0x3FF0A2B2 then
        if isNegative x then (x + ln2High, -ln2Low, (-1 : Int)) else (x - ln2High, ln2Low, 1)
      else
        let k := wholePart
          (1.44269504088896338700 * x + (if isNegative x then -0.5 else 0.5))
        let t := smallFloat k
        (x - t * ln2High, t * ln2Low, k)
    let y := hi - lo
    expAssemble y ((hi - y) - lo) k
  else if high < 0x3C900000 then x
  else expAssemble x 0.0 0

/-! ## The logarithm near one -/

/-- The polynomial in the square of `s = f / (2 + f)`. -/
def logPolynomial (z : Double) : Double :=
  let r₁ := z * 6.666666666666735130e-01
  let z₂ := z * z
  let r₂ := 3.999999999940941908e-01 + z * 2.857142874366239149e-01
  let z₄ := z₂ * z₂
  let r₃ := 2.222219843214978396e-01 + z * 1.818357216161805012e-01
  let z₆ := z₄ * z₂
  let r₄ := 1.531383769920937332e-01 + z * 1.479819860511658591e-01
  r₁ + z₂ * r₂ + z₄ * r₃ + z₆ * r₄

/-- Puts together the logarithm of `2 ^ k · (1 + f)` with the error `c`. The flag tells that `f`
is very small. -/
def logAssemble (f c : Double) (k : Int) (small : Bool) : Double :=
  let t := smallFloat k
  let hfsq := 0.5 * f * f
  if small then
    if f.equals 0.0 then
      if k = 0 then 0.0 else t * ln2High + (c + t * ln2Low)
    else
      let r := hfsq * (1.0 - 0.66666666666666666 * f)
      if k = 0 then f - r else t * ln2High - ((r - (t * ln2Low + c)) - f)
  else
    let s := f / (2.0 + f)
    let r := logPolynomial (s * s)
    if k = 0 then f - (hfsq - s * (hfsq + r))
    else t * ln2High - ((hfsq - (s * (hfsq + r) + (t * ln2Low + c))) - f)

/-- The logarithm of `1 + x` for an `x` that is not near zero: `1 + x` is brought between
`√2 / 2` and `√2`. -/
def logReduced (x : Double) : Double :=
  let wide := 0x43400000 ≤ highMagnitude x
  let u := if wide then x else 1.0 + x
  let hu := highMagnitude u
  let k : Int := (hu / powTwo 20 : Nat) - 1023
  let c :=
    if wide then 0.0 else (if 0 < k then 1.0 - (u - x) else x - (u - 1.0)) / u
  let field := hu % powTwo 20
  let lowWord := magnitudeBits u % powTwo 32
  if field < 0x6A09E then
    let v := floatOfBits false ((field + 0x3FF00000) * powTwo 32 + lowWord)
    logAssemble (v - 1.0) c k (field == 0)
  else
    let v := floatOfBits false ((field + 0x3FE00000) * powTwo 32 + lowWord)
    logAssemble (v - 1.0) c (k + 1) ((0x100000 - field) / 4 == 0)

/-- The logarithm of `1 + x`. -/
def logOnePlus (x : Double) : Double :=
  let high := highMagnitude x
  if isNaN x then x
  else if x < -1.0 then notANumber true
  else if x.equals (-1.0) then infinity true
  else if isInfinite x then x
  else if high < 0x3C900000 then x
  else if high < 0x3E200000 then x - x * x * 0.5
  else if (isNegative x && high < 0x3FD2BEC4) || (!isNegative x && high < 0x3FDA827A) then
    logAssemble x 0.0 0 false
  else logReduced x

/-! ## The error functions -/

/-- The approximation of `erf x / x - 1` below `0.84375`, for the square `z` of `x`. -/
def errorNearZero (z : Double) : Double :=
  let r₁ := 1.28379167095512558561e-01 + z * (-3.25042107247001499370e-01)
  let z₂ := z * z
  let r₂ := -2.84817495755985104766e-02 + z * (-5.77027029648944159157e-03)
  let z₄ := z₂ * z₂
  let s₁ := 1.0 + z * 3.97917223959155352819e-01
  let s₂ := 6.50222499887672944485e-02 + z * 5.08130628187576562776e-03
  let s₃ := 1.32494738004321644526e-04 + z * (-3.96022827877536812320e-06)
  let r := r₁ + z₂ * r₂ + z₄ * (-2.37630166566501626084e-05)
  let s := s₁ + z₂ * s₂ + z₄ * s₃
  r / s

/-- The value of the error function at one, in single precision. -/
def errorAtOne : Double := 8.45062911510467529297e-01

/-- The approximation of the error function from `0.84375` to `1.25`, less its value at one, for
the distance `s` from one. -/
def errorNearOne (s : Double) : Double :=
  let r₁ := -2.36211856075265944077e-03 + s * 4.14856118683748331666e-01
  let s₂ := s * s
  let q₁ := 1.0 + s * 1.06420880400844228286e-01
  let s₄ := s₂ * s₂
  let r₂ := -3.72207876035701323847e-01 + s * 3.18346619901161753674e-01
  let s₆ := s₄ * s₂
  let q₂ := 5.40397917702171048937e-01 + s * 7.18286544141962662868e-02
  let r₃ := -1.10894694282396677476e-01 + s * 3.54783043256182359371e-02
  let q₃ := 1.26171219808761642112e-01 + s * 1.36370839120290507362e-02
  let p := r₁ + s₂ * r₂ + s₄ * r₃ + s₆ * (-2.16637559486879084300e-03)
  let q := q₁ + s₂ * q₂ + s₄ * q₃ + s₆ * 1.19844998467991074170e-02
  p / q

/-- The exponent correction of the complement from `1.25` to `1 / 0.35`, for `s = 1 / x²`. -/
def complementMiddle (s : Double) : Double :=
  let r₁ := -9.86494403484714822705e-03 + s * (-6.93858572707181764372e-01)
  let s₂ := s * s
  let q₁ := 1.0 + s * 1.96512716674392571292e+01
  let s₄ := s₂ * s₂
  let r₂ := -1.05586262253232909814e+01 + s * (-6.23753324503260060396e+01)
  let s₆ := s₄ * s₂
  let q₂ := 1.37657754143519042600e+02 + s * 4.34565877475229228821e+02
  let s₈ := s₄ * s₄
  let r₃ := -1.62396669462573470355e+02 + s * (-1.84605092906711035994e+02)
  let q₃ := 6.45387271733267880336e+02 + s * 4.29008140027567833386e+02
  let r₄ := -8.12874355063065934246e+01 + s * (-9.81432934416914548592e+00)
  let q₄ := 1.08635005541779435134e+02 + s * 6.57024977031928170135e+00
  let r := r₁ + s₂ * r₂ + s₄ * r₃ + s₆ * r₄
  let q := q₁ + s₂ * q₂ + s₄ * q₃ + s₆ * q₄ + s₈ * (-6.04244152148580987438e-02)
  r / q

/-- The exponent correction of the complement above `1 / 0.35`, for `s = 1 / x²`. -/
def complementFar (s : Double) : Double :=
  let r₁ := -9.86494292470009928597e-03 + s * (-7.99283237680523006574e-01)
  let s₂ := s * s
  let q₁ := 1.0 + s * 3.03380607434824582924e+01
  let s₄ := s₂ * s₂
  let r₂ := -1.77579549177547519889e+01 + s * (-1.60636384855821916062e+02)
  let s₆ := s₄ * s₂
  let q₂ := 3.25792512996573918826e+02 + s * 1.53672958608443695994e+03
  let r₃ := -6.37566443368389627722e+02 + s * (-1.02509513161107724954e+03)
  let q₃ := 3.19985821950859553908e+03 + s * 2.55305040643316442583e+03
  let q₄ := 4.74528541206955367215e+02 + s * (-2.24409524465858183362e+01)
  let r := r₁ + s₂ * r₂ + s₄ * r₃ + s₆ * (-4.83519191608651397019e+02)
  let q := q₁ + s₂ * q₂ + s₄ * q₃ + s₆ * q₄
  r / q

/-- The complement of the error function times `x`, for an `x` of at least `1.25`. -/
def complementTimes (x : Double) : Double :=
  let s := 1.0 / (x * x)
  let ratio := if highMagnitude x < 0x4006DB6E then complementMiddle s else complementFar s
  let z := withoutLowWord x
  Double.exp (-z * z - 0.5625) * Double.exp ((z - x) * (z + x) + ratio)

/-- The error function. -/
def errorFunction (x : Double) : Double :=
  let high := highMagnitude x
  let y := magnitudeOf x
  if isNaN x then x
  else if high < 0x3FEB0000 then
    if high < 0x3E300000 then
      if high < 0x00800000 then 0.0625 * (16.0 * x + (16.0 * 1.28379167095512586316e-01) * x)
      else x + 1.28379167095512586316e-01 * x
    else x + x * errorNearZero (x * x)
  else
    let value :=
      if high < 0x3FF40000 then errorAtOne + errorNearOne (y - 1.0)
      else if 0x40180000 ≤ high then 1.0
      else 1.0 - complementTimes y / y
    withSign (isNegative x) value

/-- One less the error function. -/
def errorComplement (x : Double) : Double :=
  let high := highMagnitude x
  let y := magnitudeOf x
  if isNaN x then x
  else if isInfinite x then (if isNegative x then 2.0 else 0.0)
  else if high < 0x3FEB0000 then
    if high < 0x3C700000 then 1.0 - x
    else
      let t := errorNearZero (x * x)
      if isNegative x || high < 0x3FD00000 then 1.0 - (x + x * t)
      else 0.5 - (x * t + (x - 0.5))
  else if high < 0x3FF40000 then
    if isNegative x then 1.0 + (errorAtOne + errorNearOne (y - 1.0))
    else 1.0 - errorAtOne - errorNearOne (y - 1.0)
  else if high < 0x403C0000 then
    if isNegative x then
      if 0x40180000 ≤ high then 2.0 else 2.0 - complementTimes y / y
    else complementTimes y / y
  else if isNegative x then 2.0
  else 0.0

/-! ## The gamma function -/

/-- Half a turn. -/
def pi : Double := 3.141592653589793

/-- The remainder of a magnitude by two. -/
def modTwo (y : Double) : Double :=
  match Binary.ofDouble y with
  | .finite negative m e =>
    let (num, den) := ratioOf m e
    floatOfRatio negative (num % (2 * den)) den
  | _ => y

/-- Twice a magnitude, rounded to the nearest integer, halves upwards. -/
def nearestHalves (y : Double) : Nat :=
  match Binary.ofDouble y with
  | .finite _ m e =>
    let (num, den) := ratioOf m e
    (4 * num + den) / (2 * den)
  | _ => 0

/-- The sine of `π · x` for a finite `x`, with the argument reduced to an eighth of a turn. -/
def sinPi (x : Double) : Double :=
  let y := modTwo (magnitudeOf x)
  let value := match nearestHalves y with
    | 0 => Double.sin (pi * y)
    | 1 => Double.cos (pi * (y - 0.5))
    | 2 => Double.sin (pi * (1.0 - y))
    | 3 => -Double.cos (pi * (y - 1.5))
    | _ => Double.sin (pi * (y - 2.0))
  if isNegative x then -1.0 * value else 1.0 * value

/-- The parameter of Lanczos' approximation. -/
def lanczosG : Double := 6.024680040776729583740234375

/-- The parameter less one half. -/
def lanczosGLessHalf : Double := 5.524680040776729583740234375

/-- The coefficients of Lanczos' numerator, from the lowest power up. -/
def lanczosNumerator : List Double := [
  23531376880.410759688572007674451636754734846804940,
  42919803642.649098768957899047001988850926355848959,
  35711959237.355668049440185451547166705960488635843,
  17921034426.037209699919755754458931112671403265390,
  6039542586.3520280050642916443072979210699388420708,
  1439720407.3117216736632230727949123939715485786372,
  248874557.86205415651146038641322942321632125127801,
  31426415.585400194380614231628318205362874684987640,
  2876370.6289353724412254090516208496135991145378768,
  186056.26539522349504029498971604569928220784236328,
  8071.6720023658162106380029022722506138218516325024,
  210.82427775157934587250973392071336271166969580291,
  2.5066282746310002701649081771338373386264310793408]

/-- The coefficients of Lanczos' denominator, from the lowest power up. -/
def lanczosDenominator : List Double := [
  0.0, 39916800.0, 120543840.0, 150917976.0, 105258076.0, 45995730.0, 13339535.0, 2637558.0,
  357423.0, 32670.0, 1925.0, 66.0, 1.0]

/-- Lanczos' rational function. Large arguments are taken by descending powers of their
inverse. -/
def lanczosSum (x : Double) : Double :=
  if x < 5.0 then
    let value (cs : List Double) := cs.foldr (fun c acc => acc * x + c) 0.0
    value lanczosNumerator / value lanczosDenominator
  else
    let value (cs : List Double) := cs.foldl (fun acc c => acc / x + c) 0.0
    value lanczosNumerator / value lanczosDenominator

/-- The ways in which the gamma function has no value. -/
inductive GammaFailure where
  | pole
  | overflow
  deriving DecidableEq, Repr

/-- Whether a finite float is an integer. -/
def isWhole (x : Double) : Bool :=
  match Binary.ofDouble x with
  | .finite _ m e =>
    let (num, den) := ratioOf m e
    num % den == 0
  | _ => false

/-- The factorials up to that of twenty-two are floats. -/
def maxExactGamma : Double := 23.0

/-- Lanczos' approximation of the gamma function for a magnitude of at most two hundred. -/
def gammaLanczos (x : Double) : Double :=
  let a := magnitudeOf x
  let y := a + lanczosGLessHalf
  let z :=
    if lanczosGLessHalf < a then (y - a) - lanczosGLessHalf else (y - lanczosGLessHalf) - a
  let z := z * lanczosG / y
  if isNegative x then
    let r := -pi / sinPi a / a * Double.exp y / lanczosSum a
    let r := r - z * r
    if a < 140.0 then r / Double.pow y (a - 0.5)
    else
      let root := Double.pow y (a / 2.0 - 0.25)
      r / root / root
  else
    let r := lanczosSum a / Double.exp y
    let r := r + z * r
    if a < 140.0 then r * Double.pow y (a - 0.5)
    else
      let root := Double.pow y (a / 2.0 - 0.25)
      r * root * root

/-- A result that must not be infinite. -/
def finiteOrOverflow (r : Double) : Except GammaFailure Double :=
  if isInfinite r then .error .overflow else .ok r

/-- The product of the numbers below a small positive integer. -/
def exactGamma (x : Double) : Double :=
  (List.range (wholePart x).toNat).tail.foldl (fun acc (k : Nat) => acc * smallFloat k) 1.0

/-- The gamma function. -/
def gamma (x : Double) : Except GammaFailure Double :=
  let a := magnitudeOf x
  if isNaN x then .ok x
  else if isInfinite x then (if isNegative x then .error .pole else .ok x)
  else if a.equals 0.0 then .error .pole
  else if isWhole x && isNegative x then .error .pole
  else if isWhole x && x ≤ maxExactGamma then .ok (exactGamma x)
  else if a < 1e-20 then finiteOrOverflow (1.0 / x)
  else if 200.0 < a then (if isNegative x then .ok (0.0 / sinPi x) else .error .overflow)
  else finiteOrOverflow (gammaLanczos x)

/-- The logarithm of the magnitude of the gamma function. -/
def logGamma (x : Double) : Except GammaFailure Double :=
  let a := magnitudeOf x
  if isNaN x then .ok x
  else if isInfinite x then .ok (infinity false)
  else if isWhole x && x ≤ 2.0 then (if x ≤ 0.0 then .error .pole else .ok 0.0)
  else if a < 1e-20 then .ok (-Double.log a)
  else
    let r := Double.log (lanczosSum a) - lanczosG
    let r := r + (a - 0.5) * (Double.log (a + lanczosG - 0.5) - 1.0)
    let r :=
      if isNegative x then
        1.144729885849400174143427351353058711647 -
          Double.log (magnitudeOf (sinPi a)) - Double.log a - r
      else r
    finiteOrOverflow r

end SmallLisp.Number
