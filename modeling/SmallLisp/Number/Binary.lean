import SmallLisp.Number.Double

/-!
# Binary floating point

A float is a sign and either a magnitude `m · 2 ^ e`, infinity, or not a number. Exact quotients
of natural numbers are rounded to the nearest float, a tie going to the even mantissa.

## Main definitions

* `Binary`: a float taken apart
* `Binary.ofDouble`: the parts of a float
* `roundDiv`: a quotient rounded to the nearest integer, a tie going to the even one
* `floatOfRatio`: the float nearest to a quotient
* `floatOfInt?`: the float nearest to an integer, if there is a finite one
-/

namespace SmallLisp.Number

/-- A float taken apart. -/
inductive Binary where
  /-- The number `mantissa · 2 ^ exponent`, or its negative. -/
  | finite (negative : Bool) (mantissa : Nat) (exponent : Int)
  | infinite (negative : Bool)
  | nan
  deriving DecidableEq, Repr

/-- A power of two. -/
def powTwo (n : Nat) : Nat :=
  Nat.pow 2 n

/-- A power of ten. -/
def powTen (n : Nat) : Nat :=
  Nat.pow 10 n

/-- The number of bits of the stored fraction. -/
def fractionBits : Nat := 52

/-- The exponent of the least positive float. -/
def minExponent : Int := -1074

/-- The parts of a float. -/
def Binary.ofDouble (x : Double) : Binary :=
  let bits := x.bits.toNat
  let negative := decide (signBit ≤ bits)
  let fraction : Nat := bits % powTwo fractionBits
  let field : Nat := bits / powTwo fractionBits % powTwo 11
  if field = 2047 then
    if fraction = 0 then .infinite negative else .nan
  else if field = 0 then .finite negative fraction minExponent
  else .finite negative (powTwo fractionBits + fraction) (field + minExponent - 1)

/-- The quotient of `num` and `den` rounded to the nearest integer, a tie going to the even one. -/
def roundDiv (num den : Nat) : Nat :=
  let q := num / den
  let r := num % den
  if 2 * r > den || (2 * r == den && q % 2 == 1) then q + 1 else q

/-- The product of `n` and `2 ^ e` for a nonnegative exponent, and `n` for a negative one. -/
def scaleUp (n : Nat) (e : Int) : Nat :=
  n <<< e.toNat

/-- The quotient of `num` and `den · 2 ^ e` rounded to the nearest integer. -/
def mantissaAt (num den : Nat) (e : Int) : Nat :=
  roundDiv (scaleUp num (-e)) (scaleUp den e)

/-- The exponent at which `num / den` has a mantissa of at most 53 bits. -/
def exponentOf (num den : Nat) : Int :=
  let e : Int := (num.log2 : Int) - den.log2 - 53
  let e := if scaleUp num (-e) / scaleUp den e < powTwo 53 then e else e + 1
  max e minExponent

/-- The bits of the magnitude nearest to `num / den`, those of infinity if it is too large. -/
def bitsOfRatio (num den : Nat) : Nat :=
  if num = 0 then 0
  else
    let e := exponentOf num den
    let m := mantissaAt num den e
    let bits := if m < powTwo fractionBits then m else (e - minExponent).toNat * powTwo fractionBits + m
    min bits infinityBits

/-- The float nearest to `num / den` or to its negative. -/
def floatOfRatio (negative : Bool) (num den : Nat) : Double :=
  floatOfBits negative (bitsOfRatio num den)

/-- The float nearest to an integer, if it is finite. -/
def floatOfInt? (n : Int) : Option Double :=
  let x := floatOfRatio (n < 0) n.natAbs 1
  if isFinite x then some x else none

/-- The float nearest to `m · 10 ^ e` or to its negative. The bounds keep the powers small: a
positive magnitude of at least `10 ^ 400` is infinite, and one below `10 ^ (-400)` is zero. The
number `width` of digits bounds `m < 10 ^ width`. -/
def floatOfDecimal (negative : Bool) (m width : Nat) (e : Int) : Double :=
  if m = 0 ∨ e + width < -400 then floatOfRatio negative 0 1
  else if 400 < e then infinity negative
  else floatOfRatio negative (m * powTen e.toNat) (powTen (-e).toNat)

/-- The exact value of a finite float as a quotient, of which the second part is positive. -/
def ratioOf (mantissa : Nat) (exponent : Int) : Nat × Nat :=
  (scaleUp mantissa exponent, scaleUp 1 (-exponent))

end SmallLisp.Number
