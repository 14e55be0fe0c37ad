import SmallLisp.Number.Binary

/-!
# Shortest decimals

The shortest decimal that is read back as a given float. The reals that are rounded to a float
form an interval, which has its ends if the mantissa is even. Grids of decimals with more and
more digits are searched for a point of the interval next to the value.

## Main definitions

* `Decimal`: significant digits and the place of the decimal point
* `Interval`: the reals that are rounded to one float
* `shortest`: the fewest digits that read back, the nearest of those to the value
-/

namespace SmallLisp.Number

/-- The number `digits · 10 ^ exponent`. -/
structure Decimal where
  digits : Nat
  exponent : Int
  deriving DecidableEq, Repr

/-- The reals that are rounded to one float, in quarters of the unit `2 ^ exponent`. -/
structure Interval where
  lower : Nat
  value : Nat
  upper : Nat
  exponent : Int
  closed : Bool

/-- The interval of a positive float. Below a power of two the floats lie half as far apart. -/
def intervalOf (mantissa : Nat) (exponent : Int) : Interval where
  lower := 4 * mantissa -
    (if mantissa = powTwo fractionBits ∧ minExponent < exponent then 1 else 2)
  value := 4 * mantissa
  upper := 4 * mantissa + 2
  exponent := exponent - 2
  closed := mantissa % 2 == 0

/-- Compares `a · 2 ^ e` with `d · 10 ^ p`. -/
def compareBinaryDecimal (a : Nat) (e : Int) (d : Nat) (p : Int) : Ordering :=
  compare (a * powTwo e.toNat * powTen (-p).toNat) (d * powTen p.toNat * powTwo (-e).toNat)

/-- Whether `d · 10 ^ p` lies in the interval. -/
def Interval.contains (i : Interval) (d : Nat) (p : Int) : Bool :=
  let low := compareBinaryDecimal i.lower i.exponent d p
  let high := compareBinaryDecimal i.upper i.exponent d p
  (low == .lt || (i.closed && low == .eq)) && (high == .gt || (i.closed && high == .eq))

/-- The least power of ten, from `start` on, that is greater than `a · 2 ^ e`. -/
def powerAbove (a : Nat) (e : Int) : Nat → Int → Int
  | 0, start => start
  | tries + 1, start =>
    if compareBinaryDecimal a e 1 start == .lt then start else powerAbove a e tries (start + 1)

/-- The exponent of the least power of ten that is greater than `a · 2 ^ e`. -/
def magnitude (a : Nat) (e : Int) : Int :=
  powerAbove a e 8 (((a.log2 : Int) + e) * 30103 / 100000 - 2)

/-- The point of the interval on the grid of step `10 ^ p` that is a neighbour of the value: the
nearer one if both are in, the even one if they are equally near. -/
def Interval.onGrid (i : Interval) (p : Int) : Option Nat :=
  let num := i.value * powTwo i.exponent.toNat * powTen (-p).toNat
  let den := powTen p.toNat * powTwo (-i.exponent).toNat
  let below := num / den
  let nearest := roundDiv num den
  if i.contains nearest p then some nearest
  else if i.contains below p then some below
  else if i.contains (below + 1) p then some (below + 1)
  else none

/-- The first grid with a hit, from `count` digits on. -/
def firstGrid (i : Interval) (top : Int) : Nat → Nat → Decimal
  | 0, count => ⟨roundDiv (i.value * powTwo i.exponent.toNat * powTen ((count : Int) - top).toNat)
      (powTen (top - count).toNat * powTwo (-i.exponent).toNat), top - count⟩
  | tries + 1, count =>
    match i.onGrid (top - count) with
    | some d => ⟨d, top - count⟩
    | none => firstGrid i top tries (count + 1)

/-- The same number without zeros at the end of its digits, of which at most `fuel` are taken
off. -/
def Decimal.withoutZeros : Nat → Decimal → Decimal
  | 0, d => d
  | fuel + 1, d =>
    if d.digits % 10 = 0 then withoutZeros fuel ⟨d.digits / 10, d.exponent + 1⟩ else d

/-- The decimal with the fewest digits that is rounded to the positive float
`mantissa · 2 ^ exponent`. Seventeen digits always suffice. -/
def shortest (mantissa : Nat) (exponent : Int) : Decimal :=
  let i := intervalOf mantissa exponent
  (firstGrid i (magnitude i.value i.exponent) 16 1).withoutZeros 17

end SmallLisp.Number
