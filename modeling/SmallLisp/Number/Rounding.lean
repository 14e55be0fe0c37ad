import SmallLisp.Number.Binary

/-!
# Rounding

Floats rounded to integers and to decimal places, and integers rounded to powers of ten. All of
this is exact: a value is rounded once, and a tie goes to the even neighbour.

## Main definitions

* `floorInt`, `ceilInt`, `truncInt`, `roundInt`: the integers next to a finite float
* `roundPlaces`: a float rounded to a number of decimal places
* `roundToTens`: an integer rounded to a multiple of a power of ten
-/

namespace SmallLisp.Number

/-- The integer with a sign and a magnitude. -/
def signedInt (negative : Bool) (m : Nat) : Int :=
  if negative then -m else m

/-- The part of a magnitude before the point. -/
def truncInt (negative : Bool) (m : Nat) (e : Int) : Int :=
  let (num, den) := ratioOf m e
  signedInt negative (num / den)

/-- The greatest integer that is not above a float. -/
def floorInt (negative : Bool) (m : Nat) (e : Int) : Int :=
  let (num, den) := ratioOf m e
  if negative then -((num + den - 1) / den : Nat) else (num / den : Nat)

/-- The least integer that is not below a float. -/
def ceilInt (negative : Bool) (m : Nat) (e : Int) : Int :=
  let (num, den) := ratioOf m e
  if negative then -(num / den : Nat) else ((num + den - 1) / den : Nat)

/-- The integer nearest to a float. -/
def roundInt (negative : Bool) (m : Nat) (e : Int) : Int :=
  let (num, den) := ratioOf m e
  signedInt negative (roundDiv num den)

/-- The most decimal places at which rounding can change a float. -/
def maxPlaces : Int := 323

/-- The least decimal places at which rounding gives a float other than zero. -/
def minPlaces : Int := -308

/-- The float `m · 2 ^ e` or its negative rounded to a number of decimal places. -/
def roundFinite (negative : Bool) (m : Nat) (e places : Int) : Double :=
  let (num, den) := ratioOf m e
  let units := roundDiv (num * powTen places.toNat) (den * powTen (-places).toNat)
  floatOfRatio negative (units * powTen (-places).toNat) (powTen places.toNat)

/-- A float rounded to a number of decimal places, which may be negative. Infinities and what is
no number stay as they are. -/
def roundPlaces (x : Double) (places : Int) : Double :=
  match Binary.ofDouble x with
  | .finite negative m e =>
    if maxPlaces < places then x
    else if places < minPlaces then floatOfBits negative 0
    else roundFinite negative m e places
  | _ => x

/-- An integer rounded to a multiple of `10 ^ k`. From more places than it has digits on, it is
rounded to zero. -/
def roundToTens (n : Int) (k : Nat) : Int :=
  if n.natAbs.log2 + 1 < k then 0
  else signedInt (n < 0) (roundDiv n.natAbs (powTen k) * powTen k)

end SmallLisp.Number
