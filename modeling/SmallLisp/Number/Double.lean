/-!
# Double precision

A floating-point number is kept as its sixty-four bits: a sign and a magnitude, of which the
largest ones are infinity and what is no number. The latter has a sign too, which operations
carry along.

Arithmetic is that of the machine. An operation gives the first of its arguments that is no
number, and it gives a negative one if there is none and the result has no value.

## Main definitions

* `Double`: a floating-point number
* `isFinite`, `isInfinite`, `isNaN`, `isNegative`: the sorts of numbers
* `floatOfBits`, `infinity`, `notANumber`: numbers by sign and magnitude
* `Double.lift`, `Double.lift₂`: operations of the machine
-/

namespace SmallLisp.Number

/-- A floating-point number of double precision, by its bits. -/
structure Double where
  bits : UInt64
  deriving DecidableEq, Repr, Inhabited

/-- The bits of positive infinity, above those of every finite magnitude. -/
def infinityBits : Nat := 0x7FF0000000000000

/-- The bit of the sign. -/
def signBit : Nat := 0x8000000000000000

/-- The bits of a number without its sign. -/
def magnitudeBits (x : Double) : Nat :=
  x.bits.toNat % signBit

/-- The number with the given sign and magnitude bits. -/
def floatOfBits (negative : Bool) (bits : Nat) : Double :=
  ⟨UInt64.ofNat (if negative then signBit + bits else bits)⟩

/-- Positive or negative infinity. -/
def infinity (negative : Bool) : Double :=
  floatOfBits negative infinityBits

/-- What is no number, with a sign. -/
def notANumber (negative : Bool) : Double :=
  floatOfBits negative 0x7FF8000000000000

/-- Whether a number is finite. -/
def isFinite (x : Double) : Bool :=
  magnitudeBits x < infinityBits

/-- Whether a number is an infinity. -/
def isInfinite (x : Double) : Bool :=
  magnitudeBits x = infinityBits

/-- Whether something is no number. -/
def isNaN (x : Double) : Bool :=
  infinityBits < magnitudeBits x

/-- Whether the sign of a number is negative. -/
def isNegative (x : Double) : Bool :=
  signBit ≤ x.bits.toNat

/-- The number with the magnitude of `x` and a given sign. -/
def withSign (negative : Bool) (x : Double) : Double :=
  floatOfBits negative (magnitudeBits x)

/-- The magnitude of a number. -/
def magnitudeOf (x : Double) : Double :=
  withSign false x

/-! ## Operations of the machine -/

namespace Double

/-- A number as the machine has it. -/
def toFloat (x : Double) : Float :=
  Float.ofBits x.bits

/-- A result of the machine. -/
def ofFloat (x : Float) : Double :=
  if isNaN ⟨x.toBits⟩ then notANumber true else ⟨x.toBits⟩

/-- An operation of the machine on one number. What is no number stays as it is. -/
def lift (f : Float → Float) (x : Double) : Double :=
  if isNaN x then x else ofFloat (f x.toFloat)

/-- An operation of the machine on two numbers. What is no number stays as it is, the first one if
there are two. -/
def lift₂ (f : Float → Float → Float) (x y : Double) : Double :=
  if isNaN x then x else if isNaN y then y else ofFloat (f x.toFloat y.toFloat)

instance : Add Double := ⟨lift₂ Float.add⟩

instance : Sub Double := ⟨lift₂ Float.sub⟩

instance : Mul Double := ⟨lift₂ Float.mul⟩

instance : Div Double := ⟨lift₂ Float.div⟩

instance : Neg Double := ⟨fun x => withSign (!isNegative x) x⟩

instance : LT Double := ⟨fun x y => x.toFloat < y.toFloat⟩

instance : LE Double := ⟨fun x y => x.toFloat ≤ y.toFloat⟩

instance (x y : Double) : Decidable (x < y) :=
  inferInstanceAs (Decidable (x.toFloat < y.toFloat))

instance (x y : Double) : Decidable (x ≤ y) :=
  inferInstanceAs (Decidable (x.toFloat ≤ y.toFloat))

instance : OfScientific Double :=
  ⟨fun mantissa negativeExponent exponent =>
    ofFloat (OfScientific.ofScientific mantissa negativeExponent exponent)⟩

/-- Whether two numbers are equal as numbers: the two zeros are, and what is no number is not. -/
def equals (x y : Double) : Bool :=
  x.toFloat == y.toFloat

/-- The exponential. -/
def exp (x : Double) : Double :=
  x.lift Float.exp

/-- The sine. -/
def sin (x : Double) : Double :=
  x.lift Float.sin

/-- The cosine. -/
def cos (x : Double) : Double :=
  x.lift Float.cos

/-- The natural logarithm. -/
def log (x : Double) : Double :=
  x.lift Float.log

/-- The square root. -/
def sqrt (x : Double) : Double :=
  x.lift Float.sqrt

/-- A power. -/
def pow (x y : Double) : Double :=
  x.lift₂ Float.pow y

end Double

end SmallLisp.Number
