import SmallLisp.Number.Shortest

/-!
# The text of numbers

How integers and floats are written. A float shows the fewest digits that read back, positionally
for moderate exponents and in scientific form for others.

## Main definitions

* `digitLimit`: the largest number of digits of an integer that is written or read
* `intText?`: the text of an integer, if it is not too long
* `FloatFormat`: the choices in writing a float
* `floatText`: the text of a float
-/

namespace SmallLisp.Number

/-- The largest number of decimal digits of an integer that is converted from or to text. -/
def digitLimit : Nat := 4300

/-- The text of an integer, unless it has more digits than the limit. -/
def intText? (n : Int) : Option String :=
  if n.natAbs < powTen digitLimit then some (toString n) else none

/-- The choices in writing a float: the decimal exponents that are written positionally are
those from `least` to below `greatest`, and the exponent of others has `exponentWidth` digits at
least. -/
structure FloatFormat where
  least : Int
  greatest : Int
  exponentWidth : Nat
  infinity : String
  nan : String

/-- Floats between `0.0001` and `10 ^ 16` are written positionally. -/
def plainFloat : FloatFormat where
  least := -4
  greatest := 16
  exponentWidth := 2
  infinity := "inf"
  nan := "nan"

/-- A natural number in at least `width` digits. -/
def paddedDigits (width n : Nat) : List Char :=
  let ds := Nat.toDigits 10 n
  List.replicate (width - ds.length) '0' ++ ds

/-- The digits with the decimal point after the first `point` of them. -/
def positional (ds : List Char) (point : Int) : List Char :=
  if point ≤ 0 then
    '0' :: '.' :: List.replicate (-point).toNat '0' ++ ds
  else
    let k := point.toNat
    if ds.length ≤ k then ds ++ List.replicate (k - ds.length) '0' ++ ['.', '0']
    else ds.take k ++ '.' :: ds.drop k

/-- The digits with the point after the first one, and an exponent. -/
def scientific (fmt : FloatFormat) (ds : List Char) (e : Int) : List Char :=
  let mantissa := match ds with
    | [d] => [d]
    | d :: rest => d :: '.' :: rest
    | [] => []
  mantissa ++ 'e' :: (if e < 0 then '-' else '+') :: paddedDigits fmt.exponentWidth e.natAbs

/-- The text of a positive decimal. -/
def FloatFormat.decimal (fmt : FloatFormat) (d : Decimal) : List Char :=
  let ds := Nat.toDigits 10 d.digits
  let point : Int := ds.length + d.exponent
  let e := point - 1
  if fmt.least ≤ e ∧ e < fmt.greatest then positional ds point else scientific fmt ds e

/-- The text of a float in a given format. -/
def FloatFormat.text (fmt : FloatFormat) (x : Double) : String :=
  match Binary.ofDouble x with
  | .nan => fmt.nan
  | .infinite negative => if negative then "-" ++ fmt.infinity else fmt.infinity
  | .finite negative m e =>
    let body := if m = 0 then ['0', '.', '0'] else fmt.decimal (shortest m e)
    String.ofList (if negative then '-' :: body else body)

/-- The text of a float. -/
def floatText (x : Double) : String :=
  plainFloat.text x

end SmallLisp.Number
