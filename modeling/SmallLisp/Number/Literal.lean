import SmallLisp.Number.Text
import SmallLisp.Text.Blank
import SmallLisp.Text.Digit

/-!
# Number literals

Which texts are numbers. Blanks around a literal are dropped, digits of any script count, and
single underscores may stand between two digits.

## Main definitions

* `int?`: the integer a text stands for
* `float?`: the float a text stands for
-/

namespace SmallLisp.Number

open SmallLisp.Text (isBlank digitValue?)

/-- A character as literals see it: a digit of another script becomes a plain digit, a blank
outside ASCII becomes a space, and any other character outside ASCII a mark that no literal
has. -/
def plainChar (c : Char) : Char :=
  if c.toNat < 127 then c
  else if isBlank c then ' '
  else match digitValue? c with
    | some d => Nat.digitChar d
    | none => '?'

/-- The blanks around a literal: the space and the five control characters that move the place
of writing. -/
def isSpace (c : Char) : Bool :=
  c == ' ' || (9 ≤ c.toNat && c.toNat ≤ 13)

/-- A literal in plain characters, without the blanks around it. -/
def trimmed (s : String) : List Char :=
  (((s.toList.map plainChar).dropWhile isSpace).reverse.dropWhile isSpace).reverse

/-- Whether every underscore stands between two digits, `afterDigit` telling whether a digit
stands in front of the text. -/
def wellGrouped : Bool → List Char → Bool
  | _, [] => true
  | afterDigit, c :: cs =>
    if c = '_' then
      afterDigit && (match cs with | d :: _ => d.isDigit | [] => false) && wellGrouped false cs
    else wellGrouped c.isDigit cs

/-- A literal without its underscores, if they are well placed. -/
def ungrouped? (cs : List Char) : Option (List Char) :=
  if wellGrouped false cs then some (cs.filter (· != '_')) else none

/-- Whether a text starts with a minus sign, and the text after its sign. -/
def signed : List Char → Bool × List Char
  | '-' :: cs => (true, cs)
  | '+' :: cs => (false, cs)
  | cs => (false, cs)

/-- The number written by decimal digits. -/
def digitsValue (cs : List Char) : Nat :=
  cs.foldl (fun n c => 10 * n + (c.toNat - '0'.toNat)) 0

/-- The integer a text stands for: an optional sign and digits, not more of them than the
limit. -/
def int? (s : String) : Option Int := do
  let cs ← ungrouped? (trimmed s)
  let (negative, ds) := signed cs
  if ds.isEmpty || !ds.all Char.isDigit || digitLimit < ds.length then none
  else
    let n : Int := digitsValue ds
    some (if negative then -n else n)

/-- The exponent at the end of a float literal: nothing, or a mark, a sign and digits. -/
def exponent? : List Char → Option Int
  | [] => some 0
  | c :: cs =>
    if c = 'e' ∨ c = 'E' then
      let (negative, ds) := signed cs
      if ds.isEmpty || !ds.all Char.isDigit then none
      else
        let n : Int := digitsValue ds
        some (if negative then -n else n)
    else none

/-- The digits after a decimal point, and what follows them. -/
def fractionDigits : List Char → List Char × List Char
  | '.' :: cs => (cs.takeWhile Char.isDigit, cs.dropWhile Char.isDigit)
  | cs => ([], cs)

/-- The float an unsigned literal in digits stands for. -/
def decimal? (negative : Bool) (cs : List Char) : Option Double := do
  let whole := cs.takeWhile Char.isDigit
  let (fraction, rest) := fractionDigits (cs.dropWhile Char.isDigit)
  let ds := whole ++ fraction
  if ds.isEmpty then none
  else
    let e ← exponent? rest
    some (floatOfDecimal negative (digitsValue ds) ds.length (e - fraction.length))

/-- The float a text stands for: a decimal with an optional exponent, or the name of an infinity
or of no number, in capital or small letters and with an optional sign. -/
def float? (s : String) : Option Double := do
  let cs ← ungrouped? (trimmed s)
  let (negative, body) := signed cs
  let name := String.ofList (body.map Char.toLower)
  if name = "inf" ∨ name = "infinity" then some (infinity negative)
  else if name = "nan" then some (notANumber negative)
  else decimal? negative body

end SmallLisp.Number
