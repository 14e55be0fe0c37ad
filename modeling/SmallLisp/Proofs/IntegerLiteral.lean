import Mathlib.Data.Nat.Digits.Defs
import SmallLisp.Proofs.Number.Literal
import SmallLisp.Reader

/-!
# Integer literals

An integer literal is a sign, or none, and decimal digits. Up to the limit on digits it is read as
the integer that it writes. A longer one is not read as an integer but as the float nearest to it,
which is infinite if the integer is large enough.

## Main definitions

* `Sign`: the signs that may stand in front of digits
* `IntegerLiteral`: a sign and decimal digits, with the value at their places

## Main results

* `digitsValue_eq_ofDigits`: digits are read by their places
* `IntegerLiteral.int?_text`, `IntegerLiteral.float?_text`: a literal as an integer and as a float
* `atom_integerLiteral`: how the reader takes an integer literal
* `atom_power_of_ten`: a power of ten that is read as an infinity
-/

namespace SmallLisp

/-- What may stand in front of the digits of an integer. -/
inductive Sign where
  | none
  | plus
  | minus
  deriving DecidableEq, Repr

namespace Sign

/-- How a sign is written. -/
def text : Sign → List Char
  | .none => []
  | .plus => ['+']
  | .minus => ['-']

/-- Whether a sign is the minus sign. -/
def isMinus : Sign → Bool
  | .minus => true
  | _ => false

/-- A number with a sign. -/
def applied : Sign → Nat → Int
  | .minus, n => -n
  | _, n => n

end Sign

/-- A sign, or none, and one or more decimal digits. -/
structure IntegerLiteral where
  sign : Sign
  digits : List Char
  ne_nil : digits ≠ []
  isDigit : ∀ c ∈ digits, c.isDigit = true

namespace IntegerLiteral

/-- A literal as it is written. -/
def text (l : IntegerLiteral) : String :=
  String.ofList (l.sign.text ++ l.digits)

/-- The value of the digits, each by its place: the last one counts ones, the one before it tens,
and so on. -/
def magnitude (l : IntegerLiteral) : Nat :=
  Nat.ofDigits 10 (l.digits.reverse.map fun c => c.toNat - '0'.toNat)

/-- The integer that a literal writes. -/
def value (l : IntegerLiteral) : Int :=
  l.sign.applied l.magnitude

end IntegerLiteral

open Number

/-! ## Digits by their places -/

/-- **Digits are read by their places.** -/
theorem digitsValue_eq_ofDigits (ds : List Char) :
    digitsValue ds = Nat.ofDigits 10 (ds.reverse.map fun c => c.toNat - '0'.toNat) := by
  induction ds using List.reverseRecOn with
  | nil => rfl
  | append_singleton ds c ih =>
    have hstep : digitsValue (ds ++ [c]) = 10 * digitsValue ds + (c.toNat - '0'.toNat) := by
      rw [digitsValue, List.foldl_append]
      rfl
    rw [hstep, ih, List.reverse_append, List.reverse_singleton, List.singleton_append,
      List.map_cons, Nat.ofDigits_cons, Nat.add_comm]

namespace IntegerLiteral

variable (l : IntegerLiteral)

theorem isLiteralChar_of_mem_text : ∀ c ∈ l.sign.text ++ l.digits, isLiteralChar c = true := by
  intro c hc
  rcases List.mem_append.mp hc with hsign | hdigit
  · cases hs : l.sign with
    | none =>
      rw [hs] at hsign
      cases hsign
    | plus =>
      rw [hs] at hsign
      rw [List.mem_singleton.mp hsign]
      rfl
    | minus =>
      rw [hs] at hsign
      rw [List.mem_singleton.mp hsign]
      rfl
  · exact isLiteralChar_of_isDigit (l.isDigit c hdigit)

/-- The sign is split off from the digits. -/
theorem signed_text : signed (l.sign.text ++ l.digits) = (l.sign.isMinus, l.digits) := by
  cases l.sign with
  | none =>
    obtain ⟨c, ds, hds⟩ := List.exists_cons_of_ne_nil l.ne_nil
    have hc : c.isDigit = true := l.isDigit c (hds ▸ .head _)
    rw [hds]
    exact signed_of_isDigit hc ds
  | plus => rfl
  | minus => rfl

/-! ## Literals as numbers -/

/-- **A literal as an integer**: it is the one that the literal writes, up to the limit on
digits. -/
theorem int?_text : int? l.text = if l.digits.length ≤ digitLimit then some l.value else none := by
  rw [text, int?_of_signed l.isLiteralChar_of_mem_text l.signed_text l.ne_nil l.isDigit,
    digitsValue_eq_ofDigits, value, magnitude]
  cases l.sign <;> rfl

/-- Digits without a point are a decimal as well, rounded to a float. -/
theorem decimal?_digits (negative : Bool) :
    decimal? negative l.digits = some (floatOfRatio negative l.magnitude 1) := by
  have hend : ∀ c ∈ ([] : List Char).head?, c.isDigit = false := nofun
  obtain ⟨htake, hdrop⟩ := takeWhile_isDigit_append l.isDigit hend
  rw [List.append_nil] at htake hdrop
  have hempty : l.digits.isEmpty = false := List.isEmpty_eq_false_iff.mpr l.ne_nil
  have hvalue : digitsValue l.digits = l.magnitude := digitsValue_eq_ofDigits l.digits
  simp only [decimal?, htake, hdrop, fractionDigits, List.append_nil, hempty, exponent?,
    Option.bind_eq_bind, Option.bind_some, hvalue]
  rw [if_neg Bool.false_ne_true, Option.some_inj]
  rcases Nat.eq_zero_or_pos l.magnitude with hzero | hpos
  · rw [hzero]
    rfl
  · unfold floatOfDecimal
    rw [if_neg (by simp; omega), if_neg (by simp)]
    simp [powTen]

/-- **A literal as a float**: it is the nearest one to the integer that the literal writes. -/
theorem float?_text : float? l.text = some (floatOfRatio l.sign.isMinus l.magnitude 1) := by
  obtain ⟨c, ds, hds⟩ := List.exists_cons_of_ne_nil l.ne_nil
  have hc : c.isDigit = true := l.isDigit c (hds ▸ .head _)
  have hsigned : signed (l.sign.text ++ l.digits) = (l.sign.isMinus, c :: ds) :=
    hds ▸ l.signed_text
  rw [text, float?_of_signed l.isLiteralChar_of_mem_text hsigned hc, ← hds]
  exact l.decimal?_digits l.sign.isMinus

end IntegerLiteral

/-! ## How the reader takes literals -/

/-- An integer with too many digits is read as the float next to it. -/
theorem atom_of_digitLimit_lt {l : IntegerLiteral} (h : digitLimit < l.digits.length) :
    atom l.text = .float (floatOfRatio l.sign.isMinus l.magnitude 1) := by
  rw [atom, l.int?_text, if_neg (Nat.not_le.mpr h), l.float?_text]

/-- **How the reader takes an integer literal.** Up to the limit on digits it is the integer that
the literal writes, and otherwise the float nearest to that integer. It never is a symbol. -/
theorem atom_integerLiteral (l : IntegerLiteral) :
    atom l.text = if l.digits.length ≤ digitLimit then .int l.value
      else .float (floatOfRatio l.sign.isMinus l.magnitude 1) := by
  split
  · rename_i h
    rw [atom, l.int?_text, if_pos h]
  · rename_i h
    exact atom_of_digitLimit_lt (Nat.lt_of_not_le h)

/-- The power of ten with as many zeros as the limit allows digits, and so one digit too many. -/
def longPowerOfTen : IntegerLiteral where
  sign := .none
  digits := '1' :: List.replicate digitLimit '0'
  ne_nil := List.cons_ne_nil _ _
  isDigit := List.forall_mem_cons.mpr ⟨rfl, fun _ => isDigit_of_mem_replicate_zero⟩

theorem magnitude_longPowerOfTen : longPowerOfTen.magnitude = 10 ^ digitLimit := by
  have happend := digitsValue_append ['1'] (List.replicate digitLimit '0')
  have hone : digitsValue ['1'] = 1 := rfl
  rw [digitsValue_replicate_zero, List.length_replicate, hone, Nat.mul_one, Nat.add_zero,
    List.singleton_append] at happend
  rw [IntegerLiteral.magnitude, ← digitsValue_eq_ofDigits]
  exact happend

/-- A power of ten with one digit too many is read as infinity, and not as the integer that it
is. -/
theorem atom_power_of_ten :
    digitLimit = 4300 ∧ longPowerOfTen.value = 10 ^ digitLimit ∧
      atom longPowerOfTen.text = .float (infinity false) ∧
      atom longPowerOfTen.text ≠ .int longPowerOfTen.value := by
  have hlong : digitLimit < longPowerOfTen.digits.length := by
    rw [longPowerOfTen, List.length_cons, List.length_replicate]
    exact Nat.lt_succ_self _
  have hfloat : floatOfRatio false (10 ^ digitLimit) 1 = infinity false := by decide +kernel
  have hread : atom longPowerOfTen.text = .float (infinity false) := by
    rw [atom_of_digitLimit_lt hlong, magnitude_longPowerOfTen]
    exact congrArg Value.float hfloat
  refine ⟨rfl, ?_, hread, ?_⟩
  · rw [IntegerLiteral.value, magnitude_longPowerOfTen]
    exact Nat.cast_pow 10 digitLimit
  · rw [hread]
    exact nofun

end SmallLisp
