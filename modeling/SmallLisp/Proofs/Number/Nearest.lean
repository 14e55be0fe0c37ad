import Mathlib.Algebra.Order.Field.Power
import Mathlib.Data.Rat.Cast.Order
import Mathlib.Tactic.FieldSimp
import Mathlib.Tactic.Linarith
import Mathlib.Tactic.NormNum
import Mathlib.Tactic.Positivity
import Mathlib.Tactic.Ring
import SmallLisp.Number.Shortest

/-!
# Quotients rounded to a given float

Every rational in the interval of a float is rounded to that float. The exponent that is chosen for
the rational is that of the float, but for one case: below a power of two the floats lie half as far
apart, so a rational there has the exponent before, and its mantissa is rounded up to the power of
two.

## Main definitions

* `IsFloat`: mantissas and exponents of finite floats
* `Interval.Covers`: the rationals of an interval

## Main results

* `roundDiv_eq`: the quotients that are rounded to a given integer
* `exponentOf_eq`: the exponent of a quotient
* `bitsOfRatio_of_covers`: a rational in the interval of a float is rounded to it
-/

namespace SmallLisp.Number

/-- The mantissa and the exponent of a finite float: a mantissa of at most 53 bits, which has all
of them unless the exponent is the least one. -/
structure IsFloat (m : Nat) (e : Int) : Prop where
  mantissa_lt : m < 2 ^ 53
  exponent_ge : -1074 ≤ e
  exponent_le : e ≤ 971
  normal : e = -1074 ∨ 2 ^ 52 ≤ m

/-- The bits of the magnitude of a finite float. -/
def finiteBits (m : Nat) (e : Int) : Nat :=
  (e + 1074).toNat * 2 ^ 52 + m

/-- The rational lies in the interval. -/
def Interval.Covers (i : Interval) (v : ℚ) : Prop :=
  (i.lower * 2 ^ i.exponent < v ∨ i.closed = true ∧ i.lower * 2 ^ i.exponent = v) ∧
    (v < i.upper * 2 ^ i.exponent ∨ i.closed = true ∧ v = i.upper * 2 ^ i.exponent)

/-! ## Quotients rounded to integers -/

/-- The rounded quotient is within a half of the quotient, and even if it is a half away. -/
theorem roundDiv_spec (num : Nat) {den : Nat} (hden : 0 < den) :
    2 * (roundDiv num den * den) ≤ 2 * num + den ∧ 2 * num ≤ 2 * (roundDiv num den * den) + den ∧
      (2 * (roundDiv num den * den) = 2 * num + den ∨ 2 * num = 2 * (roundDiv num den * den) + den →
        roundDiv num den % 2 = 0) := by
  have hnum : num / den * den + num % den = num := Nat.div_add_mod' num den
  have hmod : num % den < den := Nat.mod_lt num hden
  simp only [roundDiv, gt_iff_lt, Bool.or_eq_true, decide_eq_true_eq, Bool.and_eq_true, beq_iff_eq]
  generalize num / den = q at hnum ⊢
  generalize num % den = r at hnum hmod ⊢
  split
  · rw [Nat.add_mul, Nat.one_mul]
    omega
  · omega

/-- A rounded quotient is off by a half at most. -/
theorem abs_roundDiv_sub_le (num : Nat) {den : Nat} (hden : 0 < den) :
    |(roundDiv num den : ℚ) - num / den| ≤ 1 / 2 := by
  have hden' : (0 : ℚ) < den := Nat.cast_pos.mpr hden
  obtain ⟨hlow, hhigh, -⟩ := roundDiv_spec num hden
  have hlow' : (2 * (roundDiv num den * den) : ℚ) ≤ 2 * num + den := by exact_mod_cast hlow
  have hhigh' : (2 * num : ℚ) ≤ 2 * (roundDiv num den * den) + den := by exact_mod_cast hhigh
  rw [abs_le, le_sub_iff_add_le, sub_le_iff_le_add, ← sub_le_iff_le_add', le_div_iff₀ hden',
    neg_add_eq_sub, sub_le_iff_le_add, div_le_iff₀ hden', add_mul, sub_mul]
  constructor <;> linarith

/-- A quotient within a half of an integer is rounded to it, if the integer is even or the quotient
is no tie. -/
theorem roundDiv_eq {num den m : Nat} (hden : 0 < den) (hlow : (m : ℚ) - 1 / 2 ≤ num / den)
    (hhigh : (num : ℚ) / den ≤ m + 1 / 2)
    (hodd : m % 2 = 1 → (m : ℚ) - 1 / 2 < num / den ∧ (num : ℚ) / den < m + 1 / 2) :
    roundDiv num den = m := by
  have hden' : (0 : ℚ) < den := Nat.cast_pos.mpr hden
  have hlow' : 2 * (m * den) ≤ 2 * num + den := by
    rw [le_div_iff₀ hden'] at hlow
    have h : (2 * (m * den) : ℚ) ≤ 2 * num + den := by linarith
    exact_mod_cast h
  have hhigh' : 2 * num ≤ 2 * (m * den) + den := by
    rw [div_le_iff₀ hden'] at hhigh
    have h : (2 * num : ℚ) ≤ 2 * (m * den) + den := by linarith
    exact_mod_cast h
  have hodd' : m % 2 = 1 → 2 * (m * den) < 2 * num + den ∧ 2 * num < 2 * (m * den) + den := by
    intro hm
    obtain ⟨hl, hh⟩ := hodd hm
    rw [lt_div_iff₀ hden'] at hl
    rw [div_lt_iff₀ hden'] at hh
    have hl' : (2 * (m * den) : ℚ) < 2 * num + den := by linarith
    have hh' : (2 * num : ℚ) < 2 * (m * den) + den := by linarith
    exact ⟨by exact_mod_cast hl', by exact_mod_cast hh'⟩
  obtain ⟨hlow, hhigh, htie⟩ := roundDiv_spec num hden
  generalize roundDiv num den = r at hlow hhigh htie ⊢
  -- two neighbours can only share a tie, and then just one of them is even
  rcases Nat.lt_trichotomy r m with hlt | heq | hgt
  · obtain ⟨k, rfl⟩ := Nat.exists_eq_add_of_lt hlt
    rw [Nat.add_mul, Nat.add_mul, Nat.one_mul] at hlow' hhigh' hodd'
    have hk : k = 0 := by
      by_contra hk
      have : den ≤ k * den := Nat.le_mul_of_pos_left den (Nat.pos_of_ne_zero hk)
      omega
    subst hk
    omega
  · exact heq
  · obtain ⟨k, rfl⟩ := Nat.exists_eq_add_of_lt hgt
    rw [Nat.add_mul, Nat.add_mul, Nat.one_mul] at hlow hhigh htie
    have hk : k = 0 := by
      by_contra hk
      have : den ≤ k * den := Nat.le_mul_of_pos_left den (Nat.pos_of_ne_zero hk)
      omega
    subst hk
    omega

/-! ## Quotients in units of a power of two -/

theorem powTwo_eq (n : Nat) : powTwo n = 2 ^ n := rfl

theorem scaleUp_eq (n : Nat) (e : Int) : scaleUp n e = n * 2 ^ e.toNat :=
  Nat.shiftLeft_eq n e.toNat

theorem scaleUp_pos {n : Nat} (hn : 0 < n) (e : Int) : 0 < scaleUp n e := by
  rw [scaleUp_eq]
  positivity

/-- Powers with exponents of either sign as quotients of powers of naturals. -/
theorem zpow_eq_div (b : ℚ) (e : Int) : b ^ e = b ^ e.toNat / b ^ (-e).toNat := by
  rcases Int.le_total 0 e with h | h
  · rw [Int.toNat_eq_zero.mpr (Int.neg_nonpos_of_nonneg h), pow_zero, div_one, ← zpow_natCast,
      Int.toNat_of_nonneg h]
  · rw [Int.toNat_eq_zero.mpr h, pow_zero, ← zpow_natCast,
      Int.toNat_of_nonneg (Int.neg_nonneg_of_nonpos h), zpow_neg, one_div, inv_inv]

/-- Scaling up both sides gives the quotient in units of a power of two. -/
theorem scaleUp_div (num den : Nat) (e : Int) :
    (scaleUp num (-e) : ℚ) / scaleUp den e = num / den / 2 ^ e := by
  rw [scaleUp_eq, scaleUp_eq, zpow_eq_div 2 e]
  push_cast
  field_simp

/-- The mantissa of a quotient near `m · 2 ^ e`. -/
theorem mantissaAt_eq {num den m : Nat} {e : Int} (hden : 0 < den)
    (hlow : ((m : ℚ) - 1 / 2) * 2 ^ e ≤ num / den) (hhigh : (num : ℚ) / den ≤ (m + 1 / 2) * 2 ^ e)
    (hodd : m % 2 = 1 → ((m : ℚ) - 1 / 2) * 2 ^ e < num / den ∧
      (num : ℚ) / den < (m + 1 / 2) * 2 ^ e) :
    mantissaAt num den e = m := by
  have hunit : (0 : ℚ) < 2 ^ e := by positivity
  unfold mantissaAt
  apply roundDiv_eq (scaleUp_pos hden e) <;> rw [scaleUp_div]
  · rwa [le_div_iff₀ hunit]
  · rwa [div_le_iff₀ hunit]
  · rwa [lt_div_iff₀ hunit, div_lt_iff₀ hunit]

theorem two_zpow_add_natCast (e : Int) (n : Nat) : (2 : ℚ) ^ (e + n) = 2 ^ e * 2 ^ n := by
  rw [zpow_add₀ two_ne_zero, zpow_natCast]

/-- The exponent at which a positive quotient has a mantissa of exactly 53 bits, if that is not
below the least exponent. -/
theorem exponentOf_eq {num den : Nat} (hnum : 0 < num) (hden : 0 < den) :
    ∃ E : Int, (2 : ℚ) ^ 52 * 2 ^ E ≤ num / den ∧ (num : ℚ) / den < 2 ^ 53 * 2 ^ E ∧
      exponentOf num den = max E minExponent := by
  have hnum' : (0 : ℚ) < num := Nat.cast_pos.mpr hnum
  have hden' : (0 : ℚ) < den := Nat.cast_pos.mpr hden
  obtain ⟨hnlow, hnhigh⟩ := (Nat.log2_eq_iff hnum.ne').mp rfl
  obtain ⟨hdlow, hdhigh⟩ := (Nat.log2_eq_iff hden.ne').mp rfl
  unfold exponentOf
  generalize num.log2 = a at hnlow hnhigh ⊢
  generalize den.log2 = b at hdlow hdhigh ⊢
  set e : Int := (a : Int) - b - 53 with he
  -- the quotient has 53 or 54 bits in units of `2 ^ e`
  have hunit : (2 : ℚ) ^ 53 * 2 ^ e = 2 ^ a / 2 ^ b := by
    rw [mul_comm, ← two_zpow_add_natCast, he, show (a : Int) - b - 53 + (53 : Nat) = a - b by simp,
      zpow_sub₀ two_ne_zero, zpow_natCast, zpow_natCast]
  have hlow : (2 : ℚ) ^ 52 * 2 ^ e ≤ num / den := by
    have hn : (2 : ℚ) ^ a ≤ num := by exact_mod_cast hnlow
    have hd : (den : ℚ) ≤ 2 * 2 ^ b := by
      rw [mul_comm, ← pow_succ]
      exact_mod_cast hdhigh.le
    have h : (2 : ℚ) ^ 52 * 2 ^ e = 2 ^ a / (2 * 2 ^ b) := by
      rw [show (2 : ℚ) ^ 52 * 2 ^ e = 2 ^ 53 * 2 ^ e / 2 by ring, hunit]
      field_simp
    rw [h]
    gcongr
  have hhigh : (num : ℚ) / den < 2 ^ 54 * 2 ^ e := by
    have hn : (num : ℚ) < 2 * 2 ^ a := by
      rw [mul_comm, ← pow_succ]
      exact_mod_cast hnhigh
    have hd : (2 : ℚ) ^ b ≤ den := by exact_mod_cast hdlow
    have h : (2 : ℚ) ^ 54 * 2 ^ e = 2 * 2 ^ a / 2 ^ b := by
      rw [show (2 : ℚ) ^ 54 * 2 ^ e = 2 * (2 ^ 53 * 2 ^ e) by ring, hunit, mul_div_assoc]
    rw [h]
    gcongr
  have htest : scaleUp num (-e) / scaleUp den e < powTwo 53 ↔ (num : ℚ) / den < 2 ^ 53 * 2 ^ e := by
    have hunit' : (0 : ℚ) < 2 ^ e := by positivity
    have hden'' : (0 : ℚ) < scaleUp den e := Nat.cast_pos.mpr (scaleUp_pos hden e)
    rw [Nat.div_lt_iff_lt_mul (scaleUp_pos hden e), ← div_lt_iff₀ hunit', ← scaleUp_div,
      div_lt_iff₀ hden'', powTwo_eq]
    exact_mod_cast Iff.rfl
  simp only [htest]
  -- 53 bits are kept, and of 54 bits the last one is given up
  by_cases h : (num : ℚ) / den < 2 ^ 53 * 2 ^ e
  · exact ⟨e, hlow, h, by rw [if_pos h]⟩
  · have hsucc : (2 : ℚ) ^ (e + 1) = 2 ^ e * 2 := by rw [zpow_add_one₀ two_ne_zero]
    refine ⟨e + 1, ?_, ?_, by rw [if_neg h]⟩
    · rw [hsucc]
      linarith
    · rw [hsucc]
      linarith

/-! ## The interval of a float -/

/-- How far below a float the rationals reach that are rounded to it, in units of its last place. -/
def gapBelow (m : Nat) (e : Int) : ℚ :=
  if m = powTwo fractionBits ∧ minExponent < e then 1 / 4 else 1 / 2

/-- A number rounds to the float if it lies between the middles to its neighbours, or on one of them
if the mantissa is even. -/
theorem covers_intervalOf_iff {m : Nat} {e : Int} (hm : 0 < m) {v : ℚ} :
    (intervalOf m e).Covers v ↔
      (((m : ℚ) - gapBelow m e) * 2 ^ e < v ∨
        m % 2 = 0 ∧ ((m : ℚ) - gapBelow m e) * 2 ^ e = v) ∧
      (v < ((m : ℚ) + 1 / 2) * 2 ^ e ∨ m % 2 = 0 ∧ v = ((m : ℚ) + 1 / 2) * 2 ^ e) := by
  have hquarter : (2 : ℚ) ^ (e - 2) = 2 ^ e / 4 := by
    rw [zpow_sub₀ two_ne_zero]
    norm_num
  have hlower : ((intervalOf m e).lower : ℚ) * 2 ^ (e - 2) = ((m : ℚ) - gapBelow m e) * 2 ^ e := by
    rw [hquarter, gapBelow, intervalOf]
    by_cases hpower : m = powTwo fractionBits ∧ minExponent < e
    · simp only [if_pos hpower]
      rw [Nat.cast_sub (by omega)]
      push_cast
      ring
    · simp only [if_neg hpower]
      rw [Nat.cast_sub (by omega)]
      push_cast
      ring
  have hupper : ((intervalOf m e).upper : ℚ) * 2 ^ (e - 2) = ((m : ℚ) + 1 / 2) * 2 ^ e := by
    rw [hquarter, intervalOf]
    push_cast
    ring
  have hclosed : (intervalOf m e).closed = true ↔ m % 2 = 0 := beq_iff_eq
  rw [← hlower, ← hupper, ← hclosed]
  exact Iff.rfl

theorem gapBelow_le (m : Nat) (e : Int) : gapBelow m e ≤ 1 / 2 := by
  unfold gapBelow
  split <;> norm_num

/-- The ends of the interval of a float, whether they are in it or not. -/
theorem bounds_of_covers {m : Nat} {e : Int} (hm : 0 < m) {v : ℚ}
    (h : (intervalOf m e).Covers v) :
    ((m : ℚ) - gapBelow m e) * 2 ^ e ≤ v ∧ v ≤ ((m : ℚ) + 1 / 2) * 2 ^ e := by
  obtain ⟨hlow | ⟨-, hlow⟩, hhigh | ⟨-, hhigh⟩⟩ := (covers_intervalOf_iff hm).mp h
  · exact ⟨hlow.le, hhigh.le⟩
  · exact ⟨hlow.le, hhigh.le⟩
  · exact ⟨hlow.le, hhigh.le⟩
  · exact ⟨hlow.le, hhigh.le⟩

/-- Magnitudes in order have exponents in order. -/
theorem exponent_lt {a b : Nat} {e e' : Int} (h : (2 : ℚ) ^ a * 2 ^ e < 2 ^ b * 2 ^ e') :
    e + a < e' + b := by
  rw [mul_comm, ← two_zpow_add_natCast, mul_comm, ← two_zpow_add_natCast] at h
  exact (zpow_lt_zpow_iff_right₀ one_lt_two).mp h

/-- The bits that a mantissa and an exponent stand for, also if the mantissa has one bit too many.
-/
theorem bitsOfRatio_eq {num den m : Nat} {e : Int} (hnum : 0 < num)
    (hexp : exponentOf num den = e) (hmantissa : mantissaAt num den e = m)
    (hnormal : e = -1074 ∨ 2 ^ 52 ≤ m) (hfinite : finiteBits m e ≤ infinityBits) :
    bitsOfRatio num den = finiteBits m e := by
  have hbits : (if m < 2 ^ 52 then m else (e + 1074).toNat * 2 ^ 52 + m) = finiteBits m e := by
    split
    · have he : e = -1074 := by omega
      simp [finiteBits, he]
    · rfl
  unfold bitsOfRatio
  simp only [if_neg hnum.ne', hexp, hmantissa, powTwo_eq, fractionBits, minExponent,
    Int.sub_neg, hbits]
  exact Nat.min_eq_left hfinite

/-- **A rational in the interval of a float is rounded to it.** -/
theorem bitsOfRatio_of_covers {m num den : Nat} {e : Int} (hf : IsFloat m e) (hm : 0 < m)
    (hnum : 0 < num) (hden : 0 < den) (h : (intervalOf m e).Covers (num / den)) :
    bitsOfRatio num den = finiteBits m e := by
  obtain ⟨hmantissa, hmin, hmax, hnormal⟩ := hf
  obtain ⟨hlow, hhigh⟩ := bounds_of_covers hm h
  rw [covers_intervalOf_iff hm] at h
  obtain ⟨E, hElow, hEhigh, hexp⟩ := exponentOf_eq hnum hden
  have hunit : (0 : ℚ) < 2 ^ e := by positivity
  have hm' : (m : ℚ) + 1 ≤ 2 ^ 53 := by exact_mod_cast hmantissa
  have hfinite : finiteBits m e ≤ infinityBits := by
    unfold finiteBits infinityBits
    omega
  have hE : E ≤ e := by
    have hlt : (2 : ℚ) ^ 52 * 2 ^ E < 2 ^ 53 * 2 ^ e := by
      calc (2 : ℚ) ^ 52 * 2 ^ E ≤ num / den := hElow
        _ ≤ ((m : ℚ) + 1 / 2) * 2 ^ e := hhigh
        _ < 2 ^ 53 * 2 ^ e := by gcongr; linarith
    have := exponent_lt hlt
    omega
  rw [minExponent] at hexp
  by_cases hsame : max E (-1074) = e
  · rw [hsame] at hexp
    refine bitsOfRatio_eq hnum hexp (mantissaAt_eq hden ?_ hhigh fun hodd => ?_) hnormal hfinite
    · have hgap := gapBelow_le m e
      calc ((m : ℚ) - 1 / 2) * 2 ^ e ≤ (m - gapBelow m e) * 2 ^ e := by gcongr
        _ ≤ num / den := hlow
    · have hpower : ¬ (m = powTwo fractionBits ∧ minExponent < e) := by
        rintro ⟨rfl, -⟩
        exact absurd hodd (by decide)
      rw [gapBelow, if_neg hpower] at h
      have heven : ¬ m % 2 = 0 := by omega
      simpa only [heven, false_and, or_false] using h
  · have hmin' : minExponent < e := by
      rw [minExponent]
      omega
    have hmge : 2 ^ 52 ≤ m := by omega
    have hmeq : m = powTwo fractionBits := by
      by_contra hne
      have hmgt : (2 : ℚ) ^ 52 + 1 ≤ m := by
        have hlt : 2 ^ 52 < m := Nat.lt_of_le_of_ne hmge fun heq => hne heq.symm
        exact_mod_cast hlt
      rw [gapBelow, if_neg fun h => hne h.1] at hlow
      have hlt : (2 : ℚ) ^ 52 * 2 ^ e < 2 ^ 53 * 2 ^ E := by
        calc (2 : ℚ) ^ 52 * 2 ^ e ≤ (m - 1 / 2) * 2 ^ e := by gcongr; linarith
          _ ≤ num / den := hlow
          _ < 2 ^ 53 * 2 ^ E := hEhigh
      have := exponent_lt hlt
      omega
    have hmq : (m : ℚ) = 2 ^ 52 := by
      rw [hmeq, powTwo_eq, fractionBits]
      norm_num
    rw [gapBelow, if_pos ⟨hmeq, hmin'⟩, hmq] at hlow
    have hE' : E = e - 1 := by
      have hlt : (2 : ℚ) ^ 51 * 2 ^ e < 2 ^ 53 * 2 ^ E := by
        calc (2 : ℚ) ^ 51 * 2 ^ e ≤ (2 ^ 52 - 1 / 4) * 2 ^ e := by gcongr; norm_num
          _ ≤ (num : ℚ) / den := hlow
          _ < 2 ^ 53 * 2 ^ E := hEhigh
      have := exponent_lt hlt
      omega
    have hhalf : (2 : ℚ) ^ (e - 1) = 2 ^ e / 2 := by rw [zpow_sub_one₀ two_ne_zero, div_eq_mul_inv]
    rw [hE', hhalf] at hEhigh
    have hbits : finiteBits m e = finiteBits (2 ^ 53) (e - 1) := by
      rw [hmeq, powTwo_eq, fractionBits, finiteBits, finiteBits]
      omega
    rw [hbits] at hfinite ⊢
    refine bitsOfRatio_eq hnum (by omega) (mantissaAt_eq hden ?_ ?_ ?_) (by omega) hfinite
    · rw [hhalf]
      push_cast
      linarith
    · rw [hhalf]
      push_cast
      linarith
    · intro hodd
      exact absurd hodd (by decide)

end SmallLisp.Number
