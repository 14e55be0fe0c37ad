import SmallLisp.Proofs.Number.Nearest

/-!
# Shortest decimals read back

The decimal that is chosen for a float lies in the interval of the float. On the grids that are
searched, this is what the search tests. If none of them has a hit, the decimal has seventeen
digits, which is close enough: the estimated power of ten is never above the one that the float
needs.

## Main definitions

* `Decimal.value`: the rational that a decimal stands for

## Main results

* `contains_iff_covers`: the test of the search decides membership in the interval
* `ten_zpow_magnitude_le`: the power of ten before the magnitude is not above the number
* `shortest_covers`: the shortest decimal of a float lies in its interval
* `floatOfDecimal_eq`: a decimal in the interval of a float is read as the float
-/

namespace SmallLisp.Number

/-- The rational that a decimal stands for. -/
def Decimal.value (d : Decimal) : ℚ :=
  d.digits * 10 ^ d.exponent

theorem powTen_eq (n : Nat) : powTen n = 10 ^ n := rfl

/-! ## Binary and decimal numbers compared -/

/-- Both sides of a comparison are the numbers that are compared, multiplied by the same number. -/
theorem exists_scale (a : Nat) (e : Int) (d : Nat) (p : Int) :
    ∃ c : ℚ, 0 < c ∧
      ((a * powTwo e.toNat * powTen (-p).toNat : Nat) : ℚ) = a * 2 ^ e * c ∧
      ((d * powTen p.toNat * powTwo (-e).toNat : Nat) : ℚ) = d * 10 ^ p * c := by
  refine ⟨2 ^ (-e).toNat * 10 ^ (-p).toNat, by positivity, ?_, ?_⟩
  · rw [zpow_eq_div 2 e, powTwo_eq, powTen_eq]
    push_cast
    field_simp
  · rw [zpow_eq_div 10 p, powTwo_eq, powTen_eq]
    push_cast
    field_simp

theorem compareBinaryDecimal_eq_lt_iff (a : Nat) (e : Int) (d : Nat) (p : Int) :
    compareBinaryDecimal a e d p = .lt ↔ (a : ℚ) * 2 ^ e < d * 10 ^ p := by
  obtain ⟨c, hc, hleft, hright⟩ := exists_scale a e d p
  rw [compareBinaryDecimal, Nat.compare_eq_lt, ← Nat.cast_lt (α := ℚ), hleft, hright,
    mul_lt_mul_iff_left₀ hc]

theorem compareBinaryDecimal_eq_gt_iff (a : Nat) (e : Int) (d : Nat) (p : Int) :
    compareBinaryDecimal a e d p = .gt ↔ (d : ℚ) * 10 ^ p < a * 2 ^ e := by
  obtain ⟨c, hc, hleft, hright⟩ := exists_scale a e d p
  rw [compareBinaryDecimal, Nat.compare_eq_gt, ← Nat.cast_lt (α := ℚ), hleft, hright,
    mul_lt_mul_iff_left₀ hc]

theorem compareBinaryDecimal_eq_eq_iff (a : Nat) (e : Int) (d : Nat) (p : Int) :
    compareBinaryDecimal a e d p = .eq ↔ (a : ℚ) * 2 ^ e = d * 10 ^ p := by
  obtain ⟨c, hc, hleft, hright⟩ := exists_scale a e d p
  rw [compareBinaryDecimal, Nat.compare_eq_eq, ← Nat.cast_inj (R := ℚ), hleft, hright,
    mul_left_inj' hc.ne']

/-- Whether a decimal lies in the interval is computed without rounding. -/
theorem contains_iff_covers (i : Interval) (d : Nat) (p : Int) :
    i.contains d p = true ↔ i.Covers (d * 10 ^ p) := by
  simp only [Interval.contains, Interval.Covers, Bool.and_eq_true, Bool.or_eq_true, beq_iff_eq,
    compareBinaryDecimal_eq_lt_iff, compareBinaryDecimal_eq_gt_iff, compareBinaryDecimal_eq_eq_iff]
  rw [eq_comm (a := (d : ℚ) * 10 ^ p)]

/-! ## The magnitude of a number -/

/-- The estimate of the decimal exponent from the binary one is low enough, since `10 ^ 3` is less
than `2 ^ 10`, and `2 ^ 93` less than `10 ^ 28`. -/
theorem ten_zpow_estimate_le {k : Int} (hlow : -2000 ≤ k) (hhigh : k ≤ 2000) :
    (10 : ℚ) ^ (k * 30103 / 100000 - 3) ≤ 2 ^ k := by
  set s : Int := k * 30103 / 100000 - 3 with hs
  rcases Int.le_total 0 k with hk | hk
  · have hsk : s * 10 ≤ 3 * k := by omega
    rw [← pow_le_pow_iff_left₀ (by positivity) (by positivity) (show 10 ≠ 0 by decide)]
    calc ((10 : ℚ) ^ s) ^ 10 = 10 ^ (s * 10) := by rw [zpow_mul, zpow_ofNat]
      _ ≤ 10 ^ (3 * k) := zpow_le_zpow_right₀ (by norm_num) hsk
      _ = (10 ^ 3) ^ k := by rw [zpow_mul, zpow_ofNat]
      _ ≤ (2 ^ 10) ^ k := zpow_le_zpow_left₀ hk (by norm_num) (by norm_num)
      _ = (2 ^ k) ^ 10 := by rw [← zpow_natCast, ← zpow_natCast, ← zpow_mul, ← zpow_mul, mul_comm]
  · have hsk : s * 93 ≤ 28 * k := by omega
    rw [← pow_le_pow_iff_left₀ (by positivity) (by positivity) (show 93 ≠ 0 by decide)]
    calc ((10 : ℚ) ^ s) ^ 93 = 10 ^ (s * 93) := by rw [zpow_mul, zpow_ofNat]
      _ ≤ 10 ^ (28 * k) := zpow_le_zpow_right₀ (by norm_num) hsk
      _ = (10 ^ 28) ^ k := by rw [zpow_mul, zpow_ofNat]
      _ ≤ (2 ^ 93) ^ k := by
        obtain ⟨n, hn⟩ := Int.exists_eq_neg_ofNat hk
        rw [hn, zpow_neg, zpow_neg, zpow_natCast, zpow_natCast]
        gcongr
        norm_num
      _ = (2 ^ k) ^ 93 := by rw [← zpow_natCast, ← zpow_natCast, ← zpow_mul, ← zpow_mul, mul_comm]

/-- The search for a power of ten stops before the number is too small for it. -/
theorem ten_zpow_powerAbove_le {a : Nat} {e : Int} (tries : Nat) {start : Int}
    (h : (10 : ℚ) ^ (start - 1) ≤ a * 2 ^ e) :
    (10 : ℚ) ^ (powerAbove a e tries start - 1) ≤ a * 2 ^ e := by
  induction tries generalizing start with
  | zero => exact h
  | succ tries ih =>
    rw [powerAbove]
    split
    · exact h
    · rename_i hstart
      rw [beq_iff_eq, compareBinaryDecimal_eq_lt_iff, not_lt, Nat.cast_one, one_mul] at hstart
      apply ih
      rwa [add_sub_cancel_right]

/-- The power of ten before the magnitude of a number is not above it. -/
theorem ten_zpow_magnitude_le {a : Nat} {e : Int} (ha : 0 < a) (hlow : -2000 ≤ (a.log2 : Int) + e)
    (hhigh : (a.log2 : Int) + e ≤ 2000) :
    (10 : ℚ) ^ (magnitude a e - 1) ≤ a * 2 ^ e := by
  apply ten_zpow_powerAbove_le
  rw [show ∀ k : Int, k - 2 - 1 = k - 3 by omega]
  have hpow : (2 : ℚ) ^ a.log2 ≤ a := by exact_mod_cast Nat.log2_self_le ha.ne'
  calc (10 : ℚ) ^ (((a.log2 : Int) + e) * 30103 / 100000 - 3)
      ≤ 2 ^ ((a.log2 : Int) + e) := ten_zpow_estimate_le hlow hhigh
    _ = 2 ^ a.log2 * 2 ^ e := by rw [zpow_add₀ two_ne_zero, zpow_natCast]
    _ ≤ a * 2 ^ e := by gcongr

/-! ## The search -/

theorem Interval.covers_of_onGrid {i : Interval} {p : Int} {d : Nat} (h : i.onGrid p = some d) :
    i.Covers (d * 10 ^ p) := by
  rw [← contains_iff_covers]
  unfold onGrid at h
  simp only at h
  split at h
  · rename_i hd
    cases h
    exact hd
  · split at h
    · rename_i hd
      cases h
      exact hd
    · split at h
      · rename_i hd
        cases h
        exact hd
      · cases h

/-- The search gives a decimal in the interval if its last grid does. -/
theorem firstGrid_covers {i : Interval} {top : Int} {tries count : Nat}
    (hlast : i.Covers (firstGrid i top 0 (count + tries)).value) :
    i.Covers (firstGrid i top tries count).value := by
  induction tries generalizing count with
  | zero => exact hlast
  | succ tries ih =>
    rw [firstGrid]
    split
    · rename_i d hd
      exact Interval.covers_of_onGrid hd
    · apply ih
      rwa [Nat.add_right_comm]

/-- On the last grid, the decimal is within a half of the step. -/
theorem abs_firstGrid_sub_le (i : Interval) (top : Int) (count : Nat) :
    |(firstGrid i top 0 count).value - i.value * 2 ^ i.exponent| ≤ 10 ^ (top - count) / 2 := by
  rw [firstGrid, Decimal.value]
  simp only
  have hstep : (0 : ℚ) < 10 ^ (top - count) := by positivity
  have hden : 0 < powTen (top - count).toNat * powTwo (-i.exponent).toNat := by
    rw [powTen_eq, powTwo_eq]
    positivity
  have hround := abs_roundDiv_sub_le
    (i.value * powTwo i.exponent.toNat * powTen ((count : Int) - top).toNat) hden
  have hquot : ((i.value * powTwo i.exponent.toNat * powTen ((count : Int) - top).toNat : Nat) : ℚ) /
      (powTen (top - count).toNat * powTwo (-i.exponent).toNat : Nat) =
      i.value * 2 ^ i.exponent / 10 ^ (top - count) := by
    rw [zpow_eq_div 2, zpow_eq_div 10, neg_sub, powTwo_eq, powTen_eq, powTwo_eq, powTen_eq]
    push_cast
    field_simp
  rw [hquot] at hround
  generalize roundDiv _ _ = d at hround ⊢
  have hscale : (d : ℚ) * 10 ^ (top - count) - i.value * 2 ^ i.exponent =
      (d - i.value * 2 ^ i.exponent / 10 ^ (top - count)) * 10 ^ (top - count) := by
    rw [sub_mul, div_mul_cancel₀ _ hstep.ne']
  rw [hscale, abs_mul, abs_of_pos hstep]
  linarith [mul_le_mul_of_nonneg_right hround hstep.le]

/-- Zeros at the end are taken off without a change of the value. -/
theorem Decimal.value_withoutZeros (fuel : Nat) (d : Decimal) :
    (withoutZeros fuel d).value = d.value := by
  induction fuel generalizing d with
  | zero => rfl
  | succ fuel ih =>
    rw [withoutZeros]
    split
    · rename_i hd
      rw [ih, value, value]
      have hdigits : (d.digits : ℚ) = (d.digits / 10 : Nat) * 10 := by
        exact_mod_cast (Nat.div_mul_cancel (Nat.dvd_of_mod_eq_zero hd)).symm
      rw [hdigits, zpow_add_one₀ (by norm_num)]
      ring
    · rfl

/-- What lies strictly nearer to a float than the bounds of its interval lies in the interval. -/
theorem covers_of_abs_sub_lt {m : Nat} {e : Int} (hm : 0 < m) {v : ℚ}
    (h : |v - m * 2 ^ e| < gapBelow m e * 2 ^ e) : (intervalOf m e).Covers v := by
  have hgap : gapBelow m e * 2 ^ e ≤ 1 / 2 * 2 ^ e := by
    have := gapBelow_le m e
    gcongr
  obtain ⟨hlow, hhigh⟩ := abs_lt.mp h
  rw [covers_intervalOf_iff hm, sub_mul, add_mul]
  exact ⟨.inl (by linarith), .inl (by linarith)⟩

/-- Seventeen digits of a float lie nearer to it than the bounds of its interval. -/
theorem value_mul_lt_gapBelow {m : Nat} (e : Int) (hm : m < 2 ^ 53) :
    (m : ℚ) * (10 ^ (-16 : Int) / 2) < gapBelow m e := by
  have hm' : (m : ℚ) < 2 ^ 53 := by exact_mod_cast hm
  unfold gapBelow
  split
  · rename_i hpower
    rw [hpower.1, powTwo_eq, fractionBits]
    norm_num
  · calc (m : ℚ) * (10 ^ (-16 : Int) / 2) < 2 ^ 53 * (10 ^ (-16 : Int) / 2) := by gcongr
      _ ≤ 1 / 2 := by norm_num

/-- **The shortest decimal of a float lies in its interval.** -/
theorem shortest_covers {m : Nat} {e : Int} (hf : IsFloat m e) (hm : 0 < m) :
    (intervalOf m e).Covers (shortest m e).value := by
  have hvalue : ((intervalOf m e).value : ℚ) * 2 ^ (intervalOf m e).exponent = m * 2 ^ e := by
    rw [intervalOf, zpow_sub₀ two_ne_zero]
    push_cast
    ring
  have hlog : (intervalOf m e).value.log2 < 55 := by
    rw [Nat.log2_lt (by simp only [intervalOf]; omega)]
    have := hf.mantissa_lt
    simp only [intervalOf]
    omega
  -- the power of ten before the magnitude is not above the float
  have htop := ten_zpow_magnitude_le (a := (intervalOf m e).value)
    (e := (intervalOf m e).exponent) (by simp only [intervalOf]; omega)
    (by have := hf.exponent_ge; simp only [intervalOf]; omega)
    (by have := hf.exponent_le; simp only [intervalOf] at hlog ⊢; omega)
  rw [hvalue] at htop
  rw [shortest]
  simp only [Decimal.value_withoutZeros]
  -- so the step of the last grid is small against the float, and the error less than the gap
  refine firstGrid_covers (covers_of_abs_sub_lt hm ?_)
  generalize magnitude (intervalOf m e).value (intervalOf m e).exponent = top at htop
  have hlast := abs_firstGrid_sub_le (intervalOf m e) top (1 + 16)
  rw [hvalue] at hlast
  have hstep : (10 : ℚ) ^ (top - (1 + 16 : Nat)) = 10 ^ (top - 1) * 10 ^ (-16 : Int) := by
    rw [← zpow_add₀ (by norm_num)]
    congr 1
    push_cast
    ring
  calc _ ≤ (10 : ℚ) ^ (top - (1 + 16 : Nat)) / 2 := hlast
    _ = 10 ^ (top - 1) * (10 ^ (-16 : Int) / 2) := by rw [hstep, mul_div_assoc]
    _ ≤ m * 2 ^ e * (10 ^ (-16 : Int) / 2) := by gcongr
    _ = m * (10 ^ (-16 : Int) / 2) * 2 ^ e := by ring
    _ < gapBelow m e * 2 ^ e := by
      have := value_mul_lt_gapBelow e hf.mantissa_lt
      gcongr

/-! ## Decimals read as floats -/

/-- Positive floats lie between these powers of ten. -/
theorem ten_zpow_le_of_covers {m : Nat} {e : Int} (hf : IsFloat m e) (hm : 0 < m) {v : ℚ}
    (h : (intervalOf m e).Covers v) : (10 : ℚ) ^ (-327 : Int) ≤ v ∧ v ≤ 10 ^ (400 : Int) := by
  obtain ⟨hlow, hhigh⟩ := bounds_of_covers hm h
  have hm' : (1 : ℚ) ≤ m := by exact_mod_cast hm
  have hm'' : (m : ℚ) + 1 ≤ 2 ^ 53 := by exact_mod_cast hf.mantissa_lt
  have hgap := gapBelow_le m e
  constructor
  · calc (10 : ℚ) ^ (-327 : Int) ≤ 2 ^ (-1075 : Int) :=
          ten_zpow_estimate_le (by decide) (by decide)
      _ = 1 / 2 * 2 ^ (-1074 : Int) := by
        rw [show (-1075 : Int) = -1 + -1074 by norm_num, zpow_add₀ two_ne_zero]
        norm_num
      _ ≤ 1 / 2 * 2 ^ e := by
        gcongr
        · norm_num
        · exact hf.exponent_ge
      _ ≤ ((m : ℚ) - gapBelow m e) * 2 ^ e := by
        gcongr
        linarith
      _ ≤ v := hlow
  · calc v ≤ ((m : ℚ) + 1 / 2) * 2 ^ e := hhigh
      _ ≤ 2 ^ 53 * 2 ^ (971 : Int) := by
        gcongr
        · linarith
        · norm_num
        · exact hf.exponent_le
      _ = 2 ^ (1024 : Int) := by
        rw [← zpow_natCast, ← zpow_add₀ two_ne_zero]
        norm_num
      _ ≤ 2 ^ (3 * 400 : Int) := zpow_le_zpow_right₀ (by norm_num) (by norm_num)
      _ = (2 ^ (3 : Int)) ^ (400 : Int) := zpow_mul 2 3 400
      _ ≤ 10 ^ (400 : Int) := zpow_le_zpow_left₀ (by norm_num) (by norm_num) (by norm_num)

/-- **A decimal in the interval of a float is read as the float.** -/
theorem floatOfDecimal_eq {m : Nat} {e : Int} (hf : IsFloat m e) (hm : 0 < m) (negative : Bool)
    {digits width : Nat} {exponent : Int} (hwidth : digits < 10 ^ width)
    (h : (intervalOf m e).Covers (digits * 10 ^ exponent)) :
    floatOfDecimal negative digits width exponent = floatOfBits negative (finiteBits m e) := by
  obtain ⟨hlow, hhigh⟩ := ten_zpow_le_of_covers hf hm h
  have hten : (1 : ℚ) < 10 := by norm_num
  have hpos : 0 < digits := by
    rw [Nat.pos_iff_ne_zero]
    rintro rfl
    rw [Nat.cast_zero, zero_mul] at hlow
    exact absurd hlow (not_le.mpr (by positivity))
  have hdigits : (1 : ℚ) ≤ digits := by exact_mod_cast hpos
  have hmin : -327 < exponent + width := by
    rw [← zpow_lt_zpow_iff_right₀ hten]
    calc (10 : ℚ) ^ (-327 : Int) ≤ digits * 10 ^ exponent := hlow
      _ < 10 ^ width * 10 ^ exponent := by
        gcongr
        exact_mod_cast hwidth
      _ = 10 ^ (exponent + width) := by rw [zpow_add₀ (by norm_num), zpow_natCast, mul_comm]
  have hmax : exponent ≤ 400 := by
    rw [← zpow_le_zpow_iff_right₀ hten]
    calc (10 : ℚ) ^ exponent ≤ digits * 10 ^ exponent :=
          le_mul_of_one_le_left (by positivity) hdigits
      _ ≤ 10 ^ (400 : Int) := hhigh
  have hquot : ((digits * powTen exponent.toNat : Nat) : ℚ) / (powTen (-exponent).toNat : Nat) =
      digits * 10 ^ exponent := by
    rw [zpow_eq_div 10, powTen_eq, powTen_eq]
    push_cast
    rw [mul_div_assoc]
  have hnum : 0 < digits * powTen exponent.toNat := by
    rw [powTen_eq]
    positivity
  have hden : 0 < powTen (-exponent).toNat := by
    rw [powTen_eq]
    positivity
  rw [floatOfDecimal, if_neg (by omega), if_neg (by omega), floatOfRatio,
    bitsOfRatio_of_covers hf hm hnum hden (hquot ▸ h)]

/-! ## The parts of a float -/

/-- A float is its sign and its magnitude. -/
theorem floatOfBits_magnitudeBits (x : Double) :
    floatOfBits (decide (signBit ≤ x.bits.toNat)) (magnitudeBits x) = x := by
  have hlt : x.bits.toNat < 2 * signBit := x.bits.toNat_lt
  have hbits : (if decide (signBit ≤ x.bits.toNat) = true then signBit + magnitudeBits x
      else magnitudeBits x) = x.bits.toNat := by
    rw [magnitudeBits]
    by_cases hsign : signBit ≤ x.bits.toNat
    · rw [if_pos (decide_eq_true hsign), Nat.mod_eq_sub_mod hsign, Nat.mod_eq_of_lt (by omega)]
      omega
    · rw [if_neg (by simpa using hsign), Nat.mod_eq_of_lt (by omega)]
  rw [floatOfBits, hbits, UInt64.ofNat_toNat]

/-- **The parts of a float determine it**, unless it is no number. -/
theorem ofDouble_cases (x : Double) :
    (∃ negative m e, Binary.ofDouble x = .finite negative m e ∧ IsFloat m e ∧
      floatOfBits negative (finiteBits m e) = x ∧ isNaN x = false) ∨
    (∃ negative, Binary.ofDouble x = .infinite negative ∧ infinity negative = x ∧
      isNaN x = false) ∨
    (Binary.ofDouble x = .nan ∧ isNaN x = true) := by
  have hwhole := floatOfBits_magnitudeBits x
  generalize hsign : decide (signBit ≤ x.bits.toNat) = negative at hwhole
  have hmagnitude : magnitudeBits x =
      x.bits.toNat / 2 ^ 52 % 2 ^ 11 * 2 ^ 52 + x.bits.toNat % 2 ^ 52 := by
    rw [magnitudeBits, signBit]
    omega
  have hfield : x.bits.toNat / 2 ^ 52 % 2 ^ 11 < 2 ^ 11 := Nat.mod_lt _ (by decide)
  have hfraction : x.bits.toNat % 2 ^ 52 < 2 ^ 52 := Nat.mod_lt _ (by decide)
  simp only [Binary.ofDouble, powTwo_eq, fractionBits, minExponent, hsign, isNaN,
    decide_eq_true_eq, decide_eq_false_iff_not]
  generalize x.bits.toNat / 2 ^ 52 % 2 ^ 11 = field at hmagnitude hfield ⊢
  generalize x.bits.toNat % 2 ^ 52 = fraction at hmagnitude hfraction ⊢
  by_cases hspecial : field = 2047
  · rw [if_pos hspecial]
    by_cases hzero : fraction = 0
    · have hbits : magnitudeBits x = infinityBits := by
        rw [infinityBits]
        omega
      rw [if_pos hzero]
      refine .inr (.inl ⟨negative, rfl, ?_, by omega⟩)
      rw [infinity, ← hbits, hwhole]
    · rw [if_neg hzero]
      refine .inr (.inr ⟨rfl, ?_⟩)
      rw [infinityBits]
      omega
  · rw [if_neg hspecial]
    have hfinite : ¬ infinityBits < magnitudeBits x := by
      rw [infinityBits]
      omega
    by_cases hzero : field = 0
    · have hbits : finiteBits fraction (-1074) = magnitudeBits x := by
        rw [finiteBits]
        omega
      rw [if_pos hzero]
      refine .inl ⟨negative, _, _, rfl, ⟨?_, ?_, ?_, .inl rfl⟩, hbits ▸ hwhole, hfinite⟩
      all_goals omega
    · have hbits : finiteBits (2 ^ 52 + fraction) (field + -1074 - 1) = magnitudeBits x := by
        rw [finiteBits]
        omega
      rw [if_neg hzero]
      refine .inl ⟨negative, _, _, rfl, ⟨?_, ?_, ?_, .inr ?_⟩, hbits ▸ hwhole, hfinite⟩
      all_goals omega

end SmallLisp.Number
