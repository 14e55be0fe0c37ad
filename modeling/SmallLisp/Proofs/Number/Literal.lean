import SmallLisp.Number.Literal
import SmallLisp.Proofs.Number.Shortest

/-!
# The texts of numbers read back

The text of an integer is read as the integer, and the text of a float as the float and never as an
integer. A float is written in digits with a point or an exponent. This form is stated on its own,
so that it stands between writing and reading: every text of a float has the form, and every text of
the form is read as the decimal that it stands for.

## Main definitions

* `ExponentText`, `DecimalText`: the form of a decimal in digits, and what it stands for
* `plainNaN`: a float, with what is no number in its only written form

## Main results

* `decimalText_decimal`: a decimal is written in the form
* `DecimalText.exists_decimal?_eq`: a text of the form is read as what it stands for
* `float?_floatText`, `int?_floatText`: the text of a float is read as the float
* `int?_toString`: the text of an integer is read as the integer
* `intText?_of_int?`: an integer that is read can be written
-/

namespace SmallLisp.Number

/-! ## Digits -/

/-- The first digits count for as many powers of ten as there are digits after them. -/
theorem digitsValue_append (cs ds : List Char) :
    digitsValue (cs ++ ds) = 10 ^ ds.length * digitsValue cs + digitsValue ds := by
  have happend : digitsValue (cs ++ ds) = Nat.ofDigitChars 10 ds (digitsValue cs) :=
    Nat.ofDigitChars_append 0
  rw [happend]
  exact Nat.ofDigitChars_eq_ofDigitChars_zero

theorem digitsValue_replicate_zero (n : Nat) : digitsValue (List.replicate n '0') = 0 :=
  Nat.ofDigitChars_replicate_zero

theorem digitsValue_toDigits (n : Nat) : digitsValue (Nat.toDigits 10 n) = n :=
  Nat.ofDigitChars_toDigits (by decide) (by decide)

theorem isDigit_of_mem_toDigits {n : Nat} {c : Char} (h : c ∈ Nat.toDigits 10 n) :
    c.isDigit = true :=
  Nat.isDigit_of_mem_toDigits (by decide) (by decide) h

theorem isDigit_of_mem_replicate_zero {n : Nat} {c : Char} (h : c ∈ List.replicate n '0') :
    c.isDigit = true := by
  rw [List.eq_of_mem_replicate h]
  rfl

theorem isDigit_iff {c : Char} : c.isDigit = true ↔ 48 ≤ c.toNat ∧ c.toNat ≤ 57 := by
  simp only [Char.isDigit, ge_iff_le, Bool.and_eq_true, decide_eq_true_eq, UInt32.le_iff_toNat_le]
  exact Iff.rfl

/-- A number is less than the power of ten with as many zeros as it has digits. -/
theorem digitsValue_lt {cs : List Char} (h : ∀ c ∈ cs, c.isDigit = true) :
    digitsValue cs < 10 ^ cs.length := by
  induction cs with
  | nil => exact Nat.one_pos
  | cons c cs ih =>
    rw [List.forall_mem_cons] at h
    have hvalue : digitsValue (c :: cs) = 10 ^ cs.length * (c.toNat - 48) + digitsValue cs := by
      have happend := digitsValue_append [c] cs
      rw [List.singleton_append] at happend
      rw [happend, digitsValue]
      simp
    have hc : c.toNat - 48 ≤ 9 := by
      have hdigit := isDigit_iff.mp h.1
      omega
    rw [hvalue, List.length_cons, Nat.pow_succ]
    have hmul := Nat.mul_le_mul_left (10 ^ cs.length) hc
    have hlt := ih h.2
    omega

/-- The digits in front of a text that does not begin with a digit. -/
theorem takeWhile_isDigit_append {ds cs : List Char} (hds : ∀ c ∈ ds, c.isDigit = true)
    (hcs : ∀ c ∈ cs.head?, c.isDigit = false) :
    (ds ++ cs).takeWhile Char.isDigit = ds ∧ (ds ++ cs).dropWhile Char.isDigit = cs := by
  rw [List.takeWhile_append_of_pos hds, List.dropWhile_append_of_pos hds]
  cases cs with
  | nil => simp
  | cons c cs =>
    have hc : c.isDigit = false := hcs c rfl
    simp [hc]

/-! ## Literals in plain characters -/

/-- The characters of written numbers. -/
def isLiteralChar (c : Char) : Bool :=
  c.isDigit || ['.', 'e', '+', '-', 'i', 'n', 'f', 'a'].contains c

theorem isLiteralChar_of_isDigit {c : Char} (h : c.isDigit = true) : isLiteralChar c = true := by
  rw [isLiteralChar, h, Bool.true_or]

/-- Characters of written numbers are plain, and neither blanks nor underscores nor parentheses. -/
theorem plain_of_isLiteralChar {c : Char} (h : isLiteralChar c = true) :
    plainChar c = c ∧ isSpace c = false ∧ c ≠ '_' ∧ Text.isBlank c = false ∧ c ≠ '(' ∧ c ≠ ')' := by
  rw [isLiteralChar, Bool.or_eq_true] at h
  rcases h with h | h
  · rw [isDigit_iff] at h
    have hspace : isSpace c = false := by
      rw [isSpace, Bool.or_eq_false_iff]
      refine ⟨?_, by simp; omega⟩
      simp only [beq_eq_false_iff_ne, ne_eq]
      rintro rfl
      simp at h
    have hne (d : Char) (hd : ¬ (48 ≤ d.toNat ∧ d.toNat ≤ 57)) : c ≠ d := by
      rintro rfl
      exact hd h
    refine ⟨if_pos (by omega), hspace, hne _ (by decide), ?_, hne _ (by decide), hne _ (by decide)⟩
    simp only [Text.isBlank, Bool.or_eq_false_iff, Bool.and_eq_false_iff, decide_eq_false_iff_not,
      beq_eq_false_iff_ne]
    omega
  · simp only [List.contains_eq_mem, List.mem_cons, List.not_mem_nil, or_false,
      decide_eq_true_eq] at h
    rcases h with rfl | rfl | rfl | rfl | rfl | rfl | rfl | rfl
    all_goals decide

theorem dropWhile_of_forall {p : Char → Bool} {cs : List Char} (h : ∀ c ∈ cs, p c = false) :
    cs.dropWhile p = cs := by
  cases cs with
  | nil => rfl
  | cons c cs => rw [List.dropWhile_cons, h c (.head _), if_neg Bool.false_ne_true]

/-- Without underscores, digits are grouped well. -/
theorem wellGrouped_of_notMem {cs : List Char} (h : ∀ c ∈ cs, c ≠ '_') (afterDigit : Bool) :
    wellGrouped afterDigit cs = true := by
  induction cs generalizing afterDigit with
  | nil => rfl
  | cons c cs ih =>
    rw [List.forall_mem_cons] at h
    unfold wellGrouped
    rw [if_neg h.1]
    exact ih h.2 c.isDigit

/-- Nothing is dropped from a text in the characters of written numbers. -/
theorem ungrouped?_trimmed {cs : List Char} (h : ∀ c ∈ cs, isLiteralChar c = true) :
    ungrouped? (trimmed (String.ofList cs)) = some cs := by
  have hplain : cs.map plainChar = cs :=
    (List.map_congr_left fun c hc => (plain_of_isLiteralChar (h c hc)).1).trans (List.map_id cs)
  have hspace : ∀ c ∈ cs, isSpace c = false := fun c hc => (plain_of_isLiteralChar (h c hc)).2.1
  have hmark : ∀ c ∈ cs, c ≠ '_' := fun c hc => (plain_of_isLiteralChar (h c hc)).2.2.1
  have htrimmed : trimmed (String.ofList cs) = cs := by
    have hreverse : ∀ c ∈ cs.reverse, isSpace c = false := fun c hc =>
      hspace c (List.mem_reverse.mp hc)
    rw [trimmed, String.toList_ofList, hplain, dropWhile_of_forall hspace,
      dropWhile_of_forall hreverse, List.reverse_reverse]
  rw [htrimmed, ungrouped?, if_pos (wellGrouped_of_notMem hmark false), Option.some_inj,
    List.filter_eq_self]
  exact fun c hc => bne_iff_ne.mpr (hmark c hc)

theorem signed_of_isDigit {c : Char} (h : c.isDigit = true) (cs : List Char) :
    signed (c :: cs) = (false, c :: cs) := by
  unfold signed
  split
  · rename_i heq
    cases heq
    cases h
  · rename_i heq
    cases heq
    cases h
  · rfl

/-! ## Decimals in digits -/

/-- The exponent of a decimal, and how it is written after the digits. -/
inductive ExponentText : Int → List Char → Prop
  | none : ExponentText 0 []
  | positive {ds : List Char} (hne : ds ≠ []) (hds : ∀ c ∈ ds, c.isDigit = true) :
      ExponentText (digitsValue ds) ('e' :: '+' :: ds)
  | negative {ds : List Char} (hne : ds ≠ []) (hds : ∀ c ∈ ds, c.isDigit = true) :
      ExponentText (-digitsValue ds) ('e' :: '-' :: ds)

/-- A decimal in digits with a point, an exponent or both, and the rational that it stands for. -/
inductive DecimalText : ℚ → List Char → Prop
  | point {whole fraction suffix : List Char} {e : Int} (hne : whole ≠ [])
      (hwhole : ∀ c ∈ whole, c.isDigit = true) (hfraction : ∀ c ∈ fraction, c.isDigit = true)
      (hsuffix : ExponentText e suffix) :
      DecimalText (digitsValue (whole ++ fraction) * 10 ^ (e - fraction.length))
        (whole ++ '.' :: (fraction ++ suffix))
  | exponent {whole suffix : List Char} {e : Int} (hne : whole ≠ [])
      (hwhole : ∀ c ∈ whole, c.isDigit = true) (hsuffix : ExponentText e ('e' :: suffix)) :
      DecimalText (digitsValue whole * 10 ^ e) (whole ++ 'e' :: suffix)

namespace ExponentText

variable {e : Int} {cs : List Char}

/-- The text of an exponent is read as the exponent. -/
theorem exponent?_eq (h : ExponentText e cs) : exponent? cs = some e := by
  cases h with
  | none => rfl
  | @positive ds hne hds =>
    have hall : ds.all Char.isDigit = true := List.all_eq_true.mpr hds
    have hempty : ds.isEmpty = false := List.isEmpty_eq_false_iff.mpr hne
    simp [exponent?, signed, hall, hempty]
  | @negative ds hne hds =>
    have hall : ds.all Char.isDigit = true := List.all_eq_true.mpr hds
    have hempty : ds.isEmpty = false := List.isEmpty_eq_false_iff.mpr hne
    simp [exponent?, signed, hall, hempty]

theorem head_not_isDigit (h : ExponentText e cs) : ∀ c ∈ cs.head?, c.isDigit = false := by
  cases h with
  | none => exact nofun
  | positive => rintro c ⟨⟩; rfl
  | negative => rintro c ⟨⟩; rfl

theorem isLiteralChar (h : ExponentText e cs) : ∀ c ∈ cs, isLiteralChar c = true := by
  cases h with
  | none => exact List.forall_mem_nil _
  | positive _ hds =>
    exact List.forall_mem_cons.mpr ⟨rfl, List.forall_mem_cons.mpr
      ⟨rfl, fun c hc => isLiteralChar_of_isDigit (hds c hc)⟩⟩
  | negative _ hds =>
    exact List.forall_mem_cons.mpr ⟨rfl, List.forall_mem_cons.mpr
      ⟨rfl, fun c hc => isLiteralChar_of_isDigit (hds c hc)⟩⟩

end ExponentText

namespace DecimalText

variable {v : ℚ} {cs : List Char}

/-- **A decimal in digits is read as what it stands for.** -/
theorem exists_decimal?_eq (h : DecimalText v cs) (negative : Bool) :
    ∃ (digits width : Nat) (e : Int), (digits : ℚ) * 10 ^ e = v ∧ digits < 10 ^ width ∧
      decimal? negative cs = some (floatOfDecimal negative digits width e) := by
  cases h with
  | @point whole fraction suffix e hne hwhole hfraction hsuffix =>
    have hdigits : ∀ c ∈ whole ++ fraction, c.isDigit = true := by
      intro c hc
      rcases List.mem_append.mp hc with hc | hc
      · exact hwhole c hc
      · exact hfraction c hc
    refine ⟨_, _, _, rfl, digitsValue_lt hdigits, ?_⟩
    have hpoint : ∀ c ∈ ('.' :: (fraction ++ suffix)).head?, c.isDigit = false := by
      rintro c ⟨⟩
      rfl
    obtain ⟨htake, hdrop⟩ := takeWhile_isDigit_append hwhole hpoint
    obtain ⟨htake', hdrop'⟩ := takeWhile_isDigit_append hfraction hsuffix.head_not_isDigit
    have hempty : (whole ++ fraction).isEmpty = false := by simp [hne]
    simp [decimal?, htake, hdrop, fractionDigits, htake', hdrop', hempty, hsuffix.exponent?_eq]
  | @exponent whole suffix e hne hwhole hsuffix =>
    refine ⟨_, _, _, rfl, digitsValue_lt hwhole, ?_⟩
    obtain ⟨htake, hdrop⟩ := takeWhile_isDigit_append hwhole hsuffix.head_not_isDigit
    simp [decimal?, htake, hdrop, fractionDigits, hsuffix.exponent?_eq, hne]

theorem isLiteralChar (h : DecimalText v cs) : ∀ c ∈ cs, isLiteralChar c = true := by
  cases h with
  | point _ hwhole hfraction hsuffix =>
    intro c hc
    rcases List.mem_append.mp hc with hc | hc
    · exact isLiteralChar_of_isDigit (hwhole c hc)
    · rcases List.mem_cons.mp hc with rfl | hc
      · rfl
      · rcases List.mem_append.mp hc with hc | hc
        · exact isLiteralChar_of_isDigit (hfraction c hc)
        · exact hsuffix.isLiteralChar c hc
  | exponent _ hwhole hsuffix =>
    intro c hc
    rcases List.mem_append.mp hc with hc | hc
    · exact isLiteralChar_of_isDigit (hwhole c hc)
    · exact hsuffix.isLiteralChar c hc

theorem exists_cons (h : DecimalText v cs) : ∃ c ds, cs = c :: ds ∧ c.isDigit = true := by
  cases h with
  | @point whole fraction suffix e hne hwhole _ _ =>
    obtain ⟨c, ds, rfl⟩ := List.exists_cons_of_ne_nil hne
    exact ⟨c, _, rfl, hwhole c (.head _)⟩
  | @exponent whole suffix e hne hwhole _ =>
    obtain ⟨c, ds, rfl⟩ := List.exists_cons_of_ne_nil hne
    exact ⟨c, _, rfl, hwhole c (.head _)⟩

/-- The point or the mark of the exponent is no digit. -/
theorem all_isDigit_eq_false (h : DecimalText v cs) : cs.all Char.isDigit = false := by
  rw [List.all_eq_false]
  cases h with
  | point => exact ⟨'.', by simp, by decide⟩
  | exponent => exact ⟨'e', by simp, by decide⟩

end DecimalText

/-! ## Decimals as they are written -/

/-- Zeros in front do not change a number. -/
theorem digitsValue_paddedDigits (width n : Nat) : digitsValue (paddedDigits width n) = n := by
  simp only [paddedDigits]
  rw [digitsValue_append, digitsValue_replicate_zero, digitsValue_toDigits, Nat.mul_zero,
    Nat.zero_add]

theorem isDigit_of_mem_paddedDigits {width n : Nat} {c : Char} (h : c ∈ paddedDigits width n) :
    c.isDigit = true := by
  rcases List.mem_append.mp h with h | h
  · exact isDigit_of_mem_replicate_zero h
  · exact isDigit_of_mem_toDigits h

theorem exponentText_paddedDigits (width : Nat) (e : Int) :
    ExponentText e ('e' :: (if e < 0 then '-' else '+') :: paddedDigits width e.natAbs) := by
  have hne : paddedDigits width e.natAbs ≠ [] := by
    simp only [paddedDigits]
    exact List.append_ne_nil_of_right_ne_nil _ Nat.toDigits_ne_nil
  have hvalue := digitsValue_paddedDigits width e.natAbs
  split
  · rename_i he
    have heq : e = -(digitsValue (paddedDigits width e.natAbs) : Int) := by omega
    nth_rewrite 1 [heq]
    exact .negative hne fun c => isDigit_of_mem_paddedDigits
  · rename_i he
    have heq : e = (digitsValue (paddedDigits width e.natAbs) : Int) := by omega
    nth_rewrite 1 [heq]
    exact .positive hne fun c => isDigit_of_mem_paddedDigits

/-- Digits with the point at a given place stand for the number with as many digits before it. -/
theorem decimalText_positional {ds : List Char} (hne : ds ≠ []) (hds : ∀ c ∈ ds, c.isDigit = true)
    (point : Int) :
    DecimalText (digitsValue ds * 10 ^ (point - ds.length)) (positional ds point) := by
  have hzeros (n : Nat) : ∀ c ∈ List.replicate n '0', c.isDigit = true :=
    fun c => isDigit_of_mem_replicate_zero
  unfold positional
  split
  · rename_i hpoint
    have htext : DecimalText _ (['0'] ++ '.' :: ((List.replicate (-point).toNat '0' ++ ds) ++ [])) :=
      .point (List.cons_ne_nil _ _) (List.forall_mem_singleton.mpr rfl)
        (List.forall_mem_append.mpr ⟨hzeros _, hds⟩) .none
    have hvalue : digitsValue (['0'] ++ (List.replicate (-point).toNat '0' ++ ds)) =
        digitsValue ds := by
      rw [digitsValue_append, digitsValue_append, digitsValue_replicate_zero]
      simp [digitsValue]
    have hexp : (0 : Int) - (List.replicate (-point).toNat '0' ++ ds).length =
        point - ds.length := by
      rw [List.length_append, List.length_replicate]
      omega
    rw [hvalue, hexp, List.append_nil] at htext
    exact htext
  · rename_i hpoint
    simp only
    split
    · rename_i hlength
      have htext : DecimalText _ ((ds ++ List.replicate (point.toNat - ds.length) '0') ++
          '.' :: (['0'] ++ [])) :=
        .point (List.append_ne_nil_of_left_ne_nil hne _)
          (List.forall_mem_append.mpr ⟨hds, hzeros _⟩) (List.forall_mem_singleton.mpr rfl) .none
      have hvalue : digitsValue (ds ++ List.replicate (point.toNat - ds.length) '0' ++ ['0']) =
          digitsValue ds * 10 ^ (point.toNat - ds.length) * 10 := by
        have hzero : digitsValue ['0'] = 0 := rfl
        rw [digitsValue_append, digitsValue_append, digitsValue_replicate_zero, hzero,
          List.length_replicate, List.length_singleton]
        ring
      have hexp : point - ds.length = (point.toNat - ds.length : Nat) := by omega
      rw [hvalue] at htext
      push_cast [List.length_singleton] at htext
      rw [hexp, zpow_natCast]
      simpa using htext
    · rename_i hlength
      have htext : DecimalText _ (ds.take point.toNat ++ '.' :: (ds.drop point.toNat ++ [])) :=
        .point (by simp [hne]; omega) (fun c hc => hds c (List.mem_of_mem_take hc))
          (fun c hc => hds c (List.mem_of_mem_drop hc)) .none
      have hexp : (0 : Int) - (ds.drop point.toNat).length = point - ds.length := by
        rw [List.length_drop]
        omega
      rw [hexp, List.take_append_drop, List.append_nil] at htext
      exact htext

/-- Digits with an exponent are a text of the decimal. -/
theorem decimalText_scientific (fmt : FloatFormat) {ds : List Char} (hne : ds ≠ [])
    (hds : ∀ c ∈ ds, c.isDigit = true) (e : Int) :
    DecimalText (digitsValue ds * 10 ^ (e - (ds.length - 1 : Nat))) (scientific fmt ds e) := by
  have hsuffix := exponentText_paddedDigits fmt.exponentWidth e
  match ds with
  | [] => exact absurd rfl hne
  | [d] =>
    have htext : DecimalText _ ([d] ++ _) := .exponent (List.cons_ne_nil _ _) hds hsuffix
    simpa [scientific] using htext
  | d :: d' :: ds =>
    rw [List.forall_mem_cons] at hds
    have htext : DecimalText _ ([d] ++ '.' :: ((d' :: ds) ++ _)) :=
      .point (List.cons_ne_nil _ _) (List.forall_mem_singleton.mpr hds.1) hds.2 hsuffix
    exact htext

/-- **A decimal is written in digits** with a point or an exponent. -/
theorem decimalText_decimal (fmt : FloatFormat) (d : Decimal) :
    DecimalText d.value (fmt.decimal d) := by
  have hne : Nat.toDigits 10 d.digits ≠ [] := Nat.toDigits_ne_nil
  have hds : ∀ c ∈ Nat.toDigits 10 d.digits, c.isDigit = true := fun c => isDigit_of_mem_toDigits
  have hlength : 0 < (Nat.toDigits 10 d.digits).length := Nat.length_toDigits_pos
  have hvalue := digitsValue_toDigits d.digits
  rw [Decimal.value, FloatFormat.decimal]
  generalize Nat.toDigits 10 d.digits = ds at hne hds hlength hvalue ⊢
  split
  · have htext := decimalText_positional hne hds (ds.length + d.exponent)
    rwa [hvalue, add_sub_cancel_left] at htext
  · have htext := decimalText_scientific fmt hne hds (ds.length + d.exponent - 1)
    have hexp : (ds.length : Int) + d.exponent - 1 - (ds.length - 1 : Nat) = d.exponent := by omega
    rwa [hvalue, hexp] at htext

/-! ## Floats read back -/

/-- A text with a minus sign in front of it, or without. -/
def withMinus (negative : Bool) (cs : List Char) : List Char :=
  if negative then '-' :: cs else cs

theorem isLiteralChar_withMinus {cs : List Char} (h : ∀ c ∈ cs, isLiteralChar c = true)
    (negative : Bool) : ∀ c ∈ withMinus negative cs, isLiteralChar c = true := by
  cases negative with
  | false => exact h
  | true => exact List.forall_mem_cons.mpr ⟨rfl, h⟩

theorem signed_withMinus {c : Char} (h : c.isDigit = true) (negative : Bool) (cs : List Char) :
    signed (withMinus negative (c :: cs)) = (negative, c :: cs) := by
  cases negative with
  | false => exact signed_of_isDigit h cs
  | true => rfl

theorem toLower_of_isDigit {c : Char} (h : c.isDigit = true) : c.toLower = c := by
  rw [isDigit_iff] at h
  delta Char.toLower
  rw [dif_neg]
  simp only [ge_iff_le, UInt32.le_iff_toNat_le, not_and, not_le]
  intro hupper
  have hle : 65 ≤ c.toNat := hupper
  omega

/-- A text with a digit after its sign is read as a decimal: names of numbers do not begin with a
digit. -/
theorem float?_of_signed {cs ds : List Char} {negative : Bool} {c : Char}
    (hplain : ∀ c ∈ cs, isLiteralChar c = true) (hsigned : signed cs = (negative, c :: ds))
    (hc : c.isDigit = true) : float? (String.ofList cs) = decimal? negative (c :: ds) := by
  have hname (d : Char) (name : List Char) (hd : d.isDigit = false) :
      String.ofList ((c :: ds).map Char.toLower) ≠ String.ofList (d :: name) := by
    intro heq
    have hhead := (List.cons.inj (String.ofList_injective heq)).1
    rw [toLower_of_isDigit hc] at hhead
    rw [hhead, hd] at hc
    cases hc
  simp only [float?, ungrouped?_trimmed hplain, hsigned, Option.bind_eq_bind, Option.bind_some]
  rw [if_neg, if_neg]
  · exact hname 'n' ['a', 'n'] rfl
  · rintro (hinf | hinf)
    · exact hname 'i' ['n', 'f'] rfl hinf
    · exact hname 'i' ['n', 'f', 'i', 'n', 'i', 't', 'y'] rfl hinf

/-- The text of a decimal is read as a float. -/
theorem DecimalText.float?_eq {v : ℚ} {cs : List Char} (h : DecimalText v cs) (negative : Bool) :
    float? (String.ofList (withMinus negative cs)) = decimal? negative cs := by
  have hplain := isLiteralChar_withMinus h.isLiteralChar negative
  obtain ⟨c, ds, rfl, hc⟩ := h.exists_cons
  exact float?_of_signed hplain (signed_withMinus hc negative ds) hc

/-- The text of a decimal is not read as an integer. -/
theorem DecimalText.int?_eq_none {v : ℚ} {cs : List Char} (h : DecimalText v cs)
    (negative : Bool) : int? (String.ofList (withMinus negative cs)) = none := by
  have hplain := isLiteralChar_withMinus h.isLiteralChar negative
  have hall := h.all_isDigit_eq_false
  obtain ⟨c, ds, rfl, hc⟩ := h.exists_cons
  simp only [int?, ungrouped?_trimmed hplain, signed_withMinus hc, Option.bind_eq_bind,
    Option.bind_some, hall]
  rfl

/-- What is no number has only one text, whatever its sign. -/
def plainNaN (x : Double) : Double :=
  if isNaN x then notANumber false else x

/-- The text of a finite float is a decimal in digits that is read as the float. -/
theorem exists_decimalText {x : Double} {negative : Bool} {m : Nat} {e : Int}
    (hx : Binary.ofDouble x = .finite negative m e) (hf : IsFloat m e)
    (hbits : floatOfBits negative (finiteBits m e) = x) :
    ∃ v cs, floatText x = String.ofList (withMinus negative cs) ∧ DecimalText v cs ∧
      decimal? negative cs = some x := by
  rw [floatText, FloatFormat.text, hx]
  rcases Nat.eq_zero_or_pos m with rfl | hm
  · have htext : DecimalText _ (['0'] ++ '.' :: (['0'] ++ [])) :=
      .point (List.cons_ne_nil _ _) (List.forall_mem_singleton.mpr rfl)
        (List.forall_mem_singleton.mpr rfl) .none
    refine ⟨_, ['0', '.', '0'], rfl, htext, ?_⟩
    have he : e = -1074 := by
      have := hf.normal
      omega
    rw [← hbits, he]
    cases negative <;> rfl
  · refine ⟨_, plainFloat.decimal (shortest m e), ?_, decimalText_decimal plainFloat _, ?_⟩
    · simp only [if_neg hm.ne']
      rfl
    · obtain ⟨digits, width, k, hvalue, hwidth, hread⟩ :=
        (decimalText_decimal plainFloat (shortest m e)).exists_decimal?_eq negative
      rw [hread, floatOfDecimal_eq hf hm negative hwidth (hvalue ▸ shortest_covers hf hm), hbits]

/-- The text of a float is a decimal in digits, or the name of an infinity or of no number. -/
theorem floatText_cases (x : Double) :
    (∃ negative v cs, floatText x = String.ofList (withMinus negative cs) ∧ DecimalText v cs ∧
      decimal? negative cs = some x ∧ isNaN x = false) ∨
    floatText x = "inf" ∧ x = infinity false ∨ floatText x = "-inf" ∧ x = infinity true ∨
    floatText x = "nan" ∧ isNaN x = true := by
  rcases ofDouble_cases x with ⟨negative, m, e, hx, hf, hbits, hnan⟩ | ⟨negative, hx, hinf, -⟩ |
    ⟨hx, hnan⟩
  · obtain ⟨v, cs, htext, hdecimal, hread⟩ := exists_decimalText hx hf hbits
    exact .inl ⟨negative, v, cs, htext, hdecimal, hread, hnan⟩
  · rw [floatText, FloatFormat.text, hx]
    cases negative with
    | false => exact .inr (.inl ⟨rfl, hinf.symm⟩)
    | true => exact .inr (.inr (.inl ⟨rfl, hinf.symm⟩))
  · rw [floatText, FloatFormat.text, hx]
    exact .inr (.inr (.inr ⟨rfl, hnan⟩))

/-- **The text of a float is read as the float**, and what is no number as the positive one. -/
theorem float?_floatText (x : Double) : float? (floatText x) = some (plainNaN x) := by
  rcases floatText_cases x with ⟨negative, v, cs, htext, hdecimal, hread, hnan⟩ | ⟨htext, rfl⟩ |
    ⟨htext, rfl⟩ | ⟨htext, hnan⟩
  · rw [htext, hdecimal.float?_eq, hread, plainNaN, hnan, if_neg Bool.false_ne_true]
  · rw [htext]
    decide +kernel
  · rw [htext]
    decide +kernel
  · rw [htext, plainNaN, hnan, if_pos rfl]
    decide +kernel

/-- The text of a float is not read as an integer. -/
theorem int?_floatText (x : Double) : int? (floatText x) = none := by
  rcases floatText_cases x with ⟨negative, v, cs, htext, hdecimal, -⟩ | ⟨htext, -⟩ | ⟨htext, -⟩ |
    ⟨htext, -⟩
  · rw [htext, hdecimal.int?_eq_none]
  all_goals
    rw [htext]
    decide +kernel

/-- The text of a float is made of characters of literals. -/
theorem toList_floatText (x : Double) :
    (floatText x).toList ≠ [] ∧ ∀ c ∈ (floatText x).toList, isLiteralChar c = true := by
  rcases floatText_cases x with ⟨negative, v, cs, htext, hdecimal, -⟩ | ⟨htext, -⟩ | ⟨htext, -⟩ |
    ⟨htext, -⟩
  · rw [htext, String.toList_ofList]
    refine ⟨?_, isLiteralChar_withMinus hdecimal.isLiteralChar negative⟩
    obtain ⟨c, ds, rfl, -⟩ := hdecimal.exists_cons
    cases negative <;> exact List.cons_ne_nil _ _
  all_goals
    rw [htext]
    exact ⟨by decide +kernel, List.all_eq_true.mp (by decide +kernel)⟩

/-! ## Integers read back -/

theorem toString_int_eq (n : Int) :
    toString n = String.ofList (withMinus (n < 0) (Nat.toDigits 10 n.natAbs)) := by
  rw [Int.toString_eq_repr, Int.repr_eq_if]
  split
  · rename_i hn
    have habs : n.toNat = n.natAbs := by omega
    rw [Nat.repr_eq_ofList_toDigits, habs, decide_eq_false (by omega)]
    rfl
  · rename_i hn
    have habs : (-n).toNat = n.natAbs := by omega
    rw [Nat.repr_eq_ofList_toDigits, habs, decide_eq_true (by omega), withMinus, if_pos rfl]
    exact (String.ofList_append : String.ofList (['-'] ++ _) = _).symm

theorem toList_toString_int (n : Int) :
    (toString n).toList ≠ [] ∧ ∀ c ∈ (toString n).toList, isLiteralChar c = true := by
  rw [toString_int_eq, String.toList_ofList]
  refine ⟨?_, isLiteralChar_withMinus (fun c hc => isLiteralChar_of_isDigit
    (isDigit_of_mem_toDigits hc)) _⟩
  cases decide (n < 0)
  · exact Nat.toDigits_ne_nil
  · exact List.cons_ne_nil _ _

/-- Digits after a sign are read as the integer that they write, up to the limit on digits. -/
theorem int?_of_signed {cs ds : List Char} {negative : Bool}
    (hplain : ∀ c ∈ cs, isLiteralChar c = true) (hsigned : signed cs = (negative, ds))
    (hne : ds ≠ []) (hds : ∀ c ∈ ds, c.isDigit = true) :
    int? (String.ofList cs) = if ds.length ≤ digitLimit then
      some (if negative then -(digitsValue ds : Int) else digitsValue ds) else none := by
  have hempty : ds.isEmpty = false := List.isEmpty_eq_false_iff.mpr hne
  have hall : ds.all Char.isDigit = true := List.all_eq_true.mpr hds
  simp only [int?, ungrouped?_trimmed hplain, hsigned, Option.bind_eq_bind, Option.bind_some,
    hempty, hall, Bool.not_true, Bool.false_or, decide_eq_true_eq]
  by_cases hlength : ds.length ≤ digitLimit
  · rw [if_neg (Nat.not_lt.mpr hlength), if_pos hlength]
  · rw [if_pos (Nat.lt_of_not_le hlength), if_neg hlength]

/-- **The text of an integer is read as the integer**, up to the limit on digits. -/
theorem int?_toString {n : Int} (h : n.natAbs < powTen digitLimit) :
    int? (toString n) = some n := by
  rw [powTen_eq] at h
  have hdigits : ∀ c ∈ Nat.toDigits 10 n.natAbs, c.isDigit = true :=
    fun c => isDigit_of_mem_toDigits
  have hlength := (Nat.length_toDigits_le_iff (b := 10) (k := digitLimit) (by decide)
    (by decide)).mpr h
  have hplain := isLiteralChar_withMinus (fun c hc => isLiteralChar_of_isDigit (hdigits c hc))
    (decide (n < 0))
  have hvalue := digitsValue_toDigits n.natAbs
  rw [toString_int_eq]
  obtain ⟨c, ds, hds⟩ := List.exists_cons_of_ne_nil (Nat.toDigits_ne_nil (n := n.natAbs) (b := 10))
  rw [hds] at hdigits hlength hplain hvalue ⊢
  rw [int?_of_signed hplain (signed_withMinus (hdigits c (.head _)) _ ds) (List.cons_ne_nil _ _)
    hdigits, if_pos hlength, hvalue, Option.some_inj]
  split
  · rename_i hn
    have := of_decide_eq_true hn
    omega
  · rename_i hn
    have := mt decide_eq_true hn
    omega

/-- An integer that is read has few enough digits. -/
theorem natAbs_lt_of_int? {s : String} {n : Int} (h : int? s = some n) :
    n.natAbs < powTen digitLimit := by
  unfold int? at h
  obtain ⟨cs, -, h⟩ := Option.bind_eq_some_iff.mp h
  simp only at h
  split at h
  · cases h
  · rename_i hguard
    simp only [Bool.or_eq_true, not_or, Bool.not_eq_true', Bool.not_eq_false, decide_eq_true_eq,
      Nat.not_lt] at hguard
    obtain ⟨⟨-, hall⟩, hlength⟩ := hguard
    have hvalue : n.natAbs = digitsValue (signed cs).2 := by
      rw [Option.some_inj] at h
      split at h <;> omega
    have hlt := digitsValue_lt (List.all_eq_true.mp hall)
    have hpow : 10 ^ (signed cs).2.length ≤ 10 ^ digitLimit :=
      Nat.pow_le_pow_right (by decide) hlength
    rw [powTen_eq, hvalue]
    exact Nat.lt_of_lt_of_le hlt hpow

/-- **An integer that is read can be written**, and is read back. -/
theorem intText?_of_int? {s : String} {n : Int} (h : int? s = some n) :
    intText? n = some (toString n) ∧ int? (toString n) = some n := by
  have hlt := natAbs_lt_of_int? h
  exact ⟨if_pos hlt, int?_toString hlt⟩

end SmallLisp.Number
