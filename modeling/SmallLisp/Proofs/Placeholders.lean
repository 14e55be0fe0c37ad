import SmallLisp.Format
import SmallLisp.Proofs.Text.Replace

/-!
# Filling in two passes and in one

A template is a sequence of placeholders for lines, of other placeholders, and of characters at
which none begins. One pass fills it piece by piece. Of two passes, the second also sees what the
first one put in: it finds placeholders within the filling, and one across a seam, where the
template has a `~` in front of a line and the filling begins with `a`. An end of line follows the
filling, so there is no seam behind it.

## Main definitions

* `fillLines`: the first pass
* `Undisturbed`: the second pass finds the placeholders of the template and no others

## Main results

* `template_induction`: induction over the pieces of a template
* `fillChars_line`, `fillChars_plain`, `fillChars_char`: the two passes, piece by piece
* `placeholder_prefix_iff`: where the first pass makes a placeholder across a seam
* `Undisturbed.fillChars_eq`: two passes agree with one if the second finds no other placeholders
* `length_substituteChars_lt`: placeholders within the filling make two passes give more
* `fillChars_ne_of_seam`: at a seam, two passes and one give different characters
* `fillPlaceholders_eq_substitute_iff`: when two passes agree with one
-/

namespace SmallLisp

open Text

variable {template fill cs : List Char} {c : Char}

theorem placeholder_ne_nil : placeholder ≠ [] :=
  List.cons_ne_nil _ _

theorem linePlaceholder_ne_nil : linePlaceholder ≠ [] :=
  List.cons_ne_nil _ _

theorem not_line_prefix_of_not_placeholder (h : ¬ placeholder <+: cs) :
    ¬ linePlaceholder <+: cs :=
  fun hline => h (List.IsPrefix.trans ⟨['~', '%'], rfl⟩ hline)

/-! ## The pieces of a template -/

/-- What holds of the empty template, and of a template after either placeholder or after a
character at which none begins, holds of all templates. -/
theorem template_induction {motive : List Char → Prop} (nil : motive [])
    (line : ∀ cs, motive cs → motive (linePlaceholder ++ cs))
    (plain : ∀ cs, ¬ linePlaceholder <+: placeholder ++ cs → motive cs → motive (placeholder ++ cs))
    (char : ∀ c cs, ¬ placeholder <+: c :: cs → motive cs → motive (c :: cs))
    (template : List Char) : motive template := by
  -- the longer placeholder begins with the shorter one, so it is looked for first
  by_cases hline : linePlaceholder <+: template
  · obtain ⟨rest, rfl⟩ := hline
    have hlt : rest.length < (linePlaceholder ++ rest).length := by
      simp only [linePlaceholder, List.length_append, List.length_cons]
      omega
    exact line rest (template_induction nil line plain char rest)
  · by_cases hplain : placeholder <+: template
    · obtain ⟨rest, rfl⟩ := hplain
      have hlt : rest.length < (placeholder ++ rest).length := by
        simp only [placeholder, List.length_append, List.length_cons]
        omega
      exact plain rest hline (template_induction nil line plain char rest)
    · cases template with
      | nil => exact nil
      | cons c rest => exact char c rest hplain (template_induction nil line plain char rest)
termination_by template.length

/-! ### One pass -/

/-- A placeholder for a line gives the filling and a line feed. -/
theorem substituteChars_line (fill cs : List Char) :
    substituteChars fill (linePlaceholder ++ cs) = fill ++ '\n' :: substituteChars fill cs := by
  simp [linePlaceholder, substituteChars]

theorem substituteChars_plain (fill : List Char) (h : ¬ linePlaceholder <+: placeholder ++ cs) :
    substituteChars fill (placeholder ++ cs) = fill ++ substituteChars fill cs := by
  simp only [placeholder, List.cons_append, List.nil_append]
  rw [substituteChars]
  rintro rest rfl
  exact h ⟨rest, rfl⟩

theorem substituteChars_char (fill : List Char) (h : ¬ placeholder <+: c :: cs) :
    substituteChars fill (c :: cs) = c :: substituteChars fill cs := by
  rw [substituteChars]
  · rintro rest rfl rfl
    exact h ⟨_, rfl⟩
  · rintro rest rfl rfl
    exact h ⟨_, rfl⟩

/-! ### Two passes -/

/-- The first pass, which fills the placeholders for lines. -/
def fillLines (fill template : List Char) : List Char :=
  replaceAll linePlaceholder (fill ++ ['\n']) template

theorem fillChars_eq (template fill : List Char) :
    fillChars template fill = replaceAll placeholder fill (fillLines fill template) := rfl

theorem fillLines_line (fill cs : List Char) :
    fillLines fill (linePlaceholder ++ cs) = fill ++ '\n' :: fillLines fill cs := by
  rw [fillLines, replaceAll_pattern_append _ linePlaceholder_ne_nil, List.append_assoc]
  rfl

/-- The first pass keeps a character at which no placeholder for a line begins. -/
theorem fillLines_cons (fill : List Char) (h : ¬ linePlaceholder <+: c :: cs) :
    fillLines fill (c :: cs) = c :: fillLines fill cs :=
  replaceAll_cons _ h

theorem fillLines_plain (fill : List Char) (h : ¬ linePlaceholder <+: placeholder ++ cs) :
    fillLines fill (placeholder ++ cs) = placeholder ++ fillLines fill cs := by
  have hsecond : ¬ linePlaceholder <+: 'a' :: cs := by
    simp [linePlaceholder]
  simp only [placeholder, List.cons_append, List.nil_append] at h ⊢
  rw [fillLines_cons fill h, fillLines_cons fill hsecond]

/-- **A filling that stands for a line is searched by the second pass.** -/
theorem fillChars_line (fill cs : List Char) :
    fillChars (linePlaceholder ++ cs) fill =
      replaceAll placeholder fill fill ++ '\n' :: fillChars cs fill := by
  have hnewline : '\n' ∉ placeholder := by
    decide
  rw [fillChars_eq, fillLines_line, replaceAll_append_cons fill placeholder_ne_nil hnewline,
    fillChars_eq]

theorem fillChars_plain (fill : List Char) (h : ¬ linePlaceholder <+: placeholder ++ cs) :
    fillChars (placeholder ++ cs) fill = fill ++ fillChars cs fill := by
  rw [fillChars_eq, fillLines_plain fill h, replaceAll_pattern_append fill placeholder_ne_nil,
    fillChars_eq]

/-- **Where the first pass makes a placeholder**: across a seam, if the filling begins with `a` and
the template has a `~` in front of a line. -/
theorem placeholder_prefix_iff (fill : List Char) (h : ¬ placeholder <+: c :: cs) :
    placeholder <+: c :: fillLines fill cs ↔
      '~' :: linePlaceholder <+: c :: cs ∧ fill.head? = some 'a' := by
  by_cases hline : linePlaceholder <+: cs
  · obtain ⟨rest, rfl⟩ := hline
    rw [fillLines_line]
    cases fill with
    | nil => simp [placeholder]
    | cons d fill => simp [placeholder, List.cons_prefix_cons, eq_comm]
  · have hseam : ¬ '~' :: linePlaceholder <+: c :: cs := by
      rw [List.cons_prefix_cons]
      exact fun hboth => hline hboth.2
    simp only [hseam, false_and, iff_false]
    cases cs with
    | nil => simpa [fillLines] using h
    | cons d cs =>
      rw [fillLines_cons fill hline]
      simpa [placeholder, List.cons_prefix_cons] using h

/-- Two passes keep a character if no placeholder begins there, not even after the first pass. -/
theorem fillChars_char (h : ¬ placeholder <+: c :: cs)
    (hseam : ¬ placeholder <+: c :: fillLines fill cs) :
    fillChars (c :: cs) fill = c :: fillChars cs fill := by
  rw [fillChars_eq, fillLines_cons fill (not_line_prefix_of_not_placeholder h),
    replaceAll_cons fill hseam, fillChars_eq]

/-- At a seam the second pass fills a placeholder that the template does not have. -/
theorem fillChars_seam (h : ¬ placeholder <+: c :: cs)
    (hseam : placeholder <+: c :: fillLines fill cs) :
    ∃ rest, fillChars (c :: cs) fill = fill ++ rest ∧ fillChars cs fill = 'a' :: rest := by
  obtain ⟨rest, hrest⟩ := hseam
  -- without the `~` in front of it, the `a` of the filling would stay
  have hcs : fillLines fill cs = 'a' :: rest := (List.tail_eq_of_cons_eq hrest).symm
  have hnext : ¬ placeholder <+: 'a' :: rest := by
    simp [placeholder]
  refine ⟨replaceAll placeholder fill rest, ?_, ?_⟩
  · rw [fillChars_eq, fillLines_cons fill (not_line_prefix_of_not_placeholder h), ← hrest,
      replaceAll_pattern_append fill placeholder_ne_nil]
  · rw [fillChars_eq, hcs, replaceAll_cons fill hnext]

/-! ## Two passes that agree with one -/

/-- The second pass finds the placeholders of the template and no others: it changes no filling that
stands for a line, and there is no seam. -/
structure Undisturbed (template fill : List Char) : Prop where
  fill_eq : linePlaceholder <:+: template → replaceAll placeholder fill fill = fill
  no_seam : '~' :: linePlaceholder <:+: template → fill.head? ≠ some 'a'

/-- What disturbs a part of the template disturbs the template. -/
theorem Undisturbed.of_infix (h : Undisturbed template fill) (hcs : cs <:+: template) :
    Undisturbed cs fill where
  fill_eq hline := h.fill_eq (hline.trans hcs)
  no_seam hseam := h.no_seam (hseam.trans hcs)

/-- **Two passes agree with one if the second finds no other placeholders.** -/
theorem Undisturbed.fillChars_eq (h : Undisturbed template fill) :
    fillChars template fill = substituteChars fill template := by
  induction template using template_induction with
  | nil => rfl
  | line cs ih =>
    have hrest := ih (h.of_infix (List.suffix_append _ cs).isInfix)
    rw [fillChars_line, substituteChars_line, h.fill_eq (List.prefix_append _ cs).isInfix, hrest]
  | plain cs hplain ih =>
    have hrest := ih (h.of_infix (List.suffix_append _ cs).isInfix)
    rw [fillChars_plain fill hplain, substituteChars_plain fill hplain, hrest]
  | char c cs hchar ih =>
    have hrest := ih (h.of_infix (List.suffix_cons c cs).isInfix)
    have hnone : ¬ placeholder <+: c :: fillLines fill cs := by
      rw [placeholder_prefix_iff fill hchar]
      exact fun hseam => h.no_seam hseam.1.isInfix hseam.2
    rw [fillChars_char hchar hnone, substituteChars_char fill hchar, hrest]

/-! ## Two passes that differ from one -/

/-- A line of the template comes after its first placeholder, if that is none for a line. -/
theorem line_infix_of_plain (h : ¬ linePlaceholder <+: placeholder ++ cs)
    (hline : linePlaceholder <:+: placeholder ++ cs) : linePlaceholder <:+: cs := by
  rcases List.infix_cons_iff.mp hline with hline | hline
  · exact absurd hline h
  · simpa [linePlaceholder, List.infix_cons_iff] using hline

/-- A filling that is not shorter than a placeholder makes up for a seam. -/
theorem length_fillChars_char (hlen : placeholder.length ≤ fill.length)
    (h : ¬ placeholder <+: c :: cs) :
    (fillChars cs fill).length + 1 ≤ (fillChars (c :: cs) fill).length := by
  by_cases hseam : placeholder <+: c :: fillLines fill cs
  · obtain ⟨rest, hall, hcs⟩ := fillChars_seam h hseam
    rw [hall, hcs, List.length_append, List.length_cons]
    simp only [placeholder, List.length_cons, List.length_nil] at hlen
    omega
  · rw [fillChars_char h hseam, List.length_cons]

/-- A filling that is long enough for placeholders makes two passes give no less than one. -/
theorem length_substituteChars_le (hlen : placeholder.length ≤ fill.length)
    (template : List Char) :
    (substituteChars fill template).length ≤ (fillChars template fill).length := by
  induction template using template_induction with
  | nil => exact Nat.le_refl 0
  | line cs ih =>
    have hfill := length_le_length_replaceAll placeholder_ne_nil hlen fill
    simp only [substituteChars_line, fillChars_line, List.length_append, List.length_cons]
    omega
  | plain cs h ih =>
    simp only [substituteChars_plain fill h, fillChars_plain fill h, List.length_append]
    omega
  | char c cs h ih =>
    have hchar := length_fillChars_char hlen h
    rw [substituteChars_char fill h, List.length_cons]
    omega

/-- **Placeholders within the filling make two passes give more**, if there is a line and the
filling is not just a placeholder. -/
theorem length_substituteChars_lt (hlen : placeholder.length < fill.length)
    (hfill : placeholder <:+: fill) (hline : linePlaceholder <:+: template) :
    (substituteChars fill template).length < (fillChars template fill).length := by
  induction template using template_induction with
  | nil => exact absurd (List.infix_nil.mp hline) linePlaceholder_ne_nil
  | line cs ih =>
    have hfirst := length_lt_length_replaceAll placeholder_ne_nil hlen hfill
    have hrest := length_substituteChars_le hlen.le cs
    simp only [substituteChars_line, fillChars_line, List.length_append, List.length_cons]
    omega
  | plain cs h ih =>
    have hrest := ih (line_infix_of_plain h hline)
    simp only [substituteChars_plain fill h, fillChars_plain fill h, List.length_append]
    omega
  | char c cs h ih =>
    have hchar := length_fillChars_char hlen.le h
    have hnone := not_line_prefix_of_not_placeholder h
    have hrest := ih ((List.infix_cons_iff.mp hline).resolve_left hnone)
    rw [substituteChars_char fill h, List.length_cons]
    omega

/-- **At a seam two passes and one give different characters**: the one pass keeps the `~`, where
two passes give a filling that begins with `a`. -/
theorem fillChars_ne_of_seam (hfill : ¬ placeholder <:+: fill) (ha : fill.head? = some 'a')
    (hseam : '~' :: linePlaceholder <:+: template) :
    fillChars template fill ≠ substituteChars fill template := by
  induction template using template_induction with
  | nil => exact absurd (List.infix_nil.mp hseam) (List.cons_ne_nil _ _)
  | line cs ih =>
    have hrest : '~' :: linePlaceholder <:+: cs := by
      simpa [linePlaceholder, List.infix_cons_iff] using hseam
    rw [fillChars_line, substituteChars_line, replaceAll_of_not_infix fill hfill]
    intro heq
    exact ih hrest (List.tail_eq_of_cons_eq (List.append_cancel_left heq))
  | plain cs h ih =>
    have hrest : '~' :: linePlaceholder <:+: cs := by
      simpa [linePlaceholder, placeholder, List.infix_cons_iff] using hseam
    rw [fillChars_plain fill h, substituteChars_plain fill h]
    intro heq
    exact ih hrest (List.append_cancel_left heq)
  | char c cs h ih =>
    rw [substituteChars_char fill h]
    by_cases hhere : placeholder <+: c :: fillLines fill cs
    · obtain ⟨rest, hall, -⟩ := fillChars_seam h hhere
      obtain ⟨hc, -⟩ := List.cons_prefix_cons.mp hhere
      intro heq
      have hhead := congrArg List.head? (hall.symm.trans heq)
      rw [List.head?_append, ha, Option.some_or, List.head?_cons, ← hc] at hhead
      exact absurd hhead (by decide)
    · rw [fillChars_char h hhere]
      rw [placeholder_prefix_iff fill h] at hhere
      intro heq
      refine ih ((List.infix_cons_iff.mp hseam).resolve_left fun hfirst => ?_)
        (List.tail_eq_of_cons_eq heq)
      exact hhere ⟨hfirst, ha⟩

/-- **When two passes agree with one**: the template has no placeholder for a line, or the filling
is a placeholder itself, or the filling holds no placeholder and makes none together with a `~` in
front of a line. -/
theorem fillPlaceholders_eq_substitute_iff (template fill : String) :
    fillPlaceholders template fill = substitute template fill ↔
      ¬ linePlaceholder <:+: template.toList ∨ fill = "~a" ∨
        ¬ placeholder <:+: fill.toList ∧
          (fill.toList.head? ≠ some 'a' ∨ ¬ '~' :: linePlaceholder <:+: template.toList) := by
  rw [fillPlaceholders, substitute, String.ofList_inj, ← String.toList_inj]
  generalize template.toList = template
  generalize fill.toList = fill
  have hplaceholder : "~a".toList = placeholder := rfl
  rw [hplaceholder]
  constructor
  · intro heq
    by_cases hline : linePlaceholder <:+: template
    · by_cases hfill : placeholder <:+: fill
      · refine .inr (.inl (hfill.eq_of_length_le ?_).symm)
        by_contra hlen
        have hlt := length_substituteChars_lt (Nat.lt_of_not_le hlen) hfill hline
        rw [heq] at hlt
        exact absurd hlt (Nat.lt_irrefl _)
      · -- only a seam is left to tell the passes apart
        refine .inr (.inr ⟨hfill, ?_⟩)
        by_contra hboth
        rw [not_or, not_not, not_not] at hboth
        exact fillChars_ne_of_seam hfill hboth.1 hboth.2 heq
    · exact .inl hline
  · intro hcases
    have hundisturbed : Undisturbed template fill := by
      rcases hcases with hline | rfl | ⟨hfill, hseam⟩
      · have hmark := (List.suffix_cons '~' linePlaceholder).isInfix
        exact ⟨fun h => absurd h hline, fun h => absurd (hmark.trans h) hline⟩
      · exact ⟨fun _ => replaceAll_self placeholder_ne_nil _, fun _ => by decide⟩
      · refine ⟨fun _ => replaceAll_of_not_infix fill hfill, fun h => ?_⟩
        exact hseam.resolve_right fun hnone => hnone h
    exact hundisturbed.fillChars_eq

/-- The `~` and the first letter of the filling are taken for a placeholder. -/
example : fillPlaceholders "~~a~%" "ab" = "abb\n" ∧ substitute "~~a~%" "ab" = "~ab\n" := by
  decide +kernel

end SmallLisp
