import SmallLisp.Proofs.Gathering

/-!
# The lines of all forms

Forms are gathered one after another, each from the lines that the one before it leaves, until the
input ends before a form is complete. This cuts the lines into consecutive groups, the lines of the
forms, and lines that stay open to the end of the input. No line is lost or taken twice, and only
those that stay open are in no form.

## Main definitions

* `Gathers`: forms gathered one after another, and the prompts for them
* `callPrompts`: the prompts for the lines of one form

## Main results

* `gatherForm_cases`: what becomes of the lines when one form is gathered
* `gathers_iff`: `gatherForms` gathers forms one after another
* `Gathers.exists_groups`: the groups of lines that are gathered
* `forms_partition_lines`: the texts and the prompts are those of groups of lines
-/

namespace SmallLisp

/-- Forms are gathered from the lines one after another, until the input ends before one is
complete: the texts of the forms, and all prompts that are given, those at the end included. -/
inductive Gathers : List String → List String → List String → Prop
  | ended {lines : List String} (form : (gatherForm lines).form = none) :
      Gathers lines [] (gatherForm lines).prompts
  | next {lines rest texts prompts : List String} {text : String}
      (form : (gatherForm lines).form = some (text, rest)) (others : Gathers rest texts prompts) :
      Gathers lines (text :: texts) ((gatherForm lines).prompts ++ prompts)

/-- The prompts for `n` calls in a row that ask for the lines of one form. -/
def callPrompts : Nat → List String
  | 0 => []
  | n + 1 => mainPrompt :: List.replicate n continuationPrompt

/-! ## One form -/

/-- What becomes of the lines when one form is gathered: all stay open, or the first are those of
the form and all others are left. -/
theorem gatherForm_cases (lines : List String) :
    (OpenLines lines ∧ gatherForm lines = ⟨none, callPrompts (lines.length + 1)⟩) ∨
    ∃ group rest, lines = group ++ rest ∧ FormLines group ∧
      gatherForm lines = ⟨some (joinLines group, rest), callPrompts group.length⟩ := by
  rcases gatherFrom_cases lines openLines_nil with
    ⟨hopen, heq⟩ | ⟨line, read, rest, hlines, hform, heq⟩
  · exact .inl ⟨hopen, heq⟩
  · exact .inr ⟨line :: read, rest, hlines, hform, heq⟩

/-! ## One form after another -/

/-- Gathering all forms begins with gathering one. -/
theorem gatherAllFrom_eq (gathered lines : List String) :
    gatherAllFrom gathered lines =
      match (gatherFrom gathered lines).form with
      | none => ⟨[], (gatherFrom gathered lines).prompts⟩
      | some (text, rest) => ⟨text :: (gatherForms rest).forms,
          (gatherFrom gathered lines).prompts ++ (gatherForms rest).prompts⟩ := by
  induction lines generalizing gathered with
  | nil => rfl
  | cons line lines ih =>
    simp only [gatherAllFrom, gatherFrom]
    cases completeForm? (gathered ++ [line]) with
    | some text => rfl
    | none =>
      simp only [ih]
      cases (gatherFrom (gathered ++ [line]) lines).form <;> rfl

section Gathers

variable {lines texts prompts : List String}

theorem Gathers.eq_gatherForms (h : Gathers lines texts prompts) :
    gatherForms lines = ⟨texts, prompts⟩ := by
  induction h with
  | ended form =>
    rw [gatherForm] at form
    rw [gatherForms, gatherAllFrom_eq, form, gatherForm]
  | next form _ ih =>
    rw [gatherForm] at form
    rw [gatherForms, gatherAllFrom_eq, form, gatherForm]
    simp only [ih]

/-- The lines run out, as every form takes at least one. -/
theorem gathers_gatherForms (lines : List String) :
    Gathers lines (gatherForms lines).forms (gatherForms lines).prompts := by
  -- by the number of lines, which is smaller for those that a form leaves
  induction hn : lines.length using Nat.strongRecOn generalizing lines with
  | ind n ih =>
    suffices h : ∃ texts prompts, Gathers lines texts prompts by
      obtain ⟨texts, prompts, h⟩ := h
      rw [h.eq_gatherForms]
      exact h
    rcases gatherForm_cases lines with ⟨-, heq⟩ | ⟨group, rest, rfl, hform, heq⟩
    · exact ⟨_, _, .ended (by rw [heq])⟩
    · have hshorter : rest.length < n := by
        have hpos := List.length_pos_of_ne_nil hform.ne_nil
        rw [← hn, List.length_append]
        omega
      exact ⟨_, _, .next (by rw [heq]) (ih rest.length hshorter rest rfl)⟩

/-- **`gatherForms` gathers forms one after another.** -/
theorem gathers_iff : Gathers lines texts prompts ↔ gatherForms lines = ⟨texts, prompts⟩ := by
  constructor
  · exact Gathers.eq_gatherForms
  · intro h
    have hgathers := gathers_gatherForms lines
    rwa [h] at hgathers

/-- **The groups of lines that are gathered.** Each call takes the lines of one form off the input,
and the last takes those that stay open. -/
theorem Gathers.exists_groups (h : Gathers lines texts prompts) :
    ∃ (groups : List (List String)) (dropped : List String), lines = groups.flatten ++ dropped ∧
      (∀ group ∈ groups, FormLines group) ∧ OpenLines dropped ∧ texts = groups.map joinLines ∧
      prompts = groups.flatMap (callPrompts ·.length) ++ callPrompts (dropped.length + 1) := by
  induction h with
  | @ended lines form =>
    rcases gatherForm_cases lines with ⟨hopen, heq⟩ | ⟨group, rest, rfl, -, heq⟩
    · exact ⟨[], lines, rfl, by simp, hopen, rfl, by rw [heq]; rfl⟩
    · rw [heq] at form
      cases form
  | @next lines rest texts prompts text form _ ih =>
    obtain ⟨groups, dropped, rfl, hgroups, hopen, rfl, rfl⟩ := ih
    rcases gatherForm_cases lines with ⟨-, heq⟩ | ⟨group, rest, rfl, hform, heq⟩
    · rw [heq] at form
      cases form
    · rw [heq] at form ⊢
      cases form
      refine ⟨group :: groups, dropped, ?_, ?_, hopen, rfl, ?_⟩
      · rw [List.flatten_cons, List.append_assoc]
      · exact List.forall_mem_cons.mpr ⟨hform, hgroups⟩
      · rw [List.flatMap_cons, List.append_assoc]

end Gathers

/-- **Forms that are gathered one after another partition the lines.** The lines are cut into groups
and lines that are dropped. The texts are the groups, put together. Nothing is open after a group,
and something is after each line within it and after each line that is dropped. The first call for
the lines of a group gives the prompt for a new form, and each later one the prompt for more lines.
The same holds for the lines that are dropped, with one call more, at the end of the input. -/
theorem forms_partition_lines (lines : List String) :
    ∃ (groups : List (List String)) (dropped : List String), lines = groups.flatten ++ dropped ∧
      (∀ group ∈ groups, FormLines group) ∧ OpenLines dropped ∧
      (∀ texts prompts, Gathers lines texts prompts ↔ texts = groups.map joinLines ∧
        prompts = groups.flatMap (callPrompts ·.length) ++ callPrompts (dropped.length + 1)) ∧
      gatherForms lines = ⟨groups.map joinLines,
        groups.flatMap (callPrompts ·.length) ++ callPrompts (dropped.length + 1)⟩ := by
  obtain ⟨groups, dropped, hlines, hgroups, hopen, htexts, hprompts⟩ :=
    (gathers_gatherForms lines).exists_groups
  have hforms : gatherForms lines = ⟨groups.map joinLines,
      groups.flatMap (callPrompts ·.length) ++ callPrompts (dropped.length + 1)⟩ := by
    rw [← htexts, ← hprompts]
  refine ⟨groups, dropped, hlines, hgroups, hopen, fun texts prompts => ?_, hforms⟩
  rw [gathers_iff, hforms, Gatherings.mk.injEq]
  exact and_congr eq_comm eq_comm

/-- A form over two lines, a blank line, a line that closes too much, and two lines that stay
open. -/
example :
    let g := gatherForms ["(+ 1", "2)", "", ") (", "(f", "1"]
    g.forms = ["(+ 1\n2)", "", ") ("] ∧
      g.prompts = callPrompts 2 ++ callPrompts 1 ++ callPrompts 1 ++ callPrompts 3 := by
  decide +kernel

end SmallLisp
