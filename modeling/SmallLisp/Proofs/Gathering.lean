import SmallLisp.Proofs.FirstForm
import SmallLisp.Proofs.Runners

/-!
# Gathering the lines of a form

The prompt asks for lines as long as the depth of their tokens is positive. So something is open
after each part of the lines of a form, and nothing is after all of them. The reader decides by the
order of the parentheses. The two agree on when to stop: lines of positive depth are never a
program, and a text of another depth never ends too early, though it may close more than it opens.

## Main definitions

* `OpenLines`: something is open after each line
* `FormLines`: nothing is open after the last line, and something is after each line before it

## Main results

* `gatherFrom_cases`: what the prompt does with the lines of a form
* `formLines_of_gatherFrom`: the lines of a form that the prompt gathers
* `parseAll_cases`: how the reading of a text ends
* `gatherForm_stops_with_reader`: the prompt stops as soon as the text does not end too early
-/

namespace SmallLisp

open TokenTree

/-! ## Lines -/

/-- Something is open after each of the lines. -/
def OpenLines (lines : List String) : Prop :=
  ∀ first, first <+: lines → first ≠ [] → 0 < depth (tokenize (joinLines first))

/-- Nothing is open after the last of the lines, and something is after each line before it. -/
structure FormLines (lines : List String) : Prop where
  ne_nil : lines ≠ []
  complete : depth (tokenize (joinLines lines)) ≤ 0
  before : ∀ first, first <+: lines → first ≠ [] → first ≠ lines →
    0 < depth (tokenize (joinLines first))

section Lines

variable {gathered lines rest : List String} {line text : String}

theorem openLines_nil : OpenLines [] :=
  fun _ hfirst hne => absurd (List.prefix_nil.mp hfirst) hne

/-- The text is not complete, so the lines stay open. -/
theorem OpenLines.concat (h : OpenLines gathered)
    (hnone : completeForm? (gathered ++ [line]) = none) : OpenLines (gathered ++ [line]) := by
  intro first hfirst hne
  rcases List.prefix_concat_iff.mp hfirst with rfl | hfirst
  · simpa [completeForm?] using hnone
  · exact h first hfirst hne

/-- The text is complete, so the lines are those of a form. -/
theorem OpenLines.formLines (h : OpenLines gathered)
    (hsome : completeForm? (gathered ++ [line]) = some text) :
    text = joinLines (gathered ++ [line]) ∧ FormLines (gathered ++ [line]) := by
  simp only [completeForm?, Option.ite_none_right_eq_some, Option.some.injEq] at hsome
  obtain ⟨hcomplete, rfl⟩ := hsome
  refine ⟨rfl, by simp, hcomplete, fun first hfirst hne hall => ?_⟩
  rcases List.prefix_concat_iff.mp hfirst with rfl | hfirst
  · exact absurd rfl hall
  · exact h first hfirst hne

/-- What the prompt does with the lines of a form of which some were gathered before: they stay open
to the end of the input, or they are those of a form, and all others are left. Each call but the
first gives the prompt for more lines. -/
theorem gatherFrom_cases (lines : List String) (h : OpenLines gathered) :
    (OpenLines (gathered ++ lines) ∧ gatherFrom gathered lines =
      ⟨none, promptFor gathered :: List.replicate lines.length continuationPrompt⟩) ∨
    ∃ line read rest, lines = line :: read ++ rest ∧ FormLines (gathered ++ line :: read) ∧
      gatherFrom gathered lines = ⟨some (joinLines (gathered ++ line :: read), rest),
        promptFor gathered :: List.replicate read.length continuationPrompt⟩ := by
  induction lines generalizing gathered with
  | nil => exact .inl ⟨by rwa [List.append_nil], rfl⟩
  | cons line lines ih =>
    cases hcomplete : completeForm? (gathered ++ [line]) with
    | some text =>
      obtain ⟨rfl, hform⟩ := h.formLines hcomplete
      exact .inr ⟨line, [], lines, rfl, hform, by simp only [gatherFrom, hcomplete]; rfl⟩
    | none =>
      have hmore : promptFor (gathered ++ [line]) = continuationPrompt := by
        simp [promptFor]
      rcases ih (h.concat hcomplete) with ⟨hopen, heq⟩ | ⟨next, read, rest, rfl, hform, heq⟩
      · rw [List.append_assoc, List.singleton_append] at hopen
        refine .inl ⟨hopen, ?_⟩
        simp only [gatherFrom, hcomplete, heq, hmore]
        rfl
      · rw [List.append_assoc, List.singleton_append] at hform heq
        refine .inr ⟨line, next :: read, rest, rfl, hform, ?_⟩
        simp only [gatherFrom, hcomplete, heq, hmore]
        rfl

/-- **The prompt gathers the lines of a form**, and leaves all others. -/
theorem formLines_of_gatherFrom (h : OpenLines gathered)
    (hform : (gatherFrom gathered lines).form = some (text, rest)) :
    ∃ read, lines = read ++ rest ∧ text = joinLines (gathered ++ read) ∧
      FormLines (gathered ++ read) := by
  rcases gatherFrom_cases lines h with ⟨-, heq⟩ | ⟨line, read, rest', rfl, hlines, heq⟩
  · rw [heq] at hform
    cases hform
  · rw [heq] at hform
    cases hform
    exact ⟨line :: read, rfl, rfl, hlines⟩

end Lines

/-! ## The reader -/

theorem NestsWithin.of_prefix {limit : Nat} {ts us : List Token} (h : NestsWithin limit us)
    (hts : ts <+: us) : NestsWithin limit ts :=
  fun p hp => h p (hp.trans hts)

/-- **How the reading of a text ends**: with the values of trees, at a stray parenthesis, or with
something open. -/
theorem parseAll_cases {limit : Nat} {source : String}
    (hnest : NestsWithin limit (tokenize source)) :
    (∃ f, tokenize source = tokensAll f ∧ parseAll limit source = .ok (valueAll f)) ∨
      Fails (parseAll limit source) .mismatchedParens ∨
      (0 < depth (tokenize source) ∧ Fails (parseAll limit source) .unexpectedEnd) := by
  obtain ⟨f, us, hts, hus⟩ := exists_tokensAll_append (tokenize source)
  have hread := parseAll_of_tokens hnest hts
  cases hus with
  | none =>
    rw [readForms, Except.map, List.append_nil] at hread
    exact .inl ⟨f, by rw [hts, List.append_nil], hread⟩
  | stray us =>
    rw [results_readForms_stray, Except.map] at hread
    exact .inr (.inl (by rw [hread, fails_error]; rfl))
  | unclosed hopen =>
    have hdepths : DepthsIn (0 ≤ ·) 0 (tokensAll f ++ us) := by
      rw [depthsIn_append, depth_tokensAll]
      exact ⟨depthsIn_tokensAll (Int.le_refl 0) f, hopen.depthsIn (Int.le_refl 0)⟩
    have hall := (hts ▸ hnest).depthsIn_self hdepths
    rw [depthsIn_append, depth_tokensAll] at hall
    rw [hopen.results_readForms hall.2, Except.map] at hread
    refine .inr (.inr ⟨?_, by rw [hread, fails_error]; rfl⟩)
    rw [hts, depth_append, depth_tokensAll, Int.zero_add]
    exact hopen.depth_pos

/-- **The prompt stops with the reader.** The text that the prompt gathers is made of the lines it
takes. It never ends too early: it can be read, or it closes more than it opens. Fewer of the lines
can never be read: they end too early, or close more than they open. -/
theorem gatherForm_stops_with_reader {limit : Nat} {lines rest : List String} {text : String}
    (hform : (gatherForm lines).form = some (text, rest))
    (hnest : NestsWithin limit (tokenize text)) :
    ∃ read, lines = read ++ rest ∧ read ≠ [] ∧ text = joinLines read ∧
      ((∃ forms, parseAll limit text = .ok forms) ∨
        Fails (parseAll limit text) .mismatchedParens) ∧
      ∀ first, first <+: read → first ≠ [] → first ≠ read →
        Fails (parseAll limit (joinLines first)) .unexpectedEnd ∨
          Fails (parseAll limit (joinLines first)) .mismatchedParens := by
  obtain ⟨read, hlines, htext, hread⟩ := formLines_of_gatherFrom openLines_nil hform
  rw [List.nil_append] at htext hread
  subst htext
  refine ⟨read, hlines, hread.ne_nil, rfl, ?_, fun first hfirst hne hall => ?_⟩
  · rcases parseAll_cases hnest with ⟨f, -, hparse⟩ | hstray | ⟨hpos, -⟩
    · exact .inl ⟨valueAll f, hparse⟩
    · exact .inr hstray
    · exact absurd hread.complete (Int.not_le.mpr hpos)
  · have hprefix : tokenize (joinLines first) <+: tokenize (joinLines read) := by
      obtain ⟨others, rfl⟩ := hfirst
      rw [tokenize_joinLines, tokenize_joinLines, List.flatMap_append]
      exact List.prefix_append _ _
    have hpos := hread.before first hfirst hne hall
    rcases parseAll_cases (hnest.of_prefix hprefix) with ⟨f, hts, -⟩ | hstray | ⟨-, hend⟩
    · rw [hts, depth_tokensAll] at hpos
      exact absurd hpos (Int.lt_irrefl 0)
    · exact .inr hstray
    · exact .inl hend

/-- The depth comes back to zero after it was negative, within the second line. -/
theorem gatherForm_stops_with_reader_stray :
    let lines := ["(", ") ) ( (", ")", "1"]
    let text := "(\n) ) ( (\n)"
    (gatherForm lines).form = some (text, ["1"]) ∧ NestsWithin 1 (tokenize text) ∧
      ∃ read, lines = read ++ ["1"] ∧ read ≠ [] ∧ text = joinLines read ∧
        ((∃ forms, parseAll 1 text = .ok forms) ∨ Fails (parseAll 1 text) .mismatchedParens) ∧
        ∀ first, first <+: read → first ≠ [] → first ≠ read →
          Fails (parseAll 1 (joinLines first)) .unexpectedEnd ∨
            Fails (parseAll 1 (joinLines first)) .mismatchedParens := by
  intro lines text
  have hform : (gatherForm lines).form = some (text, ["1"]) := by
    decide +kernel
  have htokens : tokenize text = [.opening, .closing, .closing, .opening, .opening, .closing] := by
    decide +kernel
  have hnest : NestsWithin 1 (tokenize text) := by
    rw [htokens]
    exact nestsWithin_of_inits (by decide)
  exact ⟨hform, hnest, gatherForm_stops_with_reader hform hnest⟩

end SmallLisp
