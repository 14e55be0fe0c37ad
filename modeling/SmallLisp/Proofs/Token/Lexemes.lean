import Mathlib.Data.List.Basic
import Mathlib.Data.List.TakeWhile
import SmallLisp.Proofs.Token.Scan

/-!
# Lexemes

Read from left to right, a text gives a token for each parenthesis and one for each longest run of
characters that are neither parentheses nor blank. These are the tokens that padding and splitting
give. So the tokens have all characters of the text but its blanks, in order, and the texts of the
tokens with spaces between them have the same tokens again.

## Main definitions

* `lexemes`: the tokens of a list of characters, from left to right

## Main results

* `scanned_eq_lexemes`: tokens by one pass from the right are tokens from left to right
* `flatMap_text_lexemes`: tokens have all characters but blanks
* `tokenize_text`: the text of a token is that one token
* `tokenize_eq_lexemes`: tokens by padding and splitting are the tokens from left to right
-/

namespace SmallLisp

open Token (isDelimiter)

/-- The tokens of a list of characters, from left to right: a blank is skipped, a parenthesis is a
token, and any other character begins a word, which ends before the next delimiter. -/
def lexemes : List Char → List Token
  | [] => []
  | c :: cs =>
    if c = '(' then .opening :: lexemes cs
    else if c = ')' then .closing :: lexemes cs
    else if Text.isBlank c then lexemes cs
    else
      .word (String.ofList (c :: cs.takeWhile (!isDelimiter ·))) ::
        lexemes (cs.dropWhile (!isDelimiter ·))
termination_by cs => cs.length
decreasing_by
  all_goals simp only [List.length_cons]
  · omega
  · omega
  · omega
  · exact Nat.lt_succ_of_le (List.dropWhile_suffix _).length_le

/-- The longest run of characters of a word, after the first of them, is a word. -/
theorem isWord_takeWhile {c : Char} (hc : isDelimiter c = false) (cs : List Char) :
    IsWord (c :: cs.takeWhile (!isDelimiter ·)) := by
  refine ⟨List.cons_ne_nil _ _, fun d hd => ?_⟩
  rcases List.mem_cons.mp hd with rfl | hd
  · exact hc
  · simpa using List.mem_takeWhile_imp hd

/-- A delimiter, or the end of the text, comes after the longest run of characters of a word. -/
theorem isDelimiter_of_head?_dropWhile (cs : List Char) :
    ∀ c ∈ (cs.dropWhile (!isDelimiter ·)).head?, isDelimiter c = true := by
  intro c hc
  have hnot := List.head?_dropWhile_not (!isDelimiter ·) cs
  rw [Option.mem_def.mp hc] at hnot
  simpa using hnot

/-- **Tokens by one pass from the right are tokens from left to right.** -/
theorem scanned_eq_lexemes (cs : List Char) : scanned cs = lexemes cs := by
  fun_induction lexemes cs with
  | case1 => rfl
  | case2 cs ih => rw [scanned_opening, ih]
  | case3 cs _ ih => rw [scanned_closing, ih]
  | case4 c cs _ _ hblank ih => rw [scanned_blank cs hblank, ih]
  | case5 c cs hopening hclosing hblank ih =>
    have hc : isDelimiter c = false :=
      Token.isDelimiter_eq_false_iff.mpr ⟨hopening, hclosing, Bool.eq_false_iff.mpr hblank⟩
    have hrun := scanned_word (isWord_takeWhile hc cs) (isDelimiter_of_head?_dropWhile cs)
    rw [List.cons_append, List.takeWhile_append_dropWhile] at hrun
    rw [hrun, ih]

/-- **Tokens have all characters of a text but its blanks**, in order. -/
theorem flatMap_text_lexemes (cs : List Char) :
    (lexemes cs).flatMap (·.text.toList) = cs.filter (!Text.isBlank ·) := by
  fun_induction lexemes cs with
  | case1 => rfl
  | case2 cs ih =>
    rw [List.flatMap_cons, ih]
    rfl
  | case3 cs _ ih =>
    rw [List.flatMap_cons, ih]
    rfl
  | case4 c cs _ _ hblank ih => rw [ih, List.filter_cons_of_neg (by simp [hblank])]
  | case5 c cs hopening hclosing hblank ih =>
    have hc : isDelimiter c = false :=
      Token.isDelimiter_eq_false_iff.mpr ⟨hopening, hclosing, Bool.eq_false_iff.mpr hblank⟩
    have hword : (c :: cs.takeWhile (!isDelimiter ·)).filter (!Text.isBlank ·) =
        c :: cs.takeWhile (!isDelimiter ·) := by
      rw [List.filter_eq_self]
      intro d hd
      obtain ⟨-, -, hd⟩ := Token.isDelimiter_eq_false_iff.mp ((isWord_takeWhile hc cs).2 d hd)
      rw [hd, Bool.not_false]
    rw [List.flatMap_cons, ih, Token.text, String.toList_ofList, ← hword, ← List.filter_append,
      List.cons_append, List.takeWhile_append_dropWhile]

/-! ## Texts of tokens -/

/-- **The text of a token is that one token**, if words are words. -/
theorem tokenize_text {t : Token} (h : ∀ w, t = .word w → IsWord w.toList) :
    tokenize t.text = [t] := by
  rw [tokenize_eq_scanned]
  cases t with
  | opening => rfl
  | closing => rfl
  | word w =>
    have hscan : scanned (w.toList ++ []) = _ := scanned_word (h w rfl) nofun
    rwa [List.append_nil, String.ofList_toList] at hscan

section Texts

variable {source : String} {t : Token}

/-- Words have some characters, and no blanks or parentheses among them. -/
theorem isWord_of_mem_tokenize {w : String} (h : .word w ∈ tokenize source) : IsWord w.toList := by
  rw [tokenize_eq_scanned] at h
  exact isWord_of_mem_scanned _ h

theorem text_ne_empty_of_mem_tokenize (h : t ∈ tokenize source) : t.text ≠ "" := by
  cases t with
  | opening => decide
  | closing => decide
  | word w =>
    rintro rfl
    exact (isWord_of_mem_tokenize h).1 rfl

/-- The texts of the tokens of a text, with spaces between them, have the same tokens. -/
theorem tokenize_joinWith_text (source : String) :
    tokenize (Text.joinWith " " ((tokenize source).map Token.text)) = tokenize source := by
  have hone : ∀ t ∈ tokenize source, tokenize t.text = [t] := by
    rintro t ht
    refine tokenize_text fun w hw => ?_
    subst hw
    exact isWord_of_mem_tokenize ht
  rw [tokenize_joinWith (c := ' ') rfl rfl, List.flatMap_map]
  calc (tokenize source).flatMap (fun t => tokenize t.text)
      = (tokenize source).flatMap (fun t => [t]) := List.flatMap_congr hone
    _ = tokenize source := List.flatMap_singleton' _

end Texts

/-- **Tokens from left to right.** Padding parentheses and splitting at blanks gives the tokens that
are read from left to right. None of them is empty, and only a parenthesis has a parenthesis or a
blank in it. Together they have all characters of the text but its blanks, and their texts with
spaces between them have the same tokens again. -/
theorem tokenize_eq_lexemes (source : String) :
    tokenize source = lexemes source.toList ∧
      (∀ t ∈ tokenize source, t.text ≠ "") ∧
      (∀ t ∈ tokenize source, t ≠ .opening → t ≠ .closing →
        ∀ c ∈ t.text.toList, c ≠ '(' ∧ c ≠ ')' ∧ Text.isBlank c = false) ∧
      (tokenize source).flatMap (·.text.toList) = source.toList.filter (!Text.isBlank ·) ∧
      tokenize (Text.joinWith " " ((tokenize source).map Token.text)) = tokenize source := by
  have hlexemes : tokenize source = lexemes source.toList := by
    rw [tokenize_eq_scanned, scanned_eq_lexemes]
  refine ⟨hlexemes, fun t => text_ne_empty_of_mem_tokenize, ?_, ?_, tokenize_joinWith_text source⟩
  · intro t ht hopening hclosing c hc
    cases t with
    | opening => exact absurd rfl hopening
    | closing => exact absurd rfl hclosing
    | word w => exact Token.isDelimiter_eq_false_iff.mp ((isWord_of_mem_tokenize ht).2 c hc)
  · rw [hlexemes, flatMap_text_lexemes]

end SmallLisp
