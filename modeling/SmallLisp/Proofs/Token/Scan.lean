import SmallLisp.Token

/-!
# The tokens of a text, character by character

Padding parentheses and splitting at blanks gives the same tokens as one pass over the characters.
In the one pass, the tokens at the front of a text can be split off: a parenthesis, or a run of
characters of words that ends at a blank, at a parenthesis or with the text.

## Main definitions

* `Token.isDelimiter`: the characters that end a word
* `IsWord`: the texts of words
* `scanned`: the tokens of a list of characters, in one pass

## Main results

* `tokenize_eq_scanned`: tokens by padding and splitting are tokens by one pass
* `isWord_of_mem_scanned`: words are not empty and have no blanks and no parentheses
* `scanned_append_blank`: a blank separates the tokens before it from those after it
* `scanned_word`: a word in front of a delimiter is the first token
* `tokenize_joinWith`: the tokens of texts with blanks between them are the tokens of the texts
-/

namespace SmallLisp

/-- The characters that end a word: parentheses and blanks. -/
def Token.isDelimiter (c : Char) : Bool :=
  c == '(' || c == ')' || Text.isBlank c

open Token (isDelimiter)

/-- The text of a word: some characters, none of which ends a word. -/
def IsWord (w : List Char) : Prop :=
  w ≠ [] ∧ ∀ c ∈ w, isDelimiter c = false

theorem Token.isDelimiter_eq_false_iff {c : Char} :
    isDelimiter c = false ↔ c ≠ '(' ∧ c ≠ ')' ∧ Text.isBlank c = false := by
  simp only [isDelimiter, Bool.or_eq_false_iff, beq_eq_false_iff_ne, and_assoc]

/-- A word under way put in front of the tokens after it, unless it is empty. -/
def Token.push (w : List Char) (ts : List Token) : List Token :=
  if w.isEmpty then ts else .word (String.ofList w) :: ts

/-- One character read from the right: the word under way, and the tokens after it. -/
def Token.scanStep (c : Char) (r : List Char × List Token) : List Char × List Token :=
  if c = '(' then ([], .opening :: Token.push r.1 r.2)
  else if c = ')' then ([], .closing :: Token.push r.1 r.2)
  else if Text.isBlank c then ([], Token.push r.1 r.2)
  else (c :: r.1, r.2)

/-- The tokens of a list of characters, in one pass. -/
def scanned (cs : List Char) : List Token :=
  let r := cs.foldr Token.scanStep ([], [])
  Token.push r.1 r.2

/-! ## One pass -/

section OnePass

variable (cs : List Char)

@[simp] theorem scanned_nil : scanned [] = [] := rfl

@[simp] theorem scanned_opening : scanned ('(' :: cs) = .opening :: scanned cs := rfl

@[simp] theorem scanned_closing : scanned (')' :: cs) = .closing :: scanned cs := rfl

theorem scanStep_blank {c : Char} (h : Text.isBlank c = true) (r : List Char × List Token) :
    Token.scanStep c r = ([], Token.push r.1 r.2) := by
  have hopening : c ≠ '(' := by
    rintro rfl
    cases h
  have hclosing : c ≠ ')' := by
    rintro rfl
    cases h
  rw [Token.scanStep, if_neg hopening, if_neg hclosing, if_pos h]

theorem scanned_blank {c : Char} (h : Text.isBlank c = true) : scanned (c :: cs) = scanned cs := by
  simp only [scanned, List.foldr_cons, scanStep_blank h]
  rfl

/-- Tokens that follow the text come after its tokens. -/
theorem foldr_scanStep_append (ts : List Token) :
    cs.foldr Token.scanStep ([], ts) =
      ((cs.foldr Token.scanStep ([], [])).1, (cs.foldr Token.scanStep ([], [])).2 ++ ts) := by
  have hpush (w : List Char) (us : List Token) :
      Token.push w (us ++ ts) = Token.push w us ++ ts := by
    cases w <;> rfl
  induction cs with
  | nil => rfl
  | cons c cs ih =>
    rw [List.foldr_cons, ih, List.foldr_cons]
    generalize cs.foldr Token.scanStep ([], []) = r
    simp only [Token.scanStep, hpush]
    split
    · rfl
    · split
      · rfl
      · split <;> rfl

/-- **A blank separates the tokens before it from those after it.** -/
theorem scanned_append_blank {c : Char} (h : Text.isBlank c = true) (ds : List Char) :
    scanned (cs ++ c :: ds) = scanned cs ++ scanned ds := by
  have hds : (c :: ds).foldr Token.scanStep ([], []) = ([], scanned ds) := by
    rw [List.foldr_cons, scanStep_blank h]
    rfl
  rw [scanned, List.foldr_append, hds, foldr_scanStep_append]
  simp only [scanned, Token.push]
  split <;> rfl

/-- Blanks have no tokens. -/
theorem scanned_of_forall_isBlank {cs : List Char} (h : ∀ c ∈ cs, Text.isBlank c = true) :
    scanned cs = [] := by
  induction cs with
  | nil => rfl
  | cons c cs ih =>
    rw [List.forall_mem_cons] at h
    rw [scanned_blank cs h.1, ih h.2]

theorem scanStep_of_not_isDelimiter {c : Char} (h : isDelimiter c = false)
    (r : List Char × List Token) : Token.scanStep c r = (c :: r.1, r.2) := by
  obtain ⟨hopening, hclosing, hblank⟩ := Token.isDelimiter_eq_false_iff.mp h
  rw [Token.scanStep, if_neg hopening, if_neg hclosing, hblank, if_neg Bool.false_ne_true]

/-- No word is under way at a delimiter, or at the end of the text. -/
theorem fst_foldr_scanStep {cs : List Char} (h : ∀ c ∈ cs.head?, isDelimiter c = true) :
    (cs.foldr Token.scanStep ([], [])).1 = [] := by
  cases cs with
  | nil => rfl
  | cons c cs =>
    have hc := h c rfl
    simp only [isDelimiter, Bool.or_eq_true, beq_iff_eq] at hc
    rcases hc with (rfl | rfl) | hc
    · rfl
    · rfl
    · rw [List.foldr_cons, scanStep_blank hc]

/-- **A word in front of a delimiter is the first token.** -/
theorem scanned_word {w cs : List Char} (hw : IsWord w)
    (hcs : ∀ c ∈ cs.head?, isDelimiter c = true) :
    scanned (w ++ cs) = .word (String.ofList w) :: scanned cs := by
  have hend := fst_foldr_scanStep hcs
  obtain ⟨hne, hw⟩ := hw
  simp only [scanned, List.foldr_append]
  generalize cs.foldr Token.scanStep ([], []) = r at hend ⊢
  have hfold : w.foldr Token.scanStep r = (w, r.2) := by
    clear hne
    induction w with
    | nil => exact Prod.ext hend rfl
    | cons c w ih =>
      rw [List.forall_mem_cons] at hw
      rw [List.foldr_cons, ih hw.2, scanStep_of_not_isDelimiter hw.1]
  rw [hfold, hend, Token.push, List.isEmpty_eq_false_iff.mpr hne]
  rfl

/-- The word under way is a word, if it is not empty. -/
theorem isWord_of_mem_push {w : List Char} {ts : List Token} {v : String}
    (hw : ∀ c ∈ w, isDelimiter c = false) (hts : ∀ u, Token.word u ∈ ts → IsWord u.toList)
    (h : Token.word v ∈ Token.push w ts) : IsWord v.toList := by
  unfold Token.push at h
  split at h
  · exact hts v h
  · rename_i hne
    rcases List.mem_cons.mp h with heq | h
    · cases heq
      rw [String.toList_ofList]
      exact ⟨fun hnil => hne (List.isEmpty_iff.mpr hnil), hw⟩
    · exact hts v h

/-- What one pass keeps: the word under way has no delimiters, and all words are words. -/
theorem foldr_scanStep_isWord :
    (∀ c ∈ (cs.foldr Token.scanStep ([], [])).1, isDelimiter c = false) ∧
      ∀ w, Token.word w ∈ (cs.foldr Token.scanStep ([], [])).2 → IsWord w.toList := by
  induction cs with
  | nil => exact ⟨List.forall_mem_nil _, nofun⟩
  | cons c cs ih =>
    rw [List.foldr_cons]
    generalize cs.foldr Token.scanStep ([], []) = r at ih ⊢
    have hpush (v : String) : Token.word v ∈ Token.push r.1 r.2 → IsWord v.toList :=
      isWord_of_mem_push ih.1 ih.2
    unfold Token.scanStep
    split
    · refine ⟨List.forall_mem_nil _, fun v hv => ?_⟩
      rcases List.mem_cons.mp hv with heq | hv
      · cases heq
      · exact hpush v hv
    · split
      · refine ⟨List.forall_mem_nil _, fun v hv => ?_⟩
        rcases List.mem_cons.mp hv with heq | hv
        · cases heq
        · exact hpush v hv
      · split
        · exact ⟨List.forall_mem_nil _, hpush⟩
        · rename_i hopening hclosing hblank
          refine ⟨List.forall_mem_cons.mpr ⟨?_, ih.1⟩, ih.2⟩
          exact Token.isDelimiter_eq_false_iff.mpr
            ⟨hopening, hclosing, Bool.eq_false_iff.mpr hblank⟩

/-- **Words are not empty and have no delimiters.** -/
theorem isWord_of_mem_scanned {w : String} (h : Token.word w ∈ scanned cs) : IsWord w.toList := by
  obtain ⟨hunder, hwords⟩ := foldr_scanStep_isWord cs
  exact isWord_of_mem_push hunder hwords h

end OnePass

/-! ## Padding and splitting -/

theorem ofText_of_isDelimiter_eq_false {w : List Char} (h : ∀ c ∈ w, isDelimiter c = false) :
    Token.ofText (String.ofList w) = .word (String.ofList w) := by
  have hne (c : Char) (hc : isDelimiter c = true) : String.ofList w ≠ String.ofList [c] := by
    intro heq
    rw [String.ofList_injective heq] at h
    rw [h c (.head _)] at hc
    cases hc
  rw [Token.ofText, if_neg (hne '(' rfl), if_neg (hne ')' rfl)]

/-- A word in front of others, as tokens. -/
theorem map_ofText_pushWord {w : List Char} (h : ∀ c ∈ w, isDelimiter c = false)
    (ws : List (List Char)) :
    (Text.pushWord w ws).map (fun w => Token.ofText (String.ofList w)) =
      Token.push w (ws.map fun w => Token.ofText (String.ofList w)) := by
  cases w with
  | nil => rfl
  | cons c w =>
    rw [Text.pushWord_cons, List.map_cons, ofText_of_isDelimiter_eq_false h]
    rfl

/-- A character of the text, as it stands after both parentheses are set between spaces. -/
theorem pad_pad_cons (c : Char) (cs : List Char) :
    Text.pad ')' (Text.pad '(' (c :: cs)) =
      (if c = '(' ∨ c = ')' then [' ', c, ' '] else [c]) ++ Text.pad ')' (Text.pad '(' cs) := by
  rw [Text.pad_cons, Text.pad_append]
  by_cases hopening : c = '('
  · subst hopening
    rfl
  · by_cases hclosing : c = ')'
    · subst hclosing
      rfl
    · simp [hopening, hclosing, Text.pad_cons]

/-- After the same characters, splitting has the same word under way as one pass, and the same
tokens behind it. -/
theorem foldr_scanStep_eq (cs : List Char) :
    cs.foldr Token.scanStep ([], []) =
      (((Text.pad ')' (Text.pad '(' cs)).foldr Text.wordStep ([], [])).1,
        ((Text.pad ')' (Text.pad '(' cs)).foldr Text.wordStep ([], [])).2.map
          fun w => Token.ofText (String.ofList w)) := by
  induction cs with
  | nil => rfl
  | cons c cs ih =>
    have hunder := (foldr_scanStep_isWord cs).1
    rw [pad_pad_cons, List.foldr_append, List.foldr_cons]
    generalize (Text.pad ')' (Text.pad '(' cs)).foldr Text.wordStep ([], []) = r at ih ⊢
    rw [ih] at hunder ⊢
    have hpush := map_ofText_pushWord hunder r.2
    by_cases hopening : c = '('
    · subst hopening
      rw [if_pos (.inl rfl)]
      refine Prod.ext rfl (congrArg (Token.opening :: ·) hpush.symm)
    · by_cases hclosing : c = ')'
      · subst hclosing
        rw [if_pos (.inr rfl)]
        exact Prod.ext rfl (congrArg (Token.closing :: ·) hpush.symm)
      · rw [if_neg (by simp [hopening, hclosing]), Token.scanStep, if_neg hopening,
          if_neg hclosing, List.foldr_cons, List.foldr_nil, Text.wordStep]
        split
        · exact Prod.ext rfl hpush.symm
        · rfl

/-- **Tokens by padding and splitting are tokens by one pass.** -/
theorem tokenize_eq_scanned (source : String) : tokenize source = scanned source.toList := by
  have hunder := (foldr_scanStep_isWord source.toList).1
  have heq := foldr_scanStep_eq source.toList
  rw [heq] at hunder
  rw [tokenize, Text.words, scanned, heq]
  exact map_ofText_pushWord hunder _

/-- **The tokens of texts put together are the tokens of the texts**, if a blank stands between
them. -/
theorem tokenize_joinWith {sep : String} {c : Char} (hsep : sep.toList = [c])
    (hc : Text.isBlank c = true) (texts : List String) :
    tokenize (Text.joinWith sep texts) = texts.flatMap tokenize := by
  induction texts with
  | nil => rfl
  | cons t texts ih =>
    rw [List.flatMap_cons, ← ih]
    cases texts with
    | nil =>
      rw [Text.joinWith, String.intercalate_singleton]
      exact (List.append_nil _).symm
    | cons u texts =>
      have hjoin : (Text.joinWith sep (t :: u :: texts)).toList =
          t.toList ++ c :: (Text.joinWith sep (u :: texts)).toList := by
        rw [Text.joinWith, String.intercalate_cons_cons, String.toList_append,
          String.toList_append, hsep, List.append_assoc]
        rfl
      rw [tokenize_eq_scanned, hjoin, scanned_append_blank _ hc, tokenize_eq_scanned,
        tokenize_eq_scanned]

end SmallLisp
