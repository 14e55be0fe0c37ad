import SmallLisp.Proofs.Frame
import SmallLisp.Proofs.Number.Literal
import SmallLisp.Proofs.Token.Scan
import SmallLisp.Proofs.TokenTree
import SmallLisp.Proofs.Value.Printing

/-!
# Printed programs read back

Whatever is read from a text can be printed, and the printed text is read as the same again. A text
that is read consists of the tokens of trees. Printing writes the same trees with other words: a
number may have many texts, and only one of them is printed. Between the words of the printed text
stand blanks and parentheses, so its tokens are those of the printed trees.

## Main definitions

* `TokenTree.mapAll`: trees with other words
* `TokenTree.textAll`: the texts of trees
* `printedWord`: the word that is printed for what a word is read as
* `Value.plainNaN`: a value in which nothing that is no number has a sign

## Main results

* `exists_tokensAll_of_parseAll`: a text that is read has the tokens of trees
* `scanned_textAll`: the texts of trees have the tokens of the trees
* `atom_printedWord`: the printed word is read as the same again
* `tokenize_textAll_printed`: printed trees have the tokens of the trees with printed words
* `parseAll_printed`: printing undoes reading
-/

namespace SmallLisp

open TokenTree

/-! ## Texts that are read -/

section Success

variable {limit : Nat}

/-- If reading comes to an end after trees in an open list, these are not nested too deeply. -/
theorem depthsIn_of_readFrom (f : List TokenTree) {items : List Value} {rest : List (List Value)}
    {ts : List Token} {v : Value} (hrest : (rest.length : Int) + 1 ≤ limit)
    (h : (readFrom limit (items :: rest) (tokensAll f ++ ts)).result = .ok v) :
    DepthsIn (· ≤ (limit : Int)) (rest.length + 1) (tokensAll f) := by
  induction f using induction_forest generalizing items rest ts with
  | nil => simpa using hrest
  | leaf w f ih =>
    rw [tokensAll_leaf, List.cons_append, readFrom] at h
    simpa [Token.weight, hrest] using ih hrest h
  | node inner f ihInner ih =>
    rw [tokensAll_node, List.cons_append, List.append_assoc, List.cons_append, readFrom] at h
    split at h
    · rename_i hlt
      have hlt' : ((items :: rest).length : Int) + 1 ≤ limit := by omega
      have hinner := ihInner hlt' h
      rw [readFrom_tokensAll inner _ _ _ hinner, readFrom] at h
      have hf := ih hrest h
      simp only [List.length_cons, Nat.cast_add, Nat.cast_one] at hinner
      simp [Token.weight, hrest, hinner, hinner.start, hf]
    · cases h

/-- Trees between parentheses in front of a text that is read are not nested too deeply. -/
theorem depthsIn_of_readForm {items : List TokenTree} {ts : List Token} {v : Value}
    (h : (readForm limit (.opening :: (tokensAll items ++ ts))).result = .ok v) :
    DepthsIn (· ≤ (limit : Int)) 1 (tokensAll items) := by
  rw [readForm, readFrom] at h
  split at h
  · rename_i hlt
    have hlt' : (([] : List (List Value)).length : Int) + 1 ≤ limit := by omega
    simpa using depthsIn_of_readFrom items hlt' h
  · cases h

/-- Trees in front of a text that is read are not nested too deeply. -/
theorem depthsIn_of_readForms (f : List TokenTree) {ts : List Token} {es : List Value}
    (h : (readForms limit (tokensAll f ++ ts)).results = .ok es) :
    DepthsIn (· ≤ (limit : Int)) 0 (tokensAll f) := by
  induction f using induction_forest generalizing es with
  | nil => simp
  | leaf w f ih =>
    rw [tokensAll_leaf, List.cons_append, readForms] at h
    obtain ⟨es', hes', -⟩ := map_eq_ok_iff.mp h
    simpa [Token.weight] using ih hes'
  | node items f _ ih =>
    rw [tokensAll_node, List.cons_append, List.append_assoc, List.cons_append, readForms] at h
    cases hform : (readForm limit (.opening :: (tokensAll items ++
        .closing :: (tokensAll f ++ ts)))).result with
    | error e =>
      simp only [hform] at h
      cases h
    | ok v =>
      have hitems := depthsIn_of_readForm hform
      simp only [readForm_node _ hitems] at h
      obtain ⟨es', hes', -⟩ := map_eq_ok_iff.mp h
      simp [Token.weight, hitems, hitems.start, ih hes']

/-- What is not closed is not read. -/
theorem Unclosed.readFrom_ne_ok {ts : List Token} (h : Unclosed ts) (lists : List (List Value))
    (v : Value) : (readFrom limit lists ts).result ≠ .ok v := by
  induction h generalizing lists with
  | last f =>
    intro hread
    rw [readFrom] at hread
    split at hread
    · rename_i hlt
      rw [← List.append_nil (tokensAll f)] at hread
      have hf := depthsIn_of_readFrom f (by omega) hread
      rw [readFrom_tokensAll f _ _ _ hf, readFrom] at hread
      cases hread
    · cases hread
  | nested f _ ih =>
    intro hread
    rw [readFrom] at hread
    split at hread
    · rename_i hlt
      have hf := depthsIn_of_readFrom f (by omega) hread
      rw [readFrom_tokensAll f _ _ _ hf] at hread
      exact ih _ hread
    · cases hread

/-- **A text that is read has the tokens of trees**, which are not nested too deeply. -/
theorem exists_tokensAll_of_parseAll {source : String} {es : List Value}
    (h : parseAll limit source = .ok es) :
    ∃ f, tokenize source = tokensAll f ∧ DepthsIn (· ≤ (limit : Int)) 0 (tokensAll f) ∧
      es = valueAll f := by
  obtain ⟨f, us, hts, hus⟩ := exists_tokensAll_append (tokenize source)
  rw [parseAll, hts] at h
  have hf := depthsIn_of_readForms f h
  rw [results_readForms_tokensAll f us hf] at h
  obtain ⟨es', hes', rfl⟩ := map_eq_ok_iff.mp h
  cases hus with
  | none =>
    rw [readForms] at hes'
    cases hes'
    exact ⟨f, by rw [hts, List.append_nil], hf, List.append_nil _⟩
  | stray us =>
    rw [results_readForms_stray] at hes'
    cases hes'
  | unclosed hopen =>
    cases us with
    | nil => cases hopen
    | cons t us =>
      rw [readForms] at hes'
      cases hform : (readForm limit (t :: us)).result with
      | error e =>
        simp only [hform] at hes'
        cases hes'
      | ok v => exact absurd hform (hopen.readFrom_ne_ok [] v)

end Success

/-! ## Trees with other words -/

namespace TokenTree

mutual

/-- The tree with every word changed. -/
def map (g : String → String) : TokenTree → TokenTree
  | .leaf w => .leaf (g w)
  | .node items => .node (mapAll g items)

/-- The trees with every word changed. -/
def mapAll (g : String → String) : List TokenTree → List TokenTree
  | [] => []
  | t :: ts => map g t :: mapAll g ts

end

mutual

/-- The text of a tree: the word, or the texts of the items between parentheses. -/
def text : TokenTree → String
  | .leaf w => w
  | .node items => listText .printed (textAll items)

/-- The texts of trees. -/
def textAll : List TokenTree → List String
  | [] => []
  | t :: ts => text t :: textAll ts

end

variable (g : String → String)

@[simp] theorem mapAll_leaf (w : String) (f : List TokenTree) :
    mapAll g (.leaf w :: f) = .leaf (g w) :: mapAll g f := by
  rw [mapAll, map]

@[simp] theorem mapAll_node (items f : List TokenTree) :
    mapAll g (.node items :: f) = .node (mapAll g items) :: mapAll g f := by
  rw [mapAll, map]

/-- Other words do not change how deeply lists are nested. -/
theorem depthsIn_mapAll {P : Int → Prop} {k : Int} (f : List TokenTree) :
    DepthsIn P k (tokensAll (mapAll g f)) ↔ DepthsIn P k (tokensAll f) := by
  induction f using induction_forest generalizing k with
  | nil => rw [mapAll]
  | leaf w f ih => simp [Token.weight, ih]
  | node items f ihItems ih => simp [Token.weight, ihItems, ih]

/-- The words of trees with other words come from words of the trees. -/
theorem exists_of_word_mem_mapAll {f : List TokenTree} {w : String}
    (h : Token.word w ∈ tokensAll (mapAll g f)) : ∃ v, Token.word v ∈ tokensAll f ∧ w = g v := by
  induction f using induction_forest with
  | nil =>
    rw [mapAll, tokensAll_nil] at h
    cases h
  | leaf v f ih =>
    rw [mapAll_leaf, tokensAll_leaf] at h
    rcases List.mem_cons.mp h with heq | h
    · cases heq
      exact ⟨v, by simp, rfl⟩
    · obtain ⟨u, hu, rfl⟩ := ih h
      exact ⟨u, by simp [hu], rfl⟩
  | node items f ihItems ih =>
    simp only [mapAll_node, tokensAll_node, List.mem_cons, List.mem_append, reduceCtorEq,
      false_or] at h ⊢
    rcases h with h | h
    · obtain ⟨u, hu, rfl⟩ := ihItems h
      exact ⟨u, .inl hu, rfl⟩
    · obtain ⟨u, hu, rfl⟩ := ih h
      exact ⟨u, .inr hu, rfl⟩

end TokenTree

/-! ## The tokens of printed trees -/

/-- The texts after the first one: nothing, or a space and the texts. -/
def textsAfter : List String → List Char
  | [] => []
  | t :: ts => ' ' :: (Text.joinWith " " (t :: ts)).toList

theorem toList_joinWith_cons (t : String) (ts : List String) :
    (Text.joinWith " " (t :: ts)).toList = t.toList ++ textsAfter ts := by
  cases ts with
  | nil => rw [Text.joinWith, String.intercalate_singleton, textsAfter, List.append_nil]
  | cons u ts =>
    rw [Text.joinWith, String.intercalate_cons_cons, String.toList_append, String.toList_append,
      List.append_assoc]
    rfl

/-- Texts with spaces in front of them have the tokens of the texts with spaces between them. -/
theorem scanned_textsAfter (ts : List String) (cs : List Char) :
    scanned (textsAfter ts ++ cs) = scanned ((Text.joinWith " " ts).toList ++ cs) := by
  cases ts with
  | nil => rfl
  | cons t ts => exact scanned_blank _ rfl

theorem head?_textsAfter (ts : List String) {cs : List Char}
    (hcs : ∀ c ∈ cs.head?, Token.isDelimiter c = true) :
    ∀ c ∈ (textsAfter ts ++ cs).head?, Token.isDelimiter c = true := by
  cases ts with
  | nil => exact hcs
  | cons t ts =>
    rintro c ⟨⟩
    rfl

theorem toList_listText (ts : List String) :
    (listText .printed ts).toList = '(' :: ((Text.joinWith " " ts).toList ++ [')']) := by
  rw [listText, String.toList_append, String.toList_append]
  rfl

/-- **The texts of trees, with spaces between them, have the tokens of the trees**, if all words are
words and a delimiter follows. -/
theorem scanned_textAll (f : List TokenTree) (cs : List Char)
    (hwords : ∀ w, Token.word w ∈ tokensAll f → IsWord w.toList)
    (hcs : ∀ c ∈ cs.head?, Token.isDelimiter c = true) :
    scanned ((Text.joinWith " " (textAll f)).toList ++ cs) = tokensAll f ++ scanned cs := by
  -- what comes after a tree begins with a delimiter, so the last word of the tree ends there
  induction f using induction_forest generalizing cs with
  | nil =>
    rw [textAll, tokensAll_nil]
    rfl
  | leaf w f ih =>
    have hw : IsWord w.toList := hwords w (by simp)
    have hrest := ih cs (fun v hv => hwords v (by simp [hv])) hcs
    rw [textAll, text, toList_joinWith_cons, List.append_assoc,
      scanned_word hw (head?_textsAfter _ hcs), String.ofList_toList, scanned_textsAfter, hrest,
      tokensAll_leaf, List.cons_append]
  | node items f ihItems ih =>
    have hclosing : ∀ c ∈ (')' :: (textsAfter (textAll f) ++ cs)).head?,
        Token.isDelimiter c = true := by
      rintro c ⟨⟩
      rfl
    have hitems := ihItems _ (fun v hv => hwords v (by simp [hv])) hclosing
    have hrest := ih cs (fun v hv => hwords v (by simp [hv])) hcs
    rw [textAll, text, toList_joinWith_cons, toList_listText, List.append_assoc, List.cons_append,
      scanned_opening, List.append_assoc, List.singleton_append, hitems, scanned_closing,
      scanned_textsAfter, hrest, tokensAll_node, List.cons_append, List.append_assoc,
      List.cons_append]

/-- The texts of trees with spaces between them have the tokens of the trees. -/
theorem tokenize_textAll {f : List TokenTree}
    (hwords : ∀ w, Token.word w ∈ tokensAll f → IsWord w.toList) :
    tokenize (Text.joinWith " " (textAll f)) = tokensAll f := by
  have hscanned := scanned_textAll f [] hwords nofun
  rw [List.append_nil, scanned_nil, List.append_nil] at hscanned
  rw [tokenize_eq_scanned, hscanned]

/-- The text of a tree is read as the value of the tree. -/
theorem parseAll_text {limit : Nat} {t : TokenTree}
    (hwords : ∀ w, Token.word w ∈ tokensAll [t] → IsWord w.toList)
    (hdepths : DepthsIn (· ≤ (limit : Int)) 0 (tokensAll [t])) :
    parseAll limit t.text = .ok [value t] := by
  have htokens := tokenize_textAll hwords
  rw [textAll, textAll, Text.joinWith, String.intercalate_singleton] at htokens
  exact parseAll_of_tokensAll htokens hdepths

/-! ## Words that are printed -/

/-- The word that is printed for what a word is read as: the text of a number, or the word itself.
-/
def printedWord (w : String) : String :=
  match Number.int? w with
  | some n => toString n
  | none =>
    match Number.float? w with
    | some x => Number.floatText x
    | none => w

theorem isWord_of_isLiteralChar {w : List Char}
    (h : w ≠ [] ∧ ∀ c ∈ w, Number.isLiteralChar c = true) : IsWord w := by
  refine ⟨h.1, fun c hc => ?_⟩
  obtain ⟨-, -, -, hblank, hopening, hclosing⟩ := Number.plain_of_isLiteralChar (h.2 c hc)
  exact Token.isDelimiter_eq_false_iff.mpr ⟨hopening, hclosing, hblank⟩

/-- What is printed for a word is a word. -/
theorem isWord_printedWord {w : String} (h : IsWord w.toList) : IsWord (printedWord w).toList := by
  unfold printedWord
  cases Number.int? w with
  | some n => exact isWord_of_isLiteralChar (Number.toList_toString_int n)
  | none =>
    cases Number.float? w with
    | some x => exact isWord_of_isLiteralChar (Number.toList_floatText x)
    | none => exact h

/-- An atom has no other text than the word that is printed for it, in any room. -/
theorem eq_printedWord_of_render {w t : String} {room : Nat}
    (h : (atom w).render .printed room = .ok t) : t = printedWord w := by
  unfold atom at h
  unfold printedWord
  cases hint : Number.int? w with
  | some n =>
    simp only [hint, Value.render] at h
    split at h
    · cases h
    · rw [Value.intText_of_intText? (Number.intText?_of_int? hint).1] at h
      exact (Except.ok.inj h).symm
  | none =>
    cases hfloat : Number.float? w with
    | some x =>
      simp only [hint, hfloat, Value.render] at h
      split at h
      · cases h
      · exact (Except.ok.inj h).symm
    | none =>
      simp only [hint, hfloat, Value.render] at h
      split at h
      · cases h
      · exact (Except.ok.inj h).symm

namespace Value

mutual

/-- The value in which nothing that is no number has a sign. The sign has no text. -/
def plainNaN : Value → Value
  | .float x => .float (Number.plainNaN x)
  | .list vs => .list (plainNaNAll vs)
  | v => v

/-- The values in which nothing that is no number has a sign. -/
def plainNaNAll : List Value → List Value
  | [] => []
  | v :: vs => plainNaN v :: plainNaNAll vs

end

theorem plainNaNAll_eq_map (vs : List Value) : plainNaNAll vs = vs.map plainNaN := by
  induction vs with
  | nil => rw [plainNaNAll, List.map_nil]
  | cons v vs ih => rw [plainNaNAll, List.map_cons, ih]

end Value

/-- **The printed word is read as the same again**: numbers as equal numbers of the same kind, and
symbols as symbols. -/
theorem atom_printedWord (w : String) : atom (printedWord w) = (atom w).plainNaN := by
  unfold printedWord
  cases hint : Number.int? w with
  | some n => simp only [atom, hint, (Number.intText?_of_int? hint).2, Value.plainNaN]
  | none =>
    cases hfloat : Number.float? w with
    | some x =>
      simp only [atom, hint, hfloat, Number.int?_floatText, Number.float?_floatText,
        Value.plainNaN]
    | none => simp only [atom, hint, hfloat, Value.plainNaN]

/-! ## Printing undoes reading -/

/-- What is printed for trees, if there is room for it, are their texts with printed words. -/
theorem eq_textAll_of_renderAll {f : List TokenTree} {room : Nat} {texts : List String}
    (h : Value.renderAll .printed room (valueAll f) = .ok texts) :
    texts = textAll (mapAll printedWord f) := by
  induction f using induction_forest generalizing room texts with
  | nil =>
    rw [valueAll] at h
    rw [mapAll, textAll]
    exact (Except.ok.inj h).symm
  | leaf w f ih =>
    rw [valueAll, value, Value.renderAll_cons_eq_ok_iff] at h
    obtain ⟨t, ts, ht, hts, rfl⟩ := h
    rw [eq_printedWord_of_render ht, ih hts, mapAll_leaf, textAll, text]
  | node items f ihItems ih =>
    rw [valueAll, value, Value.renderAll_cons_eq_ok_iff] at h
    obtain ⟨t, ts, ht, hts, rfl⟩ := h
    rw [Value.render] at ht
    split at ht
    · cases ht
    · obtain ⟨inner, hinner, rfl⟩ := map_eq_ok_iff.mp ht
      rw [ihItems hinner, ih hts, mapAll_node, textAll, text]

theorem valueAll_mapAll (f : List TokenTree) :
    valueAll (mapAll printedWord f) = Value.plainNaNAll (valueAll f) := by
  induction f using induction_forest with
  | nil => rw [mapAll, valueAll, Value.plainNaNAll]
  | leaf w f ih =>
    rw [mapAll_leaf, valueAll, valueAll, value, value, atom_printedWord, ih, Value.plainNaNAll]
  | node items f ihItems ih =>
    rw [mapAll_node, valueAll, valueAll, value, value, ihItems, ih, Value.plainNaNAll,
      Value.plainNaN]

/-- The texts of printed trees have the tokens of the printed trees: the words that are printed for
words are words. -/
theorem tokenize_textAll_printed {source : String} {f : List TokenTree}
    (h : tokenize source = tokensAll f) :
    tokenize (Text.joinWith " " (textAll (mapAll printedWord f))) =
      tokensAll (mapAll printedWord f) := by
  refine tokenize_textAll fun w hw => ?_
  obtain ⟨v, hv, rfl⟩ := exists_of_word_mem_mapAll printedWord hw
  rw [← h, tokenize_eq_scanned] at hv
  exact isWord_printedWord (isWord_of_mem_scanned _ hv)

/-- An atom that is read can be written: its integer has few enough digits. -/
theorem isProgram_atom (w : String) : (atom w).isProgram = true := by
  unfold atom
  cases hint : Number.int? w with
  | some n =>
    simp only [Value.isProgram, (Number.intText?_of_int? hint).1, Option.isSome_some]
  | none => cases Number.float? w <;> rfl

theorem isProgramAll_valueAll (f : List TokenTree) :
    Value.isProgramAll (valueAll f) = true := by
  induction f using induction_forest with
  | nil => rw [valueAll, Value.isProgramAll]
  | leaf w f ih => rw [valueAll, value, Value.isProgramAll, isProgram_atom, ih, Bool.and_self]
  | node items f ihItems ih =>
    rw [valueAll, value, Value.isProgramAll, Value.isProgram, ihItems, ih, Bool.and_self]

/-- **What is read is a program.** -/
theorem isProgram_of_parseAll {limit : Nat} {source : String} {es : List Value}
    (h : parseAll limit source = .ok es) : ∀ e ∈ es, e.isProgram = true := by
  obtain ⟨f, -, -, rfl⟩ := exists_tokensAll_of_parseAll h
  exact Value.isProgramAll_eq_true_iff.mp (isProgramAll_valueAll f)

/-- **Printed forms are read as the same again**, whatever the room that they are printed in. -/
theorem parseAll_of_printed {limit room : Nat} {source : String} {es : List Value}
    {texts : List String} (h : parseAll limit source = .ok es)
    (htexts : es.mapM (Value.print room) = .ok texts) :
    parseAll limit (Text.joinWith " " texts) = .ok (es.map Value.plainNaN) := by
  obtain ⟨f, hts, hdepths, rfl⟩ := exists_tokensAll_of_parseAll h
  have hrender : Value.renderAll .printed room (valueAll f) = .ok texts :=
    (Value.renderAll_eq_mapM _ _ _).trans htexts
  rw [eq_textAll_of_renderAll hrender, parseAll_of_tokensAll (tokenize_textAll_printed hts)
    ((depthsIn_mapAll printedWord f).mpr hdepths), valueAll_mapAll, Value.plainNaNAll_eq_map]

/-- **Printing undoes reading**, as far as there is room for it. A form of a text that is read can
be printed just if there is room for all its levels, and too little room is all that keeps it from
being printed. If there is room for all forms, the printed texts with spaces between them are read
as the same forms. Only the sign of what is no number is lost, since it has no text. -/
theorem parseAll_printed {limit : Nat} {source : String} {es : List Value}
    (h : parseAll limit source = .ok es) (room : Nat) :
    (∀ e ∈ es, (Style.printed.places * e.levels ≤ room → ∃ t, e.print room = .ok t) ∧
      (room < Style.printed.places * e.levels → e.print room = .error .stackExhausted)) ∧
    ((∀ e ∈ es, Style.printed.places * e.levels ≤ room) →
      ∃ texts, es.mapM (Value.print room) = .ok texts ∧
        parseAll limit (Text.joinWith " " texts) = .ok (es.map Value.plainNaN)) := by
  have hfills : ∀ e ∈ es, e.FillsRoom .printed :=
    fun e he => Value.fillsRoom_of_isProgram (isProgram_of_parseAll h e he)
  refine ⟨fun e he => ⟨(hfills e he).enough room, (hfills e he).lacking room⟩, fun hroom => ?_⟩
  obtain ⟨texts, htexts⟩ := exists_mapM_eq_ok fun e he => (hfills e he).enough room (hroom e he)
  exact ⟨texts, htexts, parseAll_of_printed h htexts⟩

/-- Numbers in unusual forms, one of them no number with a sign, in lists of which the innermost
items are at the third level. -/
theorem parseAll_printed_nested :
    let es : List Value := [.list [.sym ⟨"f"⟩, .int 7, .list [.float ⟨0x4025000000000000⟩]],
      .float (Number.notANumber true)]
    parseAll 2 "(f +0_7 (1_0.50)) -nan" = .ok es ∧
      (∀ e ∈ es, Style.printed.places * e.levels ≤ 9) ∧
      ∃ texts, es.mapM (Value.print 9) = .ok texts ∧
        parseAll 2 (Text.joinWith " " texts) = .ok (es.map Value.plainNaN) := by
  intro es
  let forest : List TokenTree :=
    [.node [.leaf "f", .leaf "+0_7", .node [.leaf "1_0.50"]], .leaf "-nan"]
  have htokens : tokenize "(f +0_7 (1_0.50)) -nan" = tokensAll forest ++ [] := by
    decide +kernel
  have hdepths : DepthsIn (· ≤ ((2 : Nat) : Int)) 0 (tokensAll forest) := by
    simp [forest, Token.weight]
  have hsymbol : Number.int? "f" = none ∧ Number.float? "f" = none := by decide +kernel
  have hint : Number.int? "+0_7" = some 7 := by decide +kernel
  have hfloat : Number.int? "1_0.50" = none ∧
      Number.float? "1_0.50" = some ⟨0x4025000000000000⟩ := by decide +kernel
  have hnan : Number.int? "-nan" = none ∧
      Number.float? "-nan" = some (Number.notANumber true) := by decide +kernel
  have hvalue : valueAll forest = es := by
    simp only [forest, es, valueAll, value, atom, hsymbol, hint, hfloat, hnan]
  have hread : parseAll 2 "(f +0_7 (1_0.50)) -nan" = .ok es := by
    rw [parseAll, htokens, results_readForms_tokensAll _ _ hdepths, readForms, Except.map,
      List.append_nil, hvalue]
  have hroom : ∀ e ∈ es, Style.printed.places * e.levels ≤ 9 := by decide
  exact ⟨hread, hroom, (parseAll_printed hread 9).2 hroom⟩

/-! ## Lists nested one in another -/

/-- Lists one in another, `n` of them around the innermost, which is empty. -/
def TokenTree.nested : Nat → TokenTree
  | 0 => .node []
  | n + 1 => .node [nested n]

/-- As many closing as opening parentheses, and nothing else. -/
def nestedText (n : Nat) : String :=
  String.ofList (List.replicate n '(' ++ List.replicate n ')')

/-- Nested lists are written as parentheses alone. -/
theorem TokenTree.text_nested (n : Nat) : (nested n).text = nestedText (n + 1) := by
  induction n with
  | zero => rfl
  | succ n ih =>
    apply String.toList_inj.mp
    rw [nested, text, textAll, textAll, ih, toList_listText, Text.joinWith,
      String.intercalate_singleton, nestedText, nestedText, String.toList_ofList,
      String.toList_ofList]
    calc '(' :: (List.replicate (n + 1) '(' ++ List.replicate (n + 1) ')' ++ [')'])
        = '(' :: List.replicate (n + 1) '(' ++ (List.replicate (n + 1) ')' ++ [')']) := by
          rw [List.append_assoc, List.cons_append]
      _ = List.replicate (n + 2) '(' ++ List.replicate (n + 2) ')' := by
          rw [← List.replicate_succ, ← List.replicate_succ']

/-- Each list around the innermost is one more level. -/
theorem TokenTree.levels_value_nested (n : Nat) : (value (nested n)).levels = n + 1 := by
  induction n with
  | zero => rfl
  | succ n ih => rw [nested, value, valueAll, valueAll, Value.levels, Value.levelsAll, ih,
      Value.levelsAll, Nat.max_zero]

theorem TokenTree.depthsIn_nested {limit : Int} {k : Int} {n : Nat} (h : k + n + 1 ≤ limit) :
    DepthsIn (· ≤ limit) k (tokensAll [nested n]) := by
  induction n generalizing k with
  | zero =>
    rw [nested]
    simp [Token.weight]
    omega
  | succ n ih =>
    have hinner := ih (k := k + 1) (by omega)
    rw [nested]
    simp [Token.weight, hinner]
    omega

theorem TokenTree.word_notMem_nested (w : String) (n : Nat) :
    Token.word w ∉ tokensAll [nested n] := by
  induction n with
  | zero => simp [nested]
  | succ n ih => simpa [nested] using ih

/-- Nested lists are read if there is room for them. -/
theorem parseAll_nestedText {limit n : Nat} (h : n + 1 ≤ limit) :
    parseAll limit (nestedText (n + 1)) = .ok [value (nested n)] := by
  rw [← text_nested]
  exact parseAll_text (fun w hw => absurd hw (word_notMem_nested w n)) (depthsIn_nested (by omega))

/-- Seven hundred lists one in another are read within a limit of a thousand, but within a room of a
thousand they are not printed. -/
theorem parseAll_nested_not_printed :
    ∃ e, parseAll 1000 (nestedText 700) = .ok [e] ∧ e.print 1000 = .error .stackExhausted := by
  have hread : parseAll 1000 (nestedText 700) = .ok [value (nested 699)] :=
    parseAll_nestedText (by decide)
  have hfills : (value (nested 699)).FillsRoom .printed :=
    Value.fillsRoom_of_isProgram (isProgram_of_parseAll hread _ (.head _))
  refine ⟨_, hread, hfills.lacking 1000 ?_⟩
  rw [levels_value_nested]
  decide

end SmallLisp
