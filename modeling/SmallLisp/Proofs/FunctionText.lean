import SmallLisp.Proofs.OneForm
import SmallLisp.Proofs.RoundTrip
import SmallLisp.Proofs.Value.Related

/-!
# The text of a function is its definition

A function is written as the form that defines it. The text of a function is made from its parts,
and not from that form, but it is the text that is printed for the form. So a function that was
defined by a form that was read has a text that is read as the form again, and to evaluate it again
defines a function with the same name, parameters and body.

## Main definitions

* `Definition.form`: the form of a definition
* `Definition.function`: the function that a definition makes
* `Value.hasNaN`: whether something within a value is no number
* `Store.Binds`: a symbol has a value in a scope itself

## Main results

* `parse_print`: what is printed for a form that is read is read as the form
* `Definition.print_form_of_plain_function`: the text of a function is what is printed for its form
* `Definition.evaluate_form`: what the evaluation of a definition gives and binds
* `parse_function_text`: the text of a function is read as the form that defined it
-/

namespace SmallLisp

open StoreM TokenTree

/-! ## One form is read back -/

/-- A text is read as one form just if that is the only form in it. -/
theorem parse_eq_ok_iff_parseAll {limit : Nat} {source : String} {v : Value} :
    parse limit source = .ok v ↔ parseAll limit source = .ok [v] := by
  rw [parse_eq_ok_iff, parseAll_eq_singleton_iff]

/-- **What is printed for a form that is read is read as the form.** -/
theorem parse_print {limit room : Nat} {source text : String} {v : Value}
    (h : parse limit source = .ok v) (htext : v.print room = .ok text) :
    parse limit text = .ok v.plainNaN := by
  have htexts : [v].mapM (Value.print room) = .ok [text] :=
    mapM_eq_ok_iff.mpr (.cons htext .nil)
  have hread := parseAll_of_printed (parse_eq_ok_iff_parseAll.mp h) htexts
  rw [Text.joinWith, String.intercalate_singleton] at hread
  exact parse_eq_ok_iff_parseAll.mpr hread

theorem atom_eq_sym (w : String) (h : Number.int? w = none ∧ Number.float? w = none) :
    atom w = .sym ⟨w⟩ := by
  simp only [atom, h]

/-! ## What is no number -/

namespace Value

mutual

/-- Whether something within a form is no number. -/
def hasNaN : Value → Bool
  | .float x => Number.isNaN x
  | .list vs => hasNaNAny vs
  | _ => false

/-- Whether something within several forms is no number. -/
def hasNaNAny : List Value → Bool
  | [] => false
  | v :: vs => hasNaN v || hasNaNAny vs

end

theorem hasNaNAny_eq_any (vs : List Value) : hasNaNAny vs = vs.any hasNaN := by
  induction vs with
  | nil => rw [hasNaNAny, List.any_nil]
  | cons v vs ih => rw [hasNaNAny, List.any_cons, ih]

/-- A form without anything that is no number has nothing to lose. -/
theorem plainNaN_of_hasNaN_eq_false {v : Value} (h : v.hasNaN = false) : v.plainNaN = v := by
  induction v using induction_items with
  | atom v hv =>
    cases v with
    | float x =>
      rw [hasNaN] at h
      rw [plainNaN, Number.plainNaN, h, if_neg Bool.false_ne_true]
    | list vs => cases hv
    | _ => simp only [plainNaN]
  | function id name params body scope => simp only [plainNaN]
  | list vs ih =>
    rw [hasNaN, hasNaNAny_eq_any, List.any_eq_false] at h
    have hmap : vs.map plainNaN = vs.map id :=
      List.map_congr_left fun v hv => ih v hv (Bool.eq_false_iff.mpr (h v hv))
    rw [plainNaN, plainNaNAll_eq_map, hmap, List.map_id]
  | tuple vs ih => simp only [plainNaN]

theorem plainNaN_sym (x : Symbol) : (Value.sym x).plainNaN = .sym x := by
  simp only [plainNaN]

end Value

/-! ## Definitions -/

theorem evalWithin_defun (mode : Scoping) (room : Nat) (tail : List Value) (i : ScopeId) :
    evalWithin mode (room + 1) (.list (.sym ⟨"defun"⟩ :: tail)) i =
      evalDefun mode (room - partPlaces) tail i := by
  have hspecial : SpecialForm.ofSymbol? ⟨"defun"⟩ = some .definition := rfl
  simp only [evalWithin, nestedWithin, step, evalItems, hspecial, evalSpecial]

namespace Definition

/-- The form of a definition. -/
def form (d : Definition) : Value :=
  .list [.sym ⟨"defun"⟩, .sym d.name, .list (d.params.map .sym), d.body]

/-- The function that a definition makes. -/
def function (d : Definition) (id : Nat) (scope : Option ScopeId) : Value :=
  .function id d.name d.params d.body scope

/-- The definition in whose body nothing that is no number has a sign. -/
def plainNaN (d : Definition) : Definition :=
  { d with body := d.body.plainNaN }

variable (d : Definition)

theorem plainNaN_form : d.form.plainNaN = d.plainNaN.form := by
  have hparams : (d.params.map Value.sym).map Value.plainNaN = d.params.map Value.sym := by
    rw [List.map_map]
    exact List.map_congr_left fun x _ => Value.plainNaN_sym x
  simp only [form, plainNaN, Value.plainNaN, Value.plainNaNAll_eq_map, List.map_cons, List.map_nil,
    hparams]

/-- Without anything that is no number, nothing is lost of a definition. -/
theorem plainNaN_eq_self (h : d.body.hasNaN = false) : d.plainNaN = d := by
  rw [plainNaN, Value.plainNaN_of_hasNaN_eq_false h]

theorem renderAll_params {room : Nat} (h : Style.printed.places ≤ room) :
    Value.renderAll .printed room (d.params.map .sym) = .ok (d.params.map Symbol.name) := by
  rw [Value.renderAll_eq_mapM, mapM_eq_ok_iff, List.forall₂_map_left_iff,
    List.forall₂_map_right_iff]
  exact List.forall₂_same.mpr fun x _ => Value.print_sym h x

/-- **The text of a function is what is printed for its form**, if there is room for both. -/
theorem print_form_of_plain_function {room : Nat} {id : Nat} {scope : Option ScopeId}
    {text : String} (h : (d.function id scope).plain room = .ok text) :
    d.form.print (room + 9) = .ok text := by
  obtain ⟨body, hbody, rfl⟩ := map_eq_ok_iff.mp h
  have hplaces : ∀ n, Style.printed.places ≤ n + 3 := fun n => Nat.le_add_left 3 n
  have hbody : d.body.print (room + 6) = .ok body :=
    (Value.settles_render .printed d.body).ok_of_le (by omega) hbody
  have hparams : (Value.list (d.params.map .sym)).print (room + 6) =
      .ok (listText .printed (d.params.map Symbol.name)) :=
    Value.print_list (hplaces _) (d.renderAll_params (hplaces room))
  have hitems : Value.renderAll .printed (room + 6)
      [.sym ⟨"defun"⟩, .sym d.name, .list (d.params.map .sym), d.body] =
      .ok ["defun", d.name.name, listText .printed (d.params.map Symbol.name), body] := by
    rw [Value.renderAll_eq_mapM, mapM_eq_ok_iff]
    exact .cons (Value.print_sym (hplaces _) _) (.cons (Value.print_sym (hplaces _) _)
      (.cons hparams (.cons hbody .nil)))
  refine (Value.print_list (hplaces _) hitems).trans (congrArg Except.ok ?_)
  have hopening (rest : String) : "(" ++ ("defun " ++ rest) = "(defun " ++ rest := by
    rw [← String.append_assoc]
    rfl
  have hspace (rest : String) : " " ++ ("(" ++ rest) = " (" ++ rest := by
    rw [← String.append_assoc]
    rfl
  simp [definitionText, listText, Text.joinWith, String.append_assoc, hopening, hspace]

/-- A function has a text if there is room for the levels of its body. -/
theorem exists_plain_function_of_le (h : d.body.isProgram = true) (id : Nat)
    (scope : Option ScopeId) {room : Nat}
    (hroom : definitionPlaces + Style.printed.places * d.body.levels ≤ room) :
    ∃ text, (d.function id scope).plain room = .ok text := by
  have hfills : d.body.FillsRoom .printed := Value.fillsRoom_of_isProgram h
  obtain ⟨t, ht⟩ := hfills.enough (room - definitionPlaces) (by omega)
  exact ⟨_, congrArg (Except.map _) ht⟩

/-- With less room, the text of the function cannot be made. -/
theorem plain_function_of_lt (h : d.body.isProgram = true) (id : Nat) (scope : Option ScopeId)
    {room : Nat} (hroom : room < definitionPlaces + Style.printed.places * d.body.levels) :
    (d.function id scope).plain room = .error .stackExhausted := by
  have hfills : d.body.FillsRoom .printed := Value.fillsRoom_of_isProgram h
  have hpos : 0 < Style.printed.places * d.body.levels :=
    Nat.mul_pos (by decide) d.body.levels_pos
  exact congrArg (Except.map _) (hfills.lacking (room - definitionPlaces) (by omega))

/-- **What the evaluation of a definition gives and binds**, in any store and within any room. -/
theorem evaluate_form (mode : Scoping) (room : Nat) (i : ScopeId) (s : Store) :
    evaluate mode (room + 1) d.form i s = .ok (.str (definitionNotice d.name))
      ({ s with nextId := s.nextId + 1 }.modify i
        (·.put d.name (d.function s.nextId (mode.captured i)))) := by
  have hparts : Definition.ofParts (room - partPlaces)
      [.sym d.name, .list (d.params.map .sym), d.body] = .ok d :=
    Definition.ofParts_eq_ok_iff.mpr rfl
  simp only [evaluate, form, evalWithin_defun, evalDefun, hparts]
  rfl

end Definition

/-- A definition that is evaluated without an error is one of a function. -/
theorem exists_definition_of_evaluate {mode : Scoping} {room : Nat} {tail : List Value}
    {i : ScopeId} {s : Store} {v : Value}
    (h : outcome (evaluate mode room (.list (.sym ⟨"defun"⟩ :: tail)) i) s = .ok v) :
    ∃ d : Definition, .list (.sym ⟨"defun"⟩ :: tail) = d.form := by
  cases room with
  | zero => cases h
  | succ room =>
    cases hparts : Definition.ofParts (room - partPlaces) tail with
    | ok d => exact ⟨d, by rw [Definition.ofParts_eq_ok_iff.mp hparts, Definition.form]⟩
    | error e =>
      rw [outcome_evaluate, evalWithin_defun, evalDefun, outcome_bind, hparts,
        outcome_ofResult] at h
      cases h

/-- The scope `i` itself binds `x` to `v`. -/
def Store.Binds (s : Store) (i : ScopeId) (x : Symbol) (v : Value) : Prop :=
  ∃ sc, s.scopes[i]? = some sc ∧ sc.get? x = some v

theorem Store.binds_put {s : Store} {i : ScopeId} (hi : i < s.scopes.size) (x : Symbol)
    (v : Value) : (s.modify i (·.put x v)).Binds i x v := by
  refine ⟨_, scopes_modify_self _ (Array.getElem?_eq_getElem hi), ?_⟩
  rw [Scope.get?_put, if_pos rfl]

/-- **The text of a function is its definition**, as far as there is room for it. Let a form that
was read define a function, in any scope of any store and under either mode. Then the function is
bound there under its name. It has a text just if there is room for all levels of its body, and too
little room is all that keeps it from having one. The text is read as the form, in which only the
sign of what is no number is lost. To evaluate what is read defines a function with the same name,
parameters and body, again in any scope and under either mode. -/
theorem parse_function_text {limit : Nat} {source : String} {form : Value} {tail : List Value}
    (hread : parse limit source = .ok form) (hform : form = .list (.sym ⟨"defun"⟩ :: tail))
    {mode : Scoping} {room : Nat} {i : ScopeId} {s : Store} {v : Value} (hi : i < s.scopes.size)
    (hvalue : outcome (evaluate mode room form i) s = .ok v) :
    ∃ (d : Definition) (id : Nat),
      form = d.form ∧
      (after (evaluate mode room form i) s).Binds i d.name (d.function id (mode.captured i)) ∧
      (∀ free, definitionPlaces + Style.printed.places * d.body.levels ≤ free →
        ∃ text, (d.function id (mode.captured i)).plain free = .ok text ∧
          parse limit text = .ok d.plainNaN.form) ∧
      (∀ free < definitionPlaces + Style.printed.places * d.body.levels,
        (d.function id (mode.captured i)).plain free = .error .stackExhausted) ∧
      (d.body.hasNaN = false → d.plainNaN = d) ∧
      ∀ (mode' : Scoping) (room' : Nat) (j : ScopeId) (s' : Store), j < s'.scopes.size →
        outcome (evaluate mode' (room' + 1) d.plainNaN.form j) s' = .ok v ∧
        ∃ id', (after (evaluate mode' (room' + 1) d.plainNaN.form j) s').Binds j d.name
          (d.plainNaN.function id' (mode'.captured j)) := by
  subst hform
  obtain ⟨d, hd⟩ := exists_definition_of_evaluate hvalue
  rw [hd] at hread hvalue ⊢
  have hbody : d.body.isProgram = true := by
    have hprogram := isProgram_of_parseAll (parse_eq_ok_iff_parseAll.mp hread) _ (.head _)
    rw [Definition.form, Value.isProgram, Value.isProgramAll_eq_true_iff] at hprogram
    exact hprogram d.body (by simp)
  cases room with
  | zero => cases hvalue
  | succ room =>
    obtain ⟨hnotice, hstore⟩ := eq_ok_iff.mp (d.evaluate_form mode room i s)
    obtain rfl := Except.ok.inj (hnotice.symm.trans hvalue)
    refine ⟨d, s.nextId, rfl, ?_, fun free hfree => ?_,
      fun free hfree => d.plain_function_of_lt hbody _ _ hfree, d.plainNaN_eq_self,
      fun mode' room' j s' hj => ?_⟩
    · rw [hstore]
      exact Store.binds_put hi _ _
    · obtain ⟨text, htext⟩ := d.exists_plain_function_of_le hbody s.nextId (mode.captured i) hfree
      have hparse := parse_print hread (d.print_form_of_plain_function htext)
      exact ⟨text, htext, hparse.trans (congrArg Except.ok d.plainNaN_form)⟩
    · obtain ⟨hnotice', hstore'⟩ := eq_ok_iff.mp (d.plainNaN.evaluate_form mode' room' j s')
      refine ⟨hnotice', s'.nextId, ?_⟩
      rw [hstore']
      exact Store.binds_put hj _ _

/-- A function without parameters, in whose definition a number was written in an unusual way. -/
theorem parse_function_text_without_params :
    let form : Value :=
      .list [.sym ⟨"defun"⟩, .sym ⟨"f"⟩, .list [], .list [.sym ⟨"g"⟩, .int 7]]
    let s : Store := ⟨#[⟨[], none⟩], 0⟩
    parse 2 "(defun f () (g +0_7))" = .ok form ∧
      outcome (evaluate .lexical 1 form 0) s = .ok (.str (definitionNotice ⟨"f"⟩)) ∧
      ∃ (d : Definition) (id : Nat), form = d.form ∧
        (after (evaluate .lexical 1 form 0) s).Binds 0 d.name (d.function id (some 0)) ∧
        ∀ free, definitionPlaces + Style.printed.places * d.body.levels ≤ free →
          ∃ text, (d.function id (some 0)).plain free = .ok text ∧
            parse 2 text = .ok d.plainNaN.form := by
  intro form s
  let tree : TokenTree :=
    .node [.leaf "defun", .leaf "f", .node [], .node [.leaf "g", .leaf "+0_7"]]
  have htokens : tokenize "(defun f () (g +0_7))" = tokens tree ++ [] := by decide +kernel
  have hdepths : DepthsIn (· ≤ ((2 : Nat) : Int)) 0 (tokens tree) := by
    simp [tree, tokens, Token.weight]
  have hint : atom "+0_7" = .int 7 := by
    have h : Number.int? "+0_7" = some 7 := by decide +kernel
    simp only [atom, h]
  have hvalue : value tree = form := by
    simp only [tree, form, value, valueAll, atom_eq_sym "defun" (by decide +kernel),
      atom_eq_sym "f" (by decide +kernel), atom_eq_sym "g" (by decide +kernel), hint]
  have hread : parse 2 "(defun f () (g +0_7))" = .ok form := by
    rw [parse_eq_ok_iff, htokens, readForm_tokens [] hdepths, hvalue]
  have hdefined : outcome (evaluate .lexical 1 form 0) s = .ok (.str (definitionNotice ⟨"f"⟩)) :=
    (eq_ok_iff.mp
      (Definition.evaluate_form ⟨⟨"f"⟩, [], .list [.sym ⟨"g"⟩, .int 7]⟩ .lexical 0 0 s)).1
  obtain ⟨d, id, hform, hbinds, htext, -⟩ :=
    parse_function_text hread rfl (by decide : 0 < s.scopes.size) hdefined
  exact ⟨hread, hdefined, d, id, hform, hbinds, htext⟩

/-! ## Definitions with nested lists -/

/-- The definition of a function without parameters, the body of which is lists one in another. -/
def nestedDefinition (n : Nat) : Definition :=
  ⟨⟨"f"⟩, [], value (nested n)⟩

/-- The body of a definition is read at the second level. -/
theorem parseAll_nestedDefinition {limit n : Nat} (h : n + 2 ≤ limit) :
    parseAll limit ("(defun f () " ++ nestedText (n + 1) ++ ")") =
      .ok [(nestedDefinition n).form] := by
  let tree : TokenTree := .node [.leaf "defun", .leaf "f", .node [], nested n]
  have htext : tree.text = "(defun f () " ++ nestedText (n + 1) ++ ")" := by
    simp only [tree, text, textAll, text_nested, listText, Text.joinWith,
      String.intercalate_cons_cons, String.intercalate_singleton, String.intercalate_nil,
      ← String.append_assoc]
    rfl
  have hvalue : value tree = (nestedDefinition n).form := by
    simp only [tree, value, valueAll, atom_eq_sym "defun" (by decide +kernel),
      atom_eq_sym "f" (by decide +kernel), nestedDefinition, Definition.form, List.map_nil]
  rw [← htext, ← hvalue]
  refine parseAll_text ?_ ?_
  · intro w hw
    have hnested : Token.word w ∉ tokensAll [nested n] := word_notMem_nested w n
    have hw : w = "defun" ∨ w = "f" := by simpa [tree, hnested] using hw
    rcases hw with rfl | rfl
    · exact isWord_of_mem_scanned "defun".toList (by decide +kernel)
    · exact isWord_of_mem_scanned "f".toList (by decide +kernel)
  · have hnested : DepthsIn (· ≤ (limit : Int)) 1 (tokensAll [nested n]) :=
      depthsIn_nested (by omega)
    simp [tree, Token.weight, hnested]
    omega

theorem isProgram_nestedDefinition (n : Nat) : (nestedDefinition n).body.isProgram = true :=
  Value.isProgramAll_eq_true_iff.mp (isProgramAll_valueAll [nested n]) _ (.head _)

theorem levels_nestedDefinition (n : Nat) : (nestedDefinition n).form.levels = n + 2 := by
  simp [nestedDefinition, Definition.form, Value.levels, Value.levelsAll, levels_value_nested]

/-- A definition whose body is seven hundred lists one in another is read and evaluated within a
limit of a thousand, but within a room of a thousand the function has no text. -/
theorem parse_function_text_nested_body :
    let s : Store := ⟨#[⟨[], none⟩], 0⟩
    ∃ form body,
      parse 1000 ("(defun f () " ++ nestedText 700 ++ ")") = .ok form ∧
      outcome (evaluate .lexical 1000 form 0) s = .ok (.str (definitionNotice ⟨"f"⟩)) ∧
      (after (evaluate .lexical 1000 form 0) s).Binds 0 ⟨"f"⟩
        (.function 0 ⟨"f"⟩ [] body (some 0)) ∧
      (Value.function 0 ⟨"f"⟩ [] body (some 0)).plain 1000 = .error .stackExhausted := by
  intro s
  let d : Definition := nestedDefinition 699
  have hread : parse 1000 ("(defun f () " ++ nestedText 700 ++ ")") = .ok d.form :=
    parse_eq_ok_iff_parseAll.mpr (parseAll_nestedDefinition (by decide))
  obtain ⟨hdefined, hstore⟩ := eq_ok_iff.mp (d.evaluate_form .lexical 999 0 s)
  refine ⟨d.form, d.body, hread, hdefined, ?_, ?_⟩
  · rw [hstore]
    exact Store.binds_put (by decide : 0 < s.scopes.size) _ _
  · refine d.plain_function_of_lt (isProgram_nestedDefinition 699) 0 (some 0) ?_
    have hlevels : d.body.levels = 700 := levels_value_nested 699
    rw [hlevels]
    decide

end SmallLisp
