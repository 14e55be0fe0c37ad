import SmallLisp.Proofs.Containment
import SmallLisp.Proofs.FunctionText
import SmallLisp.Proofs.Runners

/-!
# Errors at the prompt

The prompt reports errors of the language and goes on with the next text. In a session of programs
there are three other errors. Memory may be exhausted. An integer may have too many digits to be
written: the value of a form, or a value that a format form is to be filled with. And if the log is
kept, a form may be nested too deeply to be written in it. Each of them ends the loop, and the texts
after it are not read.

## Main definitions

* `Session.Programmed`: the sessions of programs
* `Session.Unwritable`, `Session.UnwritableText`: forms, and texts, that come to something that
  cannot be written

## Main results

* `Session.Programmed.runText_error`: how the run of a text fails
* `Session.Programmed.unwritableText_iff`: a text fails with a fault of writing just if it comes to
  something that cannot be written
* `prompt_reports_errors`: the loop reports all errors but these
* `prompt_stops_at_long_integer`: the loop ends at an integer with too many digits
* `Session.runText_nestedDefinition`: a definition that is too deep for the log
-/

namespace SmallLisp

open StoreM

namespace TextFault

/-- Different faults are different errors. -/
theorem error_injective : Function.Injective error := by
  intro f g h
  cases f <;> cases g <;> first | rfl | cases h

/-- No fault of writing is an error of the language. -/
theorem isLanguage_error (fault : TextFault) : fault.error.isLanguage = false := by
  cases fault <;> rfl

end TextFault

/-! ## Sessions of programs -/

namespace Session

/-- The session began with the built-in names, and has evaluated only what is read from texts. -/
def Programmed (s : Session) : Prop :=
  s.store.Programmed s.root

theorem programmed_initial (mode : Scoping) (limit : Nat) (store : Store) :
    (initial mode limit store).Programmed :=
  .registered store rfl

/-- The form comes to something that cannot be written. It has a value and is nested too deeply for
the log, if this is kept. Or its value cannot be printed. Or a format form on the way is to be
filled with an integer that has too many digits. -/
inductive Unwritable (verbose : Bool) (s : Session) (form : Value) : TextFault → Prop
  | logged {v : Value} (result : (s.evalForm form).1 = .ok v) (kept : verbose = true)
      (deep : s.limit < Style.printed.places * form.levels) :
      Unwritable verbose s form .stackExhausted
  | value {v : Value} {fault : TextFault} (result : (s.evalForm form).1 = .ok v)
      (room : verbose = true → Style.printed.places * form.levels ≤ s.limit)
      (unprintable : v.print s.limit = .error fault) : Unwritable verbose s form fault
  | fill (result : (s.evalForm form).1 = .error .digitLimit)
      (reaches : Evaluation.ReachesOverfill s.scoping ⟨s.limit, 0, form, s.root, s.store⟩) :
      Unwritable verbose s form .digitLimit

/-- A form of the text comes to something that cannot be written when its turn comes, after forms
that do not fail. -/
def UnwritableText (verbose : Bool) (s : Session) (text : String) (fault : TextFault) : Prop :=
  ∃ before form rest, s.parseAll text = .ok (before ++ form :: rest) ∧
    (s.runForms verbose before).result = .ok () ∧
    (s.runForms verbose before).session.Unwritable verbose form fault

/-- The forms of a text are read from a text. -/
theorem parsed_of_mem_parseAll {s : Session} {text : String} {forms : List Value}
    (h : s.parseAll text = .ok forms) : ∀ form ∈ forms, Parsed form := by
  intro form hform
  exact ⟨s.limit, text, forms, parseAll_eq_ok_iff.mp h, hform⟩

/-- A text that cannot be read is refused with an error of the language. -/
theorem isLanguage_of_parseAll_error {s : Session} {text : String} {e : Error}
    (h : s.parseAll text = .error e) : e.isLanguage = true := by
  rw [parseAll] at h
  cases hread : SmallLisp.parseAll s.limit text with
  | ok forms =>
    rw [hread] at h
    cases h
  | error cause =>
    rw [hread] at h
    cases h
    cases cause <;> rfl

/-- A form whose evaluation fails writes nothing. -/
theorem runForm_of_error (verbose : Bool) {s : Session} {form : Value} {e : Error}
    (h : (s.evalForm form).1 = .error e) :
    s.runForm verbose form = ⟨[], .error e, (s.evalForm form).2⟩ := by
  unfold runForm
  generalize s.evalForm form = r at h ⊢
  obtain ⟨result, s'⟩ := r
  obtain rfl : result = .error e := h
  rfl

/-- How it goes with a form of a program that has a value. The form is written in the log before the
value. -/
theorem result_runForm_of_ok {verbose : Bool} {s : Session} {form v : Value}
    (hform : form.isProgram = true) (h : (s.evalForm form).1 = .ok v) :
    (s.runForm verbose form).result =
      if verbose = true ∧ s.limit < Style.printed.places * form.levels then .error .stackExhausted
      else
        match v.print s.limit with
        | .error fault => .error fault.error
        | .ok _ => .ok () := by
  have hfills : form.FillsRoom .printed := Value.fillsRoom_of_isProgram hform
  have hlimit : (s.evalForm form).2.limit = s.limit := by
    rw [evalForm_eq]
  unfold runForm
  generalize s.evalForm form = r at h hlimit
  obtain ⟨result, s'⟩ := r
  obtain rfl : result = .ok v := h
  rw [← (hlimit : s'.limit = s.limit)]
  cases verbose with
  | false => cases hv : v.print s'.limit <;> simp [evaluatedEvents, hv]
  | true =>
    rcases Nat.lt_or_ge s'.limit (Style.printed.places * form.levels) with hdeep | hroom
    · have hform : form.print s'.limit = .error .stackExhausted := hfills.lacking _ hdeep
      simp [evaluatedEvents, hform, hdeep, bind, Except.bind, TextFault.error]
    · obtain ⟨shown, hshown⟩ := hfills.enough _ hroom
      have hform : form.print s'.limit = .ok shown := hshown
      cases hv : v.print s'.limit <;>
        simp [evaluatedEvents, hform, hv, Nat.not_lt.mpr hroom, bind, Except.bind, pure,
          Except.pure]

/-- The first form that fails, if one does. -/
theorem exists_of_runForms_error {verbose : Bool} {s : Session} {forms : List Value} {e : Error}
    (h : (s.runForms verbose forms).result = .error e) :
    ∃ before form rest, forms = before ++ form :: rest ∧
      (s.runForms verbose before).result = .ok () ∧
      ((s.runForms verbose before).session.runForm verbose form).result = .error e := by
  induction forms generalizing s with
  | nil => cases h
  | cons form forms ih =>
    rw [runForms, Run.andThen] at h
    cases hform : (s.runForm verbose form).result with
    | error e' =>
      rw [hform] at h
      cases h
      exact ⟨[], form, forms, rfl, rfl, hform⟩
    | ok =>
      rw [hform] at h
      obtain ⟨before, next, rest, rfl, hbefore, hnext⟩ := ih h
      refine ⟨form :: before, next, rest, rfl, ?_⟩
      rw [runForms, Run.andThen, hform]
      exact ⟨hbefore, hnext⟩

namespace Programmed

variable {verbose : Bool} {s : Session} {form : Value} {forms : List Value} {text : String}
  {e : Error}

theorem evalForm (hs : s.Programmed) (hform : Parsed form) : (s.evalForm form).2.Programmed := by
  have hafter := Store.Programmed.evaluated hs s.scoping s.limit hform (Nat.le_refl s.root)
  rw [after_evaluate] at hafter
  rw [evalForm_eq]
  exact hafter

theorem runForms (hs : s.Programmed) (hforms : ∀ form ∈ forms, Parsed form) :
    (s.runForms verbose forms).session.Programmed := by
  induction forms generalizing s with
  | nil => exact hs
  | cons form forms ih =>
    rw [List.forall_mem_cons] at hforms
    have hform : (s.runForm verbose form).session.Programmed := by
      rw [session_runForm]
      exact hs.evalForm hforms.1
    rw [Session.runForms, Run.andThen]
    split
    · exact hform
    · exact ih hform hforms.2

theorem runText (hs : s.Programmed) : (s.runText verbose text).session.Programmed := by
  unfold Session.runText
  split
  · exact hs
  · rename_i forms hparse
    exact hs.runForms (parsed_of_mem_parseAll hparse)

/-- The value of a form can be written, but for its integers, if there is room for two levels. -/
theorem print_ne_stackExhausted (hs : s.Programmed) (hform : Parsed form) {v : Value}
    (hv : (s.evalForm form).1 = .ok v) (hroom : 2 * Style.printed.places ≤ s.limit) :
    v.print s.limit ≠ .error .stackExhausted := by
  have hcontained := nestedWithin_contained s.scoping s.root s.limit 0 form s.root s.store
    hform.isProgram hs.native (Nat.le_refl s.root)
  exact (hcontained.result v (evalForm_eq_ok hv)).print_ne_stackExhausted hroom

/-- A form fails with an error of the language, which its evaluation raises, or for want of memory,
or because it comes to something that cannot be written. -/
theorem runForm_error (hs : s.Programmed) (hform : Parsed form)
    (he : (s.runForm verbose form).result = .error e) :
    (e.isLanguage = true ∧ (s.evalForm form).1 = .error e) ∨ e = .outOfMemory ∨
      ∃ fault, e = fault.error ∧ s.Unwritable verbose form fault := by
  cases hvalue : (s.evalForm form).1 with
  | ok v =>
    rw [result_runForm_of_ok hform.isProgram hvalue] at he
    split at he
    · rename_i hdeep
      cases he
      exact .inr (.inr ⟨.stackExhausted, rfl, .logged hvalue hdeep.1 hdeep.2⟩)
    · rename_i hroom
      cases hprint : v.print s.limit with
      | ok t =>
        rw [hprint] at he
        cases he
      | error fault =>
        rw [hprint] at he
        cases he
        refine .inr (.inr ⟨fault, rfl, .value hvalue (fun hkept => ?_) hprint⟩)
        exact Nat.not_lt.mp fun hdeep => hroom ⟨hkept, hdeep⟩
  | error e' =>
    rw [runForm_of_error _ hvalue] at he
    cases he
    have hout : outcome (evaluate s.scoping s.limit form s.root) s.store = .error e := by
      rw [evalForm_eq] at hvalue
      rwa [outcome_evaluate]
    rcases hs.native.evaluate_error hform.isProgram (Nat.le_refl s.root) hout with
      hproper | hmemory | ⟨rfl, hreach⟩
    · exact .inl ⟨hproper.1, rfl⟩
    · exact .inr (.inl hmemory)
    · exact .inr (.inr ⟨.digitLimit, rfl, .fill hvalue hreach⟩)

/-- What cannot be written is what the run of the form fails with. -/
theorem result_runForm_of_unwritable (hform : Parsed form) {fault : TextFault}
    (h : s.Unwritable verbose form fault) :
    (s.runForm verbose form).result = .error fault.error := by
  cases h with
  | logged result kept deep =>
    rw [result_runForm_of_ok hform.isProgram result, if_pos ⟨kept, deep⟩]
    rfl
  | value result room unprintable =>
    have hroom : ¬ (verbose = true ∧ s.limit < Style.printed.places * form.levels) :=
      fun hdeep => Nat.not_le.mpr hdeep.2 (room hdeep.1)
    rw [result_runForm_of_ok hform.isProgram result, if_neg hroom, unprintable]
  | fill result _ => rw [runForm_of_error verbose result, TextFault.error]

/-- When the turn of a form of a text comes, the session is still one of programs. -/
theorem before_form (hs : s.Programmed) (verbose : Bool) {before rest : List Value}
    (hparse : s.parseAll text = .ok (before ++ form :: rest)) :
    Parsed form ∧ (s.runForms verbose before).session.Programmed := by
  have hparsed := parsed_of_mem_parseAll hparse
  exact ⟨hparsed form (by simp), hs.runForms fun f hf => hparsed f (List.mem_append_left _ hf)⟩

/-- A text fails with an error of the language, or for want of memory, or because it comes to
something that cannot be written. -/
theorem runText_error (hs : s.Programmed) (he : (s.runText verbose text).result = .error e) :
    e.isLanguage = true ∨ e = .outOfMemory ∨
      ∃ fault, e = fault.error ∧ s.UnwritableText verbose text fault := by
  cases hparse : s.parseAll text with
  | error e' =>
    rw [Session.runText, hparse] at he
    cases he
    exact .inl (isLanguage_of_parseAll_error hparse)
  | ok forms =>
    rw [Session.runText, hparse] at he
    obtain ⟨before, form, rest, rfl, hbefore, hfailed⟩ := exists_of_runForms_error he
    obtain ⟨hform, hsession⟩ := hs.before_form verbose hparse
    rcases hsession.runForm_error hform hfailed with
      ⟨hlanguage, -⟩ | hmemory | ⟨fault, hfault, hunwritable⟩
    · exact .inl hlanguage
    · exact .inr (.inl hmemory)
    · exact .inr (.inr ⟨fault, hfault, before, form, rest, hparse, hbefore, hunwritable⟩)

/-- **A text fails with a fault of writing just if it comes to something that cannot be written.**
-/
theorem unwritableText_iff (hs : s.Programmed) {fault : TextFault} :
    s.UnwritableText verbose text fault ↔
      (s.runText verbose text).result = .error fault.error := by
  constructor
  · rintro ⟨before, form, rest, hparse, hbefore, hunwritable⟩
    have hfailed := result_runForm_of_unwritable (hs.before_form verbose hparse).1 hunwritable
    rw [runText_of_parseAll _ (parseAll_eq_ok_iff.mp hparse), runForms_append, Run.andThen, hbefore]
    simp only [Session.runForms, Run.andThen, hfailed]
  · intro he
    rcases hs.runText_error he with hlanguage | hmemory | ⟨fault', hfault, hunwritable⟩
    · rw [fault.isLanguage_error] at hlanguage
      cases hlanguage
    · cases fault <;> cases hmemory
    · rwa [TextFault.error_injective hfault]

/-- Without the log, a text fails for want of room to write in only if there is next to none. -/
theorem verbose_of_unwritableText (hs : s.Programmed)
    (hroom : 2 * Style.printed.places ≤ s.limit)
    (h : s.UnwritableText verbose text .stackExhausted) : verbose = true := by
  obtain ⟨before, form, rest, hparse, hbefore, hunwritable⟩ := h
  obtain ⟨hform, hsession⟩ := hs.before_form verbose hparse
  cases hunwritable with
  | logged _ kept _ => exact kept
  | value result _ unprintable =>
    rw [← limit_runForms verbose s before] at hroom
    exact absurd unprintable (hsession.print_ne_stackExhausted hform result hroom)

end Programmed

end Session

/-! ## The loop -/

/-- An answer leaves a session of programs. -/
theorem Answer.programmed {verbose : Bool} {s s' : Session} {text : String} {out : List String}
    (h : Answer verbose s text out s') (hs : s.Programmed) : s'.Programmed := by
  cases h with
  | blank => exact hs
  | printed => exact hs.runText
  | reported => exact hs.runText

theorem Answers.programmed {verbose : Bool} {s s' : Session} {texts out : List String}
    (h : Answers verbose s texts out s') (hs : s.Programmed) : s'.Programmed := by
  induction h with
  | nil => exact hs
  | cons answer _ ih => exact ih (answer.programmed hs)

theorem Answer.limit_eq {verbose : Bool} {s s' : Session} {text : String} {out : List String}
    (h : Answer verbose s text out s') : s'.limit = s.limit := by
  cases h with
  | blank => rfl
  | printed => exact Session.limit_runText verbose s text
  | reported => exact Session.limit_runText verbose s text

theorem Answers.limit_eq {verbose : Bool} {s s' : Session} {texts out : List String}
    (h : Answers verbose s texts out s') : s'.limit = s.limit := by
  induction h with
  | nil => rfl
  | cons answer _ ih => exact ih.trans answer.limit_eq

/-- The end of the loop in a session of programs: it fails only for want of memory, or with a fault
of writing. -/
theorem LoopEnd.error {verbose : Bool} {s s' : Session} {left last : List String} {e : Error}
    (h : LoopEnd verbose s left last (.error e) s') (hs : s.Programmed) :
    e = .outOfMemory ∨ ∃ fault : TextFault, e = fault.error := by
  cases h with
  | failed _ result language =>
    rcases hs.runText_error result with hlanguage | hmemory | ⟨fault, hfault, -⟩
    · rw [hlanguage] at language
      cases language
    · exact .inl hmemory
    · exact .inr ⟨fault, hfault⟩

/-- The loop fails with a fault of writing just at a text that comes to something that cannot be
written. -/
theorem LoopEnd.fault_iff {verbose : Bool} {s s' : Session} {left last : List String}
    {result : Except Error Unit} (h : LoopEnd verbose s left last result s') (hs : s.Programmed)
    (fault : TextFault) :
    result = .error fault.error ↔
      ∃ text texts, left = text :: texts ∧ isQuit text = false ∧
        s.UnwritableText verbose text fault := by
  cases h with
  | input => simp
  | quit quit => simp [quit]
  | failed quit result language => simp [quit, hs.unwritableText_iff, result]

/-- **The prompt reports errors and goes on.** In a session of programs, the loop answers the texts
of the lines one after another, up to the end of the input or a text that asks to leave. The answer
to a text that fails has one line that reports the error, behind what its forms wrote before. The
loop itself fails only for want of memory, or because it has come to a text with something that
cannot be written: an integer with too many digits, or a form that is nested too deeply. The latter
takes the log to be kept, but for sessions with next to no room. -/
theorem prompt_reports_errors (verbose : Bool) {s : Session} (hs : s.Programmed)
    (lines : List String) :
    ∃ answered left out last s',
      Prompt.Dialogue verbose ⟨s, []⟩ lines answered left out last s' ∧
      (∀ e, (Prompt.start verbose s lines).result = .error e →
        e = .outOfMemory ∨ e = .digitLimit ∨ e = .stackExhausted) ∧
      (∀ fault : TextFault, (Prompt.start verbose s lines).result = .error fault.error ↔
        ∃ text texts, left = text :: texts ∧ isQuit text = false ∧
          s'.UnwritableText verbose text fault) ∧
      (2 * Style.printed.places ≤ s.limit →
        (Prompt.start verbose s lines).result = .error .stackExhausted → verbose = true) := by
  obtain ⟨answered, left, out, last, s', hdialogue⟩ := Prompt.exists_dialogue verbose ⟨s, []⟩ lines
  have hs' : s'.Programmed := hdialogue.answers.programmed hs
  have hend : LoopEnd verbose s' left last (Prompt.start verbose s lines).result
    (Prompt.start verbose s lines).session := hdialogue.ending
  refine ⟨answered, left, out, last, s', hdialogue, ?_, hend.fault_iff hs', ?_⟩
  · intro e he
    rw [he] at hend
    rcases hend.error hs' with hmemory | ⟨fault, rfl⟩
    · exact .inl hmemory
    · cases fault with
      | digitLimit => exact .inr (.inl rfl)
      | stackExhausted => exact .inr (.inr rfl)
  · intro hroom he
    obtain ⟨text, texts, -, -, hunwritable⟩ := (hend.fault_iff hs' .stackExhausted).mp he
    have hlimit : s'.limit = s.limit := hdialogue.answers.limit_eq
    exact hs'.verbose_of_unwritableText (hlimit ▸ hroom) hunwritable

/-- A text over two lines is reported, the next is answered, and the loop ends at the third. -/
theorem prompt_reports_errors_unbound :
    let s := Session.initial .dynamic 1000 Store.empty
    let lines := ["(f", "1)", "(+ 1 2)", "quit", "7"]
    s.Programmed ∧
      ((Prompt.start false s lines).result = .ok () ∧
        outputTexts (Prompt.start false s lines).events = ["error: Unbound symbol: f\n", "3\n"]) ∧
      ∃ answered left out last s',
        Prompt.Dialogue false ⟨s, []⟩ lines answered left out last s' ∧
        (left = [] ∨ ∃ text texts, left = text :: texts ∧ isQuit text = true) := by
  intro s lines
  have hs : s.Programmed := Session.programmed_initial .dynamic 1000 Store.empty
  have hrun : (Prompt.start false s lines).result = .ok () ∧
      outputTexts (Prompt.start false s lines).events = ["error: Unbound symbol: f\n", "3\n"] := by
    decide +kernel
  obtain ⟨answered, left, out, last, s', hdialogue, -⟩ := prompt_reports_errors false hs lines
  refine ⟨hs, hrun, answered, left, out, last, s', hdialogue, ?_⟩
  have hend := hdialogue.ending
  have hresult : (Prompt.run false ⟨s, []⟩ lines).result = .ok () := hrun.1
  rw [hresult] at hend
  cases hend with
  | input => exact .inl rfl
  | quit quit => exact .inr ⟨_, _, rfl, quit⟩

/-- The loop ends at an integer with 4434 digits: nothing is written, and the next line is not
read. -/
theorem prompt_stops_at_long_integer :
    let s := Session.initial .dynamic 1000 Store.empty
    let lines := ["(factorial 1600)", "(+ 1 2)"]
    s.Programmed ∧ (gatherForms lines).forms = lines ∧
      (Prompt.start false s lines).result = .error .digitLimit ∧
      outputTexts (Prompt.start false s lines).events = [] ∧
      promptTexts (Prompt.start false s lines).events = ["lisplet> "] := by
  intro s lines
  refine ⟨Session.programmed_initial .dynamic 1000 Store.empty, ?_⟩
  decide +kernel

/-- A definition with nested lists in its body can be too deep for the log, though there is room to
evaluate it. Then the text fails if the log is kept, and only then. -/
theorem Session.runText_nestedDefinition {s : Session} {n : Nat} (hread : n + 2 ≤ s.limit)
    (hroom : Style.printed.places ≤ s.limit) (hdeep : s.limit < Style.printed.places * (n + 2)) :
    (s.runText true ("(defun f () " ++ nestedText (n + 1) ++ ")")).result =
        .error .stackExhausted ∧
      (s.runText false ("(defun f () " ++ nestedText (n + 1) ++ ")")).result = .ok () := by
  have hparse := parseAll_nestedDefinition hread
  have hform : (nestedDefinition n).form.isProgram = true :=
    isProgram_of_parseAll hparse _ (.head _)
  obtain ⟨room, hlimit⟩ : ∃ room, s.limit = room + 1 := ⟨s.limit - 1, by omega⟩
  have hvalue : (s.evalForm (nestedDefinition n).form).1 =
      .ok (.str (definitionNotice ⟨"f"⟩)) := by
    rw [evalForm, act, hlimit, Definition.evaluate_form]
    rfl
  have hprint : (Value.str (definitionNotice ⟨"f"⟩)).print s.limit =
      .ok (definitionNotice ⟨"f"⟩) := by
    rw [Value.print, Value.render, if_neg (Nat.not_lt.mpr hroom)]
  rw [← levels_nestedDefinition] at hdeep
  rw [runText_of_parseAll true hparse, runText_of_parseAll false hparse]
  simp only [runForms, Run.andThen, result_runForm_of_ok hform hvalue, hdeep, hprint]
  simp

end SmallLisp
