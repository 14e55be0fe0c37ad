import SmallLisp.Prompt

/-!
# The loop of the prompt

The prompt gathers lines into texts and answers the texts one after another. The answer to a text
is nothing if it is blank, what its forms write, or what they write up to an error of the language
followed by one line that reports the error. The loop ends at the end of the input, at a text that
asks to leave, or at a text whose run fails with any other error.

## Main definitions

* `Answer`, `Answers`: the answer to one text, and to texts one after another
* `LoopEnd`: how the loop ends, after the texts it answers
* `Prompt.Dialogue`: the answers to the texts of the lines, and the end of the loop

## Main results

* `Prompt.runText_cases`: what the loop does with one text
* `Prompt.exists_dialogue`: the loop answers the texts of the lines, up to the one it ends at
-/

namespace SmallLisp

/-- The answer to a text, with what it puts out and the session after it. -/
inductive Answer (verbose : Bool) (s : Session) (text : String) : List String → Session → Prop
  | blank (strip : Text.strip text.toList = []) : Answer verbose s text [] s
  | printed (quit : isQuit text = false) (result : (s.runText verbose text).result = .ok ()) :
      Answer verbose s text (outputTexts (s.runText verbose text).events)
        (s.runText verbose text).session
  | reported {e : Error} (quit : isQuit text = false)
      (result : (s.runText verbose text).result = .error e) (language : e.isLanguage = true) :
      Answer verbose s text
        (outputTexts (s.runText verbose text).events ++ ["error: " ++ e.message ++ "\n"])
        (s.runText verbose text).session

/-- The answers to texts, one after another. -/
inductive Answers (verbose : Bool) : Session → List String → List String → Session → Prop
  | nil (s : Session) : Answers verbose s [] [] s
  | cons {s s₁ s₂ : Session} {text : String} {texts out outs : List String}
      (answer : Answer verbose s text out s₁) (rest : Answers verbose s₁ texts outs s₂) :
      Answers verbose s (text :: texts) (out ++ outs) s₂

/-- How the loop ends in the session `s`, by the texts that are left: what it puts out last, its
result and the session after it. -/
inductive LoopEnd (verbose : Bool) (s : Session) :
    List String → List String → Except Error Unit → Session → Prop
  | input : LoopEnd verbose s [] ["\n"] (.ok ()) s
  | quit {text : String} {texts : List String} (quit : isQuit text = true) :
      LoopEnd verbose s (text :: texts) [] (.ok ()) s
  | failed {text : String} {texts : List String} {e : Error} (quit : isQuit text = false)
      (result : (s.runText verbose text).result = .error e) (language : e.isLanguage = false) :
      LoopEnd verbose s (text :: texts) (outputTexts (s.runText verbose text).events) (.error e)
        (s.runText verbose text).session

/-- The loop answers some texts of the lines and then ends in the session `s'`, with the other texts
left. It puts out `out` for the answers and `last` at its end. -/
structure Prompt.Dialogue (verbose : Bool) (p : Prompt) (lines answered left out last : List String)
    (s' : Session) : Prop where
  texts : (gatherAllFrom p.gathered lines).forms = answered ++ left
  answers : Answers verbose p.session answered out s'
  ending : LoopEnd verbose s' left last (p.run verbose lines).result (p.run verbose lines).session
  output : outputTexts (p.run verbose lines).events = out ++ last
  /-- If no text is left, then the loop asks for all lines and for the end of the input. -/
  allRead : left = [] →
    promptTexts (p.run verbose lines).events = (gatherAllFrom p.gathered lines).prompts
  /-- Otherwise it asks for the lines up to the first text that is left. -/
  readUpTo : ∀ text texts, left = text :: texts → ∃ read unread, lines = read ++ unread ∧
    (gatherAllFrom p.gathered read).forms = answered ++ [text] ∧
    (promptTexts (p.run verbose lines).events).length = read.length

section Events

variable (verbose : Bool)

@[simp] theorem outputTexts_append (es es' : List Event) :
    outputTexts (es ++ es') = outputTexts es ++ outputTexts es' :=
  List.filterMap_append

@[simp] theorem promptTexts_append (es es' : List Event) :
    promptTexts (es ++ es') = promptTexts es ++ promptTexts es' :=
  List.filterMap_append

@[simp] theorem outputTexts_prompt (text : String) (es : List Event) :
    outputTexts (.prompt text :: es) = outputTexts es := rfl

@[simp] theorem promptTexts_prompt (text : String) (es : List Event) :
    promptTexts (.prompt text :: es) = text :: promptTexts es := rfl

@[simp] theorem outputTexts_logEvents (source text : String) :
    outputTexts (logEvents verbose source text) = [] := by
  cases verbose <;> rfl

@[simp] theorem promptTexts_logEvents (source text : String) :
    promptTexts (logEvents verbose source text) = [] := by
  cases verbose <;> rfl

@[simp] theorem promptTexts_outputLine (text : String) : promptTexts (outputLine text) = [] := by
  unfold outputLine
  split
  · rfl
  · split <;> rfl

/-- The log entry for a form that was evaluated is there just if the form and its value can be
written. -/
theorem evaluatedEvents_eq_ok_iff {room : Nat} {form value : Value} {es : List Event} :
    evaluatedEvents verbose room form value = .ok es ↔
      (verbose = false ∧ es = []) ∨
      (verbose = true ∧ ∃ f v, form.print room = .ok f ∧ value.print room = .ok v ∧
        es = [.log sessionLog (evaluatedEntry f v)]) := by
  cases verbose with
  | false => simp [evaluatedEvents, eq_comm]
  | true =>
    cases hf : form.print room with
    | error fault => simp [evaluatedEvents, hf, bind, Except.bind]
    | ok f =>
      cases hv : value.print room with
      | error fault => simp [evaluatedEvents, hf, hv, bind, Except.bind]
      | ok v => simp [evaluatedEvents, hf, hv, bind, Except.bind, pure, Except.pure, eq_comm]

theorem promptTexts_evaluatedEvents {room : Nat} {form value : Value} {es : List Event}
    (h : evaluatedEvents verbose room form value = .ok es) : promptTexts es = [] := by
  rcases (evaluatedEvents_eq_ok_iff verbose).mp h with ⟨-, rfl⟩ | ⟨-, f, v, -, -, rfl⟩
  · rfl
  · rfl

/-- Forms write no prompts. -/
theorem promptTexts_runForm (s : Session) (form : Value) :
    promptTexts (s.runForm verbose form).events = [] := by
  unfold Session.runForm
  split
  · rfl
  · split
    · rfl
    · rename_i logged hlogged
      have hempty := promptTexts_evaluatedEvents verbose hlogged
      split
      · exact hempty
      · rw [promptTexts_append, hempty, promptTexts_outputLine]
        rfl

theorem promptTexts_runForms (s : Session) (forms : List Value) :
    promptTexts (s.runForms verbose forms).events = [] := by
  induction forms generalizing s with
  | nil => rfl
  | cons form forms ih =>
    have hform := promptTexts_runForm verbose s form
    rw [Session.runForms, Run.andThen]
    split
    · exact hform
    · rw [promptTexts_append, hform, ih]
      rfl

/-- Texts write no prompts. -/
theorem promptTexts_runText (s : Session) (text : String) :
    promptTexts (s.runText verbose text).events = [] := by
  unfold Session.runText
  split
  · rfl
  · exact promptTexts_runForms verbose s _

end Events

namespace Prompt

variable (verbose : Bool)

/-- What the loop does with a text: it leaves, it answers the text and goes on, or it fails. -/
theorem runText_cases (s : Session) (text : String) :
    (isQuit text = true ∧ runText verbose s text = ([], .quit s)) ∨
    (∃ es s', Answer verbose s text (outputTexts es) s' ∧ promptTexts es = [] ∧
      runText verbose s text = (es, .next ⟨s', []⟩)) ∨
    (∃ e, isQuit text = false ∧ (s.runText verbose text).result = .error e ∧
      e.isLanguage = false ∧
      runText verbose s text =
        ((s.runText verbose text).events, .failed e (s.runText verbose text).session)) := by
  unfold runText
  cases hquit : isQuit text with
  | true => exact .inl ⟨rfl, rfl⟩
  | false =>
    simp only [Bool.false_eq_true, if_false]
    by_cases hblank : Text.strip text.toList = []
    · exact .inr (.inl ⟨[], s, .blank hblank, rfl, by simp [hblank]⟩)
    · rw [if_neg (by simpa using hblank)]
      have hprompts := promptTexts_runText verbose s text
      cases hresult : (s.runText verbose text).result with
      | ok => exact .inr (.inl ⟨_, _, .printed hquit hresult, hprompts, rfl⟩)
      | error e =>
        by_cases hlanguage : e.isLanguage = true
        · have hreport : outputTexts (report verbose text e) =
              ["error: " ++ e.message ++ "\n"] := by
            rw [report, outputTexts_append, outputTexts_logEvents]
            rfl
          refine .inr (.inl ⟨_, _, ?_, ?_, if_pos hlanguage⟩)
          · rw [outputTexts_append, hreport]
            exact .reported hquit hresult hlanguage
          · rw [promptTexts_append, hprompts, report, promptTexts_append, promptTexts_logEvents]
            rfl
        · have hother := Bool.eq_false_iff.mpr hlanguage
          exact .inr (.inr ⟨e, trivial, rfl, hother, if_neg hlanguage⟩)

/-! ### One more line -/

section Line

variable {verbose} {p q : Prompt} {s s' : Session} {line text : String}
  {lines answered left out last : List String} {es : List Event} {e : Error}

theorem feed_of_none (verbose : Bool) (h : completeForm? (p.gathered ++ [line]) = none) :
    p.feed verbose line = ([], .next ⟨p.session, p.gathered ++ [line]⟩) := by
  rw [feed, h]

theorem feed_of_some (verbose : Bool) (h : completeForm? (p.gathered ++ [line]) = some text) :
    p.feed verbose line = runText verbose p.session text := by
  rw [feed, h]

/-- After a line that lets the loop go on, what it writes comes before the rest. -/
theorem run_of_next (h : p.feed verbose line = (es, .next q)) (lines : List String) :
    p.run verbose (line :: lines) =
      ⟨.prompt (promptFor p.gathered) :: es ++ (q.run verbose lines).events,
        (q.run verbose lines).result, (q.run verbose lines).session⟩ := by
  rw [run, h]

/-- After a line that asks to leave, nothing more is read. -/
theorem run_of_quit (h : p.feed verbose line = (es, .quit s)) (lines : List String) :
    p.run verbose (line :: lines) = ⟨.prompt (promptFor p.gathered) :: es, .ok (), s⟩ := by
  rw [run, h]

/-- After a line that fails, nothing more is read. -/
theorem run_of_failed (h : p.feed verbose line = (es, .failed e s)) (lines : List String) :
    p.run verbose (line :: lines) = ⟨.prompt (promptFor p.gathered) :: es, .error e, s⟩ := by
  rw [run, h]

/-- Without lines there are no texts to answer. -/
theorem dialogue_nil (p : Prompt) : Dialogue verbose p [] [] [] [] ["\n"] p.session where
  texts := rfl
  answers := .nil p.session
  ending := .input
  output := rfl
  allRead _ := rfl
  readUpTo := by rintro _ _ ⟨⟩

/-- The line is one more of a text that is not complete. -/
theorem Dialogue.incomplete (htext : completeForm? (p.gathered ++ [line]) = none)
    (h : Dialogue verbose ⟨p.session, p.gathered ++ [line]⟩ lines answered left out last s') :
    Dialogue verbose p (line :: lines) answered left out last s' := by
  have hrun := run_of_next (feed_of_none verbose htext) lines
  have hgather (lines : List String) : gatherAllFrom p.gathered (line :: lines) =
      ⟨(gatherAllFrom (p.gathered ++ [line]) lines).forms,
        promptFor p.gathered :: (gatherAllFrom (p.gathered ++ [line]) lines).prompts⟩ := by
    simp only [gatherAllFrom, htext]
  constructor
  · rw [hgather]
    exact h.texts
  · exact h.answers
  · rw [hrun]
    exact h.ending
  · rw [hrun]
    exact h.output
  · intro hleft
    rw [hrun, hgather]
    exact congrArg (promptFor p.gathered :: ·) (h.allRead hleft)
  · intro text texts hleft
    obtain ⟨read, unread, rfl, hforms, hlength⟩ := h.readUpTo text texts hleft
    refine ⟨line :: read, unread, rfl, ?_, ?_⟩
    · rw [hgather]
      exact hforms
    · rw [hrun]
      exact congrArg (· + 1) hlength

section Complete

variable (htext : completeForm? (p.gathered ++ [line]) = some text)

include htext

/-- A line that completes a text makes it the first of the texts. -/
theorem gatherAllFrom_complete (lines : List String) : gatherAllFrom p.gathered (line :: lines) =
    ⟨text :: (gatherAllFrom [] lines).forms,
      promptFor p.gathered :: (gatherAllFrom [] lines).prompts⟩ := by
  simp only [gatherAllFrom, htext]

/-- The line completes a text, which is answered. The loop goes on with no lines gathered. -/
theorem Dialogue.complete (hnext : runText verbose p.session text = (es, .next ⟨s, []⟩))
    (hanswer : Answer verbose p.session text (outputTexts es) s) (hprompts : promptTexts es = [])
    (h : Dialogue verbose ⟨s, []⟩ lines answered left out last s') :
    Dialogue verbose p (line :: lines) (text :: answered) left (outputTexts es ++ out) last s' := by
  have hrun := run_of_next ((feed_of_some verbose htext).trans hnext) lines
  have hgather := gatherAllFrom_complete htext
  constructor
  · rw [hgather]
    exact congrArg (text :: ·) h.texts
  · exact .cons hanswer h.answers
  · rw [hrun]
    exact h.ending
  · rw [hrun, outputTexts_append, outputTexts_prompt, h.output, List.append_assoc]
  · intro hleft
    rw [hrun, hgather, promptTexts_append, promptTexts_prompt, hprompts, h.allRead hleft]
    rfl
  · intro next texts hleft
    obtain ⟨read, unread, rfl, hforms, hlength⟩ := h.readUpTo next texts hleft
    refine ⟨line :: read, unread, rfl, ?_, ?_⟩
    · rw [hgather]
      exact congrArg (text :: ·) hforms
    · rw [hrun, promptTexts_append, promptTexts_prompt, hprompts, List.singleton_append,
        List.length_cons, hlength, List.length_cons]

/-- The line completes a text at which the loop ends. -/
theorem dialogue_of_end {result : Except Error Unit}
    (hrun : p.run verbose (line :: lines) = ⟨.prompt (promptFor p.gathered) :: es, result, s'⟩)
    (hend : LoopEnd verbose p.session (text :: (gatherAllFrom [] lines).forms) (outputTexts es)
      result s')
    (hprompts : promptTexts es = []) :
    Dialogue verbose p (line :: lines) [] (text :: (gatherAllFrom [] lines).forms) []
      (outputTexts es) p.session := by
  have hgather := gatherAllFrom_complete htext
  constructor
  · rw [hgather]
    rfl
  · exact .nil p.session
  · rw [hrun]
    exact hend
  · rw [hrun]
    rfl
  · rintro ⟨⟩
  · rintro _ _ ⟨⟩
    refine ⟨[line], lines, rfl, ?_, ?_⟩
    · rw [hgather]
      rfl
    · rw [hrun, promptTexts_prompt, hprompts]
      rfl

end Complete

end Line

/-- **The loop answers the texts of the lines**, up to the one it ends at. -/
theorem exists_dialogue (p : Prompt) (lines : List String) :
    ∃ answered left out last s', Dialogue verbose p lines answered left out last s' := by
  induction lines generalizing p with
  | nil => exact ⟨[], [], [], ["\n"], p.session, dialogue_nil p⟩
  | cons line lines ih =>
    cases htext : completeForm? (p.gathered ++ [line]) with
    | none =>
      obtain ⟨answered, left, out, last, s', h⟩ := ih ⟨p.session, p.gathered ++ [line]⟩
      exact ⟨answered, left, out, last, s', h.incomplete htext⟩
    | some text =>
      have hfeed := feed_of_some verbose htext
      rcases runText_cases verbose p.session text with
        ⟨hquit, htake⟩ | ⟨es, s, hanswer, hprompts, htake⟩ | ⟨e, hquit, hresult, hlanguage, htake⟩
      · have hrun := run_of_quit (hfeed.trans htake) lines
        exact ⟨_, _, _, _, _, dialogue_of_end htext hrun (.quit hquit) rfl⟩
      · obtain ⟨answered, left, out, last, s', h⟩ := ih ⟨s, []⟩
        exact ⟨_, left, _, last, s', h.complete htext htake hanswer hprompts⟩
      · have hrun := run_of_failed (hfeed.trans htake) lines
        have hprompts := promptTexts_runText verbose p.session text
        exact ⟨_, _, _, _, _,
          dialogue_of_end htext hrun (.failed hquit hresult hlanguage) hprompts⟩

end Prompt

end SmallLisp
