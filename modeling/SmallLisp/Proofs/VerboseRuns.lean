import SmallLisp.CommandLine.Run
import SmallLisp.Proofs.PromptErrors

/-!
# Runs with a log

The log tells what was evaluated, and is kept only if it is asked for. To write an entry, a form and
its value are printed, which may fail. A form that was read can be printed, unless there is no room
for its levels. If its value cannot, then the run fails just as it does without the log, where the
value is to be printed as well. So a run with the log that does not end for want of room is a run
without it, once the entries are left out.

## Main definitions

* `dropLog`: events without the log
* `Run.quiet`, `CommandLine.Outcome.quiet`: a run, and the outcome of the command, without the log
* `CommandLine.Progress.withLog`: arguments under way with the log asked for

## Main results

* `Session.quiet_runText`: the run of a text without its log
* `Prompt.quiet_run`: the loop of the prompt without its log
* `CommandLine.quiet_runArguments`: the command without its log
* `CommandLine.parseArguments_verbose`: the option for the log changes nothing else
* `CommandLine.log_is_transparent`: the log changes nothing but the log
-/

namespace SmallLisp

/-! ## Events -/

/-- Events without the log. -/
def dropLog (events : List Event) : List Event :=
  events.filter fun e => !e.isLog

section Events

variable (verbose : Bool)

@[simp] theorem dropLog_nil : dropLog [] = [] := rfl

@[simp] theorem dropLog_append (es es' : List Event) :
    dropLog (es ++ es') = dropLog es ++ dropLog es' :=
  List.filter_append es es'

@[simp] theorem dropLog_prompt (text : String) (es : List Event) :
    dropLog (.prompt text :: es) = .prompt text :: dropLog es := rfl

@[simp] theorem dropLog_logEvents (source text : String) :
    dropLog (logEvents verbose source text) = [] := by
  cases verbose <;> rfl

@[simp] theorem dropLog_outputLine (text : String) :
    dropLog (outputLine text) = outputLine text := by
  unfold outputLine
  split
  · rfl
  · split <;> rfl

/-- The text of the first event comes first. -/
theorem standardOutput_cons (e : Event) (es : List Event) :
    standardOutput (e :: es) = e.outputText ++ standardOutput es := by
  simp [standardOutput]

/-- The log is not on the standard output. -/
theorem standardOutput_dropLog (es : List Event) :
    standardOutput (dropLog es) = standardOutput es := by
  induction es with
  | nil => rfl
  | cons e es ih =>
    rw [standardOutput_cons, ← ih]
    cases e with
    | log source text => exact String.empty_append.symm
    | prompt text => exact standardOutput_cons (.prompt text) (dropLog es)
    | output text => exact standardOutput_cons (.output text) (dropLog es)
    | complaint text => exact standardOutput_cons (.complaint text) (dropLog es)

end Events

/-! ## Runs of texts -/

/-- A run without its log. -/
def Run.quiet (r : Run) : Run :=
  { r with events := dropLog r.events }

/-- A run that goes on with another has no log if neither has one. -/
theorem Run.quiet_andThen {r r' : Run} {next next' : Session → Run} (hr : r.quiet = r')
    (hnext : r.result = .ok () → (next r.session).quiet = next' r.session) :
    (r.andThen next).quiet = r'.andThen next' := by
  subst hr
  obtain ⟨events, result, s⟩ := r
  cases result with
  | error e => rfl
  | ok => simp only [andThen, quiet, ← hnext rfl, dropLog_append]

namespace Session

variable (verbose : Bool) (s : Session)

/-- A form of a program runs alike with the log and without it, unless there is no room to write it
in the log. If its value cannot be printed, then there is neither an entry nor any output. -/
theorem quiet_runForm {form : Value} (hform : form.isProgram = true)
    (hroom : (s.runForm verbose form).result ≠ .error .stackExhausted) :
    (s.runForm verbose form).quiet = s.runForm false form := by
  unfold runForm at hroom ⊢
  generalize s.evalForm form = r at hroom ⊢
  obtain ⟨result, s'⟩ := r
  cases result with
  | error e => rfl
  | ok v =>
    cases verbose with
    | false =>
      cases hv : v.print s'.limit <;> simp [evaluatedEvents, hv, Run.quiet]
    | true =>
      cases hshown : form.print s'.limit with
      | error fault =>
        cases fault with
        | digitLimit => exact absurd hshown (Value.render_ne_digitLimit hform s'.limit)
        | stackExhausted =>
          simp [evaluatedEvents, hshown, bind, Except.bind, TextFault.error] at hroom
      | ok shown =>
        cases hv : v.print s'.limit with
        | error fault =>
          -- with the log it is the entry that cannot be had, and without it the output
          simp [evaluatedEvents, hshown, hv, bind, Except.bind, Run.quiet]
        | ok t =>
          have hlogged : evaluatedEvents true s'.limit form v =
              .ok (logEvents true sessionLog (evaluatedEntry shown t)) := by
            simp [evaluatedEvents, hshown, hv, bind, Except.bind, pure, Except.pure, logEvents]
          simp only [hlogged, hv, Run.quiet, dropLog_append, dropLog_logEvents, dropLog_outputLine]
          rfl

theorem quiet_runForms {forms : List Value} (hforms : ∀ form ∈ forms, form.isProgram = true)
    (hroom : (s.runForms verbose forms).result ≠ .error .stackExhausted) :
    (s.runForms verbose forms).quiet = s.runForms false forms := by
  induction forms generalizing s with
  | nil => rfl
  | cons form forms ih =>
    rw [List.forall_mem_cons] at hforms
    rw [runForms, ne_eq, Run.result_andThen_eq_error_iff, not_or, not_and] at hroom
    exact Run.quiet_andThen (quiet_runForm verbose s hforms.1 hroom.1) fun hok =>
      ih _ hforms.2 (hroom.2 hok)

/-- **The run of a text without its log.** -/
theorem quiet_runText {text : String}
    (hroom : (s.runText verbose text).result ≠ .error .stackExhausted) :
    (s.runText verbose text).quiet = s.runText false text := by
  unfold runText at hroom ⊢
  cases hparse : s.parseAll text with
  | error e => rfl
  | ok forms =>
    rw [hparse] at hroom
    have hforms : ∀ form ∈ forms, form.isProgram = true := fun form hform =>
      (parsed_of_mem_parseAll hparse form hform).isProgram
    exact quiet_runForms verbose s hforms hroom

/-- The run of a file without its log, if there was room for it. -/
theorem quiet_runFileText (path : String) {text : Except FileError String}
    (hroom : (s.runFileText verbose path text).result ≠ .error .stackExhausted) :
    (s.runFileText verbose path text).quiet = s.runFileText false path text := by
  cases text with
  | error e => rfl
  | ok text =>
    have hquiet : (s.runText verbose text).quiet = s.runText false text :=
      quiet_runText verbose s hroom
    simp only [runFileText, ← hquiet, Run.quiet, dropLog_append, dropLog_logEvents]
    rfl

end Session

/-! ## The prompt -/

namespace Prompt

variable (verbose : Bool)

theorem dropLog_report (text : String) (e : Error) :
    dropLog (report verbose text e) = report false text e := by
  rw [report, dropLog_append, dropLog_logEvents]
  rfl

/-- What the loop does with a text, without the log, if there was room for it. -/
theorem quiet_runText {s : Session} {text : String}
    (hroom : ∀ s', (runText verbose s text).2 ≠ .failed .stackExhausted s') :
    (runText verbose s text).map dropLog id = runText false s text := by
  unfold runText at hroom ⊢
  split
  · rfl
  · rename_i hquit
    split
    · rfl
    · rename_i hblank
      rw [if_neg hquit, if_neg hblank] at hroom
      have hresult : (s.runText verbose text).result ≠ .error .stackExhausted := by
        intro hexhausted
        simp only [hexhausted] at hroom
        exact hroom _ rfl
      simp only [← Session.quiet_runText verbose s hresult, Run.quiet]
      cases (s.runText verbose text).result with
      | ok => rfl
      | error e =>
        by_cases hlanguage : e.isLanguage = true
        · simp only [if_pos hlanguage, Prod.map, dropLog_append, dropLog_report, id]
        · simp only [if_neg hlanguage, Prod.map, id]

theorem quiet_feed {p : Prompt} {line : String}
    (hroom : ∀ s, (p.feed verbose line).2 ≠ .failed .stackExhausted s) :
    (p.feed verbose line).map dropLog id = p.feed false line := by
  cases htext : completeForm? (p.gathered ++ [line]) with
  | none =>
    rw [feed_of_none verbose htext, feed_of_none false htext]
    rfl
  | some text =>
    rw [feed_of_some verbose htext] at hroom ⊢
    rw [feed_of_some false htext]
    exact quiet_runText verbose hroom

/-- **The loop of the prompt without its log.** With the log or without it, the loop goes on, leaves
or fails after the same lines, unless it fails for want of room. -/
theorem quiet_run {p : Prompt} {lines : List String}
    (hroom : (p.run verbose lines).result ≠ .error .stackExhausted) :
    (p.run verbose lines).quiet = p.run false lines := by
  induction lines generalizing p with
  | nil => rfl
  | cons line lines ih =>
    have hline : ∀ s, (p.feed verbose line).2 ≠ .failed .stackExhausted s := by
      intro s hfailed
      rw [run_of_failed (Prod.ext rfl hfailed)] at hroom
      exact hroom rfl
    have hquiet := quiet_feed verbose hline
    cases hfeed : p.feed verbose line with
    | mk es continuation =>
      rw [hfeed] at hquiet
      cases continuation with
      | next q =>
        rw [run_of_next hfeed] at hroom ⊢
        rw [run_of_next hquiet.symm, ← ih hroom]
        simp [Run.quiet]
      | quit s =>
        rw [run_of_quit hfeed, run_of_quit hquiet.symm]
        rfl
      | failed e s =>
        rw [run_of_failed hfeed, run_of_failed hquiet.symm]
        rfl

end Prompt

namespace CommandLine

/-! ## The command -/

/-- A run of files without its log. -/
def FilesRun.quiet (r : FilesRun) : FilesRun :=
  { r with events := dropLog r.events }

/-- An outcome of the command without its log. -/
def Outcome.quiet (o : Outcome) : Outcome :=
  { o with events := dropLog o.events }

theorem dropLog_fileEnding (path : String) (e : Error) :
    dropLog (fileEnding path e).1 = (fileEnding path e).1 := by
  unfold fileEnding
  split <;> rfl

variable (read : String → Except FileError String)

/-- The run of several files without its log, if there was room for it. -/
theorem quiet_runFiles {verbose : Bool} {s : Session} {paths : List String}
    (hroom : (runFiles verbose read s paths).ending ≠ some (.failure .stackExhausted)) :
    (runFiles verbose read s paths).quiet = runFiles false read s paths := by
  induction paths generalizing s with
  | nil => rfl
  | cons path paths ih =>
    have hfile : (s.runFileText verbose path (read path)).result ≠ .error .stackExhausted := by
      intro hexhausted
      simp only [runFiles, hexhausted] at hroom
      exact hroom rfl
    simp only [runFiles, ← Session.quiet_runFileText verbose s path hfile] at hroom ⊢
    generalize s.runFileText verbose path (read path) = r at hroom ⊢
    obtain ⟨events, result, s'⟩ := r
    cases result with
    | error e => simp [FilesRun.quiet, Run.quiet, dropLog_fileEnding]
    | ok => simp [FilesRun.quiet, Run.quiet, ← ih hroom]

/-- The files and the prompt of a session without their log, if there was room for it. -/
theorem quiet_runSession {args : Arguments} {lines : List String} {s : Session}
    (hroom : (runSession args read lines s).ending ≠ .failure .stackExhausted) :
    (runSession args read lines s).quiet =
      runSession { args with verbose := false } read lines s := by
  have hready : dropLog (readyEvents args.verbose s) = readyEvents false s :=
    dropLog_logEvents args.verbose _ _
  have hprompts : Arguments.prompts { args with verbose := false } = args.prompts := rfl
  have hfiles : (runFiles args.verbose read s args.files).ending ≠
      some (.failure .stackExhausted) := by
    intro hexhausted
    simp only [runSession, hexhausted] at hroom
    exact hroom rfl
  simp only [runSession, hprompts, ← quiet_runFiles read hfiles] at hroom ⊢
  generalize runFiles args.verbose read s args.files = r at hroom ⊢
  obtain ⟨events, ending, s'⟩ := r
  cases ending with
  | some ending => simp only [Outcome.quiet, FilesRun.quiet, dropLog_append, hready]
  | none =>
    cases hasked : args.prompts with
    | false => simp [Outcome.quiet, FilesRun.quiet, hready]
    | true =>
      have hprompt : (Prompt.run args.verbose ⟨s', []⟩ lines).result ≠ .error .stackExhausted := by
        intro hexhausted
        simp only [hasked, if_true, Prompt.start, hexhausted] at hroom
        exact hroom rfl
      simp only [FilesRun.quiet, Prompt.start, ← Prompt.quiet_run args.verbose hprompt]
      simp [Outcome.quiet, Run.quiet, hready]

/-- **The command without its log.** -/
theorem quiet_runArguments {args : Arguments} {vars : Variables} {lines : List String}
    (hroom : (runArguments args vars read lines).ending ≠ .failure .stackExhausted) :
    (runArguments args vars read lines).quiet =
      runArguments { args with verbose := false } vars read lines := by
  have hoptions : Arguments.options { args with verbose := false } = args.options := rfl
  rw [runArguments] at hroom ⊢
  rw [runArguments, hoptions]
  cases hstart : Session.start args.options vars Store.empty with
  | error e => rfl
  | ok s =>
    rw [hstart] at hroom
    exact quiet_runSession read hroom

/-! ## Asking for the log -/

namespace Progress

/-- The same arguments under way, with the log asked for. -/
def withLog (p : Progress) : Progress :=
  { p with args := { p.args with verbose := true } }

theorem bind_withLog {x x' : Except Stop Progress} {f : Progress → Except Stop Progress}
    (hx : x' = x.map withLog) (hf : ∀ p, f p.withLog = (f p).map withLog) :
    x' >>= f = (x >>= f).map withLog := by
  subst hx
  cases x with
  | error stop => rfl
  | ok p => exact hf p

/-- Setting an option and asking for the log do not interfere. -/
theorem set_withLog (p : Progress) (flag : Flag) :
    p.withLog.set flag = (p.set flag).map withLog := by
  cases flag <;> rfl

theorem setAll_withLog (p : Progress) (flags : List Flag) :
    p.withLog.setAll flags = (p.setAll flags).map withLog := by
  induction flags generalizing p with
  | nil => rfl
  | cons flag flags ih => exact bind_withLog (set_withLog p flag) ih

theorem setLimit_withLog (p : Progress) (value : String) :
    p.withLog.setLimit value = (p.setLimit value).map withLog := by
  unfold setLimit
  split <;> rfl

/-- Nor do an option with a value attached to it and asking for the log. -/
theorem setAttached_withLog (p : Progress) (flag : Flag) (short : Bool) (value : List Char) :
    p.withLog.setAttached flag short value = (p.setAttached flag short value).map withLog := by
  unfold setAttached setAttachedLimit
  split
  · split
    · rfl
    · exact setLimit_withLog p (String.ofList value)
  · split
    · cases joinedFlags flag value with
      | error stop => rfl
      | ok flags => exact setAll_withLog p flags
    · rfl

theorem addFile_withLog (p : Progress) (w : Word) (separatorSeen : Bool) :
    p.withLog.addFile w separatorSeen = (p.addFile w separatorSeen).withLog := by
  cases w <;> cases separatorSeen <;> rfl

theorem takePlain_withLog (p : Progress) (place : Place) (w : Word) :
    p.withLog.takePlain place w = (p.takePlain place w).map withLog id := by
  have hgiven : p.withLog.filesGiven = p.filesGiven := rfl
  simp only [takePlain, hgiven, addFile_withLog]
  split <;> rfl

end Progress

/-- An option without a value is set before the words after it are taken. -/
theorem takeAll_option (p : Progress) (place : Place) {flag : Flag} (short : Bool) (ws : List Word)
    (hvalue : ¬ flag.takesValue = true) :
    takeAll p place (.option flag short none :: ws) =
      p.set flag >>= fun p => takeAll p .between ws := by
  rcases ws with - | ⟨w, ws⟩
  · simp only [takeAll, if_neg hvalue]
  · cases w <;> simp only [takeAll, if_neg hvalue]

/-- Words are taken alike, whether or not the log was asked for before. -/
theorem takeAll_withLog (p : Progress) (place : Place) (ws : List Word) :
    takeAll p.withLog place ws = (takeAll p place ws).map Progress.withLog := by
  fun_induction takeAll p place ws with
  | case1 p place => rfl
  | case2 p place text ws ih =>
    rw [takeAll]
    exact ih
  | case3 p place flag short value ws ih =>
    rw [takeAll]
    exact Progress.bind_withLog (p.setAttached_withLog flag short value) ih
  | case4 p place flag short hvalue text ws ih =>
    rw [takeAll, if_pos hvalue]
    exact Progress.bind_withLog (p.setLimit_withLog text) ih
  | case5 p place flag short ws hvalue hplain =>
    simp only [takeAll, if_pos hvalue]
    rfl
  | case6 p place flag short ws hvalue ih =>
    rw [takeAll_option _ _ _ _ hvalue]
    exact Progress.bind_withLog (p.set_withLog flag) ih
  | case7 p place w ws hunknown hattached hoption p' place' htake ih =>
    have htake' := p.takePlain_withLog place w
    rw [htake] at htake'
    rw [takeAll, htake']
    · exact ih
    all_goals assumption

/-- The option for the log is one more word in front. -/
theorem classifyAll_verbose (argv : List String) :
    classifyAll ("-v" :: argv) = (classifyAll argv).map (.option .verbose true none :: ·) := by
  have hword : classify "-v" = .ok (.option .verbose true none) := by
    decide +kernel
  rw [classifyAll, if_neg (by decide), hword]
  cases classifyAll argv <;> rfl

/-- **The option for the log changes nothing else** of what is asked for. -/
theorem parseArguments_verbose {argv : List String} {args : Arguments}
    (h : parseArguments argv = .run args) :
    parseArguments ("-v" :: argv) = .run { args with verbose := true } := by
  unfold parseArguments at h ⊢
  rw [classifyAll_verbose]
  cases hwords : classifyAll argv with
  | error message =>
    rw [hwords] at h
    cases h
  | ok words =>
    simp only [hwords] at h
    have htake : takeAll Progress.start .between (.option .verbose true none :: words) =
        (takeAll Progress.start .between words).map Progress.withLog := by
      rw [takeAll_option _ _ _ _ (by decide)]
      exact takeAll_withLog Progress.start .between words
    simp only [Except.map, htake]
    cases hprogress : takeAll Progress.start .between words with
    | error stop =>
      rw [hprogress] at h
      cases stop <;> cases h
    | ok p =>
      simp only [hprogress] at h
      split at h
      · rename_i hextras
        cases h
        exact if_pos hextras
      · cases h

/-- **The log changes nothing but the log.** The command is given arguments that do not ask for it.
With the option for it in front they ask for the same and for the log. However the log is asked for,
the command writes the same on the standard output, ends in the same way and leaves the same
session, so that the same names are bound to the same values, unless it ends for want of room to
write in. What it writes in all, on the standard error as well, is the same in the same order, once
the entries of the log are left out. -/
theorem log_is_transparent {argv : List String} {args : Arguments}
    (hargs : parseArguments argv = .run args) (hquiet : args.verbose = false) (vars : Variables)
    (files : Files) (lines : List String) :
    parseArguments ("-v" :: argv) = .run { args with verbose := true } ∧
      ∀ argv', parseArguments argv' = .run { args with verbose := true } →
        let quiet := run argv vars files lines
        let verbose := run argv' vars files lines
        verbose.ending ≠ .failure .stackExhausted →
        standardOutput verbose.events = standardOutput quiet.events ∧
          verbose.ending = quiet.ending ∧ verbose.session = quiet.session ∧
          dropLog verbose.events = quiet.events ∧
          standardError (dropLog verbose.events) = standardError quiet.events := by
  refine ⟨parseArguments_verbose hargs, ?_⟩
  intro argv' hargs' quiet verbose hroom
  have hwithout : { args with verbose := false } = args := by
    rw [← hquiet]
  simp only [verbose, run, hargs'] at hroom
  have hrun := quiet_runArguments files.read hroom
  rw [hwithout] at hrun
  simp only [quiet, verbose, run, hargs, hargs', ← hrun]
  exact ⟨(standardOutput_dropLog _).symm, rfl, rfl, rfl, rfl⟩

/-- A file with one form, and a text at the prompt whose value has too many digits to be written: it
is not in the log, and the command fails with the log and without it. -/
theorem log_is_transparent_long_integer :
    let files : Files := ⟨[], [(["p"], .bytes (Text.textBytes "(+ 1\n2)"))]⟩
    let lines := ["(factorial", "1600)", "3"]
    (parseArguments ["-i", "p"] = .run ⟨["p"], true, false, .unset, false⟩ ∧
      parseArguments ["p", "-iv"] = .run ⟨["p"], true, false, .unset, true⟩) ∧
    ((run ["p", "-iv"] [] files lines).events, (run ["p", "-iv"] [] files lines).ending) =
      ([.log "lisplet.interpreter" "interpreter ready (scoping=dynamic)",
        .log "lisplet.repl" "running p", .log "lisplet.interpreter" "evaluated (+ 1 2) => 3",
        .output "3\n", .prompt "lisplet> ", .prompt "...      "], .failure .digitLimit) ∧
    standardOutput (run ["p", "-iv"] [] files lines).events =
      standardOutput (run ["-i", "p"] [] files lines).events ∧
    (run ["p", "-iv"] [] files lines).ending = (run ["-i", "p"] [] files lines).ending ∧
    (run ["p", "-iv"] [] files lines).session = (run ["-i", "p"] [] files lines).session ∧
    dropLog (run ["p", "-iv"] [] files lines).events = (run ["-i", "p"] [] files lines).events := by
  intro files lines
  have hargs : parseArguments ["-i", "p"] = .run ⟨["p"], true, false, .unset, false⟩ := by
    decide +kernel
  have hargs' : parseArguments ["p", "-iv"] = .run ⟨["p"], true, false, .unset, true⟩ := by
    decide +kernel
  have hrun : ((run ["p", "-iv"] [] files lines).events,
      (run ["p", "-iv"] [] files lines).ending) =
        ([.log "lisplet.interpreter" "interpreter ready (scoping=dynamic)",
          .log "lisplet.repl" "running p", .log "lisplet.interpreter" "evaluated (+ 1 2) => 3",
          .output "3\n", .prompt "lisplet> ", .prompt "...      "], .failure .digitLimit) := by
    decide +kernel
  have hroom : (run ["p", "-iv"] [] files lines).ending ≠ .failure .stackExhausted := by
    rw [(Prod.mk.inj hrun).2]
    decide
  obtain ⟨houtput, hending, hsession, hevents, -⟩ :=
    (log_is_transparent hargs rfl [] files lines).2 ["p", "-iv"] hargs' hroom
  exact ⟨⟨hargs, hargs'⟩, hrun, houtput, hending, hsession, hevents⟩

end CommandLine

end SmallLisp
