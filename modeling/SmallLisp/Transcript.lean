import SmallLisp.Session

/-!
# Transcripts

What a run writes, as a list of events, and the evaluation of forms with their results written.
A log tells what was evaluated. It is kept only if it is asked for.

## Main definitions

* `Event`: a prompt, output, a complaint or a log entry
* `standardOutput`, `standardError`: the texts that events give
* `Run`: events, an outcome and the session after them
* `Session.runForms`: evaluates forms and writes their results
-/

namespace SmallLisp

/-- What a run writes. -/
inductive Event where
  | prompt (text : String)
  | output (text : String)
  | complaint (text : String)
  | log (source text : String)
  deriving DecidableEq, Repr

/-- The text of an event on the standard output. -/
def Event.outputText : Event → String
  | .prompt text => text
  | .output text => text
  | _ => ""

/-- The text of an event on the standard error. -/
def Event.errorText : Event → String
  | .complaint text => text
  | .log source text => source ++ ": " ++ text ++ "\n"
  | _ => ""

/-- The text of events on the standard output. -/
def standardOutput (events : List Event) : String :=
  String.join (events.map Event.outputText)

/-- The text of events on the standard error. -/
def standardError (events : List Event) : String :=
  String.join (events.map Event.errorText)

/-- The prompts among events. -/
def promptTexts (events : List Event) : List String :=
  events.filterMap fun
    | .prompt text => some text
    | _ => none

/-- The texts put out, without the prompts. -/
def outputTexts (events : List Event) : List String :=
  events.filterMap fun
    | .output text => some text
    | _ => none

/-- Whether an event is a log entry. -/
def Event.isLog : Event → Bool
  | .log .. => true
  | _ => false

/-- The name under which sessions write to the log. -/
def sessionLog : String := "lisplet.interpreter"

/-- The name under which the prompt and the runner write to the log. -/
def runnerLog : String := "lisplet.repl"

/-- A log entry, if the log is kept. -/
def logEvents (verbose : Bool) (source text : String) : List Event :=
  if verbose then [.log source text] else []

/-- A part of a run: what was written, how it went, and the session after it. -/
structure Run where
  events : List Event
  result : Except Error Unit
  session : Session

/-- A run that goes on with another if it went well. -/
def Run.andThen (r : Run) (next : Session → Run) : Run :=
  match r.result with
  | .error e => ⟨r.events, .error e, r.session⟩
  | .ok () =>
    let n := next r.session
    ⟨r.events ++ n.events, n.result, n.session⟩

/-- The output for a printed value: a line of its own, unless there is no text. -/
def outputLine (text : String) : List Event :=
  if text.isEmpty then []
  else if text.toList.getLast? = some '\n' then [.output text]
  else [.output (text ++ "\n")]

/-- The log entry for an evaluated form. -/
def evaluatedEntry (form value : String) : String :=
  "evaluated " ++ form ++ " => " ++ value

/-- The log entries for an evaluated form, if the log is kept. There are none to be had if the
form or its value cannot be printed within the room. -/
def evaluatedEvents (verbose : Bool) (room : Nat) (form value : Value) :
    Except TextFault (List Event) :=
  if verbose then do
    let f ← form.print room
    let v ← value.print room
    pure [.log sessionLog (evaluatedEntry f v)]
  else .ok []

namespace Session

/-- Evaluates a form and writes its value. Writing is no part of the evaluation, so too deep nesting
is not reported as an error of the language here. -/
def runForm (verbose : Bool) (s : Session) (form : Value) : Run :=
  match s.evalForm form with
  | (.error e, s) => ⟨[], .error e, s⟩
  | (.ok v, s) =>
    match evaluatedEvents verbose s.limit form v with
    | .error fault => ⟨[], .error fault.error, s⟩
    | .ok logged =>
      match v.print s.limit with
      | .error fault => ⟨logged, .error fault.error, s⟩
      | .ok t => ⟨logged ++ outputLine t, .ok (), s⟩

/-- Evaluates forms and writes their values, up to the first that fails. -/
def runForms (verbose : Bool) (s : Session) : List Value → Run
  | [] => ⟨[], .ok (), s⟩
  | form :: forms => (s.runForm verbose form).andThen fun s => runForms verbose s forms

/-- Evaluates the forms of a text and writes their values. -/
def runText (verbose : Bool) (s : Session) (text : String) : Run :=
  match s.parseAll text with
  | .error e => ⟨[], .error e, s⟩
  | .ok forms => s.runForms verbose forms

end Session

end SmallLisp
