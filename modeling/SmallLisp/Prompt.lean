import SmallLisp.Transcript

/-!
# The prompt

Lines are gathered until their parentheses balance, then the text they form is run and its results
are written. An error of the language is reported and the next form is read. The words `quit` and
`exit` end the loop, and so does the end of the input.

## Main definitions

* `completeForm?`: the text of gathered lines, if it is complete
* `gatherForm`: the lines of the next form
* `gatherForms`: all forms of the input, and the prompts for them
* `Prompt`: the state of the loop
* `Prompt.feed`: what one more line does
* `Prompt.run`: the loop over all lines
-/

namespace SmallLisp

/-- The prompt for a new form. -/
def mainPrompt : String := "lisplet> "

/-- The prompt for more lines of a form. -/
def continuationPrompt : String := "...      "

/-- The prompt for the next line, given the lines of the form so far. -/
def promptFor (gathered : List String) : String :=
  if gathered.isEmpty then mainPrompt else continuationPrompt

/-- Lines put together to a text. -/
def joinLines (lines : List String) : String :=
  Text.joinWith "\n" lines

/-- The text of gathered lines, if no parenthesis is left open. -/
def completeForm? (gathered : List String) : Option String :=
  let text := joinLines gathered
  if depth (tokenize text) ≤ 0 then some text else none

/-- The lines of a form: its text and the lines after it, if it is completed, and the prompts that
were given. -/
structure Gathering where
  form : Option (String × List String)
  prompts : List String

/-- Gathers the lines of a form, of which some were gathered before. -/
def gatherFrom (gathered : List String) : List String → Gathering
  | [] => ⟨none, [promptFor gathered]⟩
  | line :: lines =>
    let now := gathered ++ [line]
    match completeForm? now with
    | some text => ⟨some (text, lines), [promptFor gathered]⟩
    | none =>
      let g := gatherFrom now lines
      ⟨g.form, promptFor gathered :: g.prompts⟩

/-- Gathers the lines of the next form. -/
def gatherForm (lines : List String) : Gathering :=
  gatherFrom [] lines

/-- All forms of the input, and all prompts that were given. -/
structure Gatherings where
  forms : List String
  prompts : List String

/-- Gathers forms to the end of the input, given the lines of the first so far. -/
def gatherAllFrom (gathered : List String) : List String → Gatherings
  | [] => ⟨[], [promptFor gathered]⟩
  | line :: lines =>
    let now := gathered ++ [line]
    match completeForm? now with
    | some text =>
      let g := gatherAllFrom [] lines
      ⟨text :: g.forms, promptFor gathered :: g.prompts⟩
    | none =>
      let g := gatherAllFrom now lines
      ⟨g.forms, promptFor gathered :: g.prompts⟩

/-- Gathers forms to the end of the input. -/
def gatherForms (lines : List String) : Gatherings :=
  gatherAllFrom [] lines

/-- Whether a text asks to leave. -/
def isQuit (text : String) : Bool :=
  let word := String.ofList (Text.lower (Text.strip text.toList))
  word == "quit" || word == "exit"

/-- The state of the loop: the session, and the lines of the form so far. -/
structure Prompt where
  session : Session
  gathered : List String

/-- How the loop goes on after a line. -/
inductive Continuation where
  | next (p : Prompt)
  | quit (s : Session)
  | failed (e : Error) (s : Session)

namespace Prompt

/-- The report of an error of the language in a text. -/
def report (verbose : Bool) (text : String) (e : Error) : List Event :=
  logEvents verbose runnerLog ("error in " ++ Text.quoted text) ++
    [.output ("error: " ++ e.message ++ "\n")]

/-- Runs the text of a form. -/
def runText (verbose : Bool) (s : Session) (text : String) : List Event × Continuation :=
  if isQuit text then ([], .quit s)
  else if (Text.strip text.toList).isEmpty then ([], .next ⟨s, []⟩)
  else
    let r := s.runText verbose text
    match r.result with
    | .ok () => (r.events, .next ⟨r.session, []⟩)
    | .error e =>
      if e.isLanguage then (r.events ++ report verbose text e, .next ⟨r.session, []⟩)
      else (r.events, .failed e r.session)

/-- What one more line does. -/
def feed (verbose : Bool) (p : Prompt) (line : String) : List Event × Continuation :=
  let now := p.gathered ++ [line]
  match completeForm? now with
  | some text => runText verbose p.session text
  | none => ([], .next ⟨p.session, now⟩)

/-- The loop over all lines of the input. -/
def run (verbose : Bool) (p : Prompt) : List String → Run
  | [] => ⟨[.prompt (promptFor p.gathered), .output "\n"], .ok (), p.session⟩
  | line :: lines =>
    let (events, continuation) := p.feed verbose line
    let written := .prompt (promptFor p.gathered) :: events
    match continuation with
    | .next p =>
      let r := run verbose p lines
      ⟨written ++ r.events, r.result, r.session⟩
    | .quit s => ⟨written, .ok (), s⟩
    | .failed e s => ⟨written, .error e, s⟩

/-- The loop from a fresh prompt. -/
def start (verbose : Bool) (s : Session) (lines : List String) : Run :=
  run verbose ⟨s, []⟩ lines

end Prompt

end SmallLisp
