import SmallLisp.CommandLine.Arguments
import SmallLisp.Files
import SmallLisp.Prompt

/-!
# Running the command

The command runs files in order, and then the prompt if there are no files or it is asked for. A
file that cannot be found or that fails with an error of the language ends the run with a
complaint. Any other error ends it without one.

## Main definitions

* `Ending`: an exit status or an error
* `Outcome`: what the command wrote, how it ended, and the session after it
* `runFiles`: the files in order
* `run`: the whole command
-/

namespace SmallLisp.CommandLine

/-- How the command ends. -/
inductive Ending where
  | exit (status : Nat)
  | failure (e : Error)
  deriving DecidableEq, Repr

/-- What the command wrote, how it ended, and the session it left if it began one. -/
structure Outcome where
  events : List Event
  ending : Ending
  session : Option Session

/-- The options of the session for given arguments. -/
def Arguments.options (args : Arguments) : Options where
  scoping := if args.lexical then some "lexical" else none
  limit := args.recursionLimit
  prelude := ""

/-- Whether the prompt follows the files. -/
def Arguments.prompts (args : Arguments) : Bool :=
  args.files.isEmpty || args.interactive

/-- Whether an error in a file is complained about. -/
def isReported (e : Error) : Bool :=
  e.kind.isLanguage || e.kind.isFileAccess

/-- The complaint about an error in a file. -/
def fileComplaint (path : String) (e : Error) : Event :=
  .complaint (path ++ ": error: " ++ e.message ++ "\n")

/-- How the command ends after an error in a file, and what it writes about it. -/
def fileEnding (path : String) (e : Error) : List Event × Ending :=
  if isReported e then ([fileComplaint path e], .exit 1) else ([], .failure e)

/-- The log entry for a new session. -/
def readyEvents (verbose : Bool) (s : Session) : List Event :=
  logEvents verbose sessionLog ("interpreter ready (scoping=" ++ s.scoping.name ++ ")")

/-- A part of a run that may have ended the command. -/
structure FilesRun where
  events : List Event
  ending : Option Ending
  session : Session

/-- Runs files in order, up to the first that fails. -/
def runFiles (verbose : Bool) (read : String → Except FileError String) (s : Session) :
    List String → FilesRun
  | [] => ⟨[], none, s⟩
  | path :: paths =>
    let r := s.runFileText verbose path (read path)
    match r.result with
    | .error e =>
      let (written, ending) := fileEnding path e
      ⟨r.events ++ written, some ending, r.session⟩
    | .ok () =>
      let others := runFiles verbose read r.session paths
      ⟨r.events ++ others.events, others.ending, others.session⟩

/-- How the command ends after the prompt. -/
def promptEnding : Except Error Unit → Ending
  | .ok () => .exit 0
  | .error e => .failure e

/-- Runs the files and the prompt of a session. -/
def runSession (args : Arguments) (read : String → Except FileError String)
    (lines : List String) (s : Session) : Outcome :=
  let ready := readyEvents args.verbose s
  let files := runFiles args.verbose read s args.files
  match files.ending with
  | some ending => ⟨ready ++ files.events, ending, some files.session⟩
  | none =>
    if args.prompts then
      let r := Prompt.start args.verbose files.session lines
      ⟨ready ++ files.events ++ r.events, promptEnding r.result, some r.session⟩
    else ⟨ready ++ files.events, .exit 0, some files.session⟩

/-- Runs the command for given arguments. -/
def runArguments (args : Arguments) (vars : Variables)
    (read : String → Except FileError String) (lines : List String) : Outcome :=
  match Session.start args.options vars Store.empty with
  | .error e => ⟨[], .failure e, none⟩
  | .ok s => runSession args read lines s

/-- The whole command: the arguments, the variables of the surroundings, the files and the lines of
the standard input. -/
def run (argv : List String) (vars : Variables) (files : Files) (lines : List String) :
    Outcome :=
  match parseArguments argv with
  | .help => ⟨[.output helpText], .exit 0, none⟩
  | .complaint message => ⟨[.complaint (complaintText message)], .exit 2, none⟩
  | .run args => runArguments args vars files.read lines

end SmallLisp.CommandLine
