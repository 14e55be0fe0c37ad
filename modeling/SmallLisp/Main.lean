import SmallLisp.CommandLine.Run

/-!
# The command

Reads the arguments, the settings, the files and the standard input, and writes what the library
says. Each step of a run is a function of the library, and nothing is decided here.
-/

namespace SmallLisp.CommandLine

/-- Writes events where they belong. -/
def emit (events : List Event) : IO Unit := do
  let out ← IO.getStdout
  let err ← IO.getStderr
  for event in events do
    out.putStr event.outputText
    err.putStr event.errorText
  out.flush
  err.flush

/-- What the system means by a path that is not a file. Some of its calls give the code of an error
with a minus sign. -/
def notAFile (code : UInt32) : FileEntry :=
  if code = 20 ∨ code = -20 then .beneathFile else .directory

/-- What the system means by a path that it does not take. -/
def notAPath (code : UInt32) : FileEntry :=
  if code = 36 ∨ code = -36 then .tooLong else .missing

/-- What is found under a path. -/
def readEntry (path : String) : IO FileEntry := do
  try
    let content ← IO.FS.readBinFile (plainPath path)
    pure (.bytes content.toList)
  catch e =>
    match e with
    | .inappropriateType _ code _ => pure (notAFile code)
    | .invalidArgument _ code _ => pure (notAPath code)
    | _ => pure .missing

/-- Ends the command. -/
def finish : Ending → IO UInt32
  | .exit status => pure (UInt32.ofNat status)
  | .failure e => do
    emit [.complaint (e.message ++ "\n")]
    pure 1

/-- The loop of the prompt. -/
partial def promptLoop (verbose : Bool) (p : Prompt) : IO UInt32 := do
  emit [.prompt (promptFor p.gathered)]
  let line ← (← IO.getStdin).getLine
  if line.isEmpty then
    emit [.output "\n"]
    finish (.exit 0)
  else
    let (events, continuation) := p.feed verbose (line.dropEndWhile (· == '\n')).copy
    emit events
    match continuation with
    | .next p => promptLoop verbose p
    | .quit _ => finish (.exit 0)
    | .failed e _ => finish (.failure e)

/-- Runs files in order, then the prompt if it is asked for. -/
def runPaths (args : Arguments) (s : Session) : List String → IO UInt32
  | [] => if args.prompts then promptLoop args.verbose ⟨s, []⟩ else finish (.exit 0)
  | path :: paths => do
    let r := s.runFileText args.verbose path (entryText path (← readEntry path))
    emit r.events
    match r.result with
    | .ok () => runPaths args r.session paths
    | .error e =>
      let (written, ending) := fileEnding path e
      emit written
      finish ending

/-- The settings among the variables of the surroundings. -/
def readVariables : IO Variables := do
  let found ← [scopingVariable, limitVariable].mapM fun name => do
    pure ((← IO.getEnv name).map fun value => (name, value))
  pure (found.filterMap id)

end SmallLisp.CommandLine

open SmallLisp SmallLisp.CommandLine in
/-- Runs the command with the given arguments. -/
def main (argv : List String) : IO UInt32 := do
  match parseArguments argv with
  | .help =>
    emit [.output helpText]
    finish (.exit 0)
  | .complaint message =>
    emit [.complaint (complaintText message)]
    finish (.exit 2)
  | .run args =>
    match Session.start args.options (← readVariables) Store.empty with
    | .error e => finish (.failure e)
    | .ok s =>
      emit (readyEvents args.verbose s)
      runPaths args s args.files
