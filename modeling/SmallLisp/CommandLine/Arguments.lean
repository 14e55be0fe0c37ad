import SmallLisp.Settings
import SmallLisp.Text.Quoted

/-!
# Arguments of the command line

Arguments are options or plain words. Long options may be shortened as long as they stay unique and
may hold a value after an equals sign. Short options may be joined. A separator makes all words
after it plain. The first run of plain words gives the files, and later ones are not recognized.

## Main definitions

* `Flag`: the options
* `Word`: an argument by its role
* `Arguments`: what was asked for
* `Answer`: arguments, a call for help, or a complaint
* `parseArguments`: the meaning of a list of arguments
-/

namespace SmallLisp.CommandLine

/-- The options. -/
inductive Flag where
  | help
  | interactive
  | lexical
  | recursionLimit
  | verbose
  deriving DecidableEq, Repr

/-- All options. -/
def Flag.all : List Flag :=
  [.help, .interactive, .lexical, .recursionLimit, .verbose]

/-- The spellings of an option. -/
def Flag.spellings : Flag → List String
  | .help => ["-h", "--help"]
  | .interactive => ["-i", "--interactive"]
  | .lexical => ["--lexical"]
  | .recursionLimit => ["--recursion-limit"]
  | .verbose => ["-v", "--verbose"]

/-- Whether an option takes a value. -/
def Flag.takesValue : Flag → Bool
  | .recursionLimit => true
  | _ => false

/-- All spellings with their options, in order. -/
def spellingTable : List (String × Flag) :=
  Flag.all.flatMap fun f => f.spellings.map fun s => (s, f)

/-- The option with a spelling. -/
def flagOf? (spelling : String) : Option Flag :=
  spellingTable.lookup spelling

/-- An argument by its role. -/
inductive Word where
  /-- A word that is no option. -/
  | plain (text : String)
  /-- The mark after which all words are plain. -/
  | separator
  /-- An option with the spelling it was found by, and the value that is attached to it. -/
  | option (flag : Flag) (short : Bool) (value : Option (List Char))
  /-- A word that looks like an option and is none. -/
  | unknown (text : String)
  deriving DecidableEq, Repr

/-- The text that stands for an argument in complaints. -/
def Word.text? : Word → Option String
  | .plain text => some text
  | .separator => some "--"
  | .unknown text => some text
  | .option .. => none

/-- The parts of a text before and after its first equals sign. -/
def splitAtEquals : List Char → Option (List Char × List Char)
  | [] => none
  | c :: cs =>
    if c = '=' then some ([], cs)
    else (splitAtEquals cs).map fun p => (c :: p.1, p.2)

/-- The spellings that begin with a text, with their options. -/
def spellingsFrom (start : List Char) : List (String × Flag) :=
  spellingTable.filter fun e => start.isPrefixOf e.1.toList

/-- Whether a character is a decimal digit of any script. -/
def isDecimal (c : Char) : Bool :=
  (Text.digitValue? c).isSome

/-- Whether a text looks like a negative number, perhaps with an end of line. -/
def looksNegative (cs : List Char) : Bool :=
  match cs with
  | '-' :: body =>
    let body := if body.getLast? = some '\n' then body.dropLast else body
    let rest := body.dropWhile isDecimal
    match rest with
    | [] => !body.isEmpty
    | '.' :: fraction => !fraction.isEmpty && fraction.all isDecimal
    | _ => false
  | _ => false

/-- A word that begins with a dash and is no spelling of an option. -/
def otherWord (text : String) : Word :=
  if looksNegative text.toList then .plain text
  else if text.toList.contains ' ' then .plain text
  else .unknown text

/-- A word in long form: an option if exactly one spelling begins with what stands before the
equals sign. -/
def longWord (text : String) : Except String Word :=
  let (start, value) := match splitAtEquals text.toList with
    | some (start, value) => (start, some value)
    | none => (text.toList, none)
  match spellingsFrom start with
  | [] => .ok (otherWord text)
  | [(_, flag)] => .ok (.option flag false value)
  | several =>
    .error ("ambiguous option: " ++ text ++ " could match " ++
      ", ".intercalate (several.map Prod.fst))

/-- A word in short form: an option by its first letter, with the rest attached. -/
def shortWord (text : String) : Word :=
  match flagOf? (String.ofList (text.toList.take 2)) with
  | some flag => .option flag true (some (text.toList.drop 2))
  | none => otherWord text

/-- The role of an argument in front of the separator. -/
def classify (text : String) : Except String Word :=
  match text.toList with
  | '-' :: second :: _ =>
    match flagOf? text with
    | some flag => .ok (.option flag (second ≠ '-') none)
    | none =>
      match splitAtEquals text.toList with
      | some (start, value) =>
        match flagOf? (String.ofList start) with
        | some flag => .ok (.option flag (second ≠ '-') (some value))
        | none => if second = '-' then longWord text else .ok (shortWord text)
      | none => if second = '-' then longWord text else .ok (shortWord text)
  | _ => .ok (.plain text)

/-- The roles of all arguments. -/
def classifyAll : List String → Except String (List Word)
  | [] => .ok []
  | text :: texts =>
    if text = "--" then .ok (.separator :: texts.map .plain)
    else do
      let w ← classify text
      let ws ← classifyAll texts
      pure (w :: ws)

/-! ## What was asked for -/

/-- What was asked for. -/
structure Arguments where
  files : List String
  interactive : Bool
  lexical : Bool
  recursionLimit : RequestedLimit
  verbose : Bool
  deriving DecidableEq, Repr

/-- The meaning of a list of arguments. -/
inductive Answer where
  | run (args : Arguments)
  | help
  | complaint (message : String)
  deriving DecidableEq, Repr

/-- The arguments under way: what was asked for so far, whether files were given, and what was not
recognized. -/
structure Progress where
  args : Arguments
  filesGiven : Bool
  extras : List String

/-- The reasons to stop. -/
inductive Stop where
  | help
  | complaint (message : String)

/-- A complaint about an option. -/
def complaintAbout {α : Type} (flag : Flag) (message : String) : Except Stop α :=
  .error (.complaint ("argument " ++ "/".intercalate flag.spellings ++ ": " ++ message))

/-- An option without a value. -/
def Progress.set (p : Progress) : Flag → Except Stop Progress
  | .help => .error .help
  | .interactive => .ok { p with args := { p.args with interactive := true } }
  | .lexical => .ok { p with args := { p.args with lexical := true } }
  | .verbose => .ok { p with args := { p.args with verbose := true } }
  | .recursionLimit => .ok p

/-- Options without values, one after another. -/
def Progress.setAll (p : Progress) : List Flag → Except Stop Progress
  | [] => .ok p
  | f :: fs => do
    let p ← p.set f
    p.setAll fs

/-- The option for the bound on nesting with its value. -/
def Progress.setLimit (p : Progress) (value : String) : Except Stop Progress :=
  match Number.int? value with
  | some n => .ok { p with args := { p.args with recursionLimit := .number n } }
  | none => complaintAbout .recursionLimit ("invalid int value: " ++ Text.quoted value)

/-- The options that are joined to a short option. -/
def joinedFlags (flag : Flag) : List Char → Except Stop (List Flag)
  | [] => .ok [flag]
  | c :: cs =>
    match flagOf? (String.ofList ['-', c]) with
    | some next => do
      let fs ← joinedFlags next cs
      pure (flag :: fs)
    | none =>
      complaintAbout flag ("ignored explicit argument " ++ Text.quoted (String.ofList (c :: cs)))

/-- The option for the bound on nesting with a value attached. A separator there is left out like
any other first one, and leaves no value. -/
def Progress.setAttachedLimit (p : Progress) (value : String) : Except Stop Progress :=
  if value = "--" then .ok { p with args := { p.args with recursionLimit := .withoutNumber } }
  else p.setLimit value

/-- An option with a value attached. -/
def Progress.setAttached (p : Progress) (flag : Flag) (short : Bool) (value : List Char) :
    Except Stop Progress :=
  if flag.takesValue then p.setAttachedLimit (String.ofList value)
  else if short && !value.isEmpty then do
    let fs ← joinedFlags flag value
    p.setAll fs
  else complaintAbout flag ("ignored explicit argument " ++ Text.quoted (String.ofList value))

/-- Words taken as files: the first separator among them is left out. -/
def Progress.addFile (p : Progress) (w : Word) (separatorSeen : Bool) : Progress :=
  match w with
  | .separator =>
    if separatorSeen then { p with args := { p.args with files := p.args.files ++ ["--"] } } else p
  | .plain text => { p with args := { p.args with files := p.args.files ++ [text] } }
  | _ => p

/-- Where in a list of arguments the next word stands: after an option, or among files, or among
words that are not recognized. -/
inductive Place where
  | between
  | files (separatorSeen : Bool)
  | extras
  deriving DecidableEq, Repr

/-- Takes a plain word: as a file if no run of files came to its end, else as not recognized. -/
def Progress.takePlain (p : Progress) (place : Place) (w : Word) : Progress × Place :=
  let separatorSeen := match place with
    | .files seen => seen
    | _ => false
  if place = .extras ∨ (place = .between ∧ p.filesGiven) then
    ({ p with extras := p.extras ++ w.text?.toList }, .extras)
  else
    ({ p.addFile w separatorSeen with filesGiven := true },
      .files (separatorSeen || w == .separator))

/-- Goes through the arguments. -/
def takeAll (p : Progress) (place : Place) : List Word → Except Stop Progress
  | [] => .ok p
  | .unknown text :: ws => takeAll { p with extras := p.extras ++ [text] } .between ws
  | .option flag short (some value) :: ws => do
    let p ← p.setAttached flag short value
    takeAll p .between ws
  | .option flag _ none :: ws =>
    if flag.takesValue then
      match ws with
      | .plain text :: ws => do
        let p ← p.setLimit text
        takeAll p .between ws
      | _ => complaintAbout flag "expected one argument"
    else do
      let p ← p.set flag
      takeAll p .between ws
  | w :: ws =>
    let (p, place) := p.takePlain place w
    takeAll p place ws

/-- Nothing asked for yet. -/
def Progress.start : Progress where
  args := ⟨[], false, false, .unset, false⟩
  filesGiven := false
  extras := []

/-- The meaning of a list of arguments. -/
def parseArguments (argv : List String) : Answer :=
  match classifyAll argv with
  | .error message => .complaint message
  | .ok words =>
    match takeAll Progress.start .between words with
    | .error .help => .help
    | .error (.complaint message) => .complaint message
    | .ok p =>
      if p.extras.isEmpty then .run p.args
      else .complaint ("unrecognized arguments: " ++ " ".intercalate p.extras)

/-! ## Texts -/

/-- How the command is called. -/
def usageText : String :=
  "usage: lisplet [-h] [-i] [--lexical] [--recursion-limit RECURSION_LIMIT] [-v]\n" ++
  "               [files ...]\n"

/-- What the command can do. -/
def helpText : String :=
  usageText ++
  "\n" ++
  "A small Lisp interpreter\n" ++
  "\n" ++
  "positional arguments:\n" ++
  "  files                 source files to run, in order\n" ++
  "\n" ++
  "options:\n" ++
  "  -h, --help            show this help message and exit\n" ++
  "  -i, --interactive     start a REPL after running the files\n" ++
  "  --lexical             give user functions lexical closures instead of call-\n" ++
  "                        site scoping\n" ++
  "  --recursion-limit RECURSION_LIMIT\n" ++
  "                        host recursion limit\n" ++
  "  -v, --verbose         log debug output\n"

/-- The text of a complaint about the arguments. -/
def complaintText (message : String) : String :=
  usageText ++ "lisplet: error: " ++ message ++ "\n"

end SmallLisp.CommandLine
