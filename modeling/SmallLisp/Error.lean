import SmallLisp.Fault
import SmallLisp.Text.Quoted
import SmallLisp.Text.Utf8

/-!
# Errors

Everything that can end a run, as causes. The wording of all causes is in one place, and each
cause has a kind, which tells whether it is an error of the language or one that no part of the
language accounts for.

## Main definitions

* `ReadError`: what keeps a text from being read
* `SettingError`: what is wrong with a setting
* `FileError`: what keeps a file from being read
* `TextFault`: what keeps a value from being written
* `Error`: all causes
* `ErrorKind`: the kinds of causes
* `Error.message`: the wording
-/

namespace SmallLisp

/-- What keeps a text from being read. -/
inductive ReadError where
  | endOfInput
  | unclosed
  | emptyInput
  | strayClosing
  | closingAfter
  | trailing (text : String)
  | tooDeep
  | notEnclosed
  | unbalanced (depth : Int)
  deriving DecidableEq, Repr

/-- What is wrong with a setting. -/
inductive SettingError where
  | scopingName (name : String)
  | scopingVariable (raw : String)
  | limitNotInteger (raw : String)
  | limitNotPositive (limit : Int)
  /-- The bound is named without a number. -/
  | limitWithoutNumber
  | limitTooLarge
  deriving DecidableEq, Repr

/-- What keeps a file from being read. -/
inductive FileError where
  | notFound (path : String)
  | isDirectory (path : String)
  | notADirectory (path : String)
  | nameTooLong (path : String)
  | nullByte
  | undecodable (cause : Text.DecodeError)
  deriving DecidableEq, Repr

/-- What keeps a value from being written. -/
inductive TextFault where
  /-- An integer has too many digits. -/
  | digitLimit
  /-- The value is nested more deeply than there is room for. -/
  | stackExhausted
  deriving DecidableEq, Repr

/-- The causes that end a run. Values that a message shows are kept as text. -/
inductive Error where
  | read (cause : ReadError)
  /-- Something other than a symbol is to be bound. -/
  | notASymbol (shown : String)
  | unbound (name : String)
  /-- A list, or a tuple that holds one, is looked for among names. -/
  | notAKey
  | arity (name : String) (expected actual : Nat)
  | arityAtLeast (name : String) (expected actual : Nat)
  | emptyApplication
  | notEvaluable (shown : String)
  | notApplicable (shown : String)
  | functionName (shown : String)
  | parameterList (name shown : String)
  | parameterName (shown : String)
  /-- An operation of the built-in procedure `name` fails. -/
  | builtin (name : String) (fault : Fault)
  /-- Evaluation is nested more deeply than the limit allows. -/
  | recursion
  /-- Evaluation, or the writing of a value, finds no more room, which is not or not yet reported as
  an error of the language. -/
  | stackExhausted
  /-- An added procedure fails in a way that is not a fault of an operation. -/
  | extension (failure : ExtensionFailure)
  /-- An integer has too many digits to be shown. -/
  | digitLimit
  /-- A value takes more memory than there is. -/
  | outOfMemory
  | bindingCount (params args : Nat)
  | setting (cause : SettingError)
  | file (cause : FileError)
  deriving DecidableEq, Repr

/-- The kinds of causes. -/
inductive ErrorKind where
  | unexpectedEnd
  | mismatchedParens
  | malformed
  | invalidSymbol
  | unboundSymbol
  | arity
  | type
  | arithmetic
  | recursion
  | value
  | overflow
  | runtime
  | stack
  | unsupported
  | memory
  | notFound
  | isDirectory
  | notADirectory
  | nameTooLong
  | undecodable
  deriving DecidableEq, Repr

/-- Whether errors of a kind are errors of the language. -/
def ErrorKind.isLanguage : ErrorKind → Bool
  | .unexpectedEnd | .mismatchedParens | .malformed | .invalidSymbol | .unboundSymbol | .arity
  | .type | .arithmetic | .recursion => true
  | _ => false

/-- Whether errors of a kind come from looking for a file. -/
def ErrorKind.isFileAccess : ErrorKind → Bool
  | .notFound | .isDirectory | .notADirectory | .nameTooLong => true
  | _ => false

namespace ReadError

/-- The kind of a cause. -/
def kind : ReadError → ErrorKind
  | .endOfInput | .unclosed | .emptyInput => .unexpectedEnd
  | .strayClosing | .closingAfter | .unbalanced _ => .mismatchedParens
  | .trailing _ | .tooDeep | .notEnclosed => .malformed

/-- The wording of a cause. -/
def message : ReadError → String
  | .endOfInput => "Unexpected EOF while reading"
  | .unclosed => "Unexpected EOF: unmatched '('"
  | .emptyInput => "Empty input"
  | .strayClosing => "Unexpected ')'"
  | .closingAfter => "Unexpected ')' after expression"
  | .trailing text => "Unexpected input after expression: " ++ text
  | .tooDeep => "Expression nested too deeply to read"
  | .notEnclosed => "Input must start with '(' and end with ')'"
  | .unbalanced depth =>
    "Mismatched parentheses: " ++
      (if 0 < depth then s!"{depth} unclosed '('" else s!"{-depth} unmatched ')'")

end ReadError

namespace SettingError

/-- The kind of a cause. -/
def kind : SettingError → ErrorKind
  | .limitTooLarge => .overflow
  | .limitWithoutNumber => .unsupported
  | _ => .value

/-- The wording of a cause. -/
def message : SettingError → String
  | .scopingName name => Text.quoted name ++ " is not a valid Scoping"
  | .scopingVariable raw =>
    "LISPLET_SCOPING must be one of dynamic, lexical, got " ++ Text.quoted raw
  | .limitNotInteger raw => "LISPLET_RECURSION_LIMIT must be an integer, got " ++ Text.quoted raw
  | .limitNotPositive limit => s!"LISPLET_RECURSION_LIMIT must be positive, got {limit}"
  | .limitWithoutNumber => "'>' not supported between instances of 'list' and 'int'"
  | .limitTooLarge => "Python int too large to convert to C int"

end SettingError

namespace FileError

/-- The kind of a cause. -/
def kind : FileError → ErrorKind
  | .notFound _ => .notFound
  | .isDirectory _ => .isDirectory
  | .notADirectory _ => .notADirectory
  | .nameTooLong _ => .nameTooLong
  | .nullByte => .value
  | .undecodable _ => .undecodable

/-- The wording of a cause. -/
def message : FileError → String
  | .notFound path => "[Errno 2] No such file or directory: " ++ Text.quoted path
  | .isDirectory path => "[Errno 21] Is a directory: " ++ Text.quoted path
  | .notADirectory path => "[Errno 20] Not a directory: " ++ Text.quoted path
  | .nameTooLong path => "[Errno 36] File name too long: " ++ Text.quoted path
  | .nullByte => "embedded null byte"
  | .undecodable cause => cause.message

end FileError

namespace ExtensionFailure

/-- The kind of a failure that is not a fault of an operation. -/
def kind : ExtensionFailure → ErrorKind
  | .zeroDivision => .arithmetic
  | .value => .value
  | .overflow => .overflow
  | .type => .type
  | .runtime => .runtime
  | .recursion => .stack
  | .language => .invalidSymbol

/-- The wording of a failure. -/
def message : ExtensionFailure → String
  | .zeroDivision => "host zero"
  | .value => "host value"
  | .overflow => "host overflow"
  | .type => "host type"
  | .runtime => "host runtime"
  | .recursion => "host recursion"
  | .language => "host lisp"

end ExtensionFailure

/-- The cause that a value cannot be written. -/
def TextFault.error : TextFault → Error
  | .digitLimit => .digitLimit
  | .stackExhausted => .stackExhausted

namespace Error

/-- The kind of a cause. -/
def kind : Error → ErrorKind
  | .read cause => cause.kind
  | .notASymbol _ => .invalidSymbol
  | .unbound _ => .unboundSymbol
  | .notAKey => .unsupported
  | .arity .. | .arityAtLeast .. => .arity
  | .emptyApplication | .notEvaluable _ | .notApplicable _ | .functionName _
  | .parameterList .. | .parameterName _ => .type
  | .builtin _ fault =>
    match fault.kind with
    | .type => .type
    | _ => .arithmetic
  | .recursion => .recursion
  | .stackExhausted => .stack
  | .extension failure => failure.kind
  | .digitLimit => .value
  | .outOfMemory => .memory
  | .bindingCount .. => .value
  | .setting cause => cause.kind
  | .file cause => cause.kind

/-- The cause that shows a text. If the text cannot be had, that is the cause. -/
def showing (text : Except TextFault String) (cause : String → Error) : Error :=
  match text with
  | .ok t => cause t
  | .error fault => fault.error

/-- Whether a cause is an error of the language. -/
def isLanguage (e : Error) : Bool :=
  e.kind.isLanguage

/-- The wording of a cause. -/
def message : Error → String
  | .read cause => cause.message
  | .notASymbol shown => "Cannot define " ++ shown ++ " as a symbol"
  | .unbound name => "Unbound symbol: " ++ name
  | .notAKey => "unhashable type: 'list'"
  | .arity name expected actual => s!"{name} expects {expected} argument(s), got {actual}"
  | .arityAtLeast name expected actual =>
    s!"{name} expects at least {expected} argument(s), got {actual}"
  | .emptyApplication => "Cannot evaluate an empty application ()"
  | .notEvaluable shown => "Cannot evaluate " ++ shown
  | .notApplicable shown => "Cannot apply non-function " ++ shown
  | .functionName shown => "defun: function name must be a symbol, got " ++ shown
  | .parameterList name shown =>
    "defun: parameter list expected for " ++ name ++ ", got " ++ shown
  | .parameterName shown => "defun: parameter names must be symbols, got " ++ shown
  | .builtin name fault => name ++ ": " ++ fault.message
  | .recursion => "Maximum recursion depth exceeded during evaluation"
  | .stackExhausted => "maximum recursion depth exceeded"
  | .extension failure => failure.message
  | .digitLimit => Fault.digitLimitText
  | .outOfMemory => ""
  | .bindingCount params args =>
    s!"Cannot bind {params} parameter(s) to {args} argument(s)"
  | .setting cause => cause.message
  | .file cause => cause.message

end Error

end SmallLisp
