import SmallLisp.Builtin.Call
import SmallLisp.Format
import SmallLisp.Store
import SmallLisp.Text.Case

/-!
# Evaluation

A value is evaluated in a scope. Numbers and booleans are their own values, a symbol has the value
it is bound to, and a list or a tuple is a special form or an application. The head and the
arguments of an application are each evaluated in a scope of their own.

A function is a closure if it was defined under lexical scoping. A closure runs in a new scope
within the one it was defined in. Any other function binds its parameters in the scope of the call
itself, where they stay bound, and runs in a new scope within that.

Evaluations may be nested only as deeply as there is room on a stack. An evaluation takes one
place, and what stands between it and an evaluation nested in it takes others: none for the head
of an application, one for an argument or a part of a special form, and two for the body of a
function. A value that is written on the way, into a template or an error, has to be written in the
room that is left there. One step of evaluation is defined for any evaluators of what is nested in
it and any room to write values in, and the evaluators follow by recursion on the room.

## Main definitions

* `Scoping`: the two ways functions are defined
* `SpecialForm`: the forms with rules of their own
* `Nested`: what evaluates what is nested in a value
* `step`: one step of evaluation
* `nestedWithin`, `evalWithin`: evaluation within a given room
* `evaluate`: evaluation that reports too deep nesting as an error of the language
-/

namespace SmallLisp

open StoreM

/-- How functions find what is not a parameter: in the scope of the call, or in the scope of their
definition. -/
inductive Scoping where
  | dynamic
  | lexical
  deriving DecidableEq, Repr

/-- The name of a scoping mode. -/
def Scoping.name : Scoping → String
  | .dynamic => "dynamic"
  | .lexical => "lexical"

/-- The scoping mode with a name. -/
def Scoping.ofName? (name : String) : Option Scoping :=
  if name = "dynamic" then some .dynamic
  else if name = "lexical" then some .lexical
  else none

/-- The scope that a function captures if it is defined in `scope`. -/
def Scoping.captured : Scoping → ScopeId → Option ScopeId
  | .dynamic, _ => none
  | .lexical, scope => some scope

/-- The forms with rules of their own. -/
inductive SpecialForm where
  | conditional
  | definition
  | format
  deriving DecidableEq, Repr

/-- The special form a symbol stands for, whatever it is bound to. -/
def SpecialForm.ofSymbol? (x : Symbol) : Option SpecialForm :=
  if x.name = "if" then some .conditional
  else if x.name = "defun" then some .definition
  else if x.name = "format" then some .format
  else none

/-- What evaluates a value in a scope. -/
abbrev Evaluator := Value → ScopeId → StoreM Value

/-- What evaluates what is nested in a value, by the number of places that are taken between the
two evaluations. -/
abbrev Nested := Nat → Evaluator

/-- The places between an application and its head. -/
def headPlaces : Nat := 0

/-- The places between an application and one of its arguments. -/
def argumentPlaces : Nat := 1

/-- The places between a special form and one of its parts. -/
def partPlaces : Nat := 1

/-- The places between an application and what it calls, such as the body of a function. -/
def bodyPlaces : Nat := 2

/-- Evaluates a value in a new scope within `scope`. -/
def evalInChild (ev : Evaluator) (expr : Value) (scope : ScopeId) : StoreM Value := do
  let child ← childScope scope
  ev expr child

/-- Evaluates values one after another, each in a new scope. -/
def evalEach (ev : Evaluator) (scope : ScopeId) : List Value → StoreM (List Value)
  | [] => pure []
  | expr :: exprs => do
    let v ← evalInChild ev expr scope
    let vs ← evalEach ev scope exprs
    pure (v :: vs)

/-! ## Special forms -/

/-- The conditional `(if condition then else)`. Only the boolean false chooses the last part. -/
def evalIf (ev : Nested) (tail : List Value) (scope : ScopeId) : StoreM Value :=
  match tail with
  | [condition, thenPart, elsePart] => do
    let c ← evalInChild (ev partPlaces) condition scope
    match c with
    | .bool false => evalInChild (ev partPlaces) elsePart scope
    | _ => evalInChild (ev partPlaces) thenPart scope
  | _ => throw (.arity "if" 3 tail.length)

/-- The parameters of a definition, which have to be symbols. -/
def parameters (room : Nat) : List Value → Except Error (List Symbol)
  | [] => .ok []
  | .sym x :: vs => (parameters room vs).map (x :: ·)
  | v :: _ => .error (.showing (v.inspect room) .parameterName)

/-- The parts of a definition `(defun name (parameter …) body)`. -/
structure Definition where
  name : Symbol
  params : List Symbol
  body : Value

/-- The definition that the parts of a form give. A part of the wrong sort is shown in an error, for
which there is the given room. -/
def Definition.ofParts (room : Nat) (tail : List Value) : Except Error Definition :=
  match tail with
  | [.sym x, .list ps, body] => (parameters room ps).map fun xs => ⟨x, xs, body⟩
  | [.sym x, v, _] => .error (.showing (v.inspect room) (.parameterList x.name))
  | [v, _, _] => .error (.showing (v.inspect room) .functionName)
  | _ => .error (.arity "defun" 3 tail.length)

/-- The text that a definition gives as its value. -/
def definitionNotice (name : Symbol) : String :=
  "Defined function: " ++ String.ofList (Text.upper name.name.toList)

/-- The definition of a function, which is bound in the scope itself. -/
def evalDefun (mode : Scoping) (room : Nat) (tail : List Value) (scope : ScopeId) :
    StoreM Value := do
  let d ← ofResult (Definition.ofParts room tail)
  let id ← freshId
  bindSymbol scope d.name (.function id d.name d.params d.body (mode.captured scope))
  pure (.str (definitionNotice d.name))

/-- A text without its double quotes. -/
def withoutQuotes (t : String) : String :=
  String.ofList (t.toList.filter (· != '"'))

/-- The template that values give: the printed values without double quotes, joined by spaces. -/
def templateText (room : Nat) (words : List Value) : Except TextFault String :=
  (Value.renderAll .printed room words).map fun ts => Text.joinWith " " (ts.map withoutQuotes)

/-- The values of a template that are words, and the last one if it is a list to be evaluated. -/
def splitFill (parts : List Value) : List Value × Option Value :=
  match parts.getLast? with
  | some (.list vs) => (parts.dropLast, some (.list vs))
  | _ => (parts, none)

/-- A template filled with a value. -/
def filled (room : Nat) (template : String) (v : Value) : Except Error Value :=
  match v.print room with
  | .ok t => .ok (.str (fillPlaceholders template t))
  | .error fault => .error fault.error

/-- The form `(format destination word … (fill))`. The words are not evaluated. The value of the
last part, if it is a list, fills the placeholders. -/
def evalFormat (room : Nat) (ev : Nested) (tail : List Value) (scope : ScopeId) : StoreM Value :=
  match tail with
  | [] => throw (.arityAtLeast "format" 1 0)
  | _ :: parts =>
    match templateText room (splitFill parts).1, (splitFill parts).2 with
    | .error fault, _ => throw fault.error
    | .ok template, none => pure (.str template)
    | .ok template, some expr => do
      let v ← evalInChild (ev partPlaces) expr scope
      ofResult (filled room template v)

/-- A special form, which takes places of the room itself. -/
def evalSpecial (mode : Scoping) (room : Nat) (ev : Nested) (form : SpecialForm)
    (tail : List Value) (scope : ScopeId) : StoreM Value :=
  match form with
  | .conditional => evalIf ev tail scope
  | .definition => evalDefun mode (room - partPlaces) tail scope
  | .format => evalFormat (room - partPlaces) ev tail scope

/-! ## Applications -/

/-- Applies a function to arguments in the scope of the call. -/
def applyFunction (ev : Nested) (name : Symbol) (params : List Symbol) (body : Value)
    (closure : Option ScopeId) (args : List Value) (scope : ScopeId) : StoreM Value :=
  if args.length ≠ params.length then throw (.arity name.name params.length args.length)
  else
    match closure with
    | some defining => do
      let inner ← pushScope (Scope.putAll ⟨[], some defining⟩ params args)
      ev bodyPlaces body inner
    | none => do
      bindSymbols scope params args
      evalInChild (ev bodyPlaces) body scope

/-- Applies the value of a head to arguments. Numbers, booleans and texts give themselves. -/
def apply (room : Nat) (ev : Nested) (head : Value) (args : List Value) (scope : ScopeId) :
    StoreM Value :=
  match head with
  | .function _ name params body closure => applyFunction ev name params body closure args scope
  | .int n => pure (.int n)
  | .float x => pure (.float x)
  | .bool b => pure (.bool b)
  | .str s => pure (.str s)
  | .builtin b => ofResult (b.call room args)
  | v => throw (.showing (v.inspect room) .notApplicable)

/-- An application: the head and the arguments are evaluated, and the one applied to the
others. -/
def evalApplication (room : Nat) (ev : Nested) (head : Value) (tail : List Value)
    (scope : ScopeId) : StoreM Value := do
  let f ← evalInChild (ev headPlaces) head scope
  let args ← evalEach (ev argumentPlaces) scope tail
  apply (room - bodyPlaces) ev f args scope

/-- A special form or an application, by its items. -/
def evalItems (mode : Scoping) (room : Nat) (ev : Nested) (items : List Value)
    (scope : ScopeId) : StoreM Value :=
  match items with
  | [] => throw .emptyApplication
  | head :: tail =>
    match head with
    | .sym x =>
      match SpecialForm.ofSymbol? x with
      | some form => evalSpecial mode room ev form tail scope
      | none => evalApplication room ev head tail scope
    | _ => evalApplication room ev head tail scope

/-! ## Evaluation -/

/-- One step of evaluation, by the room to write values in and by what evaluates what is nested in
the value. -/
def step (mode : Scoping) (room : Nat) (ev : Nested) : Evaluator := fun expr scope =>
  match expr with
  | .int n => pure (.int n)
  | .float x => pure (.float x)
  | .bool b => pure (.bool b)
  | .sym x => findSymbol scope x
  | .list items => evalItems mode room ev items scope
  | .tuple items => evalItems mode room ev items scope
  | v => throw (.showing (v.inspect room) .notEvaluable)

/-- Evaluation within a room of which some places are taken first. -/
def nestedWithin (mode : Scoping) : Nat → Nested
  | 0 => fun _ _ _ => throw .stackExhausted
  | room + 1 => fun taken =>
    match taken with
    | 0 => step mode room (nestedWithin mode room)
    | taken + 1 => nestedWithin mode room taken

/-- Evaluation within a room. -/
def evalWithin (mode : Scoping) (room : Nat) : Evaluator :=
  nestedWithin mode room 0

/-- The error that evaluation reports: too deep nesting, also within an added procedure, is an
error of the language. -/
def reportedError : Error → Error
  | .stackExhausted => .recursion
  | .extension .recursion => .recursion
  | e => e

/-- Evaluates a value in a scope, within a room. -/
def evaluate (mode : Scoping) (room : Nat) (expr : Value) (scope : ScopeId) : StoreM Value :=
  fun s =>
    match evalWithin mode room expr scope s with
    | .ok v s => .ok v s
    | .error e s => .error (reportedError e) s

end SmallLisp
