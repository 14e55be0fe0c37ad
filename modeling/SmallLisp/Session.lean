import SmallLisp.Builtin.Registry
import SmallLisp.Reader
import SmallLisp.Settings

/-!
# Sessions

A session is a root scope with the built-in names, a scoping mode and a bound on nesting. It lasts
over many evaluations, and what they define stays bound.

## Main definitions

* `Session`: the state of a session
* `Options`: what a session is begun with
* `Session.start`: a new session
* `Session.evalForm`, `Session.evalText`: evaluation in the root scope
* `Session.define`: binds a value of the surrounding program
-/

namespace SmallLisp

/-- The state of a session. -/
structure Session where
  scoping : Scoping
  limit : Nat
  store : Store
  root : ScopeId

/-- What a session is begun with: a scoping mode by name, a bound on nesting, and a text that is
evaluated first. What is not given is taken from the settings. -/
structure Options where
  scoping : Option String
  limit : RequestedLimit
  prelude : String

/-- An error of the settings as an error of a run. -/
def settingResult {α : Type} (r : Except SettingError α) : Except Error α :=
  r.mapError .setting

/-- The scoping mode of a session. -/
def Options.mode (o : Options) (vars : Variables) : Except SettingError Scoping :=
  match o.scoping with
  | none => scopingSetting vars
  | some name =>
    match Scoping.ofName? name with
    | some mode => .ok mode
    | none => .error (.scopingName name)

/-- The bound on nesting of a session. -/
def Options.bound (o : Options) (vars : Variables) : Except SettingError Nat := do
  let limit ← o.limit.value vars
  hostLimit limit

namespace Session

/-- A session with the built-in names and nothing else, in a store that may hold scopes already. -/
def initial (scoping : Scoping) (limit : Nat) (store : Store) : Session where
  scoping := scoping
  limit := limit
  store := (store.push ⟨[], none⟩).register store.scopes.size
  root := store.scopes.size

/-- Runs an action on the store of a session. -/
def act {α : Type} (s : Session) (action : StoreM α) : Except Error α × Session :=
  match action s.store with
  | .ok a store => (.ok a, { s with store := store })
  | .error e store => (.error e, { s with store := store })

/-- Evaluates a form in the root scope. -/
def evalForm (s : Session) (form : Value) : Except Error Value × Session :=
  s.act (evaluate s.scoping s.limit form s.root)

/-- Evaluates forms one after another, up to the first that fails. -/
def evalForms (s : Session) : List Value → Except Error (List Value) × Session
  | [] => (.ok [], s)
  | form :: forms =>
    match s.evalForm form with
    | (.error e, s) => (.error e, s)
    | (.ok v, s) =>
      match evalForms s forms with
      | (.error e, s) => (.error e, s)
      | (.ok vs, s) => (.ok (v :: vs), s)

/-- The forms of a text. -/
def parseAll (s : Session) (text : String) : Except Error (List Value) :=
  (SmallLisp.parseAll s.limit text).mapError .read

/-- The value of a text with these values of its forms: none without forms, the value of a single
form, and a list otherwise. -/
def textValue : List Value → Value
  | [] => .nothing
  | [v] => v
  | vs => .list vs

/-- Evaluates all forms of a text in the root scope. -/
def evalText (s : Session) (text : String) : Except Error Value × Session :=
  match s.parseAll text with
  | .error e => (.error e, s)
  | .ok forms =>
    match s.evalForms forms with
    | (.error e, s) => (.error e, s)
    | (.ok vs, s) => (.ok (textValue vs), s)

/-- A new session in a store, after its prelude. -/
def start (o : Options) (vars : Variables) (store : Store) : Except Error Session := do
  let mode ← settingResult (o.mode vars)
  let limit ← settingResult (o.bound vars)
  let s := initial mode limit store
  if o.prelude.isEmpty then pure s
  else
    match s.evalText o.prelude with
    | (.ok _, s) => pure s
    | (.error e, _) => throw e

/-- Binds a value in the root scope. -/
def define (s : Session) (name : Symbol) (v : Value) : Session :=
  (s.act (StoreM.bindSymbol s.root name v)).2

/-- Binds an added procedure in the root scope under its own name. -/
def defineExtension (s : Session) (name : Symbol) (e : Extension) : Session :=
  let action := do
    let id ← StoreM.freshId
    StoreM.bindSymbol s.root name (.builtin ⟨id, name.name, .extension e, none⟩)
  (s.act action).2

/-- The value of a name as seen from the root scope. -/
def find (s : Session) (name : String) : Except Error Value :=
  (s.act (StoreM.findSymbol s.root ⟨name⟩)).1

/-- The bindings of the root scope. -/
def bindings (s : Session) : List (Symbol × Value) :=
  match s.store.scopes[s.root]? with
  | some sc => sc.bindings
  | none => []

end Session

end SmallLisp
