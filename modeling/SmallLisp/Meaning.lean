import SmallLisp.Eval

/-!
# Meaning without a store

What a value means under given bindings, with no store that could change. Every part of a form is
taken under the same bindings. A definition inside a form is only checked and leaves nothing
behind, and a function is called by extending bindings with its parameters: those at the call, or,
for a closure, those of the scope it was defined in.

## Main definitions

* `Bindings`: what each symbol stands for
* `Store.view`: the bindings seen from a scope
* `meaningStep`: one step of the meaning of a value
* `nestedMeaning`, `meaning`: the meaning of a value, within a given room
-/

namespace SmallLisp

/-- What each symbol stands for. -/
abbrev Bindings := Symbol → Option Value

namespace Bindings

/-- The bindings with `x` bound to `v`. -/
def extend (ρ : Bindings) (x : Symbol) (v : Value) : Bindings := fun y =>
  if x = y then some v else ρ y

/-- The bindings with each symbol bound to the value at the same place, in order. -/
def extendAll (ρ : Bindings) (xs : List Symbol) (vs : List Value) : Bindings :=
  (xs.zip vs).foldl (fun ρ b => ρ.extend b.1 b.2) ρ

end Bindings

/-- The bindings seen from a scope. -/
def Store.view (s : Store) (i : ScopeId) : Bindings :=
  s.find? i

/-- What gives a value its meaning under bindings. -/
abbrev Interpretation := Value → Bindings → Except Error Value

/-- What gives their meaning to values that are nested in a value, by the number of places that are
taken between the two. -/
abbrev NestedInterpretation := Nat → Interpretation

/-- The meanings of values under the same bindings, up to the first that fails. -/
def meaningEach (m : Interpretation) (ρ : Bindings) : List Value → Except Error (List Value)
  | [] => .ok []
  | expr :: exprs => do
    let v ← m expr ρ
    let vs ← meaningEach m ρ exprs
    pure (v :: vs)

/-- The meaning of a special form. -/
def meaningSpecial (room : Nat) (m : NestedInterpretation) (form : SpecialForm)
    (tail : List Value) (ρ : Bindings) : Except Error Value :=
  match form with
  | .conditional =>
    match tail with
    | [condition, thenPart, elsePart] => do
      let c ← m partPlaces condition ρ
      match c with
      | .bool false => m partPlaces elsePart ρ
      | _ => m partPlaces thenPart ρ
    | _ => .error (.arity "if" 3 tail.length)
  | .definition =>
    (Definition.ofParts (room - partPlaces) tail).map fun d => .str (definitionNotice d.name)
  | .format =>
    match tail with
    | [] => .error (.arityAtLeast "format" 1 0)
    | _ :: parts =>
      match templateText (room - partPlaces) (splitFill parts).1, (splitFill parts).2 with
      | .error fault, _ => .error fault.error
      | .ok template, none => .ok (.str template)
      | .ok template, some expr => do
        let v ← m partPlaces expr ρ
        filled (room - partPlaces) template v

/-- The bindings in which the body of a function is taken, before its parameters are bound. -/
def calleeBindings (captured : ScopeId → Bindings) (closure : Option ScopeId) (ρ : Bindings) :
    Bindings :=
  match closure with
  | none => ρ
  | some scope => captured scope

/-- The meaning of an application, by the values of its head and its arguments. -/
def meaningApply (captured : ScopeId → Bindings) (room : Nat) (m : NestedInterpretation)
    (head : Value) (args : List Value) (ρ : Bindings) : Except Error Value :=
  match head with
  | .function _ name params body closure =>
    if args.length ≠ params.length then .error (.arity name.name params.length args.length)
    else m bodyPlaces body ((calleeBindings captured closure ρ).extendAll params args)
  | .int n => .ok (.int n)
  | .float x => .ok (.float x)
  | .bool b => .ok (.bool b)
  | .str s => .ok (.str s)
  | .builtin b => b.call room args
  | v => .error (.showing (v.inspect room) .notApplicable)

/-- The meaning of an application, by its parts. -/
def meaningApplication (captured : ScopeId → Bindings) (room : Nat) (m : NestedInterpretation)
    (head : Value) (tail : List Value) (ρ : Bindings) : Except Error Value := do
  let f ← m headPlaces head ρ
  let args ← meaningEach (m argumentPlaces) ρ tail
  meaningApply captured (room - bodyPlaces) m f args ρ

/-- The meaning of a special form or an application, by its items. -/
def meaningItems (captured : ScopeId → Bindings) (room : Nat) (m : NestedInterpretation)
    (items : List Value) (ρ : Bindings) : Except Error Value :=
  match items with
  | [] => .error .emptyApplication
  | head :: tail =>
    match head with
    | .sym x =>
      match SpecialForm.ofSymbol? x with
      | some form => meaningSpecial room m form tail ρ
      | none => meaningApplication captured room m head tail ρ
    | _ => meaningApplication captured room m head tail ρ

/-- One step of the meaning of a value, by the room to write values in and by the meaning of what is
nested in it. -/
def meaningStep (captured : ScopeId → Bindings) (room : Nat) (m : NestedInterpretation) :
    Interpretation :=
  fun expr ρ =>
    match expr with
    | .int n => .ok (.int n)
    | .float x => .ok (.float x)
    | .bool b => .ok (.bool b)
    | .sym x =>
      match ρ x with
      | some v => .ok v
      | none => .error (.unbound x.name)
    | .list items => meaningItems captured room m items ρ
    | .tuple items => meaningItems captured room m items ρ
    | v => .error (.showing (v.inspect room) .notEvaluable)

/-- The meaning of a value within a room of which some places are taken first. -/
def nestedMeaning (captured : ScopeId → Bindings) : Nat → NestedInterpretation
  | 0 => fun _ _ _ => .error .stackExhausted
  | room + 1 => fun taken =>
    match taken with
    | 0 => meaningStep captured room (nestedMeaning captured room)
    | taken + 1 => nestedMeaning captured room taken

/-- The meaning of a value within a room, where `captured` gives the bindings of the scopes that
closures were defined in. -/
def meaning (captured : ScopeId → Bindings) (room : Nat) : Interpretation :=
  nestedMeaning captured room 0

end SmallLisp
