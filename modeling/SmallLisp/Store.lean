import SmallLisp.Error
import SmallLisp.Value.Compare
import SmallLisp.Value.Printer

/-!
# Scopes and the store

A scope binds symbols to values and may lie within an outer scope. The store holds all scopes, and
a scope is named by its place in the store. A name is looked up in a scope first, then in the
scope around it, and so on outward. Definitions only change the scope they are made in.

## Main definitions

* `Scope`: bindings in the order of first definition, and the scope around
* `Store`: the scopes, and the next identity for a function or built-in procedure
* `Store.find?`: the value of a symbol in the nearest scope that binds it
* `Store.chain`: a scope and the scopes around it
* `StoreM`: a computation that may change the store and may fail
* `define`, `defineAll`, `createScope`, `lookup`, `isBound`: the operations on scopes with checked
  names
* `showScope`, `showChain`: scopes as text
-/

namespace SmallLisp

/-- Bindings in the order of first definition, and the scope around. -/
structure Scope where
  bindings : List (Symbol × Value)
  outer : Option ScopeId

namespace Scope

/-- The value of a symbol among bindings. -/
def getBinding? (x : Symbol) : List (Symbol × Value) → Option Value
  | [] => none
  | b :: bs => if b.1 = x then some b.2 else getBinding? x bs

/-- The value of a symbol in a scope. -/
def get? (sc : Scope) (x : Symbol) : Option Value :=
  getBinding? x sc.bindings

/-- Binds `x` to `v`: in its old place if it was bound, else at the end. -/
def putBinding (x : Symbol) (v : Value) : List (Symbol × Value) → List (Symbol × Value)
  | [] => [(x, v)]
  | b :: bs => if b.1 = x then (x, v) :: bs else b :: putBinding x v bs

/-- Binds `x` to `v` in a scope. -/
def put (sc : Scope) (x : Symbol) (v : Value) : Scope :=
  { sc with bindings := putBinding x v sc.bindings }

/-- Binds each symbol to the value at the same place, in order. -/
def putAll (sc : Scope) (xs : List Symbol) (vs : List Value) : Scope :=
  (xs.zip vs).foldl (fun sc b => sc.put b.1 b.2) sc

@[simp] theorem outer_put (sc : Scope) (x : Symbol) (v : Value) : (sc.put x v).outer = sc.outer :=
  rfl

theorem getBinding?_putBinding (x y : Symbol) (v : Value) (bs : List (Symbol × Value)) :
    getBinding? y (putBinding x v bs) = if x = y then some v else getBinding? y bs := by
  induction bs with
  | nil => simp [putBinding, getBinding?]
  | cons b bs ih =>
    by_cases hb : b.1 = x
    · by_cases h : x = y <;> simp [putBinding, getBinding?, hb, h]
    · by_cases h : b.1 = y
      · have hy : x ≠ y := fun e => hb (h.trans e.symm)
        simp [putBinding, getBinding?, h, hy, hy.symm]
      · simp [putBinding, getBinding?, hb, h, ih]

theorem get?_put (sc : Scope) (x y : Symbol) (v : Value) :
    (sc.put x v).get? y = if x = y then some v else sc.get? y :=
  getBinding?_putBinding x y v sc.bindings

end Scope

/-- All scopes, and the next identity for a function or a built-in procedure. -/
structure Store where
  scopes : Array Scope
  nextId : Nat

namespace Store

/-- The store without scopes. -/
def empty : Store where
  scopes := #[]
  nextId := 0

/-- The store with one scope more, which is the last. -/
def push (s : Store) (sc : Scope) : Store :=
  { s with scopes := s.scopes.push sc }

/-- The store with one scope changed. -/
def modify (s : Store) (i : ScopeId) (f : Scope → Scope) : Store :=
  { s with scopes := s.scopes.modify i f }

/-- The value of a symbol in the nearest of `fuel` scopes, from the scope `i` outward. -/
def findFrom (s : Store) (x : Symbol) : Nat → ScopeId → Option Value
  | 0, _ => none
  | fuel + 1, i =>
    match s.scopes[i]? with
    | none => none
    | some sc =>
      match sc.get? x with
      | some v => some v
      | none =>
        match sc.outer with
        | none => none
        | some o => findFrom s x fuel o

/-- The value of a symbol in the nearest scope that binds it, from the scope `i` outward. No
chain visits more scopes than there are. -/
def find? (s : Store) (i : ScopeId) (x : Symbol) : Option Value :=
  s.findFrom x s.scopes.size i

/-- At most `fuel` scopes, from the scope `i` outward. -/
def chainFrom (s : Store) : Nat → ScopeId → List Scope
  | 0, _ => []
  | fuel + 1, i =>
    match s.scopes[i]? with
    | none => []
    | some sc =>
      match sc.outer with
      | none => [sc]
      | some o => sc :: chainFrom s fuel o

/-- A scope and the scopes around it, the innermost first. -/
def chain (s : Store) (i : ScopeId) : List Scope :=
  s.chainFrom s.scopes.size i

theorem findFrom_eq_findSome? (s : Store) (x : Symbol) (fuel : Nat) (i : ScopeId) :
    s.findFrom x fuel i = (s.chainFrom fuel i).findSome? (·.get? x) := by
  induction fuel generalizing i with
  | zero => rfl
  | succ fuel ih =>
    simp only [findFrom, chainFrom]
    cases s.scopes[i]? with
    | none => rfl
    | some sc =>
      cases hg : sc.get? x with
      | some v => cases ho : sc.outer <;> simp [hg, ho]
      | none => cases ho : sc.outer <;> simp [hg, ho, ih]

/-- A symbol has the value that the first scope of the chain with a binding gives it. -/
theorem find?_eq_findSome?_chain (s : Store) (i : ScopeId) (x : Symbol) :
    s.find? i x = (s.chain i).findSome? (·.get? x) :=
  findFrom_eq_findSome? s x s.scopes.size i

end Store

/-! ## Computations on the store -/

/-- A computation that may change the store and may fail. Changes made before a failure stay. -/
abbrev StoreM := EStateM Error Store

namespace StoreM

/-- A result that does not depend on the store. -/
def ofResult {α : Type} : Except Error α → StoreM α
  | .ok a => pure a
  | .error e => throw e

/-- Adds a scope. -/
def pushScope (sc : Scope) : StoreM ScopeId := fun s =>
  .ok s.scopes.size (s.push sc)

/-- Adds an empty scope within `outer`. -/
def childScope (outer : ScopeId) : StoreM ScopeId :=
  pushScope ⟨[], some outer⟩

/-- A new identity. -/
def freshId : StoreM Nat := fun s =>
  .ok s.nextId { s with nextId := s.nextId + 1 }

/-- Binds a symbol in a scope. -/
def bindSymbol (i : ScopeId) (x : Symbol) (v : Value) : StoreM Unit := fun s =>
  .ok () (s.modify i (·.put x v))

/-- Binds symbols in a scope to the values at the same places. -/
def bindSymbols (i : ScopeId) (xs : List Symbol) (vs : List Value) : StoreM Unit := fun s =>
  .ok () (s.modify i (·.putAll xs vs))

/-- The value of a symbol as seen from a scope. -/
def findSymbol (i : ScopeId) (x : Symbol) : StoreM Value := fun s =>
  match s.find? i x with
  | some v => .ok v s
  | none => .error (.unbound x.name) s

end StoreM

open StoreM

/-! ## Operations with checked names

What is not a symbol is shown in an error. The operations are given the room to write it in.
-/

/-- The symbol that a value to be bound has to be. -/
def asSymbol (room : Nat) : Value → StoreM Symbol
  | .sym x => pure x
  | v => throw (.showing (v.inspect room) .notASymbol)

/-- Binds a name in a scope. The name has to be a symbol. -/
def define (room : Nat) (i : ScopeId) (name value : Value) : StoreM Unit := do
  let x ← asSymbol room name
  bindSymbol i x value

/-- Pairs with each key once, at the place where it comes first and with the value it has
last. -/
def mergePairs (pairs : List (Value × Value)) : List (Value × Value) :=
  pairs.foldl (fun done p =>
    if done.any (·.1.same p.1) then
      done.map fun q => if q.1.same p.1 then (q.1, p.2) else q
    else done ++ [p]) []

/-- Binds names in a scope, one after another. -/
def defineEach (room : Nat) (i : ScopeId) : List (Value × Value) → StoreM Unit
  | [] => pure ()
  | p :: ps => do
    define room i p.1 p.2
    defineEach room i ps

/-- Binds the names of a table in a scope. The names before one that is not a symbol stay
bound. -/
def defineAll (room : Nat) (i : ScopeId) (pairs : List (Value × Value)) : StoreM Unit :=
  if pairs.all (·.1.isKey) then defineEach room i (mergePairs pairs) else throw .notAKey

/-- The symbols that values to be bound have to be. -/
def asSymbols (room : Nat) : List Value → StoreM (List Symbol)
  | [] => pure []
  | v :: vs => do
    let x ← asSymbol room v
    let xs ← asSymbols room vs
    pure (x :: xs)

/-- Adds a scope that binds parameters to arguments. -/
def createScope (room : Nat) (params args : List Value) (outer : Option ScopeId) :
    StoreM ScopeId := do
  if params.length ≠ args.length then
    throw (.bindingCount params.length args.length)
  let xs ← asSymbols room params
  pushScope (Scope.putAll ⟨[], outer⟩ xs args)

/-- The value of a name as seen from a scope. Only symbols are ever bound. -/
def lookup (room : Nat) (i : ScopeId) (name : Value) : StoreM Value :=
  match name with
  | .sym x => findSymbol i x
  | v => throw (if v.isKey then .showing (v.plain room) .unbound else .notAKey)

/-- Whether a name is bound as seen from a scope. -/
def isBound (room : Nat) (i : ScopeId) (name : Value) : StoreM Bool := fun s =>
  match lookup room i name s with
  | .ok _ s => .ok true s
  | .error (.unbound _) s => .ok false s
  | .error e s => .error e s

/-! ## Scopes as text -/

/-- A binding as text. -/
def bindingText (room : Nat) (b : Symbol × Value) : Except TextFault String :=
  (b.2.inspect room).map fun t => b.1.name ++ ": " ++ t

/-- The bindings of a scope as text. -/
def bindingsText (room : Nat) (bindings : List (Symbol × Value)) : Except TextFault String :=
  (bindings.mapM (bindingText room)).map fun ts => "\x7b" ++ Text.joinWith ", " ts ++ "\x7d"

/-- A scope as text, with a mark if it lies within another. -/
def showScope (room : Nat) (s : Store) (i : ScopeId) : Except Error String :=
  match s.scopes[i]? with
  | none => .ok "\x7b\x7d"
  | some sc =>
    match bindingsText room sc.bindings with
    | .error fault => .error fault.error
    | .ok t => .ok (if sc.outer.isSome then t ++ " -> ..." else t)

/-- A scope and the scopes around it as text. -/
def showChain (room : Nat) (s : Store) (i : ScopeId) : Except Error String :=
  match (s.chain i).mapM fun sc => bindingsText room sc.bindings with
  | .error fault => .error fault.error
  | .ok ts => .ok ("<Environment chain: " ++ Text.joinWith " -> " ts ++ ">")

end SmallLisp
