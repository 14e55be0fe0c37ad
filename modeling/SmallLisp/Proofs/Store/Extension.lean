import SmallLisp.Eval
import SmallLisp.Proofs.Results

/-!
# Stores after a computation

A computation on the store gives a value or fails, and leaves a store behind in either case. Most
computations only add scopes: the store they leave extends the one they began with. An evaluation
in a scope may besides change the bindings of that scope, and nothing else.

## Main definitions

* `StoreM.outcome`, `StoreM.after`: what a computation gives, and the store it leaves
* `Scope.putEach`: a scope with bindings made one after another
* `Store.Extends`: all scopes are as they were, and there may be new ones
* `Store.ChangesOnly`: the same but for the bindings of one scope
* `StoreM.Grows`: a computation that only extends the store

## Main results

* `StoreM.Grows.bind`: computations one after another only extend the store if each does
* `Store.Extends.of_push`: what changes only a new scope extends the store without it
-/

namespace SmallLisp

namespace StoreM

variable {α β : Type}

/-- What a computation gives from the store `s`. -/
def outcome (m : StoreM α) (s : Store) : Except Error α :=
  match m s with
  | .ok a _ => .ok a
  | .error e _ => .error e

/-- The store that a computation leaves, also if it fails. -/
def after (m : StoreM α) (s : Store) : Store :=
  match m s with
  | .ok _ s' => s'
  | .error _ s' => s'

/-- The outcome of two computations in turn is that of the second in the store after the first. -/
theorem outcome_bind (m : StoreM α) (f : α → StoreM β) (s : Store) :
    outcome (m >>= f) s = outcome m s >>= fun a => outcome (f a) (after m s) := by
  simp only [outcome, after, bind, EStateM.bind, Except.bind]
  cases m s <;> rfl

/-- An error that does not come out of a computation does not come out of its first part. -/
theorem outcome_ne_error_of_bind {m : StoreM α} {f : α → StoreM β} {s : Store} {e : Error}
    (h : outcome (m >>= f) s ≠ .error e) : outcome m s ≠ .error e := by
  intro he
  rw [outcome_bind, he] at h
  exact h rfl

/-- After the first computation the second changes the store further. -/
theorem after_bind_ok {m : StoreM α} {s : Store} {a : α} (h : outcome m s = .ok a)
    (f : α → StoreM β) : after (m >>= f) s = after (f a) (after m s) := by
  simp only [outcome, after, bind, EStateM.bind] at h ⊢
  cases hm : m s with
  | ok b s' => simp_all
  | error e s' => simp [hm] at h

theorem after_bind_error {m : StoreM α} {s : Store} {e : Error} (h : outcome m s = .error e)
    (f : α → StoreM β) : after (m >>= f) s = after m s := by
  simp only [outcome, after, bind, EStateM.bind] at h ⊢
  cases hm : m s with
  | ok b s' => simp [hm] at h
  | error e s' => rfl

theorem eq_ok_iff {m : StoreM α} {s s' : Store} {a : α} :
    m s = .ok a s' ↔ outcome m s = .ok a ∧ after m s = s' := by
  simp only [outcome, after]
  cases m s <;> simp

theorem bind_of_eq_ok {m : StoreM α} {s s' : Store} {a : α} (h : m s = .ok a s')
    (f : α → StoreM β) : (m >>= f) s = f a s' := by
  simp only [bind, EStateM.bind, h]

@[simp] theorem outcome_ofResult (r : Except Error α) (s : Store) :
    outcome (ofResult r) s = r := by
  cases r <;> rfl

@[simp] theorem after_ofResult (r : Except Error α) (s : Store) : after (ofResult r) s = s := by
  cases r <;> rfl

theorem outcome_evaluate (mode : Scoping) (room : Nat) (expr : Value) (i : ScopeId) (s : Store) :
    outcome (evaluate mode room expr i) s =
      (outcome (evalWithin mode room expr i) s).mapError reportedError := by
  simp only [outcome, evaluate]
  cases evalWithin mode room expr i s <;> rfl

theorem after_evaluate (mode : Scoping) (room : Nat) (expr : Value) (i : ScopeId) (s : Store) :
    after (evaluate mode room expr i) s = after (evalWithin mode room expr i) s := by
  simp only [after, evaluate]
  cases evalWithin mode room expr i s <;> rfl

end StoreM

open StoreM

/-! ## Several bindings at once -/

/-- What is bound one after another to a symbol is the last value for it, whatever holds the
bindings. -/
theorem lookup_foldl {σ : Type} (get : σ → Symbol → Option Value) (put : σ → Symbol × Value → σ)
    (h : ∀ c b x, get (put c b) x = if b.1 = x then some b.2 else get c x)
    (bs : List (Symbol × Value)) (c : σ) (x : Symbol) :
    get (bs.foldl put c) x = (bs.reverse.lookup x).or (get c x) := by
  induction bs generalizing c with
  | nil => rfl
  | cons b bs ih =>
    obtain ⟨y, v⟩ := b
    rw [List.foldl_cons, ih, h, List.reverse_cons, List.lookup_append, Option.or_assoc]
    by_cases hx : y = x
    · simp [hx]
    · have hne : (x == y) = false := by simpa using Ne.symm hx
      simp [List.lookup_cons, hx, hne]

namespace Scope

/-- A scope with bindings made one after another. -/
def putEach (sc : Scope) (bs : List (Symbol × Value)) : Scope :=
  bs.foldl (fun sc b => sc.put b.1 b.2) sc

@[simp] theorem putEach_nil (sc : Scope) : sc.putEach [] = sc := rfl

@[simp] theorem outer_putEach (sc : Scope) (bs : List (Symbol × Value)) :
    (sc.putEach bs).outer = sc.outer :=
  List.foldlRecOn (motive := fun new : Scope => new.outer = sc.outer) bs _ rfl fun _ h _ _ => h

/-- The last value for a symbol stays. -/
theorem get?_putEach (sc : Scope) (bs : List (Symbol × Value)) (x : Symbol) :
    (sc.putEach bs).get? x = (bs.reverse.lookup x).or (sc.get? x) :=
  lookup_foldl (fun sc x => sc.get? x) _ (fun sc b x => sc.get?_put b.1 x b.2) bs sc x

@[simp] theorem putAll_nil (sc : Scope) (vs : List Value) : sc.putAll [] vs = sc := rfl

/-- What holds of a scope still holds after it binds the values, if each of them keeps it. -/
theorem putAll_induction {P : Scope → Prop} {sc : Scope} (h : P sc) (xs : List Symbol)
    {vs : List Value} (step : ∀ sc x, ∀ v ∈ vs, P sc → P (sc.put x v)) : P (sc.putAll xs vs) :=
  List.foldlRecOn _ _ h fun sc hsc b hb => step sc b.1 b.2 (List.of_mem_zip hb).2 hsc

@[simp] theorem outer_putAll (sc : Scope) (xs : List Symbol) (vs : List Value) :
    (sc.putAll xs vs).outer = sc.outer :=
  sc.outer_putEach (xs.zip vs)

/-- The last of the new values for a symbol counts, and without one the old value. -/
theorem get?_putAll (sc : Scope) (xs : List Symbol) (vs : List Value) (x : Symbol) :
    (sc.putAll xs vs).get? x = ((xs.zip vs).reverse.lookup x).or (sc.get? x) :=
  sc.get?_putEach (xs.zip vs) x

end Scope

namespace Store

/-! ## Scopes of changed stores -/

theorem scopes_push_of_some {s : Store} {j : ScopeId} {sc : Scope} (new : Scope)
    (h : s.scopes[j]? = some sc) : (s.push new).scopes[j]? = some sc := by
  have hj : j < s.scopes.size := (Array.getElem?_eq_some_iff.mp h).1
  have hne : j ≠ s.scopes.size := Nat.ne_of_lt hj
  simp only [push, Array.getElem?_push, if_neg hne, h]

@[simp] theorem scopes_push_size (s : Store) (new : Scope) :
    (s.push new).scopes[s.scopes.size]? = some new :=
  Array.getElem?_push_size

theorem scopes_modify_self {s : Store} {i : ScopeId} {sc : Scope} (f : Scope → Scope)
    (h : s.scopes[i]? = some sc) : (s.modify i f).scopes[i]? = some (f sc) := by
  simp [modify, Array.getElem?_modify, h]

/-- A change in one scope leaves the others as they were. -/
theorem scopes_modify_of_ne {s : Store} {i j : ScopeId} (f : Scope → Scope) (h : j ≠ i) :
    (s.modify i f).scopes[j]? = s.scopes[j]? := by
  simp [modify, Array.getElem?_modify, h.symm]

@[simp] theorem modify_id (s : Store) (i : ScopeId) : (s.modify i fun sc => sc) = s := by
  have h : s.scopes.modify i (fun sc => sc) = s.scopes := by
    ext1
    · exact Array.size_modify
    · simp [Array.getElem_modify]
  rw [modify, h]

theorem modify_modify (s : Store) (i : ScopeId) (f g : Scope → Scope) :
    (s.modify i f).modify i g = s.modify i fun sc => g (f sc) := by
  have hscopes : (s.scopes.modify i f).modify i g = s.scopes.modify i fun sc => g (f sc) := by
    apply Array.ext
    · simp only [Array.size_modify]
    · intro j hj hj'
      simp only [Array.getElem_modify]
      split <;> rfl
  simp only [modify, hscopes]

/-! ## Stores with more scopes -/

/-- All scopes of `s` are in `s'` as they were. -/
def Extends (s s' : Store) : Prop :=
  ∀ (j : ScopeId) (sc : Scope), s.scopes[j]? = some sc → s'.scopes[j]? = some sc

theorem Extends.refl (s : Store) : s.Extends s := fun _ _ h => h

theorem Extends.trans {s₁ s₂ s₃ : Store} (h : s₁.Extends s₂) (h' : s₂.Extends s₃) :
    s₁.Extends s₃ :=
  fun j sc hj => h' j sc (h j sc hj)

/-- A new scope leaves the others as they were. -/
theorem extends_push (s : Store) (new : Scope) : s.Extends (s.push new) :=
  fun _ _ => scopes_push_of_some new

/-- All scopes of `s` are in `s'` with the same scope around, and all but the scope `i` with the
same bindings. -/
def ChangesOnly (i : ScopeId) (s s' : Store) : Prop :=
  ∀ (j : ScopeId) (sc : Scope), s.scopes[j]? = some sc →
    ∃ sc', s'.scopes[j]? = some sc' ∧ sc'.outer = sc.outer ∧ (j ≠ i → sc' = sc)

theorem Extends.changesOnly {s s' : Store} (h : s.Extends s') (i : ScopeId) :
    ChangesOnly i s s' :=
  fun j sc hj => ⟨sc, h j sc hj, rfl, fun _ => rfl⟩

/-- A store that differs from `s` with a new scope only in the bindings of that scope extends `s`:
the new scope is none of the old ones. -/
theorem Extends.of_push {s s' : Store} {new : Scope}
    (h : ChangesOnly s.scopes.size (s.push new) s') : s.Extends s' := by
  intro j sc hj
  obtain ⟨sc', hsc', -, heq⟩ := h j sc (scopes_push_of_some new hj)
  have hne : j ≠ s.scopes.size := Nat.ne_of_lt (Array.getElem?_eq_some_iff.mp hj).1
  rw [hsc', heq hne]

/-- A store that extends `s` with the bindings of the scope `i` changed. -/
theorem Extends.changesOnly_of_modify {s s' : Store} {i : ScopeId} {f : Scope → Scope}
    (hf : ∀ sc, (f sc).outer = sc.outer) (h : (s.modify i f).Extends s') :
    ChangesOnly i s s' := by
  intro j sc hj
  by_cases hji : j = i
  · subst hji
    exact ⟨f sc, h _ _ (scopes_modify_self f hj), hf sc, fun hne => absurd rfl hne⟩
  · exact ⟨sc, h _ _ ((scopes_modify_of_ne f hji).trans hj), rfl, fun _ => rfl⟩

/-- The same change of a scope in a store and in one that extends it. -/
theorem Extends.modify {s s' : Store} (h : s.Extends s') (i : ScopeId) (f : Scope → Scope) :
    (s.modify i f).Extends (s'.modify i f) := by
  intro j sc hj
  by_cases hji : j = i
  · subst hji
    simp only [Store.modify, Array.getElem?_modify, if_true, Option.map_eq_some_iff] at hj ⊢
    obtain ⟨old, hold, rfl⟩ := hj
    exact ⟨old, h j old hold, rfl⟩
  · rw [scopes_modify_of_ne f hji] at hj ⊢
    exact h j sc hj

end Store

/-! ## Operations on symbols -/

theorem asSymbols_map (room : Nat) (xs : List Symbol) :
    asSymbols room (xs.map .sym) = pure xs := by
  induction xs with
  | nil => rfl
  | cons x xs ih =>
    rw [List.map_cons, asSymbols, ih]
    rfl

theorem defineEach_zip (room : Nat) (i : ScopeId) (xs : List Symbol) (vs : List Value) :
    defineEach room i ((xs.map Value.sym).zip vs) = bindSymbols i xs vs := by
  funext s
  induction xs generalizing vs s with
  | nil => simp [defineEach, bindSymbols, Pure.pure, EStateM.pure]
  | cons x xs ih =>
    cases vs with
    | nil => simp [defineEach, bindSymbols, Scope.putAll, Pure.pure, EStateM.pure]
    | cons v vs =>
      have hfirst : define room i (.sym x) v s = .ok () (s.modify i (·.put x v)) := rfl
      rw [List.map_cons, List.zip_cons_cons, defineEach, bind_of_eq_ok hfirst, ih, bindSymbols,
        Store.modify_modify]
      rfl

/-- If the parameters are symbols, and as many as the arguments, the checks have no effect. -/
theorem createScope_map (room : Nat) {xs : List Symbol} {vs : List Value}
    (h : vs.length = xs.length) (outer : Option ScopeId) :
    createScope room (xs.map .sym) vs outer = pushScope (Scope.putAll ⟨[], outer⟩ xs vs) := by
  simp only [createScope, List.length_map, h, ne_eq, not_true_eq_false, if_false, asSymbols_map]
  rfl

/-! ## Computations that only add scopes -/

namespace StoreM

variable {α β : Type}

/-- A computation that leaves all scopes as they were. -/
def Grows (m : StoreM α) : Prop :=
  ∀ s : Store, s.Extends (after m s)

theorem Grows.pure (a : α) : Grows (Pure.pure a : StoreM α) := fun s => .refl s

theorem Grows.throw (e : Error) : Grows (throw e : StoreM α) := fun s => .refl s

theorem Grows.ofResult (r : Except Error α) : Grows (ofResult r) := by
  intro s
  rw [after_ofResult]
  exact .refl s

theorem Grows.findSymbol (i : ScopeId) (x : Symbol) : Grows (findSymbol i x) := by
  intro s
  have h : after (StoreM.findSymbol i x) s = s := by
    simp only [after, StoreM.findSymbol]
    cases s.find? i x <;> rfl
  rw [h]
  exact .refl s

/-- Computations in turn only add scopes if each of them does. -/
theorem Grows.bind {m : StoreM α} {f : α → StoreM β} (hm : Grows m) (hf : ∀ a, Grows (f a)) :
    Grows (m >>= f) := by
  intro s
  cases h : outcome m s with
  | ok a =>
    rw [after_bind_ok h]
    exact (hm s).trans (hf a _)
  | error e =>
    rw [after_bind_error h]
    exact hm s

end StoreM

end SmallLisp
