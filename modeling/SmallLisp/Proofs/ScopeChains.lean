import SmallLisp.Proofs.Refinement
import SmallLisp.Proofs.ScopingModes
import SmallLisp.Proofs.Store.History

/-!
# Scope chains come to an end

Whatever a program does with scopes, it makes new ones within scopes that are there, and binds
values whose functions capture scopes that are there. This holds of every operation on scopes and
of every evaluation and application, also of those that fail. So the chain of scopes around a scope
never runs in a circle and never leads to a scope that is not there.

## Main definitions

* `Evolves`: a computation that only makes changes in the sense of `Store.Change`
* `Action`: what a program can do with a store, with scopes and values of its choice
* `Store.Reachable`: the stores that come about by such actions

## Main results

* `nestedWithin_evolving`: evaluations only make changes
* `Action.becomes`: so do all actions
* `scope_chains_end`: in a reachable store, all chains end after at most as many scopes as there are
-/

namespace SmallLisp

open StoreM

/-! ## Computations that only make changes -/

/-- From the store `s`, the computation only makes changes, and what it gives is in `Q` in the store
that it leaves. -/
structure Evolves {α : Type} (Q : Store → α → Prop) (m : StoreM α) (s : Store) : Prop where
  becomes : s.Becomes (after m s)
  result : ∀ a, outcome m s = .ok a → Q (after m s) a

namespace Evolves

variable {α β : Type} {Q : Store → α → Prop} {Q' : Store → β → Prop} {s : Store} {i : ScopeId}

theorem pure {a : α} (ha : Q s a) : Evolves Q (Pure.pure a) s where
  becomes := .refl s
  result := by
    rintro _ ⟨⟩
    exact ha

theorem throw (e : Error) : Evolves Q (MonadExcept.throw e) s where
  becomes := .refl s
  result := nofun

theorem ofResult {r : Except Error α} (hr : ∀ a, r = .ok a → Q s a) :
    Evolves Q (StoreM.ofResult r) s := by
  refine ⟨?_, ?_⟩
  · rw [after_ofResult]
    exact .refl s
  · rw [after_ofResult, outcome_ofResult]
    exact hr

theorem findSymbol (hs : s.WellFormed) (x : Symbol) :
    Evolves Store.Anchors (StoreM.findSymbol i x) s := by
  cases hx : s.find? i x with
  | none =>
    refine ⟨?_, ?_⟩ <;> simp only [outcome, after, StoreM.findSymbol, hx]
    · exact .refl s
    · rintro _ ⟨⟩
  | some v =>
    refine ⟨?_, ?_⟩ <;> simp only [outcome, after, StoreM.findSymbol, hx]
    · exact .refl s
    · rintro _ ⟨⟩
      exact fun f hf => hs.captured_lt f (Store.functions_of_find? hx hf)

theorem pushScope {sc : Scope} (outer : ∀ o, sc.outer = some o → o < s.scopes.size)
    (anchored : ∀ f ∈ sc.functions, f.Anchored s.scopes.size) :
    Evolves (fun s' new => new < s'.scopes.size) (StoreM.pushScope sc) s where
  becomes := (Store.Change.push sc outer anchored).becomes
  result := by
    rintro _ ⟨⟩
    exact Nat.lt_of_lt_of_eq (Nat.lt_succ_self _) (s.size_push sc).symm

theorem bindSymbols (i : ScopeId) (xs : List Symbol) {vs : List Value}
    (hvs : ∀ v ∈ vs, s.Anchors v) :
    Evolves (fun _ _ => True) (StoreM.bindSymbols i xs vs) s where
  becomes := (Store.Change.bind i xs hvs).becomes
  result _ _ := trivial

theorem bindSymbol (i : ScopeId) (x : Symbol) {v : Value} (hv : s.Anchors v) :
    Evolves (fun _ _ => True) (StoreM.bindSymbol i x v) s :=
  bindSymbols i [x] (List.forall_mem_singleton.mpr hv)

theorem freshId : Evolves (fun _ _ => True) StoreM.freshId s where
  becomes := Store.Change.identity.becomes
  result _ _ := trivial

/-- Computations one after another only make changes if each does in the store it begins with. -/
theorem bind {m : StoreM α} {f : α → StoreM β} (hm : Evolves Q m s)
    (hf : ∀ a s', s.Becomes s' → Q s' a → Evolves Q' (f a) s') : Evolves Q' (m >>= f) s := by
  cases h : outcome m s with
  | error e =>
    refine ⟨?_, ?_⟩
    · rw [after_bind_error h]
      exact hm.becomes
    · rw [outcome_bind, h]
      exact nofun
  | ok a =>
    have hrest := hf a _ hm.becomes (hm.result a h)
    refine ⟨?_, ?_⟩
    · rw [after_bind_ok h]
      exact hm.becomes.trans hrest.becomes
    · rw [after_bind_ok h, outcome_bind, h]
      exact hrest.result

end Evolves

/-! ## Evaluations -/

/-- In a well-formed store, the evaluator only makes changes, and gives only functions that capture
scopes that are there. -/
def Evaluator.Evolving (ev : Evaluator) : Prop :=
  ∀ (expr : Value) (i : ScopeId) (s : Store), s.WellFormed → i < s.scopes.size →
    Evolves Store.Anchors (ev expr i) s

section Steps

variable {s : Store} {i : ScopeId}

theorem Evaluator.Evolving.inNewScope {ev : Evaluator} (h : ev.Evolving) (hs : s.WellFormed)
    {sc : Scope} (outer : ∀ o, sc.outer = some o → o < s.scopes.size)
    (anchored : ∀ f ∈ sc.functions, f.Anchored s.scopes.size) (expr : Value) :
    Evolves Store.Anchors (pushScope sc >>= ev expr) s :=
  (Evolves.pushScope outer anchored).bind fun new s' hbecomes hnew =>
    h expr new s' (hbecomes.wellFormed hs) hnew

theorem Evaluator.Evolving.evalInChild {ev : Evaluator} (h : ev.Evolving) (hs : s.WellFormed)
    (hi : i < s.scopes.size) (expr : Value) :
    Evolves Store.Anchors (evalInChild ev expr i) s := by
  refine h.inNewScope hs ?_ (List.forall_mem_nil _) expr
  rintro o ⟨⟩
  exact hi

/-- The evaluation of several expressions in turn evolves the store, and their values stay anchored
in it. -/
theorem Evaluator.Evolving.evalEach {ev : Evaluator} (h : ev.Evolving) (hs : s.WellFormed)
    (hi : i < s.scopes.size) (exprs : List Value) :
    Evolves (fun s' vs => ∀ v ∈ vs, s'.Anchors v) (evalEach ev i exprs) s := by
  induction exprs generalizing s with
  | nil => exact .pure (List.forall_mem_nil _)
  | cons expr exprs ih =>
    refine (h.evalInChild hs hi expr).bind fun v s₁ h₁ hv => ?_
    have hi₁ := Nat.lt_of_lt_of_le hi h₁.size_le
    refine (ih (h₁.wellFormed hs) hi₁).bind fun vs s₂ h₂ hvs => ?_
    exact .pure (List.forall_mem_cons.mpr ⟨h₂.anchors hv, hvs⟩)

variable {ev : Nested} (hev : ∀ taken, (ev taken).Evolving) (hs : s.WellFormed)
  (hi : i < s.scopes.size)

include hev hs hi

theorem evolves_evalIf (tail : List Value) : Evolves Store.Anchors (evalIf ev tail i) s := by
  match tail with
  | [condition, thenPart, elsePart] =>
    refine ((hev partPlaces).evalInChild hs hi condition).bind fun c s₁ h₁ _ => ?_
    have hi₁ := Nat.lt_of_lt_of_le hi h₁.size_le
    split
    · exact (hev partPlaces).evalInChild (h₁.wellFormed hs) hi₁ elsePart
    · exact (hev partPlaces).evalInChild (h₁.wellFormed hs) hi₁ thenPart
  | [] => exact .throw _
  | [_] => exact .throw _
  | [_, _] => exact .throw _
  | _ :: _ :: _ :: _ :: _ => exact .throw _

theorem evolves_evalFormat (room : Nat) (tail : List Value) :
    Evolves Store.Anchors (evalFormat room ev tail i) s := by
  cases tail with
  | nil => exact .throw _
  | cons destination parts =>
    simp only [evalFormat]
    cases templateText room (splitFill parts).1 with
    | error fault => exact .throw _
    | ok template =>
      cases (splitFill parts).2 with
      | none => exact .pure (Value.forall_functions_of_isAtom rfl)
      | some expr =>
        refine ((hev partPlaces).evalInChild hs hi expr).bind fun v s₁ _ _ => ?_
        exact .ofResult fun w hw => functions_filled hw

omit hev hs in
/-- The function that a definition makes captures the scope of the definition, if any. -/
theorem evolves_evalDefun (mode : Scoping) (room : Nat) (tail : List Value) :
    Evolves Store.Anchors (evalDefun mode room tail i) s := by
  refine (Evolves.ofResult fun _ _ => trivial : Evolves (fun _ _ => True) _ s).bind
    fun d s₁ h₁ _ => ?_
  refine Evolves.freshId.bind fun id s₂ h₂ _ => ?_
  refine (Evolves.bindSymbol i d.name ?_).bind fun _ s₃ _ _ =>
    .pure (Value.forall_functions_of_isAtom rfl)
  intro f hf e he
  obtain rfl := List.mem_singleton.mp hf
  cases mode with
  | dynamic => cases he
  | lexical =>
    cases he
    exact Nat.lt_of_lt_of_le hi (h₁.trans h₂).size_le

/-! ### Calls -/

/-- A call of a function evolves the store: the captured scope is there, and so is the scope of the
call. -/
theorem evolves_applyFunction {f : FunctionData} (hf : f.Anchored s.scopes.size)
    {args : List Value} (hargs : ∀ v ∈ args, s.Anchors v) :
    Evolves Store.Anchors (applyFunction ev f.name f.params f.body f.scope args i) s := by
  cases hscope : f.scope with
  | none =>
    simp only [applyFunction]
    split
    · exact .throw _
    · refine (Evolves.bindSymbols i f.params hargs).bind fun _ s₁ h₁ _ => ?_
      exact (hev bodyPlaces).evalInChild (h₁.wellFormed hs) (Nat.lt_of_lt_of_le hi h₁.size_le)
        f.body
  | some d =>
    simp only [applyFunction]
    split
    · exact .throw _
    · refine (hev bodyPlaces).inNewScope hs ?_ (fun g hg => ?_) f.body
      · rw [Scope.outer_putAll]
        rintro o ⟨⟩
        exact hf d hscope
      · rcases Scope.functions_putAll hg with ⟨v, hv, hgv⟩ | hnil
        · exact hargs v hv g hgv
        · cases hnil

theorem evolves_apply (room : Nat) {head : Value} (hhead : s.Anchors head) {args : List Value}
    (hargs : ∀ v ∈ args, s.Anchors v) : Evolves Store.Anchors (apply room ev head args i) s := by
  cases head with
  | function id name params body closure =>
    have hf : (FunctionData.mk id name params body closure).Anchored s.scopes.size :=
      hhead _ (.head _)
    exact evolves_applyFunction hev hs hi hf hargs
  | builtin b => exact .ofResult fun w hw => b.functions_call hargs hw
  | int n => exact .pure (Value.forall_functions_of_isAtom rfl)
  | float x => exact .pure (Value.forall_functions_of_isAtom rfl)
  | bool b => exact .pure (Value.forall_functions_of_isAtom rfl)
  | str t => exact .pure (Value.forall_functions_of_isAtom rfl)
  | nothing => exact .throw _
  | sym x => exact .throw _
  | list vs => exact .throw _
  | tuple vs => exact .throw _

theorem evolves_evalApplication (room : Nat) (head : Value) (tail : List Value) :
    Evolves Store.Anchors (evalApplication room ev head tail i) s := by
  refine ((hev headPlaces).evalInChild hs hi head).bind fun f s₁ h₁ hf => ?_
  have hs₁ := h₁.wellFormed hs
  have hi₁ := Nat.lt_of_lt_of_le hi h₁.size_le
  refine ((hev argumentPlaces).evalEach hs₁ hi₁ tail).bind fun args s₂ h₂ hargs => ?_
  exact evolves_apply hev (h₂.wellFormed hs₁) (Nat.lt_of_lt_of_le hi₁ h₂.size_le) _
    (h₂.anchors hf) hargs

/-- Forms evolve the store, whatever is their head. -/
theorem evolves_evalItems (mode : Scoping) (room : Nat) (items : List Value) :
    Evolves Store.Anchors (evalItems mode room ev items i) s := by
  cases items with
  | nil => exact .throw _
  | cons head tail =>
    have application := evolves_evalApplication hev hs hi room head tail
    cases head with
    | sym x =>
      simp only [evalItems]
      cases SpecialForm.ofSymbol? x with
      | none => exact application
      | some form =>
        cases form with
        | conditional => exact evolves_evalIf hev hs hi tail
        | definition => exact evolves_evalDefun hi mode _ tail
        | format => exact evolves_evalFormat hev hs hi _ tail
    | _ => exact application

end Steps

/-- **A step of evaluation evolves the store.** -/
theorem step_evolving {ev : Nested} (hev : ∀ taken, (ev taken).Evolving) (mode : Scoping)
    (room : Nat) : Evaluator.Evolving (step mode room ev) := by
  intro expr i s hs hi
  cases expr with
  | list items => exact evolves_evalItems hev hs hi mode room items
  | tuple items => exact evolves_evalItems hev hs hi mode room items
  | sym x => exact .findSymbol hs x
  | int n => exact .pure (Value.forall_functions_of_isAtom rfl)
  | float x => exact .pure (Value.forall_functions_of_isAtom rfl)
  | bool b => exact .pure (Value.forall_functions_of_isAtom rfl)
  | nothing => exact .throw _
  | str t => exact .throw _
  | function id name params body scope => exact .throw _
  | builtin b => exact .throw _

/-- **Evaluations only make changes**, under either mode and within any room. -/
theorem nestedWithin_evolving (mode : Scoping) (room taken : Nat) :
    Evaluator.Evolving (nestedWithin mode room taken) := by
  induction room generalizing taken with
  | zero => exact fun expr i s hs hi => .throw _
  | succ room ih =>
    cases taken with
    | zero => exact step_evolving ih mode room
    | succ taken => exact ih taken

/-! ## Operations on scopes -/

section Operations

variable {s : Store} (room : Nat)

theorem evolves_asSymbol (name : Value) : Evolves (fun _ _ => True) (asSymbol room name) s := by
  cases name with
  | sym x => exact .pure trivial
  | _ => exact .throw _

theorem evolves_asSymbols (names : List Value) :
    Evolves (fun _ _ => True) (asSymbols room names) s := by
  induction names generalizing s with
  | nil => exact .pure trivial
  | cons name names ih =>
    refine (evolves_asSymbol room name).bind fun x s₁ _ _ => ?_
    exact ih.bind fun xs s₂ _ _ => .pure trivial

/-- A definition evolves the store, also if it fails. -/
theorem evolves_define (i : ScopeId) (name : Value) {v : Value} (hv : s.Anchors v) :
    Evolves (fun _ _ => True) (define room i name v) s :=
  (evolves_asSymbol room name).bind fun x _ h _ => .bindSymbol i x (h.anchors hv)

theorem evolves_defineEach (i : ScopeId) {pairs : List (Value × Value)}
    (hpairs : ∀ p ∈ pairs, s.Anchors p.2) :
    Evolves (fun _ _ => True) (defineEach room i pairs) s := by
  induction pairs generalizing s with
  | nil => exact .pure trivial
  | cons p pairs ih =>
    rw [List.forall_mem_cons] at hpairs
    refine (evolves_define room i p.1 hpairs.1).bind fun _ s₁ h₁ _ => ?_
    exact ih fun q hq => h₁.anchors (hpairs.2 q hq)

/-- The values of merged pairs are among those of the pairs. -/
theorem exists_of_mem_mergePairs (pairs : List (Value × Value)) :
    ∀ q ∈ mergePairs pairs, ∃ p ∈ pairs, q.2 = p.2 := by
  refine List.foldlRecOn (motive := fun done : List (Value × Value) =>
    ∀ q ∈ done, ∃ p ∈ pairs, q.2 = p.2) pairs _ (List.forall_mem_nil _)
    fun done hdone p hp q hq => ?_
  split at hq
  · obtain ⟨r, hr, rfl⟩ := List.mem_map.mp hq
    by_cases hsame : r.1.same p.1 = true
    · exact ⟨p, hp, by rw [if_pos hsame]⟩
    · rw [if_neg hsame]
      exact hdone r hr
  · rcases List.mem_append.mp hq with hold | hnew
    · exact hdone q hold
    · exact ⟨p, hp, by rw [List.mem_singleton.mp hnew]⟩

theorem evolves_defineAll (i : ScopeId) {pairs : List (Value × Value)}
    (hpairs : ∀ p ∈ pairs, s.Anchors p.2) :
    Evolves (fun _ _ => True) (defineAll room i pairs) s := by
  unfold defineAll
  split
  · refine evolves_defineEach room i fun q hq => ?_
    obtain ⟨p, hp, heq⟩ := exists_of_mem_mergePairs pairs q hq
    exact heq ▸ hpairs p hp
  · exact .throw _

/-- A new scope evolves the store, also if it cannot be made. -/
theorem evolves_createScope (params : List Value) {args : List Value} {outer : Option ScopeId}
    (houter : ∀ o, outer = some o → o < s.scopes.size) (hargs : ∀ v ∈ args, s.Anchors v) :
    Evolves (fun s' new => new < s'.scopes.size) (createScope room params args outer) s := by
  unfold createScope
  split
  · exact .throw _
  · refine (evolves_asSymbols room params).bind fun xs s₁ h₁ _ => .pushScope ?_ fun f hf => ?_
    · rw [Scope.outer_putAll]
      exact fun o ho => Nat.lt_of_lt_of_le (houter o ho) h₁.size_le
    · rcases Scope.functions_putAll hf with ⟨v, hv, hfv⟩ | hnil
      · exact h₁.anchors (hargs v hv) f hfv
      · cases hnil

theorem evolves_lookup (hs : s.WellFormed) (i : ScopeId) (name : Value) :
    Evolves Store.Anchors (lookup room i name) s := by
  cases name with
  | sym x => exact .findSymbol hs x
  | _ => exact .throw _

/-- The built-in names are bound by changes. -/
theorem Store.becomes_register (s : Store) (i : ScopeId) : s.Becomes (s.register i) := by
  refine List.foldlRecOn (motive := fun s' => s.Becomes s') entries _ (.refl s)
    fun s' hs' e he => hs'.trans ?_
  have hbind : s'.Change (s'.modify i (·.putAll [⟨e.1⟩] [e.2.value e.1 s'.nextId])) :=
    .bind i _ (List.forall_mem_singleton.mpr
      (Value.forall_functions_of_isAtom (isAtom_of_mem_entries he _)))
  exact hbind.becomes.trans Store.Change.identity.becomes

end Operations

/-! ## Reachable stores -/

/-- What a program can do with a store. Most of it is done within a room. -/
inductive Action where
  | create (room : Nat) (params args : List Value) (outer : Option ScopeId)
  | define (room : Nat) (scope : ScopeId) (name value : Value)
  | update (room : Nat) (scope : ScopeId) (pairs : List (Value × Value))
  | register (scope : ScopeId)
  | copy (room : Nat) (source : ScopeId) (name : Value) (target : ScopeId) (newName : Value)
  | evaluate (mode : Scoping) (room : Nat) (expr : Value) (scope : ScopeId)
  | apply (mode : Scoping) (room : Nat) (head : Value) (args : List Value) (scope : ScopeId)

namespace Action

/-- The store after an action, also if it fails. -/
def run : Action → Store → Store
  | .create room params args outer => after (createScope room params args outer)
  | .define room i name v => after (SmallLisp.define room i name v)
  | .update room i pairs => after (defineAll room i pairs)
  | .register i => (·.register i)
  | .copy room source name target newName =>
    after (lookup room source name >>= SmallLisp.define room target newName)
  | .evaluate mode room expr i => after (SmallLisp.evaluate mode room expr i)
  | .apply mode room head args i =>
    after (SmallLisp.apply room (nestedWithin mode room) head args i)

/-- The scopes that an action names. -/
def scopes : Action → List ScopeId
  | .create _ _ _ outer => outer.toList
  | .define _ i _ _ | .update _ i _ | .register i | .evaluate _ _ _ i | .apply _ _ _ _ i => [i]
  | .copy _ source _ target _ => [source, target]

/-- The values that an action is given to bind or to call. -/
def values : Action → List Value
  | .create _ _ args _ => args
  | .define _ _ _ v => [v]
  | .update _ _ pairs => pairs.map (·.2)
  | .register _ | .copy .. | .evaluate .. => []
  | .apply _ _ head args _ => head :: args

/-- An action on scopes and values of the store. -/
structure Allowed (s : Store) (a : Action) : Prop where
  scopes_lt : ∀ i ∈ a.scopes, i < s.scopes.size
  anchored : ∀ v ∈ a.values, s.Anchors v

/-- **Actions only make changes.** -/
theorem becomes {s : Store} {a : Action} (h : a.Allowed s) (hs : s.WellFormed) :
    s.Becomes (a.run s) := by
  obtain ⟨hscopes, hvalues⟩ := h
  cases a with
  | create room params args outer =>
    refine (evolves_createScope room params (fun o ho => hscopes o ?_) hvalues).becomes
    simp [scopes, ho]
  | define room i name v => exact (evolves_define room i name (hvalues v (.head _))).becomes
  | update room i pairs =>
    refine (evolves_defineAll room i fun p hp => hvalues p.2 ?_).becomes
    exact List.mem_map_of_mem hp
  | register i => exact s.becomes_register i
  | copy room source name target newName =>
    exact ((evolves_lookup room hs source name).bind fun v s₁ _ hv =>
      evolves_define room target newName hv).becomes
  | evaluate mode room expr i =>
    rw [run, after_evaluate]
    exact (nestedWithin_evolving mode room 0 expr i s hs (hscopes i (.head _))).becomes
  | apply mode room head args i =>
    rw [values, List.forall_mem_cons] at hvalues
    exact (evolves_apply (nestedWithin_evolving mode room) hs (hscopes i (.head _)) room hvalues.1
      hvalues.2).becomes

end Action

namespace Store

/-- The stores that actions lead to, one after another. -/
def LeadsTo : Store → Store → Prop :=
  Relation.ReflTransGen fun s s' => ∃ a : Action, a.Allowed s ∧ s' = a.run s

/-- A store that comes about by actions from the store without scopes. -/
def Reachable (s : Store) : Prop :=
  empty.LeadsTo s

variable {s s' : Store}

/-- All that actions do to a well-formed store is done by changes. -/
theorem LeadsTo.becomes (h : s.LeadsTo s') (hs : s.WellFormed) : s.Becomes s' := by
  induction h with
  | refl => exact .refl s
  | tail _ haction ih =>
    obtain ⟨a, hallowed, rfl⟩ := haction
    exact ih.trans (Action.becomes hallowed (ih.wellFormed hs))

/-- **Reachable stores are well-formed.** -/
theorem Reachable.wellFormed (h : s.Reachable) : s.WellFormed :=
  (h.becomes wellFormed_empty).wellFormed wellFormed_empty

end Store

/-- A scope that is created lies within the scope that it is given. -/
theorem outer_createScope {room : Nat} {params args : List Value} {outer : Option ScopeId}
    {s : Store} {i : ScopeId} (h : outcome (createScope room params args outer) s = .ok i) :
    ∃ sc, (after (createScope room params args outer) s).scopes[i]? = some sc ∧
      sc.outer = outer := by
  unfold createScope at h ⊢
  split
  · rename_i hlength
    rw [if_pos hlength] at h
    cases h
  · rename_i hlength
    rw [if_neg hlength] at h
    cases hxs : outcome (asSymbols room params) s with
    | error e =>
      rw [outcome_bind, hxs] at h
      cases h
    | ok xs =>
      rw [outcome_bind, hxs] at h
      cases h
      rw [after_bind_ok hxs]
      exact ⟨_, Store.scopes_push_size _ _, Scope.outer_putAll _ xs args⟩

/-- **Scope chains come to an end.** Actions only make changes, by which a scope stays within the
scope it was made within. In a store that comes about by any actions, that is an earlier scope, and
the given one if the scope was created by an action of its own. All functions capture scopes that
are there. So the way outward ends after at most as many scopes as there are, and looking up a
symbol and listing a chain go the whole way. -/
theorem scope_chains_end {s : Store} (hs : s.Reachable) :
    (∀ s', s.LeadsTo s' → s.Becomes s' ∧ ∀ (i : ScopeId) (sc : Scope), s.scopes[i]? = some sc →
      ∃ sc', s'.scopes[i]? = some sc' ∧ sc'.outer = sc.outer) ∧
    (∀ (i : ScopeId) (sc : Scope), s.scopes[i]? = some sc →
      s.MadeWithin i sc.outer ∧ ∀ o, sc.outer = some o → o < i) ∧
    (∀ room params args outer i, outcome (createScope room params args outer) s = .ok i →
      ∃ sc, (after (createScope room params args outer) s).scopes[i]? = some sc ∧
        sc.outer = outer) ∧
    (∀ f ∈ s.functions, ∀ d, f.scope = some d → d < s.scopes.size) ∧
    ∀ i < s.scopes.size, ∃ scs, s.Walk i scs ∧ scs.length ≤ s.scopes.size ∧ s.chain i = scs ∧
      ∀ x, s.find? i x = scs.findSome? (·.get? x) := by
  have hwf := hs.wellFormed
  refine ⟨fun s' hs' => ?_, fun i sc hsc => ?_, fun room params args outer i => outer_createScope,
    hwf.captured_lt, fun i hi => ?_⟩
  · have hbecomes := hs'.becomes hwf
    exact ⟨hbecomes, fun i sc hsc => hbecomes.outer_eq hsc⟩
  · exact ⟨(hs.becomes Store.wellFormed_empty).madeWithin hsc,
      fun o ho => hwf.outer_lt i o sc hsc ho⟩
  · obtain ⟨scs, hwalk, hlength⟩ := (hwf.grounded hi).exists_walk
    have hsize : scs.length ≤ s.scopes.size := Nat.le_trans hlength hi
    have hchain : s.chain i = scs := hwalk.chainFrom_eq hsize
    refine ⟨scs, hwalk, hsize, hchain, fun x => ?_⟩
    rw [Store.find?_eq_findSome?_chain, hchain]

/-- A scope within the root scope, which binds a function that captures the root scope itself. -/
theorem scope_chains_end_closure :
    let definition : Value := .list [.sym ⟨"defun"⟩, .sym ⟨"f"⟩, .list [.sym ⟨"x"⟩], .sym ⟨"x"⟩]
    let root := (Action.create 9 [] [] none).run .empty
    let defined := (Action.evaluate .lexical 9 definition 0).run root
    let s := (Action.create 9 [] [] (some 0)).run defined
    s.Reachable ∧ s.functions.map (·.scope) = [some 0] ∧ s.scopes.size = 2 ∧
      (∀ f ∈ s.functions, ∀ d, f.scope = some d → d < s.scopes.size) ∧
      ∃ scs, s.Walk 1 scs ∧ scs.length ≤ s.scopes.size ∧
        s.find? 1 ⟨"f"⟩ = scs.findSome? (·.get? ⟨"f"⟩) := by
  intro definition root defined s
  have hroot : Store.empty.LeadsTo root :=
    .single ⟨_, ⟨List.forall_mem_nil _, List.forall_mem_nil _⟩, rfl⟩
  have hdefined : Store.empty.LeadsTo defined := by
    refine hroot.tail ⟨_, ⟨?_, List.forall_mem_nil _⟩, rfl⟩
    exact List.forall_mem_singleton.mpr (by decide +kernel)
  have hs : s.Reachable := by
    refine hdefined.tail ⟨_, ⟨?_, List.forall_mem_nil _⟩, rfl⟩
    exact List.forall_mem_singleton.mpr (by decide +kernel)
  obtain ⟨-, -, -, hcaptured, hwalks⟩ := scope_chains_end hs
  obtain ⟨scs, hwalk, hlength, -, hfind⟩ := hwalks 1 (by decide +kernel)
  exact ⟨hs, by decide +kernel, by decide +kernel, hcaptured, scs, hwalk, hlength, hfind _⟩

end SmallLisp
