import Mathlib.Logic.Relation
import SmallLisp.Proofs.Store.Functions

/-!
# How stores come about

There are three ways to change a store: a new scope at its end, new bindings in a scope, and a new
identity. A new scope may only lie within one that is there, and what is bound may only capture
scopes that are there. The scope around a scope is never changed afterwards. So in a store that
comes about by such changes, a scope still lies within the scope that it was made within, which is
an earlier one.

## Main definitions

* `FunctionData.Anchored`: a function that captures one of the first `n` scopes, or none
* `Store.Anchors`: a value whose functions capture scopes of the store
* `Store.Change`, `Store.Becomes`: one change of a store, and changes one after another
* `Store.MadeWithin`: the scope that a scope was made within

## Main results

* `Store.Becomes.wellFormed`: well-formed stores stay so
* `Store.Becomes.outer_eq`: a scope stays within the same scope
* `Store.Becomes.madeWithin`: every scope was made at its place, within the scope it lies within
-/

namespace SmallLisp

/-- The function captures one of the first `n` scopes, or no scope at all. -/
def FunctionData.Anchored (n : Nat) (f : FunctionData) : Prop :=
  ∀ d, f.scope = some d → d < n

theorem FunctionData.Anchored.mono {f : FunctionData} {m n : Nat} (h : f.Anchored m)
    (hmn : m ≤ n) : f.Anchored n :=
  fun d hd => Nat.lt_of_lt_of_le (h d hd) hmn

namespace Store

/-- All functions within the value capture scopes of the store. -/
abbrev Anchors (s : Store) (v : Value) : Prop :=
  v.Holds (FunctionData.Anchored s.scopes.size)

/-- One change of a store. -/
inductive Change (s : Store) : Store → Prop
  | push (sc : Scope) (outer : ∀ o, sc.outer = some o → o < s.scopes.size)
      (anchored : ∀ f ∈ sc.functions, f.Anchored s.scopes.size) : Change s (s.push sc)
  | bind (i : ScopeId) (xs : List Symbol) {vs : List Value}
      (anchored : ∀ v ∈ vs, s.Anchors v) : Change s (s.modify i (·.putAll xs vs))
  | identity : Change s { s with nextId := s.nextId + 1 }

/-- Changes of a store, one after another. -/
def Becomes : Store → Store → Prop :=
  Relation.ReflTransGen Change

variable {s s' s'' : Store} {i : ScopeId}

theorem Becomes.refl (s : Store) : s.Becomes s :=
  Relation.ReflTransGen.refl

theorem Becomes.trans (h : s.Becomes s') (h' : s'.Becomes s'') : s.Becomes s'' :=
  Relation.ReflTransGen.trans h h'

theorem Change.becomes (h : s.Change s') : s.Becomes s' :=
  Relation.ReflTransGen.single h

/-! ## One change -/

theorem Change.size_le (h : s.Change s') : s.scopes.size ≤ s'.scopes.size := by
  cases h with
  | push sc _ _ => exact (s.size_push sc).symm ▸ Nat.le_succ _
  | bind i xs _ => exact Nat.le_of_eq (s.size_modify i _).symm
  | identity => exact Nat.le_refl _

/-- A change leaves a scope within the scope it lies within. -/
theorem Change.outer_eq (h : s.Change s') {sc : Scope} (hsc : s.scopes[i]? = some sc) :
    ∃ sc', s'.scopes[i]? = some sc' ∧ sc'.outer = sc.outer := by
  cases h with
  | push new _ _ => exact ⟨sc, scopes_push_of_some new hsc, rfl⟩
  | bind j xs _ =>
    by_cases hij : i = j
    · subst hij
      exact ⟨_, scopes_modify_self _ hsc, Scope.outer_putAll sc xs _⟩
    · exact ⟨sc, (scopes_modify_of_ne _ hij).trans hsc, rfl⟩
  | identity => exact ⟨sc, hsc, rfl⟩

/-- A scope after a change was there before, within the same scope, or is the new one. -/
theorem Change.exists_scope (h : s.Change s') {sc' : Scope} (hsc' : s'.scopes[i]? = some sc') :
    (∃ sc, s.scopes[i]? = some sc ∧ sc'.outer = sc.outer) ∨
      i = s.scopes.size ∧ s' = s.push sc' ∧ ∀ o, sc'.outer = some o → o < i := by
  by_cases hi : i < s.scopes.size
  · have hsc := Array.getElem?_eq_getElem hi
    obtain ⟨sc'', hsc'', houter⟩ := h.outer_eq hsc
    obtain rfl := Option.some.inj (hsc'.symm.trans hsc'')
    exact .inl ⟨_, hsc, houter⟩
  · have hi' : i < s'.scopes.size := (Array.getElem?_eq_some_iff.mp hsc').1
    cases h with
    | push new outer _ =>
      rw [size_push] at hi'
      obtain rfl : i = s.scopes.size := Nat.eq_of_lt_succ_of_not_lt hi' hi
      obtain rfl := Option.some.inj ((s.scopes_push_size new).symm.trans hsc')
      exact .inr ⟨rfl, rfl, outer⟩
    | bind j xs _ =>
      rw [size_modify] at hi'
      exact absurd hi' hi
    | identity => exact absurd hi' hi

/-- Functions that are bound capture scopes of the store, after a change as before. -/
theorem Change.anchored (h : s.Change s')
    (hs : ∀ f ∈ s.functions, f.Anchored s.scopes.size) :
    ∀ f ∈ s'.functions, f.Anchored s'.scopes.size := by
  intro f hf
  refine FunctionData.Anchored.mono ?_ h.size_le
  obtain ⟨j, sc', hsc', hmem⟩ := mem_functions_iff.mp hf
  cases h with
  | push new _ anchored =>
    by_cases hj : j < s.scopes.size
    · have hsc := scopes_push_of_some new (Array.getElem?_eq_getElem hj)
      obtain rfl := Option.some.inj (hsc.symm.trans hsc')
      exact hs f (mem_functions_iff.mpr ⟨j, _, Array.getElem?_eq_getElem hj, hmem⟩)
    · have hlt := (Array.getElem?_eq_some_iff.mp hsc').1
      rw [size_push] at hlt
      obtain rfl : j = s.scopes.size := Nat.eq_of_lt_succ_of_not_lt hlt hj
      obtain rfl := Option.some.inj ((s.scopes_push_size new).symm.trans hsc')
      exact anchored f hmem
  | bind i xs anchored =>
    by_cases hji : j = i
    · subst hji
      have hlt := (Array.getElem?_eq_some_iff.mp hsc').1
      rw [size_modify] at hlt
      have hsc := Array.getElem?_eq_getElem hlt
      obtain rfl := Option.some.inj ((scopes_modify_self _ hsc).symm.trans hsc')
      rcases Scope.functions_putAll hmem with ⟨v, hv, hfv⟩ | hold
      · exact anchored v hv f hfv
      · exact hs f (mem_functions_iff.mpr ⟨j, _, hsc, hold⟩)
    · rw [scopes_modify_of_ne _ hji] at hsc'
      exact hs f (mem_functions_iff.mpr ⟨j, sc', hsc', hmem⟩)
  | identity => exact hs f (mem_functions_iff.mpr ⟨j, sc', hsc', hmem⟩)

/-- **A change leads from a well-formed store to a well-formed store.** -/
theorem Change.wellFormed (h : s.Change s') (hs : s.WellFormed) : s'.WellFormed where
  outer_lt i o sc' hsc' ho := by
    rcases h.exists_scope hsc' with ⟨sc, hsc, houter⟩ | ⟨-, -, hlt⟩
    · exact hs.outer_lt i o sc hsc (houter ▸ ho)
    · exact hlt o ho
  captured_lt := h.anchored hs.captured_lt

/-! ## Changes one after another -/

namespace Becomes

theorem size_le (h : s.Becomes s') : s.scopes.size ≤ s'.scopes.size := by
  induction h with
  | refl => exact Nat.le_refl _
  | tail _ hchange ih => exact Nat.le_trans ih hchange.size_le

theorem anchors (h : s.Becomes s') {v : Value} (hv : s.Anchors v) : s'.Anchors v :=
  fun f hf => (hv f hf).mono h.size_le

/-- **Well-formed stores stay so.** -/
theorem wellFormed (h : s.Becomes s') (hs : s.WellFormed) : s'.WellFormed := by
  induction h with
  | refl => exact hs
  | tail _ hchange ih => exact hchange.wellFormed ih

/-- **A scope stays within the same scope**, whatever changes are made. -/
theorem outer_eq (h : s.Becomes s') {sc : Scope} (hsc : s.scopes[i]? = some sc) :
    ∃ sc', s'.scopes[i]? = some sc' ∧ sc'.outer = sc.outer := by
  induction h with
  | refl => exact ⟨sc, hsc, rfl⟩
  | tail _ hchange ih =>
    obtain ⟨sc', hsc', houter⟩ := ih
    obtain ⟨sc'', hsc'', houter'⟩ := hchange.outer_eq hsc'
    exact ⟨sc'', hsc'', houter'.trans houter⟩

end Becomes

/-- A scope that was made lies within the scope it was given then. -/
theorem Becomes.outer_of_push {new : Scope} (h : (s.push new).Becomes s') :
    ∃ sc, s'.scopes[s.scopes.size]? = some sc ∧ sc.outer = new.outer :=
  h.outer_eq (s.scopes_push_size new)

/-- The scope `i` was made on the way to the store `s`, and whenever it may have been made, it was
made within `outer`. -/
structure MadeWithin (s : Store) (i : ScopeId) (outer : Option ScopeId) : Prop where
  made : ∃ (before : Store) (new : Scope), empty.Becomes before ∧ before.scopes.size = i ∧
    (before.push new).Becomes s
  within : ∀ (before : Store) (new : Scope), before.scopes.size = i →
    (before.push new).Becomes s → new.outer = outer

/-- The store without scopes is well-formed. -/
theorem wellFormed_empty : empty.WellFormed where
  outer_lt := nofun
  captured_lt := nofun

/-- Every scope was made at some time, when all earlier scopes were there. -/
theorem Becomes.exists_push (h : empty.Becomes s) (hi : i < s.scopes.size) :
    ∃ (before : Store) (new : Scope), empty.Becomes before ∧ before.scopes.size = i ∧
      (before.push new).Becomes s := by
  induction h with
  | refl => exact absurd hi (Nat.not_lt_zero i)
  | @tail s₁ s₂ hs₁ hchange ih =>
    obtain ⟨sc', hsc'⟩ : ∃ sc', s₂.scopes[i]? = some sc' := ⟨_, Array.getElem?_eq_getElem hi⟩
    rcases hchange.exists_scope hsc' with ⟨sc, hsc, -⟩ | ⟨rfl, rfl, -⟩
    · obtain ⟨before, new, hbefore, hsize, hnew⟩ := ih (Array.getElem?_eq_some_iff.mp hsc).1
      exact ⟨before, new, hbefore, hsize, hnew.trans hchange.becomes⟩
    · exact ⟨s₁, sc', hs₁, rfl, .refl _⟩

/-- **Every scope lies within the scope that it was made within.** -/
theorem Becomes.madeWithin (h : empty.Becomes s) {sc : Scope} (hsc : s.scopes[i]? = some sc) :
    s.MadeWithin i sc.outer where
  made := h.exists_push (Array.getElem?_eq_some_iff.mp hsc).1
  within before new hsize hnew := by
    obtain ⟨sc', hsc', houter⟩ := hnew.outer_of_push
    rw [hsize, hsc] at hsc'
    cases hsc'
    exact houter.symm

end Store

end SmallLisp
