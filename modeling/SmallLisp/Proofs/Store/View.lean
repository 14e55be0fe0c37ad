import SmallLisp.Meaning
import SmallLisp.Proofs.Store.Extension
import SmallLisp.Proofs.Value.Related

/-!
# What is seen from a scope

A look-up goes from a scope outward. If every scope on its way lies within an earlier one, it
comes to an end, and what it finds depends only on the scopes up to the one it starts in. So the
view from such a scope stays the same while later scopes are added or changed.

## Main definitions

* `Store.Grounded`: the scopes around a scope are each earlier than the one before
* `Store.Walk`: the way outward from a scope, with no bound on its length
* `Store.KeepsBelow`: the first scopes of a store are in another as they were
* `Store.functions`: the functions within all values that a store binds
* `Store.WellFormed`: scopes lie within earlier ones, and functions capture scopes that are there

## Main results

* `Store.Grounded.find?_eq`: a look-up is made in the scope itself and then in the one around it
* `Store.Walk.chainFrom_eq`: a chain is the whole way outward if there is enough fuel
* `Store.Grounded.view_of_keeps`: the view depends only on the scopes up to the scope itself
* `Store.Grounded.view_push`, `Store.Grounded.view_modify`: the views from a new scope, and from a
  scope with new bindings
-/

namespace SmallLisp

/-- The last of the new bindings for a symbol counts, and without one the old binding. -/
theorem Bindings.extendAll_apply (ρ : Bindings) (xs : List Symbol) (vs : List Value) (x : Symbol) :
    ρ.extendAll xs vs x = ((xs.zip vs).reverse.lookup x).or (ρ x) :=
  lookup_foldl (fun ρ x => ρ x) _ (fun _ _ _ => rfl) (xs.zip vs) ρ x

namespace Store

/-- The scope `i` is in the store, and so are the scopes around it, each of them earlier than the
one before. -/
inductive Grounded (s : Store) : ScopeId → Prop
  | root {i : ScopeId} {sc : Scope} (hsc : s.scopes[i]? = some sc) (ho : sc.outer = none) :
      Grounded s i
  | within {i o : ScopeId} {sc : Scope} (hsc : s.scopes[i]? = some sc) (ho : sc.outer = some o)
      (hlt : o < i) (outer : Grounded s o) : Grounded s i

/-- The scopes of `s` below `n` are in `s'` as they were. -/
def KeepsBelow (n : Nat) (s s' : Store) : Prop :=
  ∀ (j : ScopeId) (sc : Scope), j < n → s.scopes[j]? = some sc → s'.scopes[j]? = some sc

theorem Extends.keepsBelow {s s' : Store} (h : s.Extends s') (n : Nat) : KeepsBelow n s s' :=
  fun j sc _ hj => h j sc hj

/-- A change in a scope leaves the scopes before it as they were. -/
theorem keepsBelow_modify (s : Store) (i : ScopeId) (f : Scope → Scope) :
    KeepsBelow i s (s.modify i f) :=
  fun _ _ hlt hj => (scopes_modify_of_ne f (Nat.ne_of_lt hlt)).trans hj

variable {s s' : Store} {i : ScopeId} {x : Symbol}

/-! ## Look-ups in grounded scopes -/

theorem Grounded.exists_scope (h : s.Grounded i) : ∃ sc, s.scopes[i]? = some sc := by
  cases h with
  | root hsc _ => exact ⟨_, hsc⟩
  | within hsc _ _ _ => exact ⟨_, hsc⟩

theorem Grounded.lt_size (h : s.Grounded i) : i < s.scopes.size := by
  obtain ⟨sc, hsc⟩ := h.exists_scope
  exact (Array.getElem?_eq_some_iff.mp hsc).1

/-- The scope around one is earlier, and leads outward to an end as well. -/
theorem Grounded.outer {o : ScopeId} {sc : Scope} (h : s.Grounded i)
    (hsc : s.scopes[i]? = some sc) (ho : sc.outer = some o) : o < i ∧ s.Grounded o := by
  cases h with
  | root hsc' ho' => simp_all
  | within hsc' ho' hlt outer =>
    obtain rfl := Option.some.inj (hsc.symm.trans hsc')
    obtain rfl := Option.some.inj (ho.symm.trans ho')
    exact ⟨hlt, outer⟩

/-- A look-up that may visit more scopes than there are below its start finds the same. -/
theorem Grounded.findFrom_eq (h : s.Grounded i) {m n : Nat} (hm : i < m) (hn : i < n) :
    s.findFrom x m i = s.findFrom x n i := by
  -- along the scopes; each is earlier than the one before, so the bounds stay large enough
  induction h generalizing m n with
  | root hsc ho =>
    obtain ⟨m, rfl⟩ := Nat.exists_eq_add_one_of_ne_zero (Nat.ne_zero_of_lt hm)
    obtain ⟨n, rfl⟩ := Nat.exists_eq_add_one_of_ne_zero (Nat.ne_zero_of_lt hn)
    simp only [findFrom, hsc, ho]
  | within hsc ho hlt _ ih =>
    obtain ⟨m, rfl⟩ := Nat.exists_eq_add_one_of_ne_zero (Nat.ne_zero_of_lt hm)
    obtain ⟨n, rfl⟩ := Nat.exists_eq_add_one_of_ne_zero (Nat.ne_zero_of_lt hn)
    simp only [findFrom, hsc, ho]
    rw [ih (Nat.lt_of_lt_of_le hlt (Nat.le_of_lt_succ hm))
      (Nat.lt_of_lt_of_le hlt (Nat.le_of_lt_succ hn))]

/-- A symbol is looked for in the scope itself, and then in the one around it. -/
theorem Grounded.find?_eq (h : s.Grounded i) {sc : Scope} (hsc : s.scopes[i]? = some sc) :
    s.find? i x = (sc.get? x).or (sc.outer.bind fun o => s.find? o x) := by
  have hsize := h.lt_size
  have hfind : s.find? i x = s.findFrom x (s.scopes.size + 1) i :=
    h.findFrom_eq hsize (Nat.lt_succ_of_lt hsize)
  simp only [hfind, findFrom, hsc]
  cases sc.get? x with
  | some v => rfl
  | none => cases sc.outer <;> rfl

/-- A scope that leads to an end goes on to do so if all scopes up to it stay as they are. -/
theorem Grounded.of_keeps (h : s.Grounded i) {n : Nat} (hk : KeepsBelow n s s') (hi : i < n) :
    s'.Grounded i := by
  induction h with
  | root hsc ho => exact .root (hk _ _ hi hsc) ho
  | within hsc ho hlt _ ih => exact .within (hk _ _ hi hsc) ho hlt (ih (Nat.lt_trans hlt hi))

/-- The view from a scope depends only on the scopes up to it. -/
theorem Grounded.view_of_keeps (h : s.Grounded i) {n : Nat} (hk : KeepsBelow n s s')
    (hi : i < n) : s'.view i = s.view i := by
  funext x
  simp only [view]
  induction h with
  | root hsc ho =>
    rw [(Grounded.root hsc ho).find?_eq hsc, ((Grounded.root hsc ho).of_keeps hk hi).find?_eq
      (hk _ _ hi hsc), ho]
    rfl
  | within hsc ho hlt outer ih =>
    have hg := Grounded.within hsc ho hlt outer
    rw [hg.find?_eq hsc, (hg.of_keeps hk hi).find?_eq (hk _ _ hi hsc), ho]
    simp only [Option.bind_some, ih (Nat.lt_trans hlt hi)]

theorem Grounded.of_extends (h : s.Grounded i) (hk : s.Extends s') : s'.Grounded i :=
  h.of_keeps (hk.keepsBelow (i + 1)) (Nat.lt_succ_self i)

/-- More scopes do not change what is seen from a scope. -/
theorem Grounded.view_of_extends (h : s.Grounded i) (hk : s.Extends s') : s'.view i = s.view i :=
  h.view_of_keeps (hk.keepsBelow (i + 1)) (Nat.lt_succ_self i)

/-! ## Views from new scopes and new bindings -/

theorem Grounded.push (h : s.Grounded i) {new : Scope} (ho : new.outer = some i) :
    (s.push new).Grounded s.scopes.size :=
  .within (scopes_push_size s new) ho h.lt_size (h.of_extends (extends_push s new))

/-- A new scope around which the scope `i` lies, with symbols bound in it. -/
theorem Grounded.view_push (h : s.Grounded i) (xs : List Symbol) (vs : List Value) :
    (s.push (Scope.putAll ⟨[], some i⟩ xs vs)).view s.scopes.size =
      (s.view i).extendAll xs vs := by
  funext x
  have ho : (Scope.putAll ⟨[], some i⟩ xs vs).outer = some i := Scope.outer_putAll _ xs vs
  have hview := congrFun (h.view_of_extends (extends_push s (Scope.putAll ⟨[], some i⟩ xs vs))) x
  simp only [view] at hview ⊢
  rw [(h.push ho).find?_eq (scopes_push_size s _), ho, Option.bind_some, hview,
    Scope.get?_putAll, Bindings.extendAll_apply]
  simp [Scope.get?, Scope.getBinding?]

/-- A new empty scope shows what is seen from the scope around it. -/
theorem Grounded.view_child (h : s.Grounded i) :
    (s.push ⟨[], some i⟩).view s.scopes.size = s.view i :=
  h.view_push [] []

theorem Grounded.modify (h : s.Grounded i) (xs : List Symbol) (vs : List Value) :
    (s.modify i (·.putAll xs vs)).Grounded i := by
  have hkeeps := keepsBelow_modify s i (·.putAll xs vs)
  cases h with
  | root hsc ho =>
    exact .root (scopes_modify_self _ hsc) ((Scope.outer_putAll _ xs vs).trans ho)
  | within hsc ho hlt outer =>
    exact .within (scopes_modify_self _ hsc) ((Scope.outer_putAll _ xs vs).trans ho) hlt
      (outer.of_keeps hkeeps hlt)

/-- The scope `i` itself with symbols bound in it. -/
theorem Grounded.view_modify (h : s.Grounded i) (xs : List Symbol) (vs : List Value) :
    (s.modify i (·.putAll xs vs)).view i = (s.view i).extendAll xs vs := by
  funext x
  obtain ⟨sc, hsc⟩ := h.exists_scope
  have houter : (sc.outer.bind fun o => (s.modify i (·.putAll xs vs)).find? o x) =
      sc.outer.bind fun o => s.find? o x := by
    cases ho : sc.outer with
    | none => rfl
    | some o =>
      obtain ⟨hlt, hg⟩ := h.outer hsc ho
      exact congrFun (hg.view_of_keeps (keepsBelow_modify s i _) hlt) x
  simp only [view]
  rw [(h.modify xs vs).find?_eq (scopes_modify_self _ hsc), Scope.outer_putAll, houter,
    Scope.get?_putAll, Bindings.extendAll_apply, Option.or_assoc, ← h.find?_eq hsc]

/-! ## The way outward -/

/-- The way from the scope `i` outward, to a scope that lies within no other. -/
inductive Walk (s : Store) : ScopeId → List Scope → Prop
  | last {i : ScopeId} {sc : Scope} (hsc : s.scopes[i]? = some sc) (ho : sc.outer = none) :
      Walk s i [sc]
  | outward {i o : ScopeId} {sc : Scope} {scs : List Scope} (hsc : s.scopes[i]? = some sc)
      (ho : sc.outer = some o) (rest : Walk s o scs) : Walk s i (sc :: scs)

/-- There are at most as many scopes on the way out as there are scopes up to this one. -/
theorem Grounded.exists_walk (h : s.Grounded i) : ∃ scs, s.Walk i scs ∧ scs.length ≤ i + 1 := by
  induction h with
  | root hsc ho => exact ⟨_, .last hsc ho, Nat.le_add_left 1 _⟩
  | within hsc ho hlt _ ih =>
    obtain ⟨scs, hwalk, hlength⟩ := ih
    exact ⟨_, .outward hsc ho hwalk, Nat.succ_le_succ (Nat.le_trans hlength hlt)⟩

/-- Enough fuel for the way outward gives the whole chain. -/
theorem Walk.chainFrom_eq {scs : List Scope} (h : s.Walk i scs) {fuel : Nat}
    (hfuel : scs.length ≤ fuel) : s.chainFrom fuel i = scs := by
  induction h generalizing fuel with
  | last hsc ho =>
    obtain ⟨fuel, rfl⟩ := Nat.exists_eq_add_one_of_ne_zero (Nat.ne_zero_of_lt hfuel)
    simp only [chainFrom, hsc, ho]
  | outward hsc ho _ ih =>
    obtain ⟨fuel, rfl⟩ := Nat.exists_eq_add_one_of_ne_zero (Nat.ne_zero_of_lt hfuel)
    simp only [chainFrom, hsc, ho, ih (Nat.le_of_succ_le_succ hfuel)]

/-! ## Well-formed stores -/

/-- The functions within all values that a store binds. -/
def functions (s : Store) : List FunctionData :=
  s.scopes.toList.flatMap fun sc => sc.bindings.flatMap fun b => b.2.functions

/-- Every scope lies within an earlier one or within none, and functions capture scopes that are
there. -/
structure WellFormed (s : Store) : Prop where
  outer_lt : ∀ (i o : ScopeId) (sc : Scope), s.scopes[i]? = some sc → sc.outer = some o → o < i
  captured_lt : ∀ f ∈ s.functions, ∀ d, f.scope = some d → d < s.scopes.size

/-- In a well-formed store every scope leads outward to an end. -/
theorem WellFormed.grounded (h : s.WellFormed) (hi : i < s.scopes.size) : s.Grounded i := by
  induction i using Nat.strongRecOn with
  | ind i ih =>
    have hsc := Array.getElem?_eq_getElem hi
    cases ho : s.scopes[i].outer with
    | none => exact .root hsc ho
    | some o =>
      have hlt := h.outer_lt i o _ hsc ho
      exact .within hsc ho hlt (ih o hlt (Nat.lt_trans hlt hi))

/-- What is found is bound in some scope of the store. -/
theorem exists_scope_of_findFrom {fuel : Nat} {v : Value} (h : s.findFrom x fuel i = some v) :
    ∃ (j : ScopeId) (sc : Scope), s.scopes[j]? = some sc ∧ sc.get? x = some v := by
  induction fuel generalizing i with
  | zero => cases h
  | succ fuel ih =>
    simp only [findFrom] at h
    split at h
    · cases h
    · rename_i sc hsc
      split at h
      · rename_i w hw
        exact ⟨i, sc, hsc, hw.trans h⟩
      · split at h
        · cases h
        · exact ih h

theorem mem_of_getBinding? {bs : List (Symbol × Value)} {v : Value}
    (h : Scope.getBinding? x bs = some v) : (x, v) ∈ bs := by
  induction bs with
  | nil => cases h
  | cons b bs ih =>
    rw [Scope.getBinding?] at h
    split at h
    · rename_i hb
      cases h
      exact hb ▸ .head _
    · exact .tail _ (ih h)

/-- What is seen from a scope is bound in the store. -/
theorem functions_of_find? {v : Value} (h : s.find? i x = some v) {f : FunctionData}
    (hf : f ∈ v.functions) : f ∈ s.functions := by
  obtain ⟨j, sc, hsc, hx⟩ := exists_scope_of_findFrom h
  have hmem : sc ∈ s.scopes.toList := Array.mem_toList_iff.mpr (Array.mem_of_getElem? hsc)
  refine List.mem_flatMap.mpr ⟨sc, hmem, List.mem_flatMap.mpr ⟨(x, v), ?_, hf⟩⟩
  exact mem_of_getBinding? hx

end Store

end SmallLisp
