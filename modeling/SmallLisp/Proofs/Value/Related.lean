import Mathlib.Data.List.Forall2
import SmallLisp.Value.Compare
import SmallLisp.Value.Printer

/-!
# Functions within values

A value may be a function, or a list or a tuple with functions somewhere within. Two values are
related if they are the same but for the scopes that their functions capture, and a given relation
holds between the functions at the same places. Neither comparing nor printing values can tell
related values apart.

## Main definitions

* `FunctionData`: what a function consists of
* `Value.functions`: the functions within a value
* `Value.withoutScopes`: a value whose functions capture nothing
* `Value.Related`: values that are the same but for captured scopes

## Main results

* `Value.related_self`: a value is related to itself if all functions within are
* `Value.Related.withoutScopes_eq`: related values are equal without captured scopes
* `Value.Related.compare_eq`: comparisons of related values agree
* `Value.Related.render_eq`: related values have the same text
-/

namespace SmallLisp

/-- What a function consists of. -/
structure FunctionData where
  id : Nat
  name : Symbol
  params : List Symbol
  body : Value
  scope : Option ScopeId

namespace Value

/-! ## The functions within a value -/

mutual

/-- The functions within a value. The body of a function is a program, not a value within it. -/
def functions : Value → List FunctionData
  | .list vs => functionsAll vs
  | .tuple vs => functionsAll vs
  | .function id name params body scope => [⟨id, name, params, body, scope⟩]
  | _ => []

/-- The functions within several values. -/
def functionsAll : List Value → List FunctionData
  | [] => []
  | v :: vs => functions v ++ functionsAll vs

end

mutual

/-- The value whose functions capture no scopes, and which is the same otherwise. -/
def withoutScopes : Value → Value
  | .list vs => .list (withoutScopesAll vs)
  | .tuple vs => .tuple (withoutScopesAll vs)
  | .function id name params body _ => .function id name params body none
  | v => v

/-- Several values whose functions capture no scopes. -/
def withoutScopesAll : List Value → List Value
  | [] => []
  | v :: vs => withoutScopes v :: withoutScopesAll vs

end

theorem mem_functionsAll {f : FunctionData} {vs : List Value} :
    f ∈ functionsAll vs ↔ ∃ v ∈ vs, f ∈ v.functions := by
  induction vs with
  | nil => simp [functionsAll]
  | cons v vs ih => simp [functionsAll, ih]

/-- Whether a value is neither a function nor a list or a tuple. -/
def isAtom : Value → Bool
  | .list _ | .tuple _ | .function .. => false
  | _ => true

mutual

/-- Induction on values: lists and tuples by their items. -/
theorem induction_items {motive : Value → Prop}
    (atom : ∀ v : Value, v.isAtom = true → motive v)
    (function : ∀ id name params body scope, motive (.function id name params body scope))
    (list : ∀ vs, (∀ v ∈ vs, motive v) → motive (.list vs))
    (tuple : ∀ vs, (∀ v ∈ vs, motive v) → motive (.tuple vs)) : ∀ v, motive v
  | .list vs => list vs (induction_items_all atom function list tuple vs)
  | .tuple vs => tuple vs (induction_items_all atom function list tuple vs)
  | .function id name params body scope => function id name params body scope
  | .int _ | .float _ | .bool _ | .nothing | .str _ | .sym _ | .builtin _ => atom _ rfl

/-- The induction over the items of several values at once. -/
theorem induction_items_all {motive : Value → Prop}
    (atom : ∀ v : Value, v.isAtom = true → motive v)
    (function : ∀ id name params body scope, motive (.function id name params body scope))
    (list : ∀ vs, (∀ v ∈ vs, motive v) → motive (.list vs))
    (tuple : ∀ vs, (∀ v ∈ vs, motive v) → motive (.tuple vs)) :
    ∀ vs : List Value, ∀ v ∈ vs, motive v
  | [] => List.forall_mem_nil motive
  | v :: vs => List.forall_mem_cons.mpr
    ⟨induction_items atom function list tuple v, induction_items_all atom function list tuple vs⟩

end

/-- Values that are the same but for the scopes that functions capture. Functions at the same
places are in the relation `R`. -/
inductive Related (R : FunctionData → FunctionData → Prop) : Value → Value → Prop
  | atom {v : Value} (plain : v.isAtom = true) : Related R v v
  | function {id : Nat} {name : Symbol} {params : List Symbol} {body : Value}
      {c d : Option ScopeId} (data : R ⟨id, name, params, body, c⟩ ⟨id, name, params, body, d⟩) :
      Related R (.function id name params body c) (.function id name params body d)
  | list {vs ws : List Value} (items : List.Forall₂ (Related R) vs ws) :
      Related R (.list vs) (.list ws)
  | tuple {vs ws : List Value} (items : List.Forall₂ (Related R) vs ws) :
      Related R (.tuple vs) (.tuple ws)

variable {R : FunctionData → FunctionData → Prop} {v v' w w' : Value} {vs vs' ws ws' : List Value}

theorem functions_of_isAtom (h : v.isAtom = true) : v.functions = [] := by
  cases v <;> simp_all [isAtom, functions]

theorem forall_functions_of_isAtom {p : FunctionData → Prop} (h : v.isAtom = true) :
    ∀ f ∈ v.functions, p f := by
  rw [functions_of_isAtom h]
  exact List.forall_mem_nil p

/-- A value is related to itself if each function within it is. -/
theorem related_self (h : ∀ f ∈ v.functions, R f f) : Related R v v := by
  induction v using induction_items with
  | atom v hv => exact .atom hv
  | function id name params body scope => exact .function (h _ (.head _))
  | list vs ih =>
    refine .list (List.forall₂_same.mpr fun v hv => ih v hv fun f hf => h f ?_)
    exact mem_functionsAll.mpr ⟨v, hv, hf⟩
  | tuple vs ih =>
    refine .tuple (List.forall₂_same.mpr fun v hv => ih v hv fun f hf => h f ?_)
    exact mem_functionsAll.mpr ⟨v, hv, hf⟩

/-- A relation between items that holds for a reason found at the items of the first list. -/
theorem forall₂_imp_of_mem {α β : Type} {P Q : α → β → Prop} {xs : List α} {ys : List β}
    (h : List.Forall₂ P xs ys) (himp : ∀ x ∈ xs, ∀ y, P x y → Q x y) : List.Forall₂ Q xs ys := by
  induction h with
  | nil => exact .nil
  | cons hxy _ ih => exact .cons (himp _ (.head _) _ hxy) (ih fun x hx => himp x (.tail _ hx))

/-- Induction on related values: lists and tuples by their items. -/
@[elab_as_elim]
theorem Related.induct {motive : Value → Value → Prop}
    (atom : ∀ v : Value, v.isAtom = true → motive v v)
    (function : ∀ id name params body c d,
      R ⟨id, name, params, body, c⟩ ⟨id, name, params, body, d⟩ →
      motive (.function id name params body c) (.function id name params body d))
    (list : ∀ vs ws, List.Forall₂ motive vs ws → motive (.list vs) (.list ws))
    (tuple : ∀ vs ws, List.Forall₂ motive vs ws → motive (.tuple vs) (.tuple ws))
    (h : Related R v w) : motive v w := by
  induction v using induction_items generalizing w with
  | atom v hv =>
    cases h with
    | atom => exact atom v hv
    | _ => cases hv
  | function id name params body scope =>
    cases h with
    | atom plain => cases plain
    | function data => exact function _ _ _ _ _ _ data
  | list vs ih =>
    cases h with
    | atom plain => cases plain
    | list items => exact list _ _ (forall₂_imp_of_mem items fun v hv _ hvw => ih v hv hvw)
  | tuple vs ih =>
    cases h with
    | atom plain => cases plain
    | tuple items => exact tuple _ _ (forall₂_imp_of_mem items fun v hv _ hvw => ih v hv hvw)

theorem exists_mem_functionsAll {g : FunctionData}
    (h : List.Forall₂ (fun v w : Value => g ∈ w.functions → ∃ f ∈ v.functions, R f g) vs ws)
    (hg : g ∈ functionsAll ws) : ∃ f ∈ functionsAll vs, R f g := by
  induction h with
  | nil => cases hg
  | cons hvw _ ih =>
    rcases List.mem_append.mp hg with hg | hg
    · obtain ⟨f, hf, hR⟩ := hvw hg
      exact ⟨f, List.mem_append_left _ hf, hR⟩
    · obtain ⟨f, hf, hR⟩ := ih hg
      exact ⟨f, List.mem_append_right _ hf, hR⟩

/-- Each function within the second of two related values is related to one within the first. -/
theorem Related.exists_function (h : Related R v w) {g : FunctionData} :
    g ∈ w.functions → ∃ f ∈ v.functions, R f g := by
  refine Related.induct ?atom ?function ?list ?tuple h
  case atom =>
    intro v hv hg
    rw [functions_of_isAtom hv] at hg
    cases hg
  case function =>
    intro id name params body c d data hg
    obtain rfl := List.mem_singleton.mp hg
    exact ⟨_, .head _, data⟩
  case list => exact fun vs ws hvw => exists_mem_functionsAll hvw
  case tuple => exact fun vs ws hvw => exists_mem_functionsAll hvw

/-- Related values are the same without captured scopes. -/
theorem Related.withoutScopes_eq (h : Related R v w) : v.withoutScopes = w.withoutScopes := by
  have items {vs ws : List Value}
      (h : List.Forall₂ (fun v w => v.withoutScopes = w.withoutScopes) vs ws) :
      withoutScopesAll vs = withoutScopesAll ws := by
    induction h with
    | nil => rfl
    | cons hvw _ ih => rw [withoutScopesAll, withoutScopesAll, hvw, ih]
  refine Related.induct ?atom ?function ?list ?tuple h
  case atom => exact fun v hv => rfl
  case function => exact fun id name params body c d data => rfl
  case list => exact fun vs ws hvw => congrArg Value.list (items hvw)
  case tuple => exact fun vs ws hvw => congrArg Value.tuple (items hvw)

/-! ## Comparing and printing related values -/

theorem Related.kind_eq (h : Related R v w) : v.kind = w.kind := by
  cases h <;> rfl

theorem Related.num?_eq (h : Related R v w) : v.num? = w.num? := by
  cases h <;> rfl

theorem Related.int?_eq (h : Related R v w) : v.int? = w.int? := by
  cases h <;> rfl

theorem Related.sameNum_eq (h : Related R v w) (a : Num) : sameNum a v = sameNum a w := by
  rw [sameNum, sameNum, h.num?_eq]

/-- Sequences of related values are compared alike. -/
theorem sameAll_congr (hv : List.Forall₂ (fun v v' => ∀ w w', Related R w w' →
      same v w = same v' w') vs vs') (hw : List.Forall₂ (Related R) ws ws') :
    sameAll vs ws = sameAll vs' ws' := by
  induction hv generalizing ws ws' with
  | nil => cases hw <;> rfl
  | cons hv _ ih =>
    cases hw with
    | nil => rfl
    | cons hw hws => rw [sameAll, sameAll, hv _ _ hw, ih hws]

/-- Equality does not depend on captured scopes. -/
theorem Related.same_eq (hv : Related R v v') (hw : Related R w w') : same v w = same v' w' := by
  -- by the first values, for all second ones
  suffices h : ∀ w w', Related R w w' → same v w = same v' w' from h w w' hw
  refine Related.induct ?atom ?function ?list ?tuple hv
  case atom =>
    intro v plain w w' hw
    cases v with
    | int n => simpa only [same] using hw.sameNum_eq (.int n)
    | float x => simpa only [same] using hw.sameNum_eq (.float x)
    | bool b => simpa only [same] using hw.sameNum_eq (.int (if b then 1 else 0))
    | nothing => cases hw <;> rfl
    | str t => cases hw <;> rfl
    | sym x => cases hw <;> rfl
    | builtin b => cases hw <;> rfl
    | _ => cases plain
  case function =>
    intro id name params body c d data w w' hw
    cases hw with
    | atom plain => cases w <;> rfl
    | _ => rfl
  case list =>
    intro vs vs' hvs w w' hw
    cases hw with
    | atom plain => cases w <;> simp_all [isAtom, same]
    | list hws => exact sameAll_congr hvs hws
    | _ => rfl
  case tuple =>
    intro vs vs' hvs w w' hw
    cases hw with
    | atom plain => cases w <;> simp_all [isAtom, same]
    | tuple hws => exact sameAll_congr hvs hws
    | _ => rfl

/-- Sequences of related values are ordered alike. -/
theorem orderAll_congr {op : Comparison} (hv : List.Forall₂ (fun v v' => Related R v v' ∧
      ∀ w w', Related R w w' → order op v w = order op v' w') vs vs')
    (hw : List.Forall₂ (Related R) ws ws') : orderAll op vs ws = orderAll op vs' ws' := by
  induction hv generalizing ws ws' with
  | nil => cases hw <;> rfl
  | cons hv _ ih =>
    cases hw with
    | nil => rfl
    | cons hw hws => rw [orderAll, orderAll, hv.1.same_eq hw, hv.2 _ _ hw, ih hws]

/-- Order does not depend on captured scopes. -/
theorem Related.order_eq (op : Comparison) (hv : Related R v v') (hw : Related R w w') :
    order op v w = order op v' w' := by
  suffices h : Related R v v' ∧ ∀ w w', Related R w w' → order op v w = order op v' w' from
    h.2 w w' hw
  refine Related.induct ?atom ?function ?list ?tuple hv
  case atom =>
    refine fun v plain => ⟨.atom plain, fun w w' hw => ?_⟩
    cases hw with
    | atom => rfl
    | function data => cases v <;> rfl
    | list hws => cases v <;> simp_all [isAtom, order, num?, kind]
    | tuple hws => cases v <;> simp_all [isAtom, order, num?, kind]
  case function =>
    refine fun id name params body c d data => ⟨.function data, fun w w' hw => ?_⟩
    cases hw <;> rfl
  case list =>
    refine fun vs vs' hvs => ⟨.list (hvs.imp fun _ _ h => h.1), fun w w' hw => ?_⟩
    cases hw with
    | atom plain => cases w <;> simp_all [isAtom, order, num?, kind]
    | list hws => exact orderAll_congr hvs hws
    | _ => rfl
  case tuple =>
    refine fun vs vs' hvs => ⟨.tuple (hvs.imp fun _ _ h => h.1), fun w w' hw => ?_⟩
    cases hw with
    | atom plain => cases w <;> simp_all [isAtom, order, num?, kind]
    | tuple hws => exact orderAll_congr hvs hws
    | _ => rfl

/-- **Comparisons do not depend on captured scopes.** -/
theorem Related.compare_eq (op : Comparison) (hv : Related R v v') (hw : Related R w w') :
    compare op v w = compare op v' w' := by
  cases op <;> simp only [compare, hv.same_eq hw, hv.order_eq _ hw]

/-- **The text of a value does not depend on captured scopes.** -/
theorem Related.render_eq (style : Style) (room : Nat) (h : Related R v w) :
    render style room v = render style room w := by
  have items {style : Style} {room : Nat} {vs ws : List Value}
      (h : List.Forall₂ (fun v w => ∀ style room, render style room v = render style room w)
        vs ws) : renderAll style room vs = renderAll style room ws := by
    induction h with
    | nil => rfl
    | cons hvw _ ih => rw [renderAll, renderAll, hvw, ih]
  suffices hall : ∀ style room, render style room v = render style room w from hall style room
  refine Related.induct ?atom ?function ?list ?tuple h
  case atom => exact fun v plain style room => rfl
  case function =>
    exact fun id name params body c d data style room => by cases style <;> simp only [render]
  case list => exact fun vs ws hvw style room => by rw [render, render, items hvw]
  case tuple => exact fun vs ws hvw style room => by rw [render, render, items hvw]

/-- Related values have the same texts. -/
theorem renderAll_congr (style : Style) (room : Nat) (h : List.Forall₂ (Related R) vs ws) :
    renderAll style room vs = renderAll style room ws := by
  induction h with
  | nil => rfl
  | cons hvw _ ih => rw [renderAll, renderAll, hvw.render_eq, ih]

end Value

end SmallLisp
