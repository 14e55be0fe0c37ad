import Mathlib.Data.List.Induction
import SmallLisp.Proofs.Confinement

/-!
# Definitions that are local

A definition within another form binds its function in a scope that nothing looks into once the
definition is done. So no such function ever gets out: neither into the value of the form, nor into
a scope that was there before, by whatever calls, lists or parameters. In a session, all functions
that the root scope binds come from definitions that are forms of the session themselves.

## Main definitions

* `Session.Made`: the functions that the definitions among the forms of a session make

## Main results

* `functions_after_evalWithin`: an evaluation gives and binds only functions that were there before
* `Session.alike_afterForms`: the root scope binds only functions that top-level definitions make
* `nested_definitions_local`: both statements together
-/

namespace SmallLisp

open StoreM

/-! ## One evaluation -/

/-- All functions in the value of a form that is no definition, and in the scopes that were there
before, were there before. -/
theorem functions_after_evalWithin {s : Store} (hs : s.WellFormed) {i : ScopeId}
    (hi : i < s.scopes.size) (mode : Scoping) (room : Nat) {expr : Value}
    (hplain : expr.definitionParts? = none) :
    (∀ v, outcome (evalWithin mode room expr i) s = .ok v → ∀ f ∈ v.functions, f ∈ s.functions) ∧
      ∀ j < s.scopes.size, ∀ sc, (after (evalWithin mode room expr i) s).scopes[j]? = some sc →
        ∀ f ∈ sc.functions, f ∈ s.functions := by
  have halike := hs.alike
  constructor
  · exact (nestedWithin_confined _ mode mode room 0 expr _ s s i halike hi).result
  · intro j hj sc hsc
    have hafter := halike.evalWithin_plain hi hplain mode mode room
    obtain ⟨sc', hsc', -, -, hf⟩ := hafter.scope j hj
    obtain rfl := Option.some.inj (hsc.symm.trans hsc')
    exact hf

/-! ## Sessions -/

/-- Fewer functions, or more scopes for them to capture, keep stores alike. -/
theorem Alike.mono {p q : FunctionData → Prop} {L : Set ScopeId} {s t : Store}
    (h : Alike p L s t) (hpq : ∀ f, p f → q f) (hq : ∀ f d, q f → f.scope = some d → d ∈ L) :
    Alike q L s t where
  size_eq := h.size_eq
  nextId_eq := h.nextId_eq
  scope i hi := by
    obtain ⟨sc, hs, ht, ho, hf⟩ := h.scope i hi
    exact ⟨sc, hs, ht, ho, fun f hmem => hpq f (hf f hmem)⟩
  captured := hq

namespace Session

@[simp] theorem afterForms_concat (s : Session) (forms : List Value) (form : Value) :
    s.afterForms (forms ++ [form]) = ((s.afterForms forms).evalForm form).2 := by
  simp [afterForms]

theorem store_evalForm (s : Session) (form : Value) :
    (s.evalForm form).2.store = after (evalWithin s.scoping s.limit form s.root) s.store := by
  rw [evalForm_eq]

@[simp] theorem scoping_afterForms (s : Session) (forms : List Value) :
    (s.afterForms forms).scoping = s.scoping := by
  induction forms using List.reverseRecOn with
  | nil => rfl
  | append_singleton forms form ih => rw [afterForms_concat, evalForm_eq, ih]

@[simp] theorem root_afterForms (s : Session) (forms : List Value) :
    (s.afterForms forms).root = s.root := by
  induction forms using List.reverseRecOn with
  | nil => rfl
  | append_singleton forms form ih => rw [afterForms_concat, evalForm_eq, ih]

/-- One of the forms is a definition that makes the function `f` when its turn comes: with the next
identity, and with the scope that the mode of the session captures in the root scope. -/
def Made (s : Session) (forms : List Value) (f : FunctionData) : Prop :=
  ∃ earlier form later d, forms = earlier ++ form :: later ∧ form.definition? = some d ∧
    f = ⟨(s.afterForms earlier).store.nextId, d.name, d.params, d.body, s.scoping.captured s.root⟩

variable {s : Session} {forms : List Value} {f : FunctionData}

/-- What was made by some forms was made by these and one more. -/
theorem Made.concat (h : s.Made forms f) (form : Value) : s.Made (forms ++ [form]) f := by
  obtain ⟨earlier, other, later, d, rfl, hd, hf⟩ := h
  exact ⟨earlier, other, later ++ [form], d, by simp, hd, hf⟩

/-- A function that a form makes captures nothing but the root scope. -/
theorem Made.captured (h : s.Made forms f) {d : ScopeId} (hd : f.scope = some d) :
    d ∈ ({s.root} : Set ScopeId) := by
  obtain ⟨_, _, _, _, -, -, rfl⟩ := h
  cases hmode : s.scoping with
  | dynamic =>
    rw [hmode] at hd
    cases hd
  | lexical =>
    rw [hmode] at hd
    cases hd
    rfl

/-- A further form leaves in the root scope what was there. If it is a definition, it also binds the
function that it makes. -/
theorem alike_evalForm
    (h : Alike (s.Made forms) {s.root} (s.afterForms forms).store (s.afterForms forms).store)
    (form : Value) :
    Alike (s.Made (forms ++ [form])) {s.root} (s.afterForms (forms ++ [form])).store
      (s.afterForms (forms ++ [form])).store := by
  have hmono : Alike (s.Made (forms ++ [form])) {s.root} (s.afterForms forms).store
      (s.afterForms forms).store :=
    h.mono (fun f hf => hf.concat form) fun f d hf hd => hf.captured hd
  rw [afterForms_concat, store_evalForm, scoping_afterForms, root_afterForms]
  cases hparts : form.definitionParts? with
  | none => exact hmono.evalWithin_plain rfl hparts _ _ _
  | some tail =>
    cases (s.afterForms forms).limit with
    | zero => exact hmono
    | succ room =>
      have hform := Value.definitionParts?_eq_some_iff.mp hparts
      have hstep : evalWithin s.scoping (room + 1) form s.root =
          evalDefun s.scoping (room - partPlaces) tail s.root :=
        step_of_formItems hform s.scoping room _ s.root
      rw [hstep]
      cases hd : Definition.ofParts (room - partPlaces) tail with
      | error e =>
        simp only [evalDefun, hd]
        exact hmono
      | ok d =>
        have hdef := Value.definition?_eq_some hparts hd
        refine (hmono.modify s.root [d.name] ?_).of_extends (extends_evalDefun hd _ s.root _)
          (extends_evalDefun hd _ s.root _) rfl rfl
        rintro v hv f hf
        obtain rfl := List.mem_singleton.mp hv
        obtain rfl := List.mem_singleton.mp hf
        exact ⟨forms, form, [], d, rfl, hdef, rfl⟩

/-- **The root scope of a session binds only functions that its definitions make.** -/
theorem alike_afterForms (h : Alike (s.Made []) {s.root} s.store s.store) (forms : List Value) :
    Alike (s.Made forms) {s.root} (s.afterForms forms).store (s.afterForms forms).store := by
  induction forms using List.reverseRecOn with
  | nil => exact h
  | append_singleton forms form ih => exact alike_evalForm ih form

/-! ### A new session -/

end Session

/-- The names of a root scope stand for no functions. -/
theorem Store.exists_scope_register {s : Store} {i : ScopeId} {sc : Scope}
    (h : s.scopes[i]? = some sc) :
    ∃ sc', (s.register i).scopes[i]? = some sc' ∧ sc'.outer = sc.outer ∧
      sc'.functions ⊆ sc.functions := by
  refine List.foldlRecOn (motive := fun s : Store => ∃ sc', s.scopes[i]? = some sc' ∧
    sc'.outer = sc.outer ∧ sc'.functions ⊆ sc.functions) entries _
    ⟨sc, h, rfl, List.Subset.refl _⟩ fun s hs e he => ?_
  obtain ⟨sc', hsc', ho, hf⟩ := hs
  refine ⟨sc'.put ⟨e.1⟩ (e.2.value e.1 s.nextId), scopes_modify_self _ hsc', ho, fun f hmem => ?_⟩
  rcases Scope.functions_put hmem with hnew | hold
  · rw [Value.functions_of_isAtom (isAtom_of_mem_entries he s.nextId)] at hnew
    cases hnew
  · exact hf hold

/-- A new session has no functions yet. -/
theorem Session.alike_initial (mode : Scoping) (limit : Nat) (store : Store) :
    Alike ((initial mode limit store).Made []) {(initial mode limit store).root}
      (initial mode limit store).store (initial mode limit store).store where
  size_eq := rfl
  nextId_eq := rfl
  scope := by
    rintro i rfl
    obtain ⟨sc, hsc, ho, hf⟩ :=
      Store.exists_scope_register (store.scopes_push_size ⟨[], none⟩)
    refine ⟨sc, hsc, hsc, fun o hout => ?_, fun f hmem => ?_⟩
    · rw [ho] at hout
      cases hout
    · cases hf hmem
  captured f d hf hd := hf.captured hd

/-- **Definitions within other forms are local.** All functions in the value of a form that is no
definition, and in the scopes that were there before it, were there before. So in a session, every
function that the root scope binds or a form gives was made by a definition that is a form of the
session itself. It captures nothing under dynamic scoping, and the root scope under lexical
scoping. -/
theorem nested_definitions_local :
    (∀ (s : Store) (i : ScopeId) (mode : Scoping) (room : Nat) (expr : Value),
      s.WellFormed → i < s.scopes.size → expr.definitionParts? = none →
        (∀ v, outcome (evalWithin mode room expr i) s = .ok v →
          ∀ f ∈ v.functions, f ∈ s.functions) ∧
        ∀ j < s.scopes.size, ∀ sc,
          (after (evalWithin mode room expr i) s).scopes[j]? = some sc →
            ∀ f ∈ sc.functions, f ∈ s.functions) ∧
    ∀ (mode : Scoping) (limit : Nat) (store : Store) (forms : List Value),
      let start := Session.initial mode limit store
      let session := start.afterForms forms
      (∀ sc, session.store.scopes[session.root]? = some sc →
        ∀ f ∈ sc.functions, start.Made forms f) ∧
      ∀ form v, (session.evalForm form).1 = .ok v → ∀ f ∈ v.functions, start.Made forms f := by
  refine ⟨fun s i mode room expr hs hi hplain => functions_after_evalWithin hs hi mode room hplain,
    fun mode limit store forms => ?_⟩
  intro start session
  have hsession := Session.alike_afterForms (Session.alike_initial mode limit store) forms
  have hroot : session.root = start.root := Session.root_afterForms start forms
  constructor
  · intro sc hsc
    obtain ⟨sc', hsc', -, -, hf⟩ := hsession.scope start.root rfl
    rw [hroot] at hsc
    obtain rfl := Option.some.inj (hsc.symm.trans hsc')
    exact hf
  · intro form v hv
    have htandem := nestedWithin_confined (start.Made forms) session.scoping session.scoping
      session.limit 0 form {start.root} session.store session.store session.root hsession hroot
    exact htandem.result v (Session.evalForm_eq_ok hv)

/-- A form gives a function whose name it defines anew on the way, in a store and in a session. -/
theorem nested_definitions_local_same_name :
    let identity : Value := .function 0 ⟨"id"⟩ [⟨"x"⟩] (.sym ⟨"x"⟩) none
    let s : Store := ⟨#[⟨[(⟨"id"⟩, identity)], none⟩], 1⟩
    let definition : Value := .list [.sym ⟨"defun"⟩, .sym ⟨"id"⟩, .list [.sym ⟨"x"⟩], .sym ⟨"x"⟩]
    let form : Value :=
      .list [.sym ⟨"if"⟩, definition, .list [.sym ⟨"id"⟩, .sym ⟨"id"⟩], .int 0]
    let start := Session.initial .lexical 9 Store.empty
    (s.WellFormed ∧ form.definitionParts? = none ∧
      (outcome (evalWithin .lexical 9 form 0) s).isOk = true ∧
      ∀ v, outcome (evalWithin .lexical 9 form 0) s = .ok v → ∀ f ∈ v.functions, f ∈ s.functions) ∧
    ((start.afterForms [definition]).evalForm form).1.isOk = true ∧
      ∀ v, ((start.afterForms [definition]).evalForm form).1 = .ok v →
        ∀ f ∈ v.functions, start.Made [definition] f := by
  intro identity s definition form start
  have hs : s.WellFormed := {
    outer_lt := by
      intro i o sc hsc ho
      cases i with
      | zero => cases hsc; cases ho
      | succ i => cases hsc
    captured_lt := by simp [s, identity, Store.functions, Value.functions] }
  have hplain : form.definitionParts? = none := rfl
  have hstore := nested_definitions_local.1 s 0 .lexical 9 form hs (by decide) hplain
  have hsession := nested_definitions_local.2 .lexical 9 Store.empty [definition]
  refine ⟨⟨hs, hplain, by decide +kernel, hstore.1⟩, by decide +kernel, hsession.2 form⟩

end SmallLisp
