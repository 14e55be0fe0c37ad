import SmallLisp.Proofs.Store.View

/-!
# The functions that scopes bind

Binding symbols in a scope adds no functions but those within the values that are bound. What is
true of all functions of a store is so kept by every change that only passes functions on.

## Main definitions

* `Value.Holds`: all functions within a value have a property
* `Scope.functions`: the functions within all values that a scope binds

## Main results

* `Scope.functions_putAll`: what is bound after several bindings was bound before or is new
* `Store.mem_functions_iff`: a function of the store is a function of one of its scopes
-/

namespace SmallLisp

/-- A value all of whose functions have the property `p`. -/
abbrev Value.Holds (p : FunctionData → Prop) (v : Value) : Prop :=
  ∀ f ∈ v.functions, p f

namespace Scope

/-- The functions within all values that a scope binds. -/
def functions (sc : Scope) : List FunctionData :=
  sc.bindings.flatMap fun b => b.2.functions

variable {sc : Scope} {x : Symbol} {v : Value} {f : FunctionData}

theorem functions_of_get? (h : sc.get? x = some v) (hf : f ∈ v.functions) : f ∈ sc.functions :=
  List.mem_flatMap.mpr ⟨(x, v), Store.mem_of_getBinding? h, hf⟩

theorem mem_putBinding {b : Symbol × Value} {bs : List (Symbol × Value)}
    (h : b ∈ putBinding x v bs) : b = (x, v) ∨ b ∈ bs := by
  induction bs with
  | nil => exact .inl (List.mem_singleton.mp h)
  | cons c bs ih =>
    rw [putBinding] at h
    split at h
    · rcases List.mem_cons.mp h with rfl | h
      · exact .inl rfl
      · exact .inr (.tail _ h)
    · rcases List.mem_cons.mp h with rfl | h
      · exact .inr (.head _)
      · exact (ih h).imp_right (.tail _)

/-- A new binding brings no functions but those of its value. -/
theorem functions_put (h : f ∈ (sc.put x v).functions) : f ∈ v.functions ∨ f ∈ sc.functions := by
  obtain ⟨b, hb, hf⟩ := List.mem_flatMap.mp h
  rcases mem_putBinding hb with rfl | hb
  · exact .inl hf
  · exact .inr (List.mem_flatMap.mpr ⟨b, hb, hf⟩)

/-- What is bound in a scope after several bindings was bound before or is one of the values. -/
theorem functions_putAll {xs : List Symbol} {vs : List Value}
    (h : f ∈ (sc.putAll xs vs).functions) : (∃ v ∈ vs, f ∈ v.functions) ∨ f ∈ sc.functions := by
  have hzip : ∀ b ∈ xs.zip vs, b.2 ∈ vs := fun b hb => (List.of_mem_zip hb).2
  unfold putAll at h
  generalize xs.zip vs = bs at h hzip
  induction bs generalizing sc with
  | nil => exact .inr h
  | cons b bs ih =>
    rw [List.forall_mem_cons] at hzip
    rcases ih h hzip.2 with hv | hsc
    · exact .inl hv
    · exact (functions_put hsc).imp_left fun hb => ⟨b.2, hzip.1, hb⟩

end Scope

namespace Store

/-- The functions of a store are those of its scopes. -/
theorem mem_functions_iff {s : Store} {f : FunctionData} :
    f ∈ s.functions ↔ ∃ (i : ScopeId) (sc : Scope), s.scopes[i]? = some sc ∧ f ∈ sc.functions := by
  constructor
  · intro h
    obtain ⟨sc, hsc, hf⟩ := List.mem_flatMap.mp h
    obtain ⟨i, hi⟩ := Array.mem_iff_getElem?.mp (Array.mem_toList_iff.mp hsc)
    exact ⟨i, sc, hi, hf⟩
  · rintro ⟨i, sc, hsc, hf⟩
    exact List.mem_flatMap.mpr
      ⟨sc, Array.mem_toList_iff.mpr (Array.mem_of_getElem? hsc), hf⟩

@[simp] theorem size_push (s : Store) (sc : Scope) :
    (s.push sc).scopes.size = s.scopes.size + 1 :=
  Array.size_push sc

@[simp] theorem size_modify (s : Store) (i : ScopeId) (f : Scope → Scope) :
    (s.modify i f).scopes.size = s.scopes.size :=
  Array.size_modify

end Store

end SmallLisp
