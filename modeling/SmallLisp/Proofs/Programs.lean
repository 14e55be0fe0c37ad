import SmallLisp.Proofs.Builtin.Results
import SmallLisp.Proofs.Lockstep
import SmallLisp.Proofs.RoundTrip

/-!
# Programs

What is read from a text consists of numbers, symbols and lists, and its integers have few enough
digits to be written. So if a part of a program cannot be shown in an error, or the words of a
template cannot be put together, it is for want of room, which is reported as an error of the
language.

## Main definitions

* `Parsed`: a value that is read from a text
* `Error.IsProper`: errors of the language but for those of binding something that is no symbol
* `Error.Allowed`: errors that are reported as proper ones, or say that memory is exhausted

## Main results

* `Parsed.isProgram`: what is read is a program
* `Definition.ofParts_allowed`, `templateText_ne_digitLimit`: definitions and templates in programs
-/

namespace SmallLisp

/-- The value is among the forms that are read from some text. -/
def Parsed (v : Value) : Prop :=
  ∃ limit source forms, parseAll limit source = .ok forms ∧ v ∈ forms

namespace Value

/-- The parts of a program are programs. -/
theorem isProgram_of_formItems? {v : Value} {items : List Value} (h : v.isProgram = true)
    (hitems : v.formItems? = some items) : ∀ w ∈ items, w.isProgram = true := by
  cases v with
  | list vs =>
    cases hitems
    rw [isProgram] at h
    exact isProgramAll_eq_true_iff.mp h
  | tuple vs => cases h
  | _ => cases hitems

end Value

/-- **What is read is a program.** -/
theorem Parsed.isProgram {v : Value} (h : Parsed v) : v.isProgram = true := by
  obtain ⟨limit, source, forms, hparse, hv⟩ := h
  exact isProgram_of_parseAll hparse v hv

/-! ## Errors about programs -/

/-- An error of the language, other than one of binding something that is no symbol. -/
def Error.IsProper (e : Error) : Prop :=
  e.isLanguage = true ∧ e.kind ≠ .invalidSymbol

theorem Error.isProper_of_kind {e : Error}
    (h : (e.kind.isLanguage && e.kind != .invalidSymbol) = true) : e.IsProper := by
  simpa [IsProper, isLanguage] using h

/-- A fault of a built-in procedure is a proper error. -/
theorem Error.isProper_builtin (name : String) (fault : Fault) :
    (Error.builtin name fault).IsProper := by
  apply isProper_of_kind
  rw [kind]
  split <;> rfl

/-- The error is reported as a proper error of the language, or says that memory is exhausted. -/
def Error.Allowed (e : Error) : Prop :=
  (reportedError e).IsProper ∨ e = .outOfMemory

theorem Error.IsProper.allowed {e : Error} (h : e.IsProper) : e.Allowed := by
  have hsame : reportedError e = e := by
    unfold reportedError
    split
    · exact absurd h.1 (by decide)
    · exact absurd h.1 (by decide)
    · rfl
  exact .inl (hsame.symm ▸ h)

/-- An error that shows a text is allowed, also if there is no room for the text. -/
theorem Error.allowed_showing {text : Except TextFault String} {cause : String → Error}
    (h : text ≠ .error .digitLimit) (hcause : ∀ t, (cause t).IsProper) :
    (Error.showing text cause).Allowed := by
  cases text with
  | ok t => exact (hcause t).allowed
  | error fault =>
    cases fault with
    | digitLimit => exact absurd rfl h
    | stackExhausted => exact .inl (isProper_of_kind rfl)

/-- Parameters in programs fail with allowed errors only. -/
theorem parameters_allowed {room : Nat} {vs : List Value} {e : Error}
    (h : ∀ v ∈ vs, v.isProgram = true) (he : parameters room vs = .error e) : e.Allowed := by
  induction vs with
  | nil => cases he
  | cons v vs ih =>
    rw [List.forall_mem_cons] at h
    have hshown : v.inspect room ≠ .error .digitLimit := Value.render_ne_digitLimit h.1 room
    cases v with
    | sym x => exact ih h.2 (map_eq_error_iff.mp he)
    | _ =>
      cases he
      exact Error.allowed_showing hshown fun _ => Error.isProper_of_kind rfl

/-- **Errors of definitions in programs are allowed.** -/
theorem Definition.ofParts_allowed {room : Nat} {tail : List Value} {e : Error}
    (h : ∀ v ∈ tail, v.isProgram = true) (he : Definition.ofParts room tail = .error e) :
    e.Allowed := by
  unfold Definition.ofParts at he
  split at he
  · rename_i x ps body
    have hps : ∀ v ∈ ps, v.isProgram = true := by
      have hlist := h (.list ps) (by simp)
      rwa [Value.isProgram, Value.isProgramAll_eq_true_iff] at hlist
    exact parameters_allowed hps (map_eq_error_iff.mp he)
  · cases he
    exact Error.allowed_showing (Value.render_ne_digitLimit (h _ (by simp)) room)
      fun _ => Error.isProper_of_kind rfl
  · cases he
    exact Error.allowed_showing (Value.render_ne_digitLimit (h _ (by simp)) room)
      fun _ => Error.isProper_of_kind rfl
  · cases he
    exact (Error.isProper_of_kind rfl).allowed

theorem mem_of_mem_splitFill {parts : List Value} {v : Value} (h : v ∈ (splitFill parts).1) :
    v ∈ parts := by
  unfold splitFill at h
  split at h
  · exact List.dropLast_subset parts h
  · exact h

/-- **The words of a template in a program are no obstacle** but for their levels. -/
theorem templateText_ne_digitLimit {parts : List Value} (h : ∀ v ∈ parts, v.isProgram = true)
    (room : Nat) : templateText room (splitFill parts).1 ≠ .error .digitLimit := by
  rw [templateText, ne_eq, map_eq_error_iff]
  exact Value.renderAll_ne_digitLimit (fun v hv => h v (mem_of_mem_splitFill hv)) room

end SmallLisp
