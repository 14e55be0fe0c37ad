import SmallLisp.Proofs.Store.Bindings
import SmallLisp.Proofs.Store.View

/-!
# Scopes follow the trace of their calls

Scopes are made one after another, and names are defined in them, one by one or by a table. Some of
these calls fail, and a call with a table may fail after it defined some names. The trace of the
calls says which scopes were made within which, and which definitions succeeded in which scope and
in what order. It does not depend on the store, and it says all about it: what each scope lists,
and what is found from each scope.

## Main definitions

* `ScopeCall`: a call that makes a scope or defines names in one
* `Trace`, `Trace.record`: the scopes made and the definitions that succeeded, and those of a call
* `Trace.Chain`, `Trace.Nearest`: the scopes around a scope, and the value of the last definition of
  a name in the nearest scope that ever had one
* `Trace.Shows`, `Trace.Fails`: the text that shows the names of a scope with their last values, and
  what keeps it from being written
* `Store.MadeBy`: a store that calls lead to from the store without scopes
* `Store.Matches`: each scope of the store holds the listing of its definitions
* `Store.Reflects`: what is found from a scope, and how scopes are shown, in terms of the trace

## Main results

* `ScopeCall.after_run`: a call makes at most one scope, and binds names in one scope
* `Store.Matches.record`, `Store.MadeBy.matches`: stores match the traces of the calls that they
  come from
* `scopes_follow_trace`: the law of scopes and traces
-/

namespace SmallLisp

open StoreM

/-! ## Calls -/

/-- A call that makes a scope or defines names in one. -/
inductive ScopeCall where
  | create (params args : List Value) (outer : Option ScopeId)
  | define (scope : ScopeId) (name value : Value)
  | update (scope : ScopeId) (table : List (Value × Value))

namespace ScopeCall

/-- What a call does with the store, within a room. -/
def run (room : Nat) : ScopeCall → StoreM Unit
  | create params args outer => createScope room params args outer >>= fun _ => pure ()
  | define i name v => SmallLisp.define room i name v
  | update i table => defineAll room i table

/-- The scopes that a call is given. -/
def scopes : ScopeCall → List ScopeId
  | create _ _ outer => outer.toList
  | define i _ _ | update i _ => [i]

/-- The scope that a call defines names in, where `next` is the next one to be made. -/
def target (next : ScopeId) : ScopeCall → ScopeId
  | create .. => next
  | define i _ _ | update i _ => i

/-- The definitions that a call comes to, before one with a name that is not a symbol. -/
def attempts : ScopeCall → List (Symbol × Value)
  | create params args _ => leadingBindings (params.zip args)
  | define _ name v => leadingBindings [(name, v)]
  | update _ table => tableBindings table

/-- Whether what a call defines is kept. A new scope is lost with all its names unless each
parameter is a symbol and has an argument, and a table needs keys that can be looked for. -/
def keeps : ScopeCall → Bool
  | create params args _ => params.length = args.length ∧ none ∉ params.map Value.symbol?
  | define .. => true
  | update _ table => table.all (·.1.isKey)

/-- The definitions of a call that succeed and are kept. -/
def definitions (c : ScopeCall) : List (Symbol × Value) :=
  if c.keeps then c.attempts else []

/-- The scope around the scope that a call makes, if it makes one. -/
def outer? (c : ScopeCall) : Option (Option ScopeId) :=
  match c with
  | create _ _ outer => if c.keeps then some outer else none
  | _ => none

end ScopeCall

/-! ## Traces -/

/-- The scopes around the scopes that were made, and the definitions that succeeded, with the
scopes they were made in. Both are in the order of the calls. -/
structure Trace where
  outers : List (Option ScopeId)
  entries : List (ScopeId × Symbol × Value)

namespace Trace

/-- The trace with one call more. -/
def record (t : Trace) (c : ScopeCall) : Trace where
  outers := t.outers ++ c.outer?.toList
  entries := t.entries ++ c.definitions.map (c.target t.outers.length, ·)

/-- The trace of calls one after another. -/
def ofCalls (calls : List ScopeCall) : Trace :=
  calls.foldl record ⟨[], []⟩

/-- The definitions in a scope. -/
def definitions (t : Trace) (i : ScopeId) : List (Symbol × Value) :=
  (t.entries.filter (·.1 = i)).map (·.2)

/-- The names defined in a scope, each as often as it was defined. -/
def names (t : Trace) (i : ScopeId) : List Symbol :=
  (t.definitions i).map (·.1)

/-- The value of the last definition of a name in a scope. -/
def last? (t : Trace) (i : ScopeId) (x : Symbol) : Option Value :=
  (t.definitions i).reverse.lookup x

/-- The scope `i` and the scopes around it, the innermost first. -/
inductive Chain (t : Trace) : ScopeId → List ScopeId → Prop
  | last {i : ScopeId} (ho : t.outers[i]? = some none) : Chain t i [i]
  | outward {i o : ScopeId} {chain : List ScopeId} (ho : t.outers[i]? = some (some o))
      (rest : Chain t o chain) : Chain t i (i :: chain)

/-- The nearest scope of the chain that ever had a definition of `x` had its last one with the
value `v`. -/
def Nearest (t : Trace) (chain : List ScopeId) (x : Symbol) (v : Value) : Prop :=
  ∃ inner i rest, chain = inner ++ i :: rest ∧ t.last? i x = some v ∧ ∀ j ∈ inner, x ∉ t.names j

/-- The entry of a name in the text of a scope: the name, a colon, and its last value as it is
shown. -/
def Entry (t : Trace) (room : Nat) (i : ScopeId) (x : Symbol) (entry : String) : Prop :=
  ∃ v shown, t.last? i x = some v ∧ v.inspect room = .ok shown ∧ entry = x.name ++ ": " ++ shown

/-- The text of what a scope lists: in braces, an entry for each name that is defined in it, once
and in the order of first definitions, with commas between them. -/
def Shows (t : Trace) (room : Nat) (i : ScopeId) (text : String) : Prop :=
  ∃ entries, List.Forall₂ (t.Entry room i) (t.names i).eraseDups entries ∧
    text = "\x7b" ++ String.intercalate ", " entries ++ "\x7d"

/-- The names of a scope have entries up to one whose last value cannot be shown. -/
def Fails (t : Trace) (room : Nat) (i : ScopeId) (fault : TextFault) : Prop :=
  ∃ earlier x later v, (t.names i).eraseDups = earlier ++ x :: later ∧
    (∀ y ∈ earlier, ∃ entry, t.Entry room i y entry) ∧ t.last? i x = some v ∧
    v.inspect room = .error fault

theorem last?_eq_none_iff {t : Trace} {i : ScopeId} {x : Symbol} :
    t.last? i x = none ↔ x ∉ t.names i :=
  lookup_reverse_eq_none_iff

/-- The definition that counts is the last one in the first scope of the chain that has any. -/
theorem nearest_iff_findSome? {t : Trace} {chain : List ScopeId} {x : Symbol} {v : Value} :
    t.Nearest chain x v ↔ chain.findSome? (t.last? · x) = some v := by
  simp only [Nearest, List.findSome?_eq_some_iff, last?_eq_none_iff]

/-- Definitions that are recorded for one scope come after those that it has. -/
theorem definitions_append (outers : List (Option ScopeId))
    (entries : List (ScopeId × Symbol × Value)) (i j : ScopeId) (bs : List (Symbol × Value)) :
    definitions ⟨outers, entries ++ bs.map (j, ·)⟩ i =
      definitions ⟨outers, entries⟩ i ++ if j = i then bs else [] := by
  rw [definitions, List.filter_append, List.map_append, definitions, List.append_cancel_left_eq]
  by_cases hji : j = i
  · simp [List.filter_map, Function.comp_def, hji]
  · simp [List.filter_map, Function.comp_def, hji]

/-- A call adds definitions to its target and to no other scope. -/
theorem definitions_record (t : Trace) (c : ScopeCall) (i : ScopeId) :
    (t.record c).definitions i =
      t.definitions i ++ if c.target t.outers.length = i then c.definitions else [] :=
  definitions_append ..

theorem Chain.lt_length {t : Trace} {i : ScopeId} {chain : List ScopeId} (h : t.Chain i chain) :
    i < t.outers.length := by
  cases h with
  | last ho => exact (List.getElem?_eq_some_iff.mp ho).1
  | outward ho _ => exact (List.getElem?_eq_some_iff.mp ho).1

/-- A call leaves the chains of the scopes that are there. -/
theorem Chain.record {t : Trace} {i : ScopeId} {chain : List ScopeId} (h : t.Chain i chain)
    (c : ScopeCall) : (t.record c).Chain i chain := by
  have houter : ∀ {j : ScopeId} {outer : Option ScopeId}, t.outers[j]? = some outer →
      (t.record c).outers[j]? = some outer := by
    intro j outer ho
    have hj : j < t.outers.length := (List.getElem?_eq_some_iff.mp ho).1
    rw [Trace.record, List.getElem?_append_left hj, ho]
  induction h with
  | last ho => exact .last (houter ho)
  | outward ho _ ih => exact .outward (houter ho) ih

/-- A scope as the trace has it. -/
def scope (t : Trace) (i : ScopeId) : Scope :=
  ⟨listing (t.definitions i), t.outers[i]?.join⟩

end Trace

/-! ## What calls do -/

theorem exists_eq_map_sym {vs : List Value} (h : none ∉ vs.map Value.symbol?) :
    ∃ xs : List Symbol, vs = xs.map .sym := by
  induction vs with
  | nil => exact ⟨[], rfl⟩
  | cons v vs ih =>
    obtain ⟨hv, hvs⟩ := not_or.mp (mt List.mem_cons.mpr h)
    obtain ⟨x, hx⟩ := Option.ne_none_iff_exists.mp (Ne.symm hv)
    obtain ⟨xs, rfl⟩ := ih hvs
    obtain rfl := Value.symbol?_eq_some.mp hx.symm
    exact ⟨x :: xs, rfl⟩

theorem asSymbols_of_none_mem {vs : List Value} (h : none ∈ vs.map Value.symbol?) (room : Nat)
    (s : Store) : ∃ e, asSymbols room vs s = .error e s := by
  induction vs with
  | nil => cases h
  | cons v vs ih =>
    cases v with
    | sym x =>
      obtain ⟨e, he⟩ := ih (by simpa [Value.symbol?] using h)
      exact ⟨e, by simp [asSymbols, asSymbol, bind, EStateM.bind, pure, EStateM.pure, he]⟩
    | _ => exact ⟨_, rfl⟩

theorem leadingBindings_zip (xs : List Symbol) (vs : List Value) :
    leadingBindings ((xs.map Value.sym).zip vs) = xs.zip vs := by
  induction xs generalizing vs with
  | nil => rfl
  | cons x xs ih =>
    cases vs with
    | nil => rfl
    | cons v vs =>
      rw [List.map_cons, List.zip_cons_cons, List.zip_cons_cons, ← ih vs]
      rfl

theorem Store.modify_push (s : Store) (sc : Scope) (f : Scope → Scope) :
    (s.push sc).modify s.scopes.size f = s.push (f sc) := by
  have h : (s.scopes.push sc).modify s.scopes.size f = s.scopes.push (f sc) := by
    apply Array.ext_getElem?
    intro i
    by_cases hi : i = s.scopes.size
    · simp only [Array.getElem?_modify, hi, if_true, Array.getElem?_push_size, Option.map_some]
    · simp [Array.getElem?_modify, Array.getElem?_push, hi, Ne.symm hi]
  simp only [push, modify, h]

/-- A definition is a table of one name. -/
theorem define_eq_defineEach (room : Nat) (i : ScopeId) (name v : Value) :
    define room i name v = defineEach room i [(name, v)] := by
  simp [defineEach]

namespace ScopeCall

variable {params args : List Value} {outer : Option ScopeId}

/-- If there are as many arguments as parameters, and these are symbols, then one scope is made. -/
theorem createScope_of_keeps (h : (create params args outer).keeps) (room : Nat) (s : Store) :
    createScope room params args outer s =
      .ok s.scopes.size
        (s.push (Scope.putEach ⟨[], outer⟩ (leadingBindings (params.zip args)))) := by
  obtain ⟨hlength, hsymbols⟩ := of_decide_eq_true h
  obtain ⟨xs, rfl⟩ := exists_eq_map_sym hsymbols
  rw [List.length_map] at hlength
  rw [createScope_map room hlength.symm, leadingBindings_zip]
  rfl

/-- Otherwise the call fails, and nothing changes. -/
theorem createScope_of_not_keeps (h : ¬ (create params args outer).keeps) (room : Nat)
    (s : Store) : ∃ e, createScope room params args outer s = .error e s := by
  unfold createScope
  split
  · exact ⟨_, rfl⟩
  · rename_i hlength
    have hsymbols : none ∈ params.map Value.symbol? := by
      by_contra hnone
      exact h (decide_eq_true ⟨not_not.mp hlength, hnone⟩)
    obtain ⟨e, he⟩ := asSymbols_of_none_mem hsymbols room s
    exact ⟨e, by simp [bind, EStateM.bind, he]⟩

/-- **What a call leaves**: one scope more if it makes one, and what it defines in one scope. -/
theorem after_run (room : Nat) (c : ScopeCall) (s : Store) :
    after (c.run room) s =
      (c.outer?.elim s fun outer => s.push ⟨[], outer⟩).modify (c.target s.scopes.size)
        (·.putEach c.definitions) := by
  cases c with
  | create params args outer =>
    by_cases hkeeps : (create params args outer).keeps
    · have hrun := createScope_of_keeps hkeeps room s
      simp only [run, after, bind_of_eq_ok hrun, outer?, definitions, hkeeps, if_true,
        Option.elim_some, target, Store.modify_push]
      rfl
    · obtain ⟨e, he⟩ := createScope_of_not_keeps hkeeps room s
      simp [run, after, bind, EStateM.bind, he, outer?, definitions, hkeeps]
  | define i name v =>
    rw [run, define_eq_defineEach, after_defineEach]
    rfl
  | update i table =>
    by_cases hkeeps : (update i table).keeps
    · have hrun : (update i table).run room = defineEach room i (mergePairs table) := if_pos hkeeps
      rw [hrun, after_defineEach, leadingBindings_mergePairs, definitions, if_pos hkeeps]
      rfl
    · have hrun : (update i table).run room = throw .notAKey := if_neg hkeeps
      rw [hrun, definitions, if_neg hkeeps]
      exact (s.modify_id i).symm

/-- What a call defines goes to a scope that is there, or to the one that it makes. -/
theorem target_lt {c : ScopeCall} {n : Nat} (h : ∀ i ∈ c.scopes, i < n) :
    ∀ b ∈ c.definitions, c.target n < n + c.outer?.toList.length := by
  intro b hb
  cases c with
  | create params args outer =>
    by_cases hkeeps : (create params args outer).keeps
    · simp [target, outer?, hkeeps]
    · simp [definitions, hkeeps] at hb
  | define i name v => exact h i (.head _)
  | update i table => exact h i (.head _)

/-- A new scope lies within one of the scopes that the call names. -/
theorem outer?_lt {c : ScopeCall} {n : Nat} (h : ∀ i ∈ c.scopes, i < n) {o : ScopeId}
    (ho : c.outer? = some (some o)) : o < n := by
  cases c with
  | create params args outer =>
    simp only [outer?] at ho
    split at ho
    · cases ho
      exact h o (.head _)
    · cases ho
  | define i name v => cases ho
  | update i table => cases ho

end ScopeCall

/-! ## Scopes as text -/

namespace Trace

variable {t : Trace} {room : Nat} {i : ScopeId}

/-- The text of a binding is the entry of its name. -/
theorem bindingText_eq_ok_iff {b : Symbol × Value} (hb : t.last? i b.1 = some b.2)
    {entry : String} : bindingText room b = .ok entry ↔ t.Entry room i b.1 entry := by
  simp [bindingText, map_eq_ok_iff, Entry, hb, eq_comm (a := entry)]

/-- What a scope lists under a name is the value of the last definition of the name. -/
theorem last?_of_mem_listing : ∀ b ∈ listing (t.definitions i), t.last? i b.1 = some b.2 :=
  fun _ hb => get_of_mem_tabulate hb

/-- **The text of what a scope lists** has the entries of its names. -/
theorem bindingsText_eq_ok_iff {text : String} :
    bindingsText room (listing (t.definitions i)) = .ok text ↔ t.Shows room i text := by
  have hentries (entries : List String) :
      (listing (t.definitions i)).mapM (bindingText room) = .ok entries ↔
        List.Forall₂ (t.Entry room i) (t.names i).eraseDups entries := by
    rw [mapM_eq_ok_iff, names, ← map_fst_listing, List.forall₂_map_left_iff]
    constructor
    · intro h
      refine ((List.forall₂_and_left _ _).mpr ⟨last?_of_mem_listing, h⟩).imp ?_
      exact fun b entry ⟨hb, he⟩ => (bindingText_eq_ok_iff hb).mp he
    · intro h
      refine ((List.forall₂_and_left _ _).mpr ⟨last?_of_mem_listing, h⟩).imp ?_
      exact fun b entry ⟨hb, he⟩ => (bindingText_eq_ok_iff hb).mpr he
  simp only [Shows, ← hentries, bindingsText, map_eq_ok_iff, Text.joinWith, eq_comm (a := text)]

/-- The text of what a scope lists fails just with the first fault of a value in it. -/
theorem bindingsText_eq_error_iff {fault : TextFault} :
    bindingsText room (listing (t.definitions i)) = .error fault ↔ t.Fails room i fault := by
  have hvalue (b : Symbol × Value) :
      bindingText room b = .error fault ↔ b.2.inspect room = .error fault :=
    map_eq_error_iff
  simp only [bindingsText, map_eq_error_iff, mapM_eq_error_iff, hvalue, Fails]
  constructor
  · rintro ⟨earlier, b, later, heq, hearlier, hb⟩
    have hlast : ∀ c ∈ earlier ++ b :: later, t.last? i c.1 = some c.2 :=
      heq ▸ last?_of_mem_listing
    refine ⟨earlier.map (·.1), b.1, later.map (·.1), b.2, ?_, ?_, hlast b (by simp), hb⟩
    · rw [names, ← map_fst_listing, heq, List.map_append, List.map_cons]
    · refine List.forall_mem_map.mpr fun c hc => ?_
      obtain ⟨entry, hentry⟩ := hearlier c hc
      exact ⟨entry, (bindingText_eq_ok_iff (hlast c (List.mem_append_left _ hc))).mp hentry⟩
  · rintro ⟨_, x, _, v, heq, hearlier, hv, hfault⟩
    rw [names, ← map_fst_listing] at heq
    obtain ⟨earlier, rest, hlisting, rfl, hrest⟩ := List.map_eq_append_iff.mp heq
    obtain ⟨b, later, rfl, rfl, rfl⟩ := List.map_eq_cons_iff.mp hrest
    have hlast : ∀ c ∈ earlier ++ b :: later, t.last? i c.1 = some c.2 :=
      hlisting ▸ last?_of_mem_listing
    obtain rfl := Option.some.inj ((hlast b (by simp)).symm.trans hv)
    refine ⟨earlier, b, later, hlisting, fun c hc => ?_, hfault⟩
    obtain ⟨entry, hentry⟩ := List.forall_mem_map.mp hearlier c hc
    exact ⟨entry, (bindingText_eq_ok_iff (hlast c (List.mem_append_left _ hc))).mpr hentry⟩

end Trace

/-! ## Stores and traces -/

namespace Store

/-- The scopes of the store are those of the trace, and each holds the listing of its
definitions. A scope lies within an earlier one. -/
structure Matches (s : Store) (t : Trace) : Prop where
  scopes : ∀ i : ScopeId,
    s.scopes[i]? = t.outers[i]?.map fun outer => ⟨listing (t.definitions i), outer⟩
  outer_lt : ∀ i o : ScopeId, t.outers[i]? = some (some o) → o < i
  entries_lt : ∀ e ∈ t.entries, e.1 < t.outers.length

variable {s : Store} {t : Trace}

/-- The store without scopes matches the trace without calls. -/
theorem Matches.empty : Store.empty.Matches ⟨[], []⟩ where
  scopes _ := rfl
  outer_lt := nofun
  entries_lt := nofun

theorem Matches.size_eq (h : s.Matches t) : s.scopes.size = t.outers.length := by
  have hle : ∀ i, s.scopes.size ≤ i ↔ t.outers.length ≤ i := by
    intro i
    rw [← Array.getElem?_eq_none_iff, ← List.getElem?_eq_none_iff, h.scopes i,
      Option.map_eq_none_iff]
  exact Nat.le_antisymm ((hle _).mpr (Nat.le_refl _)) ((hle _).mp (Nat.le_refl _))

/-- A scope that is not there yet has no definitions. -/
theorem Matches.definitions_next (h : s.Matches t) : t.definitions t.outers.length = [] := by
  have hfilter : t.entries.filter (·.1 = t.outers.length) = [] := by
    refine List.filter_eq_nil_iff.mpr fun e he => ?_
    simpa using Nat.ne_of_lt (h.entries_lt e he)
  rw [Trace.definitions, hfilter, List.map_nil]

/-- A new scope is recorded with the scope around it. -/
theorem Matches.push (h : s.Matches t) {outer : Option ScopeId}
    (houter : ∀ o, outer = some o → o < s.scopes.size) :
    (s.push ⟨[], outer⟩).Matches ⟨t.outers ++ [outer], t.entries⟩ where
  scopes i := by
    rcases Nat.lt_trichotomy i t.outers.length with hi | rfl | hi
    · have hne : i ≠ s.scopes.size := fun e => Nat.ne_of_lt hi (e.trans h.size_eq)
      rw [List.getElem?_append_left hi, Store.push, Array.getElem?_push, if_neg hne]
      exact h.scopes i
    · have hnone : Trace.definitions ⟨t.outers ++ [outer], t.entries⟩ t.outers.length = [] :=
        h.definitions_next
      rw [List.getElem?_concat_length, ← h.size_eq, scopes_push_size, h.size_eq, hnone]
      rfl
    · have hout : (t.outers ++ [outer])[i]? = none := by
        rw [List.getElem?_eq_none_iff, List.length_append]
        exact hi
      rw [hout, Option.map_none, Store.push, Array.getElem?_eq_none_iff, Array.size_push, h.size_eq]
      exact hi
  outer_lt i o ho := by
    by_cases hi : i < t.outers.length
    · rw [List.getElem?_append_left hi] at ho
      exact h.outer_lt i o ho
    · have hlt : i < (t.outers ++ [outer]).length := (List.getElem?_eq_some_iff.mp ho).1
      rw [List.length_append] at hlt
      obtain rfl : i = t.outers.length := Nat.eq_of_lt_succ_of_not_lt hlt hi
      rw [List.getElem?_concat_length, Option.some_inj] at ho
      exact h.size_eq ▸ houter o ho
  entries_lt e he := by
    rw [List.length_append]
    exact Nat.lt_succ_of_lt (h.entries_lt e he)

/-- What is bound in a scope of the store is recorded as its definitions. -/
theorem Matches.bind (h : s.Matches t) {j : ScopeId} {bs : List (Symbol × Value)}
    (hj : ∀ b ∈ bs, j < t.outers.length) :
    (s.modify j (·.putEach bs)).Matches ⟨t.outers, t.entries ++ bs.map (j, ·)⟩ where
  scopes i := by
    rw [Trace.definitions_append, modify, Array.getElem?_modify, h.scopes i]
    by_cases hji : j = i
    · rw [if_pos hji, if_pos hji, Option.map_map]
      refine congrArg (fun f => Option.map f t.outers[i]?) (funext fun outer => ?_)
      exact Scope.putEach_listing _ bs outer
    · rw [if_neg hji, if_neg hji, List.append_nil]
  outer_lt := h.outer_lt
  entries_lt e he := by
    rcases List.mem_append.mp he with hold | hnew
    · exact h.entries_lt e hold
    · obtain ⟨b, hb, rfl⟩ := List.mem_map.mp hnew
      exact hj b hb

/-- **A call keeps the match**: its trace says what it does, also if it fails. -/
theorem Matches.record (h : s.Matches t) (room : Nat) {c : ScopeCall}
    (hc : ∀ i ∈ c.scopes, i < s.scopes.size) : (after (c.run room) s).Matches (t.record c) := by
  rw [h.size_eq] at hc
  rw [c.after_run, Trace.record, h.size_eq]
  have htarget : ∀ b ∈ c.definitions,
      c.target t.outers.length < (t.outers ++ c.outer?.toList).length := by
    rw [List.length_append]
    exact ScopeCall.target_lt hc
  cases ho : c.outer? with
  | none =>
    rw [ho, Option.toList_none, List.append_nil] at htarget
    rw [Option.elim_none, Option.toList_none, List.append_nil]
    exact h.bind htarget
  | some outer =>
    rw [ho] at htarget
    have houter : ∀ o, outer = some o → o < s.scopes.size := by
      rintro o rfl
      exact h.size_eq ▸ ScopeCall.outer?_lt hc ho
    exact (h.push houter).bind htarget

/-- A store that calls lead to from the store without scopes. A call is made within any room and is
given scopes that are there already. -/
inductive MadeBy : List ScopeCall → Store → Prop
  | none : MadeBy [] Store.empty
  | call {calls : List ScopeCall} {s : Store} (h : MadeBy calls s) (room : Nat) (c : ScopeCall)
      (hc : ∀ i ∈ c.scopes, i < s.scopes.size) : MadeBy (calls ++ [c]) (after (c.run room) s)

/-- **Stores match the traces of the calls they come from.** -/
theorem MadeBy.matches {calls : List ScopeCall} (h : MadeBy calls s) :
    s.Matches (.ofCalls calls) := by
  induction h with
  | none => exact .empty
  | call _ room c hc ih =>
    rw [Trace.ofCalls, List.foldl_append]
    exact ih.record room hc

/-! ## Look-ups -/

/-- Each scope has a chain outward, which visits earlier and earlier scopes. -/
theorem Matches.exists_chain (h : s.Matches t) {i : ScopeId} (hi : i < s.scopes.size) :
    ∃ chain, t.Chain i chain := by
  rw [h.size_eq] at hi
  induction i using Nat.strongRecOn with
  | ind i ih =>
    cases ho : t.outers[i] with
    | none => exact ⟨[i], .last (List.getElem?_eq_some_iff.mpr ⟨hi, ho⟩)⟩
    | some o =>
      have ho' : t.outers[i]? = some (some o) := List.getElem?_eq_some_iff.mpr ⟨hi, ho⟩
      have hlt := h.outer_lt i o ho'
      obtain ⟨chain, hchain⟩ := ih o hlt (Nat.lt_trans hlt hi)
      exact ⟨i :: chain, .outward ho' hchain⟩

variable {i : ScopeId} {chain : List ScopeId}

/-- A chain leads outward to earlier scopes. -/
theorem Matches.le_of_mem_chain (h : s.Matches t) (hchain : t.Chain i chain) :
    ∀ j ∈ chain, j ≤ i := by
  induction hchain with
  | last => simp
  | outward ho _ ih =>
    have hlt := h.outer_lt _ _ ho
    rintro j (_ | ⟨_, hj⟩)
    · exact Nat.le_refl _
    · exact Nat.le_trans (ih j hj) (Nat.le_of_lt hlt)

/-- A chain leads to earlier and earlier scopes. -/
theorem Matches.pairwise_chain (h : s.Matches t) (hchain : t.Chain i chain) :
    chain.Pairwise fun j k => k < j := by
  induction hchain with
  | last => exact List.pairwise_singleton _ _
  | outward ho rest ih =>
    refine List.pairwise_cons.mpr ⟨fun j hj => ?_, ih⟩
    exact Nat.lt_of_le_of_lt (h.le_of_mem_chain rest j hj) (h.outer_lt _ _ ho)

theorem Matches.length_chain_le (h : s.Matches t) (hchain : t.Chain i chain) :
    chain.length ≤ i + 1 := by
  induction hchain with
  | last => exact Nat.le_add_left 1 _
  | outward ho _ ih => exact Nat.succ_le_succ (Nat.le_trans ih (h.outer_lt _ _ ho))

theorem Matches.scopes_of_some (h : s.Matches t) {outer : Option ScopeId}
    (ho : t.outers[i]? = some outer) : s.scopes[i]? = some (t.scope i) := by
  rw [h.scopes i, ho, Option.map_some, Trace.scope, ho]
  rfl

/-- The chain of the trace is the walk outward in the store. -/
theorem Matches.walk (h : s.Matches t) (hchain : t.Chain i chain) :
    s.Walk i (chain.map t.scope) := by
  induction hchain with
  | last ho => exact .last (h.scopes_of_some ho) (by simp [Trace.scope, ho])
  | outward ho _ ih => exact .outward (h.scopes_of_some ho) (by simp [Trace.scope, ho]) ih

/-- The store shows the scopes of the chain as they are in the trace. -/
theorem Matches.chain_eq (h : s.Matches t) (hchain : t.Chain i chain) :
    s.chain i = chain.map t.scope := by
  refine (h.walk hchain).chainFrom_eq ?_
  rw [List.length_map, h.size_eq]
  exact Nat.le_trans (h.length_chain_le hchain) hchain.lt_length

/-- **A look-up follows the trace**: it gives the value of the last definition in the nearest scope
that has one. -/
theorem Matches.find?_eq (h : s.Matches t) (hchain : t.Chain i chain) (x : Symbol) :
    s.find? i x = chain.findSome? (t.last? · x) := by
  rw [find?_eq_findSome?_chain, h.chain_eq hchain, List.findSome?_map]
  congr 1
  funext j
  exact getBinding?_listing (t.definitions j) x

/-- Only symbols are found, with the value that the scope shows for them. -/
theorem lookup_eq_ok_iff {room : Nat} {name v : Value} :
    lookup room i name s = .ok v s ↔ ∃ x, name = .sym x ∧ s.find? i x = some v := by
  cases name with
  | sym x =>
    have hx : (∃ y, Value.sym x = .sym y ∧ s.find? i y = some v) ↔ s.find? i x = some v := by simp
    rw [hx]
    simp only [lookup, findSymbol]
    cases s.find? i x <;> simp
  | _ =>
    refine ⟨fun h => ?_, fun h => ?_⟩
    · cases h
    · obtain ⟨x, hx, -⟩ := h
      cases hx

/-- A symbol is unbound just if no scope of the chain binds it. -/
theorem lookup_eq_unbound_iff {room : Nat} {x : Symbol} :
    lookup room i (.sym x) s = .error (.unbound x.name) s ↔ s.find? i x = none := by
  simp only [lookup, findSymbol]
  cases s.find? i x <;> simp

theorem lookup_cases (room : Nat) (i : ScopeId) (name : Value) (s : Store) :
    (∃ v, lookup room i name s = .ok v s) ∨ ∃ e, lookup room i name s = .error e s := by
  cases name with
  | sym x =>
    simp only [lookup, findSymbol]
    cases s.find? i x with
    | some v => exact .inl ⟨v, rfl⟩
    | none => exact .inr ⟨_, rfl⟩
  | _ => exact .inr ⟨_, rfl⟩

/-- Whether a name is bound agrees with looking it up. -/
theorem isBound_iff_lookup (room : Nat) (i : ScopeId) (name : Value) (s : Store) :
    (isBound room i name s = .ok true s ↔ ∃ v, lookup room i name s = .ok v s) ∧
      (isBound room i name s = .ok false s ↔
        ∃ text, lookup room i name s = .error (.unbound text) s) := by
  rcases lookup_cases room i name s with ⟨v, hv⟩ | ⟨e, he⟩
  · simp [isBound, hv]
  · simp only [isBound, he]
    cases e <;> simp

/-- The text of a scope is what the trace says. -/
theorem Matches.showScope_iff (h : s.Matches t) (room : Nat) {outer : Option ScopeId}
    (ho : t.outers[i]? = some outer) :
    (∀ text, showScope room s i = .ok text ↔ ∃ shown, t.Shows room i shown ∧
      text = if outer.isSome then shown ++ " -> ..." else shown) ∧
    ∀ e, showScope room s i = .error e ↔ ∃ fault, t.Fails room i fault ∧ e = fault.error := by
  have htext : showScope room s i = ((bindingsText room (listing (t.definitions i))).map
      fun shown => if outer.isSome then shown ++ " -> ..." else shown).mapError
        TextFault.error := by
    simp only [showScope, h.scopes i, ho, Option.map_some]
    cases bindingsText room (listing (t.definitions i)) <;> rfl
  constructor
  · intro text
    simp only [htext, mapError_eq_ok_iff, map_eq_ok_iff, Trace.bindingsText_eq_ok_iff,
      eq_comm (a := text)]
  · intro e
    simp only [htext, mapError_eq_error_iff, map_eq_error_iff, Trace.bindingsText_eq_error_iff,
      eq_comm (a := e)]

/-- The text of a chain is what the trace says. -/
theorem Matches.showChain_iff (h : s.Matches t) (room : Nat) (hchain : t.Chain i chain) :
    (∀ text, showChain room s i = .ok text ↔ ∃ shown, List.Forall₂ (t.Shows room) chain shown ∧
      text = "<Environment chain: " ++ String.intercalate " -> " shown ++ ">") ∧
    ∀ e, showChain room s i = .error e ↔ ∃ inner j rest fault, chain = inner ++ j :: rest ∧
      (∀ k ∈ inner, ∃ shown, t.Shows room k shown) ∧ t.Fails room j fault ∧ e = fault.error := by
  have htext : showChain room s i =
      ((chain.mapM fun j => bindingsText room (listing (t.definitions j))).map fun shown =>
        "<Environment chain: " ++ String.intercalate " -> " shown ++ ">").mapError
          TextFault.error := by
    have hbindings : (s.chain i).mapM (fun sc => bindingsText room sc.bindings) =
        chain.mapM fun j => bindingsText room (listing (t.definitions j)) := by
      rw [h.chain_eq hchain, List.mapM_map]
      rfl
    rw [showChain, hbindings]
    cases chain.mapM fun j => bindingsText room (listing (t.definitions j)) <;> rfl
  constructor
  · intro text
    simp only [htext, mapError_eq_ok_iff, map_eq_ok_iff, mapM_eq_ok_iff,
      Trace.bindingsText_eq_ok_iff, eq_comm (a := text)]
  · intro e
    simp only [htext, mapError_eq_error_iff, map_eq_error_iff, mapM_eq_error_iff,
      Trace.bindingsText_eq_ok_iff, Trace.bindingsText_eq_error_iff]
    constructor
    · rintro ⟨fault, ⟨inner, j, rest, heq, hinner, hj⟩, rfl⟩
      exact ⟨inner, j, rest, fault, heq, hinner, hj, rfl⟩
    · rintro ⟨inner, j, rest, fault, heq, hinner, hj, rfl⟩
      exact ⟨fault, ⟨inner, j, rest, heq, hinner, hj⟩, rfl⟩

/-- What a store shows of its scopes is what a trace says. -/
structure Reflects (s : Store) (t : Trace) : Prop where
  /-- The scopes lie within those they were made within, and list their names. -/
  scopes : ∀ i : ScopeId,
    s.scopes[i]? = t.outers[i]?.map fun outer => ⟨listing (t.definitions i), outer⟩
  /-- Every defined name is listed once, in the order of first definitions, with its last value. -/
  listed : ∀ i : ScopeId,
    (listing (t.definitions i)).map (·.1) = (t.names i).eraseDups ∧ (t.names i).eraseDups.Nodup ∧
      ∀ b ∈ listing (t.definitions i), t.last? i b.1 = some b.2
  /-- The text of a scope shows what the scope lists, with a mark if it lies within another. There
  is none just if a last value cannot be shown. -/
  shown : ∀ (room : Nat) (i : ScopeId) (outer : Option ScopeId), t.outers[i]? = some outer →
    (∀ text, showScope room s i = .ok text ↔ ∃ shown, t.Shows room i shown ∧
      text = if outer.isSome then shown ++ " -> ..." else shown) ∧
    ∀ e, showScope room s i = .error e ↔ ∃ fault, t.Fails room i fault ∧ e = fault.error
  /-- Every scope has a chain outward. -/
  chain : ∀ i < s.scopes.size, ∃ chain, t.Chain i chain
  /-- The text of a chain shows what its scopes list, the innermost first. There is none just if
  one of them cannot be shown. -/
  shownChain : ∀ (room : Nat) (i : ScopeId) (chain : List ScopeId), t.Chain i chain →
    (∀ text, showChain room s i = .ok text ↔ ∃ shown, List.Forall₂ (t.Shows room) chain shown ∧
      text = "<Environment chain: " ++ String.intercalate " -> " shown ++ ">") ∧
    ∀ e, showChain room s i = .error e ↔ ∃ inner j rest fault, chain = inner ++ j :: rest ∧
      (∀ k ∈ inner, ∃ shown, t.Shows room k shown) ∧ t.Fails room j fault ∧ e = fault.error
  /-- A name is found with the value of its last definition in the nearest scope that has one. -/
  found : ∀ (room : Nat) (i : ScopeId) (chain : List ScopeId), t.Chain i chain →
    ∀ name v : Value, lookup room i name s = .ok v s ↔ ∃ x, name = .sym x ∧ t.Nearest chain x v
  /-- A symbol is unbound if no scope of the chain ever had a definition of it. -/
  unbound : ∀ (room : Nat) (i : ScopeId) (chain : List ScopeId), t.Chain i chain → ∀ x : Symbol,
    lookup room i (.sym x) s = .error (.unbound x.name) s ↔ ∀ j ∈ chain, x ∉ t.names j
  /-- Whether a name is bound agrees with looking it up. -/
  contained : ∀ (room : Nat) (i : ScopeId) (name : Value),
    (isBound room i name s = .ok true s ↔ ∃ v, lookup room i name s = .ok v s) ∧
      (isBound room i name s = .ok false s ↔
        ∃ text, lookup room i name s = .error (.unbound text) s)

/-- **A store that matches a trace reflects it**: what it answers can be told from the trace alone.
-/
theorem Matches.reflects (h : s.Matches t) : s.Reflects t where
  scopes := h.scopes
  listed i := ⟨map_fst_listing _, nodup_eraseDups _, fun _ hb => get_of_mem_tabulate hb⟩
  shown room i outer ho := h.showScope_iff room ho
  chain i hi := h.exists_chain hi
  shownChain room i chain hchain := h.showChain_iff room hchain
  found room i chain hchain name v := by
    simp only [lookup_eq_ok_iff, Trace.nearest_iff_findSome?, h.find?_eq hchain]
  unbound room i chain hchain x := by
    simp only [lookup_eq_unbound_iff, h.find?_eq hchain, List.findSome?_eq_none_iff,
      Trace.last?_eq_none_iff]
  contained room i name := isBound_iff_lookup room i name s

end Store

/-! ## What is seen of a call -/

/-- A call changes the bindings of one scope only. -/
theorem ScopeCall.scopes_after_run (room : Nat) {c : ScopeCall} {s : Store} {j : ScopeId}
    (hj : j ≠ c.target s.scopes.size) (hsize : j < s.scopes.size) :
    (after (c.run room) s).scopes[j]? = s.scopes[j]? := by
  rw [c.after_run, Store.scopes_modify_of_ne _ hj]
  cases c.outer? with
  | none => rfl
  | some outer =>
    have hsc := Array.getElem?_eq_getElem hsize
    rw [hsc]
    exact Store.scopes_push_of_some _ hsc

/-- What a call defines is seen at once from every scope around which the call's scope lies, unless
a nearer scope has a definition of the name. -/
theorem Store.Matches.lookup_after_run {s : Store} {t : Trace} (h : s.Matches t)
    (room later : Nat) {c : ScopeCall} (hc : ∀ i ∈ c.scopes, i < s.scopes.size) {i : ScopeId}
    {inner rest : List ScopeId}
    (hchain : t.Chain i (inner ++ c.target s.scopes.size :: rest)) {x : Symbol} {v : Value}
    (hinner : ∀ j ∈ inner, x ∉ t.names j) (hv : c.definitions.reverse.lookup x = some v) :
    lookup later i (.sym x) (after (c.run room) s) = .ok v (after (c.run room) s) := by
  have hafter := (h.record room hc).reflects
  refine (hafter.found later i _ (hchain.record c) _ _).mpr ⟨x, rfl, inner, _, rest, rfl, ?_, ?_⟩
  · rw [Trace.last?, Trace.definitions_record, h.size_eq, if_pos rfl, List.reverse_append,
      List.lookup_append, hv, Option.some_or]
  · -- the scope of the call is none of the nearer ones, since these are later
    intro j hj
    have hlt := (List.pairwise_append.mp (h.pairwise_chain hchain)).2.2 j hj _ (.head _)
    have hne : c.target t.outers.length ≠ j := h.size_eq ▸ Nat.ne_of_lt hlt
    rw [Trace.names, Trace.definitions_record, if_neg hne, List.append_nil]
    exact hinner j hj

theorem none_notMem_symbols_iff {α : Type} {f : α → Value} {as : List α} :
    none ∉ as.map (fun a => (f a).symbol?) ↔ ∀ a ∈ as, ∃ x, f a = .sym x := by
  simp only [List.mem_map, not_exists, not_and, ← Option.ne_none_iff_exists', ne_eq,
    ← Value.symbol?_eq_some]

/-- A scope is created if there are as many arguments as parameters and these are symbols. Else
nothing changes. -/
theorem createScope_succeeds_iff (room : Nat) (params args : List Value) (outer : Option ScopeId)
    (s : Store) :
    ((∃ i, outcome (createScope room params args outer) s = .ok i) ↔
      params.length = args.length ∧ ∀ p ∈ params, ∃ x, p = .sym x) ∧
    ∀ e, outcome (createScope room params args outer) s = .error e →
      after (createScope room params args outer) s = s := by
  have hkeeps_iff : (ScopeCall.create params args outer).keeps ↔
      params.length = args.length ∧ ∀ p ∈ params, ∃ x, p = .sym x := by
    rw [ScopeCall.keeps, decide_eq_true_iff, none_notMem_symbols_iff]
  rw [← hkeeps_iff]
  by_cases hkeeps : (ScopeCall.create params args outer).keeps
  · have hrun := ScopeCall.createScope_of_keeps hkeeps room s
    simp [outcome, hrun, hkeeps]
  · obtain ⟨e, he⟩ := ScopeCall.createScope_of_not_keeps hkeeps room s
    simp [outcome, after, he, hkeeps]

/-- A definition succeeds if its name is a symbol. Else nothing changes. -/
theorem define_succeeds_iff (room : Nat) (i : ScopeId) (name v : Value) (s : Store) :
    (outcome (define room i name v) s = .ok () ↔ ∃ x, name = .sym x) ∧
    ∀ e, outcome (define room i name v) s = .error e → after (define room i name v) s = s := by
  cases hname : name.symbol? with
  | some x =>
    obtain rfl := Value.symbol?_eq_some.mp hname
    refine ⟨⟨fun _ => ⟨x, rfl⟩, fun _ => rfl⟩, fun e he => ?_⟩
    cases he
  | none =>
    obtain ⟨e, he⟩ := define_of_symbol?_eq_none hname room i v s
    have hne : ∀ x, name ≠ .sym x := fun x hx => by simp [hx, Value.symbol?] at hname
    simp [outcome, after, he, hne]

/-- A table is defined if all its keys are symbols. -/
theorem defineAll_succeeds_iff (room : Nat) (i : ScopeId) (table : List (Value × Value))
    (s : Store) : outcome (defineAll room i table) s = .ok () ↔ ∀ p ∈ table, ∃ x, p.1 = .sym x := by
  have hsymbols : none ∉ (mergePairs table).map (·.1.symbol?) ↔
      ∀ p ∈ table, ∃ x, p.1 = .sym x := by
    rw [mem_symbols_mergePairs, none_notMem_symbols_iff]
  unfold defineAll
  split
  · rw [outcome_defineEach, hsymbols]
  · rename_i hkeys
    refine ⟨nofun, fun h => absurd (List.all_eq_true.mpr fun p hp => ?_) hkeys⟩
    obtain ⟨x, hx⟩ := h p hp
    rw [hx]
    rfl

/-- Whether a table is defined or fails, the keys before the first that is not a symbol have their
last values afterwards, and all other names are as they were. -/
theorem scope_after_defineAll {i : ScopeId} {s : Store} {sc : Scope} (hsc : s.scopes[i]? = some sc)
    (room : Nat) (table : List (Value × Value)) :
    ∃ sc', (after (defineAll room i table) s).scopes[i]? = some sc' ∧ sc'.outer = sc.outer ∧
      ∀ x, sc'.get? x =
        if table.all (·.1.isKey) ∧ x ∈ leadingSymbols (table.map (·.1.symbol?)) then
          (symbolBindings table).reverse.lookup x
        else sc.get? x := by
  have hafter : after (defineAll room i table) s =
      s.modify i (·.putEach (ScopeCall.update i table).definitions) :=
    (ScopeCall.update i table).after_run room s
  refine ⟨_, hafter ▸ Store.scopes_modify_self _ hsc, Scope.outer_putEach _ _, fun x => ?_⟩
  by_cases hkeys : table.all (·.1.isKey)
  · simp only [ScopeCall.definitions, ScopeCall.keeps, hkeys, if_true, ScopeCall.attempts,
      Scope.get?_putEach_tableBindings, true_and]
  · simp [ScopeCall.definitions, ScopeCall.keeps, hkeys]

/-- **Scopes follow the trace of their calls.** In a store that any calls lead to, each scope lists
the names defined in it once, in the order of their first definitions and with their last values. A
name is found with the value of its last definition in the nearest scope that ever had one, and it
is unbound if there is none. The text of a scope has an entry for each name in the same order, and
fails only if one of the values cannot be shown. A call changes no other scope than its own, and
what it defines is seen at once from every scope within that one, unless a nearer scope has a
definition. A scope that cannot be made and a definition that fails change nothing. Of a table that
fails, the keys before the first that is not a symbol are defined, and no others. -/
theorem scopes_follow_trace {calls : List ScopeCall} {s : Store} (h : Store.MadeBy calls s) :
    s.Reflects (.ofCalls calls) ∧
    (∀ (room : Nat) (c : ScopeCall), (∀ i ∈ c.scopes, i < s.scopes.size) →
      (∀ j < s.scopes.size, j ≠ c.target s.scopes.size →
        (after (c.run room) s).scopes[j]? = s.scopes[j]?) ∧
      ∀ (later : Nat) (i : ScopeId) (inner rest : List ScopeId) (x : Symbol) (v : Value),
        (Trace.ofCalls calls).Chain i (inner ++ c.target s.scopes.size :: rest) →
        (∀ j ∈ inner, x ∉ (Trace.ofCalls calls).names j) →
        c.definitions.reverse.lookup x = some v →
        lookup later i (.sym x) (after (c.run room) s) = .ok v (after (c.run room) s)) ∧
    (∀ (room : Nat) (params args : List Value) (outer : Option ScopeId),
      ((∃ i, outcome (createScope room params args outer) s = .ok i) ↔
        params.length = args.length ∧ ∀ p ∈ params, ∃ x, p = .sym x) ∧
      ∀ e, outcome (createScope room params args outer) s = .error e →
        after (createScope room params args outer) s = s) ∧
    (∀ (room : Nat) (i : ScopeId) (name v : Value),
      (outcome (define room i name v) s = .ok () ↔ ∃ x, name = .sym x) ∧
      ∀ e, outcome (define room i name v) s = .error e → after (define room i name v) s = s) ∧
    ∀ (room : Nat) (i : ScopeId) (table : List (Value × Value)) (sc : Scope),
      s.scopes[i]? = some sc →
      (outcome (defineAll room i table) s = .ok () ↔ ∀ p ∈ table, ∃ x, p.1 = .sym x) ∧
      ∃ sc', (after (defineAll room i table) s).scopes[i]? = some sc' ∧ sc'.outer = sc.outer ∧
        ∀ x, sc'.get? x =
          if table.all (·.1.isKey) ∧ x ∈ leadingSymbols (table.map (·.1.symbol?)) then
            (symbolBindings table).reverse.lookup x
          else sc.get? x := by
  have hmatches := h.matches
  refine ⟨hmatches.reflects,
    fun room c hc => ⟨fun j hj hne => ScopeCall.scopes_after_run room hne hj, ?_⟩,
    fun room params args outer => createScope_succeeds_iff room params args outer s,
    fun room i name v => define_succeeds_iff room i name v s,
    fun room i table sc hsc =>
      ⟨defineAll_succeeds_iff room i table s, scope_after_defineAll hsc room table⟩⟩
  intro later i inner rest x v hchain hinner hv
  exact hmatches.lookup_after_run room later hc hchain hinner hv

/-- A scope within the root scope, a definition that fails, and a table for the root scope that
fails at its third key and gives the second one another value later. -/
def maskedCalls : List ScopeCall :=
  [.create [] [] none, .create [.sym ⟨"x"⟩] [.int 1] (some 0), .define 1 (.str "y") (.int 2),
    .update 0 [(.sym ⟨"x"⟩, .int 3), (.sym ⟨"y"⟩, .int 4), (.int 5, .int 6),
      (.sym ⟨"z"⟩, .int 7), (.sym ⟨"y"⟩, .int 8)]]

/-- The inner scope masks one name, sees the other with its last value, and does not see the one
after the key that fails. Its text shows the one name that it binds. -/
theorem scopes_follow_trace_masked :
    let s := maskedCalls.foldl (fun s c => after (c.run 9) s) .empty
    Store.MadeBy maskedCalls s ∧
      lookup 9 1 (.sym ⟨"x"⟩) s = .ok (.int 1) s ∧ lookup 9 1 (.sym ⟨"y"⟩) s = .ok (.int 8) s ∧
      lookup 9 1 (.sym ⟨"z"⟩) s = .error (.unbound "z") s ∧
      isBound 9 1 (.sym ⟨"z"⟩) s = .ok false s ∧
      s.scopes[0]? = some ⟨[(⟨"x"⟩, .int 3), (⟨"y"⟩, .int 8)], none⟩ ∧
      showScope 9 s 1 = .ok "\x7bx: 1\x7d -> ..." := by
  intro s
  have hs : Store.MadeBy maskedCalls s :=
    (((Store.MadeBy.none.call 9 _ (by decide +kernel)).call 9 _ (by decide +kernel)).call 9 _
      (by decide +kernel)).call 9 _ (by decide +kernel)
  have htrace : Trace.ofCalls maskedCalls = ⟨[none, some 0],
      [(1, ⟨"x"⟩, .int 1), (0, ⟨"x"⟩, .int 3), (0, ⟨"y"⟩, .int 8)]⟩ := rfl
  have hreflects := (scopes_follow_trace hs).1
  have hchain : (Trace.ofCalls maskedCalls).Chain 1 [1, 0] := .outward rfl (.last rfl)
  rw [htrace] at hreflects hchain
  have hz := (hreflects.unbound 9 1 _ hchain ⟨"z"⟩).mpr (by decide +kernel)
  refine ⟨hs, ?_, ?_, hz, ?_, hreflects.scopes 0, ?_⟩
  · exact (hreflects.found 9 1 _ hchain _ _).mpr ⟨_, rfl, [], 1, [0], rfl, rfl, nofun⟩
  · exact (hreflects.found 9 1 _ hchain _ _).mpr ⟨_, rfl, [1], 0, [], rfl, rfl, by decide +kernel⟩
  · exact (hreflects.contained 9 1 _).2.mpr ⟨_, hz⟩
  · refine ((hreflects.shown 9 1 (some 0) rfl).1 _).mpr ⟨"\x7bx: 1\x7d", ?_, rfl⟩
    exact ⟨["x: 1"], .cons ⟨.int 1, "1", rfl, by decide +kernel, rfl⟩ .nil, rfl⟩

end SmallLisp
