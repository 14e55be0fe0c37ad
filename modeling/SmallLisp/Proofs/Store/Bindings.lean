import Mathlib.Data.List.Induction
import Mathlib.Data.List.Nodup
import SmallLisp.Proofs.Store.Extension

/-!
# Bindings made one after another

A scope that binds names one after another holds each of them once, at the place where it was bound
first and with the value it was given last. The keys of a table are merged in the same way before
any of them is bound. Only the keys before the first that is not a symbol are bound then, but to
the values that the whole table gives them.

## Main definitions

* `tabulate`: names with their values, each name once
* `listing`: each name once, in the order of the first bindings and with the last value
* `symbolBindings`: the bindings that a table gives for symbols
* `leadingBindings`, `leadingSymbols`: those before the first key that is not a symbol
* `tableBindings`: the leading keys of a table with the values that the whole table gives them

## Main results

* `Scope.putEach_listing`: a scope that holds a listing holds the longer one after more bindings
* `leadingBindings_mergePairs`: the leading bindings of a merged table
* `Scope.get?_putEach_tableBindings`: what these leave in a scope
* `outcome_defineEach`, `after_defineEach`: what binding the names of a table gives and leaves
-/

namespace SmallLisp

open StoreM

/-! ## Listings -/

/-- One more item is added to the distinct ones only if it is new. -/
theorem eraseDups_concat {α : Type} [BEq α] [LawfulBEq α] [DecidableEq α] (as : List α) (a : α) :
    (as ++ [a]).eraseDups = if a ∈ as then as.eraseDups else as.eraseDups ++ [a] := by
  rw [List.eraseDups_append]
  by_cases h : a ∈ as
  · simp [List.removeAll, h]
  · simp [List.removeAll, h, List.eraseDups_cons]

theorem nodup_eraseDups (xs : List Symbol) : xs.eraseDups.Nodup := by
  induction xs using List.reverseRecOn with
  | nil => exact List.nodup_nil
  | append_singleton xs x ih =>
    rw [eraseDups_concat]
    split
    · exact ih
    · rename_i hx
      have hnew : x ∉ xs.eraseDups := fun h => hx (List.mem_eraseDups.mp h)
      rw [← List.concat_eq_append]
      exact ih.concat hnew

/-- The names that have a value, each once and in the order of the list, with their values. -/
def tabulate (xs : List Symbol) (get : Symbol → Option Value) : List (Symbol × Value) :=
  xs.eraseDups.filterMap fun x => (get x).map (x, ·)

theorem get_of_mem_tabulate {xs : List Symbol} {get : Symbol → Option Value} {b : Symbol × Value}
    (h : b ∈ tabulate xs get) : get b.1 = some b.2 := by
  obtain ⟨x, -, hx⟩ := List.mem_filterMap.mp h
  obtain ⟨v, hv, rfl⟩ := Option.map_eq_some_iff.mp hx
  exact hv

/-- Bindings are determined by their names and values. -/
theorem eq_tabulate {bs : List (Symbol × Value)} {xs : List Symbol} {get : Symbol → Option Value}
    (hnames : bs.map (·.1) = xs.eraseDups) (hvalues : ∀ b ∈ bs, get b.1 = some b.2) :
    bs = tabulate xs get := by
  rw [tabulate, ← hnames, List.filterMap_map]
  calc bs = bs.filterMap some := List.filterMap_some.symm
    _ = bs.filterMap ((fun x => (get x).map (x, ·)) ∘ (·.1)) := by
      refine List.filterMap_congr fun b hb => ?_
      rw [Function.comp_apply, hvalues b hb]
      rfl

/-- Each name once, in the order of the first bindings and with the value of the last. -/
def listing (bs : List (Symbol × Value)) : List (Symbol × Value) :=
  tabulate (bs.map (·.1)) (bs.reverse.lookup ·)

namespace Scope

/-- A binding for a new symbol comes last, and one for an old symbol keeps its place. -/
theorem map_fst_putBinding (x : Symbol) (v : Value) (bs : List (Symbol × Value)) :
    (putBinding x v bs).map (·.1) =
      if x ∈ bs.map (·.1) then bs.map (·.1) else bs.map (·.1) ++ [x] := by
  induction bs with
  | nil => rfl
  | cons b bs ih =>
    by_cases hb : b.1 = x
    · simp [putBinding, hb]
    · have hx : x ≠ b.1 := fun h => hb h.symm
      rw [putBinding, if_neg hb, List.map_cons, ih]
      simp only [List.map_cons, List.mem_cons, hx, false_or]
      split <;> rfl

/-- If no symbol is bound twice, what is held for a symbol is what is found for it. -/
theorem getBinding?_of_mem {bs : List (Symbol × Value)} (h : (bs.map (·.1)).Nodup)
    {b : Symbol × Value} (hb : b ∈ bs) : getBinding? b.1 bs = some b.2 := by
  induction bs with
  | nil => cases hb
  | cons c bs ih =>
    rw [List.map_cons, List.nodup_cons] at h
    rcases List.mem_cons.mp hb with rfl | hb
    · rw [getBinding?, if_pos rfl]
    · have hne : c.1 ≠ b.1 := fun e => h.1 (e ▸ List.mem_map_of_mem hb)
      rw [getBinding?, if_neg hne, ih h.2 hb]

theorem putEach_append (sc : Scope) (bs cs : List (Symbol × Value)) :
    sc.putEach (bs ++ cs) = (sc.putEach bs).putEach cs :=
  List.foldl_append

/-- The names of an empty scope that is bound one by one are the distinct names, in order of first
mention. -/
theorem names_putEach_empty (bs : List (Symbol × Value)) (outer : Option ScopeId) :
    ((putEach ⟨[], outer⟩ bs).bindings).map (·.1) = (bs.map (·.1)).eraseDups := by
  induction bs using List.reverseRecOn with
  | nil => rfl
  | append_singleton bs b ih =>
    rw [putEach_append, List.map_append, List.map_singleton, eraseDups_concat]
    refine (map_fst_putBinding b.1 b.2 _).trans ?_
    simp only [ih, List.mem_eraseDups]

/-- Bindings made in an empty scope leave their listing. -/
theorem putEach_empty (bs : List (Symbol × Value)) (outer : Option ScopeId) :
    putEach ⟨[], outer⟩ bs = ⟨listing bs, outer⟩ := by
  have hnames := names_putEach_empty bs outer
  have hnodup : ((putEach ⟨[], outer⟩ bs).bindings.map (·.1)).Nodup := by
    rw [hnames]
    exact nodup_eraseDups _
  have hvalues : ∀ x, getBinding? x (putEach ⟨[], outer⟩ bs).bindings = bs.reverse.lookup x := by
    intro x
    exact (get?_putEach ⟨[], outer⟩ bs x).trans Option.or_none
  have hbindings : (putEach ⟨[], outer⟩ bs).bindings = listing bs := by
    refine eq_tabulate hnames fun b hb => ?_
    rw [← hvalues, getBinding?_of_mem hnodup hb]
  calc putEach ⟨[], outer⟩ bs
      = ⟨(putEach ⟨[], outer⟩ bs).bindings, (putEach ⟨[], outer⟩ bs).outer⟩ := rfl
    _ = ⟨listing bs, outer⟩ := by rw [hbindings, outer_putEach]

/-- A scope that holds a listing holds the longer one after more bindings. -/
theorem putEach_listing (bs cs : List (Symbol × Value)) (outer : Option ScopeId) :
    putEach ⟨listing bs, outer⟩ cs = ⟨listing (bs ++ cs), outer⟩ := by
  rw [← putEach_empty, ← putEach_append, putEach_empty]

end Scope

/-- A listing has each name once, in order of first mention. -/
theorem map_fst_listing (bs : List (Symbol × Value)) :
    (listing bs).map (·.1) = (bs.map (·.1)).eraseDups := by
  have h := Scope.names_putEach_empty bs none
  rwa [Scope.putEach_empty] at h

/-- A listing gives each name the last of its values. -/
theorem getBinding?_listing (bs : List (Symbol × Value)) (x : Symbol) :
    Scope.getBinding? x (listing bs) = bs.reverse.lookup x := by
  have h := Scope.get?_putEach ⟨[], none⟩ bs x
  rw [Scope.putEach_empty] at h
  exact h.trans Option.or_none

theorem lookup_reverse_eq_none_iff {bs : List (Symbol × Value)} {x : Symbol} :
    bs.reverse.lookup x = none ↔ x ∉ bs.map (·.1) := by
  rw [List.lookup_eq_none_iff]
  simp only [List.mem_reverse, bne_iff_ne, List.mem_map, not_exists, not_and]
  exact forall₂_congr fun b _ => ⟨Ne.symm, Ne.symm⟩

/-! ## Tables -/

/-- The symbol that a value is, if it is one. -/
def Value.symbol? : Value → Option Symbol
  | .sym x => some x
  | _ => none

@[simp] theorem Value.symbol?_eq_some {v : Value} {x : Symbol} :
    v.symbol? = some x ↔ v = .sym x := by
  cases v <;> simp [symbol?]

theorem Value.same_sym {v : Value} {x : Symbol} : v.same (.sym x) = true ↔ v = .sym x := by
  cases v <;> simp [same, sameNum, num?]

theorem Value.sym_same {v : Value} {x : Symbol} : (Value.sym x).same v = true ↔ v = .sym x := by
  cases v <;> simp [same, eq_comm (a := x)]

/-- The bindings that a table gives for symbols, whatever its other keys are. -/
def symbolBindings (table : List (Value × Value)) : List (Symbol × Value) :=
  table.filterMap fun p => p.1.symbol?.map (·, p.2)

/-- The bindings of a table before the first key that is not a symbol. -/
def leadingBindings : List (Value × Value) → List (Symbol × Value)
  | [] => []
  | p :: ps =>
    match p.1.symbol? with
    | some x => (x, p.2) :: leadingBindings ps
    | none => []

/-- The symbols of a list before the first place where there is none. -/
def leadingSymbols : List (Option Symbol) → List Symbol
  | some x :: os => x :: leadingSymbols os
  | _ => []

/-- The keys of a table before the first that is not a symbol, each once and with the last value
that the whole table gives it. -/
def tableBindings (table : List (Value × Value)) : List (Symbol × Value) :=
  tabulate (leadingSymbols (table.map (·.1.symbol?))) ((symbolBindings table).reverse.lookup ·)

theorem map_fst_leadingBindings (ps : List (Value × Value)) :
    (leadingBindings ps).map (·.1) = leadingSymbols (ps.map (·.1.symbol?)) := by
  induction ps with
  | nil => rfl
  | cons p ps ih =>
    simp only [leadingBindings, List.map_cons]
    cases p.1.symbol? with
    | none => rfl
    | some x => rw [leadingSymbols, List.map_cons, ih]

theorem mem_of_mem_leadingBindings {ps : List (Value × Value)} {x : Symbol} {v : Value}
    (h : (x, v) ∈ leadingBindings ps) : (.sym x, v) ∈ ps := by
  induction ps with
  | nil => cases h
  | cons p ps ih =>
    obtain ⟨k, w⟩ := p
    simp only [leadingBindings] at h
    cases hk : k.symbol? with
    | none => simp [hk] at h
    | some y =>
      obtain rfl := Value.symbol?_eq_some.mp hk
      simp only [hk, List.mem_cons, Prod.mk.injEq] at h
      rcases h with ⟨rfl, rfl⟩ | h
      · exact .head _
      · exact .tail _ (ih h)

/-- A last name counts only if all names before it are symbols. -/
theorem leadingSymbols_concat (os : List (Option Symbol)) (o : Option Symbol) :
    leadingSymbols (os ++ [o]) =
      if none ∈ os then leadingSymbols os else leadingSymbols os ++ o.toList := by
  induction os with
  | nil => cases o <;> rfl
  | cons o' os ih =>
    cases o' with
    | none => simp [leadingSymbols]
    | some x =>
      simp only [List.cons_append, leadingSymbols, ih, List.mem_cons, reduceCtorEq, false_or]
      split <;> rfl

theorem mem_leadingSymbols {os : List (Option Symbol)} (h : none ∉ os) {x : Symbol} :
    x ∈ leadingSymbols os ↔ some x ∈ os := by
  induction os with
  | nil => simp [leadingSymbols]
  | cons o os ih =>
    cases o with
    | none => simp at h
    | some y =>
      have hos : none ∉ os := fun hmem => h (.tail _ hmem)
      simp [leadingSymbols, ih hos]

/-! ## Merged tables -/

theorem Value.symbol?_eq_of_same {v w : Value} (h : v.same w = true) : v.symbol? = w.symbol? := by
  cases hv : v.symbol? with
  | some x =>
    obtain rfl := symbol?_eq_some.mp hv
    rw [sym_same.mp h]
    rfl
  | none =>
    cases hw : w.symbol? with
    | none => rfl
    | some y =>
      obtain rfl := symbol?_eq_some.mp hw
      rw [same_sym.mp h] at hv
      cases hv

/-- One more pair gives an earlier one with the same key its value, or comes last. -/
theorem mergePairs_concat (ps : List (Value × Value)) (p : Value × Value) :
    mergePairs (ps ++ [p]) =
      if (mergePairs ps).any (·.1.same p.1) then
        (mergePairs ps).map fun q => if q.1.same p.1 then (q.1, p.2) else q
      else mergePairs ps ++ [p] := by
  rw [mergePairs, List.foldl_append]
  rfl

/-- One more pair adds a name only if its key is new. -/
theorem symbols_mergePairs_concat (ps : List (Value × Value)) (p : Value × Value) :
    (mergePairs (ps ++ [p])).map (·.1.symbol?) =
      if (mergePairs ps).any (·.1.same p.1) then (mergePairs ps).map (·.1.symbol?)
      else (mergePairs ps).map (·.1.symbol?) ++ [p.1.symbol?] := by
  rw [mergePairs_concat]
  split
  · rw [List.map_map]
    refine List.map_congr_left fun q _ => ?_
    simp only [Function.comp_apply]
    split <;> rfl
  · rw [List.map_append, List.map_singleton]

/-- A merged table has the same symbols among its keys, and other keys if there were any. -/
theorem mem_symbols_mergePairs (ps : List (Value × Value)) (o : Option Symbol) :
    o ∈ (mergePairs ps).map (·.1.symbol?) ↔ o ∈ ps.map (·.1.symbol?) := by
  induction ps using List.reverseRecOn with
  | nil => rfl
  | append_singleton ps p ih =>
    rw [symbols_mergePairs_concat, List.map_append, List.map_singleton, List.mem_append, ← ih,
      List.mem_singleton]
    split
    · rename_i hany
      obtain ⟨q, hq, hsame⟩ := List.any_eq_true.mp hany
      have hthere : p.1.symbol? ∈ (mergePairs ps).map (·.1.symbol?) :=
        Value.symbol?_eq_of_same hsame ▸ List.mem_map_of_mem hq
      exact ⟨.inl, fun h => h.elim id fun e => e ▸ hthere⟩
    · rw [List.mem_append, List.mem_singleton]

theorem any_same_sym_iff {ps : List (Value × Value)} {k : Value} {x : Symbol}
    (h : k.symbol? = some x) :
    ps.any (·.1.same k) = true ↔ some x ∈ ps.map (·.1.symbol?) := by
  obtain rfl := Value.symbol?_eq_some.mp h
  simp [Value.same_sym]

/-- **The leading keys of a merged table** are those of the table, each of them once. -/
theorem leadingSymbols_mergePairs (ps : List (Value × Value)) :
    leadingSymbols ((mergePairs ps).map (·.1.symbol?)) =
      (leadingSymbols (ps.map (·.1.symbol?))).eraseDups := by
  -- a last pair counts if all keys before it are symbols, and if it has a new one
  induction ps using List.reverseRecOn with
  | nil => rfl
  | append_singleton ps p ih =>
    have hmem := mem_symbols_mergePairs ps
    rw [symbols_mergePairs_concat, List.map_append, List.map_singleton, leadingSymbols_concat]
    by_cases hnone : none ∈ ps.map (·.1.symbol?)
    · rw [if_pos hnone, ← ih]
      split
      · rfl
      · rw [leadingSymbols_concat, if_pos ((hmem none).mpr hnone)]
    · have hnone' : none ∉ (mergePairs ps).map (·.1.symbol?) := fun h => hnone ((hmem none).mp h)
      rw [if_neg hnone]
      cases hp : p.1.symbol? with
      | none =>
        rw [Option.toList_none, List.append_nil, ← ih]
        split
        · rfl
        · rw [leadingSymbols_concat, if_neg hnone', Option.toList_none, List.append_nil]
      | some x =>
        simp only [any_same_sym_iff hp, hmem, Option.toList_some, eraseDups_concat,
          mem_leadingSymbols hnone]
        split
        · exact ih
        · rw [leadingSymbols_concat, if_neg hnone', ih, Option.toList_some]

/-- The last pair decides on its own key, and on no other. -/
theorem lookup_symbolBindings_concat (ps : List (Value × Value)) (p : Value × Value) (x : Symbol) :
    (symbolBindings (ps ++ [p])).reverse.lookup x =
      if p.1.symbol? = some x then some p.2 else (symbolBindings ps).reverse.lookup x := by
  rw [symbolBindings, List.filterMap_append, List.reverse_append, List.lookup_append]
  cases hp : p.1.symbol? with
  | none => simp [hp, symbolBindings]
  | some y =>
    by_cases hxy : y = x
    · simp [hp, hxy]
    · have hne : (x == y) = false := by simpa using Ne.symm hxy
      simp [hp, hxy, symbolBindings, List.lookup_cons, hne]

/-- A symbol has the value of the last pair in a merged table, or that pair is not for it. -/
theorem mem_mergePairs_concat {ps : List (Value × Value)} {p : Value × Value} {x : Symbol}
    {v : Value} (h : (.sym x, v) ∈ mergePairs (ps ++ [p])) :
    p.1 = .sym x ∧ p.2 = v ∨ p.1 ≠ .sym x ∧ (.sym x, v) ∈ mergePairs ps := by
  rw [mergePairs_concat] at h
  split at h
  · obtain ⟨q, hq, he⟩ := List.mem_map.mp h
    split at he
    · rename_i hsame
      obtain ⟨hkey, hvalue⟩ := Prod.mk.inj he
      rw [hkey, Value.sym_same] at hsame
      exact .inl ⟨hsame, hvalue⟩
    · rename_i hsame
      subst he
      exact .inr ⟨fun e => hsame (Value.sym_same.mpr e), hq⟩
  · rename_i hany
    rcases List.mem_append.mp h with hold | hnew
    · have hne : p.1 ≠ .sym x := by
        intro e
        exact hany (List.any_eq_true.mpr ⟨_, hold, Value.sym_same.mpr e⟩)
      exact .inr ⟨hne, hold⟩
    · obtain rfl := List.mem_singleton.mp hnew
      exact .inl ⟨rfl, rfl⟩

/-- The value of a symbol in a merged table is the last that the table gives it. -/
theorem lookup_of_mem_mergePairs {ps : List (Value × Value)} {x : Symbol} {v : Value}
    (h : (.sym x, v) ∈ mergePairs ps) : (symbolBindings ps).reverse.lookup x = some v := by
  induction ps using List.reverseRecOn with
  | nil => cases h
  | append_singleton ps p ih =>
    rw [lookup_symbolBindings_concat]
    rcases mem_mergePairs_concat h with ⟨hp, rfl⟩ | ⟨hp, hold⟩
    · rw [if_pos (Value.symbol?_eq_some.mpr hp)]
    · rw [if_neg fun e => hp (Value.symbol?_eq_some.mp e)]
      exact ih hold

/-- Merging pairs does not change which names are bound, nor their order. -/
theorem names_leadingBindings_mergePairs (ps : List (Value × Value)) :
    (leadingBindings (mergePairs ps)).map (·.1) =
      (leadingSymbols (ps.map (·.1.symbol?))).eraseDups := by
  rw [map_fst_leadingBindings, leadingSymbols_mergePairs]

/-- **The leading bindings of a merged table** are for the leading keys of the table itself, with
the values that the whole table gives these. -/
theorem leadingBindings_mergePairs (ps : List (Value × Value)) :
    leadingBindings (mergePairs ps) = tableBindings ps := by
  refine eq_tabulate (names_leadingBindings_mergePairs ps) fun b hb => ?_
  exact lookup_of_mem_mergePairs (mem_of_mem_leadingBindings hb)

/-- A table gives its leading keys the values that it has for them last. All other names stay as
they were. -/
theorem Scope.get?_putEach_tableBindings (sc : Scope) (ps : List (Value × Value)) (x : Symbol) :
    (sc.putEach (tableBindings ps)).get? x =
      if x ∈ leadingSymbols (ps.map (·.1.symbol?)) then (symbolBindings ps).reverse.lookup x
      else sc.get? x := by
  have hnames : x ∈ (tableBindings ps).map (·.1) ↔ x ∈ leadingSymbols (ps.map (·.1.symbol?)) := by
    rw [← leadingBindings_mergePairs, names_leadingBindings_mergePairs, List.mem_eraseDups]
  rw [Scope.get?_putEach]
  cases hlookup : (tableBindings ps).reverse.lookup x with
  | none =>
    have hx := mt hnames.mpr (lookup_reverse_eq_none_iff.mp hlookup)
    rw [if_neg hx, Option.none_or]
  | some v =>
    obtain ⟨front, rest, heq, -⟩ := List.lookup_eq_some_iff.mp hlookup
    have hmem : (x, v) ∈ tableBindings ps := by
      rw [← List.mem_reverse, heq]
      exact List.mem_append_right _ (.head _)
    rw [if_pos (hnames.mp (List.mem_map_of_mem hmem)), Option.some_or]
    exact (get_of_mem_tabulate hmem).symm

/-! ## Binding the names of a table -/

/-- Nothing but a symbol can be bound. -/
theorem define_of_symbol?_eq_none {name : Value} (h : name.symbol? = none) (room : Nat)
    (i : ScopeId) (v : Value) (s : Store) : ∃ e, define room i name v s = .error e s := by
  cases name with
  | sym x => cases h
  | _ => exact ⟨_, rfl⟩

/-- Binding the names of a table succeeds if all of them are symbols. -/
theorem outcome_defineEach (room : Nat) (i : ScopeId) (ps : List (Value × Value)) (s : Store) :
    outcome (defineEach room i ps) s = .ok () ↔ none ∉ ps.map (·.1.symbol?) := by
  induction ps generalizing s with
  | nil => exact ⟨fun _ => List.not_mem_nil, fun _ => rfl⟩
  | cons p ps ih =>
    obtain ⟨k, v⟩ := p
    cases hk : k.symbol? with
    | none =>
      obtain ⟨e, he⟩ := define_of_symbol?_eq_none hk room i v s
      simp [outcome, defineEach, bind, EStateM.bind, he, hk]
    | some x =>
      obtain rfl := Value.symbol?_eq_some.mp hk
      have hfirst : define room i (.sym x) v s = .ok () (s.modify i (·.put x v)) := rfl
      have hrest := ih (s.modify i (·.put x v))
      simpa [outcome, defineEach, bind_of_eq_ok hfirst, hk] using hrest

/-- The names before the first that is not a symbol are bound, also if one is not. -/
theorem after_defineEach (room : Nat) (i : ScopeId) (ps : List (Value × Value)) (s : Store) :
    after (defineEach room i ps) s = s.modify i (·.putEach (leadingBindings ps)) := by
  induction ps generalizing s with
  | nil => exact (s.modify_id i).symm
  | cons p ps ih =>
    obtain ⟨k, v⟩ := p
    cases hk : k.symbol? with
    | none =>
      obtain ⟨e, he⟩ := define_of_symbol?_eq_none hk room i v s
      simp [after, defineEach, bind, EStateM.bind, he, leadingBindings, hk]
    | some x =>
      obtain rfl := Value.symbol?_eq_some.mp hk
      have hfirst : define room i (.sym x) v s = .ok () (s.modify i (·.put x v)) := rfl
      calc after (defineEach room i ((.sym x, v) :: ps)) s
          = after (defineEach room i ps) (s.modify i (·.put x v)) := by
            simp only [after, defineEach, bind_of_eq_ok hfirst]
        _ = s.modify i (·.putEach (leadingBindings ((.sym x, v) :: ps))) := by
            rw [ih, Store.modify_modify]
            rfl

end SmallLisp
