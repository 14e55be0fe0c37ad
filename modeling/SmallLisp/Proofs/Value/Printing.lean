import SmallLisp.Proofs.Results
import SmallLisp.Proofs.Value.Related

/-!
# Room for writing

Whether there is enough room to write a value depends on how deeply it is nested. Once there is
enough, the text, or the fault of an integer with too many digits, is the same in all more room.
Of a program, which consists of lists, symbols and numbers, the room that is needed is exactly the
places of one value for each level of its lists.

## Main definitions

* `Value.isProgram`: numbers that can be written out, symbols, and lists of programs
* `Value.levels`: how deeply the lists of a program are nested

## Main results

* `Value.settles_render`: the text of a value settles
* `Value.fillsRoom_of_isProgram`: programs can be written just if there is room for their levels
-/

namespace SmallLisp

namespace Value

mutual

/-- **The text of a value settles**: more room gives the same text, or the same fault. -/
theorem settles_render (style : Style) :
    ∀ v : Value, Settles .stackExhausted fun room => v.render style room
  | .list vs => by
    simp only [render]
    exact ((settles_renderAll style vs).map _).taking style.places
  | .tuple vs => by
    simp only [render]
    exact ((settles_renderAll .inspected vs).map _).taking style.places
  | .function id name params body scope => by
    cases style with
    | printed =>
      simp only [render]
      exact (Settles.const _).taking Style.printed.places
    | inspected =>
      simp only [render]
      exact (((settles_render .printed body).sub definitionPlaces).map _).taking
        Style.inspected.places
  | .str s => by
    cases style <;> simp only [render] <;> exact (Settles.const _).taking _
  | .sym x => by
    cases style <;> simp only [render] <;> exact (Settles.const _).taking _
  | .int _ | .float _ | .bool _ | .nothing | .builtin _ => by
    simp only [render]
    exact (Settles.const _).taking style.places

/-- More room changes no texts of several values that could be written. -/
theorem settles_renderAll (style : Style) :
    ∀ vs : List Value, Settles .stackExhausted fun room => renderAll style room vs
  | [] => Settles.const _
  | v :: vs => by
    simp only [renderAll]
    exact (settles_render style v).bind fun t =>
      (settles_renderAll style vs).bind fun ts => Settles.const _

end

theorem renderAll_eq_mapM (style : Style) (room : Nat) (vs : List Value) :
    renderAll style room vs = vs.mapM (render style room) := by
  induction vs with
  | nil => rfl
  | cons v vs ih => rw [renderAll, List.mapM_cons, ih]

/-- Several values can be written just if the first and the others can. -/
theorem renderAll_cons_eq_ok_iff {style : Style} {room : Nat} {v : Value} {vs : List Value}
    {texts : List String} :
    renderAll style room (v :: vs) = .ok texts ↔
      ∃ t ts, v.render style room = .ok t ∧ renderAll style room vs = .ok ts ∧ texts = t :: ts := by
  simp only [renderAll_eq_mapM, mapM_eq_ok_iff, List.forall₂_cons_left_iff]

/-- A symbol is printed as its name. -/
theorem print_sym {room : Nat} (h : Style.printed.places ≤ room) (x : Symbol) :
    (Value.sym x).print room = .ok x.name := by
  rw [print, render, if_neg (Nat.not_lt.mpr h)]

/-- A list is printed as the texts of its items between parentheses. -/
theorem print_list {room : Nat} (h : Style.printed.places ≤ room) {vs : List Value}
    {texts : List String}
    (htexts : renderAll .printed (room - Style.printed.places) vs = .ok texts) :
    (Value.list vs).print room = .ok (listText .printed texts) := by
  rw [print, render, if_neg (Nat.not_lt.mpr h), htexts]
  rfl

/-! ## Programs -/

mutual

/-- Whether a value consists of numbers that can be written out, symbols and lists. -/
def isProgram : Value → Bool
  | .int n => (Number.intText? n).isSome
  | .float _ => true
  | .sym _ => true
  | .list vs => isProgramAll vs
  | _ => false

/-- The same for several values. -/
def isProgramAll : List Value → Bool
  | [] => true
  | v :: vs => isProgram v && isProgramAll vs

end

theorem isProgramAll_eq_true_iff {vs : List Value} :
    isProgramAll vs = true ↔ ∀ v ∈ vs, v.isProgram = true := by
  induction vs with
  | nil => simp [isProgramAll]
  | cons v vs ih => simp [isProgramAll, ih]

mutual

/-- How many levels there are in a program: one, and one more for each list around it. -/
def levels : Value → Nat
  | .list vs => levelsAll vs + 1
  | _ => 1

/-- The levels of the deepest of several values. -/
def levelsAll : List Value → Nat
  | [] => 0
  | v :: vs => max (levels v) (levelsAll vs)

end

theorem levels_pos (v : Value) : 0 < v.levels := by
  cases v <;> simp only [levels] <;> exact Nat.succ_pos _

theorem intText_ne_stackExhausted (n : Int) : intText n ≠ .error .stackExhausted := by
  unfold intText
  generalize Number.intText? n = text
  cases text <;> nofun

theorem intText_of_intText? {n : Int} {t : String} (h : Number.intText? n = some t) :
    intText n = .ok t := by
  unfold intText
  rw [h]

/-- With room for the levels of the value, it can be written in the style. With less, there is not
enough room. -/
structure FillsRoom (style : Style) (v : Value) : Prop where
  enough : ∀ room, style.places * v.levels ≤ room → ∃ t, v.render style room = .ok t
  lacking : ∀ room, room < style.places * v.levels → v.render style room = .error .stackExhausted

section FillsRoom

variable {style : Style} {vs : List Value}

/-- There is a text for each of several values if there is room for the deepest. -/
theorem exists_renderAll_of_le (h : ∀ v ∈ vs, v.FillsRoom style) {room : Nat}
    (hroom : style.places * levelsAll vs ≤ room) : ∃ ts, renderAll style room vs = .ok ts := by
  induction vs with
  | nil => exact ⟨[], rfl⟩
  | cons v vs ih =>
    rw [List.forall_mem_cons] at h
    rw [levelsAll, ← Nat.mul_max_mul_left, Nat.max_le] at hroom
    obtain ⟨t, ht⟩ := h.1.enough room hroom.1
    obtain ⟨ts, hts⟩ := ih h.2 hroom.2
    exact ⟨t :: ts, by rw [renderAll, ht, hts]; rfl⟩

/-- If there is not, writing several values fails for want of room. -/
theorem renderAll_of_lt (h : ∀ v ∈ vs, v.FillsRoom style) {room : Nat}
    (hroom : room < style.places * levelsAll vs) :
    renderAll style room vs = .error .stackExhausted := by
  induction vs with
  | nil => exact absurd hroom (Nat.not_lt_zero room)
  | cons v vs ih =>
    rw [List.forall_mem_cons] at h
    rw [levelsAll, ← Nat.mul_max_mul_left] at hroom
    rw [renderAll]
    rcases Nat.lt_or_ge room (style.places * v.levels) with hfirst | hfirst
    · rw [h.1.lacking room hfirst]
      rfl
    · obtain ⟨t, ht⟩ := h.1.enough room hfirst
      rw [ht, ih h.2 (by omega)]
      rfl

/-- A list takes one more level than its items. -/
theorem FillsRoom.list (h : ∀ v ∈ vs, v.FillsRoom style) : (Value.list vs).FillsRoom style := by
  have hlevels : style.places * (Value.list vs).levels =
      style.places * levelsAll vs + style.places := by
    rw [levels, Nat.mul_add_one]
  constructor
  · intro room hroom
    rw [hlevels] at hroom
    obtain ⟨ts, hts⟩ := exists_renderAll_of_le h (Nat.le_sub_of_add_le hroom)
    exact ⟨listText style ts, by rw [render, if_neg (by omega), hts]; rfl⟩
  · intro room hroom
    rw [hlevels] at hroom
    rw [render]
    by_cases hown : room < style.places
    · exact if_pos hown
    · rw [if_neg hown, renderAll_of_lt h (by omega)]
      rfl

/-- A number or a symbol takes one level. -/
theorem fillsRoom_of_isAtom {v : Value} (hatom : v.isAtom = true) (h : v.isProgram = true) :
    v.FillsRoom style := by
  have hlevels : style.places * v.levels = style.places := by
    cases v with
    | list vs => cases hatom
    | _ => simp only [levels, Nat.mul_one]
  constructor
  · intro room hroom
    rw [hlevels] at hroom
    have hnot := Nat.not_lt.mpr hroom
    cases v with
    | int n =>
      rw [isProgram] at h
      obtain ⟨t, ht⟩ := Option.isSome_iff_exists.mp h
      exact ⟨t, by rw [render, if_neg hnot, intText_of_intText? ht]⟩
    | float x => exact ⟨_, by rw [render, if_neg hnot]⟩
    | sym x => cases style <;> exact ⟨_, by rw [render, if_neg hnot]⟩
    | _ => first | cases h | cases hatom
  · intro room hroom
    rw [hlevels] at hroom
    unfold render
    exact if_pos hroom

/-- **Programs can be written just if there is room for their levels.** -/
theorem fillsRoom_of_isProgram {v : Value} (h : v.isProgram = true) : v.FillsRoom style := by
  induction v using induction_items with
  | atom v hatom => exact fillsRoom_of_isAtom hatom h
  | function id name params body scope => cases h
  | tuple vs ih => cases h
  | list vs ih =>
    rw [isProgram, isProgramAll_eq_true_iff] at h
    exact .list fun v hv => ih v hv (h v hv)

/-- The integers of programs are no obstacle. -/
theorem render_ne_digitLimit {v : Value} (h : v.isProgram = true) (room : Nat) :
    v.render style room ≠ .error .digitLimit := by
  have hfills : v.FillsRoom style := fillsRoom_of_isProgram h
  rcases Nat.lt_or_ge room (style.places * v.levels) with hroom | hroom
  · rw [hfills.lacking room hroom]
    nofun
  · obtain ⟨t, ht⟩ := hfills.enough room hroom
    rw [ht]
    nofun

theorem renderAll_ne_digitLimit (h : ∀ v ∈ vs, v.isProgram = true) (room : Nat) :
    renderAll style room vs ≠ .error .digitLimit := by
  have hfills : ∀ v ∈ vs, v.FillsRoom style := fun v hv => fillsRoom_of_isProgram (h v hv)
  rcases Nat.lt_or_ge room (style.places * levelsAll vs) with hroom | hroom
  · rw [renderAll_of_lt hfills hroom]
    nofun
  · obtain ⟨ts, hts⟩ := exists_renderAll_of_le hfills hroom
    rw [hts]
    nofun

end FillsRoom

end Value

end SmallLisp
