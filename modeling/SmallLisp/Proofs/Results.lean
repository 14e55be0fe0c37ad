import Mathlib.Data.List.Forall2

/-!
# Results

A result is a value or an error. Results one after another give all their values, or the error of
the first that fails. A result that is had within a room settles if more room does not change it.

## Main definitions

* `Settles`: a result that stays the same once there is room for it

## Main results

* `mapM_eq_ok_iff`, `mapM_eq_error_iff`: what results one after another come to
-/

namespace SmallLisp

/-! ## Results one after another -/

theorem map_eq_ok_iff {ε α β : Type} {r : Except ε α} {f : α → β} {b : β} :
    r.map f = .ok b ↔ ∃ a, r = .ok a ∧ f a = b := by
  cases r <;> simp [Except.map]

theorem map_eq_error_iff {ε α β : Type} {r : Except ε α} {f : α → β} {e : ε} :
    r.map f = .error e ↔ r = .error e := by
  cases r <;> simp [Except.map]

theorem mapError_eq_ok_iff {ε ε' α : Type} {r : Except ε α} {f : ε → ε'} {a : α} :
    r.mapError f = .ok a ↔ r = .ok a := by
  cases r <;> simp [Except.mapError]

theorem mapError_eq_error_iff {ε ε' α : Type} {r : Except ε α} {f : ε → ε'} {e : ε'} :
    r.mapError f = .error e ↔ ∃ e', r = .error e' ∧ f e' = e := by
  cases r <;> simp [Except.mapError]

theorem mapM_cons_of_ok {ε α β : Type} {f : α → Except ε β} {a : α} {b : β} (h : f a = .ok b)
    (as : List α) : (a :: as).mapM f = (as.mapM f).map (b :: ·) := by
  rw [List.mapM_cons, h]
  cases as.mapM f <;> rfl

theorem mapM_cons_of_error {ε α β : Type} {f : α → Except ε β} {a : α} {e : ε}
    (h : f a = .error e) (as : List α) : (a :: as).mapM f = .error e := by
  rw [List.mapM_cons, h]
  rfl

/-- Computations one by one all succeed just if each does. -/
theorem mapM_eq_ok_iff {ε α β : Type} {f : α → Except ε β} {as : List α} {bs : List β} :
    as.mapM f = .ok bs ↔ List.Forall₂ (fun a b => f a = .ok b) as bs := by
  induction as generalizing bs with
  | nil =>
    rw [List.mapM_nil, List.forall₂_nil_left_iff]
    exact ⟨fun h => (Except.ok.inj h).symm, fun h => congrArg _ h.symm⟩
  | cons a as ih =>
    rw [List.forall₂_cons_left_iff]
    cases ha : f a with
    | error e =>
      rw [mapM_cons_of_error ha]
      simp
    | ok b =>
      simp only [mapM_cons_of_ok ha, ← ih]
      cases as.mapM f with
      | error e => simp [Except.map]
      | ok cs => simp [Except.map, eq_comm]

/-- If every item has a result, then so has the sequence. -/
theorem exists_mapM_eq_ok {ε α β : Type} {f : α → Except ε β} {as : List α}
    (h : ∀ a ∈ as, ∃ b, f a = .ok b) : ∃ bs, as.mapM f = .ok bs := by
  induction as with
  | nil => exact ⟨[], rfl⟩
  | cons a as ih =>
    rw [List.forall_mem_cons] at h
    obtain ⟨b, hb⟩ := h.1
    obtain ⟨bs, hbs⟩ := ih h.2
    exact ⟨b :: bs, by rw [mapM_cons_of_ok hb, hbs]; rfl⟩

/-- A sequence of results fails just as the first of them that does. -/
theorem mapM_eq_error_iff {ε α β : Type} {f : α → Except ε β} {as : List α} {e : ε} :
    as.mapM f = .error e ↔ ∃ earlier a later, as = earlier ++ a :: later ∧
      (∀ x ∈ earlier, ∃ b, f x = .ok b) ∧ f a = .error e := by
  induction as with
  | nil => simp [pure, Except.pure]
  | cons a as ih =>
    cases ha : f a with
    | error e' =>
      rw [mapM_cons_of_error ha]
      constructor
      · intro h
        exact ⟨[], a, as, rfl, List.forall_mem_nil _, ha.trans (congrArg _ (Except.error.inj h))⟩
      · rintro ⟨_ | ⟨_, earlier⟩, _, _, heq, hearlier, hb⟩
        · cases heq
          exact congrArg _ (Except.error.inj (ha.symm.trans hb))
        · cases heq
          obtain ⟨b, hb⟩ := hearlier a (.head _)
          exact nomatch ha.symm.trans hb
    | ok b =>
      have hrest : (a :: as).mapM f = .error e ↔ as.mapM f = .error e := by
        rw [mapM_cons_of_ok ha]
        cases as.mapM f <;> simp [Except.map]
      rw [hrest, ih]
      constructor
      · rintro ⟨earlier, c, later, rfl, hearlier, hc⟩
        exact ⟨a :: earlier, c, later, rfl, List.forall_mem_cons.mpr ⟨⟨b, ha⟩, hearlier⟩, hc⟩
      · rintro ⟨_ | ⟨_, earlier⟩, c, later, heq, hearlier, hc⟩
        · cases heq
          exact nomatch ha.symm.trans hc
        · cases heq
          exact ⟨earlier, c, later, rfl, (List.forall_mem_cons.mp hearlier).2, hc⟩

/-! ## Results that settle -/

/-- The result is the same in all more room, once it is anything but the error `lack`. -/
def Settles {ε α : Type} (lack : ε) (f : Nat → Except ε α) : Prop :=
  ∀ ⦃m n : Nat⦄, m ≤ n → f m ≠ .error lack → f n = f m

namespace Settles

variable {ε α β : Type} {lack : ε} {f : Nat → Except ε α}

theorem const (r : Except ε α) : Settles lack fun _ => r :=
  fun _ _ _ _ => rfl

/-- In any two rooms that are enough, the result is the same. -/
theorem eq_of_ne (h : Settles lack f) {m n : Nat} (hm : f m ≠ .error lack)
    (hn : f n ≠ .error lack) : f m = f n := by
  rcases Nat.le_total m n with hle | hle
  · exact (h hle hm).symm
  · exact h hle hn

/-- What is had in a room is had in all more room. -/
theorem ok_of_le (h : Settles lack f) {m n : Nat} (hle : m ≤ n) {a : α} (hm : f m = .ok a) :
    f n = .ok a :=
  (h hle (by rw [hm]; nofun)).trans hm

/-- Two computations in turn settle if both do. -/
theorem bind {g : α → Nat → Except ε β} (hf : Settles lack f) (hg : ∀ a, Settles lack (g a)) :
    Settles lack fun room => f room >>= fun a => g a room := by
  intro m n hle h
  cases hm : f m with
  | error e =>
    have hne : f m ≠ .error lack := fun he => h (by simp only [he]; rfl)
    simp only [hf hle hne, hm]
    rfl
  | ok a =>
    have hn : f n = .ok a := hf.ok_of_le hle hm
    simp only [hm] at h
    simp only [hn, hm]
    exact hg a hle h

theorem map (hf : Settles lack f) (g : α → β) : Settles lack fun room => (f room).map g := by
  intro m n hle h
  have hne : f m ≠ .error lack := fun he => h (by simp only [he]; rfl)
  simp only [hf hle hne]

/-- A part of the room may be taken first. -/
theorem sub (hf : Settles lack f) (places : Nat) : Settles lack fun room => f (room - places) :=
  fun _ _ hle h => hf (Nat.sub_le_sub_right hle places) h

/-- There may have to be some places that are taken first. -/
theorem taking (hf : Settles lack f) (places : Nat) :
    Settles lack fun room => if room < places then .error lack else f (room - places) := by
  intro m n hle h
  by_cases hm : m < places
  · exact absurd (if_pos hm) h
  · have hn : ¬ n < places := fun hlt => hm (Nat.lt_of_le_of_lt hle hlt)
    simp only [if_neg hm] at h
    simp only [if_neg hm, if_neg hn]
    exact hf.sub places hle h

end Settles

end SmallLisp
