import Mathlib.Data.List.Infix
import SmallLisp.Text.Replace

/-!
# Replaced text

A text is a sequence of occurrences of the pattern and of characters at which none begins, and
replacing goes over it piece by piece. A character that the pattern does not have divides a text
into two parts that are replaced each for itself.

## Main results

* `replaceAll_pattern_append`, `replaceAll_cons`: the two steps of replacing
* `replaceAll_induction`: induction over the pieces of a text
* `replaceAll_append_cons`: the parts before and after a character that is not in the pattern
* `length_lt_length_replaceAll`: an occurrence that is replaced by more makes a text longer
-/

namespace SmallLisp.Text

variable {pattern : List Char} (new : List Char)

theorem replaceFrom_append (skipped cs : List Char) :
    replaceFrom pattern new skipped.length (skipped ++ cs) = replaceAll pattern new cs := by
  induction skipped with
  | nil => rfl
  | cons c skipped ih => rw [List.length_cons, List.cons_append, replaceFrom, ih]

/-- An occurrence at the front is replaced, and the rest after it. -/
theorem replaceAll_pattern_append (hp : pattern ≠ []) (cs : List Char) :
    replaceAll pattern new (pattern ++ cs) = new ++ replaceAll pattern new cs := by
  cases pattern with
  | nil => exact absurd rfl hp
  | cons c p =>
    have hprefix : (c :: p).isPrefixOf (c :: (p ++ cs)) = true :=
      List.isPrefixOf_iff_prefix.mpr (List.prefix_append (c :: p) cs)
    rw [replaceAll, List.cons_append, replaceFrom, if_pos hprefix, List.length_cons,
      Nat.add_sub_cancel, replaceFrom_append]

/-- A character at which no occurrence begins stays. -/
theorem replaceAll_cons {c : Char} {cs : List Char} (h : ¬ pattern <+: c :: cs) :
    replaceAll pattern new (c :: cs) = c :: replaceAll pattern new cs := by
  rw [replaceAll, replaceFrom, if_neg (fun hp => h (List.isPrefixOf_iff_prefix.mp hp)), replaceAll]

/-- What holds of the empty text, and of a text after the pattern or after a character at which the
pattern does not begin, holds of all texts. -/
theorem replaceAll_induction {motive : List Char → Prop} (hp : pattern ≠ []) (nil : motive [])
    (occurrence : ∀ cs, motive cs → motive (pattern ++ cs))
    (other : ∀ c cs, ¬ pattern <+: c :: cs → motive cs → motive (c :: cs)) (cs : List Char) :
    motive cs := by
  by_cases h : pattern <+: cs
  · obtain ⟨rest, rfl⟩ := h
    have hlt : rest.length < (pattern ++ rest).length := by
      rw [List.length_append]
      exact Nat.lt_add_of_pos_left (List.length_pos_iff.mpr hp)
    exact occurrence rest (replaceAll_induction hp nil occurrence other rest)
  · cases cs with
    | nil => exact nil
    | cons c cs => exact other c cs h (replaceAll_induction hp nil occurrence other cs)
termination_by cs.length

/-- A text without occurrences stays as it is. -/
theorem replaceAll_of_not_infix {cs : List Char} (h : ¬ pattern <:+: cs) :
    replaceAll pattern new cs = cs := by
  induction cs with
  | nil => rfl
  | cons c cs ih =>
    rw [List.infix_cons_iff, not_or] at h
    rw [replaceAll_cons new h.1, ih h.2]

theorem replaceAll_self (hp : pattern ≠ []) (cs : List Char) :
    replaceAll pattern pattern cs = cs := by
  induction cs using replaceAll_induction hp with
  | nil => rfl
  | occurrence cs ih => rw [replaceAll_pattern_append _ hp, ih]
  | other c cs h ih => rw [replaceAll_cons _ h, ih]

/-- **A character that is not in the pattern divides a text**: no occurrence lies across it. -/
theorem replaceAll_append_cons (hp : pattern ≠ []) {c : Char} (hc : c ∉ pattern)
    (ds cs : List Char) :
    replaceAll pattern new (ds ++ c :: cs) =
      replaceAll pattern new ds ++ c :: replaceAll pattern new cs := by
  -- an occurrence that begins before the character also ends before it
  have hbefore {ds : List Char} (h : pattern <+: ds ++ c :: cs) : pattern <+: ds := by
    rcases List.prefix_or_prefix_of_prefix h (List.prefix_append ds _) with h' | ⟨rest, rfl⟩
    · exact h'
    · rcases List.prefix_cons_iff.mp ((List.prefix_append_right_inj ds).mp h) with
        rfl | ⟨rest, rfl, -⟩
      · rw [List.append_nil]
      · simp at hc
  induction ds using replaceAll_induction hp with
  | nil =>
    have hnone : ¬ pattern <+: c :: cs := fun h => hp (List.prefix_nil.mp (hbefore h))
    rw [List.nil_append, replaceAll_cons new hnone, replaceAll_nil, List.nil_append]
  | occurrence ds ih =>
    rw [List.append_assoc, replaceAll_pattern_append new hp, ih, replaceAll_pattern_append new hp,
      List.append_assoc]
  | other d ds h ih =>
    have hall : ¬ pattern <+: d :: (ds ++ c :: cs) := fun hall => h (hbefore hall)
    rw [List.cons_append, replaceAll_cons new hall, ih, replaceAll_cons new h, List.cons_append]

/-- A replacement that is no shorter than the pattern does not make the text shorter. -/
theorem length_le_length_replaceAll (hp : pattern ≠ []) {new : List Char}
    (hlen : pattern.length ≤ new.length) (cs : List Char) :
    cs.length ≤ (replaceAll pattern new cs).length := by
  induction cs using replaceAll_induction hp with
  | nil => exact Nat.le_refl 0
  | occurrence cs ih =>
    rw [replaceAll_pattern_append new hp, List.length_append, List.length_append]
    exact Nat.add_le_add hlen ih
  | other c cs h ih =>
    rw [replaceAll_cons new h]
    exact Nat.succ_le_succ ih

/-- **An occurrence that is replaced by more makes the text longer.** -/
theorem length_lt_length_replaceAll (hp : pattern ≠ []) {new cs : List Char}
    (hlen : pattern.length < new.length) (h : pattern <:+: cs) :
    cs.length < (replaceAll pattern new cs).length := by
  induction cs using replaceAll_induction hp with
  | nil => exact absurd (List.infix_nil.mp h) hp
  | occurrence cs ih =>
    rw [replaceAll_pattern_append new hp, List.length_append, List.length_append]
    exact Nat.add_lt_add_of_lt_of_le hlen (length_le_length_replaceAll hp hlen.le cs)
  | other c cs hc ih =>
    rw [replaceAll_cons new hc]
    exact Nat.succ_lt_succ (ih ((List.infix_cons_iff.mp h).resolve_left hc))

end SmallLisp.Text
