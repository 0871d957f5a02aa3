import Mathlib.Data.List.DropRight
import Mathlib.Data.List.Infix

/-!
# So many in a row

A counter that goes up with every element of one kind and back to zero with every other one
counts how many of that kind a list ends with (`streak`). Some of them in a row, anywhere in
the list, are what the counter has reached at some point (`replicate_infix_concat`).
-/

namespace Streaks

variable {α : Type} [DecidableEq α] {a : α}

/-- How many `a` the list ends with. -/
def streak (a : α) (l : List α) : Nat := (l.rtakeWhile (· = a)).length

@[simp] theorem streak_nil : streak a [] = 0 := rfl

@[simp] theorem streak_concat_self (l : List α) : streak a (l ++ [a]) = streak a l + 1 := by
  unfold streak
  rw [List.rtakeWhile_concat_pos _ _ _ (by simp), List.length_append, List.length_singleton]

theorem streak_concat_of_ne {b : α} (l : List α) (h : b ≠ a) : streak a (l ++ [b]) = 0 := by
  unfold streak
  rw [List.rtakeWhile_concat_neg _ _ _ (by simpa using h), List.length_nil]

theorem streak_append_replicate (l : List α) (n : Nat) :
    streak a (l ++ List.replicate n a) = streak a l + n := by
  induction n with
  | zero => simp
  | succ n ih => rw [List.replicate_succ', ← List.append_assoc, streak_concat_self, ih, Nat.add_assoc]

theorem replicate_suffix_iff (n : Nat) (l : List α) : List.replicate n a <:+ l ↔ n ≤ streak a l := by
  constructor
  · rintro ⟨front, rfl⟩
    rw [streak_append_replicate]
    exact Nat.le_add_left n _
  · intro h
    have hall : l.rtakeWhile (· = a) = List.replicate (streak a l) a :=
      List.eq_replicate_of_mem fun b hb => by simpa using List.mem_rtakeWhile_imp hb
    refine List.IsSuffix.trans ⟨List.replicate (streak a l - n) a, ?_⟩ (List.rtakeWhile_suffix (· = a) l)
    rw [← List.replicate_add, Nat.sub_add_cancel h, hall]

/-- What one element more adds. -/
theorem replicate_infix_concat (n : Nat) (l : List α) (b : α) :
    List.replicate n a <:+: l ++ [b] ↔ List.replicate n a <:+: l ∨ n ≤ streak a (l ++ [b]) := by
  rw [List.infix_concat_iff, replicate_suffix_iff, or_comm]

end Streaks
