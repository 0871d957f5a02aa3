import Mathlib.Order.MinMax
import Mathlib.Data.List.Basic

/-!
# High-water marks

A mark that goes up to whatever it is shown and never goes down again. Where it
ends depends on WHICH levels it was shown, not on their order and not on how often
(`highWater_congr`).
-/

section HighWater

variable {α : Type*} [LinearOrder α]

/-- The mark after it was shown some levels. -/
def highWater (start : α) (levels : List α) : α := levels.foldl max start

theorem highWater_append (start : α) (levels more : List α) :
    highWater start (levels ++ more) = highWater (highWater start levels) more :=
  List.foldl_append

/-- The mark is the least bound of its start and its levels. -/
theorem highWater_le_iff {start bound : α} {levels : List α} :
    highWater start levels ≤ bound ↔ start ≤ bound ∧ ∀ level ∈ levels, level ≤ bound := by
  induction levels generalizing start with
  | nil => simp [highWater]
  | cons level levels ih =>
    have hstep : highWater start (level :: levels) = highWater (max start level) levels := rfl
    rw [hstep, ih, max_le_iff, List.forall_mem_cons, and_assoc]

theorem le_highWater (start : α) (levels : List α) : start ≤ highWater start levels :=
  (highWater_le_iff.mp le_rfl).1

/-- The mark is at its start or at one of its levels. -/
theorem highWater_mem (start : α) (levels : List α) :
    highWater start levels = start ∨ highWater start levels ∈ levels := by
  induction levels generalizing start with
  | nil => exact .inl rfl
  | cons level levels ih =>
    rcases ih (max start level) with hmark | hmark
    · rcases max_choice start level with hmax | hmax
      · exact .inl (hmark.trans hmax)
      · exact .inr (List.mem_cons.mpr (.inl (hmark.trans hmax)))
    · exact .inr (List.mem_cons_of_mem _ hmark)

/-- The same levels, in any order and any number, leave the same mark. -/
theorem highWater_congr (start : α) {levels levels' : List α}
    (h : ∀ level, level ∈ levels ↔ level ∈ levels') :
    highWater start levels = highWater start levels' := by
  apply eq_of_forall_ge_iff
  intro bound
  rw [highWater_le_iff, highWater_le_iff]
  simp only [h]

end HighWater
