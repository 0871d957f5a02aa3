import Mathlib.Algebra.Order.Group.Defs
import Mathlib.Data.List.Basic

/-!
# Sliding windows

A limiter that keeps the times of the past and forgets those that have left
its window. `Keeps width now times kept` says what makes forgetting sound:
everything that was dropped lies more than a window before the clock. Then the
bound that is checked when a time is about to be added carries over to EVERY
closed interval of the window's width (`within_concat_le`), not only to the
one that ends at the check.
-/

namespace SlidingWindow

variable {α : Type} [AddCommGroup α] [LinearOrder α] [IsOrderedAddMonoid α]

/-- The times in the closed interval of the given width that starts at `a`. -/
def within (a width : α) (times : List α) : List α :=
  times.filter fun t => a ≤ t ∧ t ≤ a + width

/-- `kept` holds every time that a window ending now or later can reach. -/
def Keeps (width now : α) (times kept : List α) : Prop :=
  ∃ horizon ≤ now - width, kept = times.filter (horizon ≤ ·)

theorem Keeps.later {width now later : α} {times kept : List α} (h : Keeps width now times kept)
    (hle : now ≤ later) : Keeps width later times kept := by
  obtain ⟨horizon, hhorizon, hkept⟩ := h
  exact ⟨horizon, hhorizon.trans (sub_le_sub_right hle width), hkept⟩

omit [IsOrderedAddMonoid α] in
theorem keeps_nil (width now : α) : Keeps width now [] [] := ⟨now - width, le_rfl, rfl⟩

omit [IsOrderedAddMonoid α] in
/-- Forgetting what has left the window leaves what is in it. -/
theorem Keeps.prune {width now : α} {times kept : List α} (h : Keeps width now times kept) :
    kept.filter (now - width ≤ ·) = times.filter (now - width ≤ ·) := by
  obtain ⟨horizon, hhorizon, rfl⟩ := h
  rw [List.filter_filter]
  refine List.filter_congr fun t _ => ?_
  by_cases ht : now - width ≤ t
  · simp [ht, hhorizon.trans ht]
  · simp [ht]

omit [IsOrderedAddMonoid α] in
theorem Keeps.pruned {width now : α} {times kept : List α} (h : Keeps width now times kept) :
    Keeps width now times (kept.filter (now - width ≤ ·)) :=
  ⟨now - width, le_rfl, h.prune⟩

/-- A time that is not in the past is kept. -/
theorem Keeps.record {width now : α} {times kept : List α} (hwidth : 0 ≤ width)
    (h : Keeps width now times kept) : Keeps width now (times ++ [now]) (kept ++ [now]) := by
  obtain ⟨horizon, hhorizon, rfl⟩ := h
  refine ⟨horizon, hhorizon, ?_⟩
  have hin : horizon ≤ now := hhorizon.trans (sub_le_self now hwidth)
  rw [List.filter_append, List.filter_cons_of_pos (by simpa using hin), List.filter_nil]

/-- One more time, not before the check, keeps the bound on every interval. -/
theorem within_concat_le {width now t : α} {times : List α} {bound : Nat} (hle : now ≤ t)
    (hall : ∀ a, (within a width times).length ≤ bound)
    (hcheck : (times.filter (now - width ≤ ·)).length < bound) (a : α) :
    (within a width (times ++ [t])).length ≤ bound := by
  unfold within
  rw [List.filter_append, List.length_append]
  by_cases hin : a ≤ t ∧ t ≤ a + width
  · -- the interval reaches no further back than the window of the check
    have hback : now - width ≤ a := by
      have hend : now ≤ a + width := hle.trans hin.2
      exact sub_le_iff_le_add.mpr hend
    have hfewer : (times.filter fun t => a ≤ t ∧ t ≤ a + width).length ≤
        (times.filter (now - width ≤ ·)).length := by
      rw [← List.countP_eq_length_filter, ← List.countP_eq_length_filter]
      refine List.countP_mono_left fun s _ hs => ?_
      have hboth : a ≤ s ∧ s ≤ a + width := by simpa using hs
      simpa using hback.trans hboth.1
    rw [List.filter_cons_of_pos (by simpa using hin), List.filter_nil, List.length_singleton]
    omega
  · rw [List.filter_cons_of_neg (by simpa using hin), List.filter_nil, List.length_nil]
    exact hall a

end SlidingWindow
