import Mathlib.Logic.Function.Basic
import Mathlib.Data.List.Nodup

/-!
# Writes to separate cells

A store is a function from cells to what they hold. A list of writes that go to
DIFFERENT cells can be looked at one write at a time: each finds its own cell as it was
at the start (`applyAll_of_notMem`), and leaves there what it wrote (`applyAll_of_mem`).
-/

namespace Cells

variable {ι α : Type} [DecidableEq ι]

/-- A store: what a cell holds, or nothing. -/
abbrev Store (ι α : Type) := ι → Option α

/-- A write to one cell: new contents, or nothing to clear it. -/
structure Write (ι α : Type) where
  cell : ι
  content : Option α

def Write.apply (m : Store ι α) (w : Write ι α) : Store ι α := Function.update m w.cell w.content

def applyAll (m : Store ι α) (ws : List (Write ι α)) : Store ι α := ws.foldl Write.apply m

theorem applyAll_cons (m : Store ι α) (w : Write ι α) (ws : List (Write ι α)) :
    applyAll m (w :: ws) = applyAll (w.apply m) ws := rfl

/-- A cell that nobody writes to stays as it is. -/
theorem applyAll_of_notMem {c : ι} {ws : List (Write ι α)} (h : c ∉ ws.map Write.cell)
    (m : Store ι α) : applyAll m ws c = m c := by
  induction ws generalizing m with
  | nil => rfl
  | cons w ws ih =>
    simp only [List.map_cons, List.mem_cons, not_or] at h
    rw [applyAll_cons, ih h.2]
    exact Function.update_of_ne h.1 _ _

/-- A cell that is written to once holds what was written. -/
theorem applyAll_of_mem {w : Write ι α} {ws : List (Write ι α)}
    (hcells : (ws.map Write.cell).Nodup) (hw : w ∈ ws) (m : Store ι α) :
    applyAll m ws w.cell = w.content := by
  induction ws generalizing m with
  | nil => exact absurd hw List.not_mem_nil
  | cons w' ws ih =>
    obtain ⟨hnotMem, hnodup⟩ := List.nodup_cons.mp hcells
    rw [applyAll_cons]
    rcases List.mem_cons.mp hw with rfl | hmem
    · rw [applyAll_of_notMem hnotMem]
      exact Function.update_self _ _ _
    · exact ih hnodup hmem _

end Cells
