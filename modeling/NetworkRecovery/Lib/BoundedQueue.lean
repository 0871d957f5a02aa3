import Mathlib.Data.List.DropRight

/-!
# Bounded queues

A queue with room for so many elements, out of which a new one pushes the oldest when it is full.
Push by push it holds the last elements, as many as it has room for (`BoundedQueue.items_push`).
-/

/-- At most `capacity` elements, the oldest first. -/
structure BoundedQueue (α : Type) (capacity : Nat) where
  items : List α
  bounded : items.length ≤ capacity

namespace BoundedQueue

variable {α : Type} {n : Nat}

/-! ## The end of a list -/

theorem length_rtake_le (l : List α) (n : Nat) : (l.rtake n).length ≤ n := by
  rw [List.rtake, List.length_drop]
  omega

/-- What is left behind of two lists, one after the other. -/
theorem rtake_append (front back : List α) (n : Nat) :
    (front ++ back).rtake n = front.rtake (n - back.length) ++ back.rtake n := by
  have hfront : front.drop (front.length + back.length - n) =
      front.drop (front.length - (n - back.length)) := by
    by_cases hroom : back.length ≤ n
    · congr 1
      omega
    · rw [List.drop_of_length_le (by omega), List.drop_of_length_le (by omega)]
  have hback : front.length + back.length - n - front.length = back.length - n := by omega
  unfold List.rtake
  rw [List.drop_append, List.length_append, hfront, hback]

/-- What was pushed out before plays no part. -/
theorem rtake_rtake_append (front back : List α) (n : Nat) :
    (front.rtake n ++ back).rtake n = (front ++ back).rtake n := by
  rw [rtake_append, rtake_append]
  congr 1
  unfold List.rtake
  rw [List.drop_drop, List.length_drop]
  congr 1
  omega

/-- Where only the elements behind a place count, only they are left. -/
theorem filter_rtake_append {p : α → Bool} {front back : List α} (n : Nat)
    (hfront : ∀ a ∈ front.rtake n, p a = false) (hback : ∀ a ∈ back, p a = true) :
    ((front ++ back).rtake n).filter p = back.rtake n := by
  have hgone : (front.rtake (n - back.length)).filter p = [] := by
    refine List.filter_eq_nil_iff.mpr fun a ha => ?_
    rw [hfront a ((List.drop_suffix_drop_left front (by omega)).subset ha)]
    exact Bool.false_ne_true
  have hkept : (back.rtake n).filter p = back.rtake n :=
    List.filter_eq_self.mpr fun a ha => hback a (List.mem_of_mem_drop ha)
  rw [rtake_append, List.filter_append, hgone, hkept, List.nil_append]

/-! ## Pushing -/

def empty : BoundedQueue α n := ⟨[], Nat.zero_le n⟩

def push (queue : BoundedQueue α n) (a : α) : BoundedQueue α n where
  items := (queue.items ++ [a]).rtake n
  bounded := length_rtake_le _ n

/-- What held the last elements of a list holds the last ones of the longer list. -/
theorem items_push {queue : BoundedQueue α n} {l : List α} (h : queue.items = l.rtake n) (a : α) :
    (queue.push a).items = (l ++ [a]).rtake n := by
  change (queue.items ++ [a]).rtake n = _
  rw [h, rtake_rtake_append]

end BoundedQueue
