import Mathlib.Data.List.Chain
import Mathlib.Data.List.Nodup

/-!
# Walks along pointers

From a place the walk goes to where the place points, and it stops at a place whose key it has
remembered. The pointers may run in circles: as only finitely many places point anywhere, there are
ever fewer of them that the walk has not been to, so that it ends. What it has come through are
places of different keys, each of which points to the next (`isChain_walk`).
-/

namespace PointerWalk

variable {P K : Type} [DecidableEq K]

/-- Where the places point, and the keys under which they are remembered; only places of a known key
point anywhere. -/
structure Pointers (P K : Type) where
  key : P → K
  next : P → Option P
  known : List K
  key_mem : ∀ {a b}, next a = some b → key a ∈ known

/-- How many known keys have not been met. -/
def fresh (known seen : List K) : Nat := (known.filter (· ∉ seen)).length

/-- How far the walk can still go: at most to the fresh places, and to one that points nowhere. -/
def stepsLeft (known seen : List K) (here : Option P) : Nat :=
  fresh known seen + if here.isSome then 1 else 0

theorem fresh_le (known seen : List K) (key : K) : fresh known (key :: seen) ≤ fresh known seen := by
  unfold fresh
  refine (List.monotone_filter_right known fun k hk => ?_).length_le
  simp only [List.mem_cons, not_or, decide_eq_true_eq] at hk ⊢
  exact hk.2

theorem fresh_lt {known seen : List K} {key : K} (hknown : key ∈ known) (hseen : key ∉ seen) :
    fresh known (key :: seen) < fresh known seen := by
  have hsplit : known.filter (· ∉ key :: seen) = (known.filter (· ∉ seen)).filter (· ≠ key) := by
    rw [List.filter_filter]
    refine List.filter_congr fun k _ => ?_
    simp [not_or]
  unfold fresh
  rw [hsplit]
  exact List.length_filter_lt_length_iff_exists.mpr
    ⟨key, List.mem_filter.mpr ⟨hknown, decide_eq_true hseen⟩, by simp⟩

variable (pointers : Pointers P K)

/-- A step leaves fewer steps. -/
theorem stepsLeft_lt {seen : List K} {a : P} (hseen : pointers.key a ∉ seen) :
    stepsLeft pointers.known (pointers.key a :: seen) (pointers.next a) <
      stepsLeft pointers.known seen (some a) := by
  unfold stepsLeft
  rw [if_pos Option.isSome_some]
  cases hnext : pointers.next a with
  | none =>
    have hle := fresh_le pointers.known seen (pointers.key a)
    rw [if_neg (by simp)]
    omega
  | some b =>
    have hlt := fresh_lt (pointers.key_mem hnext) hseen
    rw [if_pos Option.isSome_some]
    omega

/-- The places that the walk comes through. -/
def walk (seen : List K) (here : Option P) : List P :=
  match here with
  | none => []
  | some a =>
    if _ : pointers.key a ∈ seen then []
    else a :: walk (pointers.key a :: seen) (pointers.next a)
termination_by stepsLeft pointers.known seen here
decreasing_by exact stepsLeft_lt pointers ‹_›

variable {pointers}

@[simp] theorem walk_none (seen : List K) : walk pointers seen none = [] := by
  rw [walk]

theorem walk_seen {seen : List K} {a : P} (h : pointers.key a ∈ seen) :
    walk pointers seen (some a) = [] := by
  rw [walk, dif_pos h]

theorem walk_fresh {seen : List K} {a : P} (h : pointers.key a ∉ seen) :
    walk pointers seen (some a) = a :: walk pointers (pointers.key a :: seen) (pointers.next a) := by
  rw [walk, dif_neg h]

theorem key_not_mem_of_mem_walk {seen : List K} {here : Option P} {a : P}
    (h : a ∈ walk pointers seen here) : pointers.key a ∉ seen := by
  induction seen, here using walk.induct pointers with
  | case1 seen => simp at h
  | case2 seen b hb => simp [walk_seen hb] at h
  | case3 seen b hb ih =>
    rw [walk_fresh hb] at h
    cases List.mem_cons.mp h with
    | inl hhead =>
      rw [hhead]
      exact hb
    | inr htail =>
      intro hseen
      exact ih htail (List.mem_cons_of_mem _ hseen)

/-- The walk does not come to a key twice. -/
theorem nodup_walk (seen : List K) (here : Option P) :
    ((walk pointers seen here).map pointers.key).Nodup := by
  induction seen, here using walk.induct pointers with
  | case1 seen => simp
  | case2 seen a ha => simp [walk_seen ha]
  | case3 seen a ha ih =>
    rw [walk_fresh ha, List.map_cons, List.nodup_cons]
    refine ⟨?_, ih⟩
    intro hmem
    obtain ⟨b, hb, hkey⟩ := List.mem_map.mp hmem
    apply key_not_mem_of_mem_walk hb
    rw [hkey]
    exact List.mem_cons_self

theorem head?_walk {seen : List K} {here : Option P} {a : P}
    (h : (walk pointers seen here).head? = some a) : here = some a := by
  cases here with
  | none => simp at h
  | some b =>
    by_cases hb : pointers.key b ∈ seen
    · simp [walk_seen hb] at h
    · rwa [walk_fresh hb, List.head?_cons] at h

/-- Each place points to the next. -/
theorem isChain_walk (seen : List K) (here : Option P) :
    (walk pointers seen here).IsChain fun a b => pointers.next a = some b := by
  induction seen, here using walk.induct pointers with
  | case1 seen => simp
  | case2 seen a ha => simp [walk_seen ha]
  | case3 seen a ha ih =>
    rw [walk_fresh ha, List.isChain_cons]
    exact ⟨fun b hb => head?_walk hb, ih⟩

/-- The walk goes through the known places, and perhaps to one more. -/
theorem length_walk_le (seen : List K) (here : Option P) :
    (walk pointers seen here).length ≤ stepsLeft pointers.known seen here := by
  induction seen, here using walk.induct pointers with
  | case1 seen => simp
  | case2 seen a ha => simp [walk_seen ha]
  | case3 seen a ha ih =>
    have hstep := stepsLeft_lt pointers ha
    rw [walk_fresh ha, List.length_cons]
    omega

/-- As far as a walk is followed, it goes through different keys, each place pointing to the next. -/
theorem prefix_walk {seen : List K} {here : Option P} {path : List P}
    (h : path <+: walk pointers seen here) :
    (path.map pointers.key).Nodup ∧ path.IsChain fun a b => pointers.next a = some b :=
  ⟨(h.sublist.map pointers.key).nodup (nodup_walk seen here),
    List.IsChain.prefix (isChain_walk seen here) h⟩

end PointerWalk
