import Mathlib.Data.List.Chain

/-!
# Anchored batches

A list is cut into consecutive batches, greedily: a batch is opened by its first
element, its anchor, and takes every next element that is near the ANCHOR, up to
the first one that is not, which opens the next batch. Nothing is asked of the
relation.

`Anchored` says what a list of batches must satisfy to be the cut of its
concatenation, and `batches_flatten` that nothing else is needed; so a cut may be
made all at once or along the way.
-/

namespace Batching

variable {α : Type} (near : α → α → Bool)

/-- The batches from inside one: its anchor, what it holds, and what follows. -/
def batchesFrom (anchor : α) : List α → List α → List (List α)
  | current, [] => [current]
  | current, x :: xs =>
    if near anchor x then batchesFrom anchor (current ++ [x]) xs
    else current :: batchesFrom x [x] xs

/-- The batches of a list. -/
def batches : List α → List (List α)
  | [] => []
  | x :: xs => batchesFrom near x [x] xs

/-- A batch: its anchor, and elements near it. -/
def IsBatch (batch : List α) : Prop :=
  ∃ anchor rest, batch = anchor :: rest ∧ ∀ x ∈ rest, near anchor x = true

theorem IsBatch.ne_nil {near : α → α → Bool} {batch : List α} (h : IsBatch near batch) :
    batch ≠ [] := by
  obtain ⟨anchor, rest, rfl, -⟩ := h
  exact List.cons_ne_nil _ _

/-- One batch after another: the second is opened by an element that is not near
the anchor of the first. -/
def Apart (first second : List α) : Prop :=
  ∀ a ∈ first.head?, ∀ b ∈ second.head?, near a b = false

/-- A list of batches that is the cut of its concatenation. -/
structure Anchored (bs : List (List α)) : Prop where
  batch : ∀ b ∈ bs, IsBatch near b
  apart : bs.IsChain (Apart near)

variable {near}

theorem flatten_batchesFrom (anchor : α) (current xs : List α) :
    (batchesFrom near anchor current xs).flatten = current ++ xs := by
  induction xs generalizing anchor current with
  | nil => simp [batchesFrom]
  | cons x xs ih =>
    unfold batchesFrom
    split
    · rw [ih, List.append_assoc, List.singleton_append]
    · rw [List.flatten_cons, ih, List.singleton_append]

/-- Nothing is lost, doubled or moved. -/
theorem flatten_batches (xs : List α) : (batches near xs).flatten = xs := by
  cases xs with
  | nil => rfl
  | cons x xs => exact flatten_batchesFrom x [x] xs

variable (near) in
/-- The first batch goes on from what it holds. -/
theorem batchesFrom_head (anchor : α) (rest xs : List α) :
    ∃ more later, batchesFrom near anchor (anchor :: rest) xs =
      (anchor :: (rest ++ more)) :: later := by
  induction xs generalizing rest with
  | nil => exact ⟨[], [], by simp [batchesFrom]⟩
  | cons x xs ih =>
    unfold batchesFrom
    split
    · obtain ⟨more, later, h⟩ := ih (rest ++ [x])
      exact ⟨x :: more, later, by simpa using h⟩
    · exact ⟨[], batchesFrom near x [x] xs, by rw [List.append_nil]⟩

theorem anchored_batchesFrom (anchor : α) {rest : List α} (h : ∀ x ∈ rest, near anchor x = true)
    (xs : List α) : Anchored near (batchesFrom near anchor (anchor :: rest) xs) := by
  induction xs generalizing anchor rest with
  | nil =>
    refine ⟨?_, List.isChain_singleton _⟩
    intro b hb
    exact ⟨anchor, rest, List.mem_singleton.mp hb, h⟩
  | cons x xs ih =>
    unfold batchesFrom
    split
    · next hx =>
      refine ih anchor fun y hy => ?_
      rcases List.mem_append.mp hy with hy | hy
      · exact h y hy
      · rwa [List.mem_singleton.mp hy]
    · next hx =>
      have hnone : ∀ y ∈ [], near x y = true := fun y hy => absurd hy (by simp)
      have hlater := ih x hnone
      obtain ⟨more, later, hhead⟩ := batchesFrom_head near x [] xs
      refine ⟨?_, ?_⟩
      · intro b hb
        rcases List.mem_cons.mp hb with rfl | hb
        · exact ⟨anchor, rest, rfl, h⟩
        · exact hlater.batch b hb
      · rw [hhead] at hlater ⊢
        refine List.isChain_cons_cons.mpr ⟨?_, hlater.apart⟩
        intro a ha b hb
        obtain rfl := Option.some.inj ha
        obtain rfl := Option.some.inj hb
        simpa using hx

/-- The cut is anchored. -/
theorem anchored_batches (xs : List α) : Anchored near (batches near xs) := by
  cases xs with
  | nil => exact ⟨fun b hb => absurd hb (by simp [batches]), List.isChain_nil⟩
  | cons x xs => exact anchored_batchesFrom x (fun y hy => absurd hy (by simp)) xs

theorem batchesFrom_append {anchor : α} {rest : List α} (h : ∀ x ∈ rest, near anchor x = true)
    (current xs : List α) :
    batchesFrom near anchor current (rest ++ xs) = batchesFrom near anchor (current ++ rest) xs := by
  induction rest generalizing current with
  | nil => simp
  | cons x rest ih =>
    rw [List.cons_append, batchesFrom, if_pos (h x (by simp)),
      ih (fun y hy => h y (List.mem_cons_of_mem _ hy)), List.append_assoc, List.singleton_append]

/-- An anchored list of batches is the cut of its concatenation. -/
theorem batches_flatten {bs : List (List α)} (h : Anchored near bs) :
    batches near bs.flatten = bs := by
  induction bs with
  | nil => rfl
  | cons b bs ih =>
    have hlater : Anchored near bs :=
      ⟨fun b' hb' => h.batch b' (List.mem_cons_of_mem _ hb'), h.apart.tail⟩
    obtain ⟨anchor, rest, rfl, hrest⟩ := h.batch b (by simp)
    rw [List.flatten_cons, List.cons_append, batches, batchesFrom_append hrest,
      List.singleton_append]
    cases bs with
    | nil => rfl
    | cons b' bs =>
      obtain ⟨anchor', rest', rfl, hrest'⟩ := hlater.batch b' (by simp)
      have hapart := (List.isChain_cons_cons.mp h.apart).1 anchor rfl anchor' rfl
      have hcut := ih hlater
      rw [List.flatten_cons, List.cons_append] at hcut ⊢
      rw [batchesFrom, hapart, if_neg (by decide)]
      exact congrArg _ hcut

/-! ## Batches of one -/

/-- Neighbours that are not near make batches of one. -/
theorem batches_of_apart {xs : List α} (h : xs.IsChain fun a b => near a b = false) :
    batches near xs = xs.map fun x => [x] := by
  have hanchored : Anchored near (xs.map fun x => [x]) := by
    refine ⟨?_, ?_⟩
    · intro b hb
      obtain ⟨x, -, rfl⟩ := List.mem_map.mp hb
      exact ⟨x, [], rfl, fun y hy => absurd hy (by simp)⟩
    · rw [List.isChain_map]
      refine h.imp fun a b hab => ?_
      intro a' ha b' hb
      obtain rfl := Option.some.inj ha
      obtain rfl := Option.some.inj hb
      exact hab
  have hcut := batches_flatten hanchored
  rwa [← List.flatMap_def, List.flatMap_singleton'] at hcut

theorem length_le_length_flatten {bs : List (List α)} (hne : ∀ b ∈ bs, b ≠ []) :
    bs.length ≤ bs.flatten.length := by
  induction bs with
  | nil => exact Nat.zero_le _
  | cons b bs ih =>
    have hb := List.length_pos_of_ne_nil (hne b (by simp))
    have hrest := ih fun b' hb' => hne b' (List.mem_cons_of_mem _ hb')
    rw [List.flatten_cons, List.length_append, List.length_cons]
    omega

/-- As many lists as elements, none of them empty, hold one element each. -/
theorem eq_singletons {bs : List (List α)} (hne : ∀ b ∈ bs, b ≠ [])
    (hlength : bs.flatten.length ≤ bs.length) : bs = bs.flatten.map fun x => [x] := by
  induction bs with
  | nil => rfl
  | cons b bs ih =>
    have hrest : ∀ b' ∈ bs, b' ≠ [] := fun b' hb' => hne b' (List.mem_cons_of_mem _ hb')
    have hmore := length_le_length_flatten hrest
    have hb := List.length_pos_of_ne_nil (hne b (by simp))
    rw [List.flatten_cons, List.length_append, List.length_cons] at hlength
    obtain ⟨x, rfl⟩ := List.length_eq_one_iff.mp (by omega : b.length = 1)
    rw [List.flatten_cons, List.singleton_append, List.map_cons, ← ih hrest (by omega)]

/-- As many batches as elements: no neighbours are near. -/
theorem apart_of_length_batches {xs : List α} (h : (batches near xs).length = xs.length) :
    xs.IsChain fun a b => near a b = false := by
  have hcut : Anchored near (batches near xs) := anchored_batches xs
  have hones := eq_singletons (fun b hb => (hcut.batch b hb).ne_nil)
    (by rw [flatten_batches, h])
  have happart := hcut.apart
  rw [hones, flatten_batches, List.isChain_map] at happart
  exact happart.imp fun a b hab => hab a rfl b rfl

section Map

variable {β : Type} (f : β → α)

theorem batchesFrom_map (anchor : β) (current xs : List β) :
    batchesFrom near (f anchor) (current.map f) (xs.map f) =
      (batchesFrom (fun a b => near (f a) (f b)) anchor current xs).map (List.map f) := by
  induction xs generalizing anchor current with
  | nil => rfl
  | cons x xs ih =>
    rw [List.map_cons, batchesFrom, batchesFrom]
    split
    · have := ih anchor (current ++ [x])
      rwa [List.map_append] at this
    · rw [List.map_cons]
      exact congrArg _ (ih x [x])

/-- The cut of a mapped list. -/
theorem batches_map (xs : List β) :
    batches near (xs.map f) = (batches (fun a b => near (f a) (f b)) xs).map (List.map f) := by
  cases xs with
  | nil => rfl
  | cons x xs => exact batchesFrom_map f x [x] xs

end Map

end Batching
