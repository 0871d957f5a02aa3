import Mathlib.Data.List.Forall2

/-!
# Loops that collect

A loop walks over a list, passes over the items that are not of the kind it is
looking for, draws a fresh name for each of the others and builds something
from the two. To build may fail, and then the whole loop does.

`Built` says what a loop that came through has done: one name and one thing
for each item it selected, in their order (`collect_built`). It comes through
when no item it selected makes it fail, whatever the name (`exists_collect`).
-/

namespace Collect

variable {ι ε α β γ : Type}

/-- What the loop has drawn and what it has built. -/
structure Bag (ι β : Type) where
  names : List ι
  built : List β

def Bag.empty : Bag ι β := ⟨[], []⟩

/-- One round. `fresh n` is the name that is drawn after `n` others. -/
def step (fresh : ℕ → ι) (select : γ → Option α) (build : ι → α → Except ε β) (bag : Bag ι β)
    (item : γ) : Except ε (Bag ι β) :=
  match select item with
  | none => .ok bag
  | some a =>
    let name := fresh bag.names.length
    match build name a with
    | .ok b => .ok ⟨bag.names ++ [name], bag.built ++ [b]⟩
    | .error e => .error e

/-- The rounds from a bag on. -/
def rounds (fresh : ℕ → ι) (select : γ → Option α) (build : ι → α → Except ε β) :
    Bag ι β → List γ → Except ε (Bag ι β)
  | bag, [] => .ok bag
  | bag, item :: items =>
    match step fresh select build bag item with
    | .ok bag' => rounds fresh select build bag' items
    | .error e => .error e

/-- The loop. -/
def collect (fresh : ℕ → ι) (select : γ → Option α) (build : ι → α → Except ε β)
    (items : List γ) : Except ε (Bag ι β) :=
  rounds fresh select build .empty items

/-- Each thing is built from its name and its item. -/
inductive Built (build : ι → α → Except ε β) : List ι → List α → List β → Prop where
  | nil : Built build [] [] []
  | cons {name : ι} {a : α} {b : β} {names : List ι} {as : List α} {bs : List β} :
      build name a = .ok b → Built build names as bs →
      Built build (name :: names) (a :: as) (b :: bs)

section Rules

variable {fresh : ℕ → ι} {select : γ → Option α} {build : ι → α → Except ε β}

/-- What the rounds add is built from the items that were selected. -/
theorem rounds_built {items : List γ} {bag bag' : Bag ι β}
    (h : rounds fresh select build bag items = .ok bag') :
    ∃ names built, bag' = ⟨bag.names ++ names, bag.built ++ built⟩ ∧
      Built build names (items.filterMap select) built := by
  induction items generalizing bag with
  | nil =>
    cases h
    exact ⟨[], [], by simp, .nil⟩
  | cons item items ih =>
    unfold rounds at h
    split at h
    · next middle hstep =>
      unfold step at hstep
      split at hstep
      · next hselect =>
        cases hstep
        obtain ⟨names, built, hbag, hbuilt⟩ := ih h
        refine ⟨names, built, hbag, ?_⟩
        rw [List.filterMap_cons, hselect]
        exact hbuilt
      · next a hselect =>
        dsimp only at hstep
        split at hstep
        · next b hb =>
          cases hstep
          obtain ⟨names, built, hbag, hbuilt⟩ := ih h
          refine ⟨fresh bag.names.length :: names, b :: built, ?_, ?_⟩
          · rw [hbag]
            simp
          · rw [List.filterMap_cons, hselect]
            exact .cons hb hbuilt
        · cases hstep
    · cases h

/-- A loop that came through has built one thing for each item it selected. -/
theorem collect_built {items : List γ} {bag : Bag ι β}
    (h : collect fresh select build items = .ok bag) :
    Built build bag.names (items.filterMap select) bag.built := by
  obtain ⟨names, built, hbag, hbuilt⟩ := rounds_built h
  rw [hbag]
  exact hbuilt

/-- Rounds that cannot fail come through. -/
theorem exists_rounds {items : List γ}
    (h : ∀ a ∈ items.filterMap select, ∀ name, ∃ b, build name a = .ok b) (bag : Bag ι β) :
    ∃ bag', rounds fresh select build bag items = .ok bag' := by
  induction items generalizing bag with
  | nil => exact ⟨bag, rfl⟩
  | cons item items ih =>
    unfold rounds
    cases hselect : select item with
    | none =>
      have hstep : step fresh select build bag item = .ok bag := by
        unfold step
        rw [hselect]
      rw [hstep]
      apply ih
      intro a ha
      apply h
      rwa [List.filterMap_cons, hselect]
    | some a =>
      rw [List.filterMap_cons, hselect] at h
      obtain ⟨b, hb⟩ := h a List.mem_cons_self (fresh bag.names.length)
      have hstep : step fresh select build bag item =
          .ok ⟨bag.names ++ [fresh bag.names.length], bag.built ++ [b]⟩ := by
        unfold step
        rw [hselect]
        dsimp only
        rw [hb]
      rw [hstep]
      apply ih
      intro a' ha'
      exact h a' (List.mem_cons_of_mem _ ha')

theorem exists_collect {items : List γ}
    (h : ∀ a ∈ items.filterMap select, ∀ name, ∃ b, build name a = .ok b) :
    ∃ bag, collect fresh select build items = .ok bag :=
  exists_rounds h .empty

/-! ## What was built -/

variable {names : List ι} {as : List α} {bs : List β}

/-- Item by item. -/
theorem Built.items (h : Built build names as bs) :
    List.Forall₂ (fun a b => ∃ name, build name a = .ok b) as bs := by
  induction h with
  | nil => exact .nil
  | cons hb _ ih => exact .cons ⟨_, hb⟩ ih

/-- What is there was built from some name and some item. -/
theorem Built.of_mem (h : Built build names as bs) {b : β} (hb : b ∈ bs) :
    ∃ name, ∃ a ∈ as, build name a = .ok b := by
  induction h with
  | nil => cases hb
  | cons hbuild _ ih =>
    rcases List.mem_cons.mp hb with rfl | hb
    · exact ⟨_, _, List.mem_cons_self, hbuild⟩
    · obtain ⟨name, a, ha, hab⟩ := ih hb
      exact ⟨name, a, List.mem_cons_of_mem _ ha, hab⟩

/-- The first name names the first thing. -/
theorem Built.head (h : Built build names as bs) (hbs : bs ≠ []) :
    ∃ name a b, names.head? = some name ∧ b ∈ bs ∧ build name a = .ok b := by
  cases h with
  | nil => exact absurd rfl hbs
  | cons hbuild _ => exact ⟨_, _, _, rfl, List.mem_cons_self, hbuild⟩

end Rules

end Collect
