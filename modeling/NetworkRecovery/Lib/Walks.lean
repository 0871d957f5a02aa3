import Mathlib.Data.List.Induction

/-!
# Walks

A walk through a tree of names: each step goes down to a name, or up again. Where
it ends is a `Place`, which does not say how one got there: how many levels the
walk is above its start, and the names below that. A walk from the top of the tree
never gets above it.

A place is below another one if it is reached from there by going down. A walk
ends below a place exactly when it has been at the place and never climbed above it
since (`below_walk_iff`): the steps since then are counted alone (`depth`), their
names do not matter.
-/

namespace Walks

variable {α : Type}

inductive Step (α : Type) where
  | up
  | down (name : α)
  deriving DecidableEq

/-- A place, its names innermost first. -/
structure Place (α : Type) where
  above : Nat := 0
  names : List α := []
  deriving DecidableEq

def Place.step (top : Bool) (p : Place α) : Step α → Place α
  | .down name => { p with names := name :: p.names }
  | .up =>
    match p.names with
    | _ :: names => { p with names := names }
    | [] => if top then p else { p with above := p.above + 1 }

/-- The place at which a walk ends. -/
def walk (top : Bool) (start : Place α) (steps : List (Step α)) : Place α :=
  steps.foldl (Place.step top) start

theorem walk_append (top : Bool) (start : Place α) (steps more : List (Step α)) :
    walk top start (steps ++ more) = walk top (walk top start steps) more := List.foldl_append

/-- The place that names lead to from another one. -/
def Place.extend (p : Place α) (names : List α) : Place α := { p with names := names ++ p.names }

/-- The inner place is the outer one, or is reached from it by going down. -/
structure Below (outer inner : Place α) : Prop where
  above : inner.above = outer.above
  names : outer.names <:+ inner.names

theorem Place.extend_injective (p : Place α) {names names' : List α}
    (h : p.extend names = p.extend names') : names = names' :=
  List.append_cancel_right (Place.mk.inj h).2

theorem below_extend (p : Place α) (names : List α) : Below p (p.extend names) :=
  ⟨rfl, List.suffix_append _ _⟩

instance [DecidableEq α] (outer inner : Place α) : Decidable (Below outer inner) :=
  decidable_of_iff (inner.above = outer.above ∧ outer.names <:+ inner.names)
    ⟨fun h => ⟨h.1, h.2⟩, fun h => ⟨h.above, h.names⟩⟩

/-! ## Depths -/

/-- How deep a walk ends, if it never climbs above its start. -/
def depth : Nat → List (Step α) → Option Nat
  | d, [] => some d
  | d, .down _ :: steps => depth (d + 1) steps
  | d + 1, .up :: steps => depth d steps
  | 0, .up :: _ => none

theorem depth_append (steps more : List (Step α)) :
    ∀ d, depth d (steps ++ more) = (depth d steps).bind fun d' => depth d' more := by
  induction steps with
  | nil => exact fun d => rfl
  | cons step steps ih =>
    intro d
    cases step with
    | down name => exact ih (d + 1)
    | up =>
      cases d with
      | zero => rfl
      | succ d => exact ih d

/-- A walk that never climbs above a place ends below it. -/
theorem walk_of_depth (top : Bool) (p : Place α) {steps : List (Step α)} {d : Nat} :
    ∀ names : List α, depth names.length steps = some d →
      ∃ names' : List α, names'.length = d ∧
        walk top (p.extend names) steps = p.extend names' := by
  induction steps with
  | nil => exact fun names h => ⟨names, Option.some.inj h, rfl⟩
  | cons step steps ih =>
    intro names h
    cases step with
    | down name => exact ih (name :: names) h
    | up =>
      cases names with
      | nil => cases h
      | cons name names => exact ih names h

theorem Below.exists_extend {outer inner : Place α} (h : Below outer inner) :
    ∃ names : List α, inner = outer.extend names := by
  obtain ⟨names, hnames⟩ := h.names
  cases inner
  obtain rfl := h.above
  exact ⟨names, congrArg (Place.mk _) hnames.symm⟩

/-- A step that ends below a place ends at the place, or goes on below it. -/
theorem below_step {top : Bool} {outer p : Place α} {step : Step α}
    (h : Below outer (p.step top step)) :
    p.step top step = outer ∨
      ∃ names : List α, p = outer.extend names ∧ (depth names.length [step]).isSome := by
  obtain ⟨names, hstep⟩ := h.exists_extend
  cases names with
  | nil => exact .inl hstep
  | cons name names =>
    right
    obtain ⟨above, below⟩ := p
    cases step with
    | down name' =>
      obtain ⟨rfl, hnames⟩ := Place.mk.inj hstep
      obtain ⟨-, rfl⟩ := List.cons.inj hnames
      exact ⟨names, rfl, rfl⟩
    | up =>
      cases below with
      | nil =>
        cases top with
        | false => cases (Place.mk.inj hstep).2
        | true => cases (Place.mk.inj hstep).2
      | cons name' below =>
        obtain ⟨rfl, rfl⟩ := Place.mk.inj hstep
        exact ⟨name' :: name :: names, rfl, rfl⟩

/-- A walk ends below a place exactly when it has been there and has not climbed above it since. -/
theorem below_walk_iff (top : Bool) {outer : Place α} {steps : List (Step α)} :
    Below outer (walk top {} steps) ↔
      ∃ before after, steps = before ++ after ∧ walk top {} before = outer ∧
        (depth 0 after).isSome := by
  constructor
  · intro h
    induction steps using List.reverseRecOn with
    | nil =>
      obtain ⟨names, hstart⟩ := h.exists_extend
      obtain ⟨-, hnames⟩ := Place.mk.inj hstart
      obtain ⟨rfl, -⟩ := List.append_eq_nil_iff.mp hnames.symm
      exact ⟨[], [], rfl, hstart, rfl⟩
    | append_singleton steps step ih =>
      rw [walk_append] at h
      rcases below_step h with hstep | ⟨names, hextend, hdepth⟩
      · exact ⟨steps ++ [step], [], (List.append_nil _).symm, (walk_append ..).trans hstep, rfl⟩
      · rw [hextend] at ih
        obtain ⟨before, after, rfl, hbefore, hafter⟩ := ih (below_extend outer names)
        obtain ⟨d, hd⟩ := Option.isSome_iff_exists.mp hafter
        obtain ⟨names', rfl, hwalk⟩ := walk_of_depth top outer [] hd
        rw [walk_append, hbefore] at hextend
        obtain rfl := outer.extend_injective (hwalk.symm.trans hextend)
        refine ⟨before, after ++ [step], (List.append_assoc ..), hbefore, ?_⟩
        rw [depth_append, hd]
        exact hdepth
  · rintro ⟨before, after, rfl, hbefore, hafter⟩
    obtain ⟨d, hd⟩ := Option.isSome_iff_exists.mp hafter
    obtain ⟨names, -, hwalk⟩ := walk_of_depth top outer [] hd
    have hend : walk top {} (before ++ after) = outer.extend names := by
      rw [walk_append, hbefore]
      exact hwalk
    rw [hend]
    exact below_extend outer names

end Walks
