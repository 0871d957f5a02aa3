import Mathlib.Data.List.Basic

/-!
# Stages that take back

A decision is made at the start and goes through stages, each of which may change it. A
stage that `Asks` lets a decision stand only where a condition holds; one that `Keeps` a
decision neither makes it nor takes it back. What stands at the end has been let through
by every stage (`Asks.run`).
-/

namespace Gates

variable {State Decision : Type} (decision : State → Decision)

/-- What the stage leaves standing was there, and the condition holds. -/
def Asks (a : Decision) (condition : Prop) (stage : State → State) : Prop :=
  ∀ s, decision (stage s) = a → decision s = a ∧ condition

/-- The stage neither makes the decision nor takes it back. -/
def Keeps (a : Decision) (stage : State → State) : Prop :=
  ∀ s, decision (stage s) = a ↔ decision s = a

/-- One stage after the other. -/
def run (stages : List (State → State)) (s : State) : State := stages.foldl (fun s stage => stage s) s

variable {decision} {a : Decision}

theorem Keeps.run {stages : List (State → State)} (h : ∀ stage ∈ stages, Keeps decision a stage) :
    ∀ s, decision (run stages s) = a ↔ decision s = a := by
  induction stages with
  | nil => exact fun s => Iff.rfl
  | cons stage stages ih =>
    intro s
    have hrest := ih (fun stage' hmem => h stage' (List.mem_cons_of_mem _ hmem)) (stage s)
    exact hrest.trans (h stage List.mem_cons_self s)

/-- What stands at the end meets the conditions of all stages. -/
theorem Asks.run {conditions : List Prop} {stages : List (State → State)}
    (h : List.Forall₂ (Asks decision a) conditions stages) :
    ∀ s, decision (run stages s) = a →
      decision s = a ∧ ∀ condition ∈ conditions, condition := by
  induction h with
  | nil => exact fun s hs => ⟨hs, nofun⟩
  | @cons condition stage conditions stages hstage _ ih =>
    intro s hs
    obtain ⟨hmid, hrest⟩ := ih (stage s) hs
    obtain ⟨hstart, hcondition⟩ := hstage s hmid
    exact ⟨hstart, List.forall_mem_cons.mpr ⟨hcondition, hrest⟩⟩

end Gates
