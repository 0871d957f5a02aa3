import Mathlib.Data.List.Basic

/-!
# Reactive programs

A loop that reads an input, changes its state and does something observable,
over and over. `run` is its run on finitely many inputs; the events of a run
are the events of its steps in order.

The properties of interest relate an event to the events BEFORE it (`Each`),
under a condition on the inputs that may depend on the state they meet
(`Admitted`). `run_each` is the rule: an invariant of the state and the
history, and one step. What an event has right before and right after it
(`Around`) is settled within its own step (`run_around`).
-/

namespace Reactive

variable {σ ι ε : Type}

/-- The state after the inputs, and the events in order. -/
def run (step : σ → ι → σ × List ε) : σ → List ι → σ × List ε
  | s, [] => (s, [])
  | s, i :: is =>
    let now := step s i
    let later := run step now.1 is
    (later.1, now.2 ++ later.2)

/-- Every new event stands in the relation to the events before it. -/
def Each (P : List ε → ε → Prop) (old new : List ε) : Prop :=
  ∀ pre e post, new = pre ++ e :: post → P (old ++ pre) e

/-- Every input is admitted by the state it meets. -/
def Admitted (step : σ → ι → σ × List ε) (C : σ → ι → Prop) : σ → List ι → Prop
  | _, [] => True
  | s, i :: is => C s i ∧ Admitted step C (step s i).1 is

theorem run_append (step : σ → ι → σ × List ε) (s : σ) (is js : List ι) :
    (run step s (is ++ js)).1 = (run step (run step s is).1 js).1 := by
  induction is generalizing s with
  | nil => rfl
  | cons i is ih => exact ih (step s i).1

theorem run_concat (step : σ → ι → σ × List ε) (s : σ) (is : List ι) (i : ι) :
    (run step s (is ++ [i])).1 = (step (run step s is).1 i).1 := by
  rw [run_append]
  rfl

theorem Admitted.append {step : σ → ι → σ × List ε} {C : σ → ι → Prop} {s : σ} {is js : List ι}
    (h : Admitted step C s (is ++ js)) :
    Admitted step C s is ∧ Admitted step C (run step s is).1 js := by
  induction is generalizing s with
  | nil => exact ⟨trivial, h⟩
  | cons i is ih =>
    obtain ⟨hnow, hlater⟩ := h
    obtain ⟨hfirst, hsecond⟩ := ih hlater
    exact ⟨⟨hnow, hfirst⟩, hsecond⟩

theorem Each.nil (P : List ε → ε → Prop) (old : List ε) : Each P old [] :=
  fun pre e post h => absurd h (by simp)

theorem Each.append {P : List ε → ε → Prop} {old first second : List ε}
    (h1 : Each P old first) (h2 : Each P (old ++ first) second) :
    Each P old (first ++ second) := by
  intro pre e post h
  rcases List.append_eq_append_iff.mp h with ⟨mid, rfl, hmid⟩ | ⟨mid, hfirst, hmid⟩
  · have := h2 mid e post hmid
    rwa [List.append_assoc] at this
  · cases mid with
    | nil =>
      rw [List.append_nil] at hfirst
      subst hfirst
      have := h2 [] e post hmid.symm
      rwa [List.append_nil] at this
    | cons d mid =>
      rw [List.cons_append] at hmid
      obtain ⟨rfl, rfl⟩ := List.cons.inj hmid
      exact h1 pre e mid hfirst

theorem Each.cons {P : List ε → ε → Prop} {old new : List ε} {e : ε} (h : P old e)
    (hnew : Each P (old ++ [e]) new) : Each P old (e :: new) := by
  intro pre d post hsplit
  cases pre with
  | nil =>
    obtain ⟨rfl, -⟩ := List.cons.inj hsplit
    rwa [List.append_nil]
  | cons c pre =>
    obtain ⟨rfl, rfl⟩ := List.cons.inj hsplit
    have := hnew pre d post rfl
    rwa [List.append_assoc, List.singleton_append] at this

theorem each_cons_iff {P : List ε → ε → Prop} {old new : List ε} {e : ε} :
    Each P old (e :: new) ↔ P old e ∧ Each P (old ++ [e]) new := by
  refine ⟨fun h => ⟨?_, fun pre d post hsplit => ?_⟩, fun h => Each.cons h.1 h.2⟩
  · have := h [] e new rfl
    rwa [List.append_nil] at this
  · have := h (e :: pre) d post (by rw [hsplit, List.cons_append])
    rwa [List.append_cons] at this

theorem each_snoc_iff {P : List ε → ε → Prop} {old new : List ε} {e : ε} :
    Each P old (new ++ [e]) ↔ Each P old new ∧ P (old ++ new) e := by
  constructor
  · intro h
    refine ⟨fun pre d post hsplit => h pre d (post ++ [e]) ?_, h new e [] rfl⟩
    rw [hsplit, List.append_assoc, List.cons_append]
  · intro h
    exact h.1.append (Each.cons h.2 (Each.nil P _))

/-- The rule of runs. -/
theorem run_each {step : σ → ι → σ × List ε} {C : σ → ι → Prop} {P : List ε → ε → Prop}
    {inv : σ → List ε → Prop}
    (hstep : ∀ s history i, inv s history → C s i →
      inv (step s i).1 (history ++ (step s i).2) ∧ Each P history (step s i).2)
    {s : σ} {history : List ε} {is : List ι} (hinv : inv s history)
    (hadm : Admitted step C s is) :
    inv (run step s is).1 (history ++ (run step s is).2) ∧ Each P history (run step s is).2 := by
  induction is generalizing s history with
  | nil => exact ⟨by simpa [run] using hinv, Each.nil P history⟩
  | cons i is ih =>
    obtain ⟨hnow, hlater⟩ := hadm
    obtain ⟨hinv', heach⟩ := hstep s history i hinv hnow
    obtain ⟨hend, hrest⟩ := ih hinv' hlater
    refine ⟨?_, heach.append hrest⟩
    rw [List.append_assoc] at hend
    exact hend

/-- What every step keeps, whatever its input, holds after every run. -/
theorem run_inv {step : σ → ι → σ × List ε} {inv : σ → List ε → Prop}
    (hstep : ∀ s history i, inv s history → inv (step s i).1 (history ++ (step s i).2))
    {s : σ} {history : List ε} (is : List ι) (hinv : inv s history) :
    inv (run step s is).1 (history ++ (run step s is).2) := by
  induction is generalizing s history with
  | nil => simpa [run] using hinv
  | cons i is ih =>
    have hend := ih (hstep s history i hinv)
    rwa [List.append_assoc] at hend

/-- The rule of runs that are right as long as, and no longer than, their inputs
are admitted. -/
theorem prefixes_iff_admitted {step : σ → ι → σ × List ε} {C : σ → ι → Prop}
    {inv : σ → List ε → Prop}
    (hstep : ∀ s history i, inv s history →
      (inv (step s i).1 (history ++ (step s i).2) ↔ C s i))
    {s : σ} {history : List ε} {is : List ι} (hinv : inv s history) :
    (∀ pre, pre <+: is → inv (run step s pre).1 (history ++ (run step s pre).2)) ↔
      Admitted step C s is := by
  induction is generalizing s history with
  | nil =>
    refine ⟨fun _ => trivial, fun _ pre hpre => ?_⟩
    rw [List.prefix_nil.mp hpre]
    simpa [run] using hinv
  | cons i is ih =>
    constructor
    · intro h
      have hnow : inv (step s i).1 (history ++ (step s i).2) := by
        simpa [run] using h [i] (List.cons_prefix_cons.mpr ⟨rfl, List.nil_prefix⟩)
      refine ⟨(hstep s history i hinv).mp hnow, (ih hnow).mp fun pre hpre => ?_⟩
      have hlater := h (i :: pre) (List.cons_prefix_cons.mpr ⟨rfl, hpre⟩)
      rwa [run, ← List.append_assoc] at hlater
    · rintro ⟨hnow, hlater⟩ pre hpre
      have hinv' := (hstep s history i hinv).mpr hnow
      cases pre with
      | nil => simpa [run] using hinv
      | cons j pre =>
        obtain ⟨rfl, hprefix⟩ := List.cons_prefix_cons.mp hpre
        have hrest := (ih hinv').mpr hlater pre hprefix
        rwa [List.append_assoc] at hrest

/-- Every event stands in the relation to the events on both sides of it. -/
def Around (P : List ε → ε → List ε → Prop) (events : List ε) : Prop :=
  ∀ pre e post, events = pre ++ e :: post → P pre e post

theorem Around.append {P : List ε → ε → List ε → Prop}
    (hmono : ∀ left pre e post right, P pre e post → P (left ++ pre) e (post ++ right))
    {first second : List ε} (h1 : Around P first) (h2 : Around P second) :
    Around P (first ++ second) := by
  intro pre e post h
  rcases List.append_eq_append_iff.mp h with ⟨mid, rfl, hmid⟩ | ⟨mid, hfirst, hmid⟩
  · have := hmono first mid e post [] (h2 mid e post hmid)
    rwa [List.append_nil] at this
  · cases mid with
    | nil =>
      rw [List.append_nil] at hfirst
      subst hfirst
      have := hmono first [] e post [] (h2 [] e post hmid.symm)
      rwa [List.append_nil, List.append_nil] at this
    | cons d mid =>
      rw [List.cons_append] at hmid
      obtain ⟨rfl, rfl⟩ := List.cons.inj hmid
      exact hmono [] pre e mid second (h1 pre e mid hfirst)

/-- The rule of runs for what stands around an event. -/
theorem run_around {step : σ → ι → σ × List ε} {P : List ε → ε → List ε → Prop}
    (hmono : ∀ left pre e post right, P pre e post → P (left ++ pre) e (post ++ right))
    (hstep : ∀ s i, Around P (step s i).2) (s : σ) (is : List ι) : Around P (run step s is).2 := by
  induction is generalizing s with
  | nil => exact fun pre e post h => absurd h (by simp [run])
  | cons i is ih => exact Around.append hmono (hstep s i) (ih (step s i).1)

end Reactive
