import Mathlib.Algebra.Field.Periodic
import Mathlib.Order.Bounds.Basic

/-!
# What recurs

A clock goes round in turns of one length and shows each phase once in a turn; which
turns are allowed repeats after a number of turns. The next time that the clock shows a
phase in an allowed turn is found by going through the turns from the present one on,
and it is found within one round of the allowed ones.
-/

namespace Recurrence

/-- When the clock shows a phase in a given turn. -/
def occurrence (period phase turn : Int) : Int := turn * period + phase

/-- The clock shows the phase, in a turn that is allowed. -/
structure Occurs (period phase : Int) (allowed : Int → Prop) (x : Int) : Prop where
  phase : x % period = phase
  turn : allowed (x / period)

variable {period phase : Int} {allowed : Int → Prop}

theorem occurrence_div (hphase : 0 ≤ phase) (hperiod : phase < period) (turn : Int) :
    occurrence period phase turn / period = turn := by
  have hpos : 0 < period := hphase.trans_lt hperiod
  rw [occurrence, Int.add_comm, Int.add_mul_ediv_right _ _ hpos.ne',
    Int.ediv_eq_zero_of_lt hphase hperiod, Int.zero_add]

theorem occurrence_mod (hphase : 0 ≤ phase) (hperiod : phase < period) (turn : Int) :
    occurrence period phase turn % period = phase := by
  rw [occurrence, Int.add_comm, Int.add_mul_emod_self_right, Int.emod_eq_of_lt hphase hperiod]

theorem occurs_occurrence (hphase : 0 ≤ phase) (hperiod : phase < period) {turn : Int}
    (h : allowed turn) : Occurs period phase allowed (occurrence period phase turn) :=
  ⟨occurrence_mod hphase hperiod turn, by rwa [occurrence_div hphase hperiod]⟩

theorem Occurs.eq_occurrence {x : Int} (h : Occurs period phase allowed x) :
    x = occurrence period phase (x / period) := by
  rw [occurrence, ← h.phase, Int.ediv_mul_add_emod]

theorem occurrence_le (hphase : 0 ≤ phase) (hperiod : phase < period) {turn turn' : Int}
    (h : turn ≤ turn') : occurrence period phase turn ≤ occurrence period phase turn' :=
  Int.add_le_add_right (Int.mul_le_mul_of_nonneg_right h (hphase.trans hperiod.le)) phase

/-- A later turn is later than what is in this one. -/
theorem lt_occurrence (hphase : 0 ≤ phase) (hperiod : phase < period) {y turn : Int}
    (h : y / period < turn) : y < occurrence period phase turn := by
  have hpos : 0 < period := hphase.trans_lt hperiod
  calc
    y < turn * period := (Int.ediv_lt_iff_lt_mul hpos).mp h
    _ ≤ occurrence period phase turn := Int.le_add_of_nonneg_right hphase

/-- The first turn, from the present one on, that is allowed and shows the phase after
the present. -/
structure First (period phase : Int) (allowed : Int → Prop) (y : Int) (k : Nat) : Prop where
  turn : allowed (y / period + k)
  after : y < occurrence period phase (y / period + k)
  before : ∀ i < k, allowed (y / period + i) → ¬ y < occurrence period phase (y / period + i)

/-- The first turn gives the first time. -/
theorem First.isLeast (hphase : 0 ≤ phase) (hperiod : phase < period) {y : Int} {k : Nat}
    (h : First period phase allowed y k) :
    IsLeast {x | y < x ∧ Occurs period phase allowed x}
      (occurrence period phase (y / period + k)) := by
  have hpos : 0 < period := hphase.trans_lt hperiod
  refine ⟨⟨h.after, occurs_occurrence hphase hperiod h.turn⟩, ?_⟩
  rintro x ⟨hafter, hoccurs⟩
  have hturn : y / period ≤ x / period := Int.ediv_le_ediv hpos hafter.le
  obtain ⟨i, hi⟩ : ∃ i : Nat, x / period = y / period + i :=
    ⟨(x / period - y / period).toNat, by omega⟩
  rw [hoccurs.eq_occurrence, hi]
  apply occurrence_le hphase hperiod
  by_contra hlt
  have hik : i < k := by omega
  refine h.before i hik ?_ ?_
  · rw [← hi]
    exact hoccurs.turn
  · rw [← hi, ← hoccurs.eq_occurrence]
    exact hafter

/-- Within a round of the allowed turns there is one after the present. -/
theorem exists_soon (hphase : 0 ≤ phase) (hperiod : phase < period) {round : Nat}
    (hround : 0 < round) (hallowed : Function.Periodic allowed (round : Int))
    (hsome : ∃ turn, allowed turn) (y : Int) :
    ∃ k : Nat, 1 ≤ k ∧ k ≤ round ∧ allowed (y / period + k) ∧
      y < occurrence period phase (y / period + k) := by
  obtain ⟨turn, hturn⟩ := hsome
  obtain ⟨next, ⟨hlow, hhigh⟩, hnext⟩ :=
    hallowed.exists_mem_Ioc (by omega) turn (y / period)
  have hk : y / period + ((next - y / period).toNat : Int) = next := by omega
  refine ⟨(next - y / period).toNat, by omega, by omega, ?_, ?_⟩
  · rw [hk, ← hnext]
    exact hturn
  · rw [hk]
    exact lt_occurrence hphase hperiod hlow

end Recurrence
