import Mathlib.Data.Nat.Digits.Defs
import Mathlib.Data.String.Basic

/-!
# Numbers of a fixed width

A number that fits into its width is written with leading zeros, and numbers that fit are
ordered as their texts are. Fields of fixed widths, one after another with the same marks
between, make texts that are ordered as the lists of the numbers are (`fields_lt`): the
first number that differs decides.
-/

namespace FixedWidth

/-! ## Texts one after another -/

/-- The first difference decides, whatever follows. -/
theorem append_lt_append {as bs : List Char} (hlength : as.length = bs.length) (h : as < bs)
    (xs ys : List Char) : as ++ xs < bs ++ ys := by
  induction as generalizing bs with
  | nil =>
    rw [List.length_nil, eq_comm, List.length_eq_zero_iff] at hlength
    rw [hlength] at h
    exact absurd h (List.lt_irrefl _)
  | cons a as ih =>
    cases bs with
    | nil => cases hlength
    | cons b bs =>
      rw [List.cons_append, List.cons_append, List.cons_lt_cons_iff]
      obtain hab | ⟨hab, hrest⟩ := List.cons_lt_cons_iff.mp h
      · exact .inl hab
      · exact .inr ⟨hab, ih (Nat.succ.inj hlength) hrest⟩

/-! ## One number -/

/-- The last digits of a number, as many as the width. -/
def digits : Nat → Nat → List Char
  | 0, _ => []
  | width + 1, n => Nat.digitChar (n / 10 ^ width % 10) :: digits width n

@[simp] theorem length_digits (width n : Nat) : (digits width n).length = width := by
  induction width with
  | zero => rfl
  | succ width ih => rw [digits, List.length_cons, ih]

theorem digitChar_lt : ∀ {a b : Fin 10}, a < b → Nat.digitChar a < Nat.digitChar b := by
  decide

/-- Digits above the width do not show. -/
theorem digits_mod (width : Nat) : ∀ {above : Nat}, width ≤ above → ∀ n,
    digits width (n % 10 ^ above) = digits width n := by
  induction width with
  | zero => exact fun _ _ => rfl
  | succ width ih =>
    intro above habove n
    have hdigit : n % 10 ^ above / 10 ^ width % 10 = n / 10 ^ width % 10 := by
      rw [show above = width + (above - width - 1 + 1) by omega, pow_add, Nat.mod_mul_right_div_self,
        pow_succ, Nat.mod_mod_of_dvd _ (Dvd.intro_left _ rfl)]
    rw [digits, digits, hdigit, ih (by omega)]

/-- Numbers that fit are ordered as their texts are. -/
theorem digits_lt {width n m : Nat} (h : n < m) (hm : m < 10 ^ width) :
    digits width n < digits width m := by
  induction width generalizing n m with
  | zero => omega
  | succ width ih =>
    have hpos : 0 < 10 ^ width := Nat.pos_of_ne_zero (by positivity)
    have hlead : ∀ k < 10 ^ (width + 1), k / 10 ^ width < 10 := by
      intro k hk
      rw [pow_succ] at hk
      exact Nat.div_lt_of_lt_mul hk
    have hn10 := hlead n (h.trans hm)
    have hm10 := hlead m hm
    rw [digits, digits, Nat.mod_eq_of_lt hn10, Nat.mod_eq_of_lt hm10, List.cons_lt_cons_iff]
    obtain hlt | heq := Nat.lt_or_eq_of_le (Nat.div_le_div_right (c := 10 ^ width) h.le)
    · exact .inl (digitChar_lt (a := ⟨_, hn10⟩) (b := ⟨_, hm10⟩) hlt)
    · refine .inr ⟨by rw [heq], ?_⟩
      have hrest : n % 10 ^ width < m % 10 ^ width := by
        have hndiv := Nat.div_add_mod n (10 ^ width)
        have hmdiv := Nat.div_add_mod m (10 ^ width)
        rw [heq] at hndiv
        omega
      have hsub := ih hrest (Nat.mod_lt _ hpos)
      rwa [digits_mod width le_rfl, digits_mod width le_rfl] at hsub

/-! ## Fields -/

/-- Fields of a layout: each of its width, and a mark behind it. -/
def fields : List (Nat × List Char) → List Nat → List Char
  | (width, mark) :: layout, n :: ns => digits width n ++ (mark ++ fields layout ns)
  | _, _ => []

/-- The numbers fit into the fields. -/
def Fits (layout : List (Nat × List Char)) (ns : List Nat) : Prop :=
  List.Forall₂ (fun field n => n < 10 ^ field.1) layout ns

/-- Fields that fit are ordered as the lists of the numbers are, whatever follows. -/
theorem fields_lt {layout : List (Nat × List Char)} {ns ms : List Nat} (hns : Fits layout ns)
    (hms : Fits layout ms) (h : ns < ms) (xs ys : List Char) :
    fields layout ns ++ xs < fields layout ms ++ ys := by
  induction hns generalizing ms with
  | nil =>
    cases hms
    exact absurd h (List.lt_irrefl _)
  | @cons field n layout ns hn hns ih =>
    cases hms with
    | @cons _ m _ ms hm hms =>
      simp only [fields, List.append_assoc]
      obtain hlt | ⟨rfl, hrest⟩ := List.cons_lt_cons_iff.mp h
      · refine append_lt_append ?_ (digits_lt hlt hm) _ _
        rw [length_digits, length_digits]
      · exact List.append_left_lt (List.append_left_lt (ih hms hrest))

end FixedWidth
