import Mathlib.Tactic.Linarith
import NetworkRecovery.Python.Float

/-!
# Rounding beside whole numbers

A whole number below `2 ^ 53` is a binary64 number, so rounding does not carry a rational over
it: what is not above the number is not rounded above it (`binary64_le`). To the other side a
rational may be rounded onto it. A step of one millionth is still seen below `2 ^ 34`, where
two binary64 numbers are less than two millionths apart (`lt_binary64`).
-/

namespace Python

/-! ## To a whole number -/

theorem roundEven_le {x : ℚ} {m : ℤ} (h : x ≤ m) : roundEven x ≤ m := by
  have hfloor : ⌊x⌋ ≤ m := by exact_mod_cast (Int.floor_le x).trans h
  -- Only from below the number is anything rounded up.
  have hup : ⌊x⌋ = m → x - ⌊x⌋ < 1 / 2 := by
    intro heq
    rw [heq]
    linarith
  unfold roundEven
  dsimp only
  by_cases heq : ⌊x⌋ = m
  · rw [if_pos (hup heq)]
    exact hfloor
  · split_ifs <;> omega

theorem le_roundEven {x : ℚ} {m : ℤ} (h : (m : ℚ) ≤ x) : m ≤ roundEven x := by
  have hfloor : m ≤ ⌊x⌋ := Int.le_floor.mpr h
  unfold roundEven
  dsimp only
  split_ifs <;> omega

/-- What is beyond the middle is rounded up. -/
theorem lt_roundEven {x : ℚ} {m : ℤ} (h : (m : ℚ) + 1 / 2 < x) : m < roundEven x := by
  have hfloor : m ≤ ⌊x⌋ := Int.le_floor.mpr (by linarith)
  obtain heq | hlt := hfloor.eq_or_lt
  · have hpart : 1 / 2 < x - ⌊x⌋ := by
      rw [← heq]
      linarith
    unfold roundEven
    dsimp only
    rw [if_neg (not_lt.mpr hpart.le), if_pos hpart]
    omega
  · have hle : m + 1 ≤ roundEven x := le_roundEven ((by exact_mod_cast hlt : ((m + 1 : ℤ) : ℚ) ≤ ⌊x⌋).trans
      (Int.floor_le x))
    omega

/-- Numbers more than a unit apart are rounded apart. -/
theorem roundEven_lt {x y : ℚ} (h : x + 1 < y) : roundEven x < roundEven y := by
  have hfloor : (⌊x⌋ : ℚ) ≤ x := Int.floor_le x
  have hhalf : (roundEven x : ℚ) ≤ x + 1 / 2 := by
    unfold roundEven
    dsimp only
    split_ifs <;> push_cast <;> linarith
  apply lt_roundEven
  linarith

/-- An even number is reached from half a unit below it. -/
theorem le_roundEven_iff {x : ℚ} {m : ℤ} (heven : m % 2 = 0) :
    m ≤ roundEven x ↔ (m : ℚ) - 1 / 2 ≤ x := by
  have hle : (⌊x⌋ : ℚ) ≤ x := Int.floor_le x
  constructor
  · intro h
    unfold roundEven at h
    dsimp only at h
    split_ifs at h with hdown hup hwhole
    · have hm : (m : ℚ) ≤ ⌊x⌋ := by exact_mod_cast h
      linarith
    · have hm : (m : ℚ) ≤ ⌊x⌋ + 1 := by exact_mod_cast h
      linarith
    · have hm : (m : ℚ) ≤ ⌊x⌋ := by exact_mod_cast h
      linarith
    · have hm : (m : ℚ) ≤ ⌊x⌋ + 1 := by exact_mod_cast h
      linarith
  · intro h
    have hfloor : m - 1 ≤ ⌊x⌋ := by
      apply Int.le_floor.mpr
      push_cast
      linarith
    obtain heq | hlt := hfloor.eq_or_lt
    · have hpart : ¬ x - ⌊x⌋ < 1 / 2 := by
        rw [← heq]
        push_cast
        linarith
      unfold roundEven
      dsimp only
      rw [if_neg hpart]
      -- in the middle the odd number below gives way
      split_ifs <;> omega
    · exact le_roundEven ((by exact_mod_cast (by omega : m ≤ ⌊x⌋) : (m : ℚ) ≤ ⌊x⌋).trans hle)

/-- Rounding keeps the order. -/
theorem roundEven_mono {x y : ℚ} (h : x ≤ y) : roundEven x ≤ roundEven y := by
  obtain heq | hlt := (Int.floor_mono h).eq_or_lt
  · have hpart : x - ⌊x⌋ ≤ y - ⌊y⌋ := by
      rw [heq]
      linarith
    unfold roundEven
    dsimp only
    rw [heq] at hpart ⊢
    -- the same whole part: only the part behind the point decides
    split_ifs
    all_goals first | omega | linarith
  · calc roundEven x ≤ ⌊x⌋ + 1 := roundEven_le (by exact_mod_cast (Int.lt_floor_add_one x).le)
      _ ≤ ⌊y⌋ := hlt
      _ ≤ roundEven y := le_roundEven (Int.floor_le y)

/-! ## To a binary64 number -/

/-- Below `2 ^ 53` the binary64 numbers around a rational are the multiples of a power of one
half. -/
theorem nearest_eq {q : ℚ} {n : ℕ} (hpos : 0 < q) (hlt : q < 2 ^ n) (hn : n ≤ 53) :
    ∃ k : ℕ, 53 ≤ n + k ∧ nearest q = some ((roundEven (q * 2 ^ k) : ℚ) / 2 ^ k) := by
  have hlog : Int.log 2 q < n := by
    refine (Int.lt_zpow_iff_log_lt Nat.one_lt_two hpos).mp ?_
    exact_mod_cast hlt
  obtain ⟨k, hk⟩ : ∃ k : ℕ, max (Int.log 2 q - 52) (-1074) = -(k : ℤ) :=
    ⟨(-max (Int.log 2 q - 52) (-1074)).toNat, by omega⟩
  have hunit : (2 : ℚ) ^ max (Int.log 2 q - 52) (-1074) = (2 ^ k)⁻¹ := by
    rw [hk, zpow_neg, zpow_natCast]
  have hscale : (0 : ℚ) < 2 ^ k := by positivity
  have hsmall : |(roundEven (q * 2 ^ k) : ℚ) / 2 ^ k| < 2 ^ 1024 := by
    have hnonneg : (0 : ℚ) ≤ roundEven (q * 2 ^ k) := by
      exact_mod_cast roundEven_nonneg (mul_nonneg hpos.le hscale.le)
    have hround : roundEven (q * 2 ^ k) ≤ 2 ^ n * 2 ^ k := by
      apply roundEven_le
      push_cast
      exact mul_le_mul_of_nonneg_right hlt.le hscale.le
    have hbound : (roundEven (q * 2 ^ k) : ℚ) / 2 ^ k ≤ 2 ^ n := by
      rw [div_le_iff₀ hscale]
      exact_mod_cast hround
    rw [abs_of_nonneg (div_nonneg hnonneg hscale.le)]
    exact hbound.trans_lt (pow_lt_pow_right₀ (by norm_num) (by omega))
  refine ⟨k, by omega, ?_⟩
  unfold nearest
  rw [if_neg hpos.ne', abs_of_pos hpos, hunit]
  dsimp only
  rw [div_inv_eq_mul, ← div_eq_mul_inv, if_pos hsmall]

/-- The binary64 number that `a / b` is, the quotient itself beyond the largest. -/
def binary64 (q : ℚ) : ℚ := (nearest q).getD q

theorem binary64_zero : binary64 0 = 0 := by
  unfold binary64 nearest
  rw [if_pos rfl]
  rfl

/-- Rounding is rounding to a whole number on a finer scale. -/
theorem exists_binary64_eq {q : ℚ} (hnonneg : 0 ≤ q) (hlt : q < 2 ^ 53) :
    ∃ k : ℕ, binary64 q = roundEven (q * 2 ^ k) / 2 ^ k := by
  obtain rfl | hpos := hnonneg.eq_or_lt
  · have hround : roundEven 0 = 0 := by simp [roundEven]
    refine ⟨0, ?_⟩
    rw [binary64_zero, zero_mul, hround, Int.cast_zero, zero_div]
  · obtain ⟨k, -, hk⟩ := nearest_eq hpos hlt le_rfl
    exact ⟨k, by rw [binary64, hk, Option.getD_some]⟩

/-- Rounding does not carry over a whole number. -/
theorem binary64_le {q : ℚ} {m : ℤ} (hnonneg : 0 ≤ q) (hlt : q < 2 ^ 53) (h : q ≤ m) :
    binary64 q ≤ m := by
  obtain ⟨k, hk⟩ := exists_binary64_eq hnonneg hlt
  have hscale : (0 : ℚ) < 2 ^ k := by positivity
  have hround : roundEven (q * 2 ^ k) ≤ m * 2 ^ k := by
    apply roundEven_le
    push_cast
    exact mul_le_mul_of_nonneg_right h hscale.le
  rw [hk, div_le_iff₀ hscale]
  exact_mod_cast hround

theorem le_binary64 {q : ℚ} {m : ℤ} (hnonneg : 0 ≤ q) (hlt : q < 2 ^ 53) (h : (m : ℚ) ≤ q) :
    (m : ℚ) ≤ binary64 q := by
  obtain ⟨k, hk⟩ := exists_binary64_eq hnonneg hlt
  have hscale : (0 : ℚ) < 2 ^ k := by positivity
  have hround : m * 2 ^ k ≤ roundEven (q * 2 ^ k) := by
    apply le_roundEven
    push_cast
    exact mul_le_mul_of_nonneg_right h hscale.le
  rw [hk, le_div_iff₀ hscale]
  exact_mod_cast hround

/-- One millionth more is seen, below `2 ^ 34`. -/
theorem lt_binary64 {q : ℚ} {m : ℤ} (hm : m < 2 ^ 34) (hnonneg : 0 ≤ q) (hlt : q < 2 ^ 53)
    (h : (m : ℚ) + 1 / 1000000 ≤ q) : (m : ℚ) < binary64 q := by
  by_cases hsmall : q < 2 ^ 34
  · obtain rfl | hpos := hnonneg.eq_or_lt
    · rw [binary64_zero]
      linarith
    · obtain ⟨k, hbits, hk⟩ := nearest_eq hpos hsmall (by decide)
      have hscale : (2 : ℚ) ^ 19 ≤ 2 ^ k := pow_le_pow_right₀ (by norm_num) (by omega)
      have hround : m * 2 ^ k < roundEven (q * 2 ^ k) := by
        apply lt_roundEven
        push_cast
        nlinarith
      rw [binary64, hk, Option.getD_some, lt_div_iff₀ (by positivity)]
      exact_mod_cast hround
  · have hlarge : ((2 ^ 34 : ℤ) : ℚ) ≤ binary64 q := by
      apply le_binary64 hnonneg hlt
      push_cast
      exact not_lt.mp hsmall
    exact lt_of_lt_of_le (by exact_mod_cast hm) hlarge

end Python
