import Mathlib.Data.Int.Log
import Mathlib.Data.Rat.Floor
import NetworkRecovery.Python.Builtins

/-!
# Float arithmetic

A `float` is a binary64 number, and `FloatVal` holds the decimal that prints for
it. An operation takes its operands to the binary numbers they stand for, is
exact on these, and rounds once: to the nearest binary number, of two equally
near ones to the even (`nearest`), which is then the shortest decimal that
rounds to it (`shortest`).

Nothing is proved of how the rounding falls. What the code's checks rest on is
that a float less itself is zero (`sub_same`), and that no operation on finite
floats makes a `nan`.
-/

namespace Python

/-! ## Rounding -/

/-- The nearest integer, the even one of two. -/
def roundEven (x : ℚ) : ℤ :=
  let whole := ⌊x⌋
  let part := x - whole
  if part < 1 / 2 then whole
  else if 1 / 2 < part then whole + 1
  else if whole % 2 = 0 then whole else whole + 1

/-- The binary64 number nearest to a rational, `none` beyond the largest. -/
def nearest (q : ℚ) : Option ℚ :=
  if q = 0 then some 0
  else
    let unit : ℚ := 2 ^ max (Int.log 2 |q| - 52) (-1074)
    let r := roundEven (q / unit) * unit
    if |r| < 2 ^ 1024 then some r else none

/-- The rational a decimal writes. -/
def Decimal.value (d : Decimal) : ℚ :=
  (if d.neg then -1 else 1) * d.digits * 10 ^ d.exponent

/-- The binary number a decimal stands for. -/
def Decimal.exact (d : Decimal) : ℚ := (nearest d.value).getD d.value

/-- A positive rational to a number of significant digits. -/
def toDigits (q : ℚ) (count : Nat) : Decimal :=
  let exponent := Int.log 10 q - (count - 1)
  .ofParts false (roundEven (q / 10 ^ exponent)).toNat exponent

/-- The shortest decimal that stands for a positive binary number. -/
def shortest (r : ℚ) : Decimal :=
  let candidates := (List.range 17).map fun n => toDigits r (n + 1)
  (candidates.find? fun d => nearest d.value = some r).getD (toDigits r 17)

/-- A rational as a float. The sign is that of a zero. -/
def FloatVal.ofRat (neg : Bool) (q : ℚ) : FloatVal :=
  match nearest q with
  | none => .inf (decide (q < 0))
  | some r =>
    if r = 0 then .finite (.ofParts neg 0 0)
    else .finite { shortest |r| with neg := decide (r < 0) }

/-! ## Operations -/

namespace FloatVal

/-- Decimal notation, for the constants of a program. -/
def ofScientific (digits : Nat) (exponent : Int) : FloatVal := .finite (.ofParts false digits exponent)

def zero : FloatVal := ofScientific 0 0

def one : FloatVal := ofScientific 1 0

def neg : FloatVal → FloatVal
  | .finite d => .finite { d with neg := !d.neg }
  | .inf n => .inf !n
  | .nan => .nan

/-- `abs(x)`. -/
def abs : FloatVal → FloatVal
  | .finite d => .finite { d with neg := false }
  | .inf _ => .inf false
  | .nan => .nan

/-- `x + y`. -/
def add : FloatVal → FloatVal → FloatVal
  | .finite d, .finite e => ofRat (d.neg && e.neg) (d.exact + e.exact)
  | .inf n, .inf m => if n = m then .inf n else .nan
  | .inf n, .finite _ | .finite _, .inf n => .inf n
  | .nan, _ | _, .nan => .nan

/-- `x - y`. -/
def sub : FloatVal → FloatVal → FloatVal
  | .finite d, .finite e => ofRat (d.neg && !e.neg) (d.exact - e.exact)
  | x, y => add x y.neg

/-- `x * y`. -/
def mul : FloatVal → FloatVal → FloatVal
  | .finite d, .finite e => ofRat (d.neg != e.neg) (d.exact * e.exact)
  | .inf n, .inf m => .inf (n != m)
  | .inf n, .finite d | .finite d, .inf n => if d.digits = 0 then .nan else .inf (n != d.neg)
  | .nan, _ | _, .nan => .nan

/-- `x / n` for a positive integer. -/
def divNat : FloatVal → Nat → FloatVal
  | .finite d, n => ofRat d.neg (d.exact / n)
  | .inf m, _ => .inf m
  | .nan, _ => .nan

/-- `x / y`, where `y` is not zero. -/
def div : FloatVal → FloatVal → FloatVal
  | .finite d, .finite e => ofRat (d.neg != e.neg) (d.exact / e.exact)
  | .inf n, .finite e => .inf (n != e.neg)
  | .finite d, .inf n => .finite (.ofParts (d.neg != n) 0 0)
  | .inf _, .inf _ => .nan
  | .nan, _ | _, .nan => .nan

/-- `x < y`. -/
def lt : FloatVal → FloatVal → Bool
  | .finite d, .finite e => decide (d.exact < e.exact)
  | .inf n, .inf m => n && !m
  | .inf n, .finite _ => n
  | .finite _, .inf m => !m
  | .nan, _ | _, .nan => false

/-- `x <= y`. -/
def le : FloatVal → FloatVal → Bool
  | .finite d, .finite e => decide (d.exact ≤ e.exact)
  | .inf n, .inf m => n || !m
  | .inf n, .finite _ => n
  | .finite _, .inf m => !m
  | .nan, _ | _, .nan => false

/-- `max(x, y)`: the first, unless the second is greater. -/
def max (x y : FloatVal) : FloatVal := if x.lt y then y else x

/-- `min(x, y)`: the first, unless the second is smaller. -/
def min (x y : FloatVal) : FloatVal := if y.lt x then y else x

/-- `round(x, n)`. -/
def round (x : FloatVal) (n : Nat) : FloatVal :=
  match x with
  | .finite d => ofRat d.neg (roundEven (d.exact * 10 ^ n) / 10 ^ n)
  | x => x

/-- `int(round(x))`. -/
def roundInt : FloatVal → Except PyError Int
  | .finite d => .ok (roundEven d.exact)
  | .inf _ => .error .overflow
  | .nan => .error .value

/-- The format `.nf`. -/
def fixed (x : FloatVal) (n : Nat) : List Char :=
  match x with
  | .finite d =>
    let m := (roundEven (|d.exact| * 10 ^ n)).toNat
    let fraction := natText (m % 10 ^ n)
    (if d.neg then ['-'] else []) ++ natText (m / 10 ^ n) ++
      '.' :: (List.replicate (n - fraction.length) '0' ++ fraction)
  | x => x.text

end FloatVal

/-- `a / b` of two integers, the second positive. -/
def trueDiv (a : Int) (b : Nat) : Except PyError FloatVal :=
  match FloatVal.ofRat false (a / b) with
  | .inf _ => .error .overflow
  | x => .ok x

/-- `float(n)`. -/
def floatOfInt (n : Int) : Except PyError FloatVal := trueDiv n 1

/-- `float(v)`. How a text is read is a parameter, as no float of this program is one. -/
def Value.toFloat (ofText : String → Option FloatVal) : Value → Except PyError FloatVal
  | .int n => floatOfInt n
  | .bool b => floatOfInt (if b then 1 else 0)
  | .float x => .ok x
  | .str s => match ofText s with
    | some x => .ok x
    | Option.none => .error .value
  | .none | .list _ | .dict _ => .error .type

/-! ## What does not depend on the rounding -/

theorem Decimal.exact_zero {d : Decimal} (h : d.digits = 0) : d.exact = 0 := by
  have hvalue : d.value = 0 := by
    unfold value
    rw [h]
    simp
  unfold exact nearest
  rw [hvalue]
  simp

theorem roundEven_nonneg {x : ℚ} (h : 0 ≤ x) : 0 ≤ roundEven x := by
  have hfloor : 0 ≤ ⌊x⌋ := Int.floor_nonneg.mpr h
  unfold roundEven
  dsimp only
  split_ifs <;> omega

/-- A decimal without a sign stands for no negative number. -/
theorem Decimal.exact_nonneg {d : Decimal} (h : d.neg = false) : 0 ≤ d.exact := by
  have hvalue : 0 ≤ d.value := by
    have hsign : d.value = d.digits * 10 ^ d.exponent := by
      unfold value
      rw [h]
      simp
    rw [hsign]
    exact mul_nonneg (Nat.cast_nonneg _) (zpow_nonneg (by norm_num) _)
  unfold exact nearest
  split
  · exact le_refl _
  · dsimp only
    split
    · rw [Option.getD_some]
      generalize max (Int.log 2 |d.value| - 52) (-1074) = e
      have hunit : (0 : ℚ) ≤ 2 ^ e := zpow_nonneg (by norm_num) _
      have hr : 0 ≤ roundEven (d.value / 2 ^ e) := roundEven_nonneg (div_nonneg hvalue hunit)
      exact mul_nonneg (by exact_mod_cast hr) hunit
    · exact hvalue

namespace FloatVal

theorem ofRat_ne_nan (neg : Bool) (q : ℚ) : ofRat neg q ≠ .nan := by
  unfold ofRat
  split
  · exact FloatVal.noConfusion
  · split
    · exact FloatVal.noConfusion
    · exact FloatVal.noConfusion

theorem ofRat_zero (neg : Bool) : ofRat neg 0 = .finite (.ofParts neg 0 0) := by
  unfold ofRat nearest
  simp

theorem floatOfInt_zero : floatOfInt 0 = .ok zero := by
  unfold floatOfInt trueDiv
  rw [Int.cast_zero, zero_div, ofRat_zero]
  rfl

/-- A float less itself is zero. -/
theorem sub_same (d : Decimal) : sub (.finite d) (.finite d) = zero := by
  have hsub : sub (.finite d) (.finite d) = ofRat (d.neg && !d.neg) (d.exact - d.exact) := rfl
  rw [hsub, sub_self, ofRat_zero, Bool.and_not_self]
  rfl

/-- Nothing positive is below a zero. -/
theorem lt_abs_zero (m : Nat) (e : Int) {d : Decimal} (h : d.digits = 0) :
    (ofScientific m e).lt (abs (.finite d)) = false := by
  have hpos : 0 ≤ (Decimal.ofParts false m e).exact := by
    apply Decimal.exact_nonneg
    unfold Decimal.ofParts
    split <;> rfl
  have hzero : (Decimal.exact { d with neg := false }) = 0 := Decimal.exact_zero h
  have hlt : (ofScientific m e).lt (abs (.finite d)) =
      decide ((Decimal.ofParts false m e).exact < Decimal.exact { d with neg := false }) := rfl
  rw [hlt, hzero]
  simpa using hpos

/-- A float and the float that `x or 0.0` makes of it are not apart. -/
theorem gap_self (d : Decimal) (m : Nat) (e : Int) :
    (ofScientific m e).lt (abs (sub (.finite d) (if d.digits = 0 then zero else .finite d))) =
      false := by
  split
  · next hzero =>
    have hexact : (Decimal.ofParts false 0 0).exact = 0 := Decimal.exact_zero rfl
    have hsub : sub (.finite d) zero = ofRat (d.neg && !(Decimal.ofParts false 0 0).neg)
        (d.exact - (Decimal.ofParts false 0 0).exact) := rfl
    rw [hsub, hexact, Decimal.exact_zero hzero, sub_zero, ofRat_zero]
    exact lt_abs_zero m e rfl
  · rw [sub_same]
    exact lt_abs_zero m e rfl

/-- Rounding a number gives a number. -/
theorem round_ne_nan {x : FloatVal} (h : x ≠ .nan) (n : Nat) : x.round n ≠ .nan := by
  cases x with
  | finite d => exact ofRat_ne_nan _ _
  | inf m => exact h
  | nan => exact h

/-- What is below one and above zero is finite. -/
theorem clamp_finite (x : FloatVal) : ∃ d, max zero (min one x) = .finite d := by
  unfold max min
  by_cases hlt : x.lt one = true
  · rw [if_pos hlt]
    split
    · next hpos =>
      cases x with
      | finite d => exact ⟨d, rfl⟩
      | inf n =>
        -- Only the negative infinity is below one, and it is not above zero.
        cases n with
        | true => cases hpos
        | false => cases hlt
      | nan => cases hlt
    · exact ⟨_, rfl⟩
  · rw [if_neg hlt]
    split
    · exact ⟨_, rfl⟩
    · exact ⟨_, rfl⟩

end FloatVal

/-- A float that is a number is equal to itself. -/
theorem pyEq_float_self {x : FloatVal} (h : x ≠ .nan) : (Value.float x).pyEq (.float x) = true := by
  cases x with
  | finite d =>
    unfold Value.pyEq
    by_cases hint : 0 ≤ d.exponent
    · simp [Value.scalar, hint]
    · simp [Value.scalar, hint]
  | inf n => simp [Value.pyEq, Value.scalar]
  | nan => exact absurd rfl h

end Python
