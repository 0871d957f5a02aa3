import Mathlib.Data.Nat.Basic
import Mathlib.Tactic.Ring
import NetworkRecovery.Python.Text

/-!
# Python numbers and their text

`int` is `Int`. A finite `float` is carried as the decimal its `repr` prints:
a sign, a digit string without trailing zeros, and a power of ten. That is the
value as far as text can see it, and the two directions between value and text
are `Decimal.text` (`float.__repr__`) and `readNumber` (the JSON number
grammar). Binary rounding is not modelled: reading `0.1` gives the decimal
one tenth.

`readNumber_text` and `readNumber_intText` are the round trips. They rest on
one fact about `Decimal.ofParts`: factors of ten in the digits move into the
exponent and nothing else changes (`ofParts_mul_pow`), which absorbs both the
`.0` a whole number prints and the zeros a small one leads with.
-/

namespace Python

/-! ## Decimals -/

/-- Move factors of ten from the digits into the exponent, at most `fuel` of
them. -/
def shiftTens : Nat → Nat → Int → Nat × Int
  | 0, m, e => (m, e)
  | fuel + 1, m, e => if m % 10 = 0 then shiftTens fuel (m / 10) (e + 1) else (m, e)

/-- A finite float: `digits · 10 ^ exponent`, with the sign apart so that
`-0.0` is a value of its own. The digits carry no trailing zero, so two
decimals are equal exactly when they print alike. -/
structure Decimal where
  neg : Bool
  digits : Nat
  exponent : Int
  canonical : digits % 10 ≠ 0 ∨ digits = 0 ∧ exponent = 0
  deriving DecidableEq

/-- With the number itself as fuel every factor of ten is found. -/
theorem shiftTens_canonical (fuel : Nat) : ∀ (m : Nat) (e : Int), m ≠ 0 → m ≤ fuel →
    (shiftTens fuel m e).1 % 10 ≠ 0 := by
  induction fuel with
  | zero => intro m e hm hle; omega
  | succ fuel ih =>
    intro m e hm hle
    unfold shiftTens
    split
    · exact ih (m / 10) (e + 1) (by omega) (by omega)
    · assumption

/-- The decimal `± m · 10 ^ e`. -/
def Decimal.ofParts (neg : Bool) (m : Nat) (e : Int) : Decimal :=
  if h : m = 0 then ⟨neg, 0, 0, .inr ⟨rfl, rfl⟩⟩
  else ⟨neg, (shiftTens m m e).1, (shiftTens m m e).2,
    .inl (shiftTens_canonical m m e h (Nat.le_refl m))⟩

/-- A decimal's parts give the decimal back. -/
theorem Decimal.ofParts_self (d : Decimal) : ofParts d.neg d.digits d.exponent = d := by
  obtain ⟨neg, m, e, hc⟩ := d
  unfold ofParts
  split
  · next h =>
    obtain rfl : m = 0 := h
    rcases hc with hc | ⟨_, rfl⟩
    · exact absurd rfl hc
    · rfl
  · next h =>
    have hm : m % 10 ≠ 0 := hc.resolve_right fun h0 => h h0.1
    cases m with
    | zero => exact absurd rfl h
    | succ k => simp only [shiftTens, if_neg hm]

/-- Factors of ten are taken out one by one, with any fuel that lasts. -/
theorem shiftTens_mul_pow (k : Nat) : ∀ (fuel m : Nat) (e : Int), m % 10 ≠ 0 → k ≤ fuel →
    shiftTens fuel (m * 10 ^ k) e = (m, e + k) := by
  induction k with
  | zero =>
    intro fuel m e hm _
    cases fuel with
    | zero => simp [shiftTens]
    | succ fuel => simp [shiftTens, hm]
  | succ k ih =>
    intro fuel m e hm hle
    cases fuel with
    | zero => omega
    | succ fuel =>
      have hdvd : m * 10 ^ (k + 1) = 10 * (m * 10 ^ k) := by
        rw [Nat.pow_succ, Nat.mul_comm (10 ^ k) 10, Nat.mul_left_comm]
      rw [shiftTens, hdvd, if_pos (Nat.mul_mod_right 10 _),
        Nat.mul_div_cancel_left _ (by omega : 0 < 10), ih fuel m _ hm (by omega)]
      congr 1
      push_cast
      omega

/-- `k` trailing zeros on the digits, taken back by the exponent, change
nothing. -/
theorem Decimal.ofParts_mul_pow (d : Decimal) (k : Nat) :
    ofParts d.neg (d.digits * 10 ^ k) (d.exponent - k) = ofParts d.neg d.digits d.exponent := by
  by_cases h0 : d.digits = 0
  · simp [ofParts, h0]
  · have hm : d.digits % 10 ≠ 0 := d.canonical.resolve_right fun h => h0 h.1
    have hpow : d.digits * 10 ^ k ≠ 0 := Nat.mul_ne_zero h0 (Nat.ne_of_gt (Nat.pow_pos (by decide)))
    have hk : k ≤ d.digits * 10 ^ k :=
      calc k ≤ 10 ^ k := Nat.le_of_lt (Nat.lt_pow_self (by decide))
        _ ≤ d.digits * 10 ^ k := Nat.le_mul_of_pos_left _ (Nat.pos_of_ne_zero h0)
    have hs := shiftTens_mul_pow k (d.digits * 10 ^ k) d.digits (d.exponent - k) hm hk
    rw [d.ofParts_self]
    unfold ofParts
    rw [dif_neg hpow]
    simp only [hs]
    obtain ⟨neg, m, e, hc⟩ := d
    simp

/-! ## Printing -/

/-- The decimal digits of a natural number. -/
def natText (n : Nat) : List Char := Nat.toDigits 10 n

/-- `str(n)` of an `int`. -/
def intText : Int → List Char
  | .ofNat n => natText n
  | .negSucc n => '-' :: natText (n + 1)

/-- The exponent of scientific notation: a sign and at least two digits. -/
def exponentText (e : Int) : List Char :=
  let ds := natText e.natAbs
  (if e < 0 then '-' else '+') :: (if ds.length < 2 then '0' :: ds else ds)

/-- `float.__repr__` without the sign: plain notation while the point lies
within the first sixteen places or up to three zeros before the digits,
scientific notation beyond. -/
def Decimal.magnitudeText (d : Decimal) : List Char :=
  let ds := natText d.digits
  let point : Int := ds.length + d.exponent
  if -4 < point ∧ point ≤ 16 then
    if point ≤ 0 then '0' :: '.' :: (List.replicate (-point).toNat '0' ++ ds)
    else if ds.length ≤ point.toNat then
      ds ++ List.replicate (point.toNat - ds.length) '0' ++ ['.', '0']
    else ds.take point.toNat ++ '.' :: ds.drop point.toNat
  else
    match ds with
    | [] => []
    | [c] => c :: 'e' :: exponentText (point - 1)
    | c :: cs => c :: '.' :: (cs ++ 'e' :: exponentText (point - 1))

/-- `float.__repr__` of a finite float. -/
def Decimal.text (d : Decimal) : List Char :=
  if d.neg then '-' :: d.magnitudeText else d.magnitudeText

/-! ## Reading -/

/-- A number as the JSON grammar distinguishes them. -/
inductive Number where
  | int (n : Int)
  | float (d : Decimal)
  deriving DecidableEq

/-- The leading digits and what follows them. -/
def spanDigits (s : List Char) : List Char × List Char :=
  (s.takeWhile Char.isDigit, s.dropWhile Char.isDigit)

/-- The fraction part: a point and at least one digit, or nothing. -/
def readFraction : List Char → Option (Option (List Char) × List Char)
  | '.' :: cs =>
    match spanDigits cs with
    | ([], _) => none
    | (ds, rest) => some (some ds, rest)
  | cs => some (none, cs)

/-- The exponent part: `e` or `E`, a sign or none, at least one digit; or nothing. -/
def readExponent : List Char → Option (Option Int × List Char)
  | [] => some (none, [])
  | c :: cs =>
    if c = 'e' ∨ c = 'E' then
      let (neg, cs) := match cs with
        | '-' :: t => (true, t)
        | '+' :: t => (false, t)
        | t => (false, t)
      match spanDigits cs with
      | ([], _) => none
      | (ds, rest) =>
        let n : Int := Nat.ofDigitChars 10 ds 0
        some (some (if neg then -n else n), rest)
    else some (none, c :: cs)

/-- The JSON number grammar without its sign: no leading zeros, then the
optional fraction and exponent, and nothing after them. -/
def readMagnitude (neg : Bool) (s : List Char) : Option Number :=
  match spanDigits s with
  | ([], _) => none
  | ('0' :: _ :: _, _) => none
  | (whole, rest) =>
    (readFraction rest).bind fun (frac, rest) =>
      (readExponent rest).bind fun (ex, rest) =>
        match rest, frac, ex with
        | [], none, none =>
          let n : Int := Nat.ofDigitChars 10 whole 0
          some (.int (if neg then -n else n))
        | [], frac, ex =>
          let fs := frac.getD []
          some (.float (.ofParts neg (Nat.ofDigitChars 10 (whole ++ fs) 0)
            (ex.getD 0 - fs.length)))
        | _, _, _ => none

/-- A JSON number literal, `none` where the text is not one. -/
def readNumber : List Char → Option Number
  | '-' :: cs => readMagnitude true cs
  | cs => readMagnitude false cs

/-! ## The round trips -/

/-- What may follow a run of digits without lengthening it. -/
def NoDigitHead (s : List Char) : Prop := ∀ c ∈ s.head?, c.isDigit = false

/-- A run of digits ends where something else begins. -/
theorem spanDigits_append {ds : List Char} (rest : List Char) (hd : ∀ c ∈ ds, c.isDigit = true)
    (hr : NoDigitHead rest) : spanDigits (ds ++ rest) = (ds, rest) := by
  unfold spanDigits
  rw [List.takeWhile_append_of_pos hd, List.dropWhile_append_of_pos hd]
  cases rest with
  | nil => simp
  | cons c cs =>
    have hc : ¬ c.isDigit = true := by simp [hr c (by simp)]
    rw [List.takeWhile_cons_of_neg hc, List.dropWhile_cons_of_neg hc, List.append_nil]

theorem isDigit_natText {n : Nat} {c : Char} (h : c ∈ natText n) : c.isDigit = true :=
  Nat.isDigit_of_mem_toDigits (by decide) (by decide) h

theorem natText_ne_nil (n : Nat) : natText n ≠ [] := Nat.toDigits_ne_nil

@[simp] theorem ofDigitChars_natText (n : Nat) : Nat.ofDigitChars 10 (natText n) 0 = n :=
  Nat.ofDigitChars_ten_toDigits

/-- A number's first digit is zero only for zero itself, whose text is `0`. -/
theorem natText_zero_head (n : Nat) (cs : List Char) (h : natText n = '0' :: cs) : cs = [] := by
  induction n using Nat.strongRecOn generalizing cs with
  | ind n ih =>
    unfold natText at h ih
    by_cases hn : n < 10
    · rw [Nat.toDigits_of_lt_base hn] at h
      exact (List.cons.inj h).2.symm
    · rw [Nat.toDigits_of_base_le (by decide) (Nat.le_of_not_lt hn)] at h
      -- the leading digits are those of `n / 10`, which is not zero
      cases hq : Nat.toDigits 10 (n / 10) with
      | nil => exact absurd hq Nat.toDigits_ne_nil
      | cons c qs =>
        rw [hq, List.cons_append] at h
        obtain ⟨rfl, _⟩ := List.cons.inj h
        have hnil := ih (n / 10) (by omega) qs hq
        have hval : Nat.ofDigitChars 10 (Nat.toDigits 10 (n / 10)) 0 = n / 10 :=
          Nat.ofDigitChars_ten_toDigits
        rw [hq, hnil] at hval
        simp [Nat.ofDigitChars_cons] at hval
        omega

/-- The reader's first step over a digit run without a leading zero. -/
theorem readMagnitude_eq (neg : Bool) (whole rest : List Char)
    (hd : ∀ c ∈ whole, c.isDigit = true) (hne : whole ≠ [])
    (hz : ∀ cs, whole = '0' :: cs → cs = []) (hr : NoDigitHead rest) :
    readMagnitude neg (whole ++ rest) =
      (readFraction rest).bind fun (frac, rest) =>
        (readExponent rest).bind fun (ex, rest) =>
          match rest, frac, ex with
          | [], none, none =>
            let n : Int := Nat.ofDigitChars 10 whole 0
            some (.int (if neg then -n else n))
          | [], frac, ex =>
            let fs := frac.getD []
            some (.float (.ofParts neg (Nat.ofDigitChars 10 (whole ++ fs) 0)
              (ex.getD 0 - fs.length)))
          | _, _, _ => none := by
  unfold readMagnitude
  rw [spanDigits_append rest hd hr]
  split
  · next h => exact absurd (Prod.mk.inj h).1 hne
  · next h =>
    have := hz _ (Prod.mk.inj h).1
    exact absurd this (by simp)
  · next h =>
    obtain ⟨rfl, rfl⟩ := Prod.mk.inj h
    rfl

/-- Reading an integer's text gives the integer. -/
theorem readNumber_intText (n : Int) : readNumber (intText n) = some (.int n) := by
  have key : ∀ (neg : Bool) (m : Nat), readMagnitude neg (natText m) =
      some (.int (if neg then -(m : Int) else m)) := by
    intro neg m
    have h := readMagnitude_eq neg (natText m) []
      (fun c hc => isDigit_natText hc) (natText_ne_nil m) (natText_zero_head m)
      (by intro c hc; simp at hc)
    rw [List.append_nil] at h
    rw [h]
    simp [readFraction, readExponent]
  have unsigned : ∀ m : Nat, readNumber (natText m) = readMagnitude false (natText m) := by
    intro m
    unfold readNumber
    split
    · next cs h =>
      have : ('-' : Char).isDigit = true := isDigit_natText (n := m) (by rw [h]; simp)
      exact absurd this (by decide)
    · rfl
  cases n with
  | ofNat m => simp [intText, unsigned, key]
  | negSucc m =>
    simp only [intText, readNumber, key, if_true]
    congr 2

theorem readFraction_append {fs : List Char} (rest : List Char) (hd : ∀ c ∈ fs, c.isDigit = true)
    (hne : fs ≠ []) (hr : NoDigitHead rest) :
    readFraction ('.' :: (fs ++ rest)) = some (some fs, rest) := by
  simp only [readFraction, spanDigits_append rest hd hr]

/-- The padding zero of an exponent does not change its value. -/
theorem spanDigits_padded (n : Nat) :
    ∃ c cs, spanDigits (if (natText n).length < 2 then '0' :: natText n else natText n) =
      (c :: cs, []) ∧ Nat.ofDigitChars 10 (c :: cs) 0 = n := by
  have hdigits : ∀ c ∈ (if (natText n).length < 2 then '0' :: natText n else natText n),
      c.isDigit = true := by
    intro c hc
    split at hc
    · rcases List.mem_cons.mp hc with rfl | hc
      · rfl
      · exact isDigit_natText hc
    · exact isDigit_natText hc
  have hspan := spanDigits_append [] hdigits (by intro c hc; simp at hc)
  rw [List.append_nil] at hspan
  rw [hspan]
  split
  · exact ⟨_, _, rfl, by simp [Nat.ofDigitChars_cons]⟩
  · cases hn : natText n with
    | nil => exact absurd hn (natText_ne_nil n)
    | cons c cs => exact ⟨c, cs, rfl, by rw [← hn, ofDigitChars_natText]⟩

/-- Reading an exponent's text gives the exponent. -/
theorem readExponent_text (e : Int) : readExponent ('e' :: exponentText e) = some (some e, []) := by
  obtain ⟨c, cs, hspan, hval⟩ := spanDigits_padded e.natAbs
  simp only [exponentText]
  -- the padded digits matter only through what `spanDigits` makes of them
  generalize (if (natText e.natAbs).length < 2 then '0' :: natText e.natAbs
    else natText e.natAbs) = ds at hspan ⊢
  unfold readExponent
  by_cases hneg : e < 0
  · have habs : (Nat.ofDigitChars 10 (c :: cs) 0 : Int) = -e := by omega
    simp [hneg, hspan, habs]
  · have habs : (Nat.ofDigitChars 10 (c :: cs) 0 : Int) = e := by omega
    simp [hneg, hspan, habs]

/-- Reading digits, a point and more digits. -/
theorem readMagnitude_plain (neg : Bool) (whole fs : List Char)
    (hd : ∀ c ∈ whole, c.isDigit = true) (hne : whole ≠ [])
    (hz : ∀ cs, whole = '0' :: cs → cs = []) (hfd : ∀ c ∈ fs, c.isDigit = true) (hfne : fs ≠ []) :
    readMagnitude neg (whole ++ '.' :: fs) =
      some (.float (.ofParts neg (Nat.ofDigitChars 10 (whole ++ fs) 0) (0 - fs.length))) := by
  rw [readMagnitude_eq _ _ _ hd hne hz (by intro c hc; cases hc; rfl)]
  have hf := readFraction_append [] hfd hfne (by intro c hc; simp at hc)
  rw [List.append_nil] at hf
  simp [hf, readExponent]

/-- Reading one digit, perhaps a fraction, and an exponent. -/
theorem readMagnitude_scientific (neg : Bool) {c : Char} {fs : List Char} (e : Int)
    (hc : c.isDigit = true) (hfd : ∀ d ∈ fs, d.isDigit = true) :
    readMagnitude neg (c :: (if fs = [] then 'e' :: exponentText e
        else '.' :: (fs ++ 'e' :: exponentText e))) =
      some (.float (.ofParts neg (Nat.ofDigitChars 10 (c :: fs) 0) (e - fs.length))) := by
  have hd : ∀ d ∈ [c], d.isDigit = true := by simpa using hc
  have hz : ∀ cs, [c] = '0' :: cs → cs = [] := fun cs h => (List.cons.inj h).2.symm
  by_cases hnil : fs = []
  · subst hnil
    have := readMagnitude_eq neg [c] ('e' :: exponentText e) hd (by simp) hz
      (by intro d hd; cases hd; rfl)
    simp only [List.singleton_append] at this
    simp only [if_true, this]
    simp [readFraction, readExponent_text]
  · have := readMagnitude_eq neg [c] ('.' :: (fs ++ 'e' :: exponentText e)) hd (by simp) hz
      (by intro d hd; cases hd; rfl)
    simp only [List.singleton_append] at this
    simp only [if_neg hnil, this]
    rw [readFraction_append _ hfd hnil (by intro d hd; cases hd; rfl)]
    simp [readExponent_text]

/-- The digits of a decimal's text lead with a zero only in `0.0`. -/
theorem Decimal.zero_head (d : Decimal) {cs : List Char} (h : natText d.digits = '0' :: cs) :
    cs = [] ∧ d.digits = 0 ∧ d.exponent = 0 := by
  have hnil := natText_zero_head d.digits cs h
  have hval := ofDigitChars_natText d.digits
  rw [h, hnil] at hval
  have h0 : d.digits = 0 := by simpa [Nat.ofDigitChars_cons] using hval.symm
  exact ⟨hnil, h0, (d.canonical.resolve_left (by simp [h0])).2⟩

theorem isDigit_replicate_zero {k : Nat} {c : Char} (h : c ∈ List.replicate k '0') :
    c.isDigit = true := by
  rw [List.eq_of_mem_replicate h]
  rfl

/-- The point stands before the digits, with zeros in between. -/
theorem readMagnitude_small (d : Decimal) (h : (natText d.digits).length + d.exponent ≤ 0) :
    readMagnitude d.neg ('0' :: '.' :: (List.replicate
        (-((natText d.digits).length + d.exponent)).toNat '0' ++ natText d.digits)) =
      some (.float d) := by
  have hplain := readMagnitude_plain d.neg ['0']
    (List.replicate (-((natText d.digits).length + d.exponent)).toNat '0' ++ natText d.digits)
    (by simp) (by simp) (fun cs h => (List.cons.inj h).2.symm)
    (fun c hc => (List.mem_append.mp hc).elim isDigit_replicate_zero isDigit_natText)
    (by simp [natText_ne_nil])
  have hexp : (0 - ((List.replicate (-((natText d.digits).length + d.exponent)).toNat '0' ++
      natText d.digits).length : Int)) = d.exponent := by
    rw [List.length_append, List.length_replicate]
    omega
  rw [List.singleton_append] at hplain
  rw [hplain, hexp]
  simp [Nat.ofDigitChars_cons, Nat.ofDigitChars_append, d.ofParts_self]

/-- A whole number: the zeros behind the digits and the `.0` are factors of ten. -/
theorem readMagnitude_whole (d : Decimal) {k : Nat} (hk : d.exponent = k) :
    readMagnitude d.neg (natText d.digits ++ List.replicate k '0' ++ ['.', '0']) =
      some (.float d) := by
  have hhead : ∀ cs, natText d.digits ++ List.replicate k '0' = '0' :: cs → cs = [] := by
    intro cs h
    cases hn : natText d.digits with
    | nil => exact absurd hn (natText_ne_nil _)
    | cons c qs =>
      rw [hn, List.cons_append] at h
      obtain ⟨rfl, h2⟩ := List.cons.inj h
      obtain ⟨hq, -, he⟩ := d.zero_head hn
      have hk0 : k = 0 := by omega
      rw [← h2, hq, hk0]
      rfl
  have hplain := readMagnitude_plain d.neg (natText d.digits ++ List.replicate k '0') ['0']
    (fun c hc => (List.mem_append.mp hc).elim isDigit_natText isDigit_replicate_zero)
    (by simp [natText_ne_nil]) hhead (by simp) (by simp)
  have hexp : (0 - ((['0'] : List Char).length : Int)) = d.exponent - (k + 1 : Nat) := by
    simp only [List.length_cons, List.length_nil]
    omega
  have hdigits : Nat.ofDigitChars 10 (natText d.digits ++ List.replicate k '0' ++ ['0']) 0 =
      d.digits * 10 ^ (k + 1) := by
    rw [Nat.ofDigitChars_append, Nat.ofDigitChars_append, ofDigitChars_natText,
      Nat.ofDigitChars_replicate_zero, Nat.ofDigitChars_cons, Nat.ofDigitChars_nil, Nat.pow_succ]
    simp only [Nat.sub_self, Nat.add_zero]
    ring
  rw [hplain, hexp, hdigits, d.ofParts_mul_pow, d.ofParts_self]

/-- The point falls inside the digits. -/
theorem readMagnitude_inside (d : Decimal) {k : Nat} (hk : 0 < k)
    (hlt : k < (natText d.digits).length)
    (hexp : (natText d.digits).length + d.exponent = k) :
    readMagnitude d.neg ((natText d.digits).take k ++ '.' :: (natText d.digits).drop k) =
      some (.float d) := by
  have hhead : ∀ cs, (natText d.digits).take k = '0' :: cs → cs = [] := by
    intro cs h
    obtain ⟨n, rfl⟩ : ∃ n, k = n + 1 := ⟨k - 1, by omega⟩
    cases hn : natText d.digits with
    | nil => exact absurd hn (natText_ne_nil _)
    | cons c qs =>
      rw [hn, List.take_succ_cons] at h
      obtain ⟨rfl, h2⟩ := List.cons.inj h
      rw [← h2, (d.zero_head hn).1]
      simp
  have hplain := readMagnitude_plain d.neg ((natText d.digits).take k)
    ((natText d.digits).drop k) (fun c hc => isDigit_natText (List.mem_of_mem_take hc))
    (by
      rw [Ne, List.take_eq_nil_iff, not_or]
      exact ⟨by omega, natText_ne_nil _⟩)
    hhead (fun c hc => isDigit_natText (List.mem_of_mem_drop hc))
    (by
      rw [Ne, List.drop_eq_nil_iff]
      omega)
  have hdrop : (0 - (((natText d.digits).length - k : Nat) : Int)) = d.exponent := by omega
  rw [hplain, List.take_append_drop, ofDigitChars_natText, List.length_drop, hdrop,
    d.ofParts_self]

/-- Reading the text of a float's magnitude gives the float. -/
theorem readMagnitude_text (d : Decimal) :
    readMagnitude d.neg d.magnitudeText = some (.float d) := by
  have hne := natText_ne_nil d.digits
  have hpos : 0 < (natText d.digits).length := List.length_pos_iff.mpr hne
  unfold Decimal.magnitudeText
  dsimp only
  split
  · split
    · rename_i hle
      exact readMagnitude_small d hle
    · split
      · have hzeros : ((natText d.digits).length + d.exponent).toNat -
            (natText d.digits).length = d.exponent.toNat := by omega
        rw [hzeros]
        exact readMagnitude_whole d (by omega)
      · exact readMagnitude_inside d (by omega) (by omega) (by omega)
  · cases hn : natText d.digits with
    | nil => exact absurd hn hne
    | cons c cs =>
      have hdigits : ∀ x ∈ c :: cs, x.isDigit = true := fun x hx => isDigit_natText (hn ▸ hx)
      have h := readMagnitude_scientific d.neg ((c :: cs).length + d.exponent - 1)
        (hdigits c List.mem_cons_self) fun x hx => hdigits x (List.mem_cons_of_mem c hx)
      have hval := ofDigitChars_natText d.digits
      rw [hn] at hval
      have hexp : ((c :: cs).length + d.exponent - 1 - (cs.length : Int)) = d.exponent := by
        simp only [List.length_cons]
        omega
      rw [hval, hexp, d.ofParts_self] at h
      cases cs with
      | nil => simpa using h
      | cons x xs => simpa using h

/-- Reading a float's text gives the float. -/
theorem readNumber_text (d : Decimal) : readNumber d.text = some (.float d) := by
  have h := readMagnitude_text d
  unfold Decimal.text
  cases hneg : d.neg with
  | true =>
    rw [hneg] at h
    simpa [readNumber] using h
  | false =>
    rw [hneg] at h
    simp only [Bool.false_eq_true, if_false]
    unfold readNumber
    split
    · next cs hcs =>
      rw [hcs] at h
      simp [readMagnitude, spanDigits] at h
    · exact h

/-! ## `int()` reads what `str()` writes -/

theorem isDigit_bounds {c : Char} (h : c.isDigit = true) : 48 ≤ c.toNat ∧ c.toNat ≤ 57 := by
  unfold Char.isDigit at h
  rw [Bool.and_eq_true, decide_eq_true_eq, decide_eq_true_eq] at h
  exact h

theorem isSpace_of_isDigit {c : Char} (h : c.isDigit = true) : isSpace c = false := by
  have hbounds := isDigit_bounds h
  unfold isSpace
  simp
  omega

/-- A number that can be read has a digit. -/
theorem exists_isDigit_of_readNumber {s : List Char} {n : Number} (h : readNumber s = some n) :
    ∃ c ∈ s, c.isDigit = true := by
  have hmagnitude : ∀ (neg : Bool) (t : List Char), readMagnitude neg t = some n →
      ∃ c ∈ t, c.isDigit = true := by
    intro neg t ht
    cases hdigits : t.takeWhile Char.isDigit with
    | nil =>
      unfold readMagnitude spanDigits at ht
      rw [hdigits] at ht
      cases ht
    | cons c ds =>
      have hc : c ∈ t.takeWhile Char.isDigit := by
        rw [hdigits]
        exact List.mem_cons_self
      exact ⟨c, (List.takeWhile_prefix _).subset hc, List.mem_takeWhile_imp hc⟩
  unfold readNumber at h
  split at h
  · obtain ⟨c, hc, hdigit⟩ := hmagnitude true _ h
    exact ⟨c, List.mem_cons_of_mem _ hc, hdigit⟩
  · exact hmagnitude false _ h

theorem decimalValue_of_isDigit {c : Char} (h : c.isDigit = true) :
    decimalValue c = some (c.toNat - '0'.toNat) := by
  have hbounds := isDigit_bounds h
  have hfirst : (decide (0x30 ≤ c.toNat) && decide (c.toNat < 0x30 + 10)) = true := by
    simp; omega
  unfold decimalValue decimalZeros
  rw [List.find?_cons, hfirst]
  rfl

theorem digitsUnderscored_of_isDigit {ds : List Char} (h : ∀ c ∈ ds, c.isDigit = true) :
    ∀ after, (after = true ∨ ds ≠ []) →
      digitsUnderscored after ds = some (ds.map fun c => c.toNat - '0'.toNat) := by
  induction ds with
  | nil =>
    intro after hafter
    obtain rfl : after = true := hafter.resolve_right (by simp)
    rfl
  | cons c cs ih =>
    intro after _
    have hc := h c List.mem_cons_self
    have hunder : c ≠ '_' := by
      rintro rfl
      exact absurd hc (by decide)
    have hrest := ih (fun d hd => h d (List.mem_cons_of_mem c hd)) true (.inl rfl)
    cases after <;> simp [digitsUnderscored, hunder, decimalValue_of_isDigit hc, hrest]

/-- Up to the limit on digits. -/
theorem intOfText_natText {n : Nat} (hlen : (natText n).length ≤ intMaxStrDigits) :
    intOfText (natText n) = some (n : Int) := by
  have hdigits : ∀ c ∈ natText n, c.isDigit = true := fun c hc => isDigit_natText hc
  have hstrip : strip (natText n) = natText n :=
    strip_of_noSpace fun c hc => isSpace_of_isDigit (hdigits c hc)
  have hread := digitsUnderscored_of_isDigit hdigits false (.inr (natText_ne_nil n))
  have hvalue : ofDecimal ((natText n).map fun c => c.toNat - '0'.toNat) = n := by
    rw [ofDecimal, List.foldl_map, ← Nat.ofDigitChars_eq_foldl, ofDigitChars_natText]
  have hmagnitude : ((digitsUnderscored false (natText n)).bind fun ds =>
      if intMaxStrDigits < ds.length then none else some (ofDecimal ds)) = some n := by
    rw [hread, Option.bind_some, List.length_map, if_neg (Nat.not_lt.mpr hlen), hvalue]
  unfold intOfText
  dsimp only
  rw [hstrip]
  split
  · rename_i cs hcs
    exact absurd (hdigits '-' (hcs ▸ List.mem_cons_self)) (by decide)
  · rename_i cs hcs
    exact absurd (hdigits '+' (hcs ▸ List.mem_cons_self)) (by decide)
  · rw [hmagnitude]
    rfl

end Python
