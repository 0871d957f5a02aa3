import NetworkRecovery.Lib.FixedWidth
import NetworkRecovery.Timing.Windows

/-!
# Dates, and the texts of instants

`datetime.isoformat`: the date on the Gregorian calendar, found in cycles of four hundred,
one hundred, four years and one, then the time in fields of fixed widths. The texts of
instants in UTC are ordered as the instants are (`isoformatUtc_lt_iff`), so that a text
tells the instant (`isoformatUtc_inj`). A text without a fraction comes before those that
have one, for the sign of the offset comes before the point.
-/

namespace Timing

open FixedWidth

/-! ## Years -/

def isLeap (year : Nat) : Bool := year % 4 == 0 && (year % 100 != 0 || year % 400 == 0)

/-- `_days_before_year`. -/
def daysBeforeYear (year : Nat) : Nat :=
  let y := year - 1
  y * 365 + y / 4 - y / 100 + y / 400

/-- The year of a day, the first being 0, and the day of the year. -/
def yearOf (n : Nat) : Nat × Nat :=
  let n400 := n / 146097
  let n := n % 146097
  let n100 := n / 36524
  let n := n % 36524
  let n4 := n / 1461
  let n := n % 1461
  let n1 := n / 365
  let n := n % 365
  let year := n400 * 400 + 1 + n100 * 100 + n4 * 4 + n1
  -- the last day of a leap year is one more than the years of a cycle have
  if n1 = 4 ∨ n100 = 4 then (year - 1, 365) else (year, n)

/-- A year in its cycles. -/
abbrev yearAt (n400 n100 n4 n1 : Nat) : Nat := n400 * 400 + 1 + n100 * 100 + n4 * 4 + n1

theorem daysBeforeYear_yearAt {n400 n100 n4 n1 : Nat} (h100 : n100 ≤ 3) (h4 : n4 ≤ 24)
    (h1 : n1 ≤ 3) :
    daysBeforeYear (yearAt n400 n100 n4 n1) =
      n400 * 146097 + n100 * 36524 + n4 * 1461 + n1 * 365 := by
  unfold daysBeforeYear yearAt
  dsimp only
  omega

theorem isLeap_iff {year : Nat} :
    isLeap year = true ↔ year % 4 = 0 ∧ (year % 100 ≠ 0 ∨ year % 400 = 0) := by
  simp only [isLeap, Bool.and_eq_true, Bool.or_eq_true, beq_iff_eq, bne_iff_ne]

/-- The days of a year. -/
def yearLength (year : Nat) : Nat := if isLeap year then 366 else 365

/-- The multiples of a number up to the next one. -/
theorem succ_div_eq (y k : Nat) : (y + 1) / k = y / k + if (y + 1) % k = 0 then 1 else 0 := by
  rw [Nat.succ_div]
  simp only [Nat.dvd_iff_mod_eq_zero]

theorem daysBeforeYear_succ (y : Nat) :
    daysBeforeYear (y + 1 + 1) = daysBeforeYear (y + 1) + yearLength (y + 1) := by
  have hle : y / 100 ≤ y / 4 := by omega
  have h100 : (y + 1) % 100 = 0 → (y + 1) % 4 = 0 := by omega
  have h400 : (y + 1) % 400 = 0 → (y + 1) % 100 = 0 := by omega
  unfold yearLength daysBeforeYear
  simp only [Nat.add_sub_cancel, succ_div_eq, isLeap_iff]
  generalize y / 4 = q4, y / 100 = q100, y / 400 = q400 at *
  generalize (y + 1) % 4 = r4, (y + 1) % 100 = r100, (y + 1) % 400 = r400 at *
  split_ifs <;> omega

theorem daysBeforeYear_mono {y y' : Nat} (h : y ≤ y') :
    daysBeforeYear y ≤ daysBeforeYear y' := by
  induction h with
  | refl => exact le_rfl
  | @step z h ih =>
    cases z with
    | zero => exact ih.trans (by decide)
    | succ z =>
      rw [Nat.succ_eq_add_one, daysBeforeYear_succ]
      omega

/-- A day is in a year of the calendar. -/
structure InYear (n year r : Nat) : Prop where
  pos : 0 < year
  eq : n = daysBeforeYear year + r
  lt : r < yearLength year

theorem inYear_yearAt (n400 : Nat) {n100 n4 n1 r : Nat} (h100 : n100 ≤ 3) (h4 : n4 ≤ 24) (h1 : n1 ≤ 3)
    (hr : r < 365 ∨ r < 366 ∧ n1 = 3 ∧ (n4 ≤ 23 ∨ n100 = 3)) :
    InYear (n400 * 146097 + n100 * 36524 + n4 * 1461 + n1 * 365 + r)
      (yearAt n400 n100 n4 n1) r := by
  refine ⟨by unfold yearAt; omega, by rw [daysBeforeYear_yearAt h100 h4 h1], ?_⟩
  unfold yearLength
  split
  next => omega
  next h =>
    rw [isLeap_iff] at h
    unfold yearAt at h
    omega

theorem inYear_yearOf (n : Nat) : InYear n (yearOf n).1 (yearOf n).2 := by
  unfold yearOf
  dsimp only
  have h400 := Nat.div_add_mod n 146097
  have hlt400 := Nat.mod_lt n (show 146097 > 0 by decide)
  generalize n / 146097 = n400, n % 146097 = r400 at *
  have h100 := Nat.div_add_mod r400 36524
  have hlt100 := Nat.mod_lt r400 (show 36524 > 0 by decide)
  generalize r400 / 36524 = n100, r400 % 36524 = r100 at *
  have h4 := Nat.div_add_mod r100 1461
  have hlt4 := Nat.mod_lt r100 (show 1461 > 0 by decide)
  generalize r100 / 1461 = n4, r100 % 1461 = r4 at *
  have h1 := Nat.div_add_mod r4 365
  have hlt1 := Nat.mod_lt r4 (show 365 > 0 by decide)
  generalize r4 / 365 = n1, r4 % 365 = r at *
  by_cases hfour : n1 = 4
  · -- the last day of four years
    have hin : InYear _ (yearAt n400 n100 n4 3) 365 :=
      inYear_yearAt n400 (by omega) (by omega) le_rfl (by omega)
    rw [if_pos (.inl hfour)]
    convert hin using 1
    · omega
    · dsimp only [yearAt]
      omega
  · by_cases hcentury : n100 = 4
    · -- the last day of four centuries
      have hin : InYear _ (yearAt n400 3 24 3) 365 :=
        inYear_yearAt n400 le_rfl le_rfl le_rfl (by omega)
      rw [if_pos (.inr hcentury)]
      convert hin using 1
      · omega
      · dsimp only [yearAt]
        omega
    · have hin : InYear _ (yearAt n400 n100 n4 n1) r :=
        inYear_yearAt n400 (by omega) (by omega) (by omega) (by omega)
      rw [if_neg (by omega)]
      convert hin using 1
      omega

/-- A later day is in a later year, or later in the same one. -/
theorem InYear.lt_or_eq {n n' y y' r r' : Nat} (h : InYear n y r) (h' : InYear n' y' r')
    (hlt : n < n') : y < y' ∨ y = y' ∧ r < r' := by
  obtain hyear | rfl | hyear := lt_trichotomy y y'
  · exact .inl hyear
  · have hn := h.eq
    have hn' := h'.eq
    exact .inr ⟨rfl, by omega⟩
  · obtain ⟨z, rfl⟩ : ∃ z, y' = z + 1 := ⟨y' - 1, (Nat.sub_add_cancel h'.pos).symm⟩
    have hnext := daysBeforeYear_mono (Nat.succ_le_of_lt hyear)
    rw [Nat.succ_eq_add_one, daysBeforeYear_succ] at hnext
    have hn := h.eq
    have hn' := h'.eq
    have hr' := h'.lt
    omega

/-! ## Months -/

/-- The days of the months. -/
def monthLengths (leap : Bool) : List Nat :=
  [31, if leap then 29 else 28, 31, 30, 31, 30, 31, 31, 30, 31, 30, 31]

/-- `_days_before_month`. -/
def daysBeforeMonth (leap : Bool) (month : Nat) : Nat := ((monthLengths leap).take (month - 1)).sum

/-- The month of a day of the year, the first being 0: as many months have begun. -/
def monthOf (leap : Bool) (r : Nat) : Nat :=
  ((List.range 12).filter fun month => daysBeforeMonth leap (month + 1) ≤ r).length

theorem daysBeforeMonth_mono (leap : Bool) {m m' : Nat} (h : m ≤ m') :
    daysBeforeMonth leap m ≤ daysBeforeMonth leap m' := by
  unfold daysBeforeMonth
  have htake : List.Sublist ((monthLengths leap).take (m - 1)) ((monthLengths leap).take (m' - 1)) :=
    List.take_sublist_take_left (Nat.sub_le_sub_right h 1)
  exact htake.sum_le_sum fun _ _ => Nat.zero_le _

theorem daysBeforeMonth_end (leap : Bool) :
    daysBeforeMonth leap 13 = if leap then 366 else 365 := by
  cases leap <;> rfl

/-- A month has at most 31 days. -/
theorem daysBeforeMonth_succ_le (leap : Bool) :
    ∀ month < 13, daysBeforeMonth leap (month + 1) ≤ daysBeforeMonth leap month + 31 := by
  cases leap <;> decide

/-- A day before the end of some months is in one of them. -/
theorem exists_month {leap : Bool} {r n : Nat} (h : r < daysBeforeMonth leap n) :
    ∃ month < n, daysBeforeMonth leap month ≤ r ∧ r < daysBeforeMonth leap (month + 1) := by
  induction n with
  | zero => exact absurd h (Nat.not_lt_zero r)
  | succ n ih =>
    by_cases hbefore : r < daysBeforeMonth leap n
    · obtain ⟨month, hmonth, hin⟩ := ih hbefore
      exact ⟨month, Nat.lt_succ_of_lt hmonth, hin⟩
    · exact ⟨n, Nat.lt_succ_self n, Nat.not_lt.mp hbefore, h⟩

/-- The month that a day is in is the last one that has begun. -/
theorem monthOf_eq {leap : Bool} {r month : Nat} (hmonth : month < 13)
    (hbegun : daysBeforeMonth leap month ≤ r) (hend : r < daysBeforeMonth leap (month + 1)) :
    monthOf leap r = month := by
  obtain ⟨later, hlater⟩ : ∃ later, 12 = month + later := ⟨12 - month, by omega⟩
  have hfirst : ∀ m ∈ List.range month, decide (daysBeforeMonth leap (m + 1) ≤ r) = true := by
    intro m hm
    have hle := daysBeforeMonth_mono leap (Nat.succ_le_of_lt (List.mem_range.mp hm))
    exact decide_eq_true (hle.trans hbegun)
  have hrest : ∀ m ∈ (List.range later).map (month + ·),
      ¬ decide (daysBeforeMonth leap (m + 1) ≤ r) = true := by
    intro m hm
    obtain ⟨i, -, rfl⟩ := List.mem_map.mp hm
    have hle := daysBeforeMonth_mono leap (Nat.succ_le_succ (Nat.le_add_right month i))
    rw [decide_eq_true_eq]
    exact Nat.not_le.mpr (hend.trans_le hle)
  unfold monthOf
  rw [hlater, List.range_add, List.filter_append, List.filter_eq_self.mpr hfirst,
    List.filter_eq_nil_iff.mpr hrest, List.append_nil, List.length_range]

theorem monthOf_spec (leap : Bool) (r : Nat) (h : r < if leap then 366 else 365) :
    monthOf leap r < 13 ∧ daysBeforeMonth leap (monthOf leap r) ≤ r ∧
      r < daysBeforeMonth leap (monthOf leap r + 1) ∧
        r < daysBeforeMonth leap (monthOf leap r) + 31 := by
  rw [← daysBeforeMonth_end] at h
  obtain ⟨month, hmonth, hbegun, hend⟩ := exists_month h
  rw [monthOf_eq hmonth hbegun hend]
  exact ⟨hmonth, hbegun, hend, hend.trans_le (daysBeforeMonth_succ_le leap month hmonth)⟩

/-- A later day is in a later month, or later in the same one. -/
theorem monthOf_lt_or_eq {leap : Bool} {r r' : Nat} (h : r < if leap then 366 else 365)
    (h' : r' < if leap then 366 else 365) (hlt : r < r') :
    monthOf leap r < monthOf leap r' ∨ monthOf leap r = monthOf leap r' := by
  rw [← le_iff_lt_or_eq]
  by_contra hlate
  have hspec := monthOf_spec leap r h
  have hspec' := monthOf_spec leap r' h'
  have hmono := daysBeforeMonth_mono leap (Nat.succ_le_of_lt (not_le.mp hlate))
  rw [Nat.succ_eq_add_one] at hmono
  omega

/-! ## Fields -/

/-- The numbers of a date. -/
def dateNumbers (n : Nat) : List Nat :=
  let year := (yearOf n).1
  let r := (yearOf n).2
  let month := monthOf (isLeap year) r
  [year, month, r - daysBeforeMonth (isLeap year) month + 1]

/-- The numbers of a time, in seconds from midnight. -/
def timeNumbers (s : Nat) : List Nat := [s / 3600, s / 60 % 60, s % 60]

theorem dateNumbers_lt {n n' : Nat} (h : n < n') : dateNumbers n < dateNumbers n' := by
  have hin := inYear_yearOf n
  have hin' := inYear_yearOf n'
  simp only [dateNumbers, List.cons_lt_cons_iff]
  obtain hyear | ⟨hyear, hr⟩ := hin.lt_or_eq hin' h
  · exact .inl hyear
  · refine .inr ⟨hyear, ?_⟩
    have hlt := hin.lt
    have hlt' := hin'.lt
    rw [hyear] at hlt ⊢
    obtain hmonth | hmonth := monthOf_lt_or_eq hlt hlt' hr
    · exact .inl hmonth
    · have hspec := monthOf_spec _ _ hlt
      rw [hmonth] at hspec ⊢
      exact .inr ⟨rfl, .inl (by omega)⟩

theorem timeNumbers_lt {s s' : Nat} (h : s < s') : timeNumbers s < timeNumbers s' := by
  simp only [timeNumbers, List.cons_lt_cons_iff]
  omega

/-! ## Texts -/

/-- `%Y-%m-%dT%H:%M:%S`. -/
def stampLayout : List (Nat × List Char) :=
  [(4, ['-']), (2, ['-']), (2, ['T']), (2, [':']), (2, [':']), (2, [])]

/-- The numbers of a second, from the beginning of the year 1. -/
def stampNumbers (s : Nat) : List Nat := dateNumbers (s / 86400) ++ timeNumbers (s % 86400)

/-- The microseconds, where there are any. -/
def fractionText (micros : Nat) : List Char := if micros = 0 then [] else '.' :: digits 6 micros

/-- The offset of a time, in microseconds. -/
def offsetText (offset : Int) : List Char :=
  let s := offset.natAbs / 1000000
  let micros := offset.natAbs % 1000000
  (if offset < 0 then '-' else '+') :: fields [(2, [':']), (2, [])] [s / 3600, s / 60 % 60] ++
    if s % 60 = 0 ∧ micros = 0 then [] else ':' :: digits 2 (s % 60) ++ fractionText micros

/-- `dt.isoformat()` of a local time with its offset. -/
def isoformat (wall offset : Int) : String :=
  .ofList (fields stampLayout (stampNumbers (wall.toNat / 1000000)) ++
    (fractionText (wall.toNat % 1000000) ++ offsetText offset))

theorem stampNumbers_lt {s s' : Nat} (h : s < s') : stampNumbers s < stampNumbers s' := by
  unfold stampNumbers
  obtain hday | hday := Nat.lt_or_eq_of_le (Nat.div_le_div_right (c := 86400) h.le)
  · simp only [dateNumbers, timeNumbers, List.cons_append, List.nil_append]
    have hdate := dateNumbers_lt hday
    simp only [dateNumbers, List.cons_lt_cons_iff, List.lt_irrefl, and_false, or_false] at hdate
    simp only [List.cons_lt_cons_iff]
    omega
  · rw [hday]
    exact List.append_left_lt (timeNumbers_lt (by omega))

/-- The years to 9999 have four digits. -/
theorem stampNumbers_fits {s : Nat} (h : s < 315537897600) :
    Fits stampLayout (stampNumbers s) := by
  have hday : s / 86400 < daysBeforeYear 10000 := by
    rw [show daysBeforeYear 10000 = 3652059 from rfl]
    omega
  have hin := inYear_yearOf (s / 86400)
  have hyear : (yearOf (s / 86400)).1 < 10000 := by
    by_contra hlate
    have hmono := daysBeforeYear_mono (not_lt.mp hlate)
    have heq := hin.eq
    omega
  have hspec := monthOf_spec (isLeap (yearOf (s / 86400)).1) _ hin.lt
  refine .cons hyear (.cons ?_ (.cons ?_ (.cons ?_ (.cons ?_ (.cons ?_ .nil)))))
  · exact hspec.1.trans (by decide)
  · change (yearOf (s / 86400)).2 - _ + 1 < 100
    omega
  · change s % 86400 / 3600 < 100
    omega
  · change s % 86400 / 60 % 60 < 100
    omega
  · change s % 86400 % 60 < 100
    omega

/-- A fraction is greater than none, and fractions are ordered as their numbers are. -/
theorem fractionText_lt {micros micros' : Nat} (h : micros < micros') (hfit : micros' < 1000000)
    (offset : Int) (hoffset : 0 ≤ offset) :
    fractionText micros ++ offsetText offset < fractionText micros' ++ offsetText offset := by
  have hpos : micros' ≠ 0 := by omega
  rw [fractionText, fractionText, if_neg hpos]
  split
  next =>
    simp only [offsetText, if_neg (not_lt.mpr hoffset), List.nil_append, List.cons_append,
      List.cons_lt_cons_iff]
    exact .inl (by decide)
  next =>
    refine append_lt_append ?_ ?_ _ _
    · rw [List.length_cons, List.length_cons, length_digits, length_digits]
    · rw [List.cons_lt_cons_iff]
      exact .inr ⟨rfl, digits_lt h hfit⟩

/-- The texts of local times of one offset, not west, are ordered as the times are. -/
theorem isoformat_lt {offset wall wall' : Int} (hoffset : 0 ≤ offset) (hwall : 0 ≤ wall)
    (h : wall < wall') (hend : wall' < endOfTime) :
    isoformat wall offset < isoformat wall' offset := by
  rw [endOfTime_eq] at hend
  rw [String.lt_iff_toList_lt, isoformat, isoformat, String.toList_ofList, String.toList_ofList]
  have hlt : wall.toNat < wall'.toNat := by omega
  have hlt' : wall'.toNat < 315537897600000000 := by omega
  obtain hsecond | hsecond := Nat.lt_or_eq_of_le (Nat.div_le_div_right (c := 1000000) hlt.le)
  · exact fields_lt (stampNumbers_fits (by omega)) (stampNumbers_fits (by omega))
      (stampNumbers_lt hsecond) _ _
  · rw [hsecond]
    refine List.append_left_lt (fractionText_lt ?_ (Nat.mod_lt _ (by decide)) offset hoffset)
    omega

/-- `dt.isoformat()` of an instant in UTC. -/
def isoformatUtc (t : Int) : String := isoformat t 0

theorem isoformatUtc_ne_empty (t : Int) : isoformatUtc t ≠ "" := by
  intro h
  have hnil := congrArg String.toList h
  simp [isoformatUtc, isoformat, offsetText] at hnil

/-- An instant of the years 1 to 9999. -/
def InTime (t : Int) : Prop := 0 ≤ t ∧ t < endOfTime

instance (t : Int) : Decidable (InTime t) :=
  inferInstanceAs (Decidable (0 ≤ t ∧ t < endOfTime))

theorem isoformatUtc_lt_iff {t t' : Int} (ht : InTime t) (ht' : InTime t') :
    isoformatUtc t < isoformatUtc t' ↔ t < t' := by
  constructor
  · intro h
    by_contra hle
    obtain rfl | hlt := eq_or_lt_of_le (not_lt.mp hle)
    · exact absurd h (lt_irrefl _)
    · exact absurd h (lt_asymm (isoformat_lt le_rfl ht'.1 hlt ht.2))
  · exact fun h => isoformat_lt le_rfl ht.1 h ht'.2

/-- The text tells the instant. -/
theorem isoformatUtc_inj {t t' : Int} (ht : InTime t) (ht' : InTime t') :
    isoformatUtc t = isoformatUtc t' ↔ t = t' := by
  constructor
  · intro h
    obtain hlt | heq | hlt := lt_trichotomy t t'
    · exact absurd h ((isoformatUtc_lt_iff ht ht').mpr hlt).ne
    · exact heq
    · exact absurd h ((isoformatUtc_lt_iff ht' ht).mpr hlt).ne'
  · rintro rfl
    rfl

example : isoformatUtc 63908694000000000 = "2026-03-09T23:00:00+00:00" := by decide +kernel

end Timing
