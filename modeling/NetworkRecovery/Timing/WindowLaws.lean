import NetworkRecovery.Timing.Windows

/-!
# The next start of a window

The search goes through the days from the local one on and takes the first start that
comes after the present. In a zone that keeps one offset the days are the turns of a
clock and the weekdays recur every seven of them, so that what is found is the least
(`nextWindowStartUtc_isLeast`), and something is found within the eight days
(`searchDays_ne_none`). An error is left only where the days of the search run out of
the years 1 to 9999 (`nextWindowStartUtc_returns`).
-/

namespace Timing

open Python Recurrence

variable {dtUtc : Int} {tz : Zone} {start : Time} {days : Finset Int} {wall : Int}

/-! ## What the search has seen -/

/-- The day at an offset is not allowed, or its start does not come after the present. -/
def Passes (dtUtc : Int) (tz : Zone) (start : Time) (days : Finset Int) (wall : Int)
    (offset : Nat) : Prop :=
  weekday (dateOf wall + offset) ∈ days →
    ∃ c, ofLocal (combine (dateOf wall + offset) start) tz = .ok c ∧ c ≤ dtUtc

/-- The start on the day at an offset is the one that is returned. -/
structure Takes (dtUtc : Int) (tz : Zone) (start : Time) (days : Finset Int) (wall : Int)
    (offset : Nat) (c : Int) : Prop where
  date : candidateDate wall offset = .ok (dateOf wall + offset)
  allowed : weekday (dateOf wall + offset) ∈ days
  utc : ofLocal (combine (dateOf wall + offset) start) tz = .ok c
  after : dtUtc < c

theorem candidateDate_ok {offset : Nat} {date : Int} (h : candidateDate wall offset = .ok date) :
    date = dateOf wall + offset := by
  unfold candidateDate at h
  split at h
  next hzero =>
    obtain rfl := Except.ok.inj h
    rw [hzero]
    exact (Int.add_zero _).symm
  next =>
    obtain ⟨later, hlater, rfl⟩ := map_ok.mp h
    obtain ⟨rfl, -⟩ := datetime_ok.mp hlater
    exact Int.add_mul_ediv_right _ _ (by decide)

/-- A day that the search goes past. -/
theorem searchDays_cons {offset : Nat} {offsets : List Nat} {r : Option Int}
    (h : searchDays dtUtc tz start days wall (offset :: offsets) = .ok r) :
    (∃ c, r = some c ∧ Takes dtUtc tz start days wall offset c) ∨
      Passes dtUtc tz start days wall offset ∧
        searchDays dtUtc tz start days wall offsets = .ok r := by
  rw [searchDays] at h
  obtain ⟨date, hdate, h⟩ := bind_ok.mp h
  obtain rfl := candidateDate_ok hdate
  split at h
  next hday => exact .inr ⟨fun hmem => absurd hmem hday, h⟩
  next hday =>
    obtain ⟨c, hc, h⟩ := bind_ok.mp h
    split at h
    next hafter =>
      obtain rfl := Except.ok.inj h
      exact .inl ⟨c, rfl, hdate, not_not.mp hday, hc, hafter⟩
    next hafter => exact .inr ⟨fun _ => ⟨c, hc, not_lt.mp hafter⟩, h⟩

theorem searchDays_none {offsets : List Nat}
    (h : searchDays dtUtc tz start days wall offsets = .ok none) :
    ∀ i ∈ offsets, Passes dtUtc tz start days wall i := by
  induction offsets with
  | nil => exact nofun
  | cons offset offsets ih =>
    obtain ⟨c, hc, -⟩ | ⟨hpass, hrest⟩ := searchDays_cons h
    · cases hc
    · exact List.forall_mem_cons.mpr ⟨hpass, ih hrest⟩

theorem searchDays_some {offsets : List Nat} {c : Int}
    (h : searchDays dtUtc tz start days wall offsets = .ok (some c)) :
    ∃ before k after, offsets = before ++ k :: after ∧ Takes dtUtc tz start days wall k c ∧
      ∀ i ∈ before, Passes dtUtc tz start days wall i := by
  induction offsets with
  | nil => cases h
  | cons offset offsets ih =>
    obtain ⟨c', hc', htakes⟩ | ⟨hpass, hrest⟩ := searchDays_cons h
    · cases hc'
      exact ⟨[], offset, offsets, rfl, htakes, nofun⟩
    · obtain ⟨before, k, after, rfl, htakes, hbefore⟩ := ih hrest
      exact ⟨offset :: before, k, after, rfl, htakes, List.forall_mem_cons.mpr ⟨hpass, hbefore⟩⟩

/-- What is taken among the first days is the first that is not passed. -/
theorem searchDays_range {n : Nat} {c : Int}
    (h : searchDays dtUtc tz start days wall (List.range n) = .ok (some c)) :
    ∃ k, Takes dtUtc tz start days wall k c ∧ ∀ i < k, Passes dtUtc tz start days wall i := by
  obtain ⟨before, k, after, hrange, htakes, hbefore⟩ := searchDays_some h
  refine ⟨k, htakes, fun i hik => hbefore i ?_⟩
  have hsorted : (before ++ k :: after).Pairwise (· < ·) := hrange ▸ List.pairwise_lt_range
  have hafter := (List.pairwise_cons.mp (List.pairwise_append.mp hsorted).2.1).1
  have hk : k ∈ List.range n := hrange ▸ by simp
  have hi : i ∈ before ++ k :: after := by
    rw [← hrange, List.mem_range]
    exact hik.trans (List.mem_range.mp hk)
  obtain hi | hi := List.mem_append.mp hi
  · exact hi
  · obtain rfl | hi := List.mem_cons.mp hi
    · exact absurd hik (lt_irrefl _)
    · exact absurd (hafter i hi) (lt_asymm hik)

/-- The search is over the dates of the calendar. -/
theorem candidateDate_range {offset : Nat} {date : Int} (hwall : 0 ≤ wall ∧ wall < endOfTime)
    (h : candidateDate wall offset = .ok date) (start : Time) :
    0 ≤ combine date start ∧ combine date start < endOfTime := by
  unfold candidateDate at h
  split at h
  next =>
    obtain rfl := Except.ok.inj h
    exact combine_range hwall start
  next =>
    obtain ⟨later, hlater, rfl⟩ := map_ok.mp h
    obtain ⟨rfl, hrange⟩ := datetime_ok.mp hlater
    exact combine_range hrange start

/-- What is returned is the start on some date, as the zone reads it. -/
theorem nextWindowStartUtc_ok {weekdays : Option (Finset Int)} {c : Int}
    (h : nextWindowStartUtc dtUtc tz start weekdays = .ok c) :
    ∃ date, (0 ≤ combine date start ∧ combine date start < endOfTime) ∧
      ofLocal (combine date start) tz = .ok c := by
  obtain ⟨wall, hwall, h⟩ := bind_ok.mp h
  obtain ⟨rfl, hrange⟩ := datetime_ok.mp hwall
  obtain ⟨found, hfound, h⟩ := bind_ok.mp h
  cases found with
  | none =>
    obtain ⟨fallback, hfallback, h⟩ := bind_ok.mp h
    obtain ⟨rfl, hrange⟩ := datetime_ok.mp hfallback
    exact ⟨_, combine_range hrange start, h⟩
  | some c' =>
    obtain rfl := Except.ok.inj h
    obtain ⟨k, htakes, -⟩ := searchDays_range hfound
    exact ⟨_, candidateDate_range hrange htakes.date start, htakes.utc⟩

/-- The search ends where each day has its start. -/
theorem searchDays_returns {offsets : List Nat}
    (h : ∀ i ∈ offsets, (∃ date, candidateDate wall i = .ok date) ∧
      ∃ c, ofLocal (combine (dateOf wall + i) start) tz = .ok c) :
    ∃ r, searchDays dtUtc tz start days wall offsets = .ok r := by
  induction offsets with
  | nil => exact ⟨none, rfl⟩
  | cons offset offsets ih =>
    obtain ⟨⟨⟨date, hdate⟩, c, hc⟩, hrest⟩ := List.forall_mem_cons.mp h
    obtain ⟨r, hr⟩ := ih hrest
    obtain rfl := candidateDate_ok hdate
    rw [searchDays]
    by_cases hday : weekday (dateOf wall + offset) ∈ days
    · by_cases hafter : dtUtc < c
      · refine ⟨some c, bind_ok.mpr ⟨_, hdate, ?_⟩⟩
        rw [if_neg (not_not.mpr hday)]
        exact bind_ok.mpr ⟨c, hc, if_pos hafter⟩
      · refine ⟨r, bind_ok.mpr ⟨_, hdate, ?_⟩⟩
        rw [if_neg (not_not.mpr hday)]
        exact bind_ok.mpr ⟨c, hc, (if_neg hafter).trans hr⟩
    · exact ⟨r, bind_ok.mpr ⟨_, hdate, (if_pos hday).trans hr⟩⟩

/-! ## Zones that keep one offset -/

/-- The local time at an instant. -/
def Zone.localAt (tz : Zone) (t : Int) : Int := t + tz.offsetAt t * second

/-- The instants at which the clock of a zone shows the start on an allowed day. -/
def starts (tz : Zone) (start : Time) (days : Finset Int) : Set Int :=
  {t | timeOf (tz.localAt t) = start ∧ weekday (dateOf (tz.localAt t)) ∈ days}

/-- A set that has a day of the week in it. -/
def HasWeekday (days : Finset Int) : Prop := ∃ d ∈ days, 0 ≤ d ∧ d < 7

variable {key : String} {offset : Int}

theorem mem_starts_fixed {t : Int} :
    t ∈ starts (Zone.fixed key offset) start days ↔
      Occurs day start (fun date => weekday date ∈ days) (t + offset * second) :=
  ⟨fun h => ⟨timeOf_eq_iff.mp h.1, h.2⟩, fun h => ⟨timeOf_eq_iff.mpr h.phase, h.turn⟩⟩

/-- A week is a round of the days. -/
theorem weekday_periodic (days : Finset Int) :
    Function.Periodic (fun date => weekday date ∈ days) ((7 : Nat) : Int) := by
  intro date
  have hweekday : weekday (date + (7 : Nat)) = weekday date := Int.add_emod_right date 7
  exact congrArg (· ∈ days) hweekday

theorem ofLocal_fixed {date c : Int}
    (h : ofLocal (combine date start) (Zone.fixed key offset) = .ok c) :
    c = occurrence day start date - offset * second :=
  (datetime_ok.mp h).1.symm

/-- A start that does not come after the present does not come after the local present. -/
theorem Passes.fixed {i : Nat}
    (h : Passes dtUtc (Zone.fixed key offset) start days (dtUtc + offset * second) i)
    (hmem : weekday ((dtUtc + offset * second) / day + i) ∈ days) :
    ¬ dtUtc + offset * second <
      occurrence day start ((dtUtc + offset * second) / day + i) := by
  obtain ⟨c, hc, hle⟩ := h hmem
  rw [ofLocal_fixed hc, dateOf] at hle
  omega

/-- The fallback is never used. -/
theorem searchDays_ne_none (hdays : HasWeekday days) :
    searchDays dtUtc (Zone.fixed key offset) start days (dtUtc + offset * second)
      (List.range 8) ≠ .ok none := by
  intro h
  obtain ⟨d, hd, hlow, hhigh⟩ := hdays
  have hallowed : weekday d ∈ days := by
    rwa [weekday, Int.emod_eq_of_lt hlow hhigh]
  obtain ⟨k, hk, hk7, hday, hafter⟩ := exists_soon (time_nonneg start) (time_lt start)
    (by decide) (weekday_periodic days) ⟨d, hallowed⟩ (dtUtc + offset * second)
  have hpass := searchDays_none h k (List.mem_range.mpr (by omega))
  exact hpass.fixed hday hafter

/-- What is returned is the least instant after the present at which the clock shows the
start on an allowed day. -/
theorem nextWindowStartUtc_isLeast (hdays : HasWeekday days) {c : Int}
    (h : nextWindowStartUtc dtUtc (Zone.fixed key offset) start (some days) = .ok c) :
    IsLeast {t | dtUtc < t ∧ t ∈ starts (Zone.fixed key offset) start days} c := by
  obtain ⟨wall, hwall, h⟩ := bind_ok.mp h
  have hlocal : dtUtc + offset * second = wall := (datetime_ok.mp hwall).1
  subst hlocal
  obtain ⟨found, hfound, h⟩ := bind_ok.mp h
  cases found with
  | none => exact absurd hfound (searchDays_ne_none hdays)
  | some c' =>
    obtain rfl := Except.ok.inj h
    obtain ⟨k, htakes, hpasses⟩ := searchDays_range hfound
    have hc := ofLocal_fixed htakes.utc
    have hfirst : First day start (fun date => weekday date ∈ days)
        (dtUtc + offset * second) k := by
      refine ⟨htakes.allowed, ?_, fun i hik hmem => (hpasses i hik).fixed hmem⟩
      have hafter := htakes.after
      rw [hc, dateOf] at hafter
      omega
    obtain ⟨⟨hafter, hoccurs⟩, hleast⟩ := hfirst.isLeast (time_nonneg start) (time_lt start)
    refine ⟨⟨htakes.after, ?_⟩, ?_⟩
    · rw [mem_starts_fixed, hc, Int.sub_add_cancel]
      exact hoccurs
    · rintro t ⟨hlt, hmem⟩
      have hle := hleast ⟨Int.add_lt_add_right hlt _, mem_starts_fixed.mp hmem⟩
      rw [hc, dateOf]
      omega

/-- The years suffice from the second day of the first to eight days before the end of
the last. -/
theorem nextWindowStartUtc_returns (hoffset : -86400 < offset ∧ offset < 86400)
    (hdays : HasWeekday days) (hbegin : day ≤ dtUtc) (hend : dtUtc + 8 * day ≤ endOfTime) :
    ∃ c, nextWindowStartUtc dtUtc (Zone.fixed key offset) start (some days) = .ok c := by
  have hstart := time_lt start
  have hnonneg := time_nonneg start
  rw [day_eq] at hbegin hend hstart
  rw [endOfTime_eq] at hend
  have hwall : toLocal dtUtc (Zone.fixed key offset) = .ok (dtUtc + offset * second) := by
    refine datetime_ok.mpr ⟨rfl, ?_⟩
    change 0 ≤ dtUtc + offset * second ∧ dtUtc + offset * second < endOfTime
    rw [endOfTime_eq, second_eq]
    omega
  have hdate : ∀ i ∈ List.range 8, (∃ date, candidateDate (dtUtc + offset * second) i = .ok date) ∧
      ∃ c, ofLocal (combine (dateOf (dtUtc + offset * second) + i) start)
        (Zone.fixed key offset) = .ok c := by
    intro i hi
    have hlt := List.mem_range.mp hi
    constructor
    · unfold candidateDate
      split
      next => exact ⟨_, rfl⟩
      next =>
        refine ⟨_, map_ok.mpr ⟨_, datetime_ok.mpr ⟨rfl, ?_⟩, rfl⟩⟩
        rw [endOfTime_eq, day_eq, second_eq]
        omega
    · refine ⟨_, datetime_ok.mpr ⟨rfl, ?_⟩⟩
      change 0 ≤ combine (dateOf (dtUtc + offset * second) + i) start - offset * second ∧
        combine (dateOf (dtUtc + offset * second) + i) start - offset * second < endOfTime
      rw [combine, occurrence, dateOf, endOfTime_eq, day_eq, second_eq]
      omega
  obtain ⟨found, hfound⟩ := searchDays_returns hdate
  cases found with
  | none => exact absurd hfound (searchDays_ne_none hdays)
  | some c => exact ⟨c, bind_ok.mpr ⟨_, hwall, bind_ok.mpr ⟨_, hfound, rfl⟩⟩⟩

end Timing
