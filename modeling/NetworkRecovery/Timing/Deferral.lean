import NetworkRecovery.Timing.EvaluatorLaws

/-!
# What a deferred evaluation waits for

An evaluation outside the maintenance window reports the second at which the window
starts next. Evaluated again at that second it is inside (`evaluate_at_start`), if the
start is a whole second and the clock of the zone shows it on the day that was found. A
fraction of a second is cut off by the report, which is then too early; and a start that
the clock skips is read as another time, which may lie past the end of the window.
-/

namespace Timing

open Python

/-- A window that is open at some time is open at its start. -/
theorem inMaintenance_start {start stop : Time} (hne : start ≠ stop) :
    inMaintenance start stop start = true := by
  unfold inMaintenance
  split
  next hle => simpa using lt_of_le_of_ne hle hne
  next => simp

/-- A start that is reported is one of the zone. -/
theorem maintenance_actionStart {args : TimingArgs} {tz : Zone} {now s : Int} {required : Bool}
    {inMaint : Option Bool} (h : maintenance args tz now required = .ok (inMaint, some s)) :
    required = true ∧ ∃ c date, formatUtc c = s ∧
      (0 ≤ combine date args.maintenanceStart ∧ combine date args.maintenanceStart < endOfTime) ∧
      ofLocal (combine date args.maintenanceStart) tz = .ok c := by
  unfold maintenance at h
  split at h
  next hrequired =>
    refine ⟨hrequired, ?_⟩
    obtain ⟨wall, -, h⟩ := bind_ok.mp h
    split at h
    next => cases h
    next =>
      obtain ⟨c, hc, h⟩ := bind_ok.mp h
      cases h
      obtain ⟨date, hrange, hutc⟩ := nextWindowStartUtc_ok hc
      exact ⟨c, date, rfl, hrange, hutc⟩
  next => cases h

/-- The start of a window that begins with a second is reported as it is. -/
theorem formatUtc_start {tz : Zone} {start : Time} {date c : Int}
    (hwhole : (1000000 : Int) ∣ (start : Int)) (h : ofLocal (combine date start) tz = .ok c) :
    formatUtc c * second = c := by
  obtain ⟨rfl, -⟩ := datetime_ok.mp h
  rw [formatUtc, combine, Recurrence.occurrence, day_eq, second_eq]
  omega

theorem isBusinessHours_returns {dtUtc wall : Int} {tz : Zone} (h : toLocal dtUtc tz = .ok wall)
    (start stop : Time) (weekdays : Option (Finset Int)) :
    ∃ biz, isBusinessHours dtUtc tz start stop weekdays = .ok biz := by
  unfold isBusinessHours
  rw [h]
  by_cases hday : weekday (dateOf wall) ∈ weekdays.getD {0, 1, 2, 3, 4}
  · exact ⟨_, bind_ok.mpr ⟨wall, rfl, if_neg (not_not.mpr hday)⟩⟩
  · exact ⟨_, bind_ok.mpr ⟨wall, rfl, if_pos hday⟩⟩

/-- At its start the window is open. -/
theorem maintenance_at_start {args : TimingArgs} {tz : Zone} {c date : Int}
    (hlocal : toLocal c tz = .ok (combine date args.maintenanceStart))
    (hne : args.maintenanceStart ≠ args.maintenanceEnd) :
    maintenance args tz c true = .ok (some true, none) := by
  unfold maintenance
  rw [if_pos rfl]
  refine bind_ok.mpr ⟨_, hlocal, ?_⟩
  rw [timeOf_combine, if_pos (inMaintenance_start hne)]
  rfl

/-- The instant that a text names. -/
theorem nowOf_text {host : Host} {args : TimingArgs} {text : String} {t : Int}
    (h : parseUtc host.fromIsoformat text = .ok t) :
    nowOf host { args with evaluatedAtUtc := some text } = .ok t := by
  unfold nowOf
  rw [Option.filter_some, if_pos (by simpa using ne_empty_of_parseUtc h)]
  exact h

/-- The second at which the window starts is inside it. -/
theorem evaluate_at_start {host : Host} {args : TimingArgs} {ctx : TimingContext} {s : Int}
    {text : String} (h : evaluate host args = .ok ctx)
    (hstart : ctx.actionWindowStartUtc = some s)
    (hne : args.maintenanceStart ≠ args.maintenanceEnd)
    (hwhole : (1000000 : Int) ∣ (args.maintenanceStart : Int))
    (hshows : ∀ tz date, resolveTz host.zoneInfo host.utc (some (timezoneOf args).toText) = .ok tz →
      ofLocal (combine date args.maintenanceStart) tz = .ok (s * second) →
      tz.Shows (combine date args.maintenanceStart))
    (htext : parseUtc host.fromIsoformat text = .ok (s * second)) :
    ∃ ctx', evaluate host { args with evaluatedAtUtc := some text } = .ok ctx' ∧
      ctx'.inMaintenanceWindow = some true := by
  obtain ⟨r, hr, h⟩ := bind_ok.mp h
  obtain rfl := Except.ok.inj h
  have hreads := readings_ok.mp hr
  have hmaint := hreads.maint
  change r.actionStart = some s at hstart
  rw [hstart] at hmaint
  obtain ⟨hrequired, c, date, hs, hrange, hutc⟩ := maintenance_actionStart hmaint
  have hc : s * second = c := by
    rw [← hs]
    exact formatUtc_start hwhole hutc
  rw [hc] at hshows htext
  have hlocal := toLocal_ofLocal hrange (hshows r.tz date hreads.tz hutc) hutc
  obtain ⟨biz, hbiz⟩ :=
    isBusinessHours_returns hlocal args.businessHoursStart args.businessHoursEnd none
  have hagain : Reads host { args with evaluatedAtUtc := some text }
      { r with now := c, biz := biz, inMaint := some true, actionStart := none } := by
    refine { hreads with now := nowOf_text htext, biz := hbiz, maint := ?_ }
    dsimp only
    rw [hrequired]
    exact maintenance_at_start hlocal hne
  exact ⟨_, bind_ok.mpr ⟨_, readings_ok.mpr hagain, rfl⟩, rfl⟩

/-- In a zone that keeps one offset the next start of a window is the least one, which the
eight days of the search suffice to find and only the end of the years can hide; and an
evaluation that waits for the window is inside it at the second it waits for. -/
theorem nextStart_least_and_inside :
    (∀ (dtUtc : Int) (key : String) (offset : Int) (start : Time) (days : Finset Int),
      -86400 < offset ∧ offset < 86400 → HasWeekday days →
        (∀ c, nextWindowStartUtc dtUtc (Zone.fixed key offset) start (some days) = .ok c →
          IsLeast {t | dtUtc < t ∧ t ∈ starts (Zone.fixed key offset) start days} c) ∧
        searchDays dtUtc (Zone.fixed key offset) start days (dtUtc + offset * second)
          (List.range 8) ≠ .ok none ∧
        (day ≤ dtUtc → dtUtc + 8 * day ≤ endOfTime →
          ∃ c, nextWindowStartUtc dtUtc (Zone.fixed key offset) start (some days) = .ok c)) ∧
    (∀ (host : Host) (args : TimingArgs) (ctx : TimingContext) (s : Int) (text : String),
      evaluate host args = .ok ctx → ctx.actionWindowStartUtc = some s →
      args.maintenanceStart ≠ args.maintenanceEnd →
      (1000000 : Int) ∣ (args.maintenanceStart : Int) →
      (∀ tz date, resolveTz host.zoneInfo host.utc (some (timezoneOf args).toText) = .ok tz →
        ofLocal (combine date args.maintenanceStart) tz = .ok (s * second) →
        tz.Shows (combine date args.maintenanceStart)) →
      parseUtc host.fromIsoformat text = .ok (s * second) →
      ∃ ctx', evaluate host { args with evaluatedAtUtc := some text } = .ok ctx' ∧
        ctx'.inMaintenanceWindow = some true) := by
  refine ⟨fun dtUtc key offset start days hoffset hdays => ⟨?_, ?_, ?_⟩,
    fun host args ctx s text => evaluate_at_start⟩
  · intro c hc
    exact nextWindowStartUtc_isLeast hdays hc
  · exact searchDays_ne_none hdays
  · exact nextWindowStartUtc_returns hoffset hdays

/-! ## Two windows -/

/-- Noon and night of a Monday. -/
def nightHost : Host :=
  tableHost [("2026-03-09T12:00:00+00:00", 63908654400000000),
    ("2026-03-09T22:00:00+00:00", 63908690400000000)] (Zone.fixed "UTC" 0)

/-- At noon, of a window from ten at night to five. -/
def noonArgs : TimingArgs where
  detectedAtUtc := "2026-03-09T12:00:00Z"
  evaluatedAtUtc := some "2026-03-09T12:00:00Z"
  maintenanceWindowRequired := true

theorem nextStart_least_and_inside_monday :
    (∃ c, nextWindowStartUtc 63908654400000000 (Zone.fixed "UTC" 0) (Time.ofHours 22)
        (some {0}) = .ok c ∧
      IsLeast {t | 63908654400000000 < t ∧
        t ∈ starts (Zone.fixed "UTC" 0) (Time.ofHours 22) {0}} c) ∧
    ∃ ctx', evaluate nightHost { noonArgs with evaluatedAtUtc := some "2026-03-09T22:00:00Z" } =
        .ok ctx' ∧ ctx'.inMaintenanceWindow = some true := by
  constructor
  · obtain ⟨hleast, -, hreturns⟩ := nextStart_least_and_inside.1 63908654400000000 "UTC" 0
      (Time.ofHours 22) {0} (by decide) ⟨0, by decide, by decide, by decide⟩
    obtain ⟨c, hc⟩ := hreturns (by decide) (by decide)
    exact ⟨c, hc, hleast c hc⟩
  · have hdeferred : (evaluate nightHost noonArgs).map TimingContext.actionWindowStartUtc =
        .ok (some 63908690400) := by decide +kernel
    obtain ⟨ctx, hctx, hstart⟩ := map_ok.mp hdeferred
    refine nextStart_least_and_inside.2 nightHost noonArgs ctx 63908690400 _ hctx hstart
      (by decide) (by decide) ?_ (by decide +kernel)
    intro tz date htz hutc
    have hutcZone : resolveTz nightHost.zoneInfo nightHost.utc
        (some (timezoneOf noonArgs).toText) = .ok (Zone.fixed "UTC" 0) := rfl
    obtain rfl := Except.ok.inj (hutcZone.symm.trans htz)
    exact Zone.fixed_shows _ _ _

/-- The zone of New York, about the spring of 2026: at two in the night of the eighth of
March the clock is put forward by an hour. -/
def newYork : Zone where
  key := "America/New_York"
  offsetAt t := if t < 63908550000000000 then -18000 else -14400
  offsetOfLocal wall := if wall < 63908535600000000 then -18000 else -14400

/-- Midnight of that night, and half past two by the old offset. -/
def springHost : Host :=
  tableHost [("2026-03-08T05:00:00+00:00", 63908542800000000),
    ("2026-03-08T07:30:00+00:00", 63908551800000000)] newYork

/-- A window from half past two to three. -/
def springArgs : TimingArgs where
  detectedAtUtc := "2026-03-08T05:00:00Z"
  evaluatedAtUtc := some "2026-03-08T05:00:00Z"
  timezoneName := some "America/New_York"
  maintenanceWindowRequired := true
  maintenanceStart := Time.ofMicros 9000000000
  maintenanceEnd := Time.ofHours 3

/-- The deferred evaluation is repeated at the start that it reports, outside the window. -/
theorem deferred_start_outside :
    -- no day is left in the last hour of the last year
    nextWindowStartUtc 315537894000000000 (Zone.fixed "UTC" 0) (Time.ofHours 22)
        (some {0, 1, 2, 3, 4, 5, 6}) = .error .overflow ∧
    -- half a second is cut off
    ((evaluate nightHost { noonArgs with
          maintenanceStart := Time.ofMicros 79200500000 }).map
        fun ctx => (ctx.decision, ctx.actionWindowStartUtc)) =
      .ok (.deferredToWindow, some 63908690400) ∧
    parseUtc nightHost.fromIsoformat "2026-03-09T22:00:00Z" = .ok (63908690400 * second) ∧
    ((evaluate nightHost { noonArgs with
          maintenanceStart := Time.ofMicros 79200500000
          evaluatedAtUtc := some "2026-03-09T22:00:00Z" }).map
        TimingContext.inMaintenanceWindow) = .ok (some false) ∧
    -- the clock goes from two to three
    ((evaluate springHost springArgs).map
        fun ctx => (ctx.decision, ctx.actionWindowStartUtc)) =
      .ok (.deferredToWindow, some 63908551800) ∧
    parseUtc springHost.fromIsoformat "2026-03-08T07:30:00Z" = .ok (63908551800 * second) ∧
    ((evaluate springHost { springArgs with
          evaluatedAtUtc := some "2026-03-08T07:30:00Z" }).map
        TimingContext.inMaintenanceWindow) = .ok (some false) := by
  refine ⟨?_, ?_, ?_, ?_, ?_, ?_, ?_⟩ <;> decide +kernel

end Timing
