import NetworkRecovery.Timing.EvaluatorLaws

/-!
# Membership in a window

A window is asked for twice. The evaluation reads one that ends before it starts as one
that goes past midnight, so that its membership is that of an arc of the clock
(`inMaintenance_iff_arc`). `in_named_window` compares the local time with the start and
the end as they are, and finds nothing in such a window: the two agree where the window
does not go past midnight, or the local time is outside of it.
-/

namespace Timing

open Python

/-- `in_named_window`. -/
def inNamedWindow (dtUtc : Int) (tz : Zone) (windowStartLocal windowEndLocal : Time)
    (weekdays : Option (Finset Int) := none) : Except PyError Bool :=
  isBusinessHours dtUtc tz windowStartLocal windowEndLocal weekdays

/-- All seven weekdays. -/
def everyDay : Finset Int := {0, 1, 2, 3, 4, 5, 6}

/-- The membership that `evaluate` computes where a window is required. -/
def maintenanceMembership (now : Int) (tz : Zone) (maintenanceStart maintenanceEnd : Time) :
    Except PyError Bool := do
  let wall ← toLocal now tz
  return inMaintenance maintenanceStart maintenanceEnd (timeOf wall)

variable {now : Int} {tz : Zone} {start stop t : Time}

/-- The times from the start on, up to the end, around the clock. -/
theorem inMaintenance_iff_arc : inMaintenance start stop t = true ↔ t - start < stop - start := by
  rw [Fin.lt_def, Fin.sub_def, Fin.sub_def, inMaintenance]
  split
  next h =>
    rw [Bool.and_eq_true, decide_eq_true_eq, decide_eq_true_eq, Fin.le_def, Fin.lt_def]
    rw [Fin.le_def] at h
    dsimp only
    omega
  next h =>
    rw [Bool.or_eq_true, decide_eq_true_eq, decide_eq_true_eq, Fin.le_def, Fin.lt_def]
    rw [Fin.le_def] at h
    dsimp only
    omega

theorem weekday_mem_everyDay (date : Int) : weekday date ∈ everyDay := by
  have hlow : 0 ≤ date % 7 := Int.emod_nonneg date (by decide)
  have hhigh : date % 7 < 7 := Int.emod_lt_of_pos date (by decide)
  simp only [everyDay, weekday, Finset.mem_insert, Finset.mem_singleton]
  omega

/-- With every day allowed only the time is asked for. -/
theorem inNamedWindow_everyDay :
    inNamedWindow now tz start stop (some everyDay) =
      (toLocal now tz).map fun wall => decide (start ≤ timeOf wall) && decide (timeOf wall < stop) := by
  unfold inNamedWindow isBusinessHours
  cases toLocal now tz with
  | error e => rfl
  | ok wall => exact if_neg (not_not.mpr (weekday_mem_everyDay _))

theorem membership_eq :
    maintenanceMembership now tz start stop =
      (toLocal now tz).map fun wall => inMaintenance start stop (timeOf wall) := by
  unfold maintenanceMembership
  cases toLocal now tz <;> rfl

/-- The membership is what the evaluation reads. -/
theorem maintenance_membership {args : TimingArgs} {inMaint : Option Bool} {actionStart : Option Int}
    (h : maintenance args tz now true = .ok (inMaint, actionStart)) :
    ∃ b, maintenanceMembership now tz args.maintenanceStart args.maintenanceEnd = .ok b ∧
      inMaint = some b := by
  obtain ⟨wall, hwall, rfl⟩ := maintenance_ok h
  refine ⟨_, ?_, rfl⟩
  rw [membership_eq, hwall]
  rfl

/-- The membership is what the context reports. -/
theorem evaluate_membership {host : Host} {args : TimingArgs} {ctx : TimingContext}
    (h : evaluate host args = .ok ctx) (hrequired : ctx.maintenanceWindowRequired = true) :
    ∃ r b, Reads host args r ∧
      maintenanceMembership r.now r.tz args.maintenanceStart args.maintenanceEnd = .ok b ∧
      ctx.inMaintenanceWindow = some b := by
  obtain ⟨r, hreads, rfl, -⟩ := evaluate_sound h
  have hmaint := hreads.maint
  have hset : r.maintenanceWindowRequired = true := hrequired
  rw [hset] at hmaint
  obtain ⟨b, hb, hin⟩ := maintenance_membership hmaint
  exact ⟨r, b, hreads, hb, hin⟩

/-- A plain comparison is the membership, but for the times in a window that goes past
midnight. -/
theorem compare_eq_inMaintenance_iff :
    (decide (start ≤ t) && decide (t < stop)) = inMaintenance start stop t ↔
      start ≤ stop ∨ stop ≤ t ∧ t < start := by
  unfold inMaintenance
  split
  next h => exact iff_of_true rfl (.inl h)
  next h =>
    -- such a window has no time that is after its start and before its end
    have hempty : (decide (start ≤ t) && decide (t < stop)) = false := by
      rw [Bool.and_eq_false_iff, decide_eq_false_iff_not, decide_eq_false_iff_not, not_le, not_lt]
      exact (lt_or_ge t start).imp_right (fun hafter => (not_le.mp h).le.trans hafter)
    rw [hempty, eq_comm, Bool.or_eq_false_iff, decide_eq_false_iff_not, decide_eq_false_iff_not,
      not_le, not_lt]
    exact ⟨fun hout => .inr ⟨hout.2, hout.1⟩, fun hout => (hout.resolve_left h).symm⟩

/-- The two definitions agree on a window that does not go past midnight, and on another
one where the local time is outside of it. -/
theorem inNamedWindow_eq_membership_iff :
    inNamedWindow now tz start stop (some everyDay) = maintenanceMembership now tz start stop ↔
      start ≤ stop ∨ ∀ wall, toLocal now tz = .ok wall → stop ≤ timeOf wall ∧ timeOf wall < start := by
  rw [inNamedWindow_everyDay, membership_eq]
  cases toLocal now tz with
  | error e =>
    refine iff_of_true rfl (.inr fun wall hwall => ?_)
    cases hwall
  | ok shown =>
    have hvalues : (Except.ok (decide (start ≤ timeOf shown) && decide (timeOf shown < stop)) :
          Except PyError Bool) = .ok (inMaintenance start stop (timeOf shown)) ↔
        start ≤ stop ∨ stop ≤ timeOf shown ∧ timeOf shown < start := by
      rw [Except.ok.injEq]
      exact compare_eq_inMaintenance_iff
    refine hvalues.trans (or_congr_right ⟨?_, fun hout => hout shown rfl⟩)
    rintro hout _ ⟨⟩
    exact hout

/-- An hour before midnight is in the night, by one definition only. -/
theorem inNamedWindow_night :
    inNamedWindow 63908694000000000 (Zone.fixed "UTC" 0) (Time.ofHours 22) (Time.ofHours 5)
        (some everyDay) = .ok false ∧
      maintenanceMembership 63908694000000000 (Zone.fixed "UTC" 0) (Time.ofHours 22)
        (Time.ofHours 5) = .ok true ∧
      ¬ ∀ (now : Int) (tz : Zone) (start stop : Time),
        inNamedWindow now tz start stop (some everyDay) =
          maintenanceMembership now tz start stop := by
  have hnamed : inNamedWindow 63908694000000000 (Zone.fixed "UTC" 0) (Time.ofHours 22)
      (Time.ofHours 5) (some everyDay) = .ok false := by decide +kernel
  have hmember : maintenanceMembership 63908694000000000 (Zone.fixed "UTC" 0) (Time.ofHours 22)
      (Time.ofHours 5) = .ok true := by decide +kernel
  refine ⟨hnamed, hmember, fun hall => ?_⟩
  have hequal := (hnamed.symm.trans (hall _ _ _ _)).trans hmember
  cases hequal

end Timing
