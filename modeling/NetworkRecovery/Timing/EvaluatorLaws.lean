import NetworkRecovery.Timing.Evaluator
import NetworkRecovery.Timing.WindowLaws

/-!
# What an evaluation means

No stage makes `READY`, and each takes it back where its condition fails: what is left
`READY` meets the conditions of all (`evaluate_sound`). Expiry is decided by the first
stage and left alone by the others.
-/

namespace Timing

open Python Gates

/-! ## What the stages ask -/

section Stages

variable {r : Readings}

theorem expiryStage_asks : Asks Outcome.decision .ready (r.now < r.evidenceExp) (expiryStage r) := by
  intro o h
  unfold expiryStage at h
  split at h
  next => cases h
  next hnow => exact ⟨h, not_le.mp hnow⟩

theorem slaStage_asks : Asks Outcome.decision .ready (r.now < r.slaDue) (slaStage r) := by
  intro o h
  unfold slaStage at h
  split at h
  next => cases h
  next hdue =>
    have hready : o.decision = .ready := by
      split at h <;> exact h
    refine ⟨hready, ?_⟩
    by_contra hlate
    exact hdue ⟨not_lt.mp hlate, by rw [hready]; exact nofun⟩

theorem freezeStage_asks :
    Asks Outcome.decision .ready (r.changeFreezeActive = false) (freezeStage r) := by
  intro o h
  unfold freezeStage at h
  split at h
  next => split at h <;> cases h
  next hfreeze =>
    refine ⟨h, ?_⟩
    by_contra hactive
    exact hfreeze ⟨by simpa using hactive, .inl h⟩

theorem maintenanceStage_asks :
    Asks Outcome.decision .ready (r.maintenanceWindowRequired = true → r.inMaint ≠ some false)
      (maintenanceStage r) := by
  intro o h
  unfold maintenanceStage at h
  split at h
  next => cases h
  next hwindow =>
    have hready : o.decision = .ready := by
      split at h <;> exact h
    exact ⟨hready, fun hrequired houtside => hwindow ⟨hrequired, houtside, .inl hready⟩⟩

theorem urgencyStage_asks :
    Asks Outcome.decision .ready
      (r.urgency ≠ .critical ∧ (r.urgency = .high → r.biz = true)) (urgencyStage r) := by
  intro o h
  unfold urgencyStage at h
  split at h
  next hurgent =>
    split at h
    next hbiz =>
      dsimp only at h
      split at h
      next => cases h
      next hcritical => exact ⟨hurgent.2, hcritical, fun _ => hbiz⟩
    next => cases h
  next hcalm =>
    refine ⟨h, fun hcritical => hcalm ⟨.inr hcritical, h⟩, fun hhigh => ?_⟩
    exact absurd ⟨.inl hhigh, h⟩ hcalm

theorem retryStage_asks :
    Asks Outcome.decision .ready
      (r.retrySet = true → ∀ ra, r.retryAfter = some ra → ra ≤ r.now) (retryStage r) := by
  intro o h
  unfold retryStage at h
  split at h
  next =>
    cases hretry : r.retryAfter with
    | none =>
      rw [hretry] at h
      exact ⟨h, nofun⟩
    | some ra =>
      rw [hretry] at h
      dsimp only at h
      split at h
      next => cases h
      next hwait =>
        refine ⟨h, ?_⟩
        rintro - _ ⟨⟩
        by_contra hlate
        exact hwait ⟨not_le.mp hlate, h⟩
  next hset => exact ⟨h, fun hset' => absurd hset' hset⟩

theorem decision_hoursStage (o : Outcome) : (hoursStage r o).decision = o.decision := by
  unfold hoursStage
  split <;> split <;> rfl

theorem hoursStage_asks : Asks Outcome.decision .ready True (hoursStage r) :=
  fun o h => ⟨(decision_hoursStage o).symm.trans h, trivial⟩

/-! ## Expiry -/

theorem slaStage_keeps : Keeps Outcome.decision .evidenceExpired (slaStage r) := by
  intro o
  unfold slaStage
  split
  next h => exact iff_of_false nofun h.2
  next => split <;> rfl

theorem freezeStage_keeps : Keeps Outcome.decision .evidenceExpired (freezeStage r) := by
  intro o
  unfold freezeStage
  split
  next h =>
    have hother : o.decision ≠ .evidenceExpired := by
      obtain ⟨-, h | h | h⟩ := h <;> rw [h] <;> exact nofun
    split <;> exact iff_of_false nofun hother
  next => rfl

theorem maintenanceStage_keeps : Keeps Outcome.decision .evidenceExpired (maintenanceStage r) := by
  intro o
  unfold maintenanceStage
  split
  next h =>
    have hother : o.decision ≠ .evidenceExpired := by
      obtain ⟨-, -, h | h⟩ := h <;> rw [h] <;> exact nofun
    exact iff_of_false nofun hother
  next => split <;> rfl

theorem urgencyStage_keeps : Keeps Outcome.decision .evidenceExpired (urgencyStage r) := by
  intro o
  unfold urgencyStage
  split
  next h =>
    have hother : o.decision ≠ .evidenceExpired := by
      rw [h.2]
      exact nofun
    split
    next =>
      dsimp only
      split
      next => exact iff_of_false nofun hother
      next => rfl
    next => exact iff_of_false nofun hother
  next => rfl

theorem retryStage_keeps : Keeps Outcome.decision .evidenceExpired (retryStage r) := by
  intro o
  unfold retryStage
  split
  next =>
    dsimp only
    split
    next =>
      split
      next h =>
        have hother : o.decision ≠ .evidenceExpired := by
          rw [← Outcome.decision_note o .retryAfterSet, h.2]
          exact nofun
        exact iff_of_false nofun hother
      next => rfl
    next => rfl
  next => rfl

theorem hoursStage_keeps : Keeps Outcome.decision .evidenceExpired (hoursStage r) :=
  fun o => by rw [decision_hoursStage]

end Stages

/-- What is ready has passed every stage. -/
theorem outcome_ready {r : Readings} (h : (outcome r).decision = .ready) :
    ∀ condition ∈ [r.now < r.evidenceExp, r.now < r.slaDue, r.changeFreezeActive = false,
      r.maintenanceWindowRequired = true → r.inMaint ≠ some false,
      r.urgency ≠ .critical ∧ (r.urgency = .high → r.biz = true),
      r.retrySet = true → ∀ ra, r.retryAfter = some ra → ra ≤ r.now, True], condition :=
  (Asks.run (.cons expiryStage_asks (.cons slaStage_asks (.cons freezeStage_asks
    (.cons maintenanceStage_asks (.cons urgencyStage_asks (.cons retryStage_asks
      (.cons hoursStage_asks .nil))))))) _ h).2

theorem outcome_expired (r : Readings) :
    (outcome r).decision = .evidenceExpired ↔ r.evidenceExp ≤ r.now := by
  have hkeeps : ∀ stage ∈ [slaStage r, freezeStage r, maintenanceStage r, urgencyStage r,
      retryStage r, hoursStage r], Keeps Outcome.decision .evidenceExpired stage := by
    simp only [List.forall_mem_cons, List.not_mem_nil, false_implies, implies_true, and_true]
    exact ⟨slaStage_keeps, freezeStage_keeps, maintenanceStage_keeps, urgencyStage_keeps,
      retryStage_keeps, hoursStage_keeps⟩
  have hfirst : (expiryStage r { decision := .ready }).decision = .evidenceExpired ↔
      r.evidenceExp ≤ r.now := by
    unfold expiryStage
    split
    next h => exact iff_of_true rfl h
    next h => exact iff_of_false (by decide) h
  exact (Keeps.run hkeeps _).trans hfirst

/-! ## What is read -/

/-- What the readings of an evaluation are. -/
structure Reads (host : Host) (args : TimingArgs) (r : Readings) : Prop where
  tz : resolveTz host.zoneInfo host.utc (some (timezoneOf args).toText) = .ok r.tz
  detected : parseUtc host.fromIsoformat args.detectedAtUtc = .ok r.detected
  now : nowOf host args = .ok r.now
  urgency : r.urgency =
    urgencyFrom args.classification args.policyOutcome (explicitUrgency args)
  maintenanceWindowRequired : r.maintenanceWindowRequired =
    flagOf args.config "maintenance_window_required" args.maintenanceWindowRequired
  changeFreezeActive : r.changeFreezeActive =
    flagOf args.config "change_freeze_active" args.changeFreezeActive
  slaDue : slaDueUtc r.detected r.urgency args.slaHours = .ok r.slaDue
  evidenceExp : evidenceExpiresUtc r.detected r.urgency args.evidenceTtlHours = .ok r.evidenceExp
  biz : isBusinessHours r.now r.tz args.businessHoursStart args.businessHoursEnd = .ok r.biz
  maint : maintenance args r.tz r.now r.maintenanceWindowRequired = .ok (r.inMaint, r.actionStart)
  retrySet : r.retrySet = (retryText args).isSome
  retry : retryAfter host args = .ok r.retryAfter

theorem readings_ok {host : Host} {args : TimingArgs} {r : Readings} :
    readings host args = .ok r ↔ Reads host args r := by
  constructor
  · intro h
    obtain ⟨tz, htz, h⟩ := bind_ok.mp h
    obtain ⟨detected, hdetected, h⟩ := bind_ok.mp h
    obtain ⟨now, hnow, h⟩ := bind_ok.mp h
    obtain ⟨slaDue, hslaDue, h⟩ := bind_ok.mp h
    obtain ⟨evidenceExp, hevidenceExp, h⟩ := bind_ok.mp h
    obtain ⟨biz, hbiz, h⟩ := bind_ok.mp h
    obtain ⟨maint, hmaint, h⟩ := bind_ok.mp h
    obtain ⟨retry, hretry, h⟩ := bind_ok.mp h
    obtain rfl := Except.ok.inj h
    exact ⟨htz, hdetected, hnow, rfl, rfl, rfl, hslaDue, hevidenceExp, hbiz, hmaint, rfl, hretry⟩
  · rintro ⟨htz, hdetected, hnow, hurgency, hrequired, hfrozen, hslaDue, hevidenceExp, hbiz, hmaint,
      hset, hretry⟩
    obtain ⟨tz, detected, now, urgency, required, frozen, slaDue, evidenceExp, biz, inMaint,
      actionStart, retrySet, retry⟩ := r
    dsimp only at *
    subst hurgency hrequired hfrozen hset
    unfold readings
    rw [htz]
    refine bind_ok.mpr ⟨tz, rfl, bind_ok.mpr ⟨detected, hdetected, bind_ok.mpr ⟨now, hnow, ?_⟩⟩⟩
    refine bind_ok.mpr ⟨slaDue, hslaDue, bind_ok.mpr ⟨evidenceExp, hevidenceExp, ?_⟩⟩
    exact bind_ok.mpr ⟨biz, hbiz, bind_ok.mpr ⟨_, hmaint, bind_ok.mpr ⟨retry, hretry, rfl⟩⟩⟩

/-- It is time to act. -/
structure ReadyAt (host : Host) (args : TimingArgs) (r : Readings) : Prop where
  beforeSla : r.now < r.slaDue
  beforeExpiry : r.now < r.evidenceExp
  noFreeze : r.changeFreezeActive = false
  inWindow : r.maintenanceWindowRequired = true → ∃ wall, toLocal r.now r.tz = .ok wall ∧
    inMaintenance args.maintenanceStart args.maintenanceEnd (timeOf wall) = true
  retryPassed : ∀ text ra, args.retryAfterUtc = some text →
    parseUtc host.fromIsoformat text = .ok ra → ra ≤ r.now
  notCritical : r.urgency ≠ .critical
  highInHours : r.urgency = .high →
    isBusinessHours r.now r.tz args.businessHoursStart args.businessHoursEnd = .ok true

/-- In the window or out of it, where one is required. -/
theorem maintenance_ok {args : TimingArgs} {tz : Zone} {now : Int} {inMaint : Option Bool}
    {actionStart : Option Int}
    (h : maintenance args tz now true = .ok (inMaint, actionStart)) :
    ∃ wall, toLocal now tz = .ok wall ∧
      inMaint = some (inMaintenance args.maintenanceStart args.maintenanceEnd (timeOf wall)) := by
  unfold maintenance at h
  rw [if_pos rfl] at h
  obtain ⟨wall, hwall, h⟩ := bind_ok.mp h
  refine ⟨wall, hwall, ?_⟩
  split at h
  next hin =>
    cases h
    rw [hin]
  next hout =>
    obtain ⟨start, -, h⟩ := bind_ok.mp h
    cases h
    rw [Bool.not_eq_true] at hout
    rw [hout]

/-- A text that is a time sets the instant to wait for. -/
theorem retryAfter_of_parse {host : Host} {args : TimingArgs} {text : String} {ra : Int}
    (htext : args.retryAfterUtc = some text)
    (hparse : parseUtc host.fromIsoformat text = .ok ra) :
    retryText args = some text ∧ retryAfter host args = .ok (some ra) := by
  have hne := ne_empty_of_parseUtc hparse
  have hset : retryText args = some text := by
    rw [retryText, htext, Option.filter_some, if_pos (by simpa using hne)]
  refine ⟨hset, ?_⟩
  unfold retryAfter
  rw [hset]
  dsimp only
  rw [hparse]

theorem Reads.readyAt {host : Host} {args : TimingArgs} {r : Readings} (h : Reads host args r)
    (hready : (outcome r).decision = .ready) : ReadyAt host args r := by
  have hconditions := outcome_ready hready
  simp only [List.forall_mem_cons, List.not_mem_nil, false_implies, implies_true, and_true]
    at hconditions
  obtain ⟨hexpiry, hsla, hfreeze, hwindow, ⟨hcritical, hhigh⟩, hretry⟩ := hconditions
  refine ⟨hsla, hexpiry, hfreeze, fun hrequired => ?_, fun text ra htext hparse => ?_, hcritical,
    fun hurgency => ?_⟩
  · have hmaint := h.maint
    rw [hrequired] at hmaint
    obtain ⟨wall, hwall, hin⟩ := maintenance_ok hmaint
    refine ⟨wall, hwall, ?_⟩
    have hinside := hwindow hrequired
    rw [hin] at hinside
    by_contra hout
    rw [Bool.not_eq_true] at hout
    exact hinside (congrArg some hout)
  · obtain ⟨hset, hafter⟩ := retryAfter_of_parse htext hparse
    have hset' : r.retrySet = true := by
      rw [h.retrySet, hset]
      rfl
    exact hretry hset' ra (Except.ok.inj (h.retry.symm.trans hafter))
  · rw [← hhigh hurgency]
    exact h.biz

/-- An evaluation that returns `READY` has found everything in time and in order, and one
that returns `EVIDENCE_EXPIRED` has found the evidence expired, and nothing else has. -/
theorem evaluate_sound {host : Host} {args : TimingArgs} {ctx : TimingContext}
    (h : evaluate host args = .ok ctx) :
    ∃ r, Reads host args r ∧ ctx = r.context args ∧
      (ctx.decision = .ready → ReadyAt host args r) ∧
      (ctx.decision = .evidenceExpired ↔ r.evidenceExp ≤ r.now) := by
  obtain ⟨r, hr, h⟩ := bind_ok.mp h
  obtain rfl := Except.ok.inj h
  have hreads := readings_ok.mp hr
  exact ⟨r, hreads, rfl, hreads.readyAt, outcome_expired r⟩

/-- A reader of a few texts, all of them in UTC. -/
def readTable (table : List (String × Int)) (text : String) : Except PyError IsoTime :=
  if text = "" then .error .value
  else (table.find? (·.1 = text)).elim (.error .value) fun entry => .ok ⟨entry.2, some 0⟩

theorem readTable_empty (table : List (String × Int)) : readTable table "" = .error .value :=
  if_pos rfl

/-- A machine that knows one zone besides UTC. -/
def tableHost (table : List (String × Int)) (zone : Zone) : Host where
  fromIsoformat := ⟨readTable table, readTable_empty table⟩
  zoneInfo name := .ok (if name = zone.key then some zone else none)
  utc := Zone.fixed "UTC" 0
  utcNow := 0

/-- Three hours of a Monday. -/
def mondayHost : Host :=
  tableHost [("2026-03-09T10:00:00+00:00", 63908647200000000),
    ("2026-03-09T11:00:00+00:00", 63908650800000000),
    ("2026-03-09T12:00:00+00:00", 63908654400000000)] (Zone.fixed "UTC" 0)

def mondayArgs : TimingArgs where
  detectedAtUtc := "2026-03-09T10:00:00Z"
  evaluatedAtUtc := some "2026-03-09T12:00:00Z"
  urgency := some "high"
  maintenanceWindowRequired := true
  retryAfterUtc := some "2026-03-09T11:00:00Z"
  maintenanceStart := Time.ofHours 11
  maintenanceEnd := Time.ofHours 13

theorem evaluate_sound_monday :
    ∃ r, Reads mondayHost mondayArgs r ∧ ReadyAt mondayHost mondayArgs r := by
  have hready : (evaluate mondayHost mondayArgs).map TimingContext.decision = .ok .ready := by
    decide +kernel
  obtain ⟨ctx, hctx, hdecision⟩ := map_ok.mp hready
  obtain ⟨r, hreads, -, hsound, -⟩ := evaluate_sound hctx
  exact ⟨r, hreads, hsound hdecision⟩

end Timing
