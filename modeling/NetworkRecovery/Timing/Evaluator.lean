import NetworkRecovery.Lib.Gates
import NetworkRecovery.Platform.Storage
import NetworkRecovery.Python.Float
import NetworkRecovery.Timing.Windows

/-!
# Timing

`src/platform_core/timing/evaluator.py`, with the clocks of `sla.py` and the context of
`models.py`: whether it is time to act. What the evaluation reads comes first, and may
fail (`readings`); the decision is then made in stages, in the order of the source, each
of which may take back what the ones before decided (`outcome`).

The times of the context are whole seconds, as `format_utc` writes them; its
fingerprint, its limitations and the case are left out of it.
-/

namespace Timing

open Python Platform

/-! ## Words -/

/-- `Urgency`. -/
inductive Urgency where
  | low
  | medium
  | high
  | critical
  deriving DecidableEq

def Urgency.text : Urgency → String
  | .low => "low"
  | .medium => "medium"
  | .high => "high"
  | .critical => "critical"

def Urgency.ofText? : String → Option Urgency :=
  ofText [.low, .medium, .high, .critical] Urgency.text

/-- `TimingDecision`. -/
inductive TimingDecision where
  | ready
  | escalateNow
  | monitorUntil
  | deferredToWindow
  | blockedByChangeFreeze
  | evidenceExpired
  | slaOverdue
  deriving DecidableEq

/-- `TimingReasonCode`. -/
inductive TimingReasonCode where
  | withinSla
  | slaBreached
  | evidenceValid
  | evidenceStale
  | inMaintenanceWindow
  | outsideMaintenanceWindow
  | changeFreezeActive
  | businessHours
  | afterHours
  | highUrgencyEscalation
  | retryAfterSet
  deriving DecidableEq

/-- `_urgency_from`. -/
def urgencyFrom (classification policyOutcome : String) (explicit : Value) : Urgency :=
  let named := if explicit.truthy then
      Urgency.ofText? (.ofList (lower explicit.toText.toList))
    else none
  named.getD
    (let cls := String.ofList (upper classification.toList)
    if cls = "POSSIBLE_MITM_RISK" ∨ cls = "UNKNOWN_LOCAL_PROXY" then .high
    else if cls = "DEAD_PROXY_CONFIG" then .high
    else
      let outcome := String.ofList (upper policyOutcome.toList)
      if outcome = "BLOCK" ∨ outcome = "BLOCK_DESTRUCTIVE" then .medium else .medium)

/-! ## Clocks -/

/-- `DEFAULT_SLA_HOURS`. -/
def defaultSlaHours : Urgency → FloatVal
  | .low => .ofScientific 72 0
  | .medium => .ofScientific 24 0
  | .high => .ofScientific 8 0
  | .critical => .ofScientific 2 0

/-- `DEFAULT_EVIDENCE_TTL_HOURS`. -/
def defaultEvidenceTtlHours : Urgency → FloatVal
  | .low => .ofScientific 168 0
  | .medium => .ofScientific 48 0
  | .high => .ofScientific 24 0
  | .critical => .ofScientific 12 0

/-- `timedelta(hours=hours)`: whole hours exactly, the part of one as a float, and the
sum to the nearest microsecond. -/
def timedeltaHours : FloatVal → Except PyError Int
  | .nan => .error .value
  | .inf _ => .error .overflow
  | .finite d =>
    let whole := d.exact.num.tdiv d.exact.den
    let part := (nearest (3600000000 * (d.exact - whole))).getD 0
    let micros := roundEven (whole * 3600000000 + part)
    if -999999999 ≤ micros / day ∧ micros / day ≤ 999999999 then .ok micros
    else .error .overflow

/-- `sla_due_utc`. -/
def slaDueUtc (detected : Int) (urgency : Urgency) (hours : Option FloatVal) :
    Except PyError Int := do
  let delta ← timedeltaHours (hours.getD (defaultSlaHours urgency))
  datetime (detected + delta)

/-- `evidence_expires_utc`. -/
def evidenceExpiresUtc (detected : Int) (urgency : Urgency) (hours : Option FloatVal) :
    Except PyError Int := do
  let delta ← timedeltaHours (hours.getD (defaultEvidenceTtlHours urgency))
  datetime (detected + delta)

/-- `format_utc`: the second. -/
def formatUtc (t : Int) : Int := t / second

/-! ## What is read -/

/-- The arguments of `TimingEvaluator.evaluate`. -/
structure TimingArgs where
  detectedAtUtc : String
  evaluatedAtUtc : Option String := none
  timezoneName : Option String := none
  classification : String := ""
  policyOutcome : String := ""
  urgency : Option String := none
  maintenanceWindowRequired : Bool := false
  changeFreezeActive : Bool := false
  retryAfterUtc : Option String := none
  slaHours : Option FloatVal := none
  evidenceTtlHours : Option FloatVal := none
  businessHoursStart : Time := Time.ofHours 9
  businessHoursEnd : Time := Time.ofHours 18
  maintenanceStart : Time := Time.ofHours 22
  maintenanceEnd : Time := Time.ofHours 5
  config : Dict := []

/-- What the evaluation asks of the machine it runs on. `utc` is `ZoneInfo("UTC")`, and
`utcNow` the present. -/
structure Host where
  fromIsoformat : FromIsoformat
  zoneInfo : String → Except PyError (Option Zone)
  utc : Zone
  utcNow : Int

/-- The name of the zone that is asked for. -/
def timezoneOf (args : TimingArgs) : Value :=
  orElse (args.timezoneName.map .str) (orElse (args.config.get? "timezone") (.str "UTC"))

/-- The urgency that is asked for. -/
def explicitUrgency (args : TimingArgs) : Value :=
  orElse (args.urgency.map .str) ((args.config.get? "urgency").getD .none)

/-- A flag: as the configuration has it, or else the argument. -/
def flagOf (config : Dict) (key : String) (argument : Bool) : Bool :=
  ((config.get? key).map Value.truthy).getD argument

/-- The instant of the evaluation. -/
def nowOf (host : Host) (args : TimingArgs) : Except PyError Int :=
  match args.evaluatedAtUtc.filter (· ≠ "") with
  | some text => parseUtc host.fromIsoformat text
  | none => .ok host.utcNow

/-- Whether a local time is in the maintenance window, which may go past midnight. -/
def inMaintenance (start stop t : Time) : Bool :=
  if start ≤ stop then start ≤ t && t < stop else start ≤ t || t < stop

/-- Whether it is maintenance time, and the second that it starts next where it is not. -/
def maintenance (args : TimingArgs) (tz : Zone) (now : Int) (required : Bool) :
    Except PyError (Option Bool × Option Int) :=
  if required then do
    let wall ← toLocal now tz
    if inMaintenance args.maintenanceStart args.maintenanceEnd (timeOf wall) then
      return (some true, none)
    else
      let start ← nextWindowStartUtc now tz args.maintenanceStart
      return (some false, some (formatUtc start))
  else .ok (none, none)

/-- The text that names the instant to wait for. -/
def retryText (args : TimingArgs) : Option String := args.retryAfterUtc.filter (· ≠ "")

/-- The instant to wait for; a text that is no time is passed over. -/
def retryAfter (host : Host) (args : TimingArgs) : Except PyError (Option Int) :=
  match retryText args with
  | none => .ok none
  | some text =>
    match parseUtc host.fromIsoformat text with
    | .ok ra => .ok (some ra)
    | .error .value => .ok none
    | .error e => .error e

/-- What an evaluation reads before it decides. -/
structure Readings where
  tz : Zone
  detected : Int
  now : Int
  urgency : Urgency
  maintenanceWindowRequired : Bool
  changeFreezeActive : Bool
  slaDue : Int
  evidenceExp : Int
  biz : Bool
  inMaint : Option Bool
  actionStart : Option Int
  retrySet : Bool
  retryAfter : Option Int

/-- The first half of `evaluate`. -/
def readings (host : Host) (args : TimingArgs) : Except PyError Readings := do
  let tz ← resolveTz host.zoneInfo host.utc (some (timezoneOf args).toText)
  let detected ← parseUtc host.fromIsoformat args.detectedAtUtc
  let now ← nowOf host args
  let urgency := urgencyFrom args.classification args.policyOutcome (explicitUrgency args)
  let required := flagOf args.config "maintenance_window_required" args.maintenanceWindowRequired
  let frozen := flagOf args.config "change_freeze_active" args.changeFreezeActive
  let slaDue ← slaDueUtc detected urgency args.slaHours
  let evidenceExp ← evidenceExpiresUtc detected urgency args.evidenceTtlHours
  let biz ← isBusinessHours now tz args.businessHoursStart args.businessHoursEnd
  let maint ← maintenance args tz now required
  let retry ← retryAfter host args
  return {
    tz := tz
    detected := detected
    now := now
    urgency := urgency
    maintenanceWindowRequired := required
    changeFreezeActive := frozen
    slaDue := slaDue
    evidenceExp := evidenceExp
    biz := biz
    inMaint := maint.1
    actionStart := maint.2
    retrySet := (retryText args).isSome
    retryAfter := retry }

/-! ## Stages -/

/-- The decision, and the reasons for it. -/
structure Outcome where
  decision : TimingDecision
  reasons : List TimingReasonCode := []

namespace Outcome

/-- A stage that changes the decision. -/
def turn (o : Outcome) (decision : TimingDecision) (reasons : List TimingReasonCode) : Outcome :=
  ⟨decision, o.reasons ++ reasons⟩

/-- A stage that gives a reason. -/
def note (o : Outcome) (reason : TimingReasonCode) : Outcome :=
  ⟨o.decision, o.reasons ++ [reason]⟩

@[simp] theorem decision_note (o : Outcome) (reason : TimingReasonCode) :
    (o.note reason).decision = o.decision := rfl

end Outcome

/-- The urgencies that escalate. -/
def Urgency.Escalates (urgency : Urgency) : Prop := urgency = .high ∨ urgency = .critical

instance (urgency : Urgency) : Decidable urgency.Escalates :=
  inferInstanceAs (Decidable (urgency = .high ∨ urgency = .critical))

def expiryStage (r : Readings) (o : Outcome) : Outcome :=
  if r.evidenceExp ≤ r.now then o.turn .evidenceExpired [.evidenceStale] else o.note .evidenceValid

def slaStage (r : Readings) (o : Outcome) : Outcome :=
  if r.slaDue ≤ r.now ∧ o.decision ≠ .evidenceExpired then o.turn .slaOverdue [.slaBreached]
  else if o.decision ≠ .evidenceExpired then o.note .withinSla
  else o

/-- A freeze defers, and lets what is urgent escalate. -/
def freezeStage (r : Readings) (o : Outcome) : Outcome :=
  if r.changeFreezeActive ∧ (o.decision = .ready ∨ o.decision = .deferredToWindow ∨
      o.decision = .monitorUntil) then
    if r.urgency.Escalates then
      o.turn .escalateNow [.highUrgencyEscalation, .changeFreezeActive]
    else o.turn .blockedByChangeFreeze [.changeFreezeActive]
  else o

def maintenanceStage (r : Readings) (o : Outcome) : Outcome :=
  if r.maintenanceWindowRequired ∧ r.inMaint = some false ∧
      (o.decision = .ready ∨ o.decision = .monitorUntil) then
    o.turn .deferredToWindow [.outsideMaintenanceWindow]
  else if r.maintenanceWindowRequired ∧ r.inMaint = some true then o.note .inMaintenanceWindow
  else o

/-- After hours what is urgent escalates, and what is critical always. -/
def urgencyStage (r : Readings) (o : Outcome) : Outcome :=
  if r.urgency.Escalates ∧ o.decision = .ready then
    if r.biz then
      let o := (o.note .businessHours).note .highUrgencyEscalation
      if r.urgency = .critical then o.turn .escalateNow [] else o
    else o.turn .escalateNow [.highUrgencyEscalation, .afterHours]
  else o

def retryStage (r : Readings) (o : Outcome) : Outcome :=
  if r.retrySet then
    let o := o.note .retryAfterSet
    match r.retryAfter with
    | some ra => if r.now < ra ∧ o.decision = .ready then o.turn .monitorUntil [] else o
    | none => o
  else o

/-- The reason that the hours give, once. -/
def hoursStage (r : Readings) (o : Outcome) : Outcome :=
  if r.biz then
    if .businessHours ∉ o.reasons ∧ .afterHours ∉ o.reasons then o.note .businessHours else o
  else if .afterHours ∉ o.reasons then o.note .afterHours else o

/-- The second half of `evaluate`. -/
def outcome (r : Readings) : Outcome :=
  Gates.run [expiryStage r, slaStage r, freezeStage r, maintenanceStage r, urgencyStage r,
    retryStage r, hoursStage r] { decision := .ready }

/-! ## The context -/

/-- `TimingContext`. -/
structure TimingContext where
  detectedAtUtc : Int
  evaluatedAtUtc : Int
  timezone : String
  urgency : Urgency
  actionWindowStartUtc : Option Int
  slaDueUtc : Int
  evidenceExpiresUtc : Int
  retryAfterUtc : Option String
  maintenanceWindowRequired : Bool
  inMaintenanceWindow : Option Bool
  changeFreezeActive : Bool
  businessHours : Bool
  decision : TimingDecision
  reasonCodes : List TimingReasonCode
  timezoneRequested : Value

/-- What is reported of an evaluation. -/
def Readings.context (args : TimingArgs) (r : Readings) : TimingContext where
  detectedAtUtc := formatUtc r.detected
  evaluatedAtUtc := formatUtc r.now
  timezone := r.tz.key
  urgency := r.urgency
  actionWindowStartUtc := r.actionStart
  slaDueUtc := formatUtc r.slaDue
  evidenceExpiresUtc := formatUtc r.evidenceExp
  retryAfterUtc := args.retryAfterUtc
  maintenanceWindowRequired := r.maintenanceWindowRequired
  inMaintenanceWindow := r.inMaint
  changeFreezeActive := r.changeFreezeActive
  businessHours := r.biz
  decision := (outcome r).decision
  reasonCodes := (outcome r).reasons.eraseDups
  timezoneRequested := timezoneOf args

/-- `TimingEvaluator.evaluate`. -/
def evaluate (host : Host) (args : TimingArgs) : Except PyError TimingContext := do
  let r ← readings host args
  return r.context args

end Timing
