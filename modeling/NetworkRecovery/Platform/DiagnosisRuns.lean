import NetworkRecovery.Platform.ContractAudit
import NetworkRecovery.Platform.RemediationRuns

/-!
# Diagnosis runs and their replay

`product_contract.py`: a diagnosis infers what it says from typed observations, writes a row to
the audit log and then one to the log of runs; a replay reads the row of a run and infers again,
from the observations that are stored in it.

However runs go side by side, and wherever one of them breaks off: a run that is stored replays
to exactly what it said, and its row in the audit log is there (`reachable_replays`). What an
inference says of the risk depends on four findings alone (`riskScore_classify`), and the fleet
row of an endpoint says `drift_proxy` where no proxy was seen but names are not resolved and
connections fail (`reachable_summary`).
-/

namespace Diagnosis

open Python Audit Platform LastWriter Relation Contract
open Reliability (textsField)
open Remediation (findById findById_reads findById_rows flagField textsField_textList)

/-! ## Observations and results -/

inductive ProbeStatus where
  | ok
  | warning
  | failed
  | unknown
  deriving DecidableEq

def ProbeStatus.text : ProbeStatus → String
  | .ok => "ok"
  | .warning => "warning"
  | .failed => "failed"
  | .unknown => "unknown"

/-- `ProbeResult`. -/
structure ProbeResult where
  name : String
  status : ProbeStatus := .unknown
  observedValue : Value := .none
  evidenceLevel : EvidenceLevelName := .observation
  timestamp : String
  error : Option String := none
  source : String := "placeholder_adapter"

/-- `p.model_dump(mode="json")`. -/
def ProbeResult.modelDump (p : ProbeResult) : Dict :=
  [("name", .str p.name), ("status", .str p.status.text), ("observed_value", p.observedValue),
    ("evidence_level", .str p.evidenceLevel.text), ("timestamp", .str p.timestamp),
    ("error", optionalText p.error), ("source", .str p.source)]

inductive PolicyDecisionName where
  | allow
  | previewOnly
  | blocked
  deriving DecidableEq

def PolicyDecisionName.text : PolicyDecisionName → String
  | .allow => "allow"
  | .previewOnly => "preview_only"
  | .blocked => "blocked"

/-- `PolicyResult`. -/
structure PolicyResult where
  decision : PolicyDecisionName
  reason : String
  allowed : Bool := false
  requiredConfirmation : String := ""
  dryRun : Bool := true
  deriving DecidableEq

def PolicyResult.modelDump (p : PolicyResult) : Dict :=
  [("decision", .str p.decision.text), ("reason", .str p.reason), ("allowed", .bool p.allowed),
    ("required_confirmation", .str p.requiredConfirmation), ("dry_run", .bool p.dryRun)]

/-- What `classify_diagnosis` returns. -/
structure Inferred where
  hypotheses : List String
  confidence : FloatVal
  riskScore : FloatVal
  evidenceLevel : EvidenceLevelName
  recommendedNextTest : String
  policyResult : PolicyResult

/-- `DiagnosisResult`. -/
structure DiagnosisResult where
  runId : String
  endpointId : String
  timestampUtc : String
  observations : List ProbeResult
  inferred : Inferred
  auditEventId : String

/-- `result.model_dump(mode="json")`. -/
def DiagnosisResult.modelDump (d : DiagnosisResult) : Dict :=
  [("run_id", .str d.runId), ("endpoint_id", .str d.endpointId),
    ("timestamp_utc", .str d.timestampUtc),
    ("observations", .list (d.observations.map fun p => .dict p.modelDump)),
    ("inferred_hypotheses", textList d.inferred.hypotheses),
    ("confidence", .float d.inferred.confidence),
    ("evidence_level", .str d.inferred.evidenceLevel.text),
    ("recommended_next_test", .str d.inferred.recommendedNextTest),
    ("policy_result", .dict d.inferred.policyResult.modelDump),
    ("audit_event_id", .str d.auditEventId), ("risk_score", .float d.inferred.riskScore)]

/-! ## Inference -/

/-- What has been found so far. -/
structure Findings where
  hypotheses : List String := []
  risk : FloatVal := .zero
  confidence : FloatVal := .ofScientific 35 (-2)
  nextTest : String := "Collect another snapshot or run targeted proof probe."
  policy : PolicyResult :=
    { decision := .allow, reason := "read_only_diagnosis_only", allowed := true }

/-- One more finding: a hypothesis, what it adds, and what to test next. -/
def Findings.note (f : Findings) (hypothesis : String) (risk : Option FloatVal)
    (confidence : FloatVal) (nextTest : String) : Findings where
  hypotheses := f.hypotheses ++ [hypothesis]
  risk := risk.elim f.risk f.risk.add
  confidence := f.confidence.add confidence
  nextTest := nextTest
  policy := f.policy

section Findings

variable (observations : List ProbeResult)

/-- `by_name.get(name)`. -/
def probeNamed (name : String) : Option ProbeResult := scan ProbeResult.name name observations

def hasStatus (name : String) (status : ProbeStatus) : Bool :=
  (probeNamed observations name).any fun p => p.status = status

/-- What a probe observed, where that is a dictionary. -/
def observedDict (name : String) : Option Dict :=
  match (probeNamed observations name).map ProbeResult.observedValue with
  | some (.dict d) => some d
  | _ => none

def dnsFails : Bool := hasStatus observations "dns_probe" .failed

def tcpFails : Bool := hasStatus observations "tcp_443_probe" .failed

def httpsFailsAlone : Bool :=
  hasStatus observations "tcp_443_probe" .ok && hasStatus observations "https_probe" .failed

/-- Whether WinINET is seen to route through this machine. -/
def localhostProxy : Except PyError Bool :=
  match observedDict observations "wininet_proxy_state" with
  | none => .ok false
  | some d => do
    let enabled ← (orElse (d.get? "proxy_enable") (.int 0)).toInt
    let server := (orElse (d.get? "proxy_server") (.str "")).toText.toList
    return enabled = 1 && (contains "127.0.0.1".toList server || contains "localhost".toList server ||
      contains "::1".toList server)

/-- Whether a process is seen to listen on the port of the proxy. -/
def listenerSeen : Bool :=
  match observedDict observations "localhost_proxy_listener" with
  | none => false
  | some d => match d.fetch "candidate_actor" with
    | .dict candidate => (Dict.fetch candidate "pid").truthy
    | _ => false

/-- The branches of `classify_diagnosis`, in order. -/
def findings (proxy : Bool) : Findings :=
  let f : Findings := {}
  let f := if dnsFails observations then
      f.note "DNS resolution failure can break browser and developer traffic."
        (some (.ofScientific 25 (-2))) (.ofScientific 15 (-2))
        "Run nslookup and compare resolver configuration."
    else f
  let f := if tcpFails observations then
      f.note "TCP 443 path failure suggests transport or policy blocking."
        (some (.ofScientific 25 (-2))) (.ofScientific 12 (-2))
        "Run Test-NetConnection to known HTTPS hosts."
    else f
  let f := if httpsFailsAlone observations then
      f.note "TCP works but HTTPS fails; TLS/proxy/browser path is suspect."
        (some (.ofScientific 35 (-2))) (.ofScientific 18 (-2))
        "Run direct HTTPS and proxy HTTPS probes and inspect certificate chain."
    else f
  let f := if proxy then
      { f.note "WinINET routes browser traffic through a localhost proxy."
          (some (.ofScientific 45 (-2))) (.ofScientific 20 (-2))
          "Enable Sysmon Event ID 13 or import Procmon trace to identify the registry writer." with
        policy :=
          { decision := .previewOnly
            reason := "localhost_proxy_drift_requires_writer_proof_before_remediation" } }
    else f
  let f := if listenerSeen observations then
      f.note "A listener PID is time-correlated with the configured localhost proxy port." none
        (.ofScientific 8 (-2))
        "Capture registry writer telemetry; listener ownership is candidate evidence only."
    else f
  if f.hypotheses = [] then
    { f with
      hypotheses := ["No high-confidence endpoint reliability issue was inferred from available " ++
        "observations."]
      nextTest := "Continue monitoring for drift or run a live diagnosis during failure." }
  else f

/-- `max(0.0, min(1.0, x))`. -/
def clampUnit (x : FloatVal) : FloatVal := FloatVal.max .zero (FloatVal.min .one x)

/-- `classify_diagnosis`. -/
def classifyDiagnosis : Except PyError Inferred := do
  let proxy ← localhostProxy observations
  let f := findings observations proxy
  return ⟨f.hypotheses, clampUnit f.confidence, clampUnit f.risk, .inference, f.nextTest, f.policy⟩

end Findings

/-! ## Stored runs -/

/-- A number between 0 and 1 under a key. -/
def unitField (row : Dict) (key : String) : Option FloatVal :=
  match row.get? key with
  | some (.float x) => if FloatVal.le .zero x && x.le .one then some x else none
  | _ => none

def levelField (row : Dict) : Option EvidenceLevelName :=
  (textField row "evidence_level").bind
    (ofText [.observation, .inference, .proof] EvidenceLevelName.text)

/-- `ProbeResult.model_validate`, of a row with every field in its own type, which is how rows
are written. -/
def ProbeResult.ofRow (row : Dict) : Option ProbeResult := do
  let name ← textField row "name"
  let status ← (textField row "status").bind
    (ofText [.ok, .warning, .failed, .unknown] ProbeStatus.text)
  let evidenceLevel ← levelField row
  let timestamp ← textField row "timestamp"
  let error ← optionalField row "error"
  let source ← textField row "source"
  return ⟨name, status, row.fetch "observed_value", evidenceLevel, timestamp, error, source⟩

def PolicyResult.ofRow (row : Dict) : Option PolicyResult := do
  let decision ← (textField row "decision").bind
    (ofText [.allow, .previewOnly, .blocked] PolicyDecisionName.text)
  let reason ← textField row "reason"
  let allowed ← flagField row "allowed"
  let requiredConfirmation ← textField row "required_confirmation"
  let dryRun ← flagField row "dry_run"
  return ⟨decision, reason, allowed, requiredConfirmation, dryRun⟩

def ProbeResult.ofValue : Value → Option ProbeResult
  | .dict d => ProbeResult.ofRow d
  | _ => none

/-- The observations of a row. -/
def observationsField (row : Dict) : Option (List ProbeResult) :=
  match row.get? "observations" with
  | some (.list xs) => xs.mapM ProbeResult.ofValue
  | _ => none

def policyField (row : Dict) : Option PolicyResult :=
  match row.get? "policy_result" with
  | some (.dict policy) => PolicyResult.ofRow policy
  | _ => none

/-- `DiagnosisResult.model_validate`, of such a row. -/
def DiagnosisResult.ofRow (row : Dict) : Option DiagnosisResult := do
  let runId ← textField row "run_id"
  let endpointId ← textField row "endpoint_id"
  let timestampUtc ← textField row "timestamp_utc"
  let observations ← observationsField row
  let hypotheses ← textsField row "inferred_hypotheses"
  let confidence ← unitField row "confidence"
  let evidenceLevel ← levelField row
  let recommendedNextTest ← textField row "recommended_next_test"
  let policyResult ← policyField row
  let auditEventId ← textField row "audit_event_id"
  let riskScore ← unitField row "risk_score"
  return ⟨runId, endpointId, timestampUtc, observations,
    ⟨hypotheses, confidence, riskScore, evidenceLevel, recommendedNextTest, policyResult⟩,
    auditEventId⟩

/-! ## Runs -/

/-- The arguments of a run and what it draws; the observations are what the probes answer. -/
structure RunArgs where
  endpointId : String
  observations : List ProbeResult
  wf : ∀ p ∈ observations, p.observedValue.WF
  actor : String := "platform_api"
  runId : String
  eventId : String
  auditedAt : String
  timestampUtc : String

theorem ProbeResult.modelDump_wf {p : ProbeResult} (h : p.observedValue.WF) :
    (Value.dict p.modelDump).WF := by
  refine ⟨?_, trivial, trivial, h, trivial, trivial, optionalText_wf _, trivial, trivial⟩
  show ["name", "status", "observed_value", "evidence_level", "timestamp", "error", "source"].Nodup
  decide

/-- The rows of the observations. -/
def RunArgs.rows (args : RunArgs) : List WFDict :=
  args.observations.attach.map fun p => ⟨p.1.modelDump, ProbeResult.modelDump_wf (args.wf p.1 p.2)⟩

/-- What a run writes to the audit log. -/
def RunArgs.auditEvent (args : RunArgs) (i : Inferred) : PlatformAuditEvent where
  eventId := args.eventId
  timestamp := args.auditedAt
  endpointId := args.endpointId
  eventKind := .diagnosisRun
  observations := args.rows
  summary := "Read-only diagnosis run"
  hypothesis := i.hypotheses
  confidence := i.confidence
  evidenceLevel := i.evidenceLevel
  policyDecision := i.policyResult.decision.text
  actor := args.actor
  replayRef := args.runId
  runId := args.runId

def RunArgs.result (args : RunArgs) (i : Inferred) : DiagnosisResult :=
  ⟨args.runId, args.endpointId, args.timestampUtc, args.observations, i, args.eventId⟩

/-- `build_diagnosis_run`, with nobody in between: the audit log, the log of runs, the result. -/
def buildDiagnosisRun (H : Digest) (sep : Linesep) (audit runs : File) (args : RunArgs) :
    Except PyError (File × File × DiagnosisResult) := do
  let i ← classifyDiagnosis args.observations
  let (audit, auditId) ← appendContractAudit H sep audit (args.auditEvent i)
  let result := { args.result i with auditEventId := auditId }
  return (audit, appendJsonl sep runs result.modelDump, result)

def modelValidate (row : Dict) : Except PyError DiagnosisResult :=
  (DiagnosisResult.ofRow row).elim (.error .value) .ok

/-- `get_diagnosis`. -/
def getDiagnosis (runs : File) (runId : String) : Except PyError (Option DiagnosisResult) := do
  match ← findById runs "run_id" runId with
  | none => return none
  | some row => return some (← modelValidate row)

/-- `latest_diagnosis`. -/
def latestDiagnosis (runs : File) : Except PyError (Option DiagnosisResult) := do
  match (← readRecentJsonl runs 1).getLast? with
  | none => return none
  | some row => return some (← modelValidate row)

/-- What a replay answers: the run that was stored, and what is inferred now. -/
structure Replay where
  runId : String
  original : DiagnosisResult
  recomputed : Inferred

/-- `replay_diagnosis`. -/
def replayDiagnosis (runs : File) (runId : String) : Except PyError (Option Replay) := do
  match ← getDiagnosis runs runId with
  | none => return none
  | some d => return some ⟨runId, d, ← classifyDiagnosis d.observations⟩

/-! ## A run in its row -/

theorem float_le_of_lt {x y : FloatVal} (h : x.lt y = true) : x.le y = true := by
  cases x <;> cases y <;> simp_all [FloatVal.lt, FloatVal.le]
  exact h.le

theorem zero_le_clampUnit (x : FloatVal) : FloatVal.le .zero (clampUnit x) = true := by
  unfold clampUnit FloatVal.max
  split
  · next hlt => exact float_le_of_lt hlt
  · exact decide_eq_true le_rfl

theorem clampUnit_le_one (x : FloatVal) : FloatVal.le (clampUnit x) .one = true := by
  have hmin : FloatVal.le (FloatVal.min .one x) .one = true := by
    unfold FloatVal.min
    split
    · next hlt => exact float_le_of_lt hlt
    · exact decide_eq_true le_rfl
  unfold clampUnit FloatVal.max
  split
  · exact hmin
  · decide +kernel

/-- What is inferred lies between 0 and 1. -/
theorem classifyDiagnosis_unit {observations : List ProbeResult} {i : Inferred}
    (h : classifyDiagnosis observations = .ok i) :
    (∃ x, i.confidence = clampUnit x) ∧ ∃ x, i.riskScore = clampUnit x := by
  unfold classifyDiagnosis at h
  cases hproxy : localhostProxy observations with
  | error e =>
    rw [hproxy] at h
    cases h
  | ok proxy =>
    rw [hproxy] at h
    obtain rfl := Except.ok.inj h
    exact ⟨⟨_, rfl⟩, _, rfl⟩

theorem unitField_of_get? {row : Dict} {key : String} {x : FloatVal}
    (h : row.get? key = some (.float (clampUnit x))) : unitField row key = some (clampUnit x) := by
  unfold unitField
  rw [h]
  dsimp only
  rw [zero_le_clampUnit, clampUnit_le_one]
  rfl

theorem level_ofText (level : EvidenceLevelName) :
    ofText [.observation, .inference, .proof] EvidenceLevelName.text level.text = some level := by
  cases level <;> decide

theorem status_ofText (status : ProbeStatus) :
    ofText [.ok, .warning, .failed, .unknown] ProbeStatus.text status.text = some status := by
  cases status <;> decide

theorem decision_ofText (decision : PolicyDecisionName) :
    ofText [.allow, .previewOnly, .blocked] PolicyDecisionName.text decision.text =
      some decision := by
  cases decision <;> decide

theorem optionalField_of_get? {row : Dict} {key : String} {text : Option String}
    (h : row.get? key = some (optionalText text)) : optionalField row key = some text := by
  unfold optionalField
  rw [h]
  cases text <;> rfl

theorem ofRow_probe (p : ProbeResult) : ProbeResult.ofRow p.modelDump = some p := by
  have hstatus : (textField p.modelDump "status").bind
      (ofText [.ok, .warning, .failed, .unknown] ProbeStatus.text) = some p.status :=
    status_ofText p.status
  have hlevel : levelField p.modelDump = some p.evidenceLevel := level_ofText p.evidenceLevel
  have herror : optionalField p.modelDump "error" = some p.error := optionalField_of_get? rfl
  unfold ProbeResult.ofRow
  rw [hstatus, hlevel, herror]
  rfl

theorem ofRow_policy (p : PolicyResult) : PolicyResult.ofRow p.modelDump = some p := by
  have hdecision : (textField p.modelDump "decision").bind
      (ofText [.allow, .previewOnly, .blocked] PolicyDecisionName.text) = some p.decision :=
    decision_ofText p.decision
  unfold PolicyResult.ofRow
  rw [hdecision]
  rfl

/-- A run whose numbers lie between 0 and 1, on observations that JSON carries. -/
structure DiagnosisResult.Valid (d : DiagnosisResult) : Prop where
  observations : ∀ p ∈ d.observations, p.observedValue.WF
  confidence : ∃ x, d.inferred.confidence = clampUnit x
  riskScore : ∃ x, d.inferred.riskScore = clampUnit x

/-- A row is read as the run it was written from. -/
theorem ofRow_diagnosis {d : DiagnosisResult} (h : d.Valid) :
    DiagnosisResult.ofRow d.modelDump = some d := by
  obtain ⟨x, hx⟩ := h.confidence
  obtain ⟨y, hy⟩ := h.riskScore
  have hobservations : observationsField d.modelDump = some d.observations :=
    Reliability.mapM_map_of_pure (f := ProbeResult.ofValue) ofRow_probe
  have hhypotheses : textsField d.modelDump "inferred_hypotheses" = some d.inferred.hypotheses :=
    textsField_textList rfl
  have hconfidence : unitField d.modelDump "confidence" = some d.inferred.confidence := by
    rw [hx]
    exact unitField_of_get? (congrArg (fun x => some (Value.float x)) hx)
  have hlevel : levelField d.modelDump = some d.inferred.evidenceLevel :=
    level_ofText d.inferred.evidenceLevel
  have hpolicy : policyField d.modelDump = some d.inferred.policyResult :=
    ofRow_policy d.inferred.policyResult
  have hrisk : unitField d.modelDump "risk_score" = some d.inferred.riskScore := by
    rw [hy]
    exact unitField_of_get? (congrArg (fun x => some (Value.float x)) hy)
  unfold DiagnosisResult.ofRow
  rw [hobservations, hhypotheses, hconfidence, hlevel, hpolicy, hrisk]
  rfl

theorem DiagnosisResult.Valid.wf {d : DiagnosisResult} (h : d.Valid) :
    (Value.dict d.modelDump).WF := by
  have hlist : ∀ ps : List ProbeResult, (∀ p ∈ ps, p.observedValue.WF) →
      ListWF (ps.map fun p => .dict p.modelDump) := by
    intro ps hps
    induction ps with
    | nil => trivial
    | cons p rest ih =>
      obtain ⟨hp, hrest⟩ := List.forall_mem_cons.mp hps
      exact ⟨ProbeResult.modelDump_wf hp, ih hrest⟩
  have hobservations := hlist d.observations h.observations
  have hpolicy : (Value.dict d.inferred.policyResult.modelDump).WF := by
    refine ⟨?_, trivial, trivial, trivial, trivial, trivial, trivial⟩
    show ["decision", "reason", "allowed", "required_confirmation", "dry_run"].Nodup
    decide
  refine ⟨?_, trivial, trivial, trivial, hobservations, textList_wf _, trivial, trivial, trivial,
    hpolicy, trivial, trivial, trivial⟩
  show ["run_id", "endpoint_id", "timestamp_utc", "observations", "inferred_hypotheses",
    "confidence", "evidence_level", "recommended_next_test", "policy_result", "audit_event_id",
    "risk_score"].Nodup
  decide

/-- A run that inferred something. -/
structure Done where
  args : RunArgs
  inferred : Inferred
  holds : classifyDiagnosis args.observations = .ok inferred

def Done.result (r : Done) : DiagnosisResult := r.args.result r.inferred

abbrev Done.runId (r : Done) : String := r.args.runId

abbrev Done.endpointId (r : Done) : String := r.args.endpointId

theorem Done.valid (r : Done) : r.result.Valid where
  observations := r.args.wf
  confidence := (classifyDiagnosis_unit r.holds).1
  riskScore := (classifyDiagnosis_unit r.holds).2

def Done.row (r : Done) : Dict := r.result.modelDump

theorem modelValidate_row (r : Done) : modelValidate r.row = .ok r.result := by
  unfold modelValidate Done.row
  rw [ofRow_diagnosis r.valid]
  rfl

section Reads

variable {log : JsonlFile} {stored : List Done} (h : log.rows = stored.map Done.row)

include h

theorem getDiagnosis_rows (runId : String) :
    getDiagnosis log.file runId = .ok ((scan Done.runId runId stored).map Done.result) := by
  have hfind : findById log.file "run_id" runId =
      .ok ((scan Done.runId runId stored).map Done.row) := findById_rows (fun _ => rfl) h runId
  unfold getDiagnosis
  rw [hfind]
  cases scan Done.runId runId stored with
  | none => rfl
  | some r =>
    show (modelValidate r.row >>= fun d => pure (some d)) = _
    rw [modelValidate_row r]
    rfl

/-- The latest run is the one that was stored last. -/
theorem latestDiagnosis_rows :
    latestDiagnosis log.file = .ok (stored.getLast?.map Done.result) := by
  obtain ⟨rows, hread, hlast⟩ := readRecentJsonl_one log
  unfold latestDiagnosis
  rw [hread]
  show (match rows.getLast? with
    | none => pure none
    | some row => modelValidate row >>= fun d => pure (some d)) = _
  rw [hlast, h, List.getLast?_map]
  cases stored.getLast? with
  | none => rfl
  | some r =>
    show (modelValidate r.row >>= fun d => pure (some d)) = _
    rw [modelValidate_row r]
    rfl

/-- A replay says what the run said. -/
theorem replayDiagnosis_rows (runId : String) :
    replayDiagnosis log.file runId = .ok ((scan Done.runId runId stored).map fun r =>
      ⟨runId, r.result, r.inferred⟩) := by
  unfold replayDiagnosis
  rw [getDiagnosis_rows h]
  cases scan Done.runId runId stored with
  | none => rfl
  | some r =>
    show (classifyDiagnosis r.args.observations >>= fun i => pure (some (Replay.mk runId r.result i))) = _
    rw [r.holds]
    rfl

end Reads

/-! ## Runs side by side -/

/-- How far a run has come. -/
inductive Stage where
  | idle
  | inferred (r : Done)
  | read (r : Done) (previous : String)
  | audited (r : Done)

/-- The two logs, the run ids that have been drawn, and those who run a diagnosis. -/
structure System (Pid : Type) where
  audit : JsonlFile
  runs : JsonlFile
  drawn : List String
  stage : Pid → Stage

variable {Pid : Type} [DecidableEq Pid]

def System.move (sys : System Pid) (p : Pid) (stage : Stage) : System Pid :=
  { sys with stage := Function.update sys.stage p stage }

@[simp] theorem System.move_stage_self (sys : System Pid) (p : Pid) (stage : Stage) :
    (sys.move p stage).stage p = stage := Function.update_self _ _ _

theorem System.move_stage_of_ne (sys : System Pid) {p q : Pid} (h : q ≠ p) (stage : Stage) :
    (sys.move p stage).stage q = sys.stage q := Function.update_of_ne h _ _

theorem auditRow_wf (row : WFDict) : (Value.dict row.1).WF := row.2

def System.record (sep : Linesep) (sys : System Pid) (row : WFDict) : System Pid :=
  { sys with audit := sys.audit.append sep row.1 (auditRow_wf row) }

def System.store (sep : Linesep) (sys : System Pid) (r : Done) : System Pid :=
  { sys with runs := sys.runs.append sep r.row r.valid.wf }

/-- The row of a run in the audit log. -/
def Done.auditRow (H : Digest) (r : Done) (previous : String) : WFDict :=
  ⟨chainedRow H (r.args.auditEvent r.inferred) previous, chainedRow_wf H _ previous⟩

/-- One move of one run, or a row that somebody else writes to the audit log. No run id is drawn
twice. A run may break off anywhere. -/
inductive Step (H : Digest) (sep : Linesep) : System Pid → System Pid → Prop
  | other {sys : System Pid} (row : WFDict) : Step H sep sys (sys.record sep row)
  | infer {sys : System Pid} {p : Pid} (r : Done) (idle : sys.stage p = .idle)
      (fresh : r.runId ∉ sys.drawn) :
      Step H sep sys ({ sys with drawn := r.runId :: sys.drawn }.move p (.inferred r))
  | read {sys : System Pid} {p : Pid} {r : Done} {previous : String}
      (inferred : sys.stage p = .inferred r) (tail : readTail sys.audit.file = .ok previous) :
      Step H sep sys (sys.move p (.read r previous))
  | audit {sys : System Pid} {p : Pid} {r : Done} {previous : String}
      (read : sys.stage p = .read r previous) :
      Step H sep sys ((sys.record sep (r.auditRow H previous)).move p (.audited r))
  | store {sys : System Pid} {p : Pid} {r : Done} (audited : sys.stage p = .audited r) :
      Step H sep sys ((sys.store sep r).move p .idle)
  | breakOff {sys : System Pid} (p : Pid) : Step H sep sys (sys.move p .idle)

/-- Empty logs, and nobody at work. -/
def System.init (Pid : Type) : System Pid := ⟨.absent, .absent, [], fun _ => .idle⟩

/-- The run that is at work. -/
def Stage.run : Stage → Option Done
  | .idle => none
  | .inferred r | .read r _ | .audited r => some r

/-- A run has its row in the audit log. -/
def InAudit (H : Digest) (sys : System Pid) (r : Done) : Prop :=
  ∃ previous, (r.auditRow H previous).1 ∈ sys.audit.rows

/-- The log holds runs under different ids, each with its row in the audit log; a run at work has
an id of its own. -/
structure Holds (H : Digest) (sys : System Pid) (stored : List Done) : Prop where
  rows : sys.runs.rows = stored.map Done.row
  nodup : (stored.map Done.runId).Nodup
  drawn : ∀ r ∈ stored, r.runId ∈ sys.drawn
  accounted : ∀ r ∈ stored, InAudit H sys r
  atWork : ∀ p r, (sys.stage p).run = some r → r.runId ∈ sys.drawn ∧ r.runId ∉ stored.map Done.runId
  apart : ∀ p q r r', (sys.stage p).run = some r → (sys.stage q).run = some r' →
    r.runId = r'.runId → p = q
  audited : ∀ p r, sys.stage p = .audited r → InAudit H sys r

section Steps

variable {H : Digest} {sep : Linesep} {sys : System Pid} {stored : List Done}

omit [DecidableEq Pid] in
theorem InAudit.record {r : Done} (h : InAudit H sys r) (row : WFDict) :
    InAudit H (sys.record sep row) r := by
  obtain ⟨previous, hmem⟩ := h
  exact ⟨previous, List.mem_append_left _ hmem⟩

omit [DecidableEq Pid] in
theorem Holds.record (h : Holds H sys stored) (row : WFDict) :
    Holds H (sys.record sep row) stored :=
  { h with
    accounted := fun r hr => (h.accounted r hr).record row
    audited := fun p r hp => (h.audited p r hp).record row }

/-- A stage that goes on with the run that was at work, or leaves it. -/
theorem Holds.move (h : Holds H sys stored) {p : Pid} {stage : Stage}
    (hrun : ∀ r, stage.run = some r → (sys.stage p).run = some r)
    (haudited : ∀ r, stage = .audited r → InAudit H sys r) : Holds H (sys.move p stage) stored := by
  have hback : ∀ q r, ((sys.move p stage).stage q).run = some r → (sys.stage q).run = some r := by
    intro q r hq
    by_cases hqp : q = p
    · subst hqp
      rw [System.move_stage_self] at hq
      exact hrun r hq
    · rwa [System.move_stage_of_ne _ hqp] at hq
  refine ⟨h.rows, h.nodup, h.drawn, h.accounted, fun q r hq => h.atWork q r (hback q r hq),
    fun q q' r r' hq hq' => h.apart q q' r r' (hback q r hq) (hback q' r' hq'), fun q r hq => ?_⟩
  by_cases hqp : q = p
  · subst hqp
    rw [System.move_stage_self] at hq
    exact haudited r hq
  · rw [System.move_stage_of_ne _ hqp] at hq
    exact h.audited q r hq

omit [DecidableEq Pid] in
/-- A run that nobody is at work on any more is stored. -/
theorem Holds.store (h : Holds H sys stored) {r : Done} (hdrawn : r.runId ∈ sys.drawn)
    (hnew : r.runId ∉ stored.map Done.runId) (haudit : InAudit H sys r)
    (hleft : ∀ p r', (sys.stage p).run = some r' → r'.runId ≠ r.runId) :
    Holds H (sys.store sep r) (stored ++ [r]) := by
  refine ⟨?_, ?_, ?_, ?_, fun p r' hp => ⟨(h.atWork p r' hp).1, ?_⟩, h.apart, h.audited⟩
  · rw [List.map_append]
    exact congrArg (· ++ [r.row]) h.rows
  · rw [List.map_append, List.nodup_append]
    refine ⟨h.nodup, List.nodup_singleton _, fun a ha b hb => ?_⟩
    rintro rfl
    rw [List.mem_singleton.mp hb] at ha
    exact hnew ha
  · intro r' hr'
    rcases List.mem_append.mp hr' with hr' | hr'
    · exact h.drawn r' hr'
    · rwa [List.mem_singleton.mp hr']
  · intro r' hr'
    rcases List.mem_append.mp hr' with hr' | hr'
    · exact h.accounted r' hr'
    · rwa [List.mem_singleton.mp hr']
  · rw [List.map_append, List.mem_append, not_or]
    refine ⟨(h.atWork p r' hp).2, fun hmem => hleft p r' hp ?_⟩
    exact List.mem_singleton.mp hmem

theorem Holds.infer (h : Holds H sys stored) {p : Pid} {r : Done} (fresh : r.runId ∉ sys.drawn) :
    Holds H ({ sys with drawn := r.runId :: sys.drawn }.move p (.inferred r)) stored := by
  have hcases : ∀ q r', (({ sys with drawn := r.runId :: sys.drawn }.move p (.inferred r)).stage q).run
      = some r' → (q = p ∧ r' = r) ∨ (sys.stage q).run = some r' := by
    intro q r' hq
    by_cases hqp : q = p
    · subst hqp
      rw [System.move_stage_self] at hq
      exact .inl ⟨rfl, (Option.some.inj hq).symm⟩
    · rw [System.move_stage_of_ne _ hqp] at hq
      exact .inr hq
  have hother : ∀ q r', (sys.stage q).run = some r' → r'.runId ≠ r.runId := by
    intro q r' hq heq
    exact fresh (heq ▸ (h.atWork q r' hq).1)
  refine ⟨h.rows, h.nodup, fun r' hr' => List.mem_cons_of_mem _ (h.drawn r' hr'), h.accounted, ?_, ?_,
    fun q r' hq => ?_⟩
  · intro q r' hq
    rcases hcases q r' hq with ⟨-, rfl⟩ | hq
    · refine ⟨List.mem_cons_self, fun hmem => ?_⟩
      obtain ⟨r'', hr'', heq⟩ := List.mem_map.mp hmem
      exact fresh (heq ▸ h.drawn r'' hr'')
    · exact ⟨List.mem_cons_of_mem _ (h.atWork q r' hq).1, (h.atWork q r' hq).2⟩
  · intro q q' r₁ r₂ hq hq' heq
    rcases hcases q r₁ hq with ⟨rfl, rfl⟩ | hold
    · rcases hcases q' r₂ hq' with ⟨rfl, -⟩ | hold'
      · rfl
      · exact absurd heq.symm (hother q' r₂ hold')
    · rcases hcases q' r₂ hq' with ⟨rfl, rfl⟩ | hold'
      · exact absurd heq (hother q r₁ hold)
      · exact h.apart q q' r₁ r₂ hold hold' heq
  · by_cases hqp : q = p
    · subst hqp
      rw [System.move_stage_self] at hq
      cases hq
    · rw [System.move_stage_of_ne _ hqp] at hq
      exact h.audited q r' hq

end Steps

theorem Step.holds {H : Digest} {sep : Linesep} {sys sys' : System Pid} {stored : List Done}
    (hstep : Step H sep sys sys') (h : Holds H sys stored) : ∃ stored', Holds H sys' stored' := by
  cases hstep with
  | other row => exact ⟨stored, h.record row⟩
  | infer r idle fresh => exact ⟨stored, h.infer fresh⟩
  | @read p r previous inferred tail =>
    refine ⟨stored, h.move (fun r' hr' => ?_) fun r' hr' => by cases hr'⟩
    rw [inferred]
    exact hr'
  | @audit p r previous read =>
    refine ⟨stored, (h.record _).move (fun r' hr' => ?_) fun r' hr' => ?_⟩
    · show (sys.stage p).run = some r'
      rw [read]
      exact hr'
    · obtain rfl : r = r' := by simpa using hr'
      exact ⟨previous, List.mem_append_right _ (List.mem_singleton_self _)⟩
  | @store p r audited =>
    have hrun : (sys.stage p).run = some r := by rw [audited]; rfl
    have hleft : Holds H (sys.move p .idle) stored :=
      h.move (fun r' hr' => by cases hr') fun r' hr' => by cases hr'
    refine ⟨stored ++ [r], hleft.store (h.atWork p r hrun).1 (h.atWork p r hrun).2
      (h.audited p r audited) fun q r' hq heq => ?_⟩
    by_cases hqp : q = p
    · subst hqp
      rw [System.move_stage_self] at hq
      cases hq
    · rw [System.move_stage_of_ne _ hqp] at hq
      exact hqp (h.apart q p r' r hq hrun heq)
  | breakOff p =>
    exact ⟨stored, h.move (fun r' hr' => by cases hr') fun r' hr' => by cases hr'⟩

theorem reachable_holds {H : Digest} {sep : Linesep} {sys : System Pid}
    (h : ReflTransGen (Step H sep) (System.init Pid) sys) : ∃ stored, Holds H sys stored := by
  induction h with
  | refl =>
    refine ⟨[], rfl, List.nodup_nil, ?_, ?_, ?_, ?_, ?_⟩
    · exact fun r hr => absurd hr List.not_mem_nil
    · exact fun r hr => absurd hr List.not_mem_nil
    · intro p r hp
      cases hp
    · intro p q r r' hp
      cases hp
    · intro p r hp
      cases hp
  | tail _ hstep ih =>
    obtain ⟨stored, hholds⟩ := ih
    exact hstep.holds hholds

/-- A run with nobody in between takes the steps in turn. -/
theorem buildDiagnosisRun_steps {H : Digest} {sep : Linesep} {sys : System Pid} {p : Pid} {r : Done}
    (idle : sys.stage p = .idle) (fresh : r.runId ∉ sys.drawn) :
    ∃ sys', ReflTransGen (Step H sep) sys sys' ∧ sys'.runs.rows = sys.runs.rows ++ [r.row] ∧
      buildDiagnosisRun H sep sys.audit.file sys.runs.file r.args =
        .ok (sys'.audit.file, sys'.runs.file, r.result) := by
  let inferred := { sys with drawn := r.runId :: sys.drawn }.move p (.inferred r)
  let previous := tailHash sys.audit.rows
  let read := inferred.move p (.read r previous)
  let audited := (read.record sep (r.auditRow H previous)).move p (.audited r)
  have htail : readTail sys.audit.file = .ok previous := readTail_eq sys.audit
  have hinfer : Step H sep sys inferred := .infer r idle fresh
  have hread : Step H sep inferred read := .read (System.move_stage_self _ _ _) htail
  have haudit : Step H sep read audited := .audit (System.move_stage_self _ _ _)
  have hstore : Step H sep audited ((audited.store sep r).move p .idle) :=
    .store (System.move_stage_self _ _ _)
  refine ⟨_, (((ReflTransGen.single hinfer).tail hread).tail haudit).tail hstore, rfl, ?_⟩
  unfold buildDiagnosisRun appendContractAudit
  rw [r.holds, htail]
  rfl

/-- However runs go side by side with one another and with other writers of the audit log, and
wherever some of them break off: the log holds runs under different ids, each of them has its row in
the audit log, and replays to exactly what it said; under another id nothing replays, and the latest
run is the one that was stored last. -/
theorem reachable_replays {H : Digest} {sep : Linesep} {sys : System Pid}
    (h : ReflTransGen (Step H sep) (System.init Pid) sys) :
    ∃ stored : List Done, sys.runs.rows = stored.map Done.row ∧ (stored.map Done.runId).Nodup ∧
      latestDiagnosis sys.runs.file = .ok (stored.getLast?.map Done.result) ∧
      (∀ r ∈ stored, replayDiagnosis sys.runs.file r.runId =
        .ok (some ⟨r.runId, r.result, r.result.inferred⟩) ∧ InAudit H sys r) ∧
      ∀ runId ∉ stored.map Done.runId, replayDiagnosis sys.runs.file runId = .ok none := by
  obtain ⟨stored, hholds⟩ := reachable_holds h
  refine ⟨stored, hholds.rows, hholds.nodup, latestDiagnosis_rows hholds.rows,
    fun r hr => ⟨?_, hholds.accounted r hr⟩, ?_⟩
  · rw [replayDiagnosis_rows hholds.rows, scan_of_nodup hholds.nodup hr]
    rfl
  · intro runId hrunId
    rw [replayDiagnosis_rows hholds.rows, scan_eq_none_iff.mpr]
    · rfl
    · rintro r hr rfl
      exact hrunId (List.mem_map_of_mem hr)

/-- Names are not resolved, and connections fail. -/
def offlineArgs : RunArgs where
  endpointId := "laptop"
  observations :=
    [{ name := "dns_probe", status := .failed, timestamp := "2026-01-01T00:00:00+00:00" },
      { name := "tcp_443_probe", status := .failed, timestamp := "2026-01-01T00:00:01+00:00" }]
  wf := by simp [Value.WF]
  runId := "r1"
  eventId := "e1"
  auditedAt := "2026-01-01T00:00:02+00:00"
  timestampUtc := "2026-01-01T00:00:03+00:00"

def offlineRun : Done where
  args := offlineArgs
  inferred :=
    let f := findings offlineArgs.observations false
    ⟨f.hypotheses, clampUnit f.confidence, clampUnit f.risk, .inference, f.nextTest, f.policy⟩
  holds := rfl

/-- One run, from the beginning. -/
theorem offline_steps : ∃ sys : System Unit, ReflTransGen (Step sha256 .lf) (System.init Unit) sys ∧
    sys.runs.rows = [offlineRun.row] := by
  have idle : (System.init Unit).stage () = .idle := rfl
  have fresh : offlineRun.runId ∉ (System.init Unit).drawn := List.not_mem_nil
  obtain ⟨sys, hsteps, hrows, -⟩ := buildDiagnosisRun_steps idle fresh
  exact ⟨sys, hsteps, hrows⟩

theorem result_of_row {r r' : Done} (h : r.row = r'.row) : r.result = r'.result := by
  have hr := ofRow_diagnosis r.valid
  rw [show r.result.modelDump = r'.result.modelDump from h, ofRow_diagnosis r'.valid] at hr
  exact (Option.some.inj hr).symm

theorem stored_offline {stored : List Done} (h : [offlineRun.row] = stored.map Done.row) :
    ∃ r, stored = [r] ∧ r.result = offlineRun.result := by
  obtain ⟨r, rfl, hr⟩ := List.map_eq_singleton_iff.mp h.symm
  exact ⟨r, rfl, result_of_row hr⟩

theorem reachable_replays_offline : ∃ sys : System Unit,
    replayDiagnosis sys.runs.file "r1" =
      .ok (some ⟨"r1", offlineRun.result, offlineRun.inferred⟩) := by
  obtain ⟨sys, hrun, hrows⟩ := offline_steps
  obtain ⟨stored, hstored, -, -, hreplays, -⟩ := reachable_replays hrun
  obtain ⟨r, rfl, hr⟩ := stored_offline (hrows.symm.trans hstored)
  have hid : r.runId = "r1" := congrArg DiagnosisResult.runId hr
  have hreplay := (hreplays r (List.mem_singleton_self r)).1
  rw [hid, hr] at hreplay
  exact ⟨sys, hreplay⟩

/-! ## The fleet row of an endpoint -/

inductive EndpointStatus where
  | healthy
  | degraded
  | driftProxy
  | unknown
  deriving DecidableEq

/-- `EndpointSummary`. -/
structure EndpointSummary where
  endpointId : String
  hostnameHash : String
  safeDisplayName : String
  os : String
  status : EndpointStatus
  lastSeenAt : String
  lastKnownGoodAvailable : Bool
  latestRiskScore : FloatVal
  latestDiagnosisId : String

/-- The status that goes with a risk. -/
def statusOf (risk : FloatVal) : EndpointStatus :=
  if risk.lt (.ofScientific 25 (-2)) then .healthy
  else if FloatVal.le (.ofScientific 45 (-2)) risk then .driftProxy
  else .degraded

/-- The last run of an endpoint. -/
def latestForEndpoint (runs : File) (endpointId : String) :
    Except PyError (Option DiagnosisResult) := do
  let rows ← iterJsonl runs
  (rows.filter fun row => textField row "endpoint_id" = some endpointId).foldlM
    (fun _ row => (modelValidate row).map some) none

/-- `latest_lkg_snapshot`. -/
def latestLkgSnapshot (lkg : File) (endpointId : String) : Except PyError (Option Dict) :=
  findById lkg "endpoint_id" endpointId

/-- The heartbeat that a summary is about: the row it is given, or the last one of the endpoint. -/
def summaryBase (endpoints : File) (endpointId : String) (row : Option Dict) :
    Except PyError Dict :=
  match row.filter fun row => !row.isEmpty with
  | some row => .ok row
  | none => (findById endpoints "endpoint_id" endpointId).map (Option.getD · [])

/-- `endpoint_summary`; `system` is `platform.system()`. -/
def endpointSummary (system : String) (endpoints runs lkg : File) (endpointId : String)
    (row : Option Dict) : Except PyError EndpointSummary := do
  let base ← summaryBase endpoints endpointId row
  let latest ← latestForEndpoint runs endpointId
  let snapshot ← latestLkgSnapshot lkg endpointId
  let risk := latest.elim .zero fun d => d.inferred.riskScore
  let osBits := strip ((orElse (base.get? "os_family") (.str "")).toText.toList ++
    ' ' :: (orElse (base.get? "os_version") (.str "")).toText.toList)
  return {
    endpointId := endpointId
    hostnameHash := endpointId
    safeDisplayName := .ofList (endpointId.toList.take 12)
    os := if osBits = [] then system else .ofList osBits
    status := latest.elim .unknown fun _ => statusOf risk
    lastSeenAt := (orElse (base.get? "last_seen_at")
      (.str (latest.elim "" DiagnosisResult.timestampUtc))).toText
    lastKnownGoodAvailable := snapshot.isSome
    latestRiskScore := risk
    latestDiagnosisId := latest.elim "" DiagnosisResult.runId }

/-- What four findings add up to. -/
def riskOf (dns tcp https proxy : Bool) : FloatVal :=
  let add (b : Bool) (x y : FloatVal) : FloatVal := if b then y.add x else y
  add proxy (.ofScientific 45 (-2)) <| add https (.ofScientific 35 (-2)) <|
    add tcp (.ofScientific 25 (-2)) <| add dns (.ofScientific 25 (-2)) .zero

/-- The risk of a run depends on four findings alone. -/
theorem riskScore_classify {observations : List ProbeResult} {i : Inferred}
    (h : classifyDiagnosis observations = .ok i) : ∃ proxy,
    localhostProxy observations = .ok proxy ∧
      i.riskScore = clampUnit (riskOf (dnsFails observations) (tcpFails observations)
        (httpsFailsAlone observations) proxy) := by
  unfold classifyDiagnosis at h
  cases hproxy : localhostProxy observations with
  | error e =>
    rw [hproxy] at h
    cases h
  | ok proxy =>
    rw [hproxy] at h
    obtain rfl := Except.ok.inj h
    refine ⟨proxy, rfl, congrArg clampUnit ?_⟩
    unfold findings
    cases dnsFails observations <;> cases tcpFails observations <;>
      cases httpsFailsAlone observations <;> cases proxy <;> cases listenerSeen observations <;> rfl

theorem statusOf_risk (dns tcp https proxy : Bool) (h : (tcp && https) = false) :
    (statusOf (clampUnit (riskOf dns tcp https proxy)) = .driftProxy ↔
      (proxy || dns && (tcp || https)) = true) ∧
    (statusOf (clampUnit (riskOf dns tcp https proxy)) = .healthy ↔
      (dns || tcp || https || proxy) = false) := by
  revert dns tcp https proxy
  decide +kernel

/-- A connection that failed did not go through. -/
theorem tcp_https (observations : List ProbeResult) :
    (tcpFails observations && httpsFailsAlone observations) = false := by
  unfold tcpFails httpsFailsAlone hasStatus
  cases probeNamed observations "tcp_443_probe" with
  | none => rfl
  | some p =>
    show (decide (p.status = .failed) && (decide (p.status = .ok) && _)) = false
    cases p.status <;> rfl

/-- The last run of an endpoint is the last one that was stored under it. -/
theorem latestForEndpoint_rows {log : JsonlFile} {stored : List Done}
    (h : log.rows = stored.map Done.row) (endpointId : String) :
    latestForEndpoint log.file endpointId =
      .ok ((scan Done.endpointId endpointId stored).map Done.result) := by
  have hfold : ((stored.map Done.row).filter fun row =>
      textField row "endpoint_id" = some endpointId).foldlM
        (fun _ row => (modelValidate row).map some) none =
      .ok ((scan Done.endpointId endpointId stored).map Done.result) := by
    clear h
    induction stored using List.reverseRecOn with
    | nil => rfl
    | append_singleton stored r ih =>
      have hid : textField r.row "endpoint_id" = some r.endpointId := rfl
      rw [List.map_append, List.map_singleton, List.filter_append, List.foldlM_append, ih]
      by_cases hr : r.endpointId = endpointId
      · have hlast : [r.row].filter (fun row => textField row "endpoint_id" = some endpointId) =
            [r.row] := by simp [hid, hr]
        rw [hlast, scan_concat_self _ hr]
        show ((modelValidate r.row).map some >>= pure) = _
        rw [modelValidate_row r]
        rfl
      · have hnone : [r.row].filter (fun row => textField row "endpoint_id" = some endpointId) =
            [] := by simp [hid, hr]
        rw [hnone, scan_concat_of_ne _ hr]
        rfl
  unfold latestForEndpoint
  rw [log.reads, h]
  exact hfold

/-- What the row of an endpoint says of its last run. -/
def Tells (s : EndpointSummary) (r : Done) : Prop :=
  s.latestDiagnosisId = r.runId ∧ s.latestRiskScore = r.inferred.riskScore ∧
    ∃ proxy, localhostProxy r.args.observations = .ok proxy ∧
      (s.status = .driftProxy ↔ (proxy || dnsFails r.args.observations &&
        (tcpFails r.args.observations || httpsFailsAlone r.args.observations)) = true) ∧
      (s.status = .healthy ↔ (dnsFails r.args.observations || tcpFails r.args.observations ||
        httpsFailsAlone r.args.observations || proxy) = false)

theorem tells_of_result {s : EndpointSummary} {r : Done} (hid : s.latestDiagnosisId = r.runId)
    (hrisk : s.latestRiskScore = r.inferred.riskScore)
    (hstatus : s.status = statusOf r.inferred.riskScore) : Tells s r := by
  obtain ⟨proxy, hproxy, hscore⟩ := riskScore_classify r.holds
  refine ⟨hid, hrisk, proxy, hproxy, ?_⟩
  rw [hstatus, hscore]
  exact statusOf_risk _ _ _ _ (tcp_https _)

/-- In every state that is reached, the row of an endpoint is about the last run that was stored
under it, and about none where there is none. It says `drift_proxy` exactly where that run saw the
proxy or saw two failures of which one is in the resolution of names, and `healthy` exactly where
it saw none of the four. -/
theorem reachable_summary {H : Digest} {sep : Linesep} {sys : System Pid}
    (h : ReflTransGen (Step H sep) (System.init Pid) sys) :
    ∃ stored : List Done, sys.runs.rows = stored.map Done.row ∧
      ∀ (system : String) (endpoints lkg : JsonlFile) (endpointId : String) (row : Option Dict),
        ∃ s, endpointSummary system endpoints.file sys.runs.file lkg.file endpointId row = .ok s ∧
          match scan Done.endpointId endpointId stored with
          | none => s.latestDiagnosisId = "" ∧ s.status = .unknown ∧ s.latestRiskScore = .zero
          | some r => Tells s r := by
  obtain ⟨stored, hholds⟩ := reachable_holds h
  refine ⟨stored, hholds.rows, fun system endpoints lkg endpointId row => ?_⟩
  have hlatest := latestForEndpoint_rows hholds.rows endpointId
  obtain ⟨snapshot, hsnapshot⟩ : ∃ snapshot, latestLkgSnapshot lkg.file endpointId = .ok snapshot :=
    ⟨_, findById_reads lkg _ _⟩
  obtain ⟨base, hbase⟩ : ∃ base, summaryBase endpoints.file endpointId row = .ok base := by
    unfold summaryBase
    rw [findById_reads]
    cases row.filter fun row => !row.isEmpty with
    | none => exact ⟨_, rfl⟩
    | some row => exact ⟨row, rfl⟩
  unfold endpointSummary
  rw [hbase, hlatest, hsnapshot]
  refine ⟨_, rfl, ?_⟩
  cases scan Done.endpointId endpointId stored with
  | none => exact ⟨rfl, rfl, rfl⟩
  | some r => exact tells_of_result rfl rfl rfl

/-- No proxy has been seen, and the row says `drift_proxy`. -/
theorem reachable_summary_offline : ∃ (sys : System Unit) (s : EndpointSummary),
    endpointSummary "Windows" none sys.runs.file none "laptop" none = .ok s ∧
      s.latestDiagnosisId = "r1" ∧ s.status = .driftProxy ∧
      localhostProxy offlineArgs.observations = .ok false := by
  obtain ⟨sys, hrun, hrows⟩ := offline_steps
  obtain ⟨stored, hstored, hsummary⟩ := reachable_summary hrun
  obtain ⟨r, rfl, hr⟩ := stored_offline (hrows.symm.trans hstored)
  have hendpoint : r.endpointId = "laptop" := congrArg DiagnosisResult.endpointId hr
  have hobservations : r.args.observations = offlineArgs.observations :=
    congrArg DiagnosisResult.observations hr
  obtain ⟨s, hs, htells⟩ := hsummary "Windows" .absent .absent "laptop" none
  rw [show [r] = [] ++ [r] from rfl, scan_concat_self [] hendpoint] at htells
  obtain ⟨hid, -, proxy, -, hdrift, -⟩ := htells
  refine ⟨sys, s, hs, hid.trans (congrArg DiagnosisResult.runId hr), hdrift.mpr ?_, rfl⟩
  rw [hobservations]
  cases proxy <;> rfl

end Diagnosis
