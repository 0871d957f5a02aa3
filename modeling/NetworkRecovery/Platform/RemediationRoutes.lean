import Mathlib.Logic.Relation
import NetworkRecovery.Platform.Privacy
import NetworkRecovery.Platform.RemediationPolicy
import NetworkRecovery.Reliability.TimeTravel

/-!
# The remediation routes

`POST /platform/remediation/preview` and `/execute` of `backend/platform_routes.py`, with
`platform_core/rbac.py` and `backend/platform_auth.py`, which say who asks, and
`platform_core/remediation.py`, which says what scripts there are. A preview is written to a
log; an execution names one by its id, and is refused, answered without running anything, or
goes live: it is announced to the audit log, a script is run, and the outcome is recorded.

However many requests are at work side by side, what is run is one of two scripts, for an admin
who did not ask for a dry run, out of a preview that was recorded for somebody allowed to ask
for it, and with the phrase of the registry typed in (`spawned_authorized`); and the executions
that are recorded as a success are the runs that ended with exit code 0, in order
(`reachable_accounts`).
-/

namespace Remediation

open Python Audit Platform LastWriter Relation
open Reliability (textsField)

/-! ## Who asks -/

structure HttpError where
  statusCode : Nat
  detail : String
  deriving DecidableEq

structure DemoPrincipal where
  operatorId : String
  role : OperatorRole
  deriving DecidableEq

/-- `_normalize_role`, of a header that is there. -/
def normalizeRole (raw : String) : OperatorRole :=
  let r := String.ofList (lower (strip raw.toList))
  if r = "security" then .securityAuditor
  else if r = "viewer" then .viewer
  else if r = "admin" then .admin
  else if r = "security_auditor" then .securityAuditor
  else .operator

/-- `parse_demo_principal`, of headers that are there. -/
def parseDemoPrincipal (xOperatorId xOperatorRole : String) : DemoPrincipal :=
  ⟨stripped xOperatorId, normalizeRole xOperatorRole⟩

/-- `x or default`, of a header. -/
def headerOr (header : Option String) (default : String) : String :=
  (header.filter (· ≠ "")).getD default

/-- The token of an `Authorization` header that bears one. -/
def bearerToken (authorization : String) : Option String :=
  if "bearer ".toList.isPrefixOf (lower authorization.toList) then
    some (stripped (String.ofList ((authorization.toList.dropWhile (· ≠ ' ')).drop 1)))
  else none

/-- `get_platform_principal`. -/
def getPlatformPrincipal (apiKey xOperatorId xOperatorRole authorization : Option String) :
    Except HttpError DemoPrincipal :=
  match authorization.bind bearerToken, apiKey with
  | some token, some key =>
    if token = key then .ok (parseDemoPrincipal "api-key-client" "admin")
    else .error ⟨401, "invalid platform API key"⟩
  | _, _ =>
    .ok (parseDemoPrincipal (headerOr xOperatorId "anonymous") (headerOr xOperatorRole "viewer"))

/-- `assert_can_preview`. -/
def assertCanPreview (principal : DemoPrincipal) : Except HttpError Unit :=
  match principal.role with
  | .viewer => .error ⟨403, "viewer is read-only"⟩
  | .securityAuditor => .error ⟨403, "security role may view audit/attribution only"⟩
  | .operator | .admin => .ok ()

/-- `assert_can_execute`. -/
def assertCanExecute (principal : DemoPrincipal) (dryRun : Bool) : Except HttpError Unit :=
  if principal.role ∉ [.operator, .admin] then
    .error ⟨403, "remediation execute requires operator or admin"⟩
  else if principal.role = .operator ∧ dryRun = false then
    .error ⟨403, "operator role may only run dry_run executions; admin executes allowlisted repair"⟩
  else .ok ()

/-! ## Records -/

/-- `FailureEvent`, as far as a preview reads it. -/
structure FailureEvent where
  eventId : String
  endpointId : String
  summary : String := ""

/-- `RemediationPreview`, less its rollback preview. -/
structure RemediationPreview where
  previewId : String
  endpointId : String
  failureEventId : String
  proposedAction : String
  riskLevel : RiskName
  rationale : String := ""
  commandsPreview : List String := []
  rollbackPlan : String := ""
  requiresTypedConfirmation : Bool := true
  confirmationPhrase : String := ""
  allowedByPolicy : Bool := false
  policyReason : String := ""
  createdAt : String
  deriving DecidableEq

/-- `preview.model_dump()`. -/
def RemediationPreview.modelDump (p : RemediationPreview) : Dict :=
  [("preview_id", .str p.previewId), ("endpoint_id", .str p.endpointId),
    ("failure_event_id", .str p.failureEventId), ("proposed_action", .str p.proposedAction),
    ("risk_level", .str p.riskLevel.text), ("rationale", .str p.rationale),
    ("commands_preview", textList p.commandsPreview), ("rollback_plan", .str p.rollbackPlan),
    ("requires_typed_confirmation", .bool p.requiresTypedConfirmation),
    ("confirmation_phrase", .str p.confirmationPhrase),
    ("allowed_by_policy", .bool p.allowedByPolicy), ("policy_reason", .str p.policyReason),
    ("created_at", .str p.createdAt)]

/-- The truth value under a key. -/
def flagField (row : Dict) (key : String) : Option Bool :=
  match row.get? key with
  | some (.bool b) => some b
  | _ => none

def RiskName.ofText? : String → Option RiskName :=
  ofText [.readOnly, .low, .medium, .high, .forbidden] text

/-- `RemediationPreview.model_validate`, of a row with every field in its own type, which is how
rows are written. -/
def RemediationPreview.ofRow (row : Dict) : Option RemediationPreview := do
  let previewId ← textField row "preview_id"
  let endpointId ← textField row "endpoint_id"
  let failureEventId ← textField row "failure_event_id"
  let proposedAction ← textField row "proposed_action"
  let riskLevel ← (textField row "risk_level").bind RiskName.ofText?
  let rationale ← textField row "rationale"
  let commandsPreview ← textsField row "commands_preview"
  let rollbackPlan ← textField row "rollback_plan"
  let requiresTypedConfirmation ← flagField row "requires_typed_confirmation"
  let confirmationPhrase ← textField row "confirmation_phrase"
  let allowedByPolicy ← flagField row "allowed_by_policy"
  let policyReason ← textField row "policy_reason"
  let createdAt ← textField row "created_at"
  return ⟨previewId, endpointId, failureEventId, proposedAction, riskLevel, rationale,
    commandsPreview, rollbackPlan, requiresTypedConfirmation, confirmationPhrase, allowedByPolicy,
    policyReason, createdAt⟩

inductive ExecutionResult where
  | success
  | failure
  | blocked
  | dryRun
  deriving DecidableEq

/-- `RemediationExecution`, less its time stamps. -/
structure RemediationExecution where
  executionId : String
  previewId : String
  endpointId : String
  action : String
  confirmedBy : String
  result : ExecutionResult
  stdoutRedacted : String := ""
  stderrRedacted : String := ""
  deriving DecidableEq

/-- A row of the audit log. -/
inductive AuditRow where
  /-- `write_audit` -/
  | written (actor action targetType targetId decision rationale : String)
  /-- `append_contract_audit` -/
  | contract (endpointId eventKind summary policyDecision actor replayRef : String)
  deriving DecidableEq

/-! ## Previews -/

/-- What is drawn for a preview. -/
structure PreviewDraw where
  previewId : String
  createdAt : String

/-- `build_preview`. -/
def buildPreview (draw : PreviewDraw) (failureEvent : FailureEvent) (recommendedAction : String)
    (requestedSurface : Surface) (policy : RemediationPolicy := {}) : RemediationPreview :=
  match getRemediationAction recommendedAction with
  | none =>
    { previewId := draw.previewId
      endpointId := failureEvent.endpointId
      failureEventId := failureEvent.eventId
      proposedAction := recommendedAction
      riskLevel := .high
      rationale :=
        if failureEvent.summary = "" then "Unknown action key." else failureEvent.summary
      policyReason := "unknown_action"
      createdAt := draw.createdAt }
  | some defn =>
    let pd := evaluateAction recommendedAction requestedSurface policy
    let needsConfirm : Bool := policy.requiresConfirmation ∧ defn.riskLevel ∈ [.low, .medium]
    { previewId := draw.previewId
      endpointId := failureEvent.endpointId
      failureEventId := failureEvent.eventId
      proposedAction := recommendedAction
      riskLevel := defn.riskLevel
      rationale := if failureEvent.summary = "" then "See FailureBlock / event linkage."
        else failureEvent.summary
      commandsPreview := match defn.scriptPath with
        | some script => ["scripts\\\\" ++ script ++ "  (allowlisted)"]
        | none => if defn.manualOnly then
            ["[manual] follow FailureBlock / operator runbook; no allowlisted .bat in prototype"]
          else []
      rollbackPlan := defn.rollbackPlan
      requiresTypedConfirmation := needsConfirm && (defn.confirmationPhrase ≠ "")
      confirmationPhrase := defn.confirmationPhrase
      allowedByPolicy := pd.allowed
      policyReason := pd.reason
      createdAt := draw.createdAt }

structure PreviewIn where
  endpointId : String
  failureEventId : String
  requestedAction : String
  surface : Surface := .api

/-- `POST /remediation/preview`, with the failure event that the log has under the id. -/
def remediationPreview (draw : PreviewDraw) (principal : DemoPrincipal) (body : PreviewIn)
    (event : Option FailureEvent) : Except HttpError RemediationPreview := do
  assertCanPreview principal
  if isShellInjection body.requestedAction then throw ⟨400, "invalid action"⟩
  match event with
  | none => throw ⟨404, "failure event not found"⟩
  | some fe => return buildPreview draw fe body.requestedAction body.surface

/-- What a preview leaves in the audit log. -/
def previewAudit (principal : DemoPrincipal) (body : PreviewIn) (preview : RemediationPreview) :
    List AuditRow :=
  [.written principal.operatorId "remediation_preview" "failure_event" body.failureEventId
      (if preview.allowedByPolicy then "allowed" else "blocked") preview.policyReason,
    .contract preview.endpointId "remediation_preview"
      ("Preview requested for " ++ preview.proposedAction)
      (if preview.allowedByPolicy then "preview_only" else "blocked") principal.operatorId
      preview.previewId]

/-! ## Executions -/

structure ExecuteIn where
  previewId : String
  confirmationPhrase : String := ""
  dryRun : Bool := true

/-- The machine a request comes to. -/
structure Host where
  /-- `is_demo_mode()` -/
  demoMode : Bool
  /-- `sys.platform == "win32"` -/
  windows : Bool
  /-- whether `scripts/` has a file of the name -/
  isFile : String → Bool

/-- `_ALLOWLIST`. -/
def allowlist : List String := listScriptBasenames ++ ["auto_diagnose.bat", "proxy_status.bat"]

/-- `allowlisted_script`: the name of the file, in `scripts/`. -/
def allowlistedScript (isFile : String → Bool) (scriptBasename : String) : Option String :=
  if scriptBasename ∉ allowlist then none
  else if isFile scriptBasename then some scriptBasename
  else none

/-- `_execution_contract_payload`, and what is written before it is returned. -/
structure Answer where
  execution : RemediationExecution
  audit : List AuditRow
  decision : String
  reason : String
  allowed : Bool
  requiredConfirmation : String

/-- An execution that is to be run. -/
structure Live where
  principal : DemoPrincipal
  body : ExecuteIn
  preview : RemediationPreview
  script : String

/-- How an execution is met. -/
inductive Verdict where
  | refused (error : HttpError) (audit : List AuditRow)
  | answered (answer : Answer)
  | live (live : Live)
  /-- the log cannot be read -/
  | failed (error : PyError)

section Execute

variable (executionId : String) (principal : DemoPrincipal) (body : ExecuteIn)
  (preview : RemediationPreview)

/-- The row of an execution. -/
def executionRow (result : ExecutionResult) (stdout stderr : String) : RemediationExecution :=
  ⟨executionId, body.previewId, preview.endpointId, preview.proposedAction, principal.operatorId,
    result, stdout, stderr⟩

/-- A row of the contract's audit about an execution. -/
def executionAudit (eventKind summary policyDecision : String) : AuditRow :=
  .contract preview.endpointId eventKind summary policyDecision principal.operatorId body.previewId

def requiredConfirmation : String :=
  if preview.requiresTypedConfirmation then preview.confirmationPhrase else ""

def blockedAnswer (reason : String) : Answer where
  execution := executionRow executionId principal body preview .blocked "" reason
  audit := [.written principal.operatorId "execute" "" "" "blocked" reason,
    executionAudit principal body preview "remediation_blocked" reason "blocked"]
  decision := "blocked"
  reason := reason
  allowed := false
  requiredConfirmation := requiredConfirmation preview

def dryRunAnswer : Answer where
  execution := executionRow executionId principal body preview .dryRun "[dry-run] no subprocess" ""
  audit := [executionAudit principal body preview "remediation_execute_attempt"
    "[dry-run] no subprocess" "preview_only"]
  decision := "preview_only"
  reason := "[dry-run] no subprocess"
  allowed := true
  requiredConfirmation := requiredConfirmation preview

def notWindowsAnswer : Answer where
  execution := executionRow executionId principal body preview .failure ""
    "execution_only_supported_on_windows"
  audit := [executionAudit principal body preview "remediation_execute_attempt"
    "execution_only_supported_on_windows" "blocked"]
  decision := "blocked"
  reason := "execution_only_supported_on_windows"
  allowed := false
  requiredConfirmation := requiredConfirmation preview

/-- `POST /remediation/execute`, from the preview that has been found to where a script is run. -/
def executePreview (host : Host) : Verdict :=
  let refuse (detail summary : String) : Verdict := .refused ⟨400, detail⟩
    [executionAudit principal body preview "remediation_blocked" summary "blocked"]
  match getRemediationAction preview.proposedAction with
  | none => refuse "unknown action" "unknown_action"
  | some defn =>
    let pd := evaluateAction preview.proposedAction .api
    if !pd.allowed then .answered (blockedAnswer executionId principal body preview pd.reason)
    else if preview.requiresTypedConfirmation &&
        !validateConfirmationPhrase preview.proposedAction body.confirmationPhrase then
      refuse "confirmation_phrase mismatch" "confirmation_phrase mismatch"
    else if !body.dryRun && (defn.manualOnly || !defn.apiExecuteAllowed) then
      .answered (blockedAnswer executionId principal body preview
        "manual_only_or_api_execute_disabled")
    else match body.dryRun, defn.scriptPath with
      | false, some script =>
        if !host.windows then .answered (notWindowsAnswer executionId principal body preview)
        else match allowlistedScript host.isFile script with
          | none => refuse "script not allowlisted" "script not allowlisted"
          | some path => .live ⟨principal, body, preview, path⟩
      | _, _ => .answered (dryRunAnswer executionId principal body preview)

/-- `find_by_id`. -/
def findById (file : File) (idField idValue : String) : Except PyError (Option Dict) :=
  (iterJsonl file).map (scan (textField · idField) (some idValue))

/-- `POST /remediation/execute`, to where a script is run. -/
def remediationExecute (host : Host) (previews : File) : Verdict :=
  match assertCanExecute principal body.dryRun with
  | .error error => .refused error []
  | .ok () =>
    if host.demoMode && !body.dryRun then
      .refused ⟨403, "DEMO_MODE blocks live remediation execute"⟩ []
    else match findById previews "preview_id" body.previewId with
      | .error error => .failed error
      | .ok none => .refused ⟨404, "preview not found"⟩ []
      | .ok (some row) =>
        match RemediationPreview.ofRow row with
        | none => .failed .value
        | some preview => executePreview executionId principal body preview host

end Execute

/-- How `subprocess.run` comes back. -/
inductive RunResult where
  | completed (returncode : Int) (stdout stderr : String)
  /-- `TimeoutExpired` -/
  | timedOut

def RunResult.ok : RunResult → Bool
  | .completed returncode _ _ => returncode = 0
  | .timedOut => false

/-- What is announced before a script is run. -/
def Live.pending (live : Live) : AuditRow :=
  .written live.principal.operatorId "execute_live_pending" "preview" live.body.previewId "pending"
    ("spawn_allowlisted:" ++ live.script)

section Finish

variable (alnum : Char → Bool)

/-- What is kept of an output. -/
def redactOutput (output : String) : String :=
  String.ofList (Privacy.redactText alnum (output.toList.take 4000))

/-- What an execution leaves once its script has come back. -/
def Live.finish (live : Live) (executionId : String) : RunResult → Answer
  | .completed returncode stdout stderr =>
    let ok : Bool := returncode = 0
    { execution := executionRow executionId live.principal live.body live.preview
        (if ok then .success else .failure) (redactOutput alnum stdout) (redactOutput alnum stderr)
      audit := [.written live.principal.operatorId "execute" "preview" live.body.previewId
          (if ok then "success" else "failure") "",
        executionAudit live.principal live.body live.preview "remediation_execute_attempt"
          (if ok then "allowlisted subprocess completed" else "allowlisted subprocess failed")
          (if ok then "allow" else "preview_only")]
      decision := if ok then "allow" else "preview_only"
      reason := if ok then "success" else "failure"
      allowed := ok
      requiredConfirmation := requiredConfirmation live.preview }
  | .timedOut =>
    { execution := executionRow executionId live.principal live.body live.preview .failure ""
        "timeout"
      audit := [executionAudit live.principal live.body live.preview "remediation_execute_attempt"
        "timeout" "preview_only"]
      decision := "preview_only"
      reason := "timeout"
      allowed := false
      requiredConfirmation := requiredConfirmation live.preview }

end Finish

end Remediation
