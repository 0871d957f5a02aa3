import NetworkRecovery.Lib.LastWriter
import NetworkRecovery.Python.Text

/-!
# The remediation policy

`platform_core/remediation_registry.py`, `policy/classic.py` and `policy/engine.py`: what the
platform knows about an action that can be asked for, under its name or under an older one, and
whether the policy of the organisation lets it pass.

Of all names there are, whatever the policy, two can ever be run live: `reset_dns` and
`reset_proxy`, for an admin (`evaluate_executeAllowed_iff`).
-/

namespace Remediation

open Python LastWriter

/-! ## The registry -/

inductive RiskName where
  | readOnly
  | low
  | medium
  | high
  | forbidden
  deriving DecidableEq

def RiskName.text : RiskName → String
  | .readOnly => "read_only"
  | .low => "low"
  | .medium => "medium"
  | .high => "high"
  | .forbidden => "forbidden"

/-- `RequestSurface`. -/
inductive Surface where
  | api
  | cli
  | dashboard
  deriving DecidableEq

structure RemediationActionDef where
  actionName : String
  scriptPath : Option String
  riskLevel : RiskName
  allowedSurfaces : List Surface
  apiExecuteAllowed : Bool
  requiresConfirmation : Bool
  confirmationPhrase : String
  dryRunAllowed : Bool
  manualOnly : Bool
  rollbackPlan : String
  deriving DecidableEq

/-- `_all_surfaces`. -/
def allSurfaces : List Surface := [.api, .cli, .dashboard]

/-- An entry that only reads. -/
def readOnlyDef (actionName rollbackPlan : String) : RemediationActionDef :=
  ⟨actionName, none, .readOnly, allSurfaces, false, false, "", true, false, rollbackPlan⟩

/-- An entry that nothing may run. -/
def forbiddenDef (actionName : String) : RemediationActionDef :=
  ⟨actionName, none, .forbidden, [], false, false, "", false, false, "Not applicable."⟩

/-- An entry that is repaired by hand, with a phrase. -/
def manualDef (actionName : String) (scriptPath : Option String) (riskLevel : RiskName)
    (allowedSurfaces : List Surface) (confirmationPhrase rollbackPlan : String) :
    RemediationActionDef :=
  ⟨actionName, scriptPath, riskLevel, allowedSurfaces, false, true, confirmationPhrase, true, true,
    rollbackPlan⟩

/-- An entry whose script the API may run, with a phrase. -/
def scriptedDef (actionName script confirmationPhrase rollbackPlan : String) :
    RemediationActionDef :=
  ⟨actionName, some script, .medium, allSurfaces, true, true, confirmationPhrase, true, false,
    rollbackPlan⟩

def resetDns : RemediationActionDef :=
  scriptedDef "reset_dns" "reset_dns.bat" "RUN_DNS_RESET"
    "Restore prior DNS servers from backup notes if applicable."

def resetProxy : RemediationActionDef :=
  scriptedDef "reset_proxy" "reset_proxy.bat" "RUN_PROXY_RESET"
    "Reconfigure WinHTTP/user proxy per policy documentation."

/-- `_REMEDIATION_REGISTRY`. -/
def remediationRegistry : List (String × RemediationActionDef) :=
  [("inspect_proxy", readOnlyDef "inspect_proxy" "N/A (read-only inspection)."),
    ("preview_dns_flush", readOnlyDef "preview_dns_flush" "N/A (preview only)."),
    ("export_report", readOnlyDef "export_report"
      "Re-run collector; reports are non-destructive."),
    ("reset_dns", resetDns),
    ("reset_proxy", resetProxy),
    ("stop_proxy_listener", manualDef "stop_proxy_listener" none .high [.cli] "STOP_PROXY_LISTENER"
      "Process termination is not reversible; restart dev tooling manually if needed."),
    ("stop_proxy_reverter", manualDef "stop_proxy_reverter" none .high [.cli] "STOP_PROXY_REVERTER"
      ("Parent powershell termination is not reversible; " ++
        "restart dev proxy scripts manually if needed.")),
    ("winsock_reset", manualDef "winsock_reset" none .medium allSurfaces "RUN_WINSOCK_RESET"
      "Requires reboot planning; follow enterprise change windows."),
    ("tcpip_reset", manualDef "tcpip_reset" none .medium allSurfaces "RUN_TCPIP_RESET"
      "Document interface settings before stack reset."),
    ("firewall_reset_manual_only", manualDef "firewall_reset_manual_only"
      (some "reset_firewall.bat") .high allSurfaces "RUN_FIREWALL_RESET"
      "Manual restore of firewall profiles from backup or GPO."),
    ("arbitrary_command_forbidden", forbiddenDef "arbitrary_command_forbidden"),
    ("adapter_disable_forbidden", forbiddenDef "adapter_disable_forbidden"),
    ("process_kill_forbidden", forbiddenDef "process_kill_forbidden"),
    ("certificate_delete_forbidden", forbiddenDef "certificate_delete_forbidden")]

/-- `_ACTION_ALIASES`. -/
def actionAliases : List (String × String) :=
  [("reset_winsock", "winsock_reset"), ("reset_tcpip", "tcpip_reset"),
    ("reset_firewall", "firewall_reset_manual_only"),
    ("arbitrary_command", "arbitrary_command_forbidden"),
    ("arbitrary_command_forbidden", "arbitrary_command_forbidden"),
    ("process_kill", "process_kill_forbidden"), ("kill_process", "process_kill_forbidden"),
    ("certificate_delete", "certificate_delete_forbidden"),
    ("delete_certificate", "certificate_delete_forbidden")]

/-- `canonical_action_name`. -/
def canonicalActionName (actionName : String) : String :=
  (actionAliases.lookup actionName).getD actionName

/-- `get_remediation_action`. -/
def getRemediationAction (actionName : String) : Option RemediationActionDef :=
  remediationRegistry.lookup (canonicalActionName actionName)

/-- `list_script_basenames`, in the order of the registry. -/
def listScriptBasenames : List String :=
  (remediationRegistry.filterMap fun e => e.2.scriptPath).eraseDups

/-! ## The classic policy -/

/-- `RemediationPolicy`, as far as something asks for it. -/
structure RemediationPolicy where
  allowedRiskLevels : List RiskName := [.readOnly, .low, .medium]
  forbiddenActions : List String := []
  requiresConfirmation : Bool := true
  canRunFromApi : Bool := true
  canRunFromCli : Bool := true

structure PolicyDecision where
  allowed : Bool
  reason : String
  effectiveRisk : RiskName

/-- `require_typed_confirmation`. -/
def requireTypedConfirmation (actionName : String) : String :=
  (getRemediationAction actionName).elim "" RemediationActionDef.confirmationPhrase

/-- `evaluate_action`. -/
def evaluateAction (actionName : String) (requestedSurface : Surface)
    (policy : RemediationPolicy := {}) : PolicyDecision :=
  match getRemediationAction actionName with
  | none => ⟨false, "unknown_action", .forbidden⟩
  | some defn =>
    if defn.riskLevel = .forbidden then ⟨false, "forbidden_action", .forbidden⟩
    else if defn.riskLevel = .high then ⟨false, "high_risk_blocked_from_platform", .high⟩
    else if defn.allowedSurfaces ≠ [] ∧ requestedSurface ∉ defn.allowedSurfaces then
      ⟨false, "surface_not_allowed", defn.riskLevel⟩
    else if requestedSurface = .api ∧ policy.canRunFromApi = false then
      ⟨false, "api_disabled_by_policy", defn.riskLevel⟩
    else if requestedSurface = .cli ∧ policy.canRunFromCli = false then
      ⟨false, "cli_disabled_by_policy", defn.riskLevel⟩
    else if defn.riskLevel ∉ policy.allowedRiskLevels then
      ⟨false, "risk_level_not_allowed", defn.riskLevel⟩
    else if actionName ∈ policy.forbiddenActions then
      ⟨false, "action_forbidden_by_policy", defn.riskLevel⟩
    else ⟨true, "ok", defn.riskLevel⟩

/-- `validate_confirmation_phrase`. -/
def validateConfirmationPhrase (actionName phrase : String) : Bool :=
  let expected := requireTypedConfirmation actionName
  if expected = "" then true else strip phrase.toList = expected.toList

/-- `is_shell_injection`; the fourth of the characters is the backquote. -/
def isShellInjection (text : String) : Bool :=
  text.toList.any fun c => c ∈ [';', '&', '|', Char.ofNat 0x60, '$'] || c = '\n' || c = '\r'

/-! ## The unified gate -/

inductive OperatorRole where
  | viewer
  | operator
  | admin
  | securityAuditor
  deriving DecidableEq

structure OperatorContext where
  role : OperatorRole := .operator
  surface : Surface := .api

/-- `StructuredPolicyDecision`, less its time stamp. -/
structure StructuredPolicyDecision where
  executeAllowed : Bool := false
  previewAllowed : Bool := false
  reasonCodes : List String := []
  requiredRole : String := "admin"
  requiredConfirmation : Option String := none
  riskTier : RiskName := .readOnly

/-- `policy/engine.py::evaluate`, of an action that is registered under `actionKey`. -/
def evaluateRegistered (actionKey : String) (defn : RemediationActionDef)
    (operatorContext : OperatorContext) (pol : RemediationPolicy) : StructuredPolicyDecision :=
  let pd := evaluateAction actionKey operatorContext.surface pol
  let risk := pd.effectiveRisk
  let arbitrary := contains "arbitrary".toList actionKey.toList
  let gated := pd.allowed ∧ operatorContext.role ∈ [.operator, .admin]
  let previewAllowed : Bool := gated ∧ ¬ arbitrary
  let requiredConfirmation :=
    if defn.confirmationPhrase = "" then none else some defn.confirmationPhrase
  let execCandidate : Bool := previewAllowed ∧ operatorContext.role = .admin ∧ pd.allowed ∧
    defn.apiExecuteAllowed ∧ ¬ defn.manualOnly ∧ risk ∉ [.high, .forbidden]
  let manualBlock : Bool := defn.manualOnly ∧ ¬ arbitrary
  let gate := if gated then (if pd.reason ≠ "ok" then [pd.reason] else [])
    else [pd.reason, "classic_gate_denied"]
  let tier := if defn.riskLevel ∈ [.forbidden, .high] then
    ["execute_blocked_high_or_forbidden_tier"] else []
  let firewall := if contains "firewall".toList (lower actionKey.toList) ∨
    contains "adapter_disable".toList (lower actionKey.toList) then
    ["firewall_or_adapter_manual_only"] else []
  let arbitraryCode := if arbitrary then ["arbitrary_commands_forbidden"] else []
  let live := if execCandidate then
      "eligible_pending_confirmation_and_route_gates" ::
        if requiredConfirmation.isSome then ["confirmation_phrase_required"] else []
    else if operatorContext.role ≠ .admin ∧ previewAllowed ∧ pd.allowed then
      ["operator_may_preview_only_live_requires_admin"] else []
  let manual := if manualBlock then ["manual_only_registry_entry"] else []
  { executeAllowed := execCandidate && !manualBlock
    previewAllowed := previewAllowed
    reasonCodes := ((gate ++ tier ++ firewall ++ arbitraryCode ++ live ++ manual).filter
      (· ≠ "")).eraseDups
    requiredConfirmation := requiredConfirmation
    riskTier := risk }

/-- `remediation_action.strip()`. -/
def stripped (action : String) : String := String.ofList (strip action.toList)

/-- `policy/engine.py::evaluate`, less the snapshot, which is read and dropped. -/
def evaluate (remediationAction : Option String) (operatorContext : OperatorContext)
    (policy : Option RemediationPolicy := none) (allowArbitraryShell : Bool := false) :
    StructuredPolicyDecision :=
  if allowArbitraryShell then
    { reasonCodes := ["arbitrary_shell_forbidden_even_if_requested"], riskTier := .forbidden }
  else if operatorContext.role = .viewer then
    { reasonCodes := ["viewer_preview_blocked"], requiredRole := "operator" }
  else match remediationAction with
    | none => { reasonCodes := ["no_remediation_action"] }
    | some action =>
      if action = "" then { reasonCodes := ["no_remediation_action"] }
      else
        let actionKey := canonicalActionName (stripped action)
        match getRemediationAction actionKey with
        | none => { reasonCodes := ["unknown_action"] }
        | some defn => evaluateRegistered actionKey defn operatorContext (policy.getD {})

/-! ## What is registered -/

/-- A name stands for itself, or for what it is an older name of. -/
theorem canonical_cases (actionName : String) :
    (actionName, canonicalActionName actionName) ∈ actionAliases ∨
      canonicalActionName actionName = actionName := by
  unfold canonicalActionName
  cases h : actionAliases.lookup actionName with
  | none => exact .inr rfl
  | some target => exact .inl (mem_of_lookup h)

/-- One hop is all there is. -/
theorem canonical_canonical (actionName : String) :
    canonicalActionName (canonicalActionName actionName) = canonicalActionName actionName := by
  have htargets : ∀ e ∈ actionAliases, canonicalActionName e.2 = e.2 := by decide +kernel
  rcases canonical_cases actionName with h | h
  · exact htargets _ h
  · rw [h, h]

/-- A name and its canonical name are the same action. -/
theorem getRemediationAction_canonical (actionName : String) :
    getRemediationAction (canonicalActionName actionName) = getRemediationAction actionName := by
  unfold getRemediationAction
  rw [canonical_canonical]

/-- The actions that the API may run. -/
def liveActions : List (String × RemediationActionDef) :=
  [("reset_dns", resetDns), ("reset_proxy", resetProxy)]

/-- There are no others, and neither has another name. -/
theorem mem_liveActions_iff {actionName : String} {defn : RemediationActionDef} :
    (actionName, defn) ∈ liveActions ↔
      getRemediationAction actionName = some defn ∧ defn.apiExecuteAllowed = true := by
  constructor
  · have hlive : ∀ e ∈ liveActions,
        getRemediationAction e.1 = some e.2 ∧ e.2.apiExecuteAllowed = true := by decide +kernel
    exact hlive (actionName, defn)
  · rintro ⟨h, hapi⟩
    have hentries : ∀ e ∈ remediationRegistry, e.2.apiExecuteAllowed = true → e ∈ liveActions := by
      decide +kernel
    have halias : ∀ e ∈ actionAliases, e.2 ∉ liveActions.map Prod.fst := by decide +kernel
    have hmem := hentries _ (mem_of_lookup h) hapi
    rcases canonical_cases actionName with hname | hname
    · exact absurd (List.mem_map_of_mem hmem) (halias _ hname)
    · rwa [hname] at hmem

/-! ## What passes the policy -/

/-- Whether a surface may ask at all. -/
def RemediationPolicy.opens (policy : RemediationPolicy) : Surface → Bool
  | .api => policy.canRunFromApi
  | .cli => policy.canRunFromCli
  | .dashboard => true

theorem effectiveRisk_evaluateAction {actionName : String} {defn : RemediationActionDef}
    (h : getRemediationAction actionName = some defn) (surface : Surface)
    (policy : RemediationPolicy) :
    (evaluateAction actionName surface policy).effectiveRisk = defn.riskLevel := by
  unfold evaluateAction
  rw [h]
  grind

/-- An action passes the classic policy where it is registered, at a risk that is neither high
nor forbidden and that the policy allows, and where the surface is open and the name not
forbidden. -/
theorem evaluateAction_allowed_iff {actionName : String} {defn : RemediationActionDef}
    (h : getRemediationAction actionName = some defn) (surface : Surface)
    (policy : RemediationPolicy) :
    (evaluateAction actionName surface policy).allowed = true ↔
      defn.riskLevel ∉ [.forbidden, .high] ∧
      (defn.allowedSurfaces = [] ∨ surface ∈ defn.allowedSurfaces) ∧ policy.opens surface = true ∧
      defn.riskLevel ∈ policy.allowedRiskLevels ∧ actionName ∉ policy.forbiddenActions := by
  unfold evaluateAction RemediationPolicy.opens
  rw [h]
  cases surface <;> grind

/-- The unified gate lets a registered action be executed where the classic policy lets it pass,
for an admin, and where the registry leaves it to the API. -/
theorem evaluateRegistered_executeAllowed_iff {actionKey : String} {defn : RemediationActionDef}
    (h : getRemediationAction actionKey = some defn) (ctx : OperatorContext)
    (policy : RemediationPolicy) :
    (evaluateRegistered actionKey defn ctx policy).executeAllowed = true ↔
      (evaluateAction actionKey ctx.surface policy).allowed = true ∧ ctx.role = .admin ∧
      contains "arbitrary".toList actionKey.toList = false ∧ defn.apiExecuteAllowed = true ∧
      defn.manualOnly = false := by
  have hrisk := effectiveRisk_evaluateAction h ctx.surface policy
  have hallowed := evaluateAction_allowed_iff h ctx.surface policy
  simp only [evaluateRegistered, hrisk]
  grind

/-- What a policy needs to let a repair of medium risk pass. -/
structure RemediationPolicy.Repairs (policy : RemediationPolicy) (surface : Surface)
    (actionKey : String) : Prop where
  opens : policy.opens surface = true
  medium : .medium ∈ policy.allowedRiskLevels
  allowed : actionKey ∉ policy.forbiddenActions

theorem evaluateAction_live_iff {actionKey : String} {defn : RemediationActionDef}
    (h : (actionKey, defn) ∈ liveActions) (surface : Surface) (policy : RemediationPolicy) :
    (evaluateAction actionKey surface policy).allowed = true ↔ policy.Repairs surface actionKey := by
  have hmedium : ∀ e ∈ liveActions, e.2.riskLevel = .medium ∧ e.2.allowedSurfaces = allSurfaces := by
    decide +kernel
  obtain ⟨hrisk, hsurfaces⟩ := hmedium _ h
  have hall : surface ∈ allSurfaces := by cases surface <;> decide
  rw [evaluateAction_allowed_iff (mem_liveActions_iff.mp h).1, hrisk, hsurfaces]
  constructor
  · rintro ⟨-, -, hopens, hallowed, hname⟩
    exact ⟨hopens, hallowed, hname⟩
  · rintro ⟨hopens, hallowed, hname⟩
    exact ⟨by decide, .inr hall, hopens, hallowed, hname⟩

/-- A live action goes by its own name, which is not a forbidden command's. -/
theorem live_plain {actionKey : String} {defn : RemediationActionDef}
    (h : (actionKey, defn) ∈ liveActions) : canonicalActionName actionKey = actionKey ∧
      contains "arbitrary".toList actionKey.toList = false ∧ defn.manualOnly = false := by
  have hall : ∀ e ∈ liveActions, canonicalActionName e.1 = e.1 ∧
      contains "arbitrary".toList e.1.toList = false ∧ e.2.manualOnly = false := by decide +kernel
  exact hall _ h

/-- The unified gate says that an action may be executed exactly when it is asked for by an admin,
is one of the two that the API may run, and the policy lets it pass. -/
theorem evaluate_executeAllowed_iff {remediationAction : Option String} {ctx : OperatorContext}
    {policy : Option RemediationPolicy} {allowArbitraryShell : Bool} :
    (evaluate remediationAction ctx policy allowArbitraryShell).executeAllowed = true ↔
      allowArbitraryShell = false ∧ ctx.role = .admin ∧ ∃ action, remediationAction = some action ∧
        stripped action ∈ liveActions.map Prod.fst ∧
        (policy.getD {}).Repairs ctx.surface (stripped action) := by
  cases allowArbitraryShell with
  | true => simp [evaluate]
  | false =>
    by_cases hviewer : ctx.role = .viewer
    · simp [evaluate, hviewer]
    cases remediationAction with
    | none => simp [evaluate, hviewer]
    | some action =>
      have hempty : action = "" → stripped action ∉ liveActions.map Prod.fst := by
        rintro rfl
        decide +kernel
      simp only [evaluate, Bool.false_eq_true, if_false, if_neg hviewer, true_and,
        Option.some_inj, exists_eq_left']
      split
      · next h => simp [hempty h]
      have hkey := getRemediationAction_canonical (stripped action)
      split
      · next h =>
        -- an action that nobody knows is not one of the two
        rw [hkey] at h
        constructor
        · exact fun hfalse => absurd hfalse Bool.false_ne_true
        · rintro ⟨-, hmem, -⟩
          obtain ⟨⟨_, defn⟩, hlive, rfl⟩ := List.mem_map.mp hmem
          rw [(mem_liveActions_iff.mp hlive).1] at h
          cases h
      · next defn h =>
        rw [evaluateRegistered_executeAllowed_iff h]
        constructor
        · rintro ⟨hallowed, hadmin, -, hapi, -⟩
          have hlive : (stripped action, defn) ∈ liveActions := mem_liveActions_iff.mpr ⟨hkey ▸ h, hapi⟩
          rw [(live_plain hlive).1, evaluateAction_live_iff hlive] at hallowed
          exact ⟨hadmin, List.mem_map_of_mem hlive, hallowed⟩
        · rintro ⟨hadmin, hmem, hrepairs⟩
          obtain ⟨⟨name, defn'⟩, hlive, hname⟩ := List.mem_map.mp hmem
          obtain rfl : name = stripped action := hname
          obtain ⟨hget, hapi⟩ := mem_liveActions_iff.mp hlive
          obtain rfl : defn' = defn := Option.some.inj (hget.symm.trans (hkey.symm.trans h))
          obtain ⟨hcanonical, harbitrary, hmanual⟩ := live_plain hlive
          rw [hcanonical, evaluateAction_live_iff hlive]
          exact ⟨hrepairs, hadmin, harbitrary, hapi, hmanual⟩

end Remediation
