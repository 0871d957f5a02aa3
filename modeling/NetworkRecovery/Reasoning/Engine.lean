import NetworkRecovery.Platform.StateMachine

/-!
# The reasoning engine

`platform_core/reasoning_engine.py`, with what it calls in `failure_scenarios.py`,
`impact_score.py` and `policy_v2.py`: observations become events and signals, these
a path of states, a ranking and an impact, and all of it a decision on the action
that is asked for.

Whatever is observed, and however sure and grave it looks, the decision hangs on
four things alone (`outcome_runReasoning`): the action, the proof, the
confirmation, and whether the signals contradict each other. The guardrails after
the gate never change what it has said.
-/

namespace Reasoning

open Python Platform

/-! ## Vocabulary -/

inductive EvidenceLevel where
  | observed
  | inferred
  | validated
  | proof
  | rejected
  deriving DecidableEq

def EvidenceLevel.text : EvidenceLevel → String
  | .observed => "observed"
  | .inferred => "inferred"
  | .validated => "validated"
  | .proof => "proof"
  | .rejected => "rejected"

inductive ProofStatus where
  | notRun
  | confirmed
  | rejected
  | inconclusive
  deriving DecidableEq

def ProofStatus.text : ProofStatus → String
  | .notRun => "NOT_RUN"
  | .confirmed => "CONFIRMED"
  | .rejected => "REJECTED"
  | .inconclusive => "INCONCLUSIVE"

inductive PolicyOutcome where
  | allow
  | preview
  | block
  deriving DecidableEq

def PolicyOutcome.text : PolicyOutcome → String
  | .allow => "ALLOW"
  | .preview => "PREVIEW"
  | .block => "BLOCK"

inductive TrustLevel where
  | low
  | medium
  | high
  deriving DecidableEq

/-- `ImpactSeverity`. -/
inductive Severity where
  | low
  | medium
  | high
  | critical
  deriving DecidableEq

def Severity.text : Severity → String
  | .low => "low"
  | .medium => "medium"
  | .high => "high"
  | .critical => "critical"

inductive ImpactScope where
  | browserOnly
  | devTools
  | browserAndDevTools
  | systemWide
  | multiEndpoint
  deriving DecidableEq

def ImpactScope.text : ImpactScope → String
  | .browserOnly => "browser_only"
  | .devTools => "dev_tools"
  | .browserAndDevTools => "browser_and_dev_tools"
  | .systemWide => "system_wide"
  | .multiEndpoint => "multi_endpoint"

inductive ImpactDuration where
  | short
  | medium
  | long
  | unknown
  deriving DecidableEq

def ImpactDuration.text : ImpactDuration → String
  | .short => "short"
  | .medium => "medium"
  | .long => "long"
  | .unknown => "unknown"

structure AuditMetadata where
  schemaVersion : String := "reasoning.v1"
  engineVersion : String := "2026.05"
  replayable : Bool := true
  sourceRunId : Option String := none
  tags : List String := []

structure Observation where
  id : String
  timestamp : String
  source : String := "unknown"
  signalName : String
  value : Value
  /-- nothing is `None` -/
  normalizedValue : Value := .none
  confidence : FloatVal := .one
  evidenceLevel : EvidenceLevel := .observed
  limitations : List String := []
  recommendedNextSteps : List String := []
  auditMetadata : AuditMetadata := {}

structure ProofResult where
  id : String
  timestamp : String
  source : String := "proof_engine"
  hypothesis : String := ""
  status : ProofStatus := .notRun
  confidence : FloatVal := .zero
  checksRun : List String := []
  evidence : List String := []
  limitations : List String := []
  recommendedNextSteps : List String := []
  auditMetadata : AuditMetadata := {}

/-- `str.strip().lower()`. -/
def normalizeAction (s : String) : String := String.ofList (lower (strip s.toList))

/-- The words that `TRUE_VALUES` and `_has` take for true. -/
def trueWords : List String := ["true", "yes", "ok", "success", "succeeded", "enabled", "1"]

/-! ## Events -/

/-- `value in TRUE_VALUES`: a list and a dictionary cannot be hashed. -/
def isTrue : Value → Except PyError Bool
  | .str s => .ok (trueWords.contains (normalizeAction s))
  | .bool b => .ok b
  | .int n => .ok (n == 1)
  | .float x => .ok (x.le .one && FloatVal.one.le x)
  | .none => .ok false
  | .list _ | .dict _ => .error .type

/-- The normalized value where there is one. -/
def Observation.effective (o : Observation) : Value :=
  match o.normalizedValue with
  | .none => o.value
  | v => v

/-- `normalize_signals`. -/
def normalizeSignals (observations : List Observation) : Dict :=
  observations.foldl (fun signals o => signals.set o.signalName o.effective) []

def endsWith (s ending : String) : Bool := ending.toList.isSuffixOf s.toList

def startsWith (s start : String) : Bool := start.toList.isPrefixOf s.toList

/-- `event_category` of `state_machine.py`. -/
def eventCategory (eventType : String) : String :=
  if endsWith eventType "_ok" then "connectivity_positive"
  else if endsWith eventType "_failed" || endsWith eventType "_failure" then "connectivity_failure"
  else if contains "proxy".toList eventType.toList then "proxy"
  else if startsWith eventType "browser_" then "browser"
  else if startsWith eventType "dns_" || startsWith eventType "tcp" then "network_transport"
  else if startsWith eventType "policy_" then "policy"
  else "signal"

/-- `EndpointEvent`, as `detect_endpoint_events` makes it. -/
structure DetectedEvent extends EndpointEvent where
  source : String
  category : String
  severity : String
  confidence : FloatVal
  observationIds : List String
  details : Dict
  limitations : List String
  recommendedNextSteps : List String

def eventSeverity (signalName : String) : String :=
  if ["wininet_proxy_changed", "localhost_proxy_detected", "wininet_proxy_enabled"].contains
      signalName then "low"
  else if ["browser_https_failed", "proxied_path_failed"].contains signalName then "medium"
  else "info"

def eventOf (id : String) (o : Observation) : DetectedEvent where
  id := id
  eventType := o.signalName
  source := o.source
  category := eventCategory o.signalName
  severity := eventSeverity o.signalName
  confidence := o.confidence
  observationIds := [o.id]
  details := [("value", o.value)]
  limitations := o.limitations
  recommendedNextSteps := o.recommendedNextSteps

/-- `detect_endpoint_events`; `draw` gives the ids of the events. -/
def detectEndpointEvents (draw : Nat → String) : Nat → List Observation →
    Except PyError (List DetectedEvent)
  | _, [] => .ok []
  | i, o :: os => do
    let present ← isTrue o.effective
    let later ← detectEndpointEvents draw (i + 1) os
    return if present then eventOf (draw i) o :: later else later

/-! ## States -/

/-- `_has`. -/
def has (signals : Dict) (name : String) : Bool :=
  match signals.fetch name with
  | .str s => trueWords.contains (normalizeAction s)
  | value => value.truthy

/-- The events of a type have been observed. -/
def observed (events : List DetectedEvent) (name : String) : Bool :=
  events.any (·.eventType == name)

/-- `_event_ids_for`. -/
def eventIdsFor (required : List String) (events : List DetectedEvent) : List String :=
  (events.filter fun event => required.contains event.eventType).map (·.id)

/-- The path so far, and where it is. -/
structure Walk where
  current : String := "healthy_browser_path"
  transitions : List StateTransition := []

/-- One more transition, from where the path is. -/
def Walk.goTo (walk : Walk) (toState ruleId : String) (confidence : FloatVal)
    (eventIds : List String) : Walk where
  current := toState
  transitions := walk.transitions ++
    [{ fromState := walk.current, toState := toState, eventIds := eventIds, ruleId := ruleId,
       confidence := confidence }]

def driftEvents : List String :=
  ["wininet_proxy_changed", "wininet_proxy_enabled", "localhost_proxy_detected"]

def suspectRequired : List String :=
  ["ping_ok", "dns_ok", "tcp443_ok", "browser_https_failed", "wininet_proxy_enabled"]

def confirmedRequired : List String := ["proxy_bypass_succeeded", "proxied_path_failed"]

/-- A step of the path where its condition holds. -/
def Walk.goIf (walk : Walk) (condition : Bool) (toState ruleId : String) (confidence : FloatVal)
    (eventIds : List String) : Walk :=
  if condition then walk.goTo toState ruleId confidence eventIds else walk

/-- `infer_browser_proxy_transitions`, as the path it walks. -/
def browserProxyWalk (events : List DetectedEvent) (signals : Dict) : Walk :=
  let drift := driftEvents.filter (observed events)
  let walk := ({} : Walk).goIf (!drift.isEmpty) "proxy_drift_detected" "proxy_drift"
    (.ofScientific 72 (-2)) (eventIdsFor drift events)
  let walk := walk.goIf (suspectRequired.all (observed events)) "browser_path_failure_suspected"
    "browser_path_suspected" (.ofScientific 84 (-2)) (eventIdsFor suspectRequired events)
  let walk := walk.goIf (confirmedRequired.all (observed events)) "proxy_path_failure_confirmed"
    "proxy_path_confirmed" (.ofScientific 92 (-2)) (eventIdsFor confirmedRequired events)
  walk.goIf (has signals "policy_preview_allowed" && walk.current == "proxy_path_failure_confirmed")
    "remediation_preview_ready" "preview_ready" (.ofScientific 90 (-2))
    (eventIdsFor ["policy_preview_allowed"] events)

def inferBrowserProxyTransitions (events : List DetectedEvent) (signals : Dict) :
    List StateTransition := (browserProxyWalk events signals).transitions

/-! ## Hypotheses -/

structure RejectedAlternative where
  hypothesis : String
  reason : String

/-- `reject_alternatives`. -/
def rejectAlternatives (signals : Dict) : List RejectedAlternative :=
  (if has signals "ping_ok" || has signals "dns_ok" || has signals "tcp443_ok" then
      [⟨"total_network_outage", "ping/dns/tcp checks succeeded"⟩] else []) ++
    (if has signals "dns_ok" then [⟨"dns_only_failure", "dns resolution succeeded"⟩] else []) ++
    (if has signals "tcp443_ok" then [⟨"tcp_blocked", "TCP 443 connectivity succeeded"⟩] else []) ++
    (if has signals "tcp443_ok" && has signals "proxy_bypass_succeeded" then
      [⟨"upstream_isp_issue", "direct HTTPS path succeeded outside proxy"⟩] else []) ++
    (if has signals "proxy_bypass_succeeded" && !has signals "tls_certificate_error" then
      [⟨"certificate_tls_issue", "proxy bypass succeeded without TLS error signal"⟩] else [])

/-- A row of the ranking. -/
structure RankedHypothesis where
  hypothesis : String
  confidence : FloatVal
  evidence : List String
  stateDepth : Option Nat := none
  rejected : Bool := false

/-- A score, and what has gone into it. -/
structure Score where
  value : FloatVal
  evidence : List String := []

def Score.addIf (score : Score) (condition : Bool) (weight : FloatVal) (evidence : List String) :
    Score :=
  if condition then ⟨score.value.add weight, score.evidence ++ evidence⟩ else score

/-- The score of the browser proxy hypothesis, before it is clipped. -/
def hypothesisScore (signals : Dict) (status : ProofStatus) : Score :=
  let score : Score := suspectRequired.foldl
    (fun (score : Score) name => score.addIf (has signals name) (.ofScientific 10 (-2)) [name])
    ⟨.ofScientific 20 (-2), []⟩
  let score := score.addIf (has signals "localhost_proxy_detected") (.ofScientific 8 (-2))
    ["localhost_proxy_detected"]
  let score := score.addIf (has signals "proxy_bypass_succeeded" && has signals "proxied_path_failed")
    (.ofScientific 18 (-2)) ["proxy_bypass_succeeded", "proxied_path_failed"]
  score.addIf (status = .confirmed) (.ofScientific 12 (-2)) ["proof_confirmed"]

/-- `rank_hypotheses`: the first row, and the alternatives that are rejected. -/
def acceptedHypothesis (transitions : List StateTransition) (signals : Dict) (status : ProofStatus) :
    RankedHypothesis :=
  let score := hypothesisScore signals status
  let value := if transitions.isEmpty then score.value.min (.ofScientific 30 (-2)) else score.value
  { hypothesis := "browser_proxy_path_regression"
    confidence := (FloatVal.zero.max (FloatVal.min (.ofScientific 98 (-2)) value)).round 2
    evidence := score.evidence
    stateDepth := some transitions.length }

def rankHypotheses (transitions : List StateTransition) (signals : Dict) (status : ProofStatus) :
    List RankedHypothesis :=
  acceptedHypothesis transitions signals status ::
    (rejectAlternatives signals).map fun alternative =>
      { hypothesis := alternative.hypothesis
        confidence := .ofScientific 10 (-2)
        evidence := [alternative.reason]
        rejected := true }

/-! ## Impact -/

def severityWeight : Severity → FloatVal
  | .low => .ofScientific 25 (-2)
  | .medium => .ofScientific 55 (-2)
  | .high => .ofScientific 85 (-2)
  | .critical => .one

def scopeWeight : ImpactScope → FloatVal
  | .browserOnly => .ofScientific 65 (-2)
  | .devTools => .ofScientific 55 (-2)
  | .browserAndDevTools => .ofScientific 90 (-2)
  | .systemWide | .multiEndpoint => .one

def durationWeight : ImpactDuration → FloatVal
  | .short => .ofScientific 65 (-2)
  | .medium | .unknown => .ofScientific 85 (-2)
  | .long => .one

/-- `impact_level`. -/
def impactLevel (score : FloatVal) : Severity :=
  if (FloatVal.ofScientific 75 (-2)).le score then .critical
  else if (FloatVal.ofScientific 50 (-2)).le score then .high
  else if (FloatVal.ofScientific 25 (-2)).le score then .medium
  else .low

structure ReliabilityImpact where
  severity : Severity
  scope : ImpactScope
  confidence : FloatVal
  durationFactor : ImpactDuration
  impactScore : FloatVal
  impactLevel : Severity
  explanation : String

/-- `calculate_reliability_impact`. -/
def calculateReliabilityImpact (severity : Severity) (scope : ImpactScope) (confidence : FloatVal)
    (durationFactor : ImpactDuration) : ReliabilityImpact :=
  let bounded := FloatVal.zero.max (FloatVal.one.min confidence)
  let product := (((severityWeight severity).mul (scopeWeight scope)).mul bounded).mul
    (durationWeight durationFactor)
  let score := (FloatVal.zero.max (FloatVal.one.min product)).round 2
  { severity := severity
    scope := scope
    confidence := bounded
    durationFactor := durationFactor
    impactScore := score
    impactLevel := Reasoning.impactLevel score
    explanation := "Impact uses severity=" ++ severity.text ++ ", scope=" ++ scope.text ++
      ", confidence=" ++ String.ofList (bounded.fixed 2) ++ ", duration=" ++ durationFactor.text ++
      ". The score is a ranking aid, not a financial loss model." }

/-! ## Policy -/

/-- `SAFE_REGISTRY_ACTIONS`. -/
def safeRegistryActions : List String :=
  ["restore_proxy", "disable_proxy", "reset_wininet_proxy", "restore_known_good_proxy"]

/-- `DESTRUCTIVE_ACTION_TOKENS`. -/
def destructiveActionTokens : List String :=
  ["firewall", "adapter_disable", "kill", "process_kill", "arbitrary_shell", "netsh_reset"]

/-- `ALWAYS_BLOCKED_ACTIONS`. -/
def alwaysBlockedActions : List String :=
  ["firewall_reset", "reset_firewall", "adapter_disable", "process_kill", "kill", "arbitrary_shell",
    "arbitrary_command", "delete_certificates", "netsh_reset"]

/-- `(requested_action or "").strip().lower() or None`. -/
def actionKey (requestedAction : Option String) : Option String :=
  let action := normalizeAction (requestedAction.getD "")
  if action = "" then none else some action

/-- `blocked_actions_for_request`. -/
def blockedActionsForRequest (outcome : PolicyOutcome) (requestedAction : Option String) :
    List String :=
  match actionKey requestedAction with
  | some action =>
    if outcome = .block ∧ action ∉ alwaysBlockedActions then
      (alwaysBlockedActions ++ [action]).eraseDups
    else alwaysBlockedActions.eraseDups
  | none => alwaysBlockedActions.eraseDups

structure PolicyDecision where
  outcome : PolicyOutcome
  requestedAction : Option String := none
  hypothesis : String := ""
  stateTransition : String := ""
  evidenceLevel : EvidenceLevel := .inferred
  proofStatus : ProofStatus := .notRun
  confidence : FloatVal := .zero
  trustLevel : TrustLevel := .medium
  impactLevel : Severity := .low
  requiresConfirmation : Bool := false
  confirmationPhrase : Option String := none
  reasonCodes : List String := []
  blockedActions : List String := []
  limitations : List String := []
  recommendedNextSteps : List String := []
  deriving DecidableEq

/-- Some token of a destructive action is in it. -/
def destructive (action : String) : Bool :=
  destructiveActionTokens.any fun token => contains token.toList action.toList

/-- What is decided, while the guardrails look at it. -/
structure Verdict where
  outcome : PolicyOutcome
  reasonCodes : List String := []
  limitations : List String := []

/-- The gate for an action that is safe. -/
def gate (status : ProofStatus) (explicitConfirmation conflictingSignals : Bool) : Verdict :=
  if conflictingSignals then
    { outcome := .preview
      reasonCodes := ["CONFLICTING_SIGNALS"]
      limitations := ["Conflicting observations reduce trust; live execution is not allowed."] }
  else if status = .confirmed ∧ explicitConfirmation then
    { outcome := .allow
      reasonCodes := ["CONFIRMED_SAFE_TIER_WITH_CONFIRMATION", "SAFE_TIER_ACTION"] }
  else
    { outcome := .preview
      reasonCodes := ["REQUIRES_OPERATOR_CONFIRMATION", "PREVIEW_UNTIL_PROOF"] }

/-- A guardrail: where its condition holds, there is a preview at most. -/
def Verdict.guardrail (v : Verdict) (condition : Bool) (code limitation : String) : Verdict :=
  if condition then
    { outcome := .preview
      reasonCodes := v.reasonCodes ++ [code]
      limitations := if v.outcome = .allow then v.limitations ++ [limitation] else v.limitations }
  else v

/-- The guardrails behind the gate. -/
def Verdict.guarded (v : Verdict) (status : ProofStatus) (trustLevel : TrustLevel)
    (impactLevel : Severity) : Verdict :=
  let v := v.guardrail ((impactLevel = .high ∨ impactLevel = .critical) ∧ status ≠ .confirmed)
    "HIGH_IMPACT_UNPROVEN"
    "High or critical reliability impact requires CONFIRMED proof before live execute."
  let v := v.guardrail (impactLevel = .critical ∧ trustLevel ≠ .high) "CRITICAL_IMPACT_LOW_TRUST"
    "Critical reliability impact requires high trust (CONFIRMED proof, no conflicting signals)."
  v.guardrail (status ≠ .confirmed) "HIGH_CONFIDENCE_UNPROVEN"
    "Unproven hypothesis cannot grant execute authority even with high confidence."

/-- The arguments of `evaluate_reasoning_policy`; of the transitions, the state the last
one leads to. -/
structure PolicyRequest where
  hypothesis : String
  lastState : Option String
  status : ProofStatus
  confidence : FloatVal
  impactLevel : Severity
  requestedAction : Option String
  explicitConfirmation : Bool := false
  conflictingSignals : Bool := false

def PolicyRequest.evidenceLevel (r : PolicyRequest) : EvidenceLevel :=
  if r.status = .confirmed then .proof else if r.lastState.isSome then .validated else .inferred

def PolicyRequest.trustLevel (r : PolicyRequest) : TrustLevel :=
  if r.conflictingSignals then .low else if r.status = .confirmed then .high else .medium

/-- What every decision on a request says of it. -/
def PolicyRequest.decision (r : PolicyRequest) (outcome : PolicyOutcome) (action : Option String) :
    PolicyDecision where
  outcome := outcome
  requestedAction := action
  hypothesis := r.hypothesis
  stateTransition := r.lastState.getD "unknown"
  evidenceLevel := r.evidenceLevel
  proofStatus := r.status
  confidence := r.confidence
  trustLevel := r.trustLevel
  impactLevel := r.impactLevel
  blockedActions := blockedActionsForRequest outcome action

/-- `evaluate_reasoning_policy`. -/
def evaluateReasoningPolicy (r : PolicyRequest) : PolicyDecision :=
  match actionKey r.requestedAction with
  | none =>
    { r.decision .preview none with
      reasonCodes := ["DIAGNOSTIC_ONLY"]
      recommendedNextSteps := ["Run preview with a safe remediation action if repair is needed."] }
  | some action =>
    if destructive action then
      { r.decision .block (some action) with
        reasonCodes := ["DESTRUCTIVE_ACTION_BLOCKED"]
        limitations :=
          ["Firewall reset, adapter disable, process kill, and arbitrary shell remain blocked."]
        recommendedNextSteps := ["Use manual incident response after preserving evidence."] }
    else if action ∉ safeRegistryActions then
      { r.decision .block (some action) with
        reasonCodes := ["UNKNOWN_ACTION"]
        limitations := ["Only allowlisted remediation action keys can pass policy."]
        recommendedNextSteps := ["Choose an allowlisted preview action or continue diagnostics."] }
    else
      let v := (gate r.status r.explicitConfirmation r.conflictingSignals).guarded r.status
        r.trustLevel r.impactLevel
      { r.decision v.outcome (some action) with
        requiresConfirmation := true
        confirmationPhrase := some "RESTORE_PROXY"
        reasonCodes := (v.reasonCodes ++ ["REQUIRES_TYPED_CONFIRMATION"]).eraseDups
        limitations := v.limitations
        recommendedNextSteps :=
          ["Show remediation preview and require typed operator confirmation."] }

/-! ## A run -/

/-- `_conflicting_signals`. -/
def conflictingSignals (signals : Dict) : Bool :=
  (has signals "browser_https_failed" && has signals "browser_https_ok") ||
    (has signals "dns_ok" && has signals "dns_failed")

/-- The limitations of `browser_proxy_path_regression`. -/
def scenarioLimitations : List String :=
  ["Listener/process correlation does not prove registry writer identity.",
    "Registry writer proof requires Sysmon/EventLog/Procmon-style telemetry."]

/-- The next steps of `browser_proxy_path_regression`. -/
def scenarioNextSteps : List String :=
  ["Run a proxy bypass contrast proof before changing registry values.",
    "Preserve proxy and process attribution evidence before remediation."]

structure RemediationPreview where
  action : Option String
  dryRun : Bool := true
  requiresConfirmation : Bool
  confirmationPhrase : Option String
  deriving DecidableEq

/-- `ReasoningRun`, without the evidence tree. -/
structure ReasoningRun where
  id : String
  source : String := "reasoning_engine"
  rawObservations : List Observation
  normalizedSignals : Dict
  detectedEvents : List DetectedEvent
  stateTransitions : List StateTransition
  canonicalStatePath : List CanonicalState
  canonicalStateTransitions : List CanonicalStateTransition
  hypothesisRanking : List RankedHypothesis
  acceptedHypothesis : String
  rejectedAlternatives : List RejectedAlternative
  proofResult : ProofResult
  reliabilityImpact : ReliabilityImpact
  policyDecision : PolicyDecision
  /-- nothing is the empty dictionary -/
  remediationPreview : Option RemediationPreview
  limitations : List String
  recommendedNextSteps : List String

/-- What is drawn at a run: the ids, and the time of a proof that is not given. -/
structure RunDraw where
  runId : String
  eventId : Nat → String
  proofId : String
  proofTimestamp : String

/-- The arguments of `run_reasoning` next to the observations. -/
structure RunArgs where
  proofResult : Option ProofResult := none
  requestedAction : Option String := none
  explicitConfirmation : Bool := false
  source : String := "reasoning_engine"
  runId : Option String := none

/-- `proof_result or ProofResult(hypothesis="browser_proxy_path_regression")`. -/
def RunArgs.proof (args : RunArgs) (draw : RunDraw) : ProofResult :=
  args.proofResult.getD {
    id := draw.proofId
    timestamp := draw.proofTimestamp
    hypothesis := "browser_proxy_path_regression" }

/-- `run_id or new_id("run")`. -/
def RunArgs.id (args : RunArgs) (draw : RunDraw) : String :=
  match args.runId with
  | some id => if id = "" then draw.runId else id
  | none => draw.runId

/-- The impact of what the signals say. -/
def impactOf (signals : Dict) (confidence : FloatVal) : ReliabilityImpact :=
  calculateReliabilityImpact (if has signals "browser_https_failed" then .high else .medium)
    (if has signals "proxied_path_failed" then .browserAndDevTools else .browserOnly) confidence
    .unknown

/-- The decision at a run. -/
def policyOf (signals : Dict) (transitions : List StateTransition) (proof : ProofResult)
    (args : RunArgs) : PolicyDecision :=
  let accepted := acceptedHypothesis transitions signals proof.status
  evaluateReasoningPolicy {
    hypothesis := accepted.hypothesis
    lastState := transitions.getLast?.map (·.toState)
    status := proof.status
    confidence := accepted.confidence
    impactLevel := (impactOf signals accepted.confidence).impactLevel
    requestedAction := args.requestedAction
    explicitConfirmation := args.explicitConfirmation
    conflictingSignals := conflictingSignals signals }

/-- The limitations of a run, before those of the proof and of the decision. -/
def runLimitations (signals : Dict) (status : ProofStatus) : List String :=
  scenarioLimitations ++
    (if conflictingSignals signals then
      ["Conflicting signals were observed; policy is downgraded to preview."] else []) ++
    (if status = .notRun then ["Proof checks were not run; confidence remains heuristic."] else [])

/-- The preview of a remediation, where the decision is a preview. -/
def previewOf (requestedAction : Option String) (policy : PolicyDecision) :
    Option RemediationPreview :=
  if policy.outcome = .preview then
    some {
      action := requestedAction
      requiresConfirmation := policy.requiresConfirmation
      confirmationPhrase := policy.confirmationPhrase }
  else none

/-- `run_reasoning`. -/
def runReasoning (draw : RunDraw) (observations : List Observation) (args : RunArgs) :
    Except PyError ReasoningRun := do
  let proof := args.proof draw
  let signals := normalizeSignals observations
  let events ← detectEndpointEvents draw.eventId 0 observations
  let transitions := inferBrowserProxyTransitions events signals
  let canonical := inferCanonicalTransitions transitions (events.map (·.toEndpointEvent)) signals
  let accepted := acceptedHypothesis transitions signals proof.status
  let policy := policyOf signals transitions proof args
  return {
    id := args.id draw
    source := args.source
    rawObservations := observations
    normalizedSignals := signals
    detectedEvents := events
    stateTransitions := transitions
    canonicalStatePath := Platform.canonicalStatePath canonical
    canonicalStateTransitions := canonical
    hypothesisRanking := rankHypotheses transitions signals proof.status
    acceptedHypothesis := accepted.hypothesis
    rejectedAlternatives := rejectAlternatives signals
    proofResult := proof
    reliabilityImpact := impactOf signals accepted.confidence
    policyDecision := policy
    remediationPreview := previewOf args.requestedAction policy
    limitations := (runLimitations signals proof.status ++ proof.limitations ++
      policy.limitations).eraseDups
    recommendedNextSteps := (scenarioNextSteps ++ policy.recommendedNextSteps).eraseDups }

end Reasoning
