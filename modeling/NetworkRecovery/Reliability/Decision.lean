import NetworkRecovery.Reliability.Event
import Mathlib.Data.List.Sort
import Mathlib.Algebra.Order.Ring.Rat

/-!
# Decisions

`platform_core/reliability`: events drive a state machine (`platform_states.py`),
support competing hypotheses (`hypothesis_engine.py`) and are judged by a policy
(`policy_config.py`); `run_platform_decision` puts the three into one record.

Base scores and weights have two decimals, and `round(score, 3)` of their sum is the
float nearest to it, so that scores are exact here.

The evidence graph and the signature of a record are left out: nothing here reads
them.
-/

namespace Reliability

open Python Audit Platform

/-! ## States -/

/-- `PlatformState`. -/
inductive PlatformState where
  | normal
  | localProxyEnabled
  | proxyFailure
  | bypassSuccess
  | rootCauseIdentified
  | degraded
  | broken
  | recovering
  deriving DecidableEq

def PlatformState.value : PlatformState → String
  | .normal => "NORMAL"
  | .localProxyEnabled => "LOCAL_PROXY_ENABLED"
  | .proxyFailure => "PROXY_FAILURE"
  | .bypassSuccess => "BYPASS_SUCCESS"
  | .rootCauseIdentified => "ROOT_CAUSE_IDENTIFIED"
  | .degraded => "DEGRADED"
  | .broken => "BROKEN"
  | .recovering => "RECOVERING"

/-- A rule of the state machine: all of some signals, and any of others. -/
structure TransitionRule where
  ruleId : String
  fromState : PlatformState
  toState : PlatformState
  signals : List String := []
  signalsAny : List String := []
  confidence : ℚ

/-- `PLATFORM_TRANSITION_RULES`. -/
def platformTransitionRules : List TransitionRule :=
  [{ ruleId := "localhost_proxy_enabled"
     fromState := .normal
     toState := .localProxyEnabled
     signals := ["wininet_proxy_enabled", "localhost_proxy_detected"]
     confidence := 75 / 100 },
    { ruleId := "proxy_path_failure"
      fromState := .localProxyEnabled
      toState := .proxyFailure
      signals := ["browser_https_failed", "wininet_proxy_enabled"]
      confidence := 82 / 100 },
    { ruleId := "bypass_success"
      fromState := .proxyFailure
      toState := .bypassSuccess
      signals := ["proxy_bypass_succeeded", "proxied_path_failed"]
      confidence := 90 / 100 },
    { ruleId := "root_cause_identified"
      fromState := .bypassSuccess
      toState := .rootCauseIdentified
      signalsAny := ["proof_confirmed", "sysmon_registry_write"]
      confidence := 92 / 100 },
    { ruleId := "recovering"
      fromState := .broken
      toState := .recovering
      signals := ["proxy_disabled", "endpoint_health_restored"]
      confidence := 85 / 100 },
    { ruleId := "restored_normal"
      fromState := .recovering
      toState := .normal
      signals := ["browser_https_ok", "wininet_proxy_disabled"]
      confidence := 88 / 100 }]

/-- `v in (0, False, "0")`. -/
def isOff : Value → Bool
  | .int n => n = 0
  | .bool b => !b
  | .float (.finite d) => d.digits = 0
  | .str s => s = "0"
  | _ => false

/-- `v in (1, True, "1")`. -/
def isOn : Value → Bool
  | .int n => n = 1
  | .bool b => b
  | .float (.finite d) => !d.neg && d.digits = 1 && d.exponent = 0
  | .str s => s = "1"
  | _ => false

/-- What one event adds to the signals of the state machine. -/
def stateSignals (ev : NormalizedPlatformEvent) : List String :=
  [ev.signalName] ++
  (if ev.evidenceTier = .causalProof then ["proof_confirmed"] else []) ++
  (if ev.sourceKind = .sysmon && contains "proxy".toList (lower ev.signalName.toList) then
    ["sysmon_registry_write"] else []) ++
  (if ev.signalName = "proxy_enable" && isOff ev.signalValue then
    ["wininet_proxy_disabled", "proxy_disabled"] else []) ++
  (if ev.signalName = "proxy_enable" && isOn ev.signalValue then ["wininet_proxy_enabled"] else [])

/-- `_signal_set`; only which signals are in it is ever asked. -/
def signalSet (events : List NormalizedPlatformEvent) : List String := events.flatMap stateSignals

/-- `PlatformStateTransition`, without the values it draws for itself. -/
structure PlatformStateTransition where
  endpointId : String
  fromState : String
  toState : String
  ruleId : String
  triggeringEventIds : List String
  confidence : ℚ

/-- The state machine at work. -/
structure Machine where
  current : PlatformState
  path : List PlatformState
  transitions : List PlatformStateTransition := []

/-- Whether a rule applies. -/
def TransitionRule.applies (rule : TransitionRule) (current : PlatformState)
    (observed : List String) : Bool :=
  current = rule.fromState && rule.signals.all (· ∈ observed) &&
    (rule.signalsAny.isEmpty || rule.signalsAny.any (· ∈ observed))

/-- One rule. -/
def Machine.step (events : List NormalizedPlatformEvent) (endpointId : String) (m : Machine)
    (rule : TransitionRule) : Machine :=
  if rule.applies m.current (signalSet events) then
    let triggers := (events.filter fun e => e.signalName ∈ rule.signals ++ rule.signalsAny).map
      NormalizedPlatformEvent.eventId
    { current := rule.toState
      path := if m.path.getLast? = some rule.toState then m.path else m.path ++ [rule.toState]
      transitions := m.transitions ++
        [{ endpointId := endpointId
           fromState := m.current.value
           toState := rule.toState.value
           ruleId := rule.ruleId
           triggeringEventIds := if triggers.isEmpty then
             (events.map NormalizedPlatformEvent.eventId).take 3 else triggers
           confidence := rule.confidence }] }
  else m

/-- `transition_platform_state`: the rules are tried once each, in order. -/
def transitionPlatformState (events : List NormalizedPlatformEvent) (endpointId : String)
    (initial : PlatformState) : List PlatformStateTransition × List PlatformState :=
  let m := platformTransitionRules.foldl (Machine.step events endpointId)
    { current := initial, path := [initial] }
  (m.transitions, m.path)

/-! ## Hypotheses -/

/-- `HypothesisCategory`. -/
inductive HypothesisCategory where
  | knownDeveloperTool
  | securityProduct
  | misconfiguration
  | potentialMalware
  | unknown
  deriving DecidableEq

def HypothesisCategory.text : HypothesisCategory → String
  | .knownDeveloperTool => "known_developer_tool"
  | .securityProduct => "security_product"
  | .misconfiguration => "misconfiguration"
  | .potentialMalware => "potential_malware"
  | .unknown => "unknown"

/-- An entry of the catalog: a base score, and what each signal adds. -/
structure HypothesisSpec where
  hypothesisId : String
  category : HypothesisCategory
  label : String
  base : ℚ
  signals : List (String × ℚ)

def developerToolSpec : HypothesisSpec where
  hypothesisId := "known_developer_tool"
  category := .knownDeveloperTool
  label := "Known developer tool (Cursor/VS Code/Node dev proxy)"
  base := 25 / 100
  signals := [("localhost_proxy_detected", 12 / 100), ("wininet_proxy_enabled", 8 / 100),
    ("node_process", 15 / 100), ("ide_parent", 10 / 100), ("allowlist_match", 12 / 100)]

def securityProductSpec : HypothesisSpec where
  hypothesisId := "security_product"
  category := .securityProduct
  label := "Security inspection product (Fiddler/Charles/mitmproxy)"
  base := 20 / 100
  signals := [("security_tool_process", 25 / 100), ("localhost_proxy_detected", 10 / 100)]

def misconfigurationSpec : HypothesisSpec where
  hypothesisId := "misconfiguration"
  category := .misconfiguration
  label := "Misconfiguration or stale localhost proxy registry"
  base := 30 / 100
  signals := [("browser_https_failed", 15 / 100), ("wininet_proxy_enabled", 10 / 100),
    ("no_listener", 20 / 100), ("proxy_bypass_succeeded", 12 / 100)]

def potentialMalwareSpec : HypothesisSpec where
  hypothesisId := "potential_malware"
  category := .potentialMalware
  label := "Potential unauthorized proxy (requires proof tier)"
  base := 10 / 100
  signals := [("unresolved_path", 15 / 100), ("external_proxy", 25 / 100),
    ("proof_confirmed_unauthorized", 30 / 100)]

/-- `HYPOTHESIS_CATALOG`. -/
def hypothesisCatalog : List HypothesisSpec :=
  [developerToolSpec, securityProductSpec, misconfigurationSpec, potentialMalwareSpec]

/-- `RankedHypothesis`. -/
structure RankedHypothesis where
  hypothesisId : String
  category : HypothesisCategory
  label : String
  confidence : ℚ
  supportingSignals : List String
  rejectedReason : Option String := none

/-- Whether the payload of an event names a node process. -/
def namesNode (payload : Dict) : Bool :=
  contains "node".toList (lower (orElse (payload.get? "process_name") (.str "")).toText.toList)

/-- What one event adds to the flags. -/
def eventFlags (ev : NormalizedPlatformEvent) : List String :=
  (if ev.evidenceTier = .causalProof then ["proof_confirmed"] else []) ++
  (if namesNode ev.payload then ["node_process"] else []) ++
  (if ev.sourceKind = .sysmon then ["sysmon_registry_write"] else [])

/-- What the context adds to the flags. -/
def contextFlags (context : Dict) : List String :=
  let flag (key name : String) : List String :=
    if ((context.get? key).any Value.truthy) then [name] else []
  flag "allowlist_match" "allowlist_match" ++ flag "no_listener" "no_listener" ++
    flag "external_proxy" "external_proxy" ++ flag "security_tool" "security_tool_process" ++
    flag "unresolved_path" "unresolved_path"

/-- `_derive_signal_flags`; only which flags are in it is ever asked. -/
def deriveSignalFlags (events : List NormalizedPlatformEvent) (context : Dict) : List String :=
  events.map NormalizedPlatformEvent.signalName ++ events.flatMap eventFlags ++ contextFlags context

/-- The signals of an entry that are there. -/
def HypothesisSpec.evidence (spec : HypothesisSpec) (flags : List String) : List (String × ℚ) :=
  spec.signals.filter fun signal => signal.1 ∈ flags

/-- The score of an entry, between 0 and 0.98. -/
def HypothesisSpec.score (spec : HypothesisSpec) (flags : List String) : ℚ :=
  min (max (spec.base + ((spec.evidence flags).map Prod.snd).sum) 0) (98 / 100)

def HypothesisSpec.ranked (spec : HypothesisSpec) (flags : List String) : RankedHypothesis where
  hypothesisId := spec.hypothesisId
  category := spec.category
  label := spec.label
  confidence := spec.score flags
  supportingSignals := (spec.evidence flags).map Prod.fst

/-- `sort(key=lambda h: h.confidence, reverse=True)`, which is stable. -/
def sortByConfidence (hypotheses : List RankedHypothesis) : List RankedHypothesis :=
  hypotheses.insertionSort fun a b => b.confidence ≤ a.confidence

/-- Malware that is not proved is held down. -/
def RankedHypothesis.adjusted (h : RankedHypothesis) (flags : List String) : RankedHypothesis :=
  if h.category = .potentialMalware ∧ "proof_confirmed" ∉ flags then
    { h with
      confidence := min h.confidence (35 / 100)
      rejectedReason := some "Elevated malware hypothesis requires proof-tier evidence." }
  else h

/-- The ranking, given the flags. -/
def rankFlags (flags : List String) : List RankedHypothesis :=
  sortByConfidence ((sortByConfidence (hypothesisCatalog.map (·.ranked flags))).map (·.adjusted flags))

/-- `rank_hypotheses`. -/
def rankHypotheses (events : List NormalizedPlatformEvent) (context : Dict) :
    List RankedHypothesis :=
  rankFlags (deriveSignalFlags events context)

/-! ## Policy -/

/-- `PolicyOutcome`. -/
inductive PolicyOutcome where
  | allow
  | preview
  | block
  deriving DecidableEq

def PolicyOutcome.text : PolicyOutcome → String
  | .allow => "ALLOW"
  | .preview => "PREVIEW"
  | .block => "BLOCK"

def PolicyOutcome.ofText? : String → Option PolicyOutcome :=
  ofText [.allow, .preview, .block] PolicyOutcome.text

/-- `PolicyRule`, without the reason, which nothing reads. -/
structure PolicyRule where
  ruleId : String
  outcome : PolicyOutcome
  minConfidence : ℚ := 0
  requiresProofTier : Bool := false
  blockedActions : List String := []

/-- `PolicyConfig`. -/
structure PolicyConfig where
  defaultOutcome : PolicyOutcome := .preview
  safeMode : Bool := true
  rules : List PolicyRule := []

/-- `PolicyConfig.production_defaults`. -/
def PolicyConfig.productionDefaults : PolicyConfig where
  defaultOutcome := .preview
  safeMode := true
  rules :=
    [{ ruleId := "destructive_always_block"
       outcome := .block
       blockedActions := ["firewall_reset", "adapter_disable", "process_kill_arbitrary"] },
      { ruleId := "proof_and_confirmation_allow"
        outcome := .allow
        minConfidence := 85 / 100
        requiresProofTier := true },
      { ruleId := "high_impact_preview"
        outcome := .preview
        minConfidence := 70 / 100 }]

/-- The arguments of `evaluate_platform_policy` besides the hypothesis and the
policy. -/
structure PolicyRequest where
  requestedAction : Option String := none
  hasProofTier : Bool := false
  explicitConfirmation : Bool := false

/-- The rules that may allow, from one of them on: the outcome, or none, and the
codes so far. -/
def allowRules (conf : ℚ) (request : PolicyRequest) :
    List PolicyRule → List String → Option PolicyOutcome × List String
  | [], codes => (none, codes)
  | rule :: rules, codes =>
    if rule.outcome = .allow ∧ rule.minConfidence ≤ conf then
      if rule.requiresProofTier && !request.hasProofTier then
        allowRules conf request rules (codes ++ ["allow_requires_proof_tier"])
      else if rule.requiresProofTier && !request.explicitConfirmation then
        (some .preview, codes ++ ["allow_requires_explicit_confirmation"])
      else (some .allow, codes ++ ["matched_rule:" ++ rule.ruleId])
    else allowRules conf request rules codes

/-- The rule that blocks the requested action. -/
def blockingRule (cfg : PolicyConfig) (requestedAction : Option String) : Option PolicyRule :=
  match requestedAction with
  | none => none
  | some action => if action.isEmpty then none
    else cfg.rules.find? fun rule => action ∈ rule.blockedActions

/-- `evaluate_platform_policy`. -/
def evaluatePlatformPolicy (hypothesis : Option RankedHypothesis) (policy : Option PolicyConfig)
    (request : PolicyRequest) : PolicyOutcome × List String :=
  let cfg := policy.getD .productionDefaults
  match blockingRule cfg request.requestedAction with
  | some rule => (.block, ["blocked_action:" ++ rule.ruleId])
  | none =>
    let codes := if cfg.safeMode then ["safe_mode_default_preview"] else []
    let conf := (hypothesis.map RankedHypothesis.confidence).getD 0
    if hypothesis.any (·.category = .potentialMalware) && !request.hasProofTier then
      (.preview, codes ++ ["malware_hypothesis_requires_proof_tier"])
    else match allowRules conf request cfg.rules codes with
      | (some outcome, codes) => (outcome, codes)
      | (none, codes) =>
        if 70 / 100 ≤ conf ∧ !request.hasProofTier then
          (.preview, codes ++ ["unproven_high_confidence_is_not_execute_authority"])
        else (cfg.defaultOutcome, codes)

/-! ## Records -/

/-- `PlatformDecisionRecord`. -/
structure PlatformDecisionRecord where
  decisionId : String
  timestampUtc : String
  endpointId : String
  runId : String
  statePath : List String
  acceptedHypothesis : String
  hypothesisRanking : List Dict
  policyOutcome : PolicyOutcome
  policyReasonCodes : List String
  eventIds : List String
  limitations : List String
  schemaVersion : String := "platform_decision.v1"

/-- `hypothesis.model_dump(mode="json")`. -/
def RankedHypothesis.modelDump (h : RankedHypothesis) : Dict :=
  [("hypothesis_id", .str h.hypothesisId),
    ("category", .str h.category.text),
    ("label", .str h.label),
    ("confidence", .float (.finite (.ofParts false (h.confidence * 100).num.toNat (-2)))),
    ("evidence_node_ids", .list []),
    ("supporting_signals", textList h.supportingSignals),
    ("rejected_reason", optionalText h.rejectedReason)]

/-- The values a decision draws for itself. -/
structure DecisionDraw where
  runId : String
  decisionId : String
  timestampUtc : String
  events : Nat → EventDraw

/-- The arguments of `run_platform_decision` besides the observations. -/
structure DecisionArgs where
  endpointId : String := "local"
  requestedAction : Option String := none
  explicitConfirmation : Bool := false
  context : Dict := []
  policy : Option PolicyConfig := none
  runId : Option String := none

/-- The events of observations. -/
def platformEvents (draw : Nat → EventDraw) (endpointId : String) :
    Nat → List Dict → Except PyError (List NormalizedPlatformEvent)
  | _, [] => .ok []
  | i, raw :: raws => do
    let event ← normalizeRawObservation (draw i) endpointId none raw
    let events ← platformEvents draw endpointId (i + 1) raws
    return event :: events

/-- The record of a decision on events. -/
def decisionRecord (draw : DecisionDraw) (args : DecisionArgs)
    (events : List NormalizedPlatformEvent) : PlatformDecisionRecord :=
  let statePath := (transitionPlatformState events args.endpointId .normal).2
  let ranking := rankHypotheses events args.context
  let accepted := ranking.head?
  let hasProof := events.any fun e => e.evidenceTier = .causalProof
  let verdict := evaluatePlatformPolicy accepted args.policy
    { requestedAction := args.requestedAction
      hasProofTier := hasProof
      explicitConfirmation := args.explicitConfirmation }
  { decisionId := draw.decisionId
    timestampUtc := draw.timestampUtc
    endpointId := args.endpointId
    runId := match args.runId with
      | none => draw.runId
      | some runId => if runId.isEmpty then draw.runId else runId
    statePath := statePath.map PlatformState.value
    acceptedHypothesis := (accepted.map RankedHypothesis.label).getD ""
    hypothesisRanking := ranking.map RankedHypothesis.modelDump
    policyOutcome := verdict.1
    policyReasonCodes := verdict.2
    eventIds := events.map NormalizedPlatformEvent.eventId
    limitations :=
      ["Observation != Proof; correlation != causation; confidence != certainty.",
        "Ordinal confidence scores are not calibrated probabilities."] ++
      if hasProof then [] else ["No proof-tier evidence; registry writer not established."] }

/-- `run_platform_decision`. -/
def runPlatformDecision (draw : DecisionDraw) (args : DecisionArgs) (observations : List Dict) :
    Except PyError PlatformDecisionRecord := do
  let events ← platformEvents draw.events args.endpointId 0 observations
  return decisionRecord draw args events

end Reliability
