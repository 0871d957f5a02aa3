import NetworkRecovery.Live.Scoring

/-!
# Trust and gates

`assess_trust` of `observation/trust.py` and `build_hypothesis_decisions` of
`policy/hypothesis_gates.py`: what the signals of a snapshot are worth, and
whether each ranked hypothesis allows a remedy, a preview of one, or nothing.

A decision is written as a dictionary whose numbers are rounded; that they are
numbers is all that a comparison with it needs (`toDict_numbers`).
-/

namespace Live

open Python

/-! ## Proofs -/

/-- `ProofStatus`. -/
inductive ProofStatus where
  | confirmed
  | rejected
  | inconclusive
  deriving DecidableEq

/-- `status.value`. -/
def ProofStatus.value : ProofStatus → String
  | .confirmed => "confirmed"
  | .rejected => "rejected"
  | .inconclusive => "inconclusive"

/-- `status.name`. -/
def ProofStatus.name : ProofStatus → String
  | .confirmed => "CONFIRMED"
  | .rejected => "REJECTED"
  | .inconclusive => "INCONCLUSIVE"

/-- `ProofStatus(text)`, inconclusive where it raises. -/
def ProofStatus.ofValue (text : String) : ProofStatus :=
  ([.confirmed, .rejected, .inconclusive].find? fun status => status.value = text).getD
    .inconclusive

theorem ProofStatus.ofValue_value (status : ProofStatus) : ofValue status.value = status := by
  cases status <;> rfl

/-- `ProofObservation`. The outcome is passed on unchecked, a missing one as `skipped`. -/
structure ProofObservation where
  stepId : String
  label : String
  outcome : Value
  detail : String

def ProofObservation.toDict (o : ProofObservation) : Dict :=
  [("step_id", .str o.stepId),
    ("label", .str o.label),
    ("outcome", o.outcome),
    ("detail", .str o.detail)]

structure ProofResult where
  proofId : String
  status : ProofStatus
  hypothesis : String
  summary : String
  observations : List ProofObservation
  evidence : Dict

def ProofResult.toDict (p : ProofResult) : Dict :=
  [("proof_id", .str p.proofId),
    ("status", .str p.status.value),
    ("hypothesis", .str p.hypothesis),
    ("summary", .str p.summary),
    ("observations", .list (p.observations.map fun o => .dict o.toDict)),
    ("evidence", .dict p.evidence)]

/-! ## Trust -/

structure SignalConflict where
  code : String
  detail : String

structure TrustAssessment where
  signalTrust : List (String × FloatVal)
  conflicts : List SignalConflict
  failureModes : List String
  trustAggregate : FloatVal
  degradedMode : Bool
  degradedReasons : List String

/-- `port in ports`. -/
def portIn (port : Value) (ports : List Int) : Bool := ports.any fun p => port.pyEq (.int p)

/-- Whether the notes on permissions speak of a limit. -/
def limitedByNotes (notes : List String) : Bool :=
  let joined := lower (";".intercalate notes).toList
  !notes.isEmpty && (contains "permission".toList joined || contains "limited".toList joined)

def conflictsOf (snapshot : LiveNetworkSnapshot) : List SignalConflict :=
  let fv := snapshot.featureVector
  let port := snapshot.parsedProxy.localhostPort
  let listening := snapshot.localhostListenPorts
  (if snapshot.proxyRegistry.isEnabled && snapshot.parsedProxy.isLocalhostProxy && port.truthy &&
      !listening.isEmpty && !portIn port listening then
    [⟨"HKCU_PROXY_PORT_NOT_LISTENING", "ProxyServer references localhost:" ++ port.toText ++
      " but netstat-derived listen set lacks this port."⟩]
  else []) ++
  (if fv.gatewayReachable = some false ∧ fv.pingIpOk = true then
    [⟨"GATEWAY_UNREACHABLE_VS_PUBLIC_PING_OK",
      "Default gateway unreachable while WAN IP ICMP appears to succeed."⟩]
  else [])

def failureModesOf (fv : FeatureVector) : List String :=
  (if fv.pingIpOk && fv.nslookupOk && !fv.tcp443Ok then
    ["FN_PARTIAL_TRANSPORT_ICMP_DNS_OK_TCP_FAIL"] else []) ++
  (if !fv.pingIpOk && fv.tcp443Ok && fv.nslookupOk then
    ["FP_HEALTHY_SURFACE_ICMP_FILTERED_TRANSPORT_OK"] else []) ++
  (if fv.tlsCertIssueDetected && fv.browserHttpOk then
    ["PARTIAL_TLS_HEURISTIC_VS_HTTPS_OK_MISMATCH"] else [])

/-- `assess_trust`. -/
def assessTrust (snapshot : LiveNetworkSnapshot) (proofResult : Option ProofResult)
    (proofsRequested : Bool) (proofEngineError : Option String) : TrustAssessment :=
  let reg := snapshot.proxyRegistry
  let inventory := if limitedByNotes snapshot.permissionNotes then .min (cents 80) (cents 48)
    else cents 80
  let conflicts := conflictsOf snapshot
  let agg := (((((cents 58).add (cents 72)).add (cents 78)).add (cents 64)).divNat 4)
  let lowAggregate := agg.lt (cents 42)
  let proofDegraded := proofsRequested && (proofEngineError.isSome || proofResult.isNone)
  let curlUnavailable := proofResult.any fun p =>
    contains "curl unavailable".toList (lower p.summary.toList)
  { signalTrust :=
      [("ping_icmp", cents 58),
        ("dns_cli_nslookup_like", cents 72),
        ("tcp443_connect", cents 78),
        ("https_curl_app_stack", cents 64),
        ("hkcu_proxy_registry",
          if isSome reg.proxyServer || isSome reg.proxyEnable then cents 90 else cents 50),
        ("localhost_listen_inventory", inventory)]
    conflicts
    failureModes := failureModesOf snapshot.featureVector
    trustAggregate := agg
    degradedMode := lowAggregate || 2 ≤ conflicts.length || proofDegraded || curlUnavailable
    degradedReasons :=
      (if lowAggregate then ["TRUST_AGGREGATE_BELOW_FLOOR"] else []) ++
      (if 2 ≤ conflicts.length then ["MULTI_SIGNAL_CONFLICT", "DEGRADED_CAP_ALLOW"] else []) ++
      (match proofEngineError with
        | some error => if error = "" then []
          else ["PROOF_ENGINE_EXCEPTION:" ++ .ofList (error.toList.take 160)]
        | none => []) ++
      (if proofDegraded then ["PROOF_ENGINE_DEGRADED_OR_ABSENT"] else []) }

/-! ## Gates -/

inductive PolicyDecision where
  | allow
  | preview
  | block
  deriving DecidableEq

def PolicyDecision.value : PolicyDecision → String
  | .allow => "ALLOW"
  | .preview => "PREVIEW"
  | .block => "BLOCK"

/-- `PROOF_LOCALHOST_PROXY_HYPOTHESES`. -/
def proofLocalhostProxyHypotheses : List HypothesisKey :=
  [.unexpectedUserProxy, .localProxyHijack, .browserProxyPathIssue, .localhostProxyOwnerSuspicious,
    .winhttpProxyIssue]

/-- `HYPOTHESIS_DISPLAY_NAME`. -/
def hypothesisDisplayName : HypothesisKey → String
  | .unexpectedUserProxy => "User proxy points at localhost while transport looks healthy"
  | .localProxyHijack =>
    "Loopback proxy active with attributed listener (possible intercept path)"
  | .browserProxyPathIssue => "Browser/proxy stack mismatch (curl vs WinINET/WinHTTP)"
  | .localhostProxyOwnerSuspicious => "Local proxy owner process has limited trust signals"
  | .socketExhaustion => "Elevated TIME_WAIT/ESTABLISHED socket churn"
  | .dnsResolutionIssue => "DNS resolution failure pattern"
  | .tlsPathIssue => "TLS/certificate path suspicion"
  | .winhttpProxyIssue => "WinHTTP non-direct proxy with HTTPS probe failure"
  | .winsockCorruptionPossible => "Multiple layers failing — possible Winsock/stack issue"
  | .ispRouterPathIssue => "Gateway or ISP/upstream reachability pattern"

/-- `proof_status_token`. -/
def proofStatusToken (hypothesis : HypothesisKey) (proof : Option ProofResult)
    (proofsEnabled : Bool) : String :=
  match proof with
  | some p => if proofsEnabled ∧ hypothesis ∈ proofLocalhostProxyHypotheses then p.status.name
    else "UNPROVEN"
  | none => "UNPROVEN"

/-- `ALWAYS_BLOCKED_ACTIONS`. -/
def alwaysBlockedActions : List String :=
  ["firewall_reset", "reset_firewall", "adapter_disable", "process_kill", "kill",
    "arbitrary_shell", "arbitrary_command", "delete_certificates", "netsh_reset"]

/-- The decision of a confidence band, without a proof either way. -/
def bandDetail (confidence : FloatVal) : PolicyDecision × List String :=
  if (cents 60).le confidence then
    (.preview, ["HIGH_CONFIDENCE_UNPROVEN", "REQUIRES_OPERATOR_CONFIRMATION"])
  else if confidence.lt (cents 35) then (.block, ["LOW_CONFIDENCE_BLOCK"])
  else (.preview, ["REQUIRES_OPERATOR_CONFIRMATION"])

/-- `hypothesis_policy_detail`, without the blocked actions, which are always the same. -/
def hypothesisPolicyDetail (confidence : FloatVal) (proofStatus : String) :
    PolicyDecision × List String :=
  if proofStatus = ProofStatus.confirmed.name then
    (.allow, ["CONFIRMED_SAFE_TIER_WITH_CONFIRMATION", "SAFE_TIER_ACTION"])
  else if proofStatus = ProofStatus.rejected.name then (.block, ["PROOF_REJECTED_FOR_HYPOTHESIS"])
  else bandDetail confidence

/-- `hypothesis_impact`. -/
def hypothesisImpact : HypothesisKey → FloatVal
  | .localProxyHijack => cents 92
  | .localhostProxyOwnerSuspicious => cents 88
  | .unexpectedUserProxy => cents 75
  | .browserProxyPathIssue => cents 70
  | .winhttpProxyIssue => cents 72
  | .tlsPathIssue => cents 78
  | .dnsResolutionIssue => cents 65
  | .winsockCorruptionPossible => cents 85
  | .socketExhaustion => cents 72
  | .ispRouterPathIssue => cents 55

/-- `hypothesis_risk_score`. -/
def hypothesisRiskScore (confidence : FloatVal) (key : HypothesisKey) : FloatVal :=
  (clamp ((clamp confidence).mul (hypothesisImpact key))).round 4

/-- The policy of a decision in words. -/
def policyText : PolicyDecision → String
  | .allow => "Policy: causal proof CONFIRMED — safe-tier remediation may be executed only after " ++
      "explicit operator confirmation; destructive/high-risk actions stay blocked from auto-run."
  | .preview => "Policy: unproven or inconclusive causal proof — previews only; require typed " ++
      "confirmation before any state change."
  | .block => "Policy: low confidence or causal proof REJECTED for this hypothesis — " ++
      "no remediation on this row (re-diagnose or gather more evidence)."

/-- `build_why`, with a risk score. -/
def buildWhy (decision : PolicyDecision) (confidence : FloatVal) (proofStatus : String)
    (evidence : List String) (proofSummary : Option String) (trustNotes : List String)
    (riskScore : FloatVal) : List String :=
  ["confidence=" ++ .ofList (confidence.fixed 2) ++
      " (bands: low<0.35, high≥0.6 when unproven).",
    "proof_status=" ++ proofStatus ++ ".",
    "risk_score≈confidence×impact=" ++ .ofList (riskScore.fixed 4)] ++
  ((evidence.take 6).map fun line => "evidence: " ++ line) ++
  (match proofSummary with
    | some summary => if summary = "" then [] else ["proof_summary: " ++ summary]
    | none => []) ++
  trustNotes ++ [policyText decision]

/-- `HypothesisDecisionRow`. -/
structure HypothesisDecisionRow where
  hypothesisKey : HypothesisKey
  hypothesis : String
  confidence : FloatVal
  proofStatus : String
  why : List String
  decision : PolicyDecision
  riskScore : FloatVal
  reasonCodes : List String
  blockedActions : List String

/-- `HypothesisDecisionRow.to_dict`. -/
def HypothesisDecisionRow.toDict (row : HypothesisDecisionRow) : Dict :=
  [("hypothesis", .str row.hypothesis),
    ("confidence", .float (row.confidence.round 2)),
    ("proof_status", .str row.proofStatus),
    ("why", textList row.why),
    ("decision", .str row.decision.value),
    ("risk_score", .float (row.riskScore.round 4))] ++
  (if row.reasonCodes.isEmpty then [] else [("reason_codes", textList row.reasonCodes)]) ++
  (if row.blockedActions.isEmpty then [] else [("blocked_actions", textList row.blockedActions)])

/-- The row of a ranked hypothesis. -/
def decisionRow (proof : Option ProofResult) (proofsEnabled : Bool) (trust : TrustAssessment)
    (s : LiveHypothesisScore) : HypothesisDecisionRow :=
  let pstat := proofStatusToken s.hypothesis proof proofsEnabled
  let (decision, reasonCodes) := hypothesisPolicyDetail s.confidence pstat
  let riskScore := hypothesisRiskScore s.confidence s.hypothesis
  let capped := trust.degradedMode && decision = .allow
  let decision' := if capped then .preview else decision
  { hypothesisKey := s.hypothesis
    hypothesis := hypothesisDisplayName s.hypothesis
    confidence := s.confidence
    proofStatus := pstat
    why := buildWhy decision' s.confidence pstat s.evidence
      (if s.hypothesis ∈ proofLocalhostProxyHypotheses then proof.map ProofResult.summary else none)
      (if capped then ["Degraded uncertainty: causal ALLOW capped to PREVIEW " ++
        "(low trust aggregate, conflicting signals, or proof-layer degradation)."] else [])
      riskScore
    decision := decision'
    riskScore
    reasonCodes := if capped then reasonCodes ++ ["TRUST_DEGRADED_CAP_TO_PREVIEW"] else reasonCodes
    blockedActions := alwaysBlockedActions }

/-- `build_hypothesis_decisions`. -/
def buildHypothesisDecisions (ranked : List LiveHypothesisScore) (proof : Option ProofResult)
    (proofsEnabled : Bool) (trust : TrustAssessment) : List Dict :=
  ranked.map fun s => (decisionRow proof proofsEnabled trust s).toDict

/-! ## What a decision holds -/

theorem hypothesisRiskScore_ne_nan (confidence : FloatVal) (key : HypothesisKey) :
    hypothesisRiskScore confidence key ≠ .nan := by
  obtain ⟨d, hd⟩ := FloatVal.clamp_finite ((clamp confidence).mul (hypothesisImpact key))
  apply FloatVal.round_ne_nan
  intro hnan
  cases hd.symm.trans hnan

/-- The entries a replay compares. -/
structure Comparable (row : Dict) : Prop where
  hypothesis : ∃ s, row.get? "hypothesis" = some (.str s)
  confidence : ∃ x, row.get? "confidence" = some (.float x) ∧ x ≠ .nan
  proofStatus : ∃ s, row.get? "proof_status" = some (.str s)
  decision : ∃ s, row.get? "decision" = some (.str s)
  riskScore : ∃ x, row.get? "risk_score" = some (.float x) ∧ x ≠ .nan

/-- A decision on a number holds numbers. -/
theorem toDict_numbers {proof : Option ProofResult} {proofsEnabled : Bool} {trust : TrustAssessment}
    {s : LiveHypothesisScore} (h : ∃ d, s.confidence = .finite d) :
    Comparable (decisionRow proof proofsEnabled trust s).toDict where
  hypothesis := ⟨_, rfl⟩
  confidence := by
    obtain ⟨d, hd⟩ := h
    refine ⟨s.confidence.round 2, rfl, FloatVal.round_ne_nan ?_ 2⟩
    intro hnan
    cases hd.symm.trans hnan
  proofStatus := ⟨_, rfl⟩
  decision := ⟨_, rfl⟩
  riskScore := ⟨_, rfl, FloatVal.round_ne_nan (hypothesisRiskScore_ne_nan _ _) 4⟩

end Live
