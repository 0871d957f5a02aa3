import NetworkRecovery.Proxy.Explain
import NetworkRecovery.Python.Json
import NetworkRecovery.Python.Sha256

/-!
# Evidence events

`build_proxy_evidence_event`: a transition with everything that is said of it,
as the dictionary that is written to the log. It raises when a state cannot be
normalized or a listener is no dictionary, and in no other case
(`buildProxyEvidenceEvent_ok`).
-/

namespace StateMachine

open Python ProxyGuard

def ProxyMode.value : ProxyMode → String
  | .disabled => "DISABLED"
  | .localhostProxy => "LOCALHOST_PROXY"
  | .remoteProxy => "REMOTE_PROXY"
  | .pacConfigured => "PAC_CONFIGURED"
  | .autodetect => "AUTODETECT"
  | .inconsistent => "INCONSISTENT"
  | .unknown => "UNKNOWN"

/-- `None` or a flag. -/
def optionalBool : Option Bool → Value
  | none => .none
  | some b => .bool b

/-- `ProxyWininetState.to_dict`. -/
def ProxyWininetState.toDict (st : ProxyWininetState) : Dict :=
  [("proxy_enable", .bool st.proxyEnable),
    ("proxy_server", optionalText st.proxyServer),
    ("auto_config_url", optionalText st.autoConfigUrl),
    ("auto_detect", optionalBool st.autoDetect),
    ("proxy_override", optionalText st.proxyOverride),
    ("parsed_host", optionalText st.parsedHost),
    ("parsed_port", optionalInt st.parsedPort),
    ("proxy_mode", .str st.proxyMode.value),
    ("winhttp_direct_access", optionalBool st.winhttpDirectAccess)]

/-- `make_transition_event_id`. -/
def makeTransitionEventId (timestampUtc : String) (before after : Dict) : String :=
  let payload := dumpsSorted (.dict
    [("timestamp_utc", .str timestampUtc), ("before", .dict before), ("after", .dict after)])
  .ofList ((Sha256.hexdigest (String.ofList payload).toUTF8).toList.take 24)

/-! ## What is said of a transition -/

/-- `_risk_for_transition`. -/
def riskForTransition (transition : TransitionClass) (listenerTrusted listenerUnknown : Bool) :
    String :=
  match transition with
  | .reverterSuspectedLocalhostProxyLoop =>
    if listenerUnknown then "HIGH" else if listenerTrusted then "MEDIUM" else "HIGH"
  | .noChange => "INFO"
  | .proxyDisabled | .proxyServerRemoved | .proxyServerRemovedPartial
  | .proxyDisabledAndServerRemoved | .autodetectEnabled | .pacRemoved
  | .errorInsufficientData => "LOW"
  | .localhostProxyEnabled | .proxyEnabledWithNoServer | .pacConfigured | .wininetWinhttpMismatch
  | .localhostProxyPortChanged => "MEDIUM"
  | .remoteOrNonLoopbackProxyConfigured | .proxyServerChangedToRemote => "HIGH"

/-- `_proof_tier_for_transition`. -/
def proofTierForTransition (transition : TransitionClass) (writerProof listener : Bool) : String :=
  if writerProof then "T3"
  else if listener && (transition = .localhostProxyEnabled ||
      transition = .reverterSuspectedLocalhostProxyLoop) then "T2"
  else if transition = .noChange then "T0"
  else "T1"

/-- `_policy_decision_for_risk`. -/
def policyDecisionForRisk (risk : String) : String :=
  if risk = "CRITICAL" ∨ risk = "HIGH" then "REQUIRE_HUMAN_REVIEW"
  else if risk = "MEDIUM" then "ALERT"
  else "OBSERVE"

/-- `_recommended_action`. -/
def recommendedAction : TransitionClass → String
  | .noChange => "observe — no WinINET proxy state change"
  | .proxyDisabled => "observe — proxy disabled during developer/tool session"
  | .proxyServerRemoved => "observe — ProxyServer removed"
  | .proxyServerRemovedPartial =>
    "observe — ProxyServer removed while ProxyEnable remained enabled"
  | .proxyDisabledAndServerRemoved => "observe — proxy disabled and server removed"
  | .localhostProxyEnabled =>
    "alert — localhost proxy enabled; investigate listener process executable path and command line"
  | .remoteOrNonLoopbackProxyConfigured =>
    "require human review — remote or non-loopback proxy server configured"
  | .proxyEnabledWithNoServer =>
    "alert — ProxyEnable set without ProxyServer; inconsistent WinINET state"
  | .pacConfigured => "alert — PAC (AutoConfigURL) configured or changed"
  | .pacRemoved => "observe — PAC (AutoConfigURL) removed"
  | .proxyServerChangedToRemote =>
    "require human review — proxy server changed to remote/non-loopback endpoint"
  | .autodetectEnabled => "observe — WinINET auto-detect enabled"
  | .wininetWinhttpMismatch => "alert — WinINET proxy enabled while WinHTTP reports direct access"
  | .localhostProxyPortChanged =>
    "alert — localhost proxy port changed; verify listener correlation only"
  | .reverterSuspectedLocalhostProxyLoop =>
    "require human review — pattern suggests a proxy reverter or auto-reapply loop; " ++
      "this is correlation, not proof of registry write; " ++
      "collect Sysmon Event ID 13 or Procmon trace"
  | .errorInsufficientData => "observe — insufficient state to classify transition"

/-- `TRUSTED_DEV_TOOLS`. -/
def trustedDevTools : List String :=
  ["node.exe", "node", "cursor.exe", "cursor", "code.exe", "vscode.exe"]

/-- `STANDARD_ATTRIBUTION_LIMITATIONS`. -/
def standardAttributionLimitations : List String :=
  ["Likely process / correlation only", "Registry writer proof unavailable",
    "Attribution requires Sysmon, Procmon, or EventLog registry write evidence"]

/-- `build_attribution`. -/
def buildAttribution (listener : Option Dict) (writerProof : Bool) (writerKind : Option String) :
    Dict :=
  let proc := (listenerProcess listener).getD []
  let proven := writerProof && (writerKind = some "eventlog" || writerKind = some "sysmon" ||
    writerKind = some "procmon")
  let kind := if proven then writerKind.getD "" else if proc.isEmpty then "none" else "correlation"
  let confidence := if proven then Decimal.ofParts false 85 (-2)
    else if proc.isEmpty then .ofParts false 0 0 else .ofParts false 55 (-2)
  let plain (key : String) : Value := (proc.get? key).getD .none
  [("kind", .str kind),
    ("process_name", plain "name"),
    ("pid", plain "pid"),
    ("parent_process", orElse (proc.get? "parent") (plain "parent_name")),
    ("executable_path", orElse (proc.get? "exe") (plain "executable_path")),
    ("command_line", orElse (proc.get? "cmdline") (plain "command_line")),
    ("confidence", .float (.finite confidence)),
    ("limitations", textList (if proven then [] else standardAttributionLimitations))]

/-- What `build_explainable_classification` returns, as a dictionary. -/
def Explanation.toDict (e : Explanation) : Dict :=
  [("primary_classification", .str e.primaryClassification.value),
    ("secondary_signals", textList e.secondarySignals),
    ("confidence", .float (.finite e.confidence)),
    ("confidence_semantics", .str e.confidenceSemantics),
    ("why", textList e.why),
    ("limitations", textList e.limitations),
    ("recommended_next_checks", textList e.recommendedNextChecks),
    ("unsafe_inferences_blocked", textList e.unsafeInferencesBlocked),
    ("transition_class", .str e.transitionClass.value),
    ("safety_violations", textList e.safetyViolations)]

/-! ## The event -/

/-- The arguments of `build_proxy_evidence_event`. -/
structure EvidenceArgs where
  beforeRaw : Dict
  afterRaw : Dict
  timestampUtc : String
  listener : Value := .none
  writerProof : Bool := false
  writerKind : Option String := none
  winhttpMismatch : Option Bool := none
  health : Option Dict := none
  transitionOverride : Option TransitionClass := none
  coalesceMeta : Dict := []
  rawSubEvents : List Value := []

/-- A listener that is asked for its process: a falsy one is not, and only a
dictionary can be. -/
def listenerDict (listener : Value) : Except PyError (Option Dict) :=
  match listener with
  | .dict entries => .ok (some entries)
  | v => if v.truthy then .error .attribute else .ok none

/-- `d.update(other)`. -/
def updateDict (d other : Dict) : Dict := other.foldl (fun d entry => d.set entry.1 entry.2) d

/-- The lines under `evidence`. -/
def evidenceLines (before after : ProxyWininetState) (procName : Value) : List String :=
  let digit (b : Bool) := if b then "1" else "0"
  (if before.proxyServer ≠ after.proxyServer then
    ["ProxyServer: " ++ textOrNone before.proxyServer ++ " -> " ++ textOrNone after.proxyServer]
    else []) ++
  (if before.proxyEnable ≠ after.proxyEnable then
    ["ProxyEnable: " ++ digit before.proxyEnable ++ " -> " ++ digit after.proxyEnable] else []) ++
  (if procName.truthy then
    ["Process was listening on the configured localhost proxy port: " ++ procName.toText ++
      " (Likely process / correlation only)"] else [])

/-- What an event says of a transition between normalized states. -/
def evidenceBase (args : EvidenceArgs) (ts : String) (before after : ProxyWininetState)
    (transition : TransitionClass) (listener : Option Dict) (explanation : Explanation) : Dict :=
  let procName := (((listenerProcess listener).getD []).get? "name").getD (.str "")
  let listenerTrusted := decide (String.ofList (lower procName.toText.toList) ∈ trustedDevTools)
  let listenerUnknown := after.proxyMode = .localhostProxy && !procName.truthy
  let risk := riskForTransition transition listenerTrusted listenerUnknown
  [("event_id", .str (makeTransitionEventId ts before.toDict after.toDict)),
    ("timestamp_utc", .str ts),
    ("before_state", .dict before.toDict),
    ("after_state", .dict after.toDict),
    ("transition_class", .str transition.value),
    ("risk", .str risk),
    ("confidence", .float (.finite (confidenceForTransition transition args.writerProof))),
    ("proof_tier", .str (proofTierForTransition transition args.writerProof
      (listener.any (!·.isEmpty)))),
    ("attribution", .dict (buildAttribution listener args.writerProof args.writerKind)),
    ("evidence", textList (evidenceLines before after procName)),
    ("limitations", textList (limitationsForTransition transition)),
    ("recommended_action", .str (recommendedAction transition)),
    ("policy_decision", .str (policyDecisionForRisk risk)),
    ("classification", .dict explanation.toDict),
    ("primary_classification", .str explanation.primaryClassification.value)]

/-- The event, with the metadata and the sub-events of coalescing. -/
def evidenceEvent (args : EvidenceArgs) (ts : String) (before after : ProxyWininetState)
    (transition : TransitionClass) (listener : Option Dict) (explanation : Explanation) : Dict :=
  let event := updateDict (evidenceBase args ts before after transition listener explanation)
    args.coalesceMeta
  if args.rawSubEvents.isEmpty then event
  else event.set "raw_sub_events" (.list args.rawSubEvents)

/-- `transition_override or classify_transition(...)`. -/
def EvidenceArgs.transition (args : EvidenceArgs) : Except PyError TransitionClass :=
  match args.transitionOverride with
  | some transition => .ok transition
  | none => classifyTransition (some args.beforeRaw) (some args.afterRaw) args.winhttpMismatch

/-- `build_proxy_evidence_event`, at a given time of the clock. -/
def buildProxyEvidenceEvent (nowUtc : String) (args : EvidenceArgs) : Except PyError Dict := do
  let ts := if args.timestampUtc.isEmpty then nowUtc else args.timestampUtc
  let before ← normalizeProxyState (some args.beforeRaw)
  let after ← normalizeProxyState (some args.afterRaw)
  let transition ← args.transition
  let listener ← listenerDict args.listener
  let explanation ← buildExplainableClassification (some args.beforeRaw) (some args.afterRaw)
    transition listener args.health args.writerProof
  return evidenceEvent args ts before after transition listener explanation

theorem get?_updateDict {other : Dict} {key : String} (h : key ∉ other.keys) (d : Dict) :
    (updateDict d other).get? key = d.get? key := by
  unfold updateDict
  induction other generalizing d with
  | nil => rfl
  | cons entry other ih =>
    simp only [Dict.keys, List.map_cons, List.mem_cons, not_or] at h ih
    rw [List.foldl_cons, ih h.2, Dict.get?_set_of_ne _ (Ne.symm h.1)]

/-- The metadata leaves the rest of an event alone. -/
theorem evidenceEvent_get? {args : EvidenceArgs} {key : String}
    (hmeta : key ∉ args.coalesceMeta.keys) (hsubs : key ≠ "raw_sub_events") (ts : String)
    (before after : ProxyWininetState) (transition : TransitionClass) (listener : Option Dict)
    (explanation : Explanation) :
    (evidenceEvent args ts before after transition listener explanation).get? key =
      (evidenceBase args ts before after transition listener explanation).get? key := by
  unfold evidenceEvent
  dsimp only
  split
  · exact get?_updateDict hmeta _
  · rw [Dict.get?_set_of_ne _ (Ne.symm hsubs), get?_updateDict hmeta]

/-- A state that can be normalized. -/
def Normalizes (raw : Dict) : Prop := ∃ st, normalizeProxyState (some raw) = .ok st

/-- Of states that can be normalized, and a listener that is a dictionary or
nothing, the event is built. -/
theorem buildProxyEvidenceEvent_ok (nowUtc : String) (args : EvidenceArgs)
    {before after : ProxyWininetState} {listener : Option Dict}
    (hbefore : normalizeProxyState (some args.beforeRaw) = .ok before)
    (hafter : normalizeProxyState (some args.afterRaw) = .ok after)
    (hlistener : listenerDict args.listener = .ok listener) :
    let transition := args.transitionOverride.getD
      (classifyStates before after args.winhttpMismatch)
    buildProxyEvidenceEvent nowUtc args =
      .ok (evidenceEvent args (if args.timestampUtc.isEmpty then nowUtc else args.timestampUtc)
        before after transition listener
        (explainStates before after transition listener args.health args.writerProof)) := by
  intro transition
  have htransition : args.transition = .ok transition := by
    unfold EvidenceArgs.transition
    cases hoverride : args.transitionOverride with
    | some forced => simp [transition, hoverride]
    | none =>
      simp [transition, hoverride, classifyTransition, hbefore, hafter, bind, Except.bind, pure,
        Except.pure]
  unfold buildProxyEvidenceEvent buildExplainableClassification
  simp only [hbefore, hafter, htransition, hlistener, bind, Except.bind, pure, Except.pure]

end StateMachine
