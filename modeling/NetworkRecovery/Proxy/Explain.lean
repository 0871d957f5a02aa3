import NetworkRecovery.Proxy.StateMachine

/-!
# The explainable classification

`build_explainable_classification` derives a second label from the transition
and adds signals, texts and the safety check on top of it. The hard rule of
the classifier spans both ladders: with no server after the transition, no
label of either kind says remote, and a remote label is given only to a
remote proxy that is switched on and not overridden by a PAC file
(`remote_label_sound`).

All that the second ladder adds is `mapPrimaryClassification_remote`: it says
remote exactly when the first one does. And all the first one needs is what the
mode `REMOTE_PROXY` means (`modeOf_remoteProxy`).
-/

namespace StateMachine

open Python ProxyGuard

/-- `PrimaryClassification`. -/
inductive PrimaryClassification where
  | noChange
  | localhostProxyRemoved
  | proxyRemoved
  | proxyDisabledOrRemoved
  | localhostProxyConfigured
  | localhostProxyPortChanged
  | proxyServerChangedToRemote
  | remoteProxyConfigured
  | pacConfigured
  | pacRemoved
  | proxyEnabledInconsistent
  | wininetWinhttpMismatch
  | reverterSuspected
  | insufficientData
  deriving DecidableEq, Repr

def PrimaryClassification.value : PrimaryClassification → String
  | .noChange => "NO_CHANGE"
  | .localhostProxyRemoved => "LOCALHOST_PROXY_REMOVED"
  | .proxyRemoved => "PROXY_REMOVED"
  | .proxyDisabledOrRemoved => "PROXY_DISABLED_OR_REMOVED"
  | .localhostProxyConfigured => "LOCALHOST_PROXY_CONFIGURED"
  | .localhostProxyPortChanged => "LOCALHOST_PROXY_PORT_CHANGED"
  | .proxyServerChangedToRemote => "PROXY_SERVER_CHANGED_TO_REMOTE"
  | .remoteProxyConfigured => "REMOTE_PROXY_CONFIGURED"
  | .pacConfigured => "PAC_CONFIGURED"
  | .pacRemoved => "PAC_REMOVED"
  | .proxyEnabledInconsistent => "PROXY_ENABLED_INCONSISTENT"
  | .wininetWinhttpMismatch => "WININET_WINHTTP_MISMATCH"
  | .reverterSuspected => "REVERTER_SUSPECTED"
  | .insufficientData => "INSUFFICIENT_DATA"

/-- `FORBIDDEN_CLASSIFICATIONS_WHEN_AFTER_SERVER_EMPTY`. -/
def forbiddenClassifications : List String :=
  ["REMOTE_OR_NON_LOOPBACK_PROXY_CONFIGURED", "REMOTE_PROXY_CONFIGURED",
    "PROXY_SERVER_CHANGED_TO_REMOTE", "NON_LOOPBACK_PROXY_CONFIGURED"]

/-- `_map_primary_classification`. -/
def mapPrimaryClassification (transition : TransitionClass) (before after : ProxyWininetState) :
    PrimaryClassification :=
  let beforeLocalhost := before.proxyMode == .localhostProxy
  let serverRemoved := !serverEmpty before.proxyServer && serverEmpty after.proxyServer
  match transition with
  | .noChange => .noChange
  | .reverterSuspectedLocalhostProxyLoop => .reverterSuspected
  | .errorInsufficientData => .insufficientData
  | .wininetWinhttpMismatch => .wininetWinhttpMismatch
  | .localhostProxyPortChanged => .localhostProxyPortChanged
  | .proxyServerChangedToRemote => .proxyServerChangedToRemote
  | .remoteOrNonLoopbackProxyConfigured => .remoteProxyConfigured
  | .pacConfigured => .pacConfigured
  | .pacRemoved => .pacRemoved
  | .proxyEnabledWithNoServer => .proxyEnabledInconsistent
  | .localhostProxyEnabled => .localhostProxyConfigured
  | .proxyDisabledAndServerRemoved => .proxyDisabledOrRemoved
  | .proxyServerRemovedPartial =>
    if beforeLocalhost then .localhostProxyRemoved
    else if serverRemoved then .proxyRemoved
    else .insufficientData
  | .proxyServerRemoved =>
    if serverRemoved then
      if !beforeLocalhost then .proxyRemoved else .localhostProxyRemoved
    else .insufficientData
  | .proxyDisabled => .proxyDisabledOrRemoved
  | .autodetectEnabled => .insufficientData

/-- `d.get(k)` as a condition. -/
def truthyKey (d : Dict) (k : String) : Bool := (d.get? k).any Value.truthy

/-- The process a listener payload describes: under `process`, or the payload
itself. -/
def listenerProcess (listener : Option Dict) : Option Dict :=
  listener.bind fun listener =>
    if listener.isEmpty then none
    else match listener.get? "process" with
      | some (.dict process) => some process
      | _ => some listener

/-- `_secondary_signals`. -/
def secondarySignals (before after : ProxyWininetState) (transition : TransitionClass)
    (listener health : Option Dict) (writerProof : Bool) : List String :=
  let beforeLocalhost := before.proxyMode == .localhostProxy
  let serverRemoved := !serverEmpty before.proxyServer && serverEmpty after.proxyServer
  let health := health.filter (!·.isEmpty)
  let removed := if beforeLocalhost && serverRemoved then ["LOCALHOST_PROXY_REMOVED"] else []
  let removedToo :=
    if transition = .proxyDisabledAndServerRemoved ∧ beforeLocalhost then
      ["LOCALHOST_PROXY_REMOVED"]
    else []
  let disabled := if transition = .proxyDisabled then ["PROXY_ENABLE_DISABLED"] else []
  let listening :=
    if after.proxyMode ≠ .localhostProxy then []
    else if (listenerProcess listener).any fun process => truthyKey process "name" then
      ["LISTENER_PRESENT"]
    else match health.bind (·.get? "tcp_listening") with
      | some (.bool false) => ["LISTENER_MISSING"]
      | _ => ["LISTENER_UNKNOWN"]
  let paths := match health with
    | none => []
    | some health =>
      let direct := truthyKey health "direct_probe_ok"
      let proxy := truthyKey health "proxy_probe_ok"
      let status := (orElse (health.get? "proxy_status") (.str "")).toText
      (if status = "DEAD_LOCALHOST_PROXY" ∨ (direct ∧ ¬ proxy) then ["DIRECT_OK_PROXY_FAIL"]
        else []) ++
      (if proxy && !direct then ["PROXY_OK_DIRECT_FAIL"] else []) ++
      (if !direct && !proxy then ["BOTH_PATHS_FAIL"] else [])
  let writer :=
    if writerProof then ["REGISTRY_WRITER_PROOF_PRESENT"] else ["REGISTRY_WRITER_PROOF_UNAVAILABLE"]
  (removed ++ removedToo ++ disabled ++ listening ++ paths ++ writer).eraseDups

/-- `_confidence_for_transition`. -/
def confidenceForTransition (transition : TransitionClass) (writerProof : Bool) : Decimal :=
  if writerProof then .ofParts false 92 (-2)
  else match transition with
    | .noChange => .ofParts false 1 0
    | .proxyDisabled | .remoteOrNonLoopbackProxyConfigured => .ofParts false 85 (-2)
    | .proxyServerRemoved | .proxyServerRemovedPartial => .ofParts false 88 (-2)
    | .proxyDisabledAndServerRemoved => .ofParts false 9 (-1)
    | .localhostProxyEnabled => .ofParts false 72 (-2)
    | .proxyEnabledWithNoServer => .ofParts false 75 (-2)
    | .pacConfigured | .localhostProxyPortChanged => .ofParts false 8 (-1)
    | .autodetectEnabled => .ofParts false 78 (-2)
    | .wininetWinhttpMismatch => .ofParts false 7 (-1)
    | .reverterSuspectedLocalhostProxyLoop => .ofParts false 65 (-2)
    | .errorInsufficientData => .ofParts false 3 (-1)
    | .pacRemoved | .proxyServerChangedToRemote => .ofParts false 55 (-2)

/-- `_limitations_for_transition`. -/
def limitationsForTransition (transition : TransitionClass) : List String :=
  "Registry writer proof unavailable" :: match transition with
    | .proxyServerRemovedPartial =>
      ["This event shows removal of ProxyServer, not remote proxy configuration"]
    | .proxyDisabledAndServerRemoved =>
      ["This event shows proxy disable and server removal, not remote proxy configuration"]
    | .localhostProxyEnabled =>
      ["Process was listening on the configured localhost proxy port (correlation only)"]
    | .reverterSuspectedLocalhostProxyLoop =>
      ["Pattern suggests a proxy reverter or auto-reapply loop",
        "This is correlation, not proof of registry write",
        "Collect Sysmon Event ID 13 or Procmon trace for registry writer proof",
        "Investigate listener process executable path and command line"]
    | .remoteOrNonLoopbackProxyConfigured =>
      ["Remote proxy configuration observed in registry state — verify business justification"]
    | _ => []

/-- `validate_classification_safety`. The set of labels has no order; the list's
is as good as any. -/
def validateClassificationSafety (afterProxyServer : Option String)
    (primaryClassification transitionClass : String) : List String :=
  if serverEmpty afterProxyServer then
    (forbiddenClassifications.filter fun forbidden =>
        forbidden = primaryClassification ∨ forbidden = transitionClass).map fun forbidden =>
      "after_proxy_server is empty but classification is " ++ forbidden
  else []

/-- What `build_explainable_classification` returns. -/
structure Explanation where
  primaryClassification : PrimaryClassification
  secondarySignals : List String
  confidence : Decimal
  confidenceSemantics : String
  why : List String
  limitations : List String
  recommendedNextChecks : List String
  unsafeInferencesBlocked : List String
  transitionClass : TransitionClass
  safetyViolations : List String

/-- `x or 'None'` of an optional text. -/
def textOrNone (s : Option String) : String := (s.filter (!·.isEmpty)).getD "None"

/-- `build_explainable_classification`, on normalized states. -/
def explainStates (before after : ProxyWininetState) (transition : TransitionClass)
    (listener health : Option Dict) (writerProof : Bool) : Explanation :=
  let primary := mapPrimaryClassification transition before after
  let secondary := secondarySignals before after transition listener health writerProof
  let digit (b : Bool) := if b then "1" else "0"
  let why :=
    (if before.proxyServer ≠ after.proxyServer then
      ["Observed ProxyServer transition: " ++ textOrNone before.proxyServer ++ " -> " ++
        textOrNone after.proxyServer] else []) ++
    (if before.proxyEnable ≠ after.proxyEnable then
      ["Observed ProxyEnable transition: " ++ digit before.proxyEnable ++ " -> " ++
        digit after.proxyEnable] else []) ++
    (if primary = .localhostProxyRemoved then
      ["Evidence indicates localhost proxy server removal, not remote proxy configuration."]
      else []) ++
    (if primary = .reverterSuspected then
      ["Repeated enable/disable pattern observed — correlation only without registry writer proof."]
      else [])
  { primaryClassification := primary
    secondarySignals := secondary
    confidence := confidenceForTransition transition writerProof
    confidenceSemantics := "ordinal_not_probability"
    why := if why = [] then
      ["Full before/after WinINET state compared — not isolated field diff."] else why
    limitations := limitationsForTransition transition
    recommendedNextChecks :=
      (if "REGISTRY_WRITER_PROOF_UNAVAILABLE" ∈ secondary then
        ["Collect Sysmon Event ID 13, Security 4657, or Procmon registry write trace."] else []) ++
      (if "LISTENER_MISSING" ∈ secondary then
        ["Identify process bound to configured localhost port or confirm stale proxy config."]
        else []) ++
      (if primary = .remoteProxyConfigured ∨ primary = .proxyServerChangedToRemote then
        ["Verify business justification for non-loopback proxy endpoint."] else [])
    unsafeInferencesBlocked :=
      (if writerProof then [] else
        ["Malware accusation blocked because registry writer proof is missing.",
          "Process name treated as correlation only — not registry writer proof."]) ++
      (if serverEmpty after.proxyServer then
        ["Remote proxy configured inference blocked because after_proxy_server is empty."] else [])
    transitionClass := transition
    safetyViolations :=
      validateClassificationSafety after.proxyServer primary.value transition.value }

/-- `build_explainable_classification`. -/
def buildExplainableClassification (before after : Option Dict) (transition : TransitionClass)
    (listener health : Option Dict) (writerProof : Bool) : Except PyError Explanation := do
  let before ← normalizeProxyState before
  let after ← normalizeProxyState after
  return explainStates before after transition listener health writerProof

/-! ## The hard rule -/

/-- The labels that say remote, of either kind. -/
def remoteLabels : List String :=
  ["REMOTE_OR_NON_LOOPBACK_PROXY_CONFIGURED", "PROXY_SERVER_CHANGED_TO_REMOTE",
    "REMOTE_PROXY_CONFIGURED"]

/-- A remote proxy in use: on, with a server that is neither malformed nor
local, and no PAC file. -/
structure RemoteInUse (st : ProxyWininetState) : Prop where
  enabled : st.proxyEnable = true
  server : serverEmpty st.proxyServer = false
  noPac : st.autoConfigUrl = none ∨ st.autoConfigUrl = some ""
  wellFormed : (parseProxyServer st.proxyServer).isMalformed = false
  notLocal : (parseProxyServer st.proxyServer).isLocalhostProxy = false

/-- What the mode `REMOTE_PROXY` says. -/
theorem modeOf_remoteProxy {parsed : ParsedProxy} {enable : Bool} {server pac : Option String}
    {autoDetect : Option Bool} {port : Option Int}
    (h : modeOf parsed enable server pac autoDetect port = .remoteProxy) :
    parsed.isMalformed = false ∧ truthyText pac = false ∧ enable = true ∧
      serverEmpty server = false ∧ parsed.isLocalhostProxy = false := by
  unfold modeOf at h
  by_cases hmalformed : (parsed.isMalformed && enable) = true
  · rw [if_pos hmalformed] at h
    cases h
  rw [if_neg hmalformed, ite_eq_iff, or_iff_right (by simp)] at h
  replace h := h.2
  by_cases hpac : truthyText pac = true
  · rw [if_pos hpac] at h
    cases h
  rw [if_neg hpac, ite_eq_iff, or_iff_right (by simp), ite_eq_iff, or_iff_right (by simp)] at h
  replace h := h.2.2
  by_cases hremote : (enable && !serverEmpty server && !parsed.isLocalhostProxy) = true
  swap
  · rw [if_neg hremote, ite_eq_iff, or_iff_right (by simp), ite_eq_iff, or_iff_right (by simp)] at h
    exact absurd h.2.2 (by simp)
  have hon : (enable = true ∧ serverEmpty server = false) ∧ parsed.isLocalhostProxy = false := by
    simpa using hremote
  refine ⟨?_, by simpa using hpac, hon.1.1, hon.1.2, hon.2⟩
  simpa [hon.1.1] using hmalformed

/-- The mode of a normalized state is read off its other fields. -/
theorem normalizeProxyState_mode {raw : Option Dict} {st : ProxyWininetState}
    (h : normalizeProxyState raw = .ok st) :
    st.proxyMode = modeOf (parseProxyServer st.proxyServer) st.proxyEnable st.proxyServer
      st.autoConfigUrl st.autoDetect st.parsedPort := by
  obtain ⟨enable, -, h⟩ := bind_ok.mp h
  obtain ⟨autoDetect, -, h⟩ := bind_ok.mp h
  obtain ⟨port, -, h⟩ := bind_ok.mp h
  obtain rfl := Except.ok.inj h
  rfl

/-- A rung of the ladder whose label is not remote is passed. -/
theorem rung {c : Prop} [Decidable c] {x y : TransitionClass} (hx : x.value ∉ remoteLabels)
    (h : (if c then x else y).value ∈ remoteLabels) : y.value ∈ remoteLabels := by
  split at h
  · exact absurd h hx
  · exact h

theorem classifyStates_remote {before after : ProxyWininetState} {mismatch : Option Bool}
    (h : (classifyStates before after mismatch).value ∈ remoteLabels) :
    after.proxyMode = .remoteProxy := by
  unfold classifyStates at h
  dsimp only at h
  -- thirteen rungs give labels that are not remote, the next two are the remote ones
  iterate 13 replace h := rung (by decide) h
  split at h
  · rename_i hchanged
    have hboth : (before.proxyMode = .localhostProxy ∧ after.proxyMode = .remoteProxy) ∧
        serverEmpty after.proxyServer = false := by simpa using hchanged
    exact hboth.1.2
  · split at h
    · rename_i hremote
      have hboth : (after.proxyEnable = true ∧ serverEmpty after.proxyServer = false) ∧
          after.proxyMode = .remoteProxy := by simpa using hremote
      exact hboth.2
    · exact absurd (rung (by decide) h) (by decide)

/-- The second ladder says remote only where the first one does. -/
theorem mapPrimaryClassification_remote {transition : TransitionClass}
    {before after : ProxyWininetState}
    (h : (mapPrimaryClassification transition before after).value ∈ remoteLabels) :
    transition.value ∈ remoteLabels := by
  cases transition with
  | remoteOrNonLoopbackProxyConfigured => decide
  | proxyServerChangedToRemote => decide
  | proxyServerRemoved | proxyServerRemovedPartial =>
    simp only [mapPrimaryClassification] at h
    split_ifs at h <;> exact absurd h (by decide)
  | _ => exact absurd h (by simp only [mapPrimaryClassification]; decide)

/-- The mode says what the labels need. -/
theorem remoteInUse_of_mode {raw : Option Dict} {st : ProxyWininetState}
    (h : normalizeProxyState raw = .ok st) (hmode : st.proxyMode = .remoteProxy) :
    RemoteInUse st := by
  rw [normalizeProxyState_mode h] at hmode
  obtain ⟨hwell, hpac, hon, hserver, hlocal⟩ := modeOf_remoteProxy hmode
  refine ⟨hon, hserver, ?_, hwell, hlocal⟩
  cases hurl : st.autoConfigUrl with
  | none => exact .inl rfl
  | some url =>
    rw [hurl] at hpac
    have hempty : url = "" := by simpa [truthyText] using hpac
    exact .inr (congrArg some hempty)

/-- Two snapshots that can be normalized are classified. -/
theorem classifyTransition_total {before after : Option Dict} (winhttpMismatch : Option Bool)
    {b a : ProxyWininetState} (hbefore : normalizeProxyState before = .ok b)
    (hafter : normalizeProxyState after = .ok a) :
    ∃ transition, classifyTransition before after winhttpMismatch = .ok transition ∧
      (transition.value ∈ remoteLabels → a.proxyMode = .remoteProxy) := by
  have missing : TransitionClass.errorInsufficientData.value ∉ remoteLabels := by decide
  cases before with
  | none => exact ⟨.errorInsufficientData, rfl, fun h => absurd h missing⟩
  | some before =>
    cases after with
    | none => exact ⟨.errorInsufficientData, rfl, fun h => absurd h missing⟩
    | some after =>
      refine ⟨classifyStates b a winhttpMismatch, ?_, classifyStates_remote⟩
      simp only [classifyTransition, hbefore, hafter, bind, Except.bind, pure, Except.pure]

theorem remote_of_forbidden_transition {transition : TransitionClass}
    (h : transition.value ∈ forbiddenClassifications) : transition.value ∈ remoteLabels := by
  revert h
  cases transition <;> decide

theorem remote_of_forbidden_primary {primary : PrimaryClassification}
    (h : primary.value ∈ forbiddenClassifications) : primary.value ∈ remoteLabels := by
  revert h
  cases primary <;> decide

theorem validateClassificationSafety_eq_nil {server : Option String} {primary transition : String}
    (hprimary : primary ∉ forbiddenClassifications)
    (htransition : transition ∉ forbiddenClassifications) :
    validateClassificationSafety server primary transition = [] := by
  unfold validateClassificationSafety
  split
  · rw [List.map_eq_nil_iff, List.filter_eq_nil_iff]
    intro label hlabel hbad
    rcases of_decide_eq_true hbad with rfl | rfl
    · exact hprimary hlabel
    · exact htransition hlabel
  · rfl

/-- The hard rule, for every pair of snapshots that can be normalized: the
classifier returns; with no server after the transition, no label of either
kind is forbidden and no violation is reported; and a remote label is given
only to a remote proxy in use. -/
theorem remote_label_sound (before after : Option Dict) (winhttpMismatch : Option Bool)
    (listener health : Option Dict) (writerProof : Bool) {b a : ProxyWininetState}
    (hbefore : normalizeProxyState before = .ok b) (hafter : normalizeProxyState after = .ok a) :
    ∃ transition out, classifyTransition before after winhttpMismatch = .ok transition ∧
      buildExplainableClassification before after transition listener health writerProof = .ok out ∧
      (serverEmpty a.proxyServer = true → transition.value ∉ forbiddenClassifications ∧
        out.primaryClassification.value ∉ forbiddenClassifications ∧ out.safetyViolations = []) ∧
      (transition.value ∈ remoteLabels ∨ out.primaryClassification.value ∈ remoteLabels →
        RemoteInUse a) := by
  obtain ⟨transition, htransition, hmode⟩ :=
    classifyTransition_total winhttpMismatch hbefore hafter
  have hremote : transition.value ∈ remoteLabels ∨
      (mapPrimaryClassification transition b a).value ∈ remoteLabels → RemoteInUse a := by
    rintro (h | h)
    · exact remoteInUse_of_mode hafter (hmode h)
    · exact remoteInUse_of_mode hafter (hmode (mapPrimaryClassification_remote h))
  refine ⟨transition, explainStates b a transition listener health writerProof, htransition, ?_,
    ?_, hremote⟩
  · simp only [buildExplainableClassification, hbefore, hafter, bind, Except.bind, pure, Except.pure]
  · intro hempty
    have hnone : ¬ RemoteInUse a := fun h => absurd (h.server.symm.trans hempty) (by simp)
    have hclean : transition.value ∉ forbiddenClassifications :=
      fun h => hnone (hremote (.inl (remote_of_forbidden_transition h)))
    have hcleanPrimary : (mapPrimaryClassification transition b a).value ∉
        forbiddenClassifications :=
      fun h => hnone (hremote (.inr (remote_of_forbidden_primary h)))
    exact ⟨hclean, hcleanPrimary, validateClassificationSafety_eq_nil hcleanPrimary hclean⟩

/-- A snapshot of a remote proxy, as the registry reader writes it. -/
def remoteSnapshot : Dict :=
  [("ProxyEnable", .int 1), ("ProxyServer", .str "proxy.corp.example:8080")]

def remoteState : ProxyWininetState where
  proxyEnable := true
  proxyServer := some "proxy.corp.example:8080"
  autoConfigUrl := none
  autoDetect := none
  proxyOverride := none
  parsedHost := none
  parsedPort := some 8080
  proxyMode := .remoteProxy
  winhttpDirectAccess := none

/-- From an empty snapshot to that one, a remote label is given and rightly so. -/
theorem remote_label_sound_remoteSnapshot :
    classifyTransition (some []) (some remoteSnapshot) none =
      .ok .remoteOrNonLoopbackProxyConfigured ∧ RemoteInUse remoteState := by
  have hafter : normalizeProxyState (some remoteSnapshot) = .ok remoteState := by decide +kernel
  have hlabel : classifyTransition (some []) (some remoteSnapshot) none =
      .ok .remoteOrNonLoopbackProxyConfigured := by decide +kernel
  obtain ⟨transition, out, htransition, -, -, hremote⟩ :=
    remote_label_sound (some []) (some remoteSnapshot) none none none false rfl hafter
  obtain rfl := Except.ok.inj (hlabel.symm.trans htransition)
  exact ⟨hlabel, hremote (.inl (by decide))⟩

end StateMachine
