import NetworkRecovery.Lib.Grouping
import NetworkRecovery.Lib.Precedence
import NetworkRecovery.Python.Float
import NetworkRecovery.Python.Json
import NetworkRecovery.Python.Sha256
import NetworkRecovery.Python.Text

/-!
# Incidents from evidence

`incident_classifier.py` of the toolkit: the events are grouped by endpoint, and each group makes one
incident. Of each type of evidence only the latest event counts, whatever the field that is read.
Beyond these the group is looked through for its latest time, for an endpoint, and for a proof of the
writer.

So a group counts by what can be seen of it (`Agree`). With distinct times that does not depend on
the order of the events, and an event that is older than another one of its type and endpoint adds
nothing to it, unless it is a proof of the writer (`classified_by_latest`).
-/

namespace IncidentClassifier

open Python Grouping

/-! ## Events and incidents -/

/-- `STANDARD_LIMITATIONS`. -/
def standardLimitations : List String :=
  ["Listener ownership is correlation, not registry writer proof.",
    "Registry writer attribution requires Sysmon, Procmon, ETW, or EventLog evidence.",
    "Successful proxy probe does not prove the proxy is safe or intended.",
    "Risk classification is a triage signal, not a malware verdict.",
    "Evidence tier does not grant execution authority; policy and human approval remain separate."]

/-- `EvidenceEvent`. -/
structure EvidenceEvent where
  timestampUtc : String
  endpointId : Option String
  evidenceType : String
  normalizedFields : Dict
  evidenceTier : String
  evidenceSummary : String

/-- The labels of `incident_class`. -/
inductive IncidentClass where
  | insufficientData
  | reverterSuspected
  | proxyFlapping
  | noProxyDirectOk
  | bothDirectAndProxyFail
  | deadProxyConfig
  | directOnlyWorks
  | listenerNotProxy
  | proxyForwardingFailed
  | bothDirectAndProxyWork
  | proxyOnlyWorks
  | localProxyActive
  | unknownLocalProxy
  | wininetWinhttpMismatch
  | staleProxyAfterProcessExit
  deriving DecidableEq

def IncidentClass.value : IncidentClass → String
  | .insufficientData => "INSUFFICIENT_DATA"
  | .reverterSuspected => "REVERTER_SUSPECTED"
  | .proxyFlapping => "PROXY_FLAPPING"
  | .noProxyDirectOk => "NO_PROXY_DIRECT_OK"
  | .bothDirectAndProxyFail => "BOTH_DIRECT_AND_PROXY_FAIL"
  | .deadProxyConfig => "DEAD_PROXY_CONFIG"
  | .directOnlyWorks => "DIRECT_ONLY_WORKS"
  | .listenerNotProxy => "LISTENER_NOT_PROXY"
  | .proxyForwardingFailed => "PROXY_FORWARDING_FAILED"
  | .bothDirectAndProxyWork => "BOTH_DIRECT_AND_PROXY_WORK"
  | .proxyOnlyWorks => "PROXY_ONLY_WORKS"
  | .localProxyActive => "LOCAL_PROXY_ACTIVE"
  | .unknownLocalProxy => "UNKNOWN_LOCAL_PROXY"
  | .wininetWinhttpMismatch => "WININET_WINHTTP_MISMATCH"
  | .staleProxyAfterProcessExit => "STALE_PROXY_AFTER_PROCESS_EXIT"

/-- The labels of `risk_level`. -/
inductive RiskLevel where
  | low
  | medium
  | high
  | unknown
  deriving DecidableEq

def RiskLevel.value : RiskLevel → String
  | .low => "LOW"
  | .medium => "MEDIUM"
  | .high => "HIGH"
  | .unknown => "UNKNOWN"

/-- `IncidentRecord`. -/
structure IncidentRecord where
  incidentId : String
  timestampUtc : String
  endpointId : Option String
  incidentClass : IncidentClass
  riskLevel : RiskLevel
  confidence : FloatVal
  supportingEvidence : List String := []
  contradictingEvidence : List String := []
  limitations : List String := []
  recommendedPolicyAction : String := "observe"
  humanInterpretation : String := ""

/-- A text that counts as true. -/
def nonEmpty (text : Option String) : Option String := text.filter (· ≠ "")

/-- `endpoint_id or "local"`. -/
def endpointKey (endpointId : Option String) : String := (nonEmpty endpointId).getD "local"

/-- `make_incident_id`. -/
def makeIncidentId (timestampUtc : String) (incidentClass : IncidentClass)
    (endpointId : Option String) : String :=
  let payload := dumps .plain (Value.dict
    [("ts", .str timestampUtc), ("class", .str incidentClass.value),
      ("endpoint", .str (endpointKey endpointId))]).sortKeys
  "INC-" ++ .ofList ((Sha256.hexdigest (String.ofList payload).toUTF8).toList.take 16)

/-! ## What is read from the events -/

/-- `_latest_by_type`. -/
def latestByType (events : List EvidenceEvent) (evidenceType : String) : Option EvidenceEvent :=
  latest EvidenceEvent.timestampUtc (events.filter fun e => e.evidenceType = evidenceType)

/-- `ev.normalized_fields.get(field_name)` of the latest event of a type, when there is a value. -/
def latestField (events : List EvidenceEvent) (evidenceType fieldName : String) : Option Value :=
  (latestByType events evidenceType).bind fun ev =>
    match ev.normalizedFields.fetch fieldName with
    | .none => none
    | val => some val

/-- `_bool_field`. -/
def boolField (events : List EvidenceEvent) (evidenceType fieldName : String) : Option Bool :=
  (latestField events evidenceType fieldName).map Value.truthy

/-- `_str_field`. -/
def strField (events : List EvidenceEvent) (evidenceType fieldName : String) : Option String :=
  (latestField events evidenceType fieldName).map Value.toText

/-- `sorted(events, key=lambda e: e.timestamp_utc)[-1].timestamp_utc`. -/
def latestTime (events : List EvidenceEvent) : Option String :=
  (latest EvidenceEvent.timestampUtc events).map EvidenceEvent.timestampUtc

/-- `next((e.endpoint_id for e in reversed(events) if e.endpoint_id), None)`. -/
def inferredEndpoint (events : List EvidenceEvent) : Option String :=
  events.reverse.findSome? fun e => nonEmpty e.endpointId

/-- `has_writer_proof`. -/
def hasWriterProof (events : List EvidenceEvent) : Bool :=
  events.any fun e => e.evidenceTier = "T4_WRITER_PROOF"

/-- What the branches read. -/
structure Signals where
  /-- the summaries of the latest events -/
  summaries : List String
  enabled : Option Bool
  winhttpMismatch : Option Bool
  listenerFound : Option Bool
  directOk : Option Bool
  proxyOk : Option Bool
  proxyStatus : Option String
  listenerName : Option String
  reverterStatus : Option String
  reverterFlag : Option Bool
  writerProof : Bool

def signals (events : List EvidenceEvent) : Signals where
  summaries := ["proxy_state", "listener_state", "probe_result", "proxy_change"].filterMap fun t =>
    (latestByType events t).map EvidenceEvent.evidenceSummary
  enabled := boolField events "proxy_state" "wininet_proxy_enabled"
  winhttpMismatch := boolField events "proxy_state" "wininet_winhttp_mismatch"
  listenerFound := boolField events "listener_state" "listener_found"
  directOk := boolField events "probe_result" "direct_probe_ok"
  proxyOk := boolField events "probe_result" "proxy_probe_ok"
  proxyStatus := strField events "probe_result" "proxy_status"
  listenerName := strField events "listener_state" "listener_name"
  reverterStatus := strField events "proxy_change" "reverter_status"
  reverterFlag := boolField events "proxy_change" "reverter_suspected"
  writerProof := hasWriterProof events

/-! ## The verdict -/

/-- What the branches set. -/
structure Verdict where
  incidentClass : IncidentClass
  risk : RiskLevel
  confidence : FloatVal
  policy : String
  interpretation : String

/-- The class of settings that change again and again. -/
def reverterClass (reverterStatus : Option String) : IncidentClass :=
  if reverterStatus = some "REPEATED_LOCALHOST_PROXY_PORTS" then .proxyFlapping
  else if reverterStatus ≠ some "PROXY_FLAPPING" then .reverterSuspected
  else .proxyFlapping

/-- The branches, in turn. -/
def baseVerdict (s : Signals) : Verdict :=
  if s.reverterStatus ∈ [some "REVERTER_SUSPECTED", some "PROXY_FLAPPING",
      some "REPEATED_LOCALHOST_PROXY_PORTS"] ∨ s.reverterFlag = some true then
    ⟨reverterClass s.reverterStatus, .high, .ofScientific 8 (-1), "alert_reverter_suspected",
      "Proxy settings changed repeatedly — " ++
        "attribution remains correlational without writer proof."⟩
  else if s.enabled = some false ∧ s.directOk = some true then
    ⟨.noProxyDirectOk, .low, .ofScientific 85 (-2), "observe",
      "WinINET proxy disabled and direct path probe succeeded."⟩
  else if s.enabled = some false ∧ s.directOk = some false then
    ⟨.bothDirectAndProxyFail, .high, .ofScientific 7 (-1), "investigate_network_path",
      "Proxy disabled but direct connectivity probe failed."⟩
  else if s.enabled = some true ∧ s.listenerFound = some false then
    ⟨.deadProxyConfig, .high, .ofScientific 92 (-2), "block_or_disable_preview",
      "WinINET points to localhost proxy but no listener is attributed."⟩
  else if s.proxyStatus = some "DIRECT_ONLY_WORKS" ∨
      (s.directOk = some true ∧ s.proxyOk = some false ∧ s.enabled = some true) then
    ⟨.directOnlyWorks, .high, .ofScientific 9 (-1), "block_or_disable_preview",
      "Direct path works; configured localhost proxy path fails."⟩
  else if s.proxyStatus = some "LISTENER_NOT_PROXY" then
    ⟨.listenerNotProxy, .high, .ofScientific 88 (-2), "alert_high_risk_proxy_transition",
      "Port has a listener but does not behave as an HTTP proxy."⟩
  else if s.proxyStatus = some "PROXY_FORWARDING_FAILED" then
    ⟨.proxyForwardingFailed, .high, .ofScientific 86 (-2), "alert_high_risk_proxy_transition",
      "Proxy-like listener cannot forward external traffic."⟩
  else if s.proxyStatus ∈ [some "BOTH_DIRECT_AND_PROXY_WORK", some "HEALTHY_LOCALHOST_PROXY"] then
    ⟨.bothDirectAndProxyWork, .low, .ofScientific 75 (-2), "observe_or_alert",
      "Both direct and proxy paths succeeded; audit whether routing is intended."⟩
  else if s.proxyStatus = some "PROXY_ONLY_WORKS" ∨
      (s.proxyOk = some true ∧ s.directOk = some false) then
    ⟨.proxyOnlyWorks, .medium, .ofScientific 72 (-2), "observe_or_alert",
      "Proxy path works while direct path failed — possible tunnel/VPN dependency."⟩
  else if s.directOk = some false ∧ s.proxyOk = some false then
    ⟨.bothDirectAndProxyFail, .high, .ofScientific 78 (-2), "investigate_network_path",
      "Both direct and proxy probes failed."⟩
  else if s.enabled = some true ∧ s.listenerFound = some true ∧ s.proxyOk = none then
    ⟨.localProxyActive, .medium, .ofScientific 65 (-2), "observe_or_alert",
      "Localhost listener present; path probes incomplete."⟩
  else if s.enabled = some true ∧ s.listenerFound = some true then
    ⟨.localProxyActive, .medium, .ofScientific 7 (-1), "observe_or_alert",
      "Localhost proxy active; listener appears to be " ++
        (nonEmpty s.listenerName).getD "unknown" ++ "."⟩
  else if s.enabled = some true then
    ⟨.unknownLocalProxy, .high, .ofScientific 55 (-2), "human_review",
      "Proxy enabled but listener and probe evidence incomplete."⟩
  else
    ⟨.insufficientData, .unknown, .ofScientific 45 (-2), "observe",
      "Endpoint proxy evidence reviewed."⟩

/-- `_DEV_TRUSTED`. -/
def devTrusted : List String := ["node.exe", "node", "python.exe", "python"]

/-- `listener_name and listener_name.lower() in _DEV_TRUSTED`. -/
def IsDevListener (s : Signals) : Prop :=
  ∃ name ∈ nonEmpty s.listenerName, .ofList (lower name.toList) ∈ devTrusted

instance (s : Signals) : Decidable (IsDevListener s) :=
  inferInstanceAs (Decidable (∃ name ∈ nonEmpty s.listenerName, _))

/-- The risk behind a listener of a developer; both arms of the source say `MEDIUM`. -/
def rateDevListener (s : Signals) (v : Verdict) : Verdict :=
  if IsDevListener s ∧
      v.incidentClass ∈ [.localProxyActive, .bothDirectAndProxyWork, .unknownLocalProxy] then
    { v with risk := .medium }
  else v

/-- `if winhttp_mismatch`. -/
def rateMismatch (s : Signals) (v : Verdict) : Verdict :=
  if s.winhttpMismatch = some true ∧
      v.incidentClass ∉ [.reverterSuspected, .proxyFlapping, .deadProxyConfig] then
    { v with
      incidentClass := .wininetWinhttpMismatch
      risk := if v.risk = .low ∨ v.risk = .unknown then .medium else v.risk
      confidence := v.confidence.max (.ofScientific 72 (-2)) }
  else v

/-- `if stale`. -/
def rateStale (s : Signals) (v : Verdict) : Verdict :=
  if s.reverterStatus = some "STALE_PROXY_AFTER_PROCESS_EXIT" then
    { v with
      incidentClass := .staleProxyAfterProcessExit
      risk := .high
      interpretation := "Proxy remains enabled after listener exited." }
  else v

def verdict (s : Signals) : Verdict := rateStale s (rateMismatch s (rateDevListener s (baseVerdict s)))

def supportingEvidence (s : Signals) : List String :=
  s.summaries ++ if s.winhttpMismatch = some true then
    ["WinINET enabled while WinHTTP reports direct access."] else []

def limitations (s : Signals) : List String :=
  standardLimitations ++
    if s.listenerFound = some true ∧ (nonEmpty s.listenerName).isSome ∧ s.writerProof = false then
      ["Likely process / correlation only; registry writer proof unavailable."] else []

/-! ## Incidents -/

/-- The record of no events. -/
def noEvidence (timestampUtc endpointId : Option String) : IncidentRecord :=
  let ts := timestampUtc.getD ""
  { incidentId := makeIncidentId ts .insufficientData endpointId
    timestampUtc := ts
    endpointId := endpointId
    incidentClass := .insufficientData
    riskLevel := .unknown
    confidence := .ofScientific 2 (-1)
    limitations := standardLimitations ++ ["No evidence events supplied."]
    humanInterpretation := "Insufficient evidence to classify endpoint proxy incident." }

/-- The record of what has been read. -/
def record (ts : String) (endpointId : Option String) (s : Signals) : IncidentRecord :=
  let v := verdict s
  { incidentId := makeIncidentId ts v.incidentClass endpointId
    timestampUtc := ts
    endpointId := endpointId
    incidentClass := v.incidentClass
    riskLevel := v.risk
    confidence := v.confidence
    supportingEvidence := supportingEvidence s
    limitations := limitations s
    recommendedPolicyAction := v.policy
    humanInterpretation := v.interpretation }

/-- `classify_incident_from_events`. -/
def classifyIncidentFromEvents (events : List EvidenceEvent) (timestampUtc endpointId : Option String) :
    IncidentRecord :=
  if events.isEmpty then noEvidence timestampUtc endpointId
  else
    let ts := (nonEmpty timestampUtc).getD ((latestTime events).getD "")
    record ts ((nonEmpty endpointId).or (inferredEndpoint events)) (signals events)

/-- `key` of an event. -/
def EvidenceEvent.key (ev : EvidenceEvent) : String := endpointKey ev.endpointId

/-- `classify_incidents_from_events`. -/
def classifyIncidentsFromEvents (events : List EvidenceEvent) : List IncidentRecord :=
  (sortedGroups EvidenceEvent.key events).map fun e =>
    classifyIncidentFromEvents e.2 none (if e.1 = "local" then none else some e.1)

/-! ## What can be seen of a group -/

/-- Two groups that look the same: by the latest event of each type, the latest time, the endpoint
that is found, and whether a writer is proved. -/
structure Agree (events events' : List EvidenceEvent) : Prop where
  empty : events.isEmpty = events'.isEmpty
  types : ∀ t, latestByType events t = latestByType events' t
  time : latestTime events = latestTime events'
  endpoint : inferredEndpoint events = inferredEndpoint events'
  proof : hasWriterProof events = hasWriterProof events'

variable {events events' front back : List EvidenceEvent} {ev newer : EvidenceEvent} {k : String}

theorem Agree.signals_eq (h : Agree events events') : signals events = signals events' := by
  simp only [signals, boolField, strField, latestField, h.types, h.proof]

/-- Groups that look the same make the same incident. -/
theorem Agree.classify (h : Agree events events') (timestampUtc endpointId : Option String) :
    classifyIncidentFromEvents events timestampUtc endpointId =
      classifyIncidentFromEvents events' timestampUtc endpointId := by
  simp only [classifyIncidentFromEvents, h.empty, h.time, h.endpoint, h.signals_eq]

/-- An id that is not empty is its own key. -/
theorem endpointKey_of_nonEmpty {endpointId : Option String} {s : String}
    (h : nonEmpty endpointId = some s) : endpointKey endpointId = s := by
  rw [endpointKey, h, Option.getD_some]

/-- The endpoint that is found in a group of one key is that key, wherever it stands. -/
theorem inferredEndpoint_congr (hk : ∀ e ∈ events, e.key = k)
    (hk' : ∀ e ∈ events', e.key = k)
    (h : (∃ e ∈ events, nonEmpty e.endpointId = some k) ↔
      ∃ e ∈ events', nonEmpty e.endpointId = some k) :
    inferredEndpoint events = inferredEndpoint events' := by
  have hone : ∀ {rows : List EvidenceEvent}, (∀ e ∈ rows, e.key = k) →
      ∀ e ∈ rows.reverse, ∀ s, nonEmpty e.endpointId = some s → s = k := by
    intro rows hrows e he s hs
    rw [← endpointKey_of_nonEmpty hs]
    exact hrows e (List.mem_reverse.mp he)
  apply Precedence.findSome?_congr_of_agree (hone hk) (hone hk')
  simpa only [List.mem_reverse] using h

/-- With distinct times the order of a group does not show. -/
theorem Agree.of_perm (hk : ∀ e ∈ events, e.key = k) (hperm : events.Perm events')
    (hdistinct : (events.map EvidenceEvent.timestampUtc).Nodup) : Agree events events' where
  empty := hperm.isEmpty_eq
  types t := latest_perm _ (hperm.filter _) (hdistinct.sublist (List.filter_sublist.map _))
  time := congrArg (Option.map _) (latest_perm _ hperm hdistinct)
  endpoint := by
    refine inferredEndpoint_congr hk (fun e he => hk e (hperm.mem_iff.mpr he)) ?_
    exact exists_congr fun e => and_congr_left' hperm.mem_iff
  proof := hperm.any_eq

/-- An event that is older than another one of its type does not show, unless it proves a writer. -/
theorem Agree.insert_older (hk : ∀ e ∈ front ++ ev :: back, e.key = k)
    (hnewer : newer ∈ front ++ back) (hid : newer.endpointId = ev.endpointId)
    (htype : newer.evidenceType = ev.evidenceType) (hlt : ev.timestampUtc < newer.timestampUtc)
    (htier : ev.evidenceTier ≠ "T4_WRITER_PROOF") : Agree (front ++ ev :: back) (front ++ back) where
  empty := by
    have hne := List.ne_nil_of_mem hnewer
    rw [List.isEmpty_eq_false_iff.mpr hne]
    exact List.isEmpty_eq_false_iff.mpr (List.append_ne_nil_of_right_ne_nil _ (List.cons_ne_nil _ _))
  types t := by
    unfold latestByType
    rw [List.filter_append, List.filter_append, List.filter_cons]
    split
    · next ht =>
      refine latest_insert_older _ ?_ hlt
      rw [← List.filter_append, List.mem_filter]
      exact ⟨hnewer, by rwa [htype]⟩
    · rfl
  time := congrArg (Option.map _) (latest_insert_older _ hnewer hlt)
  endpoint := by
    have hsub : ∀ e ∈ front ++ back, e ∈ front ++ ev :: back := fun e he =>
      (List.perm_middle.mem_iff).mpr (List.mem_cons_of_mem _ he)
    refine inferredEndpoint_congr hk (fun e he => hk e (hsub e he)) ⟨?_, ?_⟩
    · rintro ⟨e, he, hkey⟩
      rcases List.mem_cons.mp (List.perm_middle.mem_iff.mp he) with rfl | he
      · exact ⟨newer, hnewer, by rwa [hid]⟩
      · exact ⟨e, he, hkey⟩
    · rintro ⟨e, he, hkey⟩
      exact ⟨e, hsub e he, hkey⟩
  proof := by
    unfold hasWriterProof
    rw [List.any_append, List.any_append, List.any_cons, decide_eq_false htier, Bool.false_or]

/-! ## All groups -/

theorem key_of_mem_group : ∀ e ∈ group EvidenceEvent.key k events, e.key = k := by
  intro e he
  exact (mem_group.mp he).2

/-- Each key makes one incident, of the events of that key. -/
theorem classifyIncidentsFromEvents_eq (events : List EvidenceEvent) :
    classifyIncidentsFromEvents events = (sortedKeys EvidenceEvent.key events).map fun k =>
      classifyIncidentFromEvents (group EvidenceEvent.key k events) none
        (if k = "local" then none else some k) := by
  rw [classifyIncidentsFromEvents, sortedGroups_eq, List.map_map]
  rfl

theorem classifyIncidents_congr
    (hkeys : ∀ k, k ∈ events.map EvidenceEvent.key ↔ k ∈ events'.map EvidenceEvent.key)
    (h : ∀ k, Agree (group EvidenceEvent.key k events) (group EvidenceEvent.key k events')) :
    classifyIncidentsFromEvents events = classifyIncidentsFromEvents events' := by
  rw [classifyIncidentsFromEvents_eq, classifyIncidentsFromEvents_eq, sortedKeys_congr hkeys]
  exact List.map_congr_left fun k _ => (h k).classify none _

theorem endpointKey_ne_empty (endpointId : Option String) : endpointKey endpointId ≠ "" := by
  unfold endpointKey
  cases h : nonEmpty endpointId with
  | none => decide
  | some s => exact of_decide_eq_true (Option.filter_eq_some_iff.mp h).2

/-- An endpoint that is found in a group of one key is that key. -/
theorem eq_of_inferredEndpoint (hk : ∀ e ∈ events, e.key = k) {s : String}
    (h : inferredEndpoint events = some s) : s = k := by
  obtain ⟨e, he, hs⟩ := List.exists_of_findSome?_eq_some h
  rw [← endpointKey_of_nonEmpty hs]
  exact hk e (List.mem_reverse.mp he)

theorem endpointId_classify (hne : events ≠ []) (timestampUtc endpointId : Option String) :
    (classifyIncidentFromEvents events timestampUtc endpointId).endpointId =
      (nonEmpty endpointId).or (inferredEndpoint events) := by
  rw [classifyIncidentFromEvents, List.isEmpty_eq_false_iff.mpr hne]
  rfl

/-- The incident of a key has the endpoint of that key. -/
theorem endpointKey_classify (hk : k ∈ events.map EvidenceEvent.key) :
    endpointKey (classifyIncidentFromEvents (group EvidenceEvent.key k events) none
      (if k = "local" then none else some k)).endpointId = k := by
  obtain ⟨e, he, hek⟩ := List.mem_map.mp hk
  have hmem : e ∈ group EvidenceEvent.key k events := mem_group.mpr ⟨he, hek⟩
  rw [endpointId_classify (List.ne_nil_of_mem hmem)]
  split
  · next hlocal =>
    -- Only events that say "local" have an endpoint here.
    show endpointKey (inferredEndpoint _) = k
    cases hfound : inferredEndpoint (group EvidenceEvent.key k events) with
    | none => exact hlocal.symm
    | some s =>
      obtain rfl := eq_of_inferredEndpoint key_of_mem_group hfound
      rw [hlocal]
      rfl
  · have hne : k ≠ "" := hek ▸ endpointKey_ne_empty e.endpointId
    have hid : nonEmpty (some k) = some k := Option.filter_eq_some_iff.mpr ⟨rfl, decide_eq_true hne⟩
    rw [hid]
    exact endpointKey_of_nonEmpty hid

/-- The endpoints of the incidents are the keys of the events, each of them once, in order. -/
theorem endpoints_classify (events : List EvidenceEvent) :
    (classifyIncidentsFromEvents events).map (fun i => endpointKey i.endpointId) =
      sortedKeys EvidenceEvent.key events := by
  rw [classifyIncidentsFromEvents_eq, List.map_map]
  refine (List.map_congr_left ?_).trans (List.map_id _)
  intro k hk
  exact endpointKey_classify (mem_sortedKeys.mp hk)

theorem classifyIncidents_perm (hperm : events.Perm events')
    (hdistinct : (events.map EvidenceEvent.timestampUtc).Nodup) :
    classifyIncidentsFromEvents events = classifyIncidentsFromEvents events' := by
  refine classifyIncidents_congr (fun k => (hperm.map _).mem_iff) fun k => ?_
  exact .of_perm key_of_mem_group (hperm.filter _)
    (hdistinct.sublist (List.filter_sublist.map _))

theorem classifyIncidents_insert_older (hnewer : newer ∈ front ++ back)
    (hid : newer.endpointId = ev.endpointId) (htype : newer.evidenceType = ev.evidenceType)
    (hlt : ev.timestampUtc < newer.timestampUtc) (htier : ev.evidenceTier ≠ "T4_WRITER_PROOF") :
    classifyIncidentsFromEvents (front ++ ev :: back) =
      classifyIncidentsFromEvents (front ++ back) := by
  have hkey : newer.key = ev.key := congrArg endpointKey hid
  refine classifyIncidents_congr ?_ ?_
  · intro k
    rw [(List.perm_middle.map _).mem_iff, List.map_cons, List.mem_cons, or_iff_right_iff_imp]
    rintro rfl
    exact List.mem_map.mpr ⟨newer, hnewer, hkey⟩
  · intro k
    by_cases hk : ev.key = k
    · have hmem : newer ∈ group EvidenceEvent.key k (front ++ back) :=
        mem_group.mpr ⟨hnewer, hkey.trans hk⟩
      have hgroup : ∀ e ∈ group EvidenceEvent.key k (front ++ ev :: back), e.key = k :=
        key_of_mem_group
      rw [group_insert_self hk] at hgroup ⊢
      rw [group_append] at hmem ⊢
      exact .insert_older hgroup hmem hid htype hlt htier
    · rw [group_insert_of_ne hk]
      exact ⟨rfl, fun _ => rfl, rfl, rfl, rfl⟩

/-- Events with distinct times make one incident for each endpoint, the same in any order, and an
event that a newer one of its endpoint and type follows, and that is no proof of a writer, changes
none of them, wherever it is added. -/
theorem classified_by_latest (events : List EvidenceEvent)
    (hdistinct : (events.map EvidenceEvent.timestampUtc).Nodup) :
    (((classifyIncidentsFromEvents events).map fun i => endpointKey i.endpointId).Nodup ∧
      ∀ k, k ∈ (classifyIncidentsFromEvents events).map (fun i => endpointKey i.endpointId) ↔
        ∃ ev ∈ events, endpointKey ev.endpointId = k) ∧
    (∀ events', events'.Perm events →
      classifyIncidentsFromEvents events' = classifyIncidentsFromEvents events) ∧
    ∀ front back, events = front ++ back → ∀ ev newer : EvidenceEvent, newer ∈ events →
      newer.endpointId = ev.endpointId → newer.evidenceType = ev.evidenceType →
      ev.timestampUtc < newer.timestampUtc → ev.evidenceTier ≠ "T4_WRITER_PROOF" →
      classifyIncidentsFromEvents (front ++ ev :: back) = classifyIncidentsFromEvents events := by
  refine ⟨?_, ?_, ?_⟩
  · rw [endpoints_classify]
    refine ⟨nodup_sortedKeys _ _, fun k => ?_⟩
    rw [mem_sortedKeys, List.mem_map]
    rfl
  · intro events' hperm
    exact (classifyIncidents_perm hperm.symm hdistinct).symm
  · rintro front back rfl ev newer hnewer hid htype hlt htier
    exact classifyIncidents_insert_older hnewer hid htype hlt htier

/-- An event of one machine and one field. -/
def sampleEvent (timestampUtc evidenceType field : String) (val : Bool) : EvidenceEvent where
  timestampUtc := timestampUtc
  endpointId := some "pc-1"
  evidenceType := evidenceType
  normalizedFields := [(field, .bool val)]
  evidenceTier := "T1_STATE_EVIDENCE"
  evidenceSummary := field

def proxyWasOn : EvidenceEvent :=
  sampleEvent "2026-01-01" "proxy_state" "wininet_proxy_enabled" true

def proxyIsOff : EvidenceEvent :=
  sampleEvent "2026-01-02" "proxy_state" "wininet_proxy_enabled" false

def directWorks : EvidenceEvent :=
  sampleEvent "2026-01-03" "probe_result" "direct_probe_ok" true

theorem classified_by_latest_proxyOff :
    ((classifyIncidentsFromEvents [proxyIsOff, directWorks]).map fun i =>
      endpointKey i.endpointId).Nodup ∧
    classifyIncidentsFromEvents [directWorks, proxyIsOff] =
      classifyIncidentsFromEvents [proxyIsOff, directWorks] ∧
    classifyIncidentsFromEvents [proxyIsOff, proxyWasOn, directWorks] =
      classifyIncidentsFromEvents [proxyIsOff, directWorks] := by
  obtain ⟨⟨hnodup, -⟩, hperm, hinsert⟩ :=
    classified_by_latest [proxyIsOff, directWorks] (by decide)
  refine ⟨hnodup, hperm _ (.swap _ _ []), ?_⟩
  exact hinsert [proxyIsOff] [directWorks] rfl proxyWasOn proxyIsOff List.mem_cons_self rfl rfl
    (by decide) (by decide)

end IncidentClassifier
