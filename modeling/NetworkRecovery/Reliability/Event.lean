import NetworkRecovery.Platform.Storage

/-!
# Platform events

`platform_core/reliability/event_pipeline.py`: a raw observation, any dictionary,
is normalized into an event, and the event is written to a log. A row of the log
is a dictionary too, and can be normalized again (`normalizeRawObservation_modelDump`):
the signal, its value, the severity and the tier come out as they were, but the
observation itself is one level down in the payload.
-/

namespace Reliability

open Python Audit Platform

/-! ## Events -/

/-- `EventSourceKind`. -/
inductive EventSourceKind where
  | registry
  | sysmon
  | etw
  | windowsEventLog
  | networkTelemetry
  | agent
  | cli
  | replay
  | fixture
  deriving DecidableEq

def EventSourceKind.text : EventSourceKind → String
  | .registry => "registry"
  | .sysmon => "sysmon"
  | .etw => "etw"
  | .windowsEventLog => "windows_event_log"
  | .networkTelemetry => "network_telemetry"
  | .agent => "agent"
  | .cli => "cli"
  | .replay => "replay"
  | .fixture => "fixture"

def EventSourceKind.ofText? : String → Option EventSourceKind :=
  ofText [.registry, .sysmon, .etw, .windowsEventLog, .networkTelemetry, .agent, .cli, .replay,
    .fixture] EventSourceKind.text

inductive Severity where
  | info
  | low
  | medium
  | high
  | critical
  deriving DecidableEq

def Severity.text : Severity → String
  | .info => "info"
  | .low => "low"
  | .medium => "medium"
  | .high => "high"
  | .critical => "critical"

def Severity.ofText? : String → Option Severity :=
  ofText [.info, .low, .medium, .high, .critical] Severity.text

inductive EvidenceTier where
  | rawObservation
  | correlatedSignal
  | contrastTested
  | causalProof
  deriving DecidableEq

def EvidenceTier.text : EvidenceTier → String
  | .rawObservation => "TIER_0_RAW_OBSERVATION"
  | .correlatedSignal => "TIER_1_CORRELATED_SIGNAL"
  | .contrastTested => "TIER_2_CONTRAST_TESTED"
  | .causalProof => "TIER_3_CAUSAL_PROOF"

def EvidenceTier.ofText? : String → Option EvidenceTier :=
  ofText [.rawObservation, .correlatedSignal, .contrastTested, .causalProof] EvidenceTier.text

/-- `NormalizedPlatformEvent`. -/
structure NormalizedPlatformEvent where
  eventId : String
  timestampUtc : String
  endpointId : String
  sourceKind : EventSourceKind
  sourceDetail : String
  signalName : String
  signalValue : Value
  severity : Severity
  evidenceTier : EvidenceTier
  observationIds : List String
  limitations : List String
  payload : Dict
  schemaVersion : String := "platform_event.v1"

/-- `event.model_dump(mode="json")`. -/
def NormalizedPlatformEvent.modelDump (e : NormalizedPlatformEvent) : Dict :=
  [("event_id", .str e.eventId),
    ("timestamp_utc", .str e.timestampUtc),
    ("endpoint_id", .str e.endpointId),
    ("source_kind", .str e.sourceKind.text),
    ("source_detail", .str e.sourceDetail),
    ("signal_name", .str e.signalName),
    ("signal_value", e.signalValue),
    ("severity", .str e.severity.text),
    ("evidence_tier", .str e.evidenceTier.text),
    ("observation_ids", textList e.observationIds),
    ("limitations", textList e.limitations),
    ("payload", .dict e.payload),
    ("schema_version", .str e.schemaVersion)]

theorem NormalizedPlatformEvent.modelDump_wf {e : NormalizedPlatformEvent}
    (hvalue : e.signalValue.WF) (hpayload : (Value.dict e.payload).WF) :
    (Value.dict e.modelDump).WF := by
  have hkeys : e.modelDump.keys = ["event_id", "timestamp_utc", "endpoint_id", "source_kind",
      "source_detail", "signal_name", "signal_value", "severity", "evidence_tier",
      "observation_ids", "limitations", "payload", "schema_version"] := rfl
  refine ⟨?_, trivial, trivial, trivial, trivial, trivial, trivial, hvalue, trivial, trivial,
    textList_wf _, textList_wf _, hpayload, trivial, trivial⟩
  rw [hkeys]
  decide

/-! ## Observations -/

/-- `_infer_source_kind`. A list or a dictionary is not hashable. -/
def inferSourceKind (raw : Dict) : Except PyError EventSourceKind :=
  let src := lower
    (orElse (raw.get? "source") (orElse (raw.get? "source_kind") (.str ""))).toText.toList
  let mentions (word : String) : Bool := contains word.toList src
  if mentions "sysmon" then .ok .sysmon
  else if mentions "procmon" || mentions "registry" then .ok .registry
  else if mentions "etw" then .ok .etw
  else if mentions "eventlog" || mentions "event_log" then .ok .windowsEventLog
  else if mentions "network" || mentions "netstat" || mentions "tcp" then .ok .networkTelemetry
  else match raw.get? "source_kind" with
    | some (.str s) => .ok ((EventSourceKind.ofText? s).getD .agent)
    | some (.list _) | some (.dict _) => .error .type
    | _ => .ok .agent

/-- The name of the signal: under one of three keys. -/
def signalNameOf (raw : Dict) : String :=
  (orElse (raw.get? "signal_name") (orElse (raw.get? "name")
    (orElse (raw.get? "event_type") (.str "unknown")))).toText

/-- `raw.get(key) == text`. -/
def keyIs (raw : Dict) (key text : String) : Bool := textField raw key = some text

/-- The tier of an observation, before it is validated. -/
def tierOf (raw : Dict) : Value :=
  if keyIs raw "proof_status" "CONFIRMED" || keyIs raw "strength" "proof" then
    .str EvidenceTier.causalProof.text
  else if keyIs raw "strength" "strong" || keyIs raw "strength" "medium" then
    .str EvidenceTier.correlatedSignal.text
  else orElse (raw.get? "evidence_tier") (.str EvidenceTier.rawObservation.text)

/-- The value of the signal. -/
def signalValueOf (raw : Dict) : Value :=
  match raw.get? "value" with
  | some v => v
  | none => (raw.get? "signal_value").getD .none

/-- `list(v)`. -/
def listOf : Value → Except PyError (List Value)
  | .list xs => .ok xs
  | .str s => .ok (s.toList.map fun c => .str (.ofList [c]))
  | .dict kvs => .ok (kvs.map fun entry => .str entry.1)
  | _ => .error .type

/-- A string, where a model asks for one. -/
def asText : Value → Except PyError String
  | .str s => .ok s
  | _ => .error .value

/-- A member of an enumeration, where a model asks for one. -/
def asMember {α : Type} (ofText? : String → Option α) (v : Value) : Except PyError α :=
  match v with
  | .str s => (ofText? s).elim (.error .value) .ok
  | _ => .error .value

/-- The values an event draws for itself. -/
structure EventDraw where
  eventId : String
  timestampUtc : String

/-- `normalize_raw_observation`. -/
def normalizeRawObservation (draw : EventDraw) (endpointId : String)
    (sourceKind : Option EventSourceKind) (raw : Dict) :
    Except PyError NormalizedPlatformEvent := do
  let kind ← sourceKind.elim (inferSourceKind raw) .ok
  let observationIds ← listOf (orElse (raw.get? "observation_ids") (.list []))
  let limitations ← listOf (orElse (raw.get? "limitations") (.list []))
  let severity ← asMember Severity.ofText? (orElse (raw.get? "severity") (.str "info"))
  let tier ← asMember EvidenceTier.ofText? (tierOf raw)
  let observationIds ← observationIds.mapM asText
  let limitations ← limitations.mapM asText
  return {
    eventId := draw.eventId
    timestampUtc := draw.timestampUtc
    endpointId := endpointId
    sourceKind := kind
    sourceDetail := (orElse (raw.get? "source_detail")
      (orElse (raw.get? "source") (.str ""))).toText
    signalName := signalNameOf raw
    signalValue := signalValueOf raw
    severity := severity
    evidenceTier := tier
    observationIds := observationIds
    limitations := limitations
    payload := raw.filter fun entry => entry.1 ≠ "signal_name" ∧ entry.1 ≠ "value" }

/-- What an event takes over from its observation. -/
structure Normalizes (draw : EventDraw) (endpointId : String) (raw : Dict)
    (e : NormalizedPlatformEvent) : Prop where
  eventId : e.eventId = draw.eventId
  endpoint : e.endpointId = endpointId
  signalName : e.signalName = signalNameOf raw
  signalValue : e.signalValue = signalValueOf raw
  tier : asMember EvidenceTier.ofText? (tierOf raw) = .ok e.evidenceTier
  payload : e.payload = raw.filter fun entry => entry.1 ≠ "signal_name" ∧ entry.1 ≠ "value"

/-- A normalized event, part by part. -/
theorem parts_of_ok {draw : EventDraw} {endpointId : String}
    {sourceKind : Option EventSourceKind} {raw : Dict} {e : NormalizedPlatformEvent}
    (h : normalizeRawObservation draw endpointId sourceKind raw = .ok e) :
    sourceKind.elim (inferSourceKind raw) .ok = .ok e.sourceKind ∧
      Normalizes draw endpointId raw e := by
  obtain ⟨kind, hkind, h⟩ := bind_ok.mp h
  obtain ⟨ids, -, h⟩ := bind_ok.mp h
  obtain ⟨limitations, -, h⟩ := bind_ok.mp h
  obtain ⟨severity, -, h⟩ := bind_ok.mp h
  obtain ⟨tier, htier, h⟩ := bind_ok.mp h
  obtain ⟨ids, -, h⟩ := bind_ok.mp h
  obtain ⟨limitations, -, h⟩ := bind_ok.mp h
  obtain rfl := Except.ok.inj h
  exact ⟨hkind, rfl, rfl, rfl, rfl, htier, rfl⟩

theorem normalizes_of_ok {draw : EventDraw} {endpointId : String}
    {sourceKind : Option EventSourceKind} {raw : Dict} {e : NormalizedPlatformEvent}
    (h : normalizeRawObservation draw endpointId sourceKind raw = .ok e) :
    Normalizes draw endpointId raw e := (parts_of_ok h).2

/-! ## Normalizing again -/

/-- Every signal has a name. -/
theorem signalNameOf_ne_empty (raw : Dict) : signalNameOf raw ≠ "" := by
  have heach : ∀ (v : Option Value) (w : Value), w.truthy = true → (orElse v w).truthy = true := by
    intro v w hw
    cases v with
    | none => exact hw
    | some v =>
      rw [orElse]
      split
      · assumption
      · exact hw
  exact toText_ne_empty (heach _ _ (heach _ _ (heach _ _ rfl)))

/-- The kind that is read off the text of a kind: that of network telemetry has
`etw` in it, which is looked for first. -/
def EventSourceKind.reread : EventSourceKind → EventSourceKind
  | .networkTelemetry => .etw
  | kind => kind

theorem EventSourceKind.reread_eq_sysmon (kind : EventSourceKind) :
    kind.reread = .sysmon ↔ kind = .sysmon := by
  cases kind <;> decide

theorem inferSourceKind_modelDump (e : NormalizedPlatformEvent) :
    inferSourceKind e.modelDump = .ok e.sourceKind.reread := by
  have hkind : inferSourceKind e.modelDump =
      inferSourceKind [("source_kind", .str e.sourceKind.text)] := rfl
  rw [hkind]
  cases e.sourceKind <;> rfl

theorem listOf_textList (texts : List String) :
    listOf (orElse (some (textList texts)) (.list [])) = .ok (texts.map .str) := by
  cases texts with
  | nil => rfl
  | cons s texts => rfl

/-- A list written by a conversion is read by what undoes the conversion. -/
theorem mapM_map_of_pure {m : Type → Type} [Monad m] [LawfulMonad m] {α β : Type} {f : β → m α}
    {g : α → β} {l : List α} (h : ∀ a, f (g a) = pure a) : (l.map g).mapM f = pure l := by
  have hfg : f ∘ g = fun a => pure (id a) := funext h
  rw [List.mapM_map, hfg, List.mapM_pure, List.map_id]

theorem mapM_asText (texts : List String) : (texts.map Value.str).mapM asText = .ok texts :=
  mapM_map_of_pure fun _ => rfl

theorem asMember_severity (severity : Severity) :
    asMember Severity.ofText? (orElse (some (.str severity.text)) (.str "info")) = .ok severity := by
  cases severity <;> rfl

theorem asMember_tier (e : NormalizedPlatformEvent) :
    asMember EvidenceTier.ofText? (tierOf e.modelDump) = .ok e.evidenceTier := by
  have htier : tierOf e.modelDump = orElse (some (.str e.evidenceTier.text))
    (.str EvidenceTier.rawObservation.text) := rfl
  rw [htier]
  cases e.evidenceTier <;> rfl

theorem orElse_text (s : String) : (orElse (some (.str s)) (.str "")).toText = s := by
  by_cases hempty : s = ""
  · rw [hempty]
    rfl
  · rw [orElse_str hempty]
    rfl

/-- The event of a row of the log. -/
def NormalizedPlatformEvent.renormalized (e : NormalizedPlatformEvent) (draw : EventDraw)
    (endpointId : String) : NormalizedPlatformEvent :=
  { e with
    eventId := draw.eventId
    timestampUtc := draw.timestampUtc
    endpointId := endpointId
    sourceKind := e.sourceKind.reread
    payload := e.modelDump.filter fun entry => entry.1 ≠ "signal_name" ∧ entry.1 ≠ "value"
    schemaVersion := "platform_event.v1" }

/-- What the log holds can be normalized again. -/
theorem normalizeRawObservation_modelDump (e : NormalizedPlatformEvent) (hname : e.signalName ≠ "")
    (draw : EventDraw) (endpointId : String) :
    normalizeRawObservation draw endpointId none e.modelDump =
      .ok (e.renormalized draw endpointId) := by
  have hids : listOf (orElse (e.modelDump.get? "observation_ids") (.list [])) =
      .ok (e.observationIds.map .str) := listOf_textList _
  have hlimitations : listOf (orElse (e.modelDump.get? "limitations") (.list [])) =
      .ok (e.limitations.map .str) := listOf_textList _
  have hseverity : asMember Severity.ofText?
      (orElse (e.modelDump.get? "severity") (.str "info")) = .ok e.severity :=
    asMember_severity e.severity
  have hdetail : (orElse (e.modelDump.get? "source_detail")
      (orElse (e.modelDump.get? "source") (.str ""))).toText = e.sourceDetail :=
    orElse_text e.sourceDetail
  have hsignal : signalNameOf e.modelDump = e.signalName := by
    have hget : signalNameOf e.modelDump =
        (orElse (some (.str e.signalName)) (.str "unknown")).toText := rfl
    rw [hget, orElse_str hname]
    rfl
  have hvalue : signalValueOf e.modelDump = e.signalValue := rfl
  unfold normalizeRawObservation
  rw [Option.elim_none, inferSourceKind_modelDump, hids, hlimitations, hseverity, asMember_tier,
    hdetail, hsignal, hvalue]
  simp only [bind, Except.bind, pure, Except.pure, mapM_asText]
  rfl

end Reliability
