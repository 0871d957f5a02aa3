import NetworkRecovery.Platform.Storage

/-!
# The domain event store

`platform_core/sre/event_store.py`: one log for all aggregates, each event with
a sequence number of its own aggregate. A `DomainEventStore` reads the log once,
when it is first asked for a number, and from then on counts in a cache that
only its OWN appends move.

So two stores on one log agree on the numbers as long as neither appends to an
aggregate behind the other's back (`sequenceIntegrity_iff`): the check against
gaps compares with the cache and sees nothing.
-/

namespace Sre

open Python Audit Platform

/-! ## Events -/

/-- `DomainEventType`. -/
inductive DomainEventType where
  | incidentDetected
  | incidentAcknowledged
  | incidentInvestigationStarted
  | incidentHypothesisRanked
  | incidentRootCauseIdentified
  | incidentMitigationAttempted
  | incidentResolved
  | incidentFalsePositive
  | telemetryNormalized
  | stateTransitioned
  | decisionRecorded
  | auditSigned
  | domainCircuitOpened
  | domainCircuitClosed
  | postmortemGenerated
  deriving DecidableEq

def DomainEventType.text : DomainEventType → String
  | .incidentDetected => "incident.detected"
  | .incidentAcknowledged => "incident.acknowledged"
  | .incidentInvestigationStarted => "incident.investigation_started"
  | .incidentHypothesisRanked => "incident.hypothesis_ranked"
  | .incidentRootCauseIdentified => "incident.root_cause_identified"
  | .incidentMitigationAttempted => "incident.mitigation_attempted"
  | .incidentResolved => "incident.resolved"
  | .incidentFalsePositive => "incident.false_positive"
  | .telemetryNormalized => "telemetry.normalized"
  | .stateTransitioned => "state.transitioned"
  | .decisionRecorded => "decision.recorded"
  | .auditSigned => "audit.signed"
  | .domainCircuitOpened => "domain.circuit_opened"
  | .domainCircuitClosed => "domain.circuit_closed"
  | .postmortemGenerated => "postmortem.generated"

inductive AggregateType where
  | incident
  | endpoint
  | decision
  | audit
  deriving DecidableEq

def AggregateType.text : AggregateType → String
  | .incident => "incident"
  | .endpoint => "endpoint"
  | .decision => "decision"
  | .audit => "audit"

/-- `FailureDomainName`. -/
inductive FailureDomain where
  | telemetryIngest
  | stateMachine
  | hypothesisEngine
  | policyEngine
  | remediation
  | audit
  | investigation
  deriving DecidableEq

def FailureDomain.text : FailureDomain → String
  | .telemetryIngest => "telemetry_ingest"
  | .stateMachine => "state_machine"
  | .hypothesisEngine => "hypothesis_engine"
  | .policyEngine => "policy_engine"
  | .remediation => "remediation"
  | .audit => "audit"
  | .investigation => "investigation"

def DomainEventType.ofText? : String → Option DomainEventType :=
  ofText [.incidentDetected, .incidentAcknowledged, .incidentInvestigationStarted,
    .incidentHypothesisRanked, .incidentRootCauseIdentified, .incidentMitigationAttempted,
    .incidentResolved, .incidentFalsePositive, .telemetryNormalized, .stateTransitioned,
    .decisionRecorded, .auditSigned, .domainCircuitOpened, .domainCircuitClosed,
    .postmortemGenerated] DomainEventType.text

def AggregateType.ofText? : String → Option AggregateType :=
  ofText [.incident, .endpoint, .decision, .audit] AggregateType.text

def FailureDomain.ofText? : String → Option FailureDomain :=
  ofText [.telemetryIngest, .stateMachine, .hypothesisEngine, .policyEngine, .remediation, .audit,
    .investigation] FailureDomain.text

/-- `DomainEvent`. -/
structure DomainEvent where
  eventId : String
  sequence : Nat
  aggregateId : String
  aggregateType : AggregateType := .incident
  eventType : DomainEventType
  timestampUtc : String
  correlationId : String
  causationId : Option String := none
  failureDomain : Option FailureDomain := none
  actor : String := "system"
  payload : Dict := []
  schemaVersion : String := "sre.domain_event.v1"

/-- `event.model_dump(mode="json")`. -/
def DomainEvent.modelDump (e : DomainEvent) : Dict :=
  [("event_id", .str e.eventId),
    ("sequence", .int e.sequence),
    ("aggregate_id", .str e.aggregateId),
    ("aggregate_type", .str e.aggregateType.text),
    ("event_type", .str e.eventType.text),
    ("timestamp_utc", .str e.timestampUtc),
    ("correlation_id", .str e.correlationId),
    ("causation_id", optionalText e.causationId),
    ("failure_domain", optionalText (e.failureDomain.map (·.text))),
    ("actor", .str e.actor),
    ("payload", .dict e.payload),
    ("schema_version", .str e.schemaVersion)]

theorem DomainEvent.modelDump_wf {e : DomainEvent} (hpayload : (Value.dict e.payload).WF) :
    (Value.dict e.modelDump).WF := by
  have hkeys : e.modelDump.keys = ["event_id", "sequence", "aggregate_id", "aggregate_type",
      "event_type", "timestamp_utc", "correlation_id", "causation_id", "failure_domain", "actor",
      "payload", "schema_version"] := rfl
  refine ⟨?_, trivial, trivial, trivial, trivial, trivial, trivial, trivial, optionalText_wf _,
    optionalText_wf _, trivial, hpayload, trivial, trivial⟩
  rw [hkeys]
  decide

/-- `DomainEvent(**row)`, of a row with every field in its own type, which is how
the store writes them: no default and no coercion is ever needed. -/
def DomainEvent.ofRow (row : Dict) : Option DomainEvent := do
  let eventId ← textField row "event_id"
  let sequence ← match row.get? "sequence" with
    | some (.int n) => some n
    | _ => none
  let aggregateId ← textField row "aggregate_id"
  let aggregateType ← (textField row "aggregate_type").bind AggregateType.ofText?
  let eventType ← (textField row "event_type").bind DomainEventType.ofText?
  let timestampUtc ← textField row "timestamp_utc"
  let correlationId ← textField row "correlation_id"
  let causationId ← optionalField row "causation_id"
  let failureDomain ← match ← optionalField row "failure_domain" with
    | none => some none
    | some s => (FailureDomain.ofText? s).map some
  let actor ← textField row "actor"
  let payload ← match row.get? "payload" with
    | some (.dict entries) => some entries
    | _ => none
  let schemaVersion ← textField row "schema_version"
  if 1 ≤ sequence then
    some ⟨eventId, sequence.toNat, aggregateId, aggregateType, eventType, timestampUtc,
      correlationId, causationId, failureDomain, actor, payload, schemaVersion⟩
  else none

theorem DomainEventType.ofText?_text (t : DomainEventType) : ofText? t.text = some t := by
  cases t <;> decide

theorem AggregateType.ofText?_text (t : AggregateType) : ofText? t.text = some t := by
  cases t <;> decide

theorem FailureDomain.ofText?_text (t : FailureDomain) : ofText? t.text = some t := by
  cases t <;> decide

/-- What is written is read. -/
theorem DomainEvent.ofRow_modelDump {e : DomainEvent} (hpos : 1 ≤ e.sequence) :
    ofRow e.modelDump = some e := by
  obtain ⟨eventId, sequence, aggregateId, aggregateType, eventType, timestampUtc, correlationId,
    causationId, failureDomain, actor, payload, schemaVersion⟩ := e
  have hint : (1 : Int) ≤ sequence := by exact_mod_cast hpos
  cases causationId <;> cases failureDomain <;>
    simp [ofRow, modelDump, textField, optionalField, optionalText, Dict.get?, List.lookup_cons,
      AggregateType.ofText?_text, DomainEventType.ofText?_text, FailureDomain.ofText?_text, hint]

/-! ## The store -/

/-- `_sequence_cache`: the last number of each aggregate, 0 where there is none. -/
abbrev Cache := String → Nat

def Cache.set (cache : Cache) (a : String) (n : Nat) : Cache :=
  fun b => if b = a then n else cache b

/-- `_load_sequences` from the log. A row without an aggregate, or with the empty
one, is passed over. -/
def loadSequences (rows : List Dict) : Except PyError Cache :=
  rows.foldlM (fun cache row => do
    let a := (orElse (row.get? "aggregate_id") (.str "")).toText
    let n ← (orElse (row.get? "sequence") (.int 0)).toInt
    return if a = "" then cache else cache.set a (max (cache a) n.toNat)) fun _ => 0

/-- `_event_exists`. -/
def eventExists (rows : List Dict) (eventId : String) : Bool :=
  rows.any fun row => match row.get? "event_id" with
    | some (.str s) => s = eventId
    | _ => false

/-- The arguments of `append_domain_event`, and the values the event draws for
itself. -/
structure AppendCall where
  aggregateId : String
  aggregateType : AggregateType := .incident
  eventType : DomainEventType
  correlationId : String := ""
  payload : Dict := []
  payloadWF : (Value.dict payload).WF := by exact emptyDict_wf
  causationId : Option String := none
  failureDomain : Option FailureDomain := none
  actor : String := "system"
  eventId : String
  timestampUtc : String := ""

def AppendCall.event (call : AppendCall) (sequence : Nat) : DomainEvent :=
  { eventId := call.eventId
    sequence := sequence
    aggregateId := call.aggregateId
    aggregateType := call.aggregateType
    eventType := call.eventType
    timestampUtc := call.timestampUtc
    correlationId := call.correlationId
    causationId := call.causationId
    failureDomain := call.failureDomain
    actor := call.actor
    payload := call.payload }

theorem AppendCall.event_wf (call : AppendCall) (n : Nat) :
    (Value.dict (call.event n).modelDump).WF :=
  DomainEvent.modelDump_wf call.payloadWF

/-- A store: the log it shares with others, and its cache. -/
structure EventStore where
  log : JsonlFile
  cache : Option Cache := none

/-- `DomainEventStore.append`, strict. -/
def EventStore.append (sep : Linesep) (store : EventStore) (cache : Cache) (call : AppendCall)
    (sequence : Nat) : Except PyError DomainEvent × EventStore :=
  let event := call.event sequence
  if eventExists store.log.rows event.eventId then (.error .value, { store with cache := some cache })
  else if event.sequence ≠ cache event.aggregateId + 1 then
    (.error .value, { store with cache := some cache })
  else
    (.ok event,
      { log := store.log.append sep event.modelDump (call.event_wf sequence)
        cache := some (cache.set event.aggregateId event.sequence) })

/-- `append_domain_event`. -/
def appendDomainEvent (sep : Linesep) (store : EventStore) (call : AppendCall) :
    Except PyError DomainEvent × EventStore :=
  let loaded : Except PyError Cache := match store.cache with
    | some cache => .ok cache
    | none => loadSequences store.log.rows
  match loaded with
  | .error e => (.error e, store)
  | .ok cache => store.append sep cache call (cache call.aggregateId + 1)

/-! ## A log of events -/

/-- The log holds these events, and nothing else. -/
structure Stores (log : JsonlFile) (events : List DomainEvent) : Prop where
  rows : log.rows = events.map DomainEvent.modelDump
  numbered : ∀ e ∈ events, 1 ≤ e.sequence

/-- The events of a log, as `iter_events` reads them. -/
def storedEvents (log : JsonlFile) : List DomainEvent := log.rows.filterMap DomainEvent.ofRow

theorem Stores.storedEvents_eq {log : JsonlFile} {events : List DomainEvent}
    (h : Stores log events) : storedEvents log = events := by
  unfold storedEvents
  rw [h.rows, List.filterMap_map]
  have hsome : ∀ e ∈ events, (DomainEvent.ofRow ∘ DomainEvent.modelDump) e = some e :=
    fun e he => DomainEvent.ofRow_modelDump (h.numbered e he)
  rw [List.filterMap_congr hsome, List.filterMap_some]

theorem Stores.append {log : JsonlFile} {events : List DomainEvent} (h : Stores log events)
    (sep : Linesep) {e : DomainEvent} (hwf : (Value.dict e.modelDump).WF) (hpos : 1 ≤ e.sequence) :
    Stores (log.append sep e.modelDump hwf) (events ++ [e]) where
  rows := by
    rw [List.map_append, ← h.rows]
    rfl
  numbered := by
    intro e' he'
    rcases List.mem_append.mp he' with he' | he'
    · exact h.numbered e' he'
    · rwa [List.mem_singleton.mp he']

/-- The numbers of an aggregate, in the order of the log. -/
def sequencesOf (events : List DomainEvent) (a : String) : List Nat :=
  (events.filter (·.aggregateId = a)).map (·.sequence)

theorem sequencesOf_append (events : List DomainEvent) (e : DomainEvent) (a : String) :
    sequencesOf (events ++ [e]) a =
      sequencesOf events a ++ (if e.aggregateId = a then [e.sequence] else []) := by
  unfold sequencesOf
  by_cases h : e.aggregateId = a
  · simp [List.filter_append, h]
  · simp [List.filter_append, h]

/-- What a store that loads now finds: the largest number, except for the empty
aggregate. -/
def loadedCache (events : List DomainEvent) : Cache := fun a =>
  if a = "" then 0 else (sequencesOf events a).foldl max 0

theorem loadSequences_events (events : List DomainEvent) :
    loadSequences (events.map DomainEvent.modelDump) = .ok (loadedCache events) := by
  induction events using List.reverseRecOn with
  | nil =>
    refine congrArg Except.ok (funext fun a => ?_)
    simp [loadedCache, sequencesOf]
  | append_singleton events e ih =>
    unfold loadSequences at ih ⊢
    rw [List.map_append, List.foldlM_append, ih]
    have haggregate : e.modelDump.get? "aggregate_id" = some (.str e.aggregateId) := rfl
    have hsequence : e.modelDump.get? "sequence" = some (.int e.sequence) := rfl
    have hname : (orElse (some (.str e.aggregateId)) (.str "")).toText = e.aggregateId := by
      unfold orElse
      by_cases hempty : e.aggregateId = ""
      · simp [hempty, Value.truthy, Value.toText]
      · simp [hempty, Value.truthy, Value.toText]
    have hnumber : (orElse (some (.int e.sequence)) (.int 0)).toInt = .ok (e.sequence : Int) := by
      unfold orElse
      by_cases hzero : e.sequence = 0
      · simp [hzero, Value.truthy, Value.toInt]
      · simp [hzero, Value.truthy, Value.toInt]
    simp only [List.map_singleton, List.foldlM_cons, List.foldlM_nil, haggregate, hsequence, hname,
      hnumber, bind, Except.bind, pure, Except.pure, Int.toNat_natCast]
    refine congrArg Except.ok (funext fun a => ?_)
    unfold loadedCache
    rw [sequencesOf_append]
    by_cases hempty : e.aggregateId = ""
    · rw [if_pos hempty]
      by_cases ha : a = ""
      · rw [if_pos ha, if_pos ha]
      · have hne : e.aggregateId ≠ a := fun h => ha (h.symm.trans hempty)
        rw [if_neg ha, if_neg ha, if_neg hne, List.append_nil]
    · rw [if_neg hempty]
      unfold Cache.set
      by_cases ha : a = e.aggregateId
      · subst ha
        simp [hempty]
      · rw [if_neg ha, if_neg (Ne.symm ha), List.append_nil]

theorem eventExists_events {events : List DomainEvent} {eventId : String} :
    eventExists (events.map DomainEvent.modelDump) eventId = true ↔
      ∃ e ∈ events, e.eventId = eventId := by
  unfold eventExists
  rw [List.any_map, List.any_eq_true]
  refine exists_congr fun e => and_congr_right fun _ => ?_
  have hid : e.modelDump.get? "event_id" = some (.str e.eventId) := rfl
  simp [hid]

/-- What `append_domain_event` does to a log of events: it loads the cache if
there is none, refuses an id that is there, and otherwise stores the event with
the number after the cached one. -/
theorem appendDomainEvent_spec (sep : Linesep) (store : EventStore) {events : List DomainEvent}
    (hlog : Stores store.log events) (call : AppendCall) :
    let cache := store.cache.getD (loadedCache events)
    let event := call.event (cache call.aggregateId + 1)
    ((∃ e ∈ events, e.eventId = call.eventId) ∧
        appendDomainEvent sep store call = (.error .value, ⟨store.log, some cache⟩)) ∨
      ((∀ e ∈ events, e.eventId ≠ call.eventId) ∧ ∃ log, Stores log (events ++ [event]) ∧
        appendDomainEvent sep store call =
          (.ok event, ⟨log, some (cache.set call.aggregateId event.sequence)⟩)) := by
  intro cache event
  have hstep : appendDomainEvent sep store call =
      store.append sep cache call (cache call.aggregateId + 1) := by
    unfold appendDomainEvent
    cases hcache : store.cache with
    | some c => simp [cache, hcache]
    | none => simp [cache, hcache, hlog.rows, loadSequences_events]
  rw [hstep]
  unfold EventStore.append
  by_cases hdup : ∃ e ∈ events, e.eventId = call.eventId
  · have hexists := eventExists_events.mpr hdup
    rw [← hlog.rows] at hexists
    exact .inl ⟨hdup, if_pos hexists⟩
  · have hfresh : ¬ eventExists store.log.rows
        (call.event (cache call.aggregateId + 1)).eventId = true := by
      rw [hlog.rows, eventExists_events]
      exact hdup
    refine .inr ⟨fun e he h => hdup ⟨e, he, h⟩, store.log.append sep event.modelDump
      (call.event_wf _), hlog.append sep _ (Nat.le_add_left 1 _), ?_⟩
    dsimp only
    rw [if_neg hfresh, if_neg (by simp [AppendCall.event])]
    rfl

end Sre
