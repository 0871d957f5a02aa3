import NetworkRecovery.Sre.EventStore
import NetworkRecovery.Lib.Reactive
import Mathlib.Data.List.Sort

/-!
# The incident aggregate

`platform_core/sre/incident_aggregate.py` and `projector.py`. An incident is
what its events say: a command appends an event, and the state is rebuilt by
folding all events of the aggregate, in the order of their numbers, into an
`IncidentProjection`.

Of a projection, `Lifecycle` is the phase and the time of resolution, and the
fold moves it by the type and the time of each event alone
(`rebuildIncident_lifecycle`). Some commands ask for the phase first; attempting
a mitigation and marking a false positive do not, and resolving asks only
whether the phase is RESOLVED. As long as those are left alone in a terminal
phase, a terminal phase is final (`terminal_final`).
-/

namespace Sre

open Python Platform Reactive

/-! ## Projections -/

/-- `IncidentPhase`. -/
inductive IncidentPhase where
  | detected
  | acknowledged
  | investigating
  | rootCauseIdentified
  | mitigating
  | resolved
  | falsePositive
  deriving DecidableEq

/-- `IncidentProjection`. The fields that are assigned from a payload without a
conversion hold any value. -/
structure IncidentProjection where
  incidentId : String
  endpointId : String
  phase : IncidentPhase := .detected
  title : String := ""
  severity : Value := .str "medium"
  detectedAt : String := ""
  acknowledgedAt : Option String := none
  investigationStartedAt : Option String := none
  rootCauseIdentifiedAt : Option String := none
  resolvedAt : Option String := none
  acceptedHypothesis : Option String := none
  rootCauseSummary : Option String := none
  evidenceEventIds : List String := []
  decisionRunIds : List String := []
  statePath : List Value := []
  limitations : List Value := []
  eventCount : Nat := 0
  lastSequence : Nat := 0

/-- `list(v)`. -/
def Value.toList : Value → Except PyError (List Value)
  | .list xs => .ok xs
  | .str s => .ok (s.toList.map fun c => .str (.ofList [c]))
  | .dict kvs => .ok (kvs.map fun e => .str e.1)
  | .none | .bool _ | .int _ | .float _ => .error .type

/-- `str(payload.get(key) or old or "")`. -/
def textOr (payload : Dict) (key : String) (old : Option String) : String :=
  (orElse (payload.get? key) (.str (old.getD ""))).toText

/-- Add `str(v)` to a list of strings, unless `v` is in it. -/
def addText (texts : List String) (v : Value) : List String :=
  match v with
  | .str s => if s ∈ texts then texts else texts ++ [s]
  | v => texts ++ [v.toText]

/-- A run id is added if it is not empty and not there. -/
def addRunId (runIds : List String) (payload : Dict) : List String :=
  match payload.get? "run_id" with
  | some v => if v.truthy then addText runIds v else runIds
  | none => runIds

/-- `Projector.apply`. -/
def Projector.apply (event : DomainEvent) (state : IncidentProjection) :
    Except PyError IncidentProjection := do
  let state := { state with
    eventCount := state.eventCount + 1
    lastSequence := event.sequence }
  match event.eventType with
  | .incidentDetected =>
    let title := if state.title.isEmpty then "Endpoint incident" else state.title
    let limitations ← Value.toList (orElse (event.payload.get? "limitations") (.list state.limitations))
    return { state with
      phase := .detected
      detectedAt := event.timestampUtc
      title := (orElse (event.payload.get? "title") (.str title)).toText
      severity := orElse (event.payload.get? "severity") state.severity
      endpointId := textOr event.payload "endpoint_id" (some state.endpointId)
      limitations := limitations }
  | .incidentAcknowledged =>
    return { state with phase := .acknowledged, acknowledgedAt := some event.timestampUtc }
  | .incidentInvestigationStarted =>
    return { state with phase := .investigating, investigationStartedAt := some event.timestampUtc }
  | .incidentHypothesisRanked =>
    let path ← Value.toList (orElse (event.payload.get? "state_path") (.list state.statePath))
    let ids ← Value.toList (orElse (event.payload.get? "event_ids") (.list []))
    return { state with
      acceptedHypothesis := some (textOr event.payload "accepted_hypothesis" state.acceptedHypothesis)
      decisionRunIds := addRunId state.decisionRunIds event.payload
      statePath := path
      evidenceEventIds := ids.foldl addText state.evidenceEventIds }
  | .incidentRootCauseIdentified =>
    return { state with
      phase := .rootCauseIdentified
      rootCauseIdentifiedAt := some event.timestampUtc
      rootCauseSummary := some (textOr event.payload "root_cause_summary" state.rootCauseSummary)
      acceptedHypothesis := some (textOr event.payload "accepted_hypothesis" state.acceptedHypothesis) }
  | .incidentMitigationAttempted => return { state with phase := .mitigating }
  | .incidentResolved =>
    return { state with phase := .resolved, resolvedAt := some event.timestampUtc }
  | .incidentFalsePositive =>
    return { state with
      phase := .falsePositive
      resolvedAt := some event.timestampUtc
      limitations := state.limitations ++
        [.str "Classified false positive — root cause not established."] }
  | .decisionRecorded =>
    return { state with decisionRunIds := addRunId state.decisionRunIds event.payload }
  | _ => return state

/-- `sorted(events, key=lambda e: e.sequence)`. -/
def sortBySequence (events : List DomainEvent) : List DomainEvent :=
  events.insertionSort fun a b => a.sequence ≤ b.sequence

/-- `Projector.fold`. -/
def Projector.fold (events : List DomainEvent) (incidentId endpointId : String) :
    Except PyError IncidentProjection :=
  (sortBySequence events).foldlM (fun state event => Projector.apply event state)
    { incidentId := incidentId, endpointId := endpointId }

/-- `load_aggregate_events`: at most the first hundred thousand. -/
def loadAggregateEvents (log : JsonlFile) (aggregateId : String) : List DomainEvent :=
  sortBySequence (((storedEvents log).filter fun e =>
    aggregateId.isEmpty || e.aggregateId = aggregateId).take 100000)

/-- `rebuild_incident`. -/
def rebuildIncident (log : JsonlFile) (incidentId : String) : Except PyError IncidentProjection :=
  match loadAggregateEvents log incidentId with
  | [] => .ok { incidentId := incidentId, endpointId := "" }
  | first :: rest =>
    Projector.fold (first :: rest) incidentId
      (orElse (first.payload.get? "endpoint_id") (.str "")).toText

/-! ## Commands -/

/-- What a new event draws: `new_id` and the clock. -/
structure Draw where
  eventId : String
  timestampUtc : String

/-- The commands of `IncidentAggregate`. -/
inductive Command where
  | acknowledge (actor : String)
  | startInvestigation (actor : String)
  | recordHypothesisRanking (runId acceptedHypothesis : String) (statePath eventIds : List String)
      (policyOutcome : String) (causationId : Option String)
  | identifyRootCause (rootCauseSummary acceptedHypothesis confidenceTier : String)
      (evidenceEventIds limitations : List String) (actor : String)
  | attemptMitigation (action outcome actor : String)
  | resolve (resolution actor : String)
  | markFalsePositive (reason actor : String)

/-- The limitations of a root cause that smells of malware without proof. -/
def rootCauseLimitations (acceptedHypothesis confidenceTier : String) (limitations : List String) :
    List String :=
  if confidenceTier ≠ "proven" ∧ confidenceTier ≠ "contrast_tested" ∧
      contains "malware".toList (lower acceptedHypothesis.toList) then
    limitations ++
      ["Malware-class hypothesis without proof tier — statement is investigative, not conviction."]
  else limitations

/-- The phases from which a command is taken; `none` where it does not ask. -/
def Command.admits : Command → Option (IncidentPhase → Bool)
  | .acknowledge _ => some (· = .detected)
  | .startInvestigation _ => some fun phase => phase = .detected || phase = .acknowledged
  | .recordHypothesisRanking .. => none
  | .identifyRootCause .. => some fun phase =>
    phase = .investigating || phase = .rootCauseIdentified
  | .attemptMitigation .. => none
  | .resolve .. => some (· ≠ .resolved)
  | .markFalsePositive .. => none

def Command.eventType : Command → DomainEventType
  | .acknowledge _ => .incidentAcknowledged
  | .startInvestigation _ => .incidentInvestigationStarted
  | .recordHypothesisRanking .. => .incidentHypothesisRanked
  | .identifyRootCause .. => .incidentRootCauseIdentified
  | .attemptMitigation .. => .incidentMitigationAttempted
  | .resolve .. => .incidentResolved
  | .markFalsePositive .. => .incidentFalsePositive

def Command.payload : Command → Dict
  | .acknowledge actor | .startInvestigation actor => [("actor", .str actor)]
  | .recordHypothesisRanking runId acceptedHypothesis statePath eventIds policyOutcome _ =>
    [("run_id", .str runId), ("accepted_hypothesis", .str acceptedHypothesis),
      ("state_path", textList statePath), ("event_ids", textList eventIds),
      ("policy_outcome", .str policyOutcome)]
  | .identifyRootCause summary acceptedHypothesis confidenceTier evidenceEventIds limitations _ =>
    [("root_cause_summary", .str summary), ("accepted_hypothesis", .str acceptedHypothesis),
      ("confidence_tier", .str confidenceTier), ("evidence_event_ids", textList evidenceEventIds),
      ("limitations",
        textList (rootCauseLimitations acceptedHypothesis confidenceTier limitations))]
  | .attemptMitigation action outcome actor =>
    [("action", .str action), ("outcome", .str outcome), ("actor", .str actor)]
  | .resolve resolution actor => [("resolution", .str resolution), ("actor", .str actor)]
  | .markFalsePositive reason actor => [("reason", .str reason), ("actor", .str actor)]

def Command.actor : Command → String
  | .acknowledge actor | .startInvestigation actor | .identifyRootCause _ _ _ _ _ actor
  | .attemptMitigation _ _ actor | .resolve _ actor | .markFalsePositive _ actor => actor
  | .recordHypothesisRanking .. => "system"

def Command.failureDomain : Command → Option FailureDomain
  | .startInvestigation _ | .identifyRootCause .. => some .investigation
  | .recordHypothesisRanking .. => some .hypothesisEngine
  | .attemptMitigation .. => some .remediation
  | .acknowledge _ | .resolve .. | .markFalsePositive .. => none

def Command.causationId : Command → Option String
  | .recordHypothesisRanking _ _ _ _ _ causationId => causationId
  | _ => none

theorem Command.payload_wf (command : Command) : (Value.dict command.payload).WF := by
  cases command with
  | recordHypothesisRanking =>
    exact ⟨by simp [payload, Dict.keys], trivial, trivial, textList_wf _, textList_wf _, trivial,
      trivial⟩
  | identifyRootCause =>
    exact ⟨by simp [payload, Dict.keys], trivial, trivial, trivial, textList_wf _, textList_wf _,
      trivial⟩
  | attemptMitigation => exact ⟨by simp [payload, Dict.keys], trivial, trivial, trivial, trivial⟩
  | resolve | markFalsePositive => exact ⟨by simp [payload, Dict.keys], trivial, trivial, trivial⟩
  | acknowledge | startInvestigation => exact ⟨by simp [payload, Dict.keys], trivial, trivial⟩

/-- `_append`, for a command. -/
def Command.call (command : Command) (incidentId : String) (draw : Draw) : AppendCall where
  aggregateId := incidentId
  eventType := command.eventType
  correlationId := incidentId
  payload := command.payload
  payloadWF := command.payload_wf
  causationId := command.causationId
  failureDomain := command.failureDomain
  actor := command.actor
  eventId := draw.eventId
  timestampUtc := draw.timestampUtc

/-- A command on an incident: the event it appends, or the error it raises. -/
def Command.perform (sep : Linesep) (incidentId : String) (store : EventStore) (command : Command)
    (draw : Draw) : Except PyError DomainEvent × EventStore :=
  let taken : Except PyError Bool := match command.admits with
    | none => .ok true
    | some admits => (rebuildIncident store.log incidentId).map fun proj => admits proj.phase
  match taken with
  | .error e => (.error e, store)
  | .ok false => (.error .value, store)
  | .ok true => appendDomainEvent sep store (command.call incidentId draw)

/-- The arguments of `IncidentAggregate.open`. -/
structure Opening where
  endpointId : String
  title : String
  severity : String := "medium"
  triggerEventIds : List String := []
  limitations : List String := []

def Opening.payload (opening : Opening) : Dict :=
  [("endpoint_id", .str opening.endpointId), ("title", .str opening.title),
    ("severity", .str opening.severity), ("trigger_event_ids", textList opening.triggerEventIds),
    ("limitations", textList (if opening.limitations = [] then
      ["Observation != Proof; incident opened on correlated signals only."]
      else opening.limitations))]

/-- The event `IncidentAggregate.open` appends under a new incident id. -/
def Opening.call (opening : Opening) (incidentId : String) (draw : Draw) : AppendCall where
  aggregateId := incidentId
  eventType := .incidentDetected
  correlationId := incidentId
  payload := opening.payload
  payloadWF := ⟨by simp [payload, Dict.keys], trivial, trivial, trivial, textList_wf _,
    textList_wf _, trivial⟩
  failureDomain := some .telemetryIngest
  eventId := draw.eventId
  timestampUtc := draw.timestampUtc

/-! ## The lifecycle -/

/-- The part of a projection that says where the incident stands. -/
structure Lifecycle where
  phase : IncidentPhase := .detected
  resolvedAt : Option String := none
  deriving DecidableEq

def IncidentProjection.lifecycle (proj : IncidentProjection) : Lifecycle :=
  ⟨proj.phase, proj.resolvedAt⟩

/-- What an event does to the lifecycle. -/
def Lifecycle.move (state : Lifecycle) (event : DomainEvent) : Lifecycle :=
  match event.eventType with
  | .incidentDetected => { state with phase := .detected }
  | .incidentAcknowledged => { state with phase := .acknowledged }
  | .incidentInvestigationStarted => { state with phase := .investigating }
  | .incidentRootCauseIdentified => { state with phase := .rootCauseIdentified }
  | .incidentMitigationAttempted => { state with phase := .mitigating }
  | .incidentResolved => ⟨.resolved, some event.timestampUtc⟩
  | .incidentFalsePositive => ⟨.falsePositive, some event.timestampUtc⟩
  | _ => state

/-- A payload whose lists are lists. -/
def Listed (payload : Dict) : Prop :=
  ∀ key ∈ ["limitations", "state_path", "event_ids"], ∀ v, payload.get? key = some v →
    ∃ xs, v = .list xs

theorem toList_of_listed {payload : Dict} (h : Listed payload) {key : String}
    (hkey : key ∈ ["limitations", "state_path", "event_ids"]) (xs : List Value) :
    ∃ ys, Value.toList (orElse (payload.get? key) (.list xs)) = .ok ys := by
  unfold orElse
  cases hget : payload.get? key with
  | none => exact ⟨xs, rfl⟩
  | some v =>
    obtain ⟨ys, rfl⟩ := h key hkey v hget
    dsimp only
    split
    · exact ⟨ys, rfl⟩
    · exact ⟨xs, rfl⟩

/-- `apply` returns and moves the lifecycle. -/
theorem Projector.apply_lifecycle {event : DomainEvent} (h : Listed event.payload)
    (state : IncidentProjection) :
    ∃ out, Projector.apply event state = .ok out ∧ out.lifecycle = state.lifecycle.move event := by
  unfold Projector.apply Lifecycle.move
  cases htype : event.eventType with
  | incidentDetected =>
    obtain ⟨ys, hys⟩ := toList_of_listed h (by simp : "limitations" ∈ _) state.limitations
    simp only [hys, bind, Except.bind, pure, Except.pure]
    exact ⟨_, rfl, rfl⟩
  | incidentHypothesisRanked =>
    obtain ⟨ys, hys⟩ := toList_of_listed h (by simp : "state_path" ∈ _) state.statePath
    obtain ⟨zs, hzs⟩ := toList_of_listed h (by simp : "event_ids" ∈ _) []
    simp only [hys, hzs, bind, Except.bind, pure, Except.pure]
    exact ⟨_, rfl, rfl⟩
  | _ => exact ⟨_, rfl, rfl⟩

theorem foldlM_lifecycle {events : List DomainEvent} (h : ∀ e ∈ events, Listed e.payload)
    (state : IncidentProjection) :
    ∃ out, events.foldlM (fun state event => Projector.apply event state) state = .ok out ∧
      out.lifecycle = events.foldl Lifecycle.move state.lifecycle := by
  induction events generalizing state with
  | nil => exact ⟨state, rfl, rfl⟩
  | cons e events ih =>
    obtain ⟨mid, hmid, hlife⟩ := Projector.apply_lifecycle (h e (by simp)) state
    obtain ⟨out, hout, hrest⟩ := ih (fun e' he' => h e' (List.mem_cons_of_mem _ he')) mid
    refine ⟨out, ?_, ?_⟩
    · rw [List.foldlM_cons, hmid]
      exact hout
    · rw [hrest, hlife, List.foldl_cons]

theorem sortBySequence_of_sorted {events : List DomainEvent}
    (h : events.Pairwise fun a b => a.sequence ≤ b.sequence) : sortBySequence events = events :=
  h.insertionSort_eq

/-! ## The log of an incident -/

/-- The events of an incident, in the order of the log. -/
def ownEvents (events : List DomainEvent) (incidentId : String) : List DomainEvent :=
  events.filter (·.aggregateId = incidentId)

/-- An open incident: its events in the log are numbered from one, the store
counts them, and their payloads are those of commands. -/
structure Tracked (store : EventStore) (incidentId : String) (events : List DomainEvent) : Prop where
  named : incidentId ≠ ""
  stored : Stores store.log events
  dense : (ownEvents events incidentId).map (·.sequence) =
    List.range' 1 (ownEvents events incidentId).length
  counted : ∃ cache, store.cache = some cache ∧
    cache incidentId = (ownEvents events incidentId).length
  listed : ∀ e ∈ ownEvents events incidentId, Listed e.payload

theorem pairwise_sequence_of_dense {events : List DomainEvent} {n : Nat}
    (h : events.map (·.sequence) = List.range' 1 n) :
    events.Pairwise fun a b => a.sequence ≤ b.sequence := by
  have hlt : (events.map (·.sequence)).Pairwise (· < ·) := h ▸ List.pairwise_lt_range'
  exact (List.pairwise_map.mp hlt).imp Nat.le_of_lt

theorem Tracked.loadAggregateEvents_eq {store : EventStore} {incidentId : String}
    {events : List DomainEvent} (h : Tracked store incidentId events) :
    loadAggregateEvents store.log incidentId = (ownEvents events incidentId).take 100000 := by
  have hfilter : (events.filter fun e => incidentId.isEmpty || decide (e.aggregateId = incidentId)) =
      ownEvents events incidentId := by
    refine List.filter_congr fun e _ => ?_
    have hempty : incidentId.isEmpty = false := by simp [h.named]
    rw [hempty, Bool.false_or]
  unfold loadAggregateEvents
  rw [h.stored.storedEvents_eq, hfilter]
  exact sortBySequence_of_sorted ((pairwise_sequence_of_dense h.dense).take)

/-- Where the events that are read have moved an incident. -/
def lifecycleOf (events : List DomainEvent) (incidentId : String) : Lifecycle :=
  ((ownEvents events incidentId).take 100000).foldl Lifecycle.move {}

/-- The rebuilt projection stands where the events have moved it. -/
theorem rebuildIncident_lifecycle {store : EventStore} {incidentId : String}
    {events : List DomainEvent} (h : Tracked store incidentId events) :
    ∃ proj, rebuildIncident store.log incidentId = .ok proj ∧
      proj.lifecycle = lifecycleOf events incidentId := by
  unfold rebuildIncident lifecycleOf
  rw [h.loadAggregateEvents_eq]
  have hsorted := sortBySequence_of_sorted ((pairwise_sequence_of_dense h.dense).take (i := 100000))
  have hlisted : ∀ e ∈ (ownEvents events incidentId).take 100000, Listed e.payload :=
    fun e he => h.listed e (List.mem_of_mem_take he)
  generalize (ownEvents events incidentId).take 100000 = own at hsorted hlisted
  cases own with
  | nil => exact ⟨_, rfl, rfl⟩
  | cons first rest =>
    dsimp only
    unfold Projector.fold
    rw [hsorted]
    exact foldlM_lifecycle hlisted _

theorem listed_of_textLists {payload : Dict}
    (h : ∀ entry ∈ payload, entry.1 ∈ ["limitations", "state_path", "event_ids"] →
      ∃ texts, entry.2 = textList texts) : Listed payload := by
  intro key hkey v hget
  obtain ⟨before, after, rfl, -⟩ := List.lookup_eq_some_iff.mp hget
  obtain ⟨texts, rfl⟩ := h (key, v) (by simp) hkey
  exact ⟨_, rfl⟩

theorem Command.payload_listed (command : Command) : Listed command.payload := by
  refine listed_of_textLists ?_
  cases command with
  | recordHypothesisRanking => simp [payload]
  | identifyRootCause => simp [payload]
  | _ => simp [payload]

theorem Opening.payload_listed (opening : Opening) : Listed opening.payload := by
  refine listed_of_textLists ?_
  simp [payload]

/-! ## Runs -/

/-- The store after an append of the incident's own. -/
theorem Tracked.append {store : EventStore} {incidentId : String} {events : List DomainEvent}
    (h : Tracked store incidentId events) (sep : Linesep) (call : AppendCall)
    (hid : call.aggregateId = incidentId) (hlisted : Listed call.payload) :
    Tracked (appendDomainEvent sep store call).2 incidentId events ∨
      ∃ n, Tracked (appendDomainEvent sep store call).2 incidentId (events ++ [call.event n]) := by
  obtain ⟨cache, hcache, hcount⟩ := h.counted
  have hspec := appendDomainEvent_spec sep store h.stored call
  simp only [hcache, Option.getD_some, hid, hcount] at hspec
  rcases hspec with ⟨-, hout⟩ | ⟨-, log, hlog, hout⟩
  · rw [hout]
    exact .inl ⟨h.named, h.stored, h.dense, ⟨cache, rfl, hcount⟩, h.listed⟩
  · refine .inr ⟨(ownEvents events incidentId).length + 1, ?_⟩
    rw [hout]
    have hown : ownEvents (events ++ [call.event ((ownEvents events incidentId).length + 1)])
        incidentId = ownEvents events incidentId ++
          [call.event ((ownEvents events incidentId).length + 1)] := by
      simp [ownEvents, AppendCall.event, hid]
    refine ⟨h.named, hlog, ?_, ⟨_, rfl, ?_⟩, ?_⟩
    · rw [hown, List.map_append, h.dense, List.length_append, List.length_singleton,
        List.range'_1_concat, Nat.add_comm 1]
      rfl
    · rw [hown, List.length_append, List.length_singleton]
      simp [Cache.set, AppendCall.event]
    · intro e he
      rw [hown] at he
      rcases List.mem_append.mp he with he | he
      · exact h.listed e he
      · rw [List.mem_singleton.mp he]
        exact hlisted

/-- One command of a run: the store it leaves, and what it returned or raised. -/
def commandStep (sep : Linesep) (incidentId : String) (store : EventStore)
    (input : Command × Draw) : EventStore × List (Except PyError DomainEvent) :=
  let done := input.1.perform sep incidentId store input.2
  (done.2, [done.1])

/-- A phase nothing should leave. -/
def IncidentPhase.terminal (phase : IncidentPhase) : Bool :=
  phase = .resolved || phase = .falsePositive

/-- The commands that are taken in a terminal phase although they leave it, or
set the time of resolution again. -/
def Command.unsettles : Command → IncidentPhase → Bool
  | .attemptMitigation .., phase | .markFalsePositive .., phase => phase.terminal
  | .resolve .., phase => phase = .falsePositive
  | _, _ => false

/-- A command that leaves a terminal phase alone. -/
def Settled (incidentId : String) (store : EventStore) (input : Command × Draw) : Prop :=
  ∀ proj, rebuildIncident store.log incidentId = .ok proj → input.1.unsettles proj.phase = false

/-- A terminal phase stays, and the time of resolution with it. -/
def Lifecycle.Keeps (before after : Lifecycle) : Prop :=
  before.phase.terminal = true → after = before

theorem Lifecycle.Keeps.trans {a b c : Lifecycle} (hab : a.Keeps b) (hbc : b.Keeps c) :
    a.Keeps c := by
  intro ha
  have hb := hab ha
  subst hb
  exact hbc ha

/-- The event of a command that is taken and leaves a terminal phase alone. -/
theorem Lifecycle.keeps_move {state : Lifecycle} {command : Command} {event : DomainEvent}
    (htype : event.eventType = command.eventType)
    (hadmits : ∀ admits, command.admits = some admits → admits state.phase = true)
    (hcalm : command.unsettles state.phase = false) : state.Keeps (state.move event) := by
  intro hterminal
  unfold Lifecycle.move
  rw [htype]
  cases command with
  | recordHypothesisRanking => rfl
  | attemptMitigation | markFalsePositive =>
    rw [Command.unsettles, hterminal] at hcalm
    cases hcalm
  | acknowledge | startInvestigation | identifyRootCause | resolve =>
    have htaken := hadmits _ rfl
    cases hphase : state.phase <;> simp_all [IncidentPhase.terminal, Command.unsettles]

theorem lifecycleOf_append (events : List DomainEvent) {incidentId : String} {event : DomainEvent}
    (hid : event.aggregateId = incidentId) :
    lifecycleOf (events ++ [event]) incidentId = lifecycleOf events incidentId ∨
      lifecycleOf (events ++ [event]) incidentId = (lifecycleOf events incidentId).move event := by
  have hown : ownEvents (events ++ [event]) incidentId = ownEvents events incidentId ++ [event] := by
    simp [ownEvents, hid]
  unfold lifecycleOf
  rw [hown, List.take_append, List.foldl_append]
  by_cases hfull : 100000 ≤ (ownEvents events incidentId).length
  · rw [Nat.sub_eq_zero_of_le hfull]
    exact .inl rfl
  · have hroom : [event].length ≤ 100000 - (ownEvents events incidentId).length := by
      rw [List.length_singleton]
      omega
    rw [List.take_of_length_le hroom]
    exact .inr rfl

/-- A command that leaves a terminal phase alone keeps it. -/
theorem commandStep_keeps (sep : Linesep) {store : EventStore} {incidentId : String}
    {events : List DomainEvent} (h : Tracked store incidentId events) {input : Command × Draw}
    (hcalm : Settled incidentId store input) :
    ∃ events', Tracked (commandStep sep incidentId store input).1 incidentId events' ∧
      (lifecycleOf events incidentId).Keeps (lifecycleOf events' incidentId) := by
  obtain ⟨command, draw⟩ := input
  obtain ⟨proj, hproj, hlife⟩ := rebuildIncident_lifecycle h
  have hphase : proj.phase = (lifecycleOf events incidentId).phase := congrArg Lifecycle.phase hlife
  have hcalm' := hcalm proj hproj
  rw [hphase] at hcalm'
  -- a command that is not taken leaves everything as it is
  have hsame : ∃ events', Tracked store incidentId events' ∧
      (lifecycleOf events incidentId).Keeps (lifecycleOf events' incidentId) :=
    ⟨events, h, fun _ => rfl⟩
  have htaken (hadmits : ∀ admits, command.admits = some admits →
      admits (lifecycleOf events incidentId).phase = true) :
      ∃ events', Tracked (appendDomainEvent sep store (command.call incidentId draw)).2 incidentId
          events' ∧ (lifecycleOf events incidentId).Keeps (lifecycleOf events' incidentId) := by
    rcases h.append sep (command.call incidentId draw) rfl command.payload_listed with
      hnext | ⟨n, hnext⟩
    · exact ⟨events, hnext, fun _ => rfl⟩
    · refine ⟨_, hnext, ?_⟩
      have hid : ((command.call incidentId draw).event n).aggregateId = incidentId := rfl
      rcases lifecycleOf_append events hid with heq | heq
      · rw [heq]
        exact fun _ => rfl
      · rw [heq]
        exact Lifecycle.keeps_move rfl hadmits hcalm'
  unfold commandStep Command.perform
  cases hadmits : command.admits with
  | none => exact htaken fun admits h => absurd (hadmits.symm.trans h) (by simp)
  | some admits =>
    simp only [hproj, Except.map, hphase]
    cases hok : admits (lifecycleOf events incidentId).phase with
    | false => exact hsame
    | true =>
      refine htaken fun admits' h => ?_
      obtain rfl := Option.some.inj (hadmits.symm.trans h)
      exact hok

theorem run_keeps (sep : Linesep) {incidentId : String} {commands : List (Command × Draw)} :
    ∀ {store : EventStore} {events : List DomainEvent}, Tracked store incidentId events →
      Admitted (commandStep sep incidentId) (Settled incidentId) store commands →
      ∃ events', Tracked (run (commandStep sep incidentId) store commands).1 incidentId events' ∧
        (lifecycleOf events incidentId).Keeps (lifecycleOf events' incidentId) := by
  induction commands with
  | nil => exact fun {store events} h _ => ⟨events, h, fun _ => rfl⟩
  | cons input commands ih =>
    intro store events h hadm
    obtain ⟨mid, hmid, hkeep⟩ := commandStep_keeps sep h hadm.1
    obtain ⟨events', hevents', hrest⟩ := ih hmid hadm.2
    exact ⟨events', hevents', hkeep.trans hrest⟩

/-! ## From the opening on -/

/-- A store that has not heard of an incident. -/
structure Unknown (store : EventStore) (incidentId : String) : Prop where
  named : incidentId ≠ ""
  stored : ∃ events, Stores store.log events ∧ ∀ e ∈ events, e.aggregateId ≠ incidentId
  uncounted : ∀ cache, store.cache = some cache → cache incidentId = 0

theorem tracked_of_open (sep : Linesep) {store : EventStore} {incidentId : String}
    (h : Unknown store incidentId) {opening : Opening} {draw : Draw} {event : DomainEvent}
    (hopen : (appendDomainEvent sep store (opening.call incidentId draw)).1 = .ok event) :
    ∃ events, Tracked (appendDomainEvent sep store (opening.call incidentId draw)).2 incidentId
      events := by
  obtain ⟨events, hstored, hnone⟩ := h.stored
  have hown : ownEvents events incidentId = [] :=
    List.filter_eq_nil_iff.mpr fun e he => by simpa using hnone e he
  have hcount : (store.cache.getD (loadedCache events)) incidentId = 0 := by
    cases hcache : store.cache with
    | some cache => exact h.uncounted cache hcache
    | none =>
      have hsequences : sequencesOf events incidentId = [] := congrArg (List.map _) hown
      simp [loadedCache, hsequences]
  have hid : (opening.call incidentId draw).aggregateId = incidentId := rfl
  have hspec := appendDomainEvent_spec sep store hstored (opening.call incidentId draw)
  simp only [hid, hcount] at hspec
  rcases hspec with ⟨-, hout⟩ | ⟨-, log, hlog, hout⟩
  · rw [hout] at hopen
    cases hopen
  · have hopened : ownEvents (events ++ [(opening.call incidentId draw).event 1]) incidentId =
        [(opening.call incidentId draw).event 1] := by
      have hown' := hown
      unfold ownEvents at hown' ⊢
      rw [List.filter_append, hown']
      simp [AppendCall.event, hid]
    rw [hout]
    refine ⟨_, h.named, hlog, ?_, ⟨_, rfl, ?_⟩, ?_⟩
    · rw [hopened]
      rfl
    · rw [hopened]
      simp [Cache.set, AppendCall.event]
    · rw [hopened]
      intro e he
      rw [List.mem_singleton.mp he]
      exact opening.payload_listed

/-- At every point of a run the projection can be rebuilt, and a terminal phase
of it, with its time of resolution, is that of the end. -/
def TerminalFinal (sep : Linesep) (incidentId : String) (opened : EventStore)
    (commands : List (Command × Draw)) : Prop :=
  ∀ before after, commands = before ++ after → ∃ proj last,
    rebuildIncident (run (commandStep sep incidentId) opened before).1.log incidentId = .ok proj ∧
      rebuildIncident (run (commandStep sep incidentId) opened commands).1.log incidentId =
        .ok last ∧
      proj.lifecycle.Keeps last.lifecycle

/-- From the opening of an incident on, and as long as no mitigation is attempted
and no false positive marked in a terminal phase and a false positive is not
resolved, a terminal phase is final. -/
theorem terminal_final (sep : Linesep) {store : EventStore} {incidentId : String}
    (hunknown : Unknown store incidentId) {opening : Opening} {draw : Draw} {event : DomainEvent}
    (hopen : (appendDomainEvent sep store (opening.call incidentId draw)).1 = .ok event)
    {commands : List (Command × Draw)}
    (hsettled : Admitted (commandStep sep incidentId) (Settled incidentId)
      (appendDomainEvent sep store (opening.call incidentId draw)).2 commands) :
    TerminalFinal sep incidentId (appendDomainEvent sep store (opening.call incidentId draw)).2
      commands := by
  intro before after hsplit
  subst hsplit
  obtain ⟨hbefore, hafter⟩ := hsettled.append
  obtain ⟨events, hevents⟩ := tracked_of_open sep hunknown hopen
  obtain ⟨mid, hmid, -⟩ := run_keeps sep hevents hbefore
  obtain ⟨final, hfinal, hkeeps⟩ := run_keeps sep hmid hafter
  obtain ⟨proj, hproj, hlife⟩ := rebuildIncident_lifecycle hmid
  obtain ⟨last, hlast, hlastlife⟩ := rebuildIncident_lifecycle hfinal
  refine ⟨proj, last, hproj, ?_, ?_⟩
  · rw [run_append]
    exact hlast
  · rw [hlife, hlastlife]
    exact hkeeps

theorem unknown_absent {incidentId : String} (h : incidentId ≠ "") :
    Unknown { log := .absent } incidentId where
  named := h
  stored := ⟨[], ⟨rfl, by simp⟩, by simp⟩
  uncounted := by
    intro cache hcache
    cases hcache

/-- What the log of a store says of an incident. -/
def lifecycle? (store : EventStore) (incidentId : String) : Option Lifecycle :=
  (rebuildIncident store.log incidentId).toOption.map (·.lifecycle)

theorem lifecycle?_of_ok {store : EventStore} {incidentId : String} {proj : IncidentProjection}
    (h : rebuildIncident store.log incidentId = .ok proj) :
    lifecycle? store incidentId = some proj.lifecycle := by
  unfold lifecycle?
  rw [h]
  rfl

/-- An incident that is opened in an empty log. -/
def opening : Opening := { endpointId := "pc-1", title := "Proxy drift" }

def openingDraw : Draw := ⟨"devt-0", "2026-01-01T00:00:00+00:00"⟩

/-- It is acknowledged and resolved, and then acknowledged again, which fails. -/
theorem terminal_final_resolved :
    let opened := (appendDomainEvent .lf { log := .absent } (opening.call "inc-1" openingDraw)).2
    TerminalFinal .lf "inc-1" opened
      [(.acknowledge "operator", ⟨"devt-1", "2026-01-01T00:01:00+00:00"⟩),
        (.resolve "fixed" "operator", ⟨"devt-2", "2026-01-01T00:02:00+00:00"⟩),
        (.acknowledge "operator", ⟨"devt-3", "2026-01-01T00:03:00+00:00"⟩)] := by
  intro opened
  refine terminal_final .lf (unknown_absent (by decide)) rfl ⟨?_, ?_, ?_, trivial⟩
  · exact fun proj _ => rfl
  · intro proj hproj
    have hacknowledged : lifecycle? (commandStep .lf "inc-1" opened
        (.acknowledge "operator", ⟨"devt-1", "2026-01-01T00:01:00+00:00"⟩)).1 "inc-1" =
        some ⟨.acknowledged, none⟩ := by decide +kernel
    rw [lifecycle?_of_ok hproj] at hacknowledged
    rw [show proj.phase = .acknowledged from
      congrArg Lifecycle.phase (Option.some.inj hacknowledged)]
    rfl
  · exact fun proj _ => rfl

/-- A mitigation is attempted after the resolution. -/
theorem resolved_reopened :
    ¬ ∀ (sep : Linesep) (store : EventStore) (incidentId : String) (opening : Opening)
      (draw : Draw) (event : DomainEvent) (commands : List (Command × Draw)),
      Unknown store incidentId →
      (appendDomainEvent sep store (opening.call incidentId draw)).1 = .ok event →
      TerminalFinal sep incidentId (appendDomainEvent sep store (opening.call incidentId draw)).2
        commands := by
  intro h
  have hfinal := h .lf { log := .absent } "inc-1" opening openingDraw _
    [(.resolve "fixed" "operator", ⟨"devt-1", "2026-01-01T00:01:00+00:00"⟩),
      (.attemptMitigation "restart" "failed" "operator", ⟨"devt-2", "2026-01-01T00:02:00+00:00"⟩)]
    (unknown_absent (by decide)) rfl
  obtain ⟨proj, last, hproj, hlast, hkeeps⟩ :=
    hfinal [(.resolve "fixed" "operator", ⟨"devt-1", "2026-01-01T00:01:00+00:00"⟩)] [_] rfl
  have hresolved : some proj.lifecycle = some ⟨.resolved, some "2026-01-01T00:01:00+00:00"⟩ := by
    rw [← lifecycle?_of_ok hproj]
    decide +kernel
  have hreopened : some last.lifecycle =
      some ⟨.mitigating, some "2026-01-01T00:01:00+00:00"⟩ := by
    rw [← lifecycle?_of_ok hlast]
    decide +kernel
  rw [Option.some.inj hresolved, Option.some.inj hreopened] at hkeeps
  exact absurd (hkeeps rfl) (by decide)

end Sre
