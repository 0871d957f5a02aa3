import Mathlib.Data.List.MinMax
import NetworkRecovery.Backend.EvidenceService
import NetworkRecovery.Lib.HighWater
import NetworkRecovery.Platform.Storage
import NetworkRecovery.Python.Float

/-!
# The classifier worker

`run_classification_job` of `classifier_worker.py` over `repositories.py`. A run
reads the evidence row, asks the pipeline for an incident, and prepares the rows
of the incident and a row of the audit chain in one transaction; before it commits
it appends a row to a mirror file and some events to the event log, which no
rollback takes back.

Runs are sessions of the database that move one part at a time, in any order, and
each may fail anywhere before its commit. What a session has prepared nobody else
sees before that, but for the unique ids: an insert waits while another
session has the same id to commit. The pipeline is what it is in each run; nothing
is assumed of it.
-/

namespace Backend

open Python Audit Platform

/-! ## Tables -/

/-- `ClassificationStatus`. -/
inductive ClassificationStatus where
  | pending
  | classified
  | reviewRequired
  | rejected
  | quarantined
  deriving DecidableEq

def ClassificationStatus.value : ClassificationStatus → String
  | .pending => "pending"
  | .classified => "classified"
  | .reviewRequired => "review_required"
  | .rejected => "rejected"
  | .quarantined => "quarantined"

/-- A dictionary without a key twice. -/
abbrev JsonDict := {d : Dict // (Value.dict d).WF}

/-- The list in a column. -/
abbrev JsonList := {xs : List Value // ListWF xs}

structure IncidentRecord where
  incidentId : String
  evidenceEventId : String
  endpointId : String
  primaryClassification : String
  secondarySignals : JsonList
  proofTier : String
  confidence : FloatVal
  limitations : JsonList

structure ControlTestResult where
  incidentId : String
  controlId : String
  testResult : String
  evidence : JsonList
  limitations : JsonList

structure PolicyDecision where
  incidentId : String
  action : String
  outcome : String
  dryRun : Bool

structure HumanReviewItem where
  reviewId : String
  incidentId : String
  evidenceId : String
  classification : String
  status : String
  reason : String

structure AuditChainEntry where
  rowIndex : Nat
  prevHash : String
  rowHash : String
  payload : Dict

/-- What has been committed. -/
structure RiskDb where
  evidence : EvidenceTable
  incidents : List IncidentRecord
  controls : List ControlTestResult
  policies : List PolicyDecision
  reviews : List HumanReviewItem
  chain : List AuditChainEntry

/-- The row of an event, with another status and some more limitations: `mark_evidence_status`,
and with a reason `quarantine_evidence`. -/
def EvidenceTable.mark (table : EvidenceTable) (eventId status : String) (reasons : List String) :
    EvidenceTable where
  rows := table.rows.map fun row =>
    if row.eventId = eventId then
      { row with classificationStatus := status, limitations := row.limitations ++ reasons }
    else row
  distinct := by
    refine List.pairwise_map.mpr (table.distinct.imp fun {a b} h => ?_)
    split <;> split <;> exact h

/-- The incident of an event, if there is one. -/
def incidentForEvidence (db : RiskDb) (eventId : String) : Option IncidentRecord :=
  db.incidents.find? fun i => i.evidenceEventId = eventId

/-- `incident_exists_for_evidence`. -/
def incidentExistsForEvidence (db : RiskDb) (eventId : String) : Bool :=
  (incidentForEvidence db eventId).isSome

/-! ## One run -/

/-- What the worker takes from the result of `run_endpoint_analytics_pipeline`. -/
structure Analytics where
  incidents : List JsonDict
  controlTests : List JsonDict
  policyDecisions : List Dict

/-- A run, with what it draws. The pipeline returns, or raises with a text. -/
structure Job where
  eventId : String
  pipeline : Dict → Except String Analytics
  /-- for an incident that has no id -/
  newIncidentId : String
  reviewId : String
  timestamp : String

/-- `_fixture_from_evidence`. -/
def fixtureFromEvidence (row : EvidenceEvent) : Dict :=
  if (row.rawSnapshot.get? "proxy_state").isSome then row.rawSnapshot
  else [("proxy_state", .dict row.rawSnapshot), ("endpoint_id", .str row.endpointId)]

/-- `REVIEW_CLASSES`. -/
def reviewClasses : List String :=
  ["UNKNOWN_LOCAL_PROXY", "SUSPICIOUS_PROXY", "SUSPICIOUS_LOCAL_PROXY", "POSSIBLE_MITM_RISK",
    "REVERTER_SUSPECTED"]

/-- The rows of a new incident; all of them bear its id. -/
structure Bundle where
  incident : IncidentRecord
  controls : List {c : ControlTestResult // c.incidentId = incident.incidentId}
  policy : {p : PolicyDecision // p.incidentId = incident.incidentId}
  review : Option {r : HumanReviewItem // r.incidentId = incident.incidentId}

/-- What `store_incident_bundle` returns: an incident that was there, or a new one. -/
inductive Stored where
  | existing (incident : IncidentRecord)
  | added (bundle : Bundle)

def Stored.incident : Stored → IncidentRecord
  | .existing incident => incident
  | .added bundle => bundle.incident

def Stored.bundle : Stored → Option Bundle
  | .existing _ => none
  | .added bundle => some bundle

theorem ListWF.strs (texts : List String) : ListWF (texts.map .str) := by
  induction texts with
  | nil => trivial
  | cons s texts ih => exact ⟨trivial, ih⟩

/-- The items of a well-formed value are well formed. -/
theorem items_wf {v : Value} {xs : List Value} (hv : v.WF) (h : v.items = .ok xs) : ListWF xs := by
  cases v with
  | list ys =>
    cases h
    exact hv
  | str s =>
    cases h
    have htexts := ListWF.strs (s.toList.map String.singleton)
    rwa [List.map_map] at htexts
  | dict kvs =>
    cases h
    have htexts := ListWF.strs (kvs.map Prod.fst)
    rwa [List.map_map] at htexts
  | none => cases h
  | bool b => cases h
  | int n => cases h
  | float x => cases h

theorem orElse_get?_wf (d : JsonDict) (k : String) :
    (orElse (Dict.get? d.1 k) (.list [])).WF :=
  orElse_wf (fun _ hw => d.2.2.get? hw) trivial

/-- `list(d.get(k) or [])`. -/
def listOf (d : JsonDict) (k : String) : Option JsonList :=
  match h : (orElse (Dict.get? d.1 k) (.list [])).items with
  | .ok xs => some ⟨xs, items_wf (orElse_get?_wf d k) h⟩
  | .error _ => none

/-- `str(d.get(k, default))`. -/
def textAt (d : Dict) (k default : String) : String := ((d.get? k).getD (.str default)).toText

/-- The id of an incident. Another value than a text fits no column. -/
def incidentIdOf (job : Job) (payload : Dict) : Option String :=
  match orElse (payload.get? "incident_id") (.str job.newIncidentId) with
  | .str s => some s
  | _ => none

/-- `str(cls).upper()`. -/
def primaryClassification (payload : Dict) : String :=
  let cls := match orElse (payload.get? "incident_class")
      (orElse (payload.get? "primary_classification") (.str "ERROR_INSUFFICIENT_DATA")) with
    | .dict cls => (Dict.get? cls "primary_classification").getD (.str "ERROR_INSUFFICIENT_DATA")
    | cls => cls
  .ofList (upper cls.toText.toList)

def controlRow (incidentId : String) (ct : JsonDict) :
    Option {c : ControlTestResult // c.incidentId = incidentId} := do
  let evidence ← listOf ct "evidence"
  let limitations ← listOf ct "limitations"
  return ⟨{
    incidentId
    controlId := textAt ct.1 "control_id" "CTRL-000"
    testResult := textAt ct.1 "test_result" "NOT_TESTED"
    evidence
    limitations }, rfl⟩

def policyRow (incidentId : String) (policy : Dict) :
    {p : PolicyDecision // p.incidentId = incidentId} :=
  ⟨{incidentId
    action := textAt policy "action" "OBSERVE"
    outcome := textAt policy "outcome" "PREVIEW_ONLY"
    dryRun := ((policy.get? "dry_run").getD (.bool true)).truthy }, rfl⟩

def reviewRow (job : Job) (incidentId classification : String) :
    Option {r : HumanReviewItem // r.incidentId = incidentId} :=
  if classification ∈ reviewClasses then some ⟨{
    reviewId := job.reviewId
    incidentId
    evidenceId := job.eventId
    classification
    status := "PENDING_REVIEW"
    reason := "Accusatory-adjacent classification requires human review." }, rfl⟩
  else none

section Run

variable (H : Digest) (ofText : String → Option FloatVal)

/-- The rows that `store_incident_bundle` inserts. -/
def bundleRows (job : Job) (endpointId incidentId : String) (payload : JsonDict)
    (controlTests : List JsonDict) (policy : Dict) : Option Bundle := do
  let secondarySignals ← listOf payload "secondary_signals"
  let confidence ← ((orElse (Dict.get? payload.1 "confidence")
    (.float (.ofScientific 5 (-1)))).toFloat ofText).toOption
  let limitations ← listOf payload "limitations"
  let controls ← controlTests.mapM (controlRow incidentId)
  return {
    incident := {
      incidentId
      evidenceEventId := job.eventId
      endpointId
      primaryClassification := primaryClassification payload.1
      secondarySignals
      proofTier := (orElse (Dict.get? payload.1 "proof_tier")
        (orElse (Dict.get? payload.1 "evidence_tier") (.str "T1_STATE_EVIDENCE"))).toText
      confidence
      limitations }
    controls
    policy := policyRow incidentId policy
    review := reviewRow job incidentId (primaryClassification payload.1) }

/-- `store_incident_bundle`. It raises where a column cannot be filled, and where the review
has an id that is taken. -/
def storeIncidentBundle (db : RiskDb) (job : Job) (endpointId : String) (payload : JsonDict)
    (controlTests : List JsonDict) (policy : Dict) : Option Stored :=
  match incidentForEvidence db job.eventId with
  | some existing => some (.existing existing)
  | none => do
    let incidentId ← incidentIdOf job payload.1
    match db.incidents.find? fun i => i.incidentId = incidentId with
    | some existing => return .existing existing
    | none =>
      let bundle ← bundleRows ofText job endpointId incidentId payload controlTests policy
      if bundle.review.isSome ∧ db.reviews.any fun r => r.reviewId = job.reviewId then none
      else return .added bundle

/-- The status after a classification. -/
def statusFor (primary : String) : ClassificationStatus :=
  if primary ∈ reviewClasses then .reviewRequired else .classified

theorem nodup_auditKeys : ["timestamp", "event_id", "incident_id", "classification", "dry_run",
    "limitations"].Nodup := by decide

/-- `audit_payload`. -/
def auditPayload (job : Job) (incident : IncidentRecord) : JsonDict :=
  ⟨[("timestamp", .str job.timestamp),
    ("event_id", .str job.eventId),
    ("incident_id", .str incident.incidentId),
    ("classification", .dict
      [("primary_classification", .str incident.primaryClassification)]),
    ("dry_run", .bool true),
    ("limitations", .list incident.limitations.1)],
    nodup_auditKeys, trivial, trivial, trivial, ⟨List.nodup_singleton _, trivial, trivial⟩, trivial,
      incident.limitations.2, trivial⟩

/-- `append_audit_chain_row`. -/
def auditChainEntry (chain : List AuditChainEntry) (payload : Dict) : AuditChainEntry :=
  let last := chain.argmax AuditChainEntry.rowIndex
  let prev := (last.map AuditChainEntry.rowHash).getD "genesis"
  { rowIndex := (last.map fun row => row.rowIndex + 1).getD 0
    prevHash := prev
    rowHash := H.hexdigest (encode (prev.toList ++ ':' :: dumpsSorted (.dict payload)))
    payload }

end Run

/-! ## Events -/

inductive TriskEventType where
  | incidentDetected
  | riskClassified
  | controlTestCompleted

def TriskEventType.value : TriskEventType → String
  | .incidentDetected => "IncidentDetected"
  | .riskClassified => "RiskClassified"
  | .controlTestCompleted => "ControlTestCompleted"

/-- The arguments of `emit_trisk_event`. -/
structure EventCall where
  eventType : TriskEventType
  aggregateId : String
  aggregateType : String
  correlationId : String
  payload : Dict
  limitations : List Value

structure TriskDomainEvent where
  eventType : TriskEventType
  aggregateId : String
  aggregateType : String
  sequence : Nat
  actor : String
  correlationId : String
  payload : Dict
  limitations : List Value

/-- `TriskEventStore.next_sequence`. -/
def nextSequence (log : List TriskDomainEvent) (aggregateId : String) : Nat :=
  highWater 0 ((log.filter fun e => e.aggregateId = aggregateId).map TriskDomainEvent.sequence) + 1

/-- `emit_trisk_event`. -/
def emitTriskEvent (log : List TriskDomainEvent) (call : EventCall) : List TriskDomainEvent :=
  log ++ [{
    eventType := call.eventType
    aggregateId := call.aggregateId
    aggregateType := call.aggregateType
    sequence := nextSequence log call.aggregateId
    actor := "system"
    correlationId := if call.correlationId = "" then call.aggregateId else call.correlationId
    payload := call.payload
    limitations := call.limitations }]

/-- The events of a classification. -/
def eventCalls (job : Job) (stored : IncidentRecord) (controls : List JsonDict) : List EventCall :=
  let call (eventType : TriskEventType) (payload : Dict) (limitations : List Value) : EventCall :=
    { eventType
      aggregateId := "incident:" ++ stored.incidentId
      aggregateType := "incident"
      correlationId := job.eventId
      payload
      limitations }
  call .incidentDetected
      [("incident_id", .str stored.incidentId),
        ("event_id", .str job.eventId),
        ("primary_classification", .str stored.primaryClassification)]
      (stored.limitations.1.take 3) ::
    call .riskClassified
      [("incident_id", .str stored.incidentId),
        ("confidence", .float stored.confidence),
        ("proof_tier", .str stored.proofTier)]
      [.str "Ordinal confidence — not calibrated probability."] ::
    controls.map fun ct => call .controlTestCompleted
      [("control_id", Dict.fetch ct.1 "control_id"),
        ("test_result", Dict.fetch ct.1 "test_result"),
        ("incident_id", .str stored.incidentId)] []

/-! ## Sessions -/

/-- What a session has to commit. -/
structure Draft where
  status : ClassificationStatus
  /-- the limitation that a quarantine adds -/
  reasons : List String
  /-- the row of the audit chain, and the rows of a new incident -/
  audit : Option (AuditChainEntry × Option Bundle)

def Draft.bundle (draft : Draft) : Option Bundle := draft.audit.bind Prod.snd

/-- A write to a file. -/
inductive FileWrite where
  | mirror (stored : IncidentRecord)
  | emit (call : EventCall)

inductive JobPhase where
  /-- the evidence has been read, and no incident found -/
  | classifying (row : EvidenceEvent)
  /-- all rows are prepared; these files are still to be written -/
  | writing (draft : Draft) (left : List FileWrite)

structure Session (Pid : Type) where
  pid : Pid
  job : Job
  phase : JobPhase

/-- The rows of a new incident that a session is about to commit. -/
def Session.bundle {Pid : Type} (session : Session Pid) : Option Bundle :=
  match session.phase with
  | .classifying _ => none
  | .writing draft _ => draft.bundle

/-- Two sessions insert the same unique id. -/
def Bundle.Conflicts (a b : Bundle) : Prop :=
  a.incident.incidentId = b.incident.incidentId ∨
    ∃ r ∈ a.review, ∃ t ∈ b.review, r.1.reviewId = t.1.reviewId

instance (a b : Bundle) : Decidable (a.Conflicts b) :=
  inferInstanceAs (Decidable (_ ∨ _))

/-- The draft of a skipped run. -/
def skipped : Draft := ⟨.classified, [], none⟩

/-- The control tests of an incident, or all of them if it has none. -/
def controlsOf (analytics : Analytics) (incident : JsonDict) : List JsonDict :=
  let own := analytics.controlTests.filter fun c =>
    (Dict.fetch c.1 "incident_id").pyEq (Dict.fetch incident.1 "incident_id")
  if own.isEmpty then analytics.controlTests else own

/-- The first policy decision, or the one that stands in for it. -/
def policyOf (analytics : Analytics) : Dict :=
  analytics.policyDecisions.headD
    [("action", .str "OBSERVE"), ("outcome", .str "PREVIEW_ONLY"), ("dry_run", .bool true)]

section Steps

variable (H : Digest) (ofText : String → Option FloatVal)

/-- The run from the pipeline to the writes: the draft and the files to be written, unless it
raises. -/
def prepare (db : RiskDb) (job : Job) (row : EvidenceEvent) : Option (Draft × List FileWrite) :=
  match job.pipeline (fixtureFromEvidence row) with
  | .error text => some (⟨.quarantined, ["Classification failed: " ++ text], none⟩, [])
  | .ok analytics =>
    match analytics.incidents with
    | [] => some (⟨.quarantined, ["No incident produced from evidence"], none⟩, [])
    | incident :: _ => do
      let controls := controlsOf analytics incident
      let stored ← storeIncidentBundle ofText db job row.endpointId incident controls
        (policyOf analytics)
      let entry := auditChainEntry H db.chain (auditPayload job stored.incident).1
      return (⟨statusFor stored.incident.primaryClassification, [],
          some (entry, stored.bundle)⟩,
        .mirror stored.incident :: (eventCalls job stored.incident controls).map .emit)

/-- The rows of a draft, in their tables. -/
def RiskDb.commit (db : RiskDb) (eventId : String) (draft : Draft) : RiskDb :=
  let bundles := draft.bundle.toList
  { evidence := db.evidence.mark eventId draft.status.value draft.reasons
    incidents := db.incidents ++ bundles.map Bundle.incident
    controls := db.controls ++ bundles.flatMap fun b => b.controls.map Subtype.val
    policies := db.policies ++ bundles.map fun b => b.policy.1
    reviews := db.reviews ++ bundles.flatMap fun b => (b.review.map Subtype.val).toList
    chain := db.chain ++ draft.audit.toList.map Prod.fst }

/-- What all runs share, and the runs that are on their way. -/
structure Jobs (Pid : Type) where
  db : RiskDb
  mirror : JsonlFile
  events : List TriskDomainEvent
  sessions : List (Session Pid)

/-- Nothing has been classified. -/
def Jobs.init {Pid : Type} (evidence : EvidenceTable) (chain : List AuditChainEntry)
    (mirror : JsonlFile) (events : List TriskDomainEvent) : Jobs Pid :=
  ⟨⟨evidence, [], [], [], [], chain⟩, mirror, events, []⟩

/-- What the tables hold of an event, but for its row of the audit chain. -/
structure Footprint where
  status : Option String
  incidents : List IncidentRecord
  controls : List ControlTestResult
  policies : List PolicyDecision
  reviews : List HumanReviewItem

/-- The status of the evidence. -/
def statusOf (table : EvidenceTable) (eventId : String) : Option String :=
  (table.rows.find? fun row => row.eventId = eventId).map EvidenceEvent.classificationStatus

def incidentsOf (db : RiskDb) (eventId : String) : List IncidentRecord :=
  db.incidents.filter fun i => i.evidenceEventId = eventId

def incidentIds (incidents : List IncidentRecord) : List String :=
  incidents.map IncidentRecord.incidentId

def footprint (db : RiskDb) (eventId : String) : Footprint :=
  let ids := incidentIds (incidentsOf db eventId)
  { status := statusOf db.evidence eventId
    incidents := incidentsOf db eventId
    controls := db.controls.filter fun c => c.incidentId ∈ ids
    policies := db.policies.filter fun p => p.incidentId ∈ ids
    reviews := db.reviews.filter fun r => r.incidentId ∈ ids }

/-- A commit of an incident, with what the tables then held of its event. -/
structure Committed where
  eventId : String
  footprint : Footprint

/-- One move of one session. -/
inductive WorkerMove (Pid : Type) where
  /-- the evidence is read, and the incidents asked for one of it -/
  | start (pid : Pid) (job : Job)
  /-- the pipeline, and every row of the transaction -/
  | prepare (pid : Pid)
  /-- the next file -/
  | write (pid : Pid)
  | commit (pid : Pid)
  /-- an exception, or the end of the process -/
  | fail (pid : Pid)

variable {Pid : Type} [DecidableEq Pid] (sep : Linesep)

def Jobs.session (s : Jobs Pid) (p : Pid) : Option (Session Pid) :=
  s.sessions.find? fun session => session.pid = p

def Jobs.others (s : Jobs Pid) (p : Pid) : List (Session Pid) :=
  s.sessions.filter fun session => session.pid ≠ p

def Jobs.close (s : Jobs Pid) (p : Pid) : Jobs Pid := { s with sessions := s.others p }

/-- A session goes on, with another phase. -/
def Jobs.put (s : Jobs Pid) (session : Session Pid) : Jobs Pid :=
  { s with sessions := session :: s.others session.pid }

/-- An insert of the draft waits for another session. -/
def Jobs.waits (s : Jobs Pid) (p : Pid) (draft : Draft) : Bool :=
  (s.others p).any fun other =>
    (draft.bundle.bind fun a => other.bundle.map fun b => decide (a.Conflicts b)).getD false

def FileWrite.apply (job : Job) (s : Jobs Pid) : FileWrite → Jobs Pid
  | .mirror stored =>
    let payload := auditPayload job stored
    { s with mirror := s.mirror.appendLine oneLine_compact sep payload.1 payload.2 }
  | .emit call => { s with events := emitTriskEvent s.events call }

/-- `_run_classification_job_inner`, one part of it at a time. -/
def Jobs.step (s : Jobs Pid) : WorkerMove Pid → Jobs Pid × List Committed
  | .start p job =>
    match s.session p, s.db.evidence.rows.find? fun row => row.eventId = job.eventId with
    | none, some row =>
      (s.put ⟨p, job, if incidentExistsForEvidence s.db job.eventId then .writing skipped []
        else .classifying row⟩, [])
    | _, _ => (s, [])
  | .prepare p =>
    match s.session p with
    | some ⟨_, job, .classifying row⟩ =>
      match prepare H ofText s.db job row with
      | none => (s.close p, [])
      | some (draft, left) =>
        if s.waits p draft then (s, []) else (s.put ⟨p, job, .writing draft left⟩, [])
    | _ => (s, [])
  | .write p =>
    match s.session p with
    | some ⟨_, job, .writing draft (w :: left)⟩ =>
      (FileWrite.apply sep job (s.put ⟨p, job, .writing draft left⟩) w, [])
    | _ => (s, [])
  | .commit p =>
    match s.session p with
    | some ⟨_, job, .writing draft []⟩ =>
      let db := s.db.commit job.eventId draft
      ({ s.close p with db },
        draft.bundle.toList.map fun _ => ⟨job.eventId, footprint db job.eventId⟩)
    | _ => (s, [])
  | .fail p => (s.close p, [])

end Steps

end Backend
