import NetworkRecovery.Platform.Storage
import NetworkRecovery.Python.Blake2b

/-!
# Fleet envelopes

`platform_core/fleet/models.py` and `partitioning.py`: what a fleet event
carries, the fields that are filled in before it is published, and the partition
and topic it goes to.
-/

namespace Fleet

open Python

/-- The variables the fleet reads from the environment. -/
structure Environment where
  fleetMode : String := "local"
  fleetPartitionCount : String := "256"
  fleetTopicPrefix : String := "erp"

/-- `StreamKind`. -/
inductive StreamKind where
  | telemetryNormalized
  | sreDomain
  | incidentLifecycle
  | auditSigned
  | decisionRecorded
  deriving DecidableEq

def StreamKind.text : StreamKind → String
  | .telemetryNormalized => "telemetry.normalized"
  | .sreDomain => "sre.domain"
  | .incidentLifecycle => "incident.lifecycle"
  | .auditSigned => "audit.signed"
  | .decisionRecorded => "decision.recorded"

/-- `ProducerKind`. -/
inductive ProducerKind where
  | endpointAgent
  | ingestGateway
  | replayWorker
  | controlPlane
  deriving DecidableEq

def ProducerKind.text : ProducerKind → String
  | .endpointAgent => "endpoint_agent"
  | .ingestGateway => "ingest_gateway"
  | .replayWorker => "replay_worker"
  | .controlPlane => "control_plane"

/-- The `tier` of a tenant. -/
inductive Tier where
  | standard
  | enterprise
  | regulated
  deriving DecidableEq

def Tier.text : Tier → String
  | .standard => "standard"
  | .enterprise => "enterprise"
  | .regulated => "regulated"

/-- `TenantContext`. -/
structure TenantContext where
  tenantId : String
  orgId : String := ""
  region : String := "default"
  dataResidency : String := "default"
  tier : Tier := .standard

def TenantContext.modelDump (tenant : TenantContext) : Dict :=
  [("tenant_id", .str tenant.tenantId),
    ("org_id", .str tenant.orgId),
    ("region", .str tenant.region),
    ("data_residency", .str tenant.dataResidency),
    ("tier", .str tenant.tier.text)]

/-- `FleetEventEnvelope`. -/
structure FleetEventEnvelope where
  schemaVersion : String := "fleet.envelope.v1"
  eventId : String
  idempotencyKey : String
  tenant : TenantContext
  producerId : String
  producerKind : ProducerKind := .endpointAgent
  endpointIdHash : String
  partitionKey : String := ""
  stream : StreamKind := .telemetryNormalized
  timestampUtc : String
  correlationId : String := ""
  causationId : Option String := none
  payload : Dict := []
  payloadHash : String := ""

def FleetEventEnvelope.computePartitionKey (envelope : FleetEventEnvelope) : String :=
  envelope.tenant.tenantId ++ ":" ++ envelope.endpointIdHash

def FleetEventEnvelope.computePayloadHash (envelope : FleetEventEnvelope) : String :=
  Sha256.hexdigest (String.ofList (dumpsSorted (.dict envelope.payload))).toUTF8

/-- `finalize`: the derived fields. -/
def FleetEventEnvelope.finalize (envelope : FleetEventEnvelope) : FleetEventEnvelope :=
  { envelope with
    partitionKey := envelope.computePartitionKey
    payloadHash := envelope.computePayloadHash }

/-- `model_dump(mode="json")`. -/
def FleetEventEnvelope.modelDump (envelope : FleetEventEnvelope) : Dict :=
  [("schema_version", .str envelope.schemaVersion),
    ("event_id", .str envelope.eventId),
    ("idempotency_key", .str envelope.idempotencyKey),
    ("tenant", .dict envelope.tenant.modelDump),
    ("producer_id", .str envelope.producerId),
    ("producer_kind", .str envelope.producerKind.text),
    ("endpoint_id_hash", .str envelope.endpointIdHash),
    ("partition_key", .str envelope.partitionKey),
    ("stream", .str envelope.stream.text),
    ("timestamp_utc", .str envelope.timestampUtc),
    ("correlation_id", .str envelope.correlationId),
    ("causation_id", match envelope.causationId with
      | none => .none
      | some id => .str id),
    ("payload", .dict envelope.payload),
    ("payload_hash", .str envelope.payloadHash)]

/-! ## Partitions and topics -/

/-- `partition_count`: 256 for a text that is no number, and between 16 and 4096. -/
def partitionCount (env : Environment) : Nat :=
  let n := match (Value.str env.fleetPartitionCount).toInt with
    | .ok n => n
    | .error _ => 256
  (max 16 (min n 4096)).toNat

/-- `assign_partition(...).partition_id`. -/
def assignPartition (env : Environment) (tenantId endpointIdHash : String) : Nat :=
  let material := tenantId ++ ":" ++ .ofList (lower endpointIdHash.toList)
  Blake2b.ofBytesBig (Blake2b.digest material.toUTF8.toList 8) % partitionCount env

theorem partitionCount_pos (env : Environment) : 16 ≤ partitionCount env := by
  unfold partitionCount
  dsimp only
  omega

/-- Every endpoint has a partition of the stream. -/
theorem assignPartition_lt (env : Environment) (tenantId endpointIdHash : String) :
    assignPartition env tenantId endpointIdHash < partitionCount env :=
  Nat.mod_lt _ (Nat.lt_of_lt_of_le (by decide) (partitionCount_pos env))

/-- `topic_for_stream`. -/
def topicForStream (env : Environment) (stream : StreamKind) (tier : Tier) : String :=
  env.fleetTopicPrefix ++ "." ++ stream.text ++
    (if tier = .enterprise then ".enterprise" else ".shared")

end Fleet
