import NetworkRecovery.Lib.HashChain
import NetworkRecovery.Python.Builtins
import NetworkRecovery.Python.JsonText
import NetworkRecovery.Python.Sha256
import NetworkRecovery.Python.TextFile

/-!
# Audit records and their hash chain

The record a row of the audit log holds (`contracts.py`), the body that is
hashed, and the verification of a list of rows (`chain_of_custody.py`).

`HASH_CHAIN_EXCLUDED_FIELDS` takes three fields out of the body. One of them,
`current_hash`, is compared with the recomputed hash; the other two are
neither hashed nor compared.

SHA-256 enters as a `Digest`: any function from bytes to text whose values are
at least 64 hexadecimal digits. That is all the writer and the readers rely
on; what tamper evidence needs besides, injectivity, is asked for where it is
used, which is why the length is bounded from below only.
-/

namespace Audit

open Python

/-- `hashlib.sha256(data).hexdigest()`, as far as the program depends on it. -/
structure Digest where
  hexdigest : ByteArray → String
  hex : ∀ b, ∀ c ∈ (hexdigest b).toList, (hexValue c).isSome
  long : ∀ b, 64 ≤ (hexdigest b).toList.length

/-- The digest the program uses. -/
def sha256 : Digest where
  hexdigest := Sha256.hexdigest
  hex := Sha256.hexdigest_hex
  long := fun b => Nat.le_of_eq (Sha256.hexdigest_length b).symm

/-- `AuditActionType`. -/
inductive ActionType where
  | eventReceived
  | evidenceAttached
  | hypothesisCreated
  | decisionCreated
  | policyEvaluated
  | remediationPreviewed
  | humanApprovalRequested
  | humanApprovalGranted
  | actionExecuted
  | validationCompleted
  | rollbackCompleted
  | outcomeRecorded
  | replayCertified
  | stakeholderResolved
  | timingEvaluated
  | coordinationStatusSet
  | decisionContextBuilt
  deriving DecidableEq

def ActionType.text : ActionType → String
  | .eventReceived => "event_received"
  | .evidenceAttached => "evidence_attached"
  | .hypothesisCreated => "hypothesis_created"
  | .decisionCreated => "decision_created"
  | .policyEvaluated => "policy_evaluated"
  | .remediationPreviewed => "remediation_previewed"
  | .humanApprovalRequested => "human_approval_requested"
  | .humanApprovalGranted => "human_approval_granted"
  | .actionExecuted => "action_executed"
  | .validationCompleted => "validation_completed"
  | .rollbackCompleted => "rollback_completed"
  | .outcomeRecorded => "outcome_recorded"
  | .replayCertified => "replay_certified"
  | .stakeholderResolved => "stakeholder_resolved"
  | .timingEvaluated => "timing_evaluated"
  | .coordinationStatusSet => "coordination_status_set"
  | .decisionContextBuilt => "decision_context_built"

inductive SignatureStatus where
  | unsigned
  | hashChained
  | signed
  deriving DecidableEq

def SignatureStatus.text : SignatureStatus → String
  | .unsigned => "unsigned"
  | .hashChained => "hash_chained"
  | .signed => "signed"

/-- `AUDIT_SCHEMA_VERSION`. -/
def auditSchemaVersion : String := "erp.audit.v1"

/-- `AuditRecord`. -/
structure AuditRecord where
  auditId : String
  schemaVersion : String
  timestampUtc : String
  actionType : ActionType
  traceId : String
  decisionId : String
  incidentId : String
  actor : String
  payload : Dict
  previousHash : String
  currentHash : String
  signatureStatus : SignatureStatus

/-- `record.model_dump()`. -/
def AuditRecord.modelDump (r : AuditRecord) : Dict :=
  [("audit_id", .str r.auditId),
    ("schema_version", .str r.schemaVersion),
    ("timestamp_utc", .str r.timestampUtc),
    ("action_type", .str r.actionType.text),
    ("trace_id", .str r.traceId),
    ("decision_id", .str r.decisionId),
    ("incident_id", .str r.incidentId),
    ("actor", .str r.actor),
    ("payload", .dict r.payload),
    ("previous_hash", .str r.previousHash),
    ("current_hash", .str r.currentHash),
    ("signature_status", .str r.signatureStatus.text)]

/-- `record.model_dump_json()`. -/
def AuditRecord.modelDumpJson (r : AuditRecord) : List Char := dumps .model (.dict r.modelDump)

/-! ## The chain -/

/-- `HASH_CHAIN_EXCLUDED_FIELDS`. -/
def hashChainExcludedFields : List String := ["previous_hash", "current_hash", "signature_status"]

/-- The fields participating in the hash. -/
def auditHashBody (record : Dict) : Dict :=
  record.filter fun e => !hashChainExcludedFields.contains e.1

/-- The hash of a body behind the previous hash. -/
def chainHash (H : Digest) (previousHash : String) (recordBody : Dict) : String :=
  H.hexdigest (encode (previousHash.toList ++ '|' :: dumpsSorted (.dict recordBody)))

/-- `str(rec.get("current_hash", ""))`. -/
def currentHashOf (rec : Dict) : String := ((rec.get? "current_hash").getD (.str "")).toText

/-- The loop of `verify_chain`, from the hash and the index it has reached. -/
def verifyChainFrom (H : Digest) : String → Nat → List Dict → Bool × String
  | _, _, [] => (true, "ok")
  | prev, idx, rec :: records =>
    let expected := chainHash H prev (auditHashBody rec)
    let current := currentHashOf rec
    if current ≠ expected then (false, "chain break at index " ++ toString idx)
    else verifyChainFrom H current (idx + 1) records

def verifyChain (H : Digest) (records : List Dict) : Bool × String :=
  verifyChainFrom H "genesis" 0 records

/-! ## The chain as a hash chain -/

/-- A record as a chain row: its body and the hash it stores. -/
def chainRow (rec : Dict) : Dict × String := (auditHashBody rec, currentHashOf rec)

theorem verifyChainFrom_true {H : Digest} {records : List Dict} {prev : String} {idx : Nat} :
    (verifyChainFrom H prev idx records).1 = true ↔
      HashChain.Verifies (chainHash H) prev (records.map chainRow) := by
  induction records generalizing prev idx with
  | nil => simp [verifyChainFrom, HashChain.Verifies]
  | cons rec records ih =>
    simp only [verifyChainFrom, List.map_cons, chainRow, HashChain.Verifies]
    by_cases h : currentHashOf rec = chainHash H prev (auditHashBody rec)
    · rw [if_neg (not_not.mpr h)]
      simp only [h, true_and]
      rw [← h]
      exact ih
    · rw [if_pos h]
      simp [h]

/-- `verify_chain` accepts exactly the lists whose stored hashes are the links
of their bodies. -/
theorem verifyChain_true {H : Digest} {records : List Dict} :
    (verifyChain H records).1 = true ↔
      HashChain.Verifies (chainHash H) "genesis" (records.map chainRow) :=
  verifyChainFrom_true

/-- An accepted list gets the message `ok`. -/
theorem verifyChainFrom_message {H : Digest} {records : List Dict} {prev : String} {idx : Nat}
    (h : (verifyChainFrom H prev idx records).1 = true) :
    verifyChainFrom H prev idx records = (true, "ok") := by
  induction records generalizing prev idx with
  | nil => rfl
  | cons rec records ih =>
    simp only [verifyChainFrom] at h ⊢
    split at h
    · exact absurd h (by simp)
    · next hne =>
      rw [if_neg hne]
      exact ih h

theorem chainHash_hex (H : Digest) (prev : String) (body : Dict) :
    ∀ c ∈ (chainHash H prev body).toList, (hexValue c).isSome :=
  H.hex _

/-- A hash has only digits and the letters up to `f`. -/
theorem chainHash_ne_genesis (H : Digest) (prev : String) (body : Dict) :
    chainHash H prev body ≠ "genesis" := by
  intro h
  have hg := chainHash_hex H prev body 'g' (by rw [h]; decide)
  exact absurd hg (by decide)

theorem chainHash_long (H : Digest) (prev : String) (body : Dict) :
    64 ≤ (chainHash H prev body).toList.length :=
  H.long _

theorem length_text_of_zero {d : Decimal} (h : d.digits = 0) : d.text.length < 64 := by
  obtain ⟨neg, m, e, hc⟩ := d
  obtain rfl : m = 0 := h
  obtain rfl : e = 0 := (hc.resolve_left (by simp)).2
  cases neg <;> simp [Decimal.text, Decimal.magnitudeText, natText]

/-- The text of a value that counts as false is too short for a hash. -/
theorem length_toText_of_falsy {v : Value} (h : v.truthy = false) : v.toText.toList.length < 64 := by
  cases v with
  | none => simp [Value.toText, Value.repr]
  | bool b =>
    obtain rfl : b = false := h
    decide
  | int n =>
    obtain rfl : n = 0 := by simpa [Value.truthy] using h
    simp [Value.toText, Value.repr, intText, natText]
  | float x =>
    cases x with
    | finite d =>
      have hd : d.digits = 0 := by simpa [Value.truthy] using h
      have htext : (Value.float (.finite d)).toText.toList = d.text := by
        simp only [Value.toText, Value.repr, FloatVal.text, String.toList_ofList]
      rw [htext]
      exact length_text_of_zero hd
    | inf neg => cases h
    | nan => cases h
  | str s =>
    obtain rfl : s = "" := by simpa [Value.truthy] using h
    simp [Value.toText]
  | list xs =>
    obtain rfl : xs = [] := by simpa [Value.truthy] using h
    simp [Value.toText, Value.repr, reprItems]
  | dict kvs =>
    obtain rfl : kvs = [] := by simpa [Value.truthy] using h
    simp [Value.toText, Value.repr, reprEntries]

/-- The two spellings of a stored hash, `str(rec.get("current_hash", ""))` and
`str(rec.get("current_hash") or "genesis")`, differ only on values whose text
is too short for a hash. -/
theorem orElse_currentHash {rec : Dict} (h : 64 ≤ (currentHashOf rec).toList.length) :
    (orElse (rec.get? "current_hash") (.str "genesis")).toText = currentHashOf rec := by
  unfold currentHashOf at h ⊢
  cases hv : rec.get? "current_hash" with
  | none =>
    rw [hv] at h
    simp [Value.toText] at h
  | some v =>
    rw [hv, Option.getD_some] at h
    rw [Option.getD_some]
    cases htruthy : v.truthy with
    | true => rw [orElse_true htruthy]
    | false => exact absurd h (Nat.not_le_of_lt (length_toText_of_falsy htruthy))

/-! ## Records as rows -/

theorem AuditRecord.modelDump_wf {r : AuditRecord} (h : (Value.dict r.payload).WF) :
    (Value.dict r.modelDump).WF := by
  refine ⟨by simp [modelDump, Dict.keys], ?_⟩
  simp only [modelDump, EntriesWF, Value.WF, and_true, true_and]
  exact h

theorem AuditRecord.modelDump_finite {r : AuditRecord} (h : (Value.dict r.payload).Finite) :
    (Value.dict r.modelDump).Finite := by
  simp only [modelDump, Value.Finite, EntriesFinite, and_true, true_and]
  exact h

/-- A record's row is read back as the record. -/
theorem AuditRecord.loads_modelDumpJson {r : AuditRecord} (hwf : (Value.dict r.payload).WF)
    (hfin : (Value.dict r.payload).Finite) :
    loads r.modelDumpJson = some (.dict r.modelDump) :=
  loads_dumps .model (modelDump_wf hwf) fun _ => modelDump_finite hfin

theorem AuditRecord.modelDumpJson_head (r : AuditRecord) :
    ∃ rest, r.modelDumpJson = '{' :: '"' :: 'a' :: rest :=
  ⟨_, rfl⟩

@[simp] theorem AuditRecord.currentHashOf_modelDump (r : AuditRecord) :
    currentHashOf r.modelDump = r.currentHash := rfl

/-- The body does not depend on the fields that are set after it is hashed. -/
@[simp] theorem AuditRecord.auditHashBody_currentHash (r : AuditRecord) (h : String) :
    auditHashBody { r with currentHash := h }.modelDump = auditHashBody r.modelDump := rfl

end Audit
