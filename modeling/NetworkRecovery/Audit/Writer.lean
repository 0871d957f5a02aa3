import NetworkRecovery.Audit.Record

/-!
# Writing and reading the audit log

`append_audit` with its two reads of the file (`writer.py`), the tip anchor
beside it, and the readers (`tip_anchor.py`).

Four functions look at the same file and each in its own way:

* `_read_chain_tip` takes the LAST line of `splitlines` and falls back to
  `genesis` when it is not JSON;
* `_count_records` counts the lines that are not blank, JSON or not;
* `read_audit_records` strips each line and keeps the JSON objects;
* the writer appends a row and a line feed.

The two files are a `Store`. A call is given the values it draws from outside,
`uuid4` and the clock, as a `Stamp`; both are printable ASCII. Errors of the
operating system are not modelled.
-/

namespace Audit

open Python

/-- An absent file, or its contents. -/
abbrev File := Option ByteArray

/-- The audit log and its tip anchor. -/
structure Store where
  log : File
  tip : File

/-- What the code sees of the machine it runs on. -/
structure Host where
  linesep : Linesep
  /-- `str(audit_path)` -/
  auditPath : String

/-- Text of printable ASCII: what `uuid4` and `strftime` give. -/
abbrev Ascii := { s : String // ∀ c ∈ s.toList, Printable c }

/-- The values one call of `append_audit` draws. -/
structure Stamp where
  auditId : Ascii
  timestampUtc : Ascii
  anchoredAtUtc : Ascii

/-- A JSON object: no key twice, no float that JSON cannot write. -/
structure JsonObject where
  entries : Dict
  wf : (Value.dict entries).WF
  finite : (Value.dict entries).Finite

/-- `{}`. -/
def JsonObject.empty : JsonObject :=
  ⟨[], ⟨List.nodup_nil, trivial⟩, trivial⟩

/-- The arguments of `append_audit`. -/
structure Call where
  actionType : ActionType
  traceId : String := ""
  decisionId : String := ""
  incidentId : String := ""
  actor : String := "platform"
  payload : Option JsonObject := none

/-- `payload or {}`. -/
def Call.payloadOrEmpty (call : Call) : JsonObject := call.payload.getD .empty

/-! ## The text of a file -/

/-- `path.read_text(encoding="utf-8")`. -/
def readFile (b : ByteArray) : Except PyError (List Char) :=
  match readText b with
  | some text => .ok text
  | none => .error .unicodeDecode

/-- The hash the last line holds. -/
def chainTip (text : List Char) : Except PyError String :=
  match (splitLines text).getLast? with
  | none => .ok "genesis"
  | some line =>
    match loads line with
    | none => .ok "genesis"
    | some (.dict last) => .ok (orElse (Dict.get? last "current_hash") (.str "genesis")).toText
    | some _ => .error .attribute

/-- The object a line holds: the body of the loop in `read_audit_records`. -/
def recordOfLine (line : List Char) : Option Dict :=
  match strip line with
  | [] => none
  | row => match loads row with
    | some (.dict record) => some record
    | _ => none

/-- The objects among the lines. -/
def auditRecords (text : List Char) : List Dict := (splitLines text).filterMap recordOfLine

/-- `_read_chain_tip`. -/
def readChainTip : File → Except PyError String
  | none => .ok "genesis"
  | some b => (readFile b).bind chainTip

/-- `_count_records`. -/
def countRecords : File → Except PyError Nat
  | none => .ok 0
  | some b => (readFile b).map countNonBlank

/-- `read_audit_records`. -/
def readAuditRecords : File → Except PyError (List Dict)
  | none => .ok []
  | some b => (readFile b).map auditRecords

/-! ## Appending -/

/-- `TIP_ANCHOR_SCHEMA`. -/
def tipAnchorSchema : String := "audit_tip_anchor.v1"

/-- `build_tip_anchor`. -/
def buildTipAnchor (host : Host) (anchoredAtUtc tipHash : String) (recordCount : Nat) : Dict :=
  [("schema_version", .str tipAnchorSchema),
    ("anchored_at_utc", .str anchoredAtUtc),
    ("audit_path", .str host.auditPath),
    ("tip_hash", .str tipHash),
    ("record_count", .int recordCount),
    ("limitations", .list [
      .str "Tip match proves consistency with a previously recorded chain tip — not observation truth.",
      .str "Same-host tip files are not WORM; relocate or sign tips for stronger custody."])]

/-- `write_tip_anchor`: what the anchor file holds afterwards. -/
def writeTipAnchor (host : Host) (anchoredAtUtc tipHash : String) (recordCount : Nat) : File :=
  some (writeText host.linesep
    (dumps .indented (.dict (buildTipAnchor host anchoredAtUtc tipHash recordCount)) ++ ['\n']))

/-- The record of a call, chained to the hash that was read. -/
def newRecord (H : Digest) (call : Call) (stamp : Stamp) (prevHash : String) : AuditRecord :=
  let record : AuditRecord :=
    { auditId := stamp.auditId.1
      schemaVersion := auditSchemaVersion
      timestampUtc := stamp.timestampUtc.1
      actionType := call.actionType
      traceId := call.traceId
      decisionId := call.decisionId
      incidentId := call.incidentId
      actor := call.actor
      payload := call.payloadOrEmpty.entries
      previousHash := prevHash
      currentHash := ""
      signatureStatus := .hashChained }
  { record with currentHash := chainHash H prevHash (auditHashBody record.modelDump) }

/-- The log after a row is written to it; opening for append creates it. -/
def appendRow (host : Host) (log : File) (record : AuditRecord) : File :=
  some (appendText host.linesep (log.getD .empty) (record.modelDumpJson ++ ['\n']))

/-- `append_audit`, the lock apart. -/
def appendAudit (H : Digest) (host : Host) (call : Call) (stamp : Stamp) (s : Store)
    (writeTip : Bool := true) : Except PyError (AuditRecord × Store) := do
  let prevHash ← readChainTip s.log
  let record := newRecord H call stamp prevHash
  let log := appendRow host s.log record
  if writeTip then
    let count ← countRecords log
    return (record, ⟨log, writeTipAnchor host stamp.anchoredAtUtc.1 record.currentHash count⟩)
  else
    return (record, ⟨log, s.tip⟩)

/-- A run of calls, each on what the one before left. -/
def appendAll (H : Digest) (host : Host) :
    List (Call × Stamp) → Store → Except PyError (List AuditRecord × Store)
  | [], s => .ok ([], s)
  | (call, stamp) :: calls, s => do
    let (record, s) ← appendAudit H host call stamp s
    let (records, s) ← appendAll H host calls s
    return (record :: records, s)

/-! ## Verification -/

/-- `load_tip_anchor`. -/
def loadTipAnchor : File → Except PyError (Option Dict)
  | none => .ok none
  | some b => (readFile b).map fun text =>
    match loads text with
    | some (.dict data) => some data
    | _ => none

/-- The result of `verify_audit_with_tip`, its fixed texts and paths apart. -/
structure VerifyResult where
  records : Nat
  chainVerified : Bool
  chainMessage : String
  actualTipHash : String
  tipPresent : Bool
  tipMatch : Option Bool
  tipRecordCountMatch : Option Bool
  tipMessage : String
  verified : Bool
  deriving DecidableEq

/-- `str(records[-1].get("current_hash") or "genesis")`, or `genesis`. -/
def actualTip (records : List Dict) : String :=
  match records.getLast? with
  | none => "genesis"
  | some last => (orElse (Dict.get? last "current_hash") (.str "genesis")).toText

/-- The comparison of the records with the anchor. -/
def checkTip (records : List Dict) (tip : Dict) : Except PyError (Bool × Bool) := do
  let tipMatch := (orElse (tip.get? "tip_hash") (.str "")).toText == actualTip records
  let count ← (orElse (tip.get? "record_count") (.int (-1))).toInt
  return (tipMatch, count == records.length)

/-- `verify_audit_with_tip`. -/
def verifyAuditWithTip (H : Digest) (s : Store) (requireTip : Bool := false) :
    Except PyError VerifyResult := do
  let records ← readAuditRecords s.log
  let (chainOk, chainMsg) := if records.isEmpty then (true, "empty_chain") else verifyChain H records
  match ← loadTipAnchor s.tip with
  | none =>
    return {
      records := records.length
      chainVerified := chainOk
      chainMessage := chainMsg
      actualTipHash := actualTip records
      tipPresent := false
      tipMatch := none
      tipRecordCountMatch := none
      tipMessage := "tip_anchor_missing"
      verified := chainOk && !requireTip }
  | some tip =>
    let (tipMatch, countMatch) ← checkTip records tip
    return {
      records := records.length
      chainVerified := chainOk
      chainMessage := chainMsg
      actualTipHash := actualTip records
      tipPresent := true
      tipMatch := some tipMatch
      tipRecordCountMatch := some countMatch
      tipMessage :=
        if tipMatch && countMatch then "tip_match"
        else if !tipMatch then "tip_hash_mismatch"
        else "tip_record_count_mismatch"
      verified := chainOk && tipMatch && countMatch }

end Audit
