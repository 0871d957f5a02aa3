import NetworkRecovery.Lib.LastWriter
import NetworkRecovery.Platform.Storage
import NetworkRecovery.Toolkit.IncidentSummary

/-!
# The heartbeat store

`platform_core/fleet_store.py`: a heartbeat is merged into what the log has last said of its
endpoint and appended, and what an endpoint is is read off its last row. So each endpoint is a
fold over its own heartbeats, whatever others come in between (`getEndpoint_history`), the list
of all endpoints is made of the same folds (`listEndpoints_history`), and of an endpoint the
first time it was seen never changes while the last one is always that of its last heartbeat
(`endpoint_history`).
-/

namespace Fleet

open Python Audit Platform LastWriter
open StateMachine (updateDict)
open Timing (isoformatUtc)

/-! ## Endpoints -/

inductive RiskState where
  | healthy
  | degraded
  | incidentOpen
  | unknown
  deriving DecidableEq

def RiskState.text : RiskState → String
  | .healthy => "healthy"
  | .degraded => "degraded"
  | .incidentOpen => "incident_open"
  | .unknown => "unknown"

structure EndpointRecord where
  endpointId : String
  hostname : String
  osName : String
  agentVersion : String
  firstSeen : String
  lastSeen : String
  latestSnapshotId : String
  latestDiagnosisId : String
  riskState : RiskState
  deriving DecidableEq

/-- `to_summary_row`. -/
def EndpointRecord.toSummaryRow (r : EndpointRecord) : Dict :=
  [("endpoint_id", .str r.endpointId), ("hostname", .str r.hostname), ("os_name", .str r.osName),
    ("agent_version", .str r.agentVersion), ("first_seen", .str r.firstSeen),
    ("last_seen", .str r.lastSeen), ("latest_snapshot_id", .str r.latestSnapshotId),
    ("latest_diagnosis_id", .str r.latestDiagnosisId), ("risk_state", .str r.riskState.text)]

/-- `_coerce_risk_state`. -/
def coerceRiskState (value : Value) : RiskState :=
  let raw := String.ofList (lower (orElse (some value) (.str "unknown")).toText.toList)
  (ofText [.healthy, .degraded, .incidentOpen, .unknown] RiskState.text raw).getD .unknown

/-- `str(row.get(k) or row.get(k') or ... or "")`. -/
def firstText (row : Dict) : List String → String
  | [] => ""
  | key :: keys => (orElse (row.get? key) (.str (firstText row keys))).toText

/-- `record_from_row`. -/
def recordFromRow (row : Dict) : EndpointRecord where
  endpointId := firstText row ["endpoint_id"]
  hostname := firstText row ["hostname", "hostname_hash"]
  osName := firstText row ["os_name", "os_family"]
  agentVersion := firstText row ["agent_version"]
  firstSeen := firstText row ["first_seen", "first_seen_at", "last_seen_at"]
  lastSeen := firstText row ["last_seen", "last_seen_at"]
  latestSnapshotId := firstText row ["latest_snapshot_id", "snapshot_id"]
  latestDiagnosisId := firstText row ["latest_diagnosis_id", "diagnosis_id"]
  riskState := coerceRiskState (orElse (row.get? "risk_state") (row.fetch "status"))

/-! ## The store -/

/-- The endpoint that a row is about. -/
def endpointOf (row : Dict) : String := firstText row ["endpoint_id"]

/-- `get_endpoint`. -/
def getEndpoint (file : File) (endpointId : String) : Except PyError (Option EndpointRecord) :=
  (iterJsonl file).map fun rows =>
    ((scan endpointOf endpointId rows).filter fun row => !row.isEmpty).map recordFromRow

/-- `list_endpoints`. -/
def listEndpoints (file : File) : Except PyError (List EndpointRecord) :=
  (iterJsonl file).map fun rows =>
    (table endpointOf (rows.filter fun row => endpointOf row ≠ "")).map fun e => recordFromRow e.2

/-- A heartbeat, and the time at which it comes. -/
structure Heartbeat where
  row : Dict
  wf : (Value.dict row).WF
  now : Int

def Heartbeat.endpoint (h : Heartbeat) : String := endpointOf h.row

/-- `row.get("last_seen") or row.get("last_seen_at") or row.get("timestamp")`. -/
def Heartbeat.lastSeen (h : Heartbeat) : Value :=
  orElse (h.row.get? "last_seen") (orElse (h.row.get? "last_seen_at") (h.row.fetch "timestamp"))

/-- `merged`, before its first time is filled in. -/
def mergedRow (existing : Option EndpointRecord) (h : Heartbeat) : Dict :=
  let base := updateDict (existing.elim [] EndpointRecord.toSummaryRow) h.row
  ((base.set "endpoint_id" (.str h.endpoint)).set "first_seen" (match existing with
    | some e => .str e.firstSeen
    | none => orElse (h.row.get? "first_seen") (h.row.fetch "last_seen_at"))).set
      "last_seen" h.lastSeen

/-- The row that a heartbeat appends. -/
def heartbeatRow (existing : Option EndpointRecord) (h : Heartbeat) : Dict :=
  let merged := mergedRow existing h
  if (merged.fetch "first_seen").truthy then merged
  else merged.set "first_seen" (orElse (merged.get? "last_seen") (.str (isoformatUtc h.now)))

/-- `append_heartbeat`. -/
def appendHeartbeat (sep : Linesep) (file : File) (h : Heartbeat) :
    Except PyError (File × EndpointRecord) :=
  if h.endpoint = "" then .error .value
  else do
    let existing ← getEndpoint file h.endpoint
    let row := heartbeatRow existing h
    return (appendJsonl sep file row, recordFromRow row)

/-- The store after a heartbeat; one that is refused leaves nothing. -/
def afterHeartbeat (sep : Linesep) (file : File) (h : Heartbeat) : File :=
  match appendHeartbeat sep file h with
  | .ok (file', _) => file'
  | .error _ => file

/-- Heartbeats, one after the other. -/
def history (sep : Linesep) (hs : List Heartbeat) : File := hs.foldl (afterHeartbeat sep) none

/-! ## What a heartbeat leaves -/

theorem updateDict_wf {d other : Dict} (hd : (Value.dict d).WF) (hother : EntriesWF other) :
    (Value.dict (updateDict d other)).WF := by
  unfold updateDict
  induction other generalizing d with
  | nil => exact hd
  | cons e other ih => exact ih (hd.set e.1 hother.1) hother.2

theorem summaryRow_wf (r : EndpointRecord) : (Value.dict r.toSummaryRow).WF := by
  refine ⟨?_, trivial, trivial, trivial, trivial, trivial, trivial, trivial, trivial, trivial,
    trivial⟩
  show ["endpoint_id", "hostname", "os_name", "agent_version", "first_seen", "last_seen",
    "latest_snapshot_id", "latest_diagnosis_id", "risk_state"].Nodup
  decide

theorem Heartbeat.lastSeen_wf (h : Heartbeat) : h.lastSeen.WF :=
  orElse_wf (fun _ hx => h.wf.2.get? hx)
    (orElse_wf (fun _ hx => h.wf.2.get? hx) (h.wf.2.fetch "timestamp"))

theorem mergedRow_wf (existing : Option EndpointRecord) (h : Heartbeat) :
    (Value.dict (mergedRow existing h)).WF := by
  have hbase : (Value.dict (existing.elim [] EndpointRecord.toSummaryRow)).WF := by
    cases existing with
    | none => exact emptyDict_wf
    | some e => exact summaryRow_wf e
  have hfirst : (match existing with
      | some e => Value.str e.firstSeen
      | none => orElse (h.row.get? "first_seen") (h.row.fetch "last_seen_at")).WF := by
    cases existing with
    | none => exact orElse_wf (fun _ hx => h.wf.2.get? hx) (h.wf.2.fetch "last_seen_at")
    | some e => trivial
  have hid : (Value.str h.endpoint).WF := trivial
  have hmerged := updateDict_wf hbase h.wf.2
  exact ((hmerged.set "endpoint_id" hid).set "first_seen" hfirst).set "last_seen" h.lastSeen_wf

theorem heartbeatRow_wf (existing : Option EndpointRecord) (h : Heartbeat) :
    (Value.dict (heartbeatRow existing h)).WF := by
  have hmerged := mergedRow_wf existing h
  unfold heartbeatRow
  dsimp only
  split
  · exact hmerged
  · exact hmerged.set "first_seen" (orElse_wf (fun _ hx => hmerged.2.get? hx) trivial)

/-- The keys that the store fills in. -/
def filledKeys : List String := ["endpoint_id", "first_seen", "last_seen"]

/-- What a row says under a key that the store does not fill in: what the heartbeat says there,
or else what was known. -/
theorem get?_heartbeatRow {key : String} (hkey : key ∉ filledKeys)
    (existing : Option EndpointRecord) (h : Heartbeat) :
    (heartbeatRow existing h).get? key =
      (h.row.get? key).or (Dict.get? (existing.elim [] EndpointRecord.toSummaryRow) key) := by
  simp only [filledKeys, List.mem_cons, List.not_mem_nil, or_false, not_or] at hkey
  obtain ⟨hid, hfirst, hlast⟩ := hkey
  have hmerged : (mergedRow existing h).get? key =
      (h.row.get? key).or (Dict.get? (existing.elim [] EndpointRecord.toSummaryRow) key) := by
    unfold mergedRow
    dsimp only
    rw [Dict.get?_set_of_ne _ (Ne.symm hlast), Dict.get?_set_of_ne _ (Ne.symm hfirst),
      Dict.get?_set_of_ne _ (Ne.symm hid)]
    cases hrow : h.row.get? key with
    | none => exact EventLog.get?_updateDict_of_none hrow _
    | some v => exact EventLog.get?_updateDict_of_get? h.wf.1 hrow _
  unfold heartbeatRow
  dsimp only
  split
  · exact hmerged
  · rw [Dict.get?_set_of_ne _ (Ne.symm hfirst)]
    exact hmerged

theorem get?_mergedRow_lastSeen (existing : Option EndpointRecord) (h : Heartbeat) :
    (mergedRow existing h).get? "last_seen" = some h.lastSeen := Dict.get?_set_self _ _ _

theorem get?_mergedRow_firstSeen (existing : Option EndpointRecord) (h : Heartbeat) :
    (mergedRow existing h).get? "first_seen" = some (match existing with
      | some e => .str e.firstSeen
      | none => orElse (h.row.get? "first_seen") (h.row.fetch "last_seen_at")) := by
  unfold mergedRow
  dsimp only
  rw [Dict.get?_set_of_ne _ (by decide), Dict.get?_set_self]

theorem get?_heartbeatRow_lastSeen (existing : Option EndpointRecord) (h : Heartbeat) :
    (heartbeatRow existing h).get? "last_seen" = some h.lastSeen := by
  unfold heartbeatRow
  dsimp only
  split
  · exact get?_mergedRow_lastSeen existing h
  · rw [Dict.get?_set_of_ne _ (by decide)]
    exact get?_mergedRow_lastSeen existing h

theorem get?_heartbeatRow_id (existing : Option EndpointRecord) (h : Heartbeat) :
    (heartbeatRow existing h).get? "endpoint_id" = some (.str h.endpoint) := by
  have hmerged : (mergedRow existing h).get? "endpoint_id" = some (.str h.endpoint) := by
    unfold mergedRow
    dsimp only
    rw [Dict.get?_set_of_ne _ (by decide), Dict.get?_set_of_ne _ (by decide), Dict.get?_set_self]
  unfold heartbeatRow
  dsimp only
  split
  · exact hmerged
  · rw [Dict.get?_set_of_ne _ (by decide)]
    exact hmerged

/-- The time at which an endpoint says it was first seen, where it says one. -/
def knownFirst (existing : Option EndpointRecord) (h : Heartbeat) : Value :=
  match existing with
  | some e => .str e.firstSeen
  | none => orElse (h.row.get? "first_seen") (h.row.fetch "last_seen_at")

/-- Where it says none, the time of the heartbeat is filled in. -/
theorem get?_heartbeatRow_firstSeen (existing : Option EndpointRecord) (h : Heartbeat) :
    (heartbeatRow existing h).get? "first_seen" = some (orElse (some (knownFirst existing h))
      (orElse (some h.lastSeen) (.str (isoformatUtc h.now)))) := by
  have hfirst : (mergedRow existing h).get? "first_seen" = some (knownFirst existing h) :=
    get?_mergedRow_firstSeen existing h
  have hfetch : (mergedRow existing h).fetch "first_seen" = knownFirst existing h :=
    congrArg (Option.getD · Value.none) hfirst
  unfold heartbeatRow
  dsimp only
  rw [hfetch]
  split
  · next htrue => rw [hfirst, orElse_true htrue]
  · next hfalse =>
    rw [Dict.get?_set_self, get?_mergedRow_lastSeen, orElse_false (Bool.eq_false_iff.mpr hfalse)]

/-! ## What is known of an endpoint -/

/-- The text that an endpoint keeps until a heartbeat says another one. -/
def keep (key : String) (others : List String) (known : String) (h : Heartbeat) : String :=
  if h.row.get? key = none ∧ known ≠ "" then known else firstText h.row (key :: others)

def Heartbeat.firstSeen (h : Heartbeat) : String :=
  (orElse (some (knownFirst none h))
    (orElse (some h.lastSeen) (.str (isoformatUtc h.now)))).toText

def Heartbeat.lastText (h : Heartbeat) : String := (orElse (some h.lastSeen) (.str "")).toText

def Heartbeat.riskState (h : Heartbeat) : RiskState :=
  coerceRiskState (orElse (h.row.get? "risk_state") (h.row.fetch "status"))

/-- An endpoint at its first heartbeat. -/
def opened (h : Heartbeat) : EndpointRecord where
  endpointId := h.endpoint
  hostname := firstText h.row ["hostname", "hostname_hash"]
  osName := firstText h.row ["os_name", "os_family"]
  agentVersion := firstText h.row ["agent_version"]
  firstSeen := h.firstSeen
  lastSeen := h.lastText
  latestSnapshotId := firstText h.row ["latest_snapshot_id", "snapshot_id"]
  latestDiagnosisId := firstText h.row ["latest_diagnosis_id", "diagnosis_id"]
  riskState := h.riskState

/-- An endpoint at a later one. -/
def EndpointRecord.advance (e : EndpointRecord) (h : Heartbeat) : EndpointRecord where
  endpointId := h.endpoint
  hostname := keep "hostname" ["hostname_hash"] e.hostname h
  osName := keep "os_name" ["os_family"] e.osName h
  agentVersion := keep "agent_version" [] e.agentVersion h
  firstSeen := e.firstSeen
  lastSeen := h.lastText
  latestSnapshotId := keep "latest_snapshot_id" ["snapshot_id"] e.latestSnapshotId h
  latestDiagnosisId := keep "latest_diagnosis_id" ["diagnosis_id"] e.latestDiagnosisId h
  riskState := if h.row.get? "risk_state" = none then e.riskState else h.riskState

/-- What its heartbeats make of an endpoint. -/
def summary : List Heartbeat → Option EndpointRecord
  | [] => none
  | first :: rest => some (rest.foldl EndpointRecord.advance (opened first))

theorem summary_concat (hs : List Heartbeat) (h : Heartbeat) :
    summary (hs ++ [h]) = some ((summary hs).elim (opened h) fun e => e.advance h) := by
  cases hs with
  | nil => rfl
  | cons first rest =>
    show some ((rest ++ [h]).foldl EndpointRecord.advance (opened first)) = _
    rw [List.foldl_append]
    rfl

theorem isoformatUtc_truthy (t : Int) : (Value.str (isoformatUtc t)).truthy = true := by
  simp [Value.truthy, Timing.isoformatUtc_ne_empty]

theorem Heartbeat.firstSeen_ne_empty (h : Heartbeat) : h.firstSeen ≠ "" :=
  toText_ne_empty (orElse_truthy (orElse_truthy (isoformatUtc_truthy h.now)))

/-- The first time an endpoint was seen never changes, and the last one is that of its last
heartbeat. -/
theorem summary_times (first : Heartbeat) (rest : List Heartbeat) :
    ∃ e, summary (first :: rest) = some e ∧ e.firstSeen = first.firstSeen ∧
      e.lastSeen = (rest.getLastD first).lastText := by
  induction rest using List.reverseRecOn with
  | nil => exact ⟨opened first, rfl, rfl, rfl⟩
  | append_singleton rest h ih =>
    obtain ⟨e, he, hfirst, -⟩ := ih
    refine ⟨e.advance h, ?_, hfirst, ?_⟩
    · rw [← List.cons_append, summary_concat, he]
      rfl
    · rw [List.getLastD_concat]
      rfl

theorem summary_firstSeen {hs : List Heartbeat} {e : EndpointRecord} (h : summary hs = some e) :
    e.firstSeen ≠ "" := by
  cases hs with
  | nil => cases h
  | cons first rest =>
    obtain ⟨e', he', hfirst, -⟩ := summary_times first rest
    obtain rfl := Option.some.inj (h.symm.trans he')
    rw [hfirst]
    exact first.firstSeen_ne_empty

/-! ## One heartbeat -/

theorem firstText_cons (row : Dict) (key : String) (keys : List String) :
    firstText row (key :: keys) = (orElse (row.get? key) (.str (firstText row keys))).toText := rfl

theorem firstText_congr {row row' : Dict} {keys : List String}
    (h : ∀ key ∈ keys, row.get? key = row'.get? key) : firstText row keys = firstText row' keys := by
  induction keys with
  | nil => rfl
  | cons key keys ih =>
    obtain ⟨hkey, hkeys⟩ := List.forall_mem_cons.mp h
    rw [firstText_cons, firstText_cons, hkey, ih hkeys]

theorem firstText_of_truthy {row : Dict} {key : String} {v : Value} (hget : row.get? key = some v)
    (htrue : v.truthy = true) (keys : List String) : firstText row (key :: keys) = v.toText := by
  rw [firstText_cons, hget, orElse_true htrue]

theorem endpointOf_heartbeatRow (existing : Option EndpointRecord) (h : Heartbeat) :
    endpointOf (heartbeatRow existing h) = h.endpoint := by
  unfold endpointOf
  rw [firstText_cons, get?_heartbeatRow_id]
  exact orElse_toText h.endpoint

theorem get?_heartbeatRow_none {key : String} (hkey : key ∉ filledKeys) (h : Heartbeat) :
    (heartbeatRow none h).get? key = h.row.get? key := by
  rw [get?_heartbeatRow hkey]
  exact Option.or_none

theorem get?_heartbeatRow_some {key : String} (hkey : key ∉ filledKeys) (e : EndpointRecord)
    (h : Heartbeat) : (heartbeatRow (some e) h).get? key =
      (h.row.get? key).or (Dict.get? e.toSummaryRow key) := get?_heartbeatRow hkey _ h

/-- A text that is not among the ones the store fills in is kept. -/
theorem firstText_heartbeatRow {key known : String} {others : List String} {e : EndpointRecord}
    (hkey : key ∉ filledKeys) (hothers : ∀ k ∈ others, k ∉ filledKeys)
    (hknown : Dict.get? e.toSummaryRow key = some (.str known))
    (hunknown : ∀ k ∈ others, Dict.get? e.toSummaryRow k = none) (h : Heartbeat) :
    firstText (heartbeatRow (some e) h) (key :: others) = keep key others known h := by
  have hrest : firstText (heartbeatRow (some e) h) others = firstText h.row others := by
    apply firstText_congr
    intro k hk
    rw [get?_heartbeatRow_some (hothers k hk), hunknown k hk, Option.or_none]
  unfold keep
  rw [firstText_cons, firstText_cons, get?_heartbeatRow_some hkey, hknown, hrest]
  cases h.row.get? key with
  | some v => rw [Option.some_or, if_neg fun hnone => Option.some_ne_none v hnone.1]
  | none =>
    by_cases hempty : known = ""
    · rw [hempty, if_neg (fun hknown => hknown.2 rfl)]
      rfl
    · rw [if_pos ⟨rfl, hempty⟩]
      exact congrArg Value.toText (orElse_str hempty _)

/-- The last time of a row: where the heartbeat says none, no other key of it says one. -/
theorem lastSeen_heartbeatRow (existing : Option EndpointRecord) (h : Heartbeat) :
    firstText (heartbeatRow existing h) ["last_seen", "last_seen_at"] = h.lastText := by
  have hat : (heartbeatRow existing h).get? "last_seen_at" = h.row.get? "last_seen_at" := by
    rw [get?_heartbeatRow (by decide)]
    cases existing with
    | none => exact Option.or_none
    | some e => exact Option.or_none
  rw [firstText_cons, get?_heartbeatRow_lastSeen, firstText_cons, hat]
  unfold Heartbeat.lastText
  cases hlast : h.lastSeen.truthy with
  | true => rw [orElse_true hlast, orElse_true hlast]
  | false =>
    rw [orElse_false hlast, orElse_false hlast]
    have hsecond : (orElse (h.row.get? "last_seen_at") (h.row.fetch "timestamp")).truthy = false := by
      by_contra htrue
      rw [Bool.not_eq_false] at htrue
      rw [Heartbeat.lastSeen, orElse_truthy htrue] at hlast
      cases hlast
    cases hget : h.row.get? "last_seen_at" with
    | none => rfl
    | some v =>
      rw [hget] at hsecond
      cases hv : v.truthy with
      | true =>
        rw [orElse_true hv, hv] at hsecond
        cases hsecond
      | false =>
        rw [orElse_false hv]
        rfl

theorem coerceRiskState_text (r : RiskState) : coerceRiskState (.str r.text) = r := by
  cases r <;> decide +kernel

/-- The first heartbeat of an endpoint. -/
theorem recordFromRow_heartbeatRow_none (h : Heartbeat) :
    recordFromRow (heartbeatRow none h) = opened h := by
  have htexts : ∀ keys : List String, (∀ k ∈ keys, k ∉ filledKeys) →
      firstText (heartbeatRow none h) keys = firstText h.row keys := by
    intro keys hkeys
    exact firstText_congr fun k hk => get?_heartbeatRow_none (hkeys k hk) h
  have hfirst : firstText (heartbeatRow none h) ["first_seen", "first_seen_at", "last_seen_at"] =
      h.firstSeen :=
    firstText_of_truthy (get?_heartbeatRow_firstSeen none h)
      (orElse_truthy (orElse_truthy (isoformatUtc_truthy h.now))) _
  have hid : firstText (heartbeatRow none h) ["endpoint_id"] = h.endpoint :=
    endpointOf_heartbeatRow none h
  unfold recordFromRow opened Heartbeat.riskState Dict.fetch
  rw [hid, hfirst, lastSeen_heartbeatRow, get?_heartbeatRow_none (by decide),
    get?_heartbeatRow_none (by decide), htexts _ (by decide), htexts _ (by decide),
    htexts _ (by decide), htexts _ (by decide), htexts _ (by decide)]

/-- A later heartbeat of it. -/
theorem recordFromRow_heartbeatRow_some {e : EndpointRecord} (he : e.firstSeen ≠ "")
    (h : Heartbeat) : recordFromRow (heartbeatRow (some e) h) = e.advance h := by
  have hfirst : firstText (heartbeatRow (some e) h)
      ["first_seen", "first_seen_at", "last_seen_at"] = e.firstSeen := by
    rw [firstText_cons, get?_heartbeatRow_firstSeen, knownFirst, orElse_str he, orElse_str he]
    rfl
  have hrisk : coerceRiskState (orElse ((heartbeatRow (some e) h).get? "risk_state")
      ((heartbeatRow (some e) h).fetch "status")) =
        if h.row.get? "risk_state" = none then e.riskState else h.riskState := by
    have hstatus : (heartbeatRow (some e) h).fetch "status" = h.row.fetch "status" := by
      unfold Dict.fetch
      rw [get?_heartbeatRow_some (by decide)]
      exact congrArg (Option.getD · Value.none) Option.or_none
    rw [get?_heartbeatRow_some (by decide), hstatus, Heartbeat.riskState]
    cases h.row.get? "risk_state" with
    | some v => rfl
    | none =>
      have hstr : orElse (some (.str e.riskState.text)) (h.row.fetch "status") =
          .str e.riskState.text := orElse_str (by cases e.riskState <;> decide) _
      exact (congrArg coerceRiskState hstr).trans (coerceRiskState_text e.riskState)
  have hid : firstText (heartbeatRow (some e) h) ["endpoint_id"] = h.endpoint :=
    endpointOf_heartbeatRow (some e) h
  have hhost : firstText (heartbeatRow (some e) h) ["hostname", "hostname_hash"] =
      keep "hostname" ["hostname_hash"] e.hostname h :=
    firstText_heartbeatRow (by decide) (by decide) rfl (List.forall_mem_singleton.mpr rfl) h
  have hos : firstText (heartbeatRow (some e) h) ["os_name", "os_family"] =
      keep "os_name" ["os_family"] e.osName h :=
    firstText_heartbeatRow (by decide) (by decide) rfl (List.forall_mem_singleton.mpr rfl) h
  have hagent : firstText (heartbeatRow (some e) h) ["agent_version"] =
      keep "agent_version" [] e.agentVersion h :=
    firstText_heartbeatRow (by decide) (by decide) rfl (List.forall_mem_nil _) h
  have hsnapshot : firstText (heartbeatRow (some e) h) ["latest_snapshot_id", "snapshot_id"] =
      keep "latest_snapshot_id" ["snapshot_id"] e.latestSnapshotId h :=
    firstText_heartbeatRow (by decide) (by decide) rfl (List.forall_mem_singleton.mpr rfl) h
  have hdiagnosis : firstText (heartbeatRow (some e) h) ["latest_diagnosis_id", "diagnosis_id"] =
      keep "latest_diagnosis_id" ["diagnosis_id"] e.latestDiagnosisId h :=
    firstText_heartbeatRow (by decide) (by decide) rfl (List.forall_mem_singleton.mpr rfl) h
  unfold recordFromRow EndpointRecord.advance
  rw [hid, hhost, hos, hagent, hfirst, lastSeen_heartbeatRow, hsnapshot, hdiagnosis, hrisk]

/-! ## Any history -/

/-- The heartbeats that are not refused. -/
def accepted (hs : List Heartbeat) : List Heartbeat := hs.filter fun h => h.endpoint ≠ ""

/-- Those of an endpoint. -/
def own (hs : List Heartbeat) (endpointId : String) : List Heartbeat :=
  (accepted hs).filter fun h => h.endpoint = endpointId

/-- The row that a heartbeat adds behind the last row of its endpoint. -/
def nextRow (last : Option Dict) (h : Heartbeat) : Dict := heartbeatRow (last.map recordFromRow) h

theorem endpointOf_nextRow (last : Option Dict) (h : Heartbeat) :
    endpointOf (nextRow last h) = h.endpoint := endpointOf_heartbeatRow _ h

/-- The rows that heartbeats leave. -/
def rowsOf (hs : List Heartbeat) : List Dict :=
  grow endpointOf Heartbeat.endpoint nextRow (accepted hs)

theorem rowsOf_endpoints (hs : List Heartbeat) :
    (rowsOf hs).map endpointOf = (accepted hs).map Heartbeat.endpoint :=
  keys_grow endpointOf_nextRow _

/-- Every row names its endpoint. -/
theorem endpointOf_of_mem {hs : List Heartbeat} {row : Dict} (hrow : row ∈ rowsOf hs) :
    endpointOf row ≠ "" := by
  have hmem : endpointOf row ∈ (rowsOf hs).map endpointOf := List.mem_map_of_mem hrow
  rw [rowsOf_endpoints] at hmem
  obtain ⟨h, hh, heq⟩ := List.mem_map.mp hmem
  rw [← heq]
  exact of_decide_eq_true (List.mem_filter.mp hh).2

/-- What the last row of an endpoint says is what its heartbeats make of it. -/
theorem summary_scan (hs : List Heartbeat) (endpointId : String) :
    (scan endpointOf endpointId (rowsOf hs)).map recordFromRow = summary (own hs endpointId) := by
  have hfold : ∀ l : List Heartbeat,
      (l.foldl (fun last h => some (nextRow last h)) none).map recordFromRow = summary l := by
    intro l
    induction l using List.reverseRecOn with
    | nil => rfl
    | append_singleton l h ih =>
      rw [List.foldl_append, summary_concat, ← ih]
      cases hlast : (l.foldl (fun last h => some (nextRow last h)) none).map recordFromRow with
      | none =>
        have hnext : nextRow (l.foldl (fun last h => some (nextRow last h)) none) h =
            heartbeatRow none h := congrArg (heartbeatRow · h) hlast
        exact congrArg some ((congrArg recordFromRow hnext).trans
          (recordFromRow_heartbeatRow_none h))
      | some e =>
        have hnext : nextRow (l.foldl (fun last h => some (nextRow last h)) none) h =
            heartbeatRow (some e) h := congrArg (heartbeatRow · h) hlast
        exact congrArg some ((congrArg recordFromRow hnext).trans
          (recordFromRow_heartbeatRow_some (summary_firstSeen (ih.symm.trans hlast)) h))
  rw [rowsOf, scan_grow endpointOf_nextRow]
  exact hfold (own hs endpointId)

/-- A read of an endpoint in a log with these rows. -/
theorem getEndpoint_of_rows {log : JsonlFile} {hs : List Heartbeat} (hlog : log.rows = rowsOf hs)
    (endpointId : String) : getEndpoint log.file endpointId =
      .ok ((scan endpointOf endpointId (rowsOf hs)).map recordFromRow) := by
  have hkept : (scan endpointOf endpointId (rowsOf hs)).filter (fun row => !row.isEmpty) =
      scan endpointOf endpointId (rowsOf hs) := by
    cases hscan : scan endpointOf endpointId (rowsOf hs) with
    | none => rfl
    | some row =>
      have hne : row ≠ [] := by
        rintro rfl
        exact endpointOf_of_mem (scan_some hscan).1 rfl
      rw [Option.filter_some, if_pos (by simpa using hne)]
  unfold getEndpoint
  rw [log.reads, hlog, Except.map, hkept]

/-- The log holds a row of each heartbeat that was not refused. -/
theorem history_rows (sep : Linesep) (hs : List Heartbeat) :
    ∃ log : JsonlFile, log.file = history sep hs ∧ log.rows = rowsOf hs := by
  induction hs using List.reverseRecOn with
  | nil => exact ⟨.absent, rfl, rfl⟩
  | append_singleton hs h ih =>
    obtain ⟨log, hfile, hrows⟩ := ih
    have hstep : history sep (hs ++ [h]) = afterHeartbeat sep log.file h := by
      rw [hfile]
      exact List.foldl_concat _ _ _ _
    unfold rowsOf accepted
    rw [hstep, List.filter_append, afterHeartbeat, appendHeartbeat]
    by_cases hid : h.endpoint = ""
    · refine ⟨log, ?_, ?_⟩
      · rw [if_pos hid]
      · rw [List.filter_cons_of_neg (by simpa using hid), List.filter_nil, List.append_nil]
        exact hrows
    · refine ⟨log.append sep _ (heartbeatRow_wf
        ((scan endpointOf h.endpoint (rowsOf hs)).map recordFromRow) h), ?_, ?_⟩
      · rw [if_neg hid, getEndpoint_of_rows hrows]
        rfl
      · rw [List.filter_cons_of_pos (by simpa using hid), List.filter_nil, grow_concat]
        exact congrArg (· ++ _) hrows

theorem getEndpoint_history (sep : Linesep) (hs : List Heartbeat) (endpointId : String) :
    getEndpoint (history sep hs) endpointId = .ok (summary (own hs endpointId)) := by
  obtain ⟨log, hfile, hrows⟩ := history_rows sep hs
  rw [← hfile, getEndpoint_of_rows hrows, summary_scan]

theorem listEndpoints_history (sep : Linesep) (hs : List Heartbeat) :
    listEndpoints (history sep hs) = .ok (((accepted hs).map Heartbeat.endpoint).eraseDups.filterMap
      fun endpointId => summary (own hs endpointId)) := by
  obtain ⟨log, hfile, hrows⟩ := history_rows sep hs
  have hall : (rowsOf hs).filter (fun row => endpointOf row ≠ "") = rowsOf hs :=
    List.filter_eq_self.mpr fun row hrow => decide_eq_true (endpointOf_of_mem hrow)
  have hrecords : (table endpointOf (rowsOf hs)).map (fun e => recordFromRow e.2) =
      ((table endpointOf (rowsOf hs)).map Prod.snd).map recordFromRow := by
    rw [List.map_map]
    rfl
  unfold listEndpoints
  rw [← hfile, log.reads, hrows, Except.map, hall, hrecords, rows_table, rowsOf_endpoints,
    List.map_filterMap]
  exact congrArg Except.ok (List.filterMap_congr fun endpointId _ => summary_scan hs endpointId)

/-- Whatever the heartbeats, and in whatever order those of several endpoints come: an endpoint is
what its own heartbeats make of it, the list has each endpoint once, in the order of the first
heartbeats, and an endpoint was first seen at its first heartbeat and last at its last one. -/
theorem endpoint_history (sep : Linesep) (hs : List Heartbeat) :
    (∀ endpointId, getEndpoint (history sep hs) endpointId = .ok (summary (own hs endpointId))) ∧
    listEndpoints (history sep hs) = .ok (((accepted hs).map Heartbeat.endpoint).eraseDups.filterMap
      fun endpointId => summary (own hs endpointId)) ∧
    ∀ endpointId first rest, own hs endpointId = first :: rest →
      ∃ e, getEndpoint (history sep hs) endpointId = .ok (some e) ∧
        e.firstSeen = first.firstSeen ∧ e.lastSeen = (rest.getLastD first).lastText := by
  refine ⟨getEndpoint_history sep hs, listEndpoints_history sep hs, ?_⟩
  intro endpointId first rest hown
  obtain ⟨e, he, hfirst, hlast⟩ := summary_times first rest
  refine ⟨e, ?_, hfirst, hlast⟩
  rw [getEndpoint_history, hown, he]

def pingRow (endpointId sent : String) : Dict :=
  [("endpoint_id", .str endpointId), ("timestamp", .str sent)]

theorem pingRow_wf (endpointId sent : String) : (Value.dict (pingRow endpointId sent)).WF := by
  refine ⟨?_, trivial, trivial, trivial⟩
  show ["endpoint_id", "timestamp"].Nodup
  decide

/-- A heartbeat that says no more than when it was sent. -/
def Heartbeat.ping (endpointId sent : String) : Heartbeat :=
  ⟨pingRow endpointId sent, pingRow_wf endpointId sent, 0⟩

theorem endpoint_history_pings (sep : Linesep) : ∃ e,
    getEndpoint (history sep [.ping "a" "t1", .ping "b" "t2", .ping "" "t3", .ping "a" "t4"]) "a" =
      .ok (some e) ∧ e.firstSeen = "t1" ∧ e.lastSeen = "t4" :=
  (endpoint_history sep _).2.2 "a" (.ping "a" "t1") [.ping "a" "t4"] rfl

end Fleet
