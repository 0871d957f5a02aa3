import NetworkRecovery.Lib.Cells
import NetworkRecovery.Python.JsonText
import NetworkRecovery.Python.Builtins
import NetworkRecovery.Python.Model
import NetworkRecovery.Python.TextFile

/-!
# The store of decision envelopes

`platform_core/decision_context/store.py`: an envelope is written to a file named after its
case, and the case is noted in `latest.json`. For reading, the store would have to be a map from
cases to envelopes. It is one exactly as long as the names keep the cases apart
(`store_isMap_iff`): what is not a letter or a digit becomes an underscore, and only the first
180 characters count, so that different cases can share a file; and the case `latest` shares
its file with the note.
-/

namespace DecisionContext

open Python Cells

/-! ## Envelopes -/

/-- The default of a field. -/
def withDefault (name : String) (t : FieldType) (default : Value) :
    String × FieldType × Option Value := (name, t, some default)

/-- A field that must be given. -/
def required (name : String) (t : FieldType) : String × FieldType × Option Value := (name, t, none)

/-- `RoleRef`. -/
def roleRef : FieldType := .model
  [required "role_id" .text, required "display_name" .text,
    withDefault "kind" (.member ["role", "configured_identity"]) (.str "role"),
    withDefault "identity" (.optional .text) .none,
    withDefault "source"
      (.member ["explicit_configuration", "asset_metadata", "control_mapping",
        "classification_mapping", "default_role_mapping", "unresolved"])
      (.str "default_role_mapping"),
    withDefault "reason_code" (.member stakeholderReasonCodes) (.str "STAKEHOLDER_RESOLVED"),
    withDefault "rationale" .text (.str "")]
where
  stakeholderReasonCodes : List String :=
    ["STAKEHOLDER_RESOLVED", "OWNER_UNRESOLVED", "APPROVER_REQUIRED",
      "SECURITY_ESCALATION_REQUIRED", "SEGREGATION_OF_DUTIES_REQUIRED",
      "EXECUTION_AUTHORITY_MISSING", "INFORMED_ROLE_MAPPED", "AFFECTED_PARTY_MAPPED"]

/-- `EscalationHop`. -/
def escalationHop : FieldType := .model
  [required "order" .number, required "role" roleRef, withDefault "trigger" .text (.str "")]

/-- `StakeholderContext`. -/
def stakeholderContext : FieldType := .model
  [withDefault "schema_version" .text (.str "stakeholder_context.v1"),
    withDefault "case_id" .text (.str ""),
    withDefault "classification" .text (.str ""),
    withDefault "asset_owner" (.optional roleRef) .none,
    withDefault "control_owner" (.optional roleRef) .none,
    withDefault "affected_parties" (.tuple roleRef) (.list []),
    withDefault "approver_roles" (.tuple roleRef) (.list []),
    withDefault "executor_roles" (.tuple roleRef) (.list []),
    withDefault "informed_roles" (.tuple roleRef) (.list []),
    withDefault "escalation_path" (.tuple escalationHop) (.list []),
    withDefault "execution_authority" (.optional roleRef) .none,
    withDefault "segregation_of_duties_required" .flag (.bool true),
    withDefault "resolution_confidence"
      (.member ["unresolved", "role_only", "configured", "partial"]) (.str "role_only"),
    withDefault "unresolved_fields" (.tuple .text) (.list []),
    withDefault "reason_codes" (.tuple (.member roleRef.stakeholderReasonCodes)) (.list []),
    withDefault "limitations" (.tuple .text) (textList
      ["Stakeholder assignment is not approval.",
        "Resolver never invents named persons.",
        "Roles come from configuration or deterministic mappings only."]),
    withDefault "inputs_fingerprint" .text (.str ""),
    withDefault "config_refs" .object (.dict [])]

/-- `TimingContext`. -/
def timingContext : FieldType := .model
  [withDefault "schema_version" .text (.str "timing_context.v1"),
    withDefault "case_id" .text (.str ""),
    required "detected_at_utc" .text,
    required "evaluated_at_utc" .text,
    required "timezone" .text,
    withDefault "clock_source" .text (.str "UTC"),
    withDefault "urgency" (.member ["low", "medium", "high", "critical"]) (.str "medium"),
    withDefault "action_window_start_utc" (.optional .text) .none,
    withDefault "action_window_end_utc" (.optional .text) .none,
    withDefault "sla_due_utc" (.optional .text) .none,
    withDefault "evidence_expires_utc" (.optional .text) .none,
    withDefault "retry_after_utc" (.optional .text) .none,
    withDefault "maintenance_window_required" .flag (.bool false),
    withDefault "in_maintenance_window" (.optional .flag) .none,
    withDefault "change_freeze_active" .flag (.bool false),
    withDefault "business_hours" (.optional .flag) .none,
    withDefault "decision"
      (.member ["READY", "ESCALATE_NOW", "MONITOR_UNTIL", "DEFERRED_TO_WINDOW",
        "BLOCKED_BY_CHANGE_FREEZE", "EVIDENCE_EXPIRED", "SLA_OVERDUE"]) (.str "READY"),
    withDefault "reason_codes"
      (.tuple (.member ["WITHIN_SLA", "SLA_BREACHED", "EVIDENCE_VALID", "EVIDENCE_STALE",
        "IN_MAINTENANCE_WINDOW", "OUTSIDE_MAINTENANCE_WINDOW", "CHANGE_FREEZE_ACTIVE",
        "BUSINESS_HOURS", "AFTER_HOURS", "HIGH_URGENCY_ESCALATION", "RETRY_AFTER_SET"]))
      (.list []),
    withDefault "limitations" (.tuple .text) (textList
      ["A valid maintenance window is not execution authorization.",
        "High urgency never bypasses typed confirmation.",
        "Timezone must be supplied explicitly; platform core defaults to UTC."]),
    withDefault "inputs_fingerprint" .text (.str ""),
    withDefault "config_refs" .object (.dict [])]

/-- The fields of `DecisionEnvelope` besides the case. -/
def envelopeDetails : Fields :=
  [withDefault "decision_id" .text (.str ""),
    withDefault "evidence_refs" (.tuple .text) (.list []),
    withDefault "ranked_hypotheses" (.tuple .object) (.list []),
    withDefault "proof_result" .object (.dict []),
    withDefault "policy_decision" .text (.str "PREVIEW_ONLY"),
    withDefault "policy_allowed" .flag (.bool false),
    withDefault "policy_requires_approval" .flag (.bool true),
    withDefault "stakeholder" (.optional stakeholderContext) .none,
    withDefault "timing" (.optional timingContext) .none,
    withDefault "coordination_status"
      (.member ["READY", "NEEDS_OWNER", "NEEDS_APPROVAL", "DEFERRED_TO_WINDOW", "ESCALATE_NOW",
        "MONITOR_UNTIL", "EXPIRED", "BLOCKED_BY_CHANGE_FREEZE", "BLOCKED_BY_POLICY"])
      (.str "NEEDS_APPROVAL"),
    withDefault "remediation_preview" .object (.dict []),
    withDefault "rollback_requirements" (.tuple .text) (textList
      ["Capture current WinINET proxy values before any apply.",
        "Typed confirmation token required for registry mutation."]),
    withDefault "audit_metadata" .object (.dict []),
    withDefault "limitations" (.tuple .text) (textList
      ["Observation is not proof.",
        "Correlation is not causation.",
        "Confidence is not certainty.",
        "Classification is not accusation.",
        "Policy permission is not a safety guarantee.",
        "Stakeholder assignment is not approval.",
        "A valid maintenance window is not execution authorization.",
        "Remediation remains preview-only by default."]),
    withDefault "non_claims" (.tuple .text) (textList
      ["Does not authorize silent destructive action.",
        "Does not bypass typed confirmation via urgency.",
        "Does not invent stakeholder identities."])]

/-- `DecisionEnvelope`. -/
def envelopeType : FieldType := .model <|
  withDefault "schema_version" .text (.str "decision_context.v1") ::
    required "case_id" .text :: envelopeDetails

/-- An envelope: what `to_dict` makes of it. -/
structure DecisionEnvelope where
  toDict : Dict
  conforms : envelopeType.Conforms (.dict toDict)
  wf : (Value.dict toDict).WF

/-- The text under a key, empty if there is none. -/
def caseIdOf (d : Dict) : String :=
  match d.get? "case_id" with
  | some (.str s) => s
  | _ => ""

def DecisionEnvelope.caseId (e : DecisionEnvelope) : String := caseIdOf e.toDict

/-! ## Files -/

/-- Where the store runs. Names that differ in case may stand for one file, and the name of a
device for none: what is written there is gone. -/
structure Host where
  /-- `str.isalnum`, of one character -/
  isAlnum : Char → Bool
  linesep : Linesep
  /-- `str(base / name)` -/
  pathText : List Char → String
  /-- the file a name in the directory of the store stands for -/
  slot : List Char → Option (List Char)
  latest : List Char
  slot_latest : slot "latest.json".toList = some latest

/-- The directory of the store. -/
abbrev Directory := Store (List Char) ByteArray

/-- `json.dumps(obj, indent=2)`. -/
def indentedStyle : Style := ⟨false, true, some 2, true, true⟩

namespace Host

variable (host : Host)

/-- `_safe_case_filename`, with the extension. -/
def caseFile (caseId : String) : List Char :=
  let cleaned := (strip caseId.toList).map fun ch =>
    if host.isAlnum ch || "-._".toList.contains ch then ch else '_'
  let name := if cleaned.take 180 = [] then "case".toList else cleaned.take 180
  name ++ ".json".toList

/-- `path.write_text(json.dumps(obj, indent=2), encoding="utf-8")`. -/
def writeJson (m : Directory) (name : List Char) (obj : Value) : Directory :=
  match host.slot name with
  | some file =>
    (⟨file, some (writeText host.linesep (dumps indentedStyle obj))⟩ : Write _ _).apply m
  | none => m

/-- The bytes of `path`, if `path.is_file()`. -/
def fileAt (m : Directory) (name : List Char) : Option ByteArray := (host.slot name).bind m

/-- What is noted in `latest.json`. -/
def note (caseId : String) : Dict :=
  [("case_id", .str caseId), ("path", .str (host.pathText (host.caseFile caseId)))]

/-- `save_decision_envelope`. -/
def saveDecisionEnvelope (m : Directory) (envelope : DecisionEnvelope) : Directory :=
  let m := host.writeJson m (host.caseFile envelope.caseId) (.dict envelope.toDict)
  host.writeJson m "latest.json".toList (.dict (host.note envelope.caseId))

/-- `json.loads(path.read_text(encoding="utf-8"))`. -/
def readJson (b : ByteArray) : Except PyError Value :=
  match readText b with
  | none => .error .unicodeDecode
  | some text =>
    match loads text with
    | none => .error .value
    | some v => .ok v

/-- `DecisionEnvelope.model_validate`. -/
def modelValidate (data : Value) : Except PyError Value :=
  match envelopeType.validate data with
  | some v => .ok v
  | none => .error .value

/-- `load_decision_envelope`: `None`, or what the envelope dumps. -/
def loadDecisionEnvelope (m : Directory) (caseId : String) : Except PyError (Option Value) :=
  match host.fileAt m (host.caseFile caseId) with
  | none => .ok none
  | some b => do
    let data ← readJson b
    let envelope ← modelValidate data
    return some envelope

/-- `load_latest_decision_envelope`. -/
def loadLatestDecisionEnvelope (m : Directory) : Except PyError (Option Value) :=
  match host.fileAt m "latest.json".toList with
  | none => .ok none
  | some b => do
    match ← readJson b with
    | .dict kvs =>
      let caseId := (orElse (Dict.get? kvs "case_id") (.str "")).toText
      if caseId = "" then return none
      host.loadDecisionEnvelope m caseId
    | _ => .error .attribute

/-! ## Runs -/

/-- The directory after a sequence of saves. -/
def saveAll (m : Directory) (saves : List DecisionEnvelope) : Directory :=
  saves.foldl host.saveDecisionEnvelope m

end Host

/-- The envelope last saved for a case. -/
def lastSaved (saves : List DecisionEnvelope) (caseId : String) : Option DecisionEnvelope :=
  (saves.filter (·.caseId = caseId)).getLast?

/-- The store is a map: under every case that was saved, the envelope last saved for it, and as
the latest one the envelope saved last. -/
structure IsMap (host : Host) (m : Directory) (saves : List DecisionEnvelope) : Prop where
  load : ∀ caseId e, lastSaved saves caseId = some e →
    host.loadDecisionEnvelope (host.saveAll m saves) caseId = .ok (some (.dict e.toDict))
  latest : ∀ e, saves.getLast? = some e →
    host.loadLatestDecisionEnvelope (host.saveAll m saves) = .ok (some (.dict e.toDict))

/-! ## Writing and reading -/

theorem readJson_writeText (sep : Linesep) {v : Value} (hwf : v.WF) :
    Host.readJson (writeText sep (dumps indentedStyle v)) = .ok v := by
  unfold Host.readJson
  rw [readText_writeText sep (carriageReturn_not_mem_dumps indentedStyle v)]
  dsimp only
  rw [loads_dumps indentedStyle hwf fun h => absurd h (by decide)]

/-- The defaults of the fields besides the case. -/
def blankDetails : Dict :=
  envelopeDetails.filterMap fun field => field.2.2.map fun default => (field.1, default)

/-- The dump of an envelope that has only a case. -/
def blankDict (caseId : String) : Dict :=
  ("schema_version", .str "decision_context.v1") :: ("case_id", .str caseId) :: blankDetails

/-- Every default is one of the values of its field. -/
theorem blankDetails_conform : FieldsConform envelopeDetails blankDetails := by
  simp [blankDetails, envelopeDetails, withDefault, FieldsConform, FieldType.Conforms, textList]

theorem blankDetails_wf : EntriesWF blankDetails := by
  simp [blankDetails, envelopeDetails, withDefault, EntriesWF, Value.WF, textList, ListWF, Dict.keys]

theorem modelValidate_toDict (e : DecisionEnvelope) :
    Host.modelValidate (.dict e.toDict) = .ok (.dict e.toDict) := by
  unfold Host.modelValidate
  rw [envelopeType.validate_of_conforms e.conforms e.wf]

namespace Host

variable (host : Host)

theorem note_wf (caseId : String) : (Value.dict (host.note caseId)).WF := by
  refine ⟨?_, trivial, trivial, trivial⟩
  show ["case_id", "path"].Nodup
  decide

/-- A note is taken for an envelope: all that is missing has a default. -/
theorem modelValidate_note (caseId : String) :
    modelValidate (.dict (host.note caseId)) = .ok (.dict (blankDict caseId)) := rfl

/-- The file of a case. -/
def slotOf (caseId : String) : Option (List Char) := host.slot (host.caseFile caseId)

/-- The bytes of a value. -/
def jsonBytes (v : Value) : ByteArray := writeText host.linesep (dumps indentedStyle v)

theorem loadDecisionEnvelope_eq {m : Directory} {caseId : String} {file : List Char} {v : Value}
    (hslot : host.slotOf caseId = some file) (hfile : m file = some (host.jsonBytes v))
    (hwf : v.WF) : host.loadDecisionEnvelope m caseId = (modelValidate v).map some := by
  have hbytes : host.fileAt m (host.caseFile caseId) = some (host.jsonBytes v) := by
    unfold fileAt
    rw [show host.slot (host.caseFile caseId) = some file from hslot]
    exact hfile
  unfold loadDecisionEnvelope
  rw [hbytes]
  dsimp only
  rw [jsonBytes, readJson_writeText _ hwf]
  rfl

/-- What is loaded depends on the file alone. -/
theorem loadDecisionEnvelope_congr {caseId caseId' : String}
    (h : host.slotOf caseId = host.slotOf caseId') (m : Directory) :
    host.loadDecisionEnvelope m caseId = host.loadDecisionEnvelope m caseId' := by
  unfold loadDecisionEnvelope fileAt
  rw [show host.slot (host.caseFile caseId) = host.slot (host.caseFile caseId') from h]

theorem loadDecisionEnvelope_of_none {caseId : String} (h : host.slotOf caseId = none)
    (m : Directory) : host.loadDecisionEnvelope m caseId = .ok none := by
  unfold loadDecisionEnvelope fileAt
  rw [show host.slot (host.caseFile caseId) = none from h]
  rfl

/-! ## What a run leaves -/

theorem writeJson_of_some {name file : List Char} (h : host.slot name = some file)
    (m : Directory) (obj : Value) :
    host.writeJson m name obj = Function.update m file (some (host.jsonBytes obj)) := by
  unfold writeJson
  rw [h]
  rfl

theorem writeJson_of_none {name : List Char} (h : host.slot name = none) (m : Directory)
    (obj : Value) : host.writeJson m name obj = m := by
  unfold writeJson
  rw [h]

theorem saveDecisionEnvelope_latest (m : Directory) (e : DecisionEnvelope) :
    host.saveDecisionEnvelope m e host.latest =
      some (host.jsonBytes (.dict (host.note e.caseId))) := by
  unfold saveDecisionEnvelope
  rw [host.writeJson_of_some host.slot_latest]
  exact Function.update_self _ _ _

theorem saveDecisionEnvelope_other {file : List Char} (hfile : file ≠ host.latest)
    (m : Directory) (e : DecisionEnvelope) :
    host.saveDecisionEnvelope m e file =
      if host.slotOf e.caseId = some file then some (host.jsonBytes (.dict e.toDict))
      else m file := by
  unfold saveDecisionEnvelope
  rw [host.writeJson_of_some host.slot_latest]
  refine (Function.update_of_ne hfile _ _).trans ?_
  cases hslot : host.slotOf e.caseId with
  | none =>
    rw [host.writeJson_of_none hslot]
    simp
  | some written =>
    rw [host.writeJson_of_some hslot]
    by_cases heq : written = file
    · subst heq
      rw [if_pos rfl]
      exact Function.update_self _ _ _
    · rw [if_neg (by simpa using heq)]
      exact Function.update_of_ne (Ne.symm heq) _ _

theorem saveAll_concat (m : Directory) (saves : List DecisionEnvelope) (e : DecisionEnvelope) :
    host.saveAll m (saves ++ [e]) = host.saveDecisionEnvelope (host.saveAll m saves) e := by
  unfold saveAll
  rw [List.foldl_append]
  rfl

theorem saveAll_latest (m : Directory) {saves : List DecisionEnvelope} {last : DecisionEnvelope}
    (h : saves.getLast? = some last) :
    host.saveAll m saves host.latest = some (host.jsonBytes (.dict (host.note last.caseId))) := by
  obtain ⟨front, rfl⟩ := List.getLast?_eq_some_iff.mp h
  rw [saveAll_concat]
  exact host.saveDecisionEnvelope_latest _ _

/-- A file other than the note holds the envelope last saved to it. -/
theorem saveAll_file (m : Directory) {saves : List DecisionEnvelope} {file : List Char}
    {e : DecisionEnvelope} (hfile : file ≠ host.latest)
    (h : (saves.filter (host.slotOf ·.caseId = some file)).getLast? = some e) :
    host.saveAll m saves file = some (host.jsonBytes (.dict e.toDict)) := by
  induction saves using List.reverseRecOn with
  | nil => cases h
  | append_singleton saves last ih =>
    rw [saveAll_concat, host.saveDecisionEnvelope_other hfile]
    by_cases hslot : host.slotOf last.caseId = some file
    · rw [if_pos hslot]
      rw [List.filter_append] at h
      simp [hslot] at h
      rw [h]
    · rw [if_neg hslot]
      apply ih
      rw [List.filter_append] at h
      simpa [hslot] using h

end Host

/-! ## When the store is a map -/

theorem mem_of_lastSaved {saves : List DecisionEnvelope} {caseId : String} {e : DecisionEnvelope}
    (h : lastSaved saves caseId = some e) : e ∈ saves ∧ e.caseId = caseId := by
  have hmem := List.mem_of_getLast? h
  simpa using hmem

theorem lastSaved_of_mem {saves : List DecisionEnvelope} {e : DecisionEnvelope} (h : e ∈ saves) :
    ∃ e', lastSaved saves e.caseId = some e' := by
  have hmem : e ∈ saves.filter (·.caseId = e.caseId) := by simpa using h
  exact ⟨_, List.getLast?_eq_some_getLast (List.ne_nil_of_mem hmem)⟩

theorem lastSaved_last {saves : List DecisionEnvelope} {last : DecisionEnvelope}
    (h : saves.getLast? = some last) : lastSaved saves last.caseId = some last := by
  obtain ⟨front, rfl⟩ := List.getLast?_eq_some_iff.mp h
  unfold lastSaved
  rw [List.filter_append]
  simp

/-- The names keep the cases apart: every case has a file, no two of them the same, and none the
file of the note, where only an envelope that says nothing and was saved last survives. And the
last case has a name. -/
structure KeepsApart (host : Host) (saves : List DecisionEnvelope) : Prop where
  regular : ∀ e ∈ saves, host.slotOf e.caseId ≠ none
  separate : ∀ e ∈ saves, ∀ e' ∈ saves, host.slotOf e.caseId = host.slotOf e'.caseId →
    e.caseId = e'.caseId
  unreserved : ∀ e ∈ saves, host.slotOf e.caseId = some host.latest →
    ∀ last, saves.getLast? = some last → last.toDict = blankDict e.caseId
  named : ∀ last, saves.getLast? = some last → last.caseId ≠ ""

theorem DecisionEnvelope.caseId_of_toDict {e : DecisionEnvelope} {caseId : String}
    (h : e.toDict = blankDict caseId) : e.caseId = caseId := by
  show caseIdOf e.toDict = caseId
  rw [h]
  rfl

/-- A case in the file of the note is loaded from the note. -/
theorem Host.load_reserved (host : Host) (m : Directory) {saves : List DecisionEnvelope}
    {last : DecisionEnvelope} {caseId : String} (hlast : saves.getLast? = some last)
    (hslot : host.slotOf caseId = some host.latest) :
    host.loadDecisionEnvelope (host.saveAll m saves) caseId =
      .ok (some (.dict (blankDict last.caseId))) := by
  rw [host.loadDecisionEnvelope_eq hslot (host.saveAll_latest m hlast) (host.note_wf _),
    modelValidate_note]
  rfl

/-- The latest envelope is that of the case in the note, unless the case has no name. -/
theorem Host.loadLatest_eq (host : Host) (m : Directory) {saves : List DecisionEnvelope}
    {last : DecisionEnvelope} (hlast : saves.getLast? = some last) :
    host.loadLatestDecisionEnvelope (host.saveAll m saves) =
      if last.caseId = "" then .ok none
      else host.loadDecisionEnvelope (host.saveAll m saves) last.caseId := by
  have hbytes : host.fileAt (host.saveAll m saves) "latest.json".toList =
      some (host.jsonBytes (.dict (host.note last.caseId))) := by
    unfold fileAt
    rw [host.slot_latest]
    exact host.saveAll_latest m hlast
  have hcase : (orElse (Dict.get? (host.note last.caseId) "case_id") (.str "")).toText =
      last.caseId := by
    show (orElse (some (.str last.caseId)) (.str "")).toText = last.caseId
    by_cases hempty : last.caseId = ""
    · rw [hempty]
      rfl
    · rw [orElse_str hempty]
      rfl
  unfold loadLatestDecisionEnvelope
  rw [hbytes]
  dsimp only
  rw [jsonBytes, readJson_writeText _ (host.note_wf _)]
  show (if (orElse (Dict.get? (host.note last.caseId) "case_id") (.str "")).toText = "" then
    _ else _) = _
  rw [hcase]
  rfl

theorem KeepsApart.of_isMap {host : Host} {m : Directory} {saves : List DecisionEnvelope}
    (h : IsMap host m saves) : KeepsApart host saves where
  regular := by
    intro e he hnone
    obtain ⟨e', he'⟩ := lastSaved_of_mem he
    have hload := h.load _ _ he'
    rw [host.loadDecisionEnvelope_of_none hnone] at hload
    cases hload
  separate := by
    intro e₁ he₁ e₂ he₂ hslot
    obtain ⟨e₁', he₁'⟩ := lastSaved_of_mem he₁
    obtain ⟨e₂', he₂'⟩ := lastSaved_of_mem he₂
    have hload := h.load _ _ he₁'
    rw [host.loadDecisionEnvelope_congr hslot, h.load _ _ he₂'] at hload
    have hdict : e₂'.toDict = e₁'.toDict := by simpa using hload
    rw [← (mem_of_lastSaved he₁').2, ← (mem_of_lastSaved he₂').2]
    exact congrArg caseIdOf hdict.symm
  unreserved := by
    intro e he hslot last hlast
    obtain ⟨e', he'⟩ := lastSaved_of_mem he
    have hload := h.load _ _ he'
    rw [host.load_reserved m hlast hslot] at hload
    have hdict : blankDict last.caseId = e'.toDict := by simpa using hload
    have hcase : last.caseId = e.caseId :=
      (DecisionEnvelope.caseId_of_toDict hdict.symm).symm.trans (mem_of_lastSaved he').2
    have hsame : some e' = some last := by rw [← he', ← hcase, lastSaved_last hlast]
    rw [← Option.some.inj hsame, ← hdict, hcase]
  named := by
    intro last hlast hempty
    have hload := h.latest _ hlast
    rw [host.loadLatest_eq m hlast, if_pos hempty] at hload
    cases hload

theorem KeepsApart.load {host : Host} {saves : List DecisionEnvelope} (h : KeepsApart host saves)
    (m : Directory) {caseId : String} {e : DecisionEnvelope}
    (he : lastSaved saves caseId = some e) :
    host.loadDecisionEnvelope (host.saveAll m saves) caseId = .ok (some (.dict e.toDict)) := by
  obtain ⟨hmem, rfl⟩ := mem_of_lastSaved he
  obtain ⟨file, hslot⟩ := Option.ne_none_iff_exists'.mp (h.regular e hmem)
  by_cases hlatest : file = host.latest
  · obtain ⟨last, hlast⟩ : ∃ last, saves.getLast? = some last :=
      ⟨_, List.getLast?_eq_some_getLast (List.ne_nil_of_mem hmem)⟩
    rw [hlatest] at hslot
    have hblank := h.unreserved e hmem hslot last hlast
    have hcase := DecisionEnvelope.caseId_of_toDict hblank
    have hsame : some last = some e := by rw [← he, ← hcase, lastSaved_last hlast]
    rw [host.load_reserved m hlast hslot, hcase, ← hblank, Option.some.inj hsame]
  · -- the envelopes in this file are those of the case
    have hfilter : saves.filter (host.slotOf ·.caseId = some file) =
        saves.filter (·.caseId = e.caseId) := by
      apply List.filter_congr
      intro e' he'
      rw [decide_eq_decide]
      exact ⟨fun hslot' => h.separate e' he' e hmem (hslot'.trans hslot.symm),
        fun hcase => by rw [hcase, hslot]⟩
    have hlast : (saves.filter (host.slotOf ·.caseId = some file)).getLast? = some e := by
      rw [hfilter]
      exact he
    rw [host.loadDecisionEnvelope_eq hslot (host.saveAll_file m hlatest hlast) e.wf,
      modelValidate_toDict]
    rfl

/-- After any sequence of saves, in a directory with anything in it, the store is a map exactly
when the names keep the cases apart. -/
theorem store_isMap_iff (host : Host) (m : Directory) (saves : List DecisionEnvelope) :
    IsMap host m saves ↔ KeepsApart host saves := by
  refine ⟨KeepsApart.of_isMap, fun h => ⟨fun caseId e he => h.load m he, fun last hlast => ?_⟩⟩
  rw [host.loadLatest_eq m hlast, if_neg (h.named last hlast)]
  exact h.load m (lastSaved_last hlast)

/-- A host without devices, where every name has a file of its own. -/
def plainHost : Host where
  isAlnum := Char.isAlphanum
  linesep := .lf
  pathText name := ".audit/decision_context/" ++ String.ofList name
  slot := some
  latest := "latest.json".toList
  slot_latest := rfl

/-- An envelope that has only a case. -/
def blankEnvelope (caseId : String) : DecisionEnvelope where
  toDict := blankDict caseId
  conforms := ⟨rfl, trivial, rfl, trivial, blankDetails_conform⟩
  wf := by
    refine ⟨?_, trivial, trivial, blankDetails_wf⟩
    show ("schema_version" :: "case_id" :: envelopeDetails.map Prod.fst).Nodup
    decide +kernel

/-- `a/b` and `a:b` share a file. -/
theorem cases_collide :
    ¬ IsMap plainHost (fun _ => none) [blankEnvelope "a/b", blankEnvelope "a:b"] := by
  intro h
  have hcase := (KeepsApart.of_isMap h).separate (blankEnvelope "a/b") (by simp)
    (blankEnvelope "a:b") (by simp) (by decide +kernel)
  exact absurd hcase (by decide +kernel)

end DecisionContext
