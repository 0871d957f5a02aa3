import Mathlib.Data.List.DropRight
import NetworkRecovery.Audit.Tamper
import NetworkRecovery.Lib.Reactive
import NetworkRecovery.Platform.RecentReaders
import NetworkRecovery.Python.Float

/-!
# The chained rows of the platform's audit log

Two writers append to `audit.jsonl`. `append_contract_audit` of `product_contract.py` chains
its row to the last row of the log; `write_audit` of `audit.py` writes a row without a hash,
and the next chained row begins a new chain. So a hash vouches for the rows back to the last
row of the other writer, and for nothing before it (`history_bound`).

An append reads the last row and then writes, and nothing keeps others from writing in
between. Whatever the order, each chained row is chained to a row that was the last one at
some time before, and hashes to what it says (`reachable_chained`).
-/

namespace Contract

open Python Audit Platform Reactive

/-! ## Rows -/

/-- `PlatformEventKind`. -/
inductive PlatformEventKind where
  | diagnosisRun
  | correlationRun
  | remediationPreview
  | remediationExecuteAttempt
  | remediationBlocked
  | lkgSnapshot
  | rollbackPreview
  | agentNextStep
  deriving DecidableEq

def PlatformEventKind.text : PlatformEventKind → String
  | .diagnosisRun => "diagnosis_run"
  | .correlationRun => "correlation_run"
  | .remediationPreview => "remediation_preview"
  | .remediationExecuteAttempt => "remediation_execute_attempt"
  | .remediationBlocked => "remediation_blocked"
  | .lkgSnapshot => "lkg_snapshot"
  | .rollbackPreview => "rollback_preview"
  | .agentNextStep => "agent_next_step"

/-- `EvidenceLevelName`. -/
inductive EvidenceLevelName where
  | observation
  | inference
  | proof
  deriving DecidableEq

def EvidenceLevelName.text : EvidenceLevelName → String
  | .observation => "observation"
  | .inference => "inference"
  | .proof => "proof"

/-- `PlatformAuditEvent`; its two hashes are empty until it is written. -/
structure PlatformAuditEvent where
  eventId : String
  timestamp : String
  endpointId : String := ""
  eventKind : PlatformEventKind
  observations : List WFDict := []
  summary : String := ""
  hypothesis : List String := []
  confidence : FloatVal := .zero
  evidenceLevel : EvidenceLevelName := .observation
  policyDecision : String := ""
  actor : String := "platform"
  replayRef : String := ""
  runId : String := ""

/-- `event.model_dump(mode="json")`. -/
def PlatformAuditEvent.modelDump (e : PlatformAuditEvent) : Dict :=
  [("event_id", .str e.eventId), ("timestamp", .str e.timestamp),
    ("endpoint_id", .str e.endpointId), ("event_kind", .str e.eventKind.text),
    ("observations", .list (e.observations.map fun obs => .dict obs.1)),
    ("summary", .str e.summary), ("hypothesis", textList e.hypothesis),
    ("confidence", .float e.confidence), ("evidence_level", .str e.evidenceLevel.text),
    ("policy_decision", .str e.policyDecision), ("actor", .str e.actor),
    ("replay_ref", .str e.replayRef), ("run_id", .str e.runId), ("previous_hash", .str ""),
    ("hash", .str "")]

/-- `PlatformAuditRecord`. -/
structure PlatformAuditRecord where
  auditId : String
  actor : String
  action : String
  targetType : String := ""
  targetId : String := ""
  decision : String := ""
  rationale : String := ""
  timestamp : String

/-- `rec.model_dump()`. -/
def PlatformAuditRecord.modelDump (r : PlatformAuditRecord) : Dict :=
  [("audit_id", .str r.auditId), ("actor", .str r.actor), ("action", .str r.action),
    ("target_type", .str r.targetType), ("target_id", .str r.targetId),
    ("decision", .str r.decision), ("rationale", .str r.rationale),
    ("timestamp", .str r.timestamp)]

/-- The payload without its hash. -/
def eventBody (payload : Dict) : Dict := payload.filter fun e => e.1 != "hash"

/-- `hash_event_payload`. -/
def hashEventPayload (H : Digest) (payload : Dict) (previousHash : String) : String :=
  H.hexdigest (encode (dumps .plain (Value.sortKeys (.dict
    [("previous_hash", .str previousHash), ("event", .dict (eventBody payload))]))))

/-- `str(row.get("hash") or row.get("event_hash") or "")`. -/
def rowHash (row : Dict) : String :=
  (orElse (row.get? "hash") (orElse (row.get? "event_hash") (.str ""))).toText

/-- The hash of the last row, if it has one. -/
def tailHash (rows : List Dict) : String := (rows.getLast?.map rowHash).getD ""

/-- The row that an event becomes behind a hash. -/
def chainedRow (H : Digest) (e : PlatformAuditEvent) (previous : String) : Dict :=
  let payload := e.modelDump.set "previous_hash" (.str previous)
  payload.set "hash" (.str (hashEventPayload H payload previous))

/-- What `append_contract_audit` reads. -/
def readTail (file : File) : Except PyError String := (readRecentJsonl file 1).map tailHash

/-- `append_contract_audit`. -/
def appendContractAudit (H : Digest) (sep : Linesep) (file : File) (e : PlatformAuditEvent) :
    Except PyError (File × String) := do
  let previous ← readTail file
  return (appendJsonl sep file (chainedRow H e previous), e.eventId)

/-- `record_audit`, of the record of `write_audit`. -/
def recordAudit (sep : Linesep) (file : File) (r : PlatformAuditRecord) : File :=
  appendJsonl sep file r.modelDump

/-! ## What a row says -/

theorem modelDump_wf (e : PlatformAuditEvent) : (Value.dict e.modelDump).WF := by
  have hobservations : (Value.list (e.observations.map fun obs => .dict obs.1)).WF := by
    show ListWF _
    induction e.observations with
    | nil => trivial
    | cons obs rest ih => exact ⟨obs.2, ih⟩
  refine ⟨?_, trivial, trivial, trivial, trivial, hobservations, trivial, textList_wf _, trivial,
    trivial, trivial, trivial, trivial, trivial, trivial, trivial, trivial⟩
  show ["event_id", "timestamp", "endpoint_id", "event_kind", "observations", "summary",
    "hypothesis", "confidence", "evidence_level", "policy_decision", "actor", "replay_ref",
    "run_id", "previous_hash", "hash"].Nodup
  decide

theorem record_wf (r : PlatformAuditRecord) : (Value.dict r.modelDump).WF := by
  refine ⟨?_, trivial, trivial, trivial, trivial, trivial, trivial, trivial, trivial, trivial⟩
  show ["audit_id", "actor", "action", "target_type", "target_id", "decision", "rationale",
    "timestamp"].Nodup
  decide

theorem chainedRow_wf (H : Digest) (e : PlatformAuditEvent) (previous : String) :
    (Value.dict (chainedRow H e previous)).WF := by
  have hprevious : (Value.str previous).WF := trivial
  have hhash : ∀ s : String, (Value.str s).WF := fun _ => trivial
  exact ((modelDump_wf e).set "previous_hash" hprevious).set "hash" (hhash _)

theorem get?_chainedRow_hash (H : Digest) (e : PlatformAuditEvent) (previous : String) :
    (chainedRow H e previous).get? "hash" = some (.str (hashEventPayload H
      (e.modelDump.set "previous_hash" (.str previous)) previous)) := Dict.get?_set_self _ _ _

theorem get?_chainedRow_previous (H : Digest) (e : PlatformAuditEvent) (previous : String) :
    (chainedRow H e previous).get? "previous_hash" = some (.str previous) := by
  unfold chainedRow
  dsimp only
  rw [Dict.get?_set_of_ne _ (by decide), Dict.get?_set_self]

/-- The hash of a row does not depend on the hash that stands in it. -/
theorem hashEventPayload_chainedRow (H : Digest) (e : PlatformAuditEvent) (previous : String) :
    hashEventPayload H (chainedRow H e previous) previous =
      hashEventPayload H (e.modelDump.set "previous_hash" (.str previous)) previous := by
  have hbody : eventBody (chainedRow H e previous) =
      eventBody (e.modelDump.set "previous_hash" (.str previous)) :=
    Dict.filter_set (p := fun k => k != "hash") (by decide) _ _
  unfold hashEventPayload
  rw [hbody]

theorem hashEventPayload_ne_empty (H : Digest) (payload : Dict) (previous : String) :
    hashEventPayload H payload previous ≠ "" := by
  intro h
  have hlong := H.long (encode (dumps .plain (Value.sortKeys (.dict
    [("previous_hash", .str previous), ("event", .dict (eventBody payload))]))))
  rw [show H.hexdigest _ = "" from h] at hlong
  exact absurd hlong (by decide)

/-! ## Chained logs -/

/-- A row that says a hash. -/
def isChained (row : Dict) : Bool := (row.get? "hash").isSome

/-- A row of `write_audit`, as far as the chain sees it. -/
def IsPlain (row : Dict) : Prop := row.get? "hash" = none ∧ row.get? "event_hash" = none

/-- A row that says a hash says the one before it, and what follows from that. -/
def Follows (H : Digest) (earlier : List Dict) (row : Dict) : Prop :=
  isChained row = true → row.get? "previous_hash" = some (.str (tailHash earlier)) ∧
    row.get? "hash" = some (.str (hashEventPayload H row (tailHash earlier)))

/-- A log in which every chained row follows the rows before it. -/
def Verified (H : Digest) (rows : List Dict) : Prop := Each (Follows H) [] rows

/-- The chained rows since the last row of the other writer. -/
def stretch (R : List WFDict) : List WFDict := R.rtakeWhile fun row => isChained row.1

theorem tailHash_concat (rows : List Dict) (row : Dict) :
    tailHash (rows ++ [row]) = rowHash row := by
  unfold tailHash
  rw [List.getLast?_concat]
  rfl

theorem rowHash_plain {row : Dict} (h : IsPlain row) : rowHash row = "" := by
  unfold rowHash
  rw [h.1, h.2]
  rfl

theorem isChained_plain {row : Dict} (h : IsPlain row) : isChained row = false := by
  unfold isChained
  rw [h.1]
  rfl

/-- Where it has been verified, the hash of a row is what follows from the one before. -/
theorem rowHash_of_follows {H : Digest} {earlier : List Dict} {row : Dict}
    (h : Follows H earlier row) (hchained : isChained row = true) :
    rowHash row = hashEventPayload H row (tailHash earlier) := by
  unfold rowHash
  rw [(h hchained).2, orElse_str (hashEventPayload_ne_empty H row _)]
  rfl

theorem follows_congr {H : Digest} {earlier earlier' : List Dict} {row : Dict}
    (h : tailHash earlier = tailHash earlier') : Follows H earlier row ↔ Follows H earlier' row := by
  unfold Follows
  rw [h]

theorem verified_concat {H : Digest} {rows : List Dict} {row : Dict} :
    Verified H (rows ++ [row]) ↔ Verified H rows ∧ Follows H rows row := by
  unfold Verified
  rw [each_snoc_iff, List.nil_append]

/-- What an event becomes follows the rows whose hash was read. -/
theorem follows_chainedRow (H : Digest) (rows : List Dict) (e : PlatformAuditEvent) :
    Follows H rows (chainedRow H e (tailHash rows)) := by
  intro _
  refine ⟨get?_chainedRow_previous H e _, ?_⟩
  rw [get?_chainedRow_hash, hashEventPayload_chainedRow]

theorem isPlain_record (r : PlatformAuditRecord) : IsPlain r.modelDump := ⟨rfl, rfl⟩

theorem follows_plain {H : Digest} {earlier : List Dict} {row : Dict} (h : IsPlain row) :
    Follows H earlier row := by
  intro hchained
  rw [isChained_plain h] at hchained
  cases hchained

/-- Nothing after a plain row depends on what is before it: in a log that verifies, the rows
before it may be exchanged for any others that verify. -/
theorem verified_exchange {H : Digest} {front front' back : List Dict} {note : Dict}
    (hnote : IsPlain note) (h : Verified H (front ++ note :: back)) (h' : Verified H front') :
    Verified H (front' ++ note :: back) := by
  induction back using List.reverseRecOn with
  | nil => exact verified_concat.mpr ⟨h', follows_plain hnote⟩
  | append_singleton back row ih =>
    rw [← List.cons_append, ← List.append_assoc] at h ⊢
    obtain ⟨hback, hrow⟩ := verified_concat.mp h
    have htail : tailHash (front ++ note :: back) = tailHash (front' ++ note :: back) := by
      unfold tailHash
      rw [List.getLast?_append_of_ne_nil _ (List.cons_ne_nil _ _),
        List.getLast?_append_of_ne_nil _ (List.cons_ne_nil _ _)]
    exact verified_concat.mpr ⟨ih hback, (follows_congr htail).mp hrow⟩

/-! ## What a hash vouches for -/

/-- The body of a row. -/
def bodyOf (row : WFDict) : WFDict :=
  ⟨eventBody row.1, row.2.1.sublist (List.filter_sublist.map _), entriesWF_filter _ row.2.2⟩

/-- The link of the chain. -/
def link (H : Digest) (previous : String) (body : WFDict) : String :=
  hashEventPayload H body.1 previous

theorem link_bodyOf (H : Digest) (previous : String) (row : WFDict) :
    link H previous (bodyOf row) = hashEventPayload H row.1 previous := by
  have hbody : eventBody (eventBody row.1) = eventBody row.1 := by
    unfold eventBody
    rw [List.filter_filter]
    simp
  unfold link hashEventPayload bodyOf
  rw [hbody]

/-- Two rows that say the same, but for the order of their keys and their hashes. -/
def SameBody (row row' : WFDict) : Prop :=
  (Value.dict (eventBody row.1)).Same (.dict (eventBody row'.1))

theorem sortKeys_envelope (previous : String) (body : Dict) :
    Value.sortKeys (.dict [("previous_hash", .str previous), ("event", .dict body)]) =
      .dict [("event", (Value.dict body).sortKeys), ("previous_hash", .str previous)] := by
  simp [Value.sortKeys, sortEntries, insertEntry]

theorem link_injective {H : Digest} (hinj : Function.Injective H.hexdigest)
    {previous previous' : String} {row row' : WFDict}
    (h : link H previous row = link H previous' row') :
    previous = previous' ∧ SameBody row row' := by
  have hwf : ∀ (p : String) (r : WFDict), (Value.dict [("event", (Value.dict (bodyOf r).1).sortKeys),
      ("previous_hash", .str p)]).WF := by
    intro p r
    have hbody : ((Value.dict (bodyOf r).1).sortKeys).WF := (bodyOf r).2.sortKeys
    refine ⟨?_, hbody, trivial, trivial⟩
    show ["event", "previous_hash"].Nodup
    decide
  have hfinite : ∀ v : Value, Style.plain.nanText = false → v.Finite := fun _ h => absurd h (by decide)
  have htext := encode_injective (hinj h)
  rw [sortKeys_envelope, sortKeys_envelope] at htext
  have hrow := loads_dumps .plain (hwf previous row) (hfinite _)
  have hrow' := loads_dumps .plain (hwf previous' row') (hfinite _)
  unfold bodyOf at hrow hrow'
  rw [htext, hrow'] at hrow
  injection hrow with hrow
  simp only [Value.dict.injEq, List.cons.injEq, Prod.mk.injEq, Value.str.injEq, true_and,
    and_true] at hrow
  exact ⟨hrow.2.symm, hrow.1.symm⟩

theorem link_ne_empty (H : Digest) (previous : String) (body : WFDict) :
    link H previous body ≠ "" := hashEventPayload_ne_empty H body.1 previous

/-- A row that is chained, or one of the other writer. -/
def Recognized (row : Dict) : Prop := isChained row = true ∨ IsPlain row

/-- The tail of a log that verifies is the tip of the chain of its last stretch. -/
theorem tailHash_eq_tip {H : Digest} {R : List WFDict} (hverified : Verified H (R.map Subtype.val))
    (hrows : ∀ row ∈ R, Recognized row.1) :
    tailHash (R.map Subtype.val) =
      HashChain.tip (link H) "" ((stretch R).map bodyOf) := by
  induction R using List.reverseRecOn with
  | nil => rfl
  | append_singleton R row ih =>
    rw [List.map_append, List.map_singleton] at hverified ⊢
    obtain ⟨hR, hrow⟩ := verified_concat.mp hverified
    have ih := ih hR fun r hr => hrows r (List.mem_append_left _ hr)
    rw [tailHash_concat]
    rcases hrows row (List.mem_append_right _ (List.mem_singleton_self row)) with hchained | hplain
    · have hstretch : stretch (R ++ [row]) = stretch R ++ [row] :=
        List.rtakeWhile_concat_pos _ _ _ hchained
      rw [hstretch, List.map_append, List.map_singleton, HashChain.tip_concat, link_bodyOf, ← ih]
      exact rowHash_of_follows hrow hchained
    · have hnot : ¬isChained row.1 = true := by
        rw [isChained_plain hplain]
        exact Bool.false_ne_true
      have hstretch : stretch (R ++ [row]) = [] := List.rtakeWhile_concat_neg _ _ _ hnot
      rw [hstretch]
      exact rowHash_plain hplain

/-- Two logs that verify and end in one hash have the same rows in their last stretches. -/
theorem stretch_bound {H : Digest} (hinj : Function.Injective H.hexdigest) {R R' : List WFDict}
    (hR : Verified H (R.map Subtype.val)) (hR' : Verified H (R'.map Subtype.val))
    (hrows : ∀ row ∈ R, Recognized row.1) (hrows' : ∀ row ∈ R', Recognized row.1)
    (htail : tailHash (R.map Subtype.val) = tailHash (R'.map Subtype.val)) :
    List.Forall₂ SameBody (stretch R) (stretch R') := by
  rw [tailHash_eq_tip hR hrows, tailHash_eq_tip hR' hrows'] at htail
  have hbodies := HashChain.tip_binding (link H) "" (fun _ => True) SameBody trivial
    (fun _ _ => trivial) (link_ne_empty H) (fun _ _ _ _ _ _ h => link_injective hinj h) _ _ htail
  rw [List.forall₂_map_left_iff, List.forall₂_map_right_iff] at hbodies
  refine hbodies.imp fun row row' h => ?_
  have hbody : ∀ r : WFDict, eventBody (bodyOf r).1 = eventBody r.1 := by
    intro r
    unfold bodyOf eventBody
    rw [List.filter_filter]
    simp
  unfold SameBody at h ⊢
  rwa [hbody, hbody] at h

/-! ## One append after the other -/

/-- What is appended to the log. -/
inductive Entry where
  | event (e : PlatformAuditEvent)
  | note (r : PlatformAuditRecord)

def Entry.isEvent : Entry → Bool
  | .event _ => true
  | .note _ => false

/-- The log after an append. -/
def Entry.append (H : Digest) (sep : Linesep) (file : File) : Entry → File
  | .event e => ((appendContractAudit H sep file e).map Prod.fst).toOption.getD file
  | .note r => recordAudit sep file r

def history (H : Digest) (sep : Linesep) (entries : List Entry) : File :=
  entries.foldl (Entry.append H sep) none

/-- The row that it adds behind others. -/
def Entry.row (H : Digest) (rows : List WFDict) : Entry → WFDict
  | .event e => ⟨chainedRow H e (tailHash (rows.map Subtype.val)), chainedRow_wf H e _⟩
  | .note r => ⟨r.modelDump, record_wf r⟩

def rowsOf (H : Digest) (entries : List Entry) : List WFDict :=
  entries.foldl (fun rows entry => rows ++ [entry.row H rows]) []

theorem rowsOf_concat (H : Digest) (entries : List Entry) (entry : Entry) :
    rowsOf H (entries ++ [entry]) =
      rowsOf H entries ++ [entry.row H (rowsOf H entries)] := List.foldl_concat _ _ _ _

theorem length_rowsOf (H : Digest) (entries : List Entry) :
    (rowsOf H entries).length = entries.length := by
  induction entries using List.reverseRecOn with
  | nil => rfl
  | append_singleton entries entry ih =>
    rw [rowsOf_concat, List.length_append, List.length_append, ih]
    rfl

theorem isChained_row (H : Digest) (rows : List WFDict) (entry : Entry) :
    isChained (entry.row H rows).1 = entry.isEvent := by
  cases entry with
  | event e => exact congrArg Option.isSome (get?_chainedRow_hash H e _)
  | note r => rfl

theorem recognized_rowsOf (H : Digest) (entries : List Entry) :
    ∀ row ∈ rowsOf H entries, Recognized row.1 := by
  induction entries using List.reverseRecOn with
  | nil => exact fun row hrow => absurd hrow List.not_mem_nil
  | append_singleton entries entry ih =>
    intro row hrow
    rw [rowsOf_concat] at hrow
    rcases List.mem_append.mp hrow with hrow | hrow
    · exact ih row hrow
    · rw [List.mem_singleton.mp hrow]
      cases entry with
      | event e => exact .inl (isChained_row H _ (.event e))
      | note r => exact .inr (isPlain_record r)

theorem verified_rowsOf (H : Digest) (entries : List Entry) :
    Verified H ((rowsOf H entries).map Subtype.val) := by
  induction entries using List.reverseRecOn with
  | nil => exact Each.nil _ _
  | append_singleton entries entry ih =>
    rw [rowsOf_concat, List.map_append, List.map_singleton]
    refine verified_concat.mpr ⟨ih, ?_⟩
    cases entry with
    | event e => exact follows_chainedRow H _ e
    | note r => exact follows_plain (isPlain_record r)

/-- The last stretch is that of the last events. -/
theorem length_stretch_rowsOf (H : Digest) (entries : List Entry) :
    (stretch (rowsOf H entries)).length = (entries.rtakeWhile Entry.isEvent).length := by
  induction entries using List.reverseRecOn with
  | nil => rfl
  | append_singleton entries entry ih =>
    unfold stretch at ih ⊢
    rw [rowsOf_concat, List.rtakeWhile_concat, List.rtakeWhile_concat, isChained_row]
    split
    · rw [List.length_append, List.length_append, ih]
      rfl
    · rfl

/-- The one newest row is the last. -/
theorem readRecentJsonl_one (log : JsonlFile) :
    ∃ rows, readRecentJsonl log.file 1 = .ok rows ∧ rows.getLast? = log.rows.getLast? := by
  have hlast : (log.rows.drop (log.rows.length - 1)).getLast? = log.rows.getLast? := by
    rw [List.getLast?_drop]
    split
    · next hle =>
      rw [List.length_eq_zero_iff.mp (by omega : log.rows.length = 0)]
      rfl
    · rfl
  unfold readRecentJsonl
  rw [log.reads]
  refine ⟨if log.rows.length ≤ 1 then log.rows else log.rows.drop (log.rows.length - 1), rfl, ?_⟩
  rw [apply_ite List.getLast?, hlast, ite_self]

/-- What an append reads is the hash of the last row. -/
theorem readTail_eq (log : JsonlFile) : readTail log.file = .ok (tailHash log.rows) := by
  obtain ⟨rows, hread, hlast⟩ := readRecentJsonl_one log
  unfold readTail tailHash
  rw [hread, ← hlast]
  rfl

theorem history_rows (H : Digest) (sep : Linesep) (entries : List Entry) :
    ∃ log : JsonlFile, log.file = history H sep entries ∧
      log.rows = (rowsOf H entries).map Subtype.val := by
  induction entries using List.reverseRecOn with
  | nil => exact ⟨.absent, rfl, rfl⟩
  | append_singleton entries entry ih =>
    obtain ⟨log, hfile, hrows⟩ := ih
    have hstep : history H sep (entries ++ [entry]) = entry.append H sep log.file := by
      rw [hfile]
      exact List.foldl_concat _ _ _ _
    refine ⟨log.append sep _ (entry.row H (rowsOf H entries)).2, ?_, ?_⟩
    · rw [hstep]
      cases entry with
      | event e =>
        unfold Entry.append appendContractAudit
        rw [readTail_eq, hrows]
        rfl
      | note r => rfl
    · rw [rowsOf_concat, List.map_append]
      exact congrArg (· ++ _) hrows

/-- After any appends, one after the other: the log verifies, and whatever other log verifies and
ends in the same hash has the same rows since the last row of the other writer. The rows before
that one are not vouched for: others that verify may stand in their place. -/
theorem history_bound {H : Digest} (hinj : Function.Injective H.hexdigest) (sep : Linesep)
    (entries : List Entry) :
    ∃ R : List WFDict, iterJsonl (history H sep entries) = .ok (R.map Subtype.val) ∧
      R.length = entries.length ∧ Verified H (R.map Subtype.val) ∧
      (stretch R).length = (entries.rtakeWhile Entry.isEvent).length ∧
      (∀ R' : List WFDict, Verified H (R'.map Subtype.val) → (∀ row ∈ R', Recognized row.1) →
        tailHash (R.map Subtype.val) = tailHash (R'.map Subtype.val) →
        List.Forall₂ SameBody (stretch R) (stretch R')) ∧
      ∀ front note back, R.map Subtype.val = front ++ note :: back → IsPlain note →
        ∀ front', Verified H front' → Verified H (front' ++ note :: back) := by
  obtain ⟨log, hfile, hrows⟩ := history_rows H sep entries
  have hverified := verified_rowsOf H entries
  refine ⟨rowsOf H entries, ?_, length_rowsOf H entries, hverified,
    length_stretch_rowsOf H entries, ?_, ?_⟩
  · rw [← hfile, log.reads, hrows]
  · intro R' hR' hrows' htail
    exact stretch_bound hinj hverified hR' (recognized_rowsOf H entries) hrows' htail
  · intro front note back hsplit hnote front' hfront'
    rw [hsplit] at hverified
    exact verified_exchange hnote hverified hfront'

def runEvent : PlatformAuditEvent where
  eventId := "e1"
  timestamp := "2026-01-01T00:00:00+00:00"
  eventKind := .diagnosisRun

def previewNote : PlatformAuditRecord where
  auditId := "a1"
  actor := "operator"
  action := "remediation_preview"
  timestamp := "2026-01-01T00:00:01+00:00"

theorem history_bound_noteBetween : ∃ R : List WFDict,
    iterJsonl (history plainDigest .lf [.event runEvent, .note previewNote, .event runEvent]) =
      .ok (R.map Subtype.val) ∧ R.length = 3 ∧ (stretch R).length = 1 := by
  obtain ⟨R, hreads, hlength, -, hstretch, -⟩ := history_bound plainDigest_injective .lf
    [.event runEvent, .note previewNote, .event runEvent]
  exact ⟨R, hreads, hlength, hstretch⟩

/-! ## Appends side by side -/

/-- Where an append of an event is. -/
inductive Phase where
  | idle
  | read (e : PlatformAuditEvent) (previous : String)

/-- The log, and those who append to it. -/
structure System (Pid : Type) where
  log : JsonlFile
  phase : Pid → Phase

variable {Pid : Type} [DecidableEq Pid]

def System.move (sys : System Pid) (p : Pid) (phase : Phase) : System Pid :=
  { sys with phase := Function.update sys.phase p phase }

@[simp] theorem System.move_phase_self (sys : System Pid) (p : Pid) (phase : Phase) :
    (sys.move p phase).phase p = phase := Function.update_self _ _ _

theorem System.move_phase_of_ne (sys : System Pid) {p q : Pid} (h : q ≠ p) (phase : Phase) :
    (sys.move p phase).phase q = sys.phase q := Function.update_of_ne h _ _

def System.append (sep : Linesep) (sys : System Pid) (row : WFDict) : System Pid :=
  { sys with log := sys.log.append sep row.1 row.2 }

/-- One move: a row of the other writer, or one of the two halves of an append of an event. -/
inductive Step (H : Digest) (sep : Linesep) : System Pid → System Pid → Prop
  | note {sys : System Pid} (r : PlatformAuditRecord) :
      Step H sep sys (sys.append sep ⟨r.modelDump, record_wf r⟩)
  | read {sys : System Pid} {p : Pid} {e : PlatformAuditEvent} {previous : String}
      (idle : sys.phase p = .idle) (tail : readTail sys.log.file = .ok previous) :
      Step H sep sys (sys.move p (.read e previous))
  | write {sys : System Pid} {p : Pid} {e : PlatformAuditEvent} {previous : String}
      (read : sys.phase p = .read e previous) :
      Step H sep sys
        ((sys.append sep ⟨chainedRow H e previous, chainedRow_wf H e previous⟩).move p .idle)

/-- An empty log, and nobody at work. -/
def System.init (Pid : Type) : System Pid := ⟨.absent, fun _ => .idle⟩

/-- What a row is: one of the other writer, or an event behind the hash of a row before it that
was the last one then. -/
inductive Written (H : Digest) (earlier : List Dict) : Dict → Prop
  | note (r : PlatformAuditRecord) : Written H earlier r.modelDump
  | event (e : PlatformAuditEvent) {front : List Dict} (before : front <+: earlier) :
      Written H earlier (chainedRow H e (tailHash front))

/-- Each row has been written, and each hash that has been read was the tail once. -/
structure Holds (H : Digest) (sys : System Pid) : Prop where
  rows : Each (Written H) [] sys.log.rows
  read : ∀ p e previous, sys.phase p = .read e previous →
    ∃ front, front <+: sys.log.rows ∧ previous = tailHash front

theorem Step.holds {H : Digest} {sep : Linesep} {sys sys' : System Pid} (hstep : Step H sep sys sys')
    (h : Holds H sys) : Holds H sys' := by
  cases hstep with
  | note r =>
    refine ⟨each_snoc_iff.mpr ⟨h.rows, .note r⟩, fun p e previous hread => ?_⟩
    obtain ⟨front, hfront, hprevious⟩ := h.read p e previous hread
    exact ⟨front, hfront.trans (List.prefix_append _ _), hprevious⟩
  | @read p e previous idle tail =>
    refine ⟨h.rows, fun q e' previous' hread => ?_⟩
    by_cases hq : q = p
    · subst hq
      rw [System.move_phase_self] at hread
      obtain ⟨rfl, rfl⟩ : e = e' ∧ previous = previous' := by simpa using hread
      rw [readTail_eq] at tail
      exact ⟨sys.log.rows, List.prefix_refl _, (Except.ok.inj tail).symm⟩
    · rw [System.move_phase_of_ne _ hq] at hread
      exact h.read q e' previous' hread
  | @write p e previous read =>
    obtain ⟨front, hfront, rfl⟩ := h.read p e previous read
    refine ⟨each_snoc_iff.mpr ⟨h.rows, .event e hfront⟩, fun q e' previous' hread => ?_⟩
    by_cases hq : q = p
    · subst hq
      rw [System.move_phase_self] at hread
      cases hread
    · rw [System.move_phase_of_ne _ hq] at hread
      obtain ⟨front', hfront', hprevious'⟩ := h.read q e' previous' hread
      exact ⟨front', hfront'.trans (List.prefix_append _ _), hprevious'⟩

open Relation in
/-- However appends go side by side: each row is one of the other writer, or it says the hash of a
row before it that was the last one once, or none if there was none, and a hash that follows from
that and from what it says. -/
theorem reachable_chained {H : Digest} {sep : Linesep} {sys : System Pid}
    (h : ReflTransGen (Step H sep) (System.init Pid) sys) :
    iterJsonl sys.log.file = .ok sys.log.rows ∧
    Each (fun earlier row => IsPlain row ∨ isChained row = true ∧
      ∃ front, front <+: earlier ∧ Follows H front row) [] sys.log.rows := by
  have hholds : Holds H sys := by
    induction h with
    | refl => exact ⟨Each.nil _ _, fun p e previous hread => by cases hread⟩
    | tail _ hstep ih => exact hstep.holds ih
  refine ⟨sys.log.reads, fun pre row post hsplit => ?_⟩
  cases hholds.rows pre row post hsplit with
  | note r => exact .inl (isPlain_record r)
  | event e hfront =>
    refine .inr ⟨?_, _, hfront, follows_chainedRow H _ e⟩
    exact congrArg Option.isSome (get?_chainedRow_hash H e _)

/-- Two events of which neither saw the other: the second one forks off. -/
theorem fork_unverified (H : Digest) (e e' : PlatformAuditEvent) :
    ¬Verified H [chainedRow H e "", chainedRow H e' ""] := by
  intro h
  have hsplit : [chainedRow H e "", chainedRow H e' ""] =
      [chainedRow H e ""] ++ [chainedRow H e' ""] := rfl
  rw [hsplit] at h
  obtain ⟨hfirst, hsecond⟩ := verified_concat.mp h
  have hchained : ∀ e : PlatformAuditEvent, isChained (chainedRow H e "") = true :=
    fun e => congrArg Option.isSome (get?_chainedRow_hash H e "")
  have hprevious := (get?_chainedRow_previous H e' "").symm.trans (hsecond (hchained e')).1
  have hempty : "" = rowHash (chainedRow H e "") := Value.str.inj (Option.some.inj hprevious)
  have hfollows : Follows H [] (chainedRow H e "") := follows_chainedRow H [] e
  rw [rowHash_of_follows hfollows (hchained e)] at hempty
  exact hashEventPayload_ne_empty H _ _ hempty.symm

/-- Both read the empty log before either writes. -/
theorem reachable_chained_fork : ∃ sys : System Bool,
    sys.log.rows = [chainedRow sha256 runEvent "", chainedRow sha256 runEvent ""] ∧
    Each (fun earlier row => IsPlain row ∨ isChained row = true ∧
      ∃ front, front <+: earlier ∧ Follows sha256 front row) [] sys.log.rows := by
  let start := System.init Bool
  let read := (start.move true (.read runEvent "")).move false (.read runEvent "")
  let row : WFDict := ⟨chainedRow sha256 runEvent "", chainedRow_wf sha256 runEvent ""⟩
  let wrote := (read.append .lf row).move true .idle
  let last := (wrote.append .lf row).move false .idle
  have htail : readTail start.log.file = .ok "" := readTail_eq start.log
  have hfirst : Step sha256 .lf start (start.move true (.read runEvent "")) := .read rfl htail
  have hsecond : Step sha256 .lf (start.move true (.read runEvent "")) read := .read rfl htail
  have hthird : Step sha256 .lf read wrote := .write rfl
  have hfourth : Step sha256 .lf wrote last := .write rfl
  have hrun : Relation.ReflTransGen (Step sha256 .lf) start last :=
    (((Relation.ReflTransGen.single hfirst).tail hsecond).tail hthird).tail hfourth
  exact ⟨last, rfl, (reachable_chained hrun).2⟩

end Contract
