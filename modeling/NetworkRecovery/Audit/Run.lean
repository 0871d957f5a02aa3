import NetworkRecovery.Audit.LogLaws

/-!
# Runs of the audit writer

What one call of `append_audit` does to the text of the log
(`appendAudit_eq`, and `appendAudit_inv` read backwards), what a run of calls
does (`appendAll_text`), and the run law: the readers get back exactly what
was appended, the chain verifies and the anchor matches.

The law holds of a run if and ONLY if no call carries a separator. One
direction is the invariant of clean runs (`CleanRun`); the other needs no
knowledge of what a broken row does to the chain, since the anchor's count of
lines already exceeds the number of appends.
-/

namespace Audit

open Python

/-! ## One call -/

/-- The text of a file, an absent one being empty. -/
def fileText : File → Option (List Char)
  | none => some []
  | some b => readText b

theorem readChainTip_eq (f : File) : readChainTip f =
    match fileText f with
    | some text => chainTip text
    | none => .error .unicodeDecode := by
  cases f with
  | none => rfl
  | some b =>
    simp only [readChainTip, readFile, fileText]
    cases readText b <;> rfl

theorem readAuditRecords_eq {f : File} {text : List Char} (h : fileText f = some text) :
    readAuditRecords f = .ok (auditRecords text) := by
  cases f with
  | none =>
    cases h
    rfl
  | some b =>
    have hb : readText b = some text := h
    simp [readAuditRecords, readFile, hb, Except.map]

theorem countRecords_eq {f : File} {text : List Char} (h : fileText f = some text) :
    countRecords f = .ok (countNonBlank text) := by
  cases f with
  | none =>
    cases h
    rfl
  | some b =>
    have hb : readText b = some text := h
    simp [countRecords, readFile, hb, Except.map]

/-- Appending a record appends its row to the text. -/
theorem fileText_appendRow (host : Host) {f : File} {text : List Char}
    (h : fileText f = some text) (r : AuditRecord) :
    fileText (appendRow host f r) = some (text ++ r.modelDumpJson ++ ['\n']) := by
  have hbase : readText (f.getD .empty) = some text := by
    cases f with
    | none =>
      cases h
      rfl
    | some b => exact h
  have hne : r.modelDumpJson ≠ [] := by
    obtain ⟨rest, hrest⟩ := r.modelDumpJson_head
    rw [hrest]
    simp
  exact readText_appendText host.linesep hbase hne r.lineFeed_not_mem r.carriageReturn_not_mem

/-- The store after a call that found the text and the hash. -/
def appended (host : Host) (stamp : Stamp) (s : Store) (text : List Char) (r : AuditRecord) :
    Store :=
  ⟨appendRow host s.log r, writeTipAnchor host stamp.anchoredAtUtc.1 r.currentHash
    (countNonBlank (text ++ r.modelDumpJson ++ ['\n']))⟩

theorem appendAudit_eq (H : Digest) (host : Host) (call : Call) (stamp : Stamp) {s : Store}
    {text : List Char} {prev : String} (htext : fileText s.log = some text)
    (hprev : chainTip text = .ok prev) :
    appendAudit H host call stamp s =
      .ok (newRecord H call stamp prev, appended host stamp s text (newRecord H call stamp prev)) := by
  have hread : readChainTip s.log = .ok prev := by rw [readChainTip_eq, htext]; exact hprev
  have hcount := countRecords_eq (fileText_appendRow host htext (newRecord H call stamp prev))
  simp only [appendAudit, hread, bind, Except.bind, if_true, hcount, pure, Except.pure, appended]

/-- A call that returns found a text and a hash in it. -/
theorem appendAudit_inv {H : Digest} {host : Host} {call : Call} {stamp : Stamp} {s s' : Store}
    {r : AuditRecord} (h : appendAudit H host call stamp s = .ok (r, s')) :
    ∃ text prev, fileText s.log = some text ∧ chainTip text = .ok prev ∧
      r = newRecord H call stamp prev ∧ s' = appended host stamp s text r := by
  have hread : ∃ prev, readChainTip s.log = .ok prev := by
    cases hr : readChainTip s.log with
    | ok prev => exact ⟨prev, rfl⟩
    | error e =>
      simp only [appendAudit, hr, bind, Except.bind] at h
      exact absurd h (by simp)
  obtain ⟨prev, hprev⟩ := hread
  rw [readChainTip_eq] at hprev
  cases htext : fileText s.log with
  | none =>
    rw [htext] at hprev
    exact absurd hprev (by simp)
  | some text =>
    rw [htext] at hprev
    rw [appendAudit_eq H host call stamp htext hprev] at h
    obtain ⟨rfl, rfl⟩ := Prod.mk.inj (Except.ok.inj h)
    exact ⟨text, prev, rfl, hprev, rfl, rfl⟩

/-! ## The record of a call -/

/-- No string of the call holds a separator. -/
def Call.SeparatorFree (call : Call) : Prop :=
  ∀ c ∈ call.traceId.toList ++ call.decisionId.toList ++ call.incidentId.toList ++
      call.actor.toList ++ (Value.dict call.payloadOrEmpty.entries).chars,
    isSeparator c = false

instance (call : Call) : Decidable call.SeparatorFree :=
  List.decidableBAll (fun c => isSeparator c = false) _

section NewRecord

variable (H : Digest) (call : Call) (stamp : Stamp) (prev : String)

theorem newRecord_wf : (Value.dict (newRecord H call stamp prev).payload).WF :=
  call.payloadOrEmpty.wf

theorem newRecord_finite : (Value.dict (newRecord H call stamp prev).payload).Finite :=
  call.payloadOrEmpty.finite

theorem newRecord_currentHash : (newRecord H call stamp prev).currentHash =
    chainHash H prev (auditHashBody (newRecord H call stamp prev).modelDump) := rfl

end NewRecord

theorem not_separator_of_printable {c : Char} (h : Printable c) : isSeparator c = false := by
  have hlt := h.2
  simp only [isSeparator, Bool.or_eq_false_iff, beq_eq_false_iff_ne]
  omega

theorem hexValue_printable {c : Char} (h : (hexValue c).isSome) : Printable c := by
  unfold hexValue at h
  unfold Printable
  dsimp only at h
  split at h
  · omega
  · split at h
    · omega
    · split at h
      · omega
      · exact absurd h (by simp)

theorem ActionType.text_printable (a : ActionType) : ∀ c ∈ a.text.toList, Printable c := by
  intro c hc
  have hall : (a.text.toList.all fun c => decide (Printable c)) = true := by
    cases a <;> decide
  exact printable_of_all hall hc

/-- A record without separators comes from a call without separators. -/
theorem separatorFree_of_newRecord {H : Digest} {call : Call} {stamp : Stamp} {prev : String}
    (h : (newRecord H call stamp prev).SeparatorFree) : call.SeparatorFree := by
  unfold AuditRecord.SeparatorFree at h
  simp only [AuditRecord.modelDump, Value.chars, entryChars, List.forall_mem_append,
    and_assoc] at h
  obtain ⟨-, -, -, -, -, -, -, -, -, trace, -, decision, -, incident, -, actor, -, payload, -⟩ := h
  unfold Call.SeparatorFree
  simp only [List.forall_mem_append]
  exact ⟨⟨⟨⟨trace, decision⟩, incident⟩, actor⟩, payload⟩

/-- And the other way, as long as the hash it is chained to has none. -/
theorem newRecord_separatorFree (H : Digest) {call : Call} (stamp : Stamp) {prev : String}
    (hcall : call.SeparatorFree) (hprev : ∀ c ∈ prev.toList, Printable c) :
    (newRecord H call stamp prev).SeparatorFree := by
  have key : ∀ k ∈ ["audit_id", "schema_version", "timestamp_utc", "action_type", "trace_id",
      "decision_id", "incident_id", "actor", "payload", "previous_hash", "current_hash",
      "signature_status"], ∀ c ∈ k.toList, isSeparator c = false := by
    intro k hk
    apply forall_mem_of_all
    revert k hk
    decide
  have printable : ∀ {s : List Char}, (∀ c ∈ s, Printable c) → ∀ c ∈ s, isSeparator c = false :=
    fun hs c hc => not_separator_of_printable (hs c hc)
  have hhash : ∀ c ∈ (newRecord H call stamp prev).currentHash.toList, isSeparator c = false :=
    printable fun c hc => hexValue_printable (chainHash_hex H prev _ c hc)
  unfold Call.SeparatorFree at hcall
  simp only [List.forall_mem_append, and_assoc] at hcall
  simp only [List.forall_mem_cons] at key
  obtain ⟨trace, decision, incident, actor, payload⟩ := hcall
  obtain ⟨k1, k2, k3, k4, k5, k6, k7, k8, k9, k10, k11, k12, -⟩ := key
  unfold AuditRecord.SeparatorFree
  simp only [AuditRecord.modelDump, Value.chars, entryChars, List.forall_mem_append, and_assoc]
  refine ⟨k1, printable stamp.auditId.2, k2, ?_, k3, printable stamp.timestampUtc.2, k4,
    printable call.actionType.text_printable, k5, trace, k6, decision, k7, incident, k8, actor, k9,
    payload, k10, printable hprev, k11, hhash, k12, ?_, fun c hc => absurd hc List.not_mem_nil⟩
  · show ∀ c ∈ auditSchemaVersion.toList, isSeparator c = false
    exact forall_mem_of_all (by decide)
  · show ∀ c ∈ SignatureStatus.hashChained.text.toList, isSeparator c = false
    exact forall_mem_of_all (by decide)

/-! ## Clean logs -/

/-- The log is made of rows and their chain verifies. -/
structure Clean (H : Digest) (rows : List Row) (log : File) : Prop where
  text : fileText log = some (logText rows)
  chain : (verifyChain H (rows.map Row.record)).1 = true

/-- In an accepted list the tip is the hash the last record stores, a link of
the chain. -/
theorem actualTip_eq {H : Digest} {records : List Dict} (h : (verifyChain H records).1 = true) :
    actualTip records = (records.getLast?.map currentHashOf).getD "genesis" ∧
      (records = [] ∨ ∃ prev body, actualTip records = chainHash H prev body) := by
  have hv := verifyChain_true.mp h
  cases records using List.reverseRecOn with
  | nil => exact ⟨rfl, .inl rfl⟩
  | append_singleton init last =>
    rw [List.map_append, List.map_cons, List.map_nil] at hv
    have hlast : currentHashOf last = chainHash H _ (auditHashBody last) :=
      ((HashChain.verifies_concat _ _).mp hv).2
    have hlong : 64 ≤ (currentHashOf last).toList.length := by
      rw [hlast]
      exact chainHash_long H _ _
    have hor := orElse_currentHash hlong
    have htip : actualTip (init ++ [last]) = currentHashOf last := by
      unfold actualTip
      rw [List.getLast?_append]
      simpa using hor
    refine ⟨by rw [htip]; simp, .inr ⟨_, _, htip.trans hlast⟩⟩

theorem actualTip_printable {H : Digest} {records : List Dict}
    (h : (verifyChain H records).1 = true) : ∀ c ∈ (actualTip records).toList, Printable c := by
  rcases (actualTip_eq h).2 with rfl | ⟨prev, body, hb⟩
  · exact forall_mem_of_all (by decide)
  · rw [hb]
    exact fun c hc => hexValue_printable (chainHash_hex H prev body c hc)

/-- An accepted list stays accepted when the record chained to its tip is
added. -/
theorem verifyChain_concat {H : Digest} {records : List Dict} (call : Call) (stamp : Stamp)
    (h : (verifyChain H records).1 = true) :
    (verifyChain H (records ++ [(newRecord H call stamp (actualTip records)).modelDump])).1 =
      true := by
  rw [verifyChain_true, List.map_append, List.map_cons, List.map_nil]
  refine (HashChain.verifies_concat _ _).mpr ⟨verifyChain_true.mp h, ?_⟩
  rw [List.getLast?_map, Option.map_map]
  show (newRecord H call stamp (actualTip records)).currentHash = _
  rw [newRecord_currentHash, (actualTip_eq h).1]
  rfl

section Clean

variable {H : Digest} {rows : List Row} {log : File} (hlog : Clean H rows log)

include hlog

/-- The writer reads the tip of the records. -/
theorem Clean.readChainTip_eq : readChainTip log = .ok (actualTip (rows.map Row.record)) := by
  rw [Audit.readChainTip_eq, hlog.text]
  exact chainTip_logText rows

/-- The count is the number of rows. -/
theorem Clean.countRecords_eq : countRecords log = .ok rows.length := by
  have hcount := countNonBlank_logText rows []
  rw [List.append_nil] at hcount
  cases log with
  | none =>
    have htext : [] = logText rows := Option.some.inj hlog.text
    rw [← htext] at hcount
    have hzero : rows.length = 0 := by
      rw [show countNonBlank [] = 0 from rfl] at hcount
      omega
    rw [hzero]
    rfl
  | some b =>
    have hb : readText b = some (logText rows) := hlog.text
    simp only [countRecords, readFile, hb, Except.map, hcount]
    rfl

/-- The row of a call without separators, chained to the tip, keeps the log
clean. -/
theorem Clean.append (host : Host) {call : Call} (stamp : Stamp) (hcall : call.SeparatorFree) :
    ∃ row : Row,
      row.record = (newRecord H call stamp (actualTip (rows.map Row.record))).modelDump ∧
      Clean H (rows ++ [row])
        (appendRow host log (newRecord H call stamp (actualTip (rows.map Row.record)))) := by
  have hfree := newRecord_separatorFree H stamp hcall (actualTip_printable hlog.chain)
  refine ⟨AuditRecord.toRow _ (newRecord_wf H call stamp _) (newRecord_finite H call stamp _) hfree,
    rfl, ?_, ?_⟩
  · rw [logText_concat]
    exact fileText_appendRow host hlog.text _
  · rw [List.map_append]
    exact verifyChain_concat call stamp hlog.chain

end Clean

/-- The tip behind a new record is its hash. -/
theorem actualTip_concat {H : Digest} {records : List Dict} {r : AuditRecord}
    (h : (verifyChain H (records ++ [r.modelDump])).1 = true) :
    actualTip (records ++ [r.modelDump]) = r.currentHash := by
  refine ((actualTip_eq h).1).trans ?_
  simp

/-- One call on a clean log: it returns, the log is clean with one more row,
and the anchor holds the new tip and the new count. -/
theorem appendAudit_clean {H : Digest} (host : Host) {rows : List Row} {s : Store} (call : Call)
    (stamp : Stamp) (hs : Clean H rows s.log) (hcall : call.SeparatorFree) :
    ∃ row s', row.record = (newRecord H call stamp (actualTip (rows.map Row.record))).modelDump ∧
      appendAudit H host call stamp s =
        .ok (newRecord H call stamp (actualTip (rows.map Row.record)), s') ∧
      Clean H (rows ++ [row]) s'.log ∧
      s'.tip = writeTipAnchor host stamp.anchoredAtUtc.1 (actualTip ((rows ++ [row]).map Row.record))
        (rows ++ [row]).length := by
  obtain ⟨row, hrow, hclean⟩ := hs.append host stamp hcall
  have htip : actualTip ((rows ++ [row]).map Row.record) =
      (newRecord H call stamp (actualTip (rows.map Row.record))).currentHash := by
    have hchain := hclean.chain
    rw [List.map_append, List.map_cons, List.map_nil, hrow] at hchain ⊢
    exact actualTip_concat hchain
  refine ⟨row, ⟨_, _⟩, hrow, ?_, hclean, rfl⟩
  unfold appendAudit
  rw [hs.readChainTip_eq, htip]
  simp only [bind, Except.bind, if_true, hclean.countRecords_eq, pure, Except.pure]
  rfl

/-! ## The anchor -/

theorem loadTipAnchor_write (host : Host) (anchoredAt tipHash : String) (count : Nat) :
    loadTipAnchor (writeTipAnchor host anchoredAt tipHash count) =
      .ok (some (buildTipAnchor host anchoredAt tipHash count)) := by
  have hwf : (Value.dict (buildTipAnchor host anchoredAt tipHash count)).WF :=
    ⟨by simp [buildTipAnchor, Dict.keys], by simp [buildTipAnchor, EntriesWF, Value.WF, ListWF]⟩
  have hcr : '\r' ∉ dumps .indented (.dict (buildTipAnchor host anchoredAt tipHash count)) ++
      ['\n'] := by
    simpa using carriageReturn_not_mem_dumps .indented _
  have hload := loads_dumps_space .indented hwf (fun h => absurd h (by decide))
    (show ∀ c ∈ ['\n'], isJsonSpace c = true from forall_mem_of_all (by decide))
  simp only [loadTipAnchor, writeTipAnchor, readFile, readText_writeText host.linesep hcr,
    Except.map, hload]

theorem checkTip_build (host : Host) (anchoredAt tipHash : String) {count : Nat} (hpos : 0 < count)
    (records : List Dict) :
    checkTip records (buildTipAnchor host anchoredAt tipHash count) =
      .ok (tipHash == actualTip records, count == records.length) := by
  have hhash : (orElse (Dict.get? (buildTipAnchor host anchoredAt tipHash count) "tip_hash")
      (.str "")).toText = tipHash := by
    have hget : Dict.get? (buildTipAnchor host anchoredAt tipHash count) "tip_hash" =
        some (.str tipHash) := rfl
    rw [hget]
    by_cases h : tipHash = ""
    · subst h
      rfl
    · simp [orElse, Value.truthy, h, Value.toText]
  have hcount : (orElse (Dict.get? (buildTipAnchor host anchoredAt tipHash count) "record_count")
      (.int (-1))).toInt = .ok (count : Int) := by
    have hget : Dict.get? (buildTipAnchor host anchoredAt tipHash count) "record_count" =
        some (.int count) := rfl
    have hne : ¬ count = 0 := by omega
    rw [hget]
    simp [orElse, Value.truthy, hne, Value.toInt]
  have hcast : ((count : Int) == (records.length : Int)) = (count == records.length) := by
    rw [Bool.eq_iff_iff, beq_iff_eq, beq_iff_eq]
    omega
  simp only [checkTip, hhash, hcount, bind, Except.bind, pure, Except.pure, hcast]

/-- Verification of a store whose anchor was written by the writer. -/
theorem verifyAuditWithTip_anchored {H : Digest} {s : Store} {text : List Char} {host : Host}
    {anchoredAt tipHash : String} {count : Nat} (htext : fileText s.log = some text)
    (htip : s.tip = writeTipAnchor host anchoredAt tipHash count) (hpos : 0 < count) :
    ∃ result, verifyAuditWithTip H s = .ok result ∧
      result.records = (auditRecords text).length ∧
      result.actualTipHash = actualTip (auditRecords text) ∧ result.tipPresent = true ∧
      result.verified = ((verifyChain H (auditRecords text)).1 &&
        (tipHash == actualTip (auditRecords text)) && (count == (auditRecords text).length)) := by
  have hload := loadTipAnchor_write host anchoredAt tipHash count
  have hcheck := checkTip_build host anchoredAt tipHash hpos (auditRecords text)
  unfold verifyAuditWithTip
  rw [readAuditRecords_eq htext, htip]
  simp only [bind, Except.bind, hload, hcheck, pure, Except.pure]
  refine ⟨_, rfl, rfl, rfl, rfl, ?_⟩
  cases hrec : auditRecords text with
  | nil => rfl
  | cons r rs => rfl

/-! ## Runs -/

/-- The run law: after the calls, from no file at all, the readers return the
appended records in order, the chain is accepted, and verification against the
anchor reports success with the last hash and the number of calls. -/
def RunLaw (H : Digest) (host : Host) (calls : List (Call × Stamp)) : Prop :=
  ∃ records s, appendAll H host calls ⟨none, none⟩ = .ok (records, s) ∧
    records.length = calls.length ∧
    readAuditRecords s.log = .ok (records.map AuditRecord.modelDump) ∧
    verifyChain H (records.map AuditRecord.modelDump) = (true, "ok") ∧
    ∃ result, verifyAuditWithTip H s = .ok result ∧ result.verified = true ∧
      result.tipPresent = !calls.isEmpty ∧ result.records = calls.length ∧
      result.actualTipHash = (records.getLast?.map AuditRecord.currentHash).getD "genesis"

/-- The rows of a list of records, each ended by a line feed. -/
def recordsText (records : List AuditRecord) : List Char :=
  records.flatMap fun r => r.modelDumpJson ++ ['\n']

/-- What a run leaves behind, whatever it wrote: the rows in order, and the
anchor with the last hash and the number of lines that are not blank. -/
theorem appendAll_inv {H : Digest} {host : Host} {calls : List (Call × Stamp)} {s s' : Store}
    {records : List AuditRecord} {text : List Char} (htext : fileText s.log = some text)
    (h : appendAll H host calls s = .ok (records, s')) :
    fileText s'.log = some (text ++ recordsText records) ∧
      List.Forall₂ (fun (r : AuditRecord) (call : Call × Stamp) =>
        ∃ prev, r = newRecord H call.1 call.2 prev) records calls ∧
      (calls ≠ [] → ∃ anchoredAt tipHash, s'.tip =
        writeTipAnchor host anchoredAt tipHash (countNonBlank (text ++ recordsText records))) := by
  induction calls generalizing s text records with
  | nil =>
    obtain ⟨rfl, rfl⟩ := Prod.mk.inj (Except.ok.inj h)
    exact ⟨by simpa [recordsText] using htext, .nil, fun hne => absurd rfl hne⟩
  | cons head calls ih =>
    obtain ⟨call, stamp⟩ := head
    cases hfirst : appendAudit H host call stamp s with
    | error e =>
      simp only [appendAll, hfirst, bind, Except.bind] at h
      exact absurd h (by simp)
    | ok out =>
      obtain ⟨r, s1⟩ := out
      cases hrest : appendAll H host calls s1 with
      | error e =>
        simp only [appendAll, hfirst, bind, Except.bind, hrest] at h
        exact absurd h (by simp)
      | ok out =>
        obtain ⟨rs, s2⟩ := out
        simp only [appendAll, hfirst, bind, Except.bind, hrest, pure, Except.pure] at h
        obtain ⟨rfl, rfl⟩ := Prod.mk.inj (Except.ok.inj h)
        obtain ⟨text', prev, htext', hprev, hr, rfl⟩ := appendAudit_inv hfirst
        obtain rfl : text = text' := Option.some.inj (htext.symm.trans htext')
        have hlog := fileText_appendRow host htext r
        obtain ⟨hlog2, hrecs, htip⟩ := ih (s := appended host stamp s text r) hlog hrest
        have hall : text ++ r.modelDumpJson ++ ['\n'] ++ recordsText rs =
            text ++ recordsText (r :: rs) := by
          simp [recordsText]
        rw [hall] at hlog2 htip
        refine ⟨hlog2, .cons ⟨prev, hr⟩ hrecs, fun _ => ?_⟩
        cases calls with
        | nil =>
          obtain ⟨rfl, rfl⟩ := Prod.mk.inj (Except.ok.inj hrest)
          refine ⟨stamp.anchoredAtUtc.1, r.currentHash, ?_⟩
          show writeTipAnchor _ _ _ _ = _
          rw [← hall]
          simp [recordsText]
        | cons c cs => exact htip (by simp)

/-- A clean run goes through and stays clean, from any clean store. -/
theorem appendAll_clean {H : Digest} (host : Host) {calls : List (Call × Stamp)} {rows : List Row}
    {s : Store} (hs : Clean H rows s.log) (hcalls : ∀ call ∈ calls, call.1.SeparatorFree) :
    ∃ records s' newRows, appendAll H host calls s = .ok (records, s') ∧
      Clean H (rows ++ newRows) s'.log ∧
      newRows.map Row.record = records.map AuditRecord.modelDump ∧
      records.length = calls.length ∧
      (calls = [] ∧ s' = s ∨ ∃ anchoredAt, s'.tip = writeTipAnchor host anchoredAt
        (actualTip ((rows ++ newRows).map Row.record)) (rows ++ newRows).length) := by
  induction calls generalizing rows s with
  | nil => exact ⟨[], s, [], rfl, by simpa using hs, rfl, rfl, .inl ⟨rfl, rfl⟩⟩
  | cons head calls ih =>
    obtain ⟨call, stamp⟩ := head
    obtain ⟨row, s1, hrow, hfirst, hclean, htip⟩ :=
      appendAudit_clean host call stamp hs (hcalls (call, stamp) (by simp))
    obtain ⟨records, s2, newRows, hrest, hclean2, hrecs, hlen, htip2⟩ :=
      ih hclean fun c hc => hcalls c (List.mem_cons_of_mem _ hc)
    have hsplit : rows ++ row :: newRows = rows ++ [row] ++ newRows := by simp
    refine ⟨newRecord H call stamp (actualTip (rows.map Row.record)) :: records, s2,
      row :: newRows, ?_, ?_, ?_, ?_, ?_⟩
    · simp only [appendAll, hfirst, bind, Except.bind, hrest, pure, Except.pure]
    · rw [hsplit]
      exact hclean2
    · rw [List.map_cons, List.map_cons, hrow, hrecs]
    · simp [hlen]
    · right
      rcases htip2 with ⟨rfl, rfl⟩ | h
      · obtain rfl : newRows = [] := by
          have h0 : newRows.length = 0 := by
            have := congrArg List.length hrecs
            simpa [List.length_eq_zero_iff.mp hlen] using this
          exact List.length_eq_zero_iff.mp h0
        exact ⟨_, htip⟩
      · rw [hsplit]
        exact h

theorem clean_nil (H : Digest) : Clean H [] none := ⟨rfl, rfl⟩

/-- A run without separators keeps the law. -/
theorem runLaw_of_separatorFree (H : Digest) (host : Host) {calls : List (Call × Stamp)}
    (hcalls : ∀ call ∈ calls, call.1.SeparatorFree) : RunLaw H host calls := by
  obtain ⟨records, s, rows, hrun, hclean, hrecs, hlen, htip⟩ :=
    appendAll_clean host (s := ⟨none, none⟩) (clean_nil H) hcalls
  rw [List.nil_append] at hclean htip
  have hread : auditRecords (logText rows) = records.map AuditRecord.modelDump := by
    have h := auditRecords_logText rows []
    rw [List.append_nil] at h
    rw [h, hrecs]
    simp [auditRecords, splitLines]
  have hchain : (verifyChain H (records.map AuditRecord.modelDump)).1 = true := by
    rw [← hrecs]
    exact hclean.chain
  have htipHash : actualTip (records.map AuditRecord.modelDump) =
      (records.getLast?.map AuditRecord.currentHash).getD "genesis" := by
    rw [(actualTip_eq hchain).1, List.getLast?_map, Option.map_map]
    rfl
  refine ⟨records, s, hrun, hlen, ?_, verifyChainFrom_message hchain, ?_⟩
  · rw [readAuditRecords_eq hclean.text, hread]
  · rcases htip with ⟨rfl, rfl⟩ | ⟨anchoredAt, htip⟩
    · obtain rfl : records = [] := List.length_eq_zero_iff.mp hlen
      exact ⟨_, rfl, rfl, rfl, rfl, rfl⟩
    · have hcount : rows.length = records.length := by
        have := congrArg List.length hrecs
        simpa using this
      rcases Nat.eq_zero_or_pos records.length with h0 | hpos
      · -- no call, so no anchor has been written
        obtain rfl : calls = [] := List.length_eq_zero_iff.mp (by omega)
        obtain ⟨rfl, rfl⟩ := Prod.mk.inj (Except.ok.inj hrun)
        exact absurd htip (by simp [writeTipAnchor])
      · obtain ⟨result, hres, hn, htiphash, hpresent, hver⟩ :=
          verifyAuditWithTip_anchored (H := H) hclean.text htip (by omega)
        rw [hread] at hn htiphash hver
        refine ⟨result, hres, ?_, ?_, ?_, ?_⟩
        · rw [hver, hchain, hrecs]
          simp [hcount]
        · rw [hpresent]
          cases calls with
          | nil =>
            rw [List.length_nil] at hlen
            omega
          | cons c cs => rfl
        · rw [hn, List.length_map, hlen]
        · rw [htiphash, htipHash]

/-- The lines of a run that are not blank outnumber its records as soon as one
of them has a separator. -/
theorem countNonBlank_recordsText (records : List AuditRecord) :
    records.length ≤ countNonBlank (recordsText records) ∧
      ((∃ r ∈ records, ¬ r.SeparatorFree) →
        records.length < countNonBlank (recordsText records)) := by
  induction records with
  | nil => simp
  | cons r rs ih =>
    have hcons : recordsText (r :: rs) = r.modelDumpJson ++ '\n' :: recordsText rs := by
      simp [recordsText]
    obtain ⟨hone, htwo⟩ := countNonBlank_row r (recordsText rs)
    rw [hcons, List.length_cons]
    refine ⟨by omega, fun ⟨r', hr', hsep⟩ => ?_⟩
    rcases List.mem_cons.mp hr' with rfl | hr'
    · have := htwo hsep
      omega
    · have := ih.2 ⟨r', hr', hsep⟩
      omega

/-- A run that keeps the law had no separators. -/
theorem separatorFree_of_runLaw {H : Digest} {host : Host} {calls : List (Call × Stamp)}
    (h : RunLaw H host calls) : ∀ call ∈ calls, call.1.SeparatorFree := by
  obtain ⟨records, s, hrun, hlen, hread, -, result, hres, hver, -, hn, -⟩ := h
  obtain ⟨htext, hrecs, htip⟩ := appendAll_inv (s := ⟨none, none⟩) rfl hrun
  rw [List.nil_append] at htext htip
  intro call hcall
  by_contra hsep
  obtain ⟨anchoredAt, tipHash, htip⟩ := htip fun hnil => by
    rw [hnil] at hcall
    exact absurd hcall List.not_mem_nil
  have hbroken : ∃ r ∈ records, ¬ r.SeparatorFree := by
    obtain ⟨i, hi, hcall_i⟩ := List.getElem_of_mem hcall
    have hi' : i < records.length := by omega
    refine ⟨records[i], List.getElem_mem hi', fun hfree => hsep ?_⟩
    obtain ⟨prev, hr⟩ := List.forall₂_iff_get.mp hrecs |>.2 i hi' hi
    have hr : records[i] = newRecord H calls[i].1 calls[i].2 prev := hr
    rw [hr] at hfree
    rw [← hcall_i]
    exact separatorFree_of_newRecord hfree
  have hcount := (countNonBlank_recordsText records).2 hbroken
  obtain ⟨result', hres', hn', -, -, hver'⟩ :=
    verifyAuditWithTip_anchored (H := H) htext htip (by omega)
  obtain rfl : result = result' := Except.ok.inj (hres.symm.trans hres')
  rw [hver] at hver'
  have hmatch := (Bool.and_eq_true_iff.mp hver'.symm).2
  rw [beq_iff_eq, ← hn', hn] at hmatch
  omega

/-- A run of the audit writer keeps the run law if and only if no string of any
of its calls holds one of the separators U+0085, U+2028, U+2029. -/
theorem runLaw_iff_separatorFree (H : Digest) (host : Host) (calls : List (Call × Stamp)) :
    RunLaw H host calls ↔ ∀ call ∈ calls, call.1.SeparatorFree :=
  ⟨separatorFree_of_runLaw, runLaw_of_separatorFree H host⟩

/-- The values of a call, for the runs on fixed inputs. -/
def sampleStamp : Stamp where
  auditId := ⟨"0b9f6a52-5c5e-4a53-9f0e-6f3b1a2c4d5e", forall_mem_of_all (by decide)⟩
  timestampUtc := ⟨"2026-01-01T00:00:00Z", forall_mem_of_all (by decide)⟩
  anchoredAtUtc := ⟨"2026-01-01T00:00:00Z", forall_mem_of_all (by decide)⟩

/-- A call whose payload holds a line separator. -/
def separatorCall : Call where
  actionType := .eventReceived
  payload := some ⟨[("note", .str "first\u2028second")], ⟨by decide, trivial, trivial⟩, trivial, trivial⟩

/-- One append of a payload with U+2028 breaks the law. -/
theorem runLaw_fails_at_lineSeparator :
    ¬ RunLaw sha256 ⟨.lf, "custody.jsonl"⟩ [(separatorCall, sampleStamp)] := by
  intro h
  exact absurd (separatorFree_of_runLaw h (separatorCall, sampleStamp) (by simp)) (by decide)

end Audit
