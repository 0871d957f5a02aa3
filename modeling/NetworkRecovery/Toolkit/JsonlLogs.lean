import NetworkRecovery.Audit.LogLaws
import NetworkRecovery.Platform.Storage
import NetworkRecovery.Python.JsonLines

/-!
# Logs that are read by lines

Two stores append a JSON object a line, with the characters beyond ASCII as they are, and read
the file back with `splitlines`: the audit store of the toolkit
(`windows_network_toolkit/audit_store.py`) and the event store of the platform
(`platform_core/event_store.py`). `splitlines` ends a line at a line feed, but also at U+0085,
U+2028 and U+2029, which a string of a row can hold.

A log comes back as it was written exactly when none of its rows has one of the three
(`readLines_iff`): a row that has one is never read, because no line has.
-/

namespace Toolkit

open Python Audit
open Platform (rawStyle appendJsonl rawText_braced lineFeed_not_mem_rawText)

/-! ## Logs -/

/-- None of the strings of a row has one of the three separators. -/
def SeparatorFree (row : Dict) : Prop := ∀ c ∈ (Value.dict row).chars, isSeparator c = false

/-- A dictionary that can be written. -/
abbrev Payload := {d : Dict // (Value.dict d).WF}

/-- The log after a sequence of appends, each `json.dumps(row, ensure_ascii=False)` and a line
feed. -/
def appendAll (sep : Linesep) (rows : List Dict) : File := rows.foldl (appendJsonl sep) none

/-- The text of a log. -/
def rowsText (rows : List Dict) : List Char :=
  rows.flatMap fun row => dumps rawStyle (.dict row) ++ ['\n']

/-- What a line holds, if anything. -/
def valueOfLine (line : List Char) : Option Value :=
  match strip line with
  | [] => none
  | text => loads text

/-- The values among the lines. -/
def valuesOfText (text : List Char) : List Value := (splitLines text).filterMap valueOfLine

theorem appendAll_concat (sep : Linesep) (rows : List Dict) (row : Dict) :
    appendAll sep (rows ++ [row]) = appendJsonl sep (appendAll sep rows) row := by
  unfold appendAll
  rw [List.foldl_append]
  rfl

theorem rowsText_concat (rows : List Dict) (row : Dict) :
    rowsText (rows ++ [row]) = rowsText rows ++ dumps rawStyle (.dict row) ++ ['\n'] := by
  simp [rowsText]

theorem readText_appendAll (sep : Linesep) (rows : List Dict) :
    readText ((appendAll sep rows).getD ByteArray.empty) = some (rowsText rows) := by
  induction rows using List.reverseRecOn with
  | nil => rfl
  | append_singleton rows row ih =>
    obtain ⟨s, hs⟩ := rawText_braced row
    rw [appendAll_concat, rowsText_concat]
    refine readText_appendText sep ih ?_ (lineFeed_not_mem_rawText row)
      (carriageReturn_not_mem_dumps rawStyle _)
    rw [hs]
    exact List.cons_ne_nil _ _

/-- Written rows are read one after the other. -/
theorem valuesOfText_rowsText {rows : List Dict} (hwf : ∀ row ∈ rows, (Value.dict row).WF)
    (hfree : ∀ row ∈ rows, SeparatorFree row) :
    valuesOfText (rowsText rows) = rows.map .dict := by
  induction rows with
  | nil => rfl
  | cons row rows ih =>
    obtain ⟨hrow, hwf⟩ := List.forall_mem_cons.mp hwf
    obtain ⟨hunbroken, hfree⟩ := List.forall_mem_cons.mp hfree
    obtain ⟨s, hs⟩ := rawText_braced row
    have hcons : rowsText (row :: rows) =
        dumps rawStyle (.dict row) ++ '\n' :: rowsText rows := by simp [rowsText]
    have hvalue : valueOfLine (dumps rawStyle (.dict row)) = some (.dict row) := by
      have hstrip : strip (dumps rawStyle (.dict row)) = dumps rawStyle (.dict row) := by
        rw [hs]
        exact strip_eq_self (by decide) (by decide)
      have hloads := loads_dumps rawStyle hrow fun h => absurd h (by decide)
      unfold valueOfLine
      rw [hstrip]
      split
      · next hnil => exact absurd (hs.symm.trans hnil) (List.cons_ne_nil _ _)
      · exact hloads
    unfold valuesOfText at ih ⊢
    rw [hcons, splitLines_row ((unbroken_dumps_iff rfl rfl _).mpr hunbroken),
      List.filterMap_cons_some hvalue, ih hwf hfree]
    rfl

/-- The bytes of a log. -/
theorem appendAll_bytes (sep : Linesep) (rows : List Dict) :
    (appendAll sep rows).getD ByteArray.empty = encode (sep.translate (rowsText rows)) := by
  induction rows using List.reverseRecOn with
  | nil => rfl
  | append_singleton rows row ih =>
    rw [appendAll_concat, rowsText_concat]
    unfold appendJsonl appendText
    rw [Option.getD_some, ih, ← encode_append, List.append_assoc]
    unfold Linesep.translate
    simp only [List.flatMap_append]

/-- A reader that splits at line feeds alone reads every row, whatever stands behind the log. -/
theorem jsonlRows_rowsText {rows : List Dict} (hwf : ∀ row ∈ rows, (Value.dict row).WF)
    (rest : List Char) :
    Platform.jsonlRows (rowsText rows ++ rest) = rows ++ Platform.jsonlRows rest := by
  induction rows with
  | nil => rfl
  | cons row rows ih =>
    obtain ⟨hrow, hwf⟩ := List.forall_mem_cons.mp hwf
    have hcons : rowsText (row :: rows) ++ rest =
        dumps rawStyle (.dict row) ++ '\n' :: (rowsText rows ++ rest) := by simp [rowsText]
    have ih := ih hwf
    unfold Platform.jsonlRows at ih ⊢
    rw [hcons, List.splitOn_append_cons_self_of_not_mem (lineFeed_not_mem_rawText row),
      List.filterMap_cons_some (Platform.recordOfLine_rawText hrow), ih]
    rfl

theorem tame_rowsText (rows : List Dict) : Tame (rowsText rows) := by
  induction rows with
  | nil => exact .nil
  | cons row rows ih =>
    unfold rowsText at ih ⊢
    rw [List.flatMap_cons]
    exact ((tame_dumps rfl _).append (.plain (by decide) .nil)).append ih

theorem carriageReturn_not_mem_rowsText (rows : List Dict) : '\r' ∉ rowsText rows := by
  intro h
  obtain ⟨row, -, hmem⟩ := List.mem_flatMap.mp h
  rcases List.mem_append.mp hmem with hmem | hmem
  · exact carriageReturn_not_mem_dumps rawStyle _ hmem
  · exact absurd (List.mem_singleton.mp hmem) (by decide)

theorem loads_of_valueOfLine {line : List Char} {v : Value} (h : valueOfLine line = some v) :
    loads (strip line) = some v := by
  unfold valueOfLine at h
  split at h
  · cases h
  · exact h

/-- A row with a separator is not among the values read. -/
theorem separatorFree_of_mem {rows : List Dict} {row : Dict}
    (h : .dict row ∈ valuesOfText (rowsText rows)) : SeparatorFree row := by
  obtain ⟨line, hline, hvalue⟩ := List.mem_filterMap.mp h
  have hunbroken := unbroken_of_line (tame_rowsText rows) (carriageReturn_not_mem_rowsText rows)
    hline (loads_of_valueOfLine hvalue)
  intro c hc
  cases hsep : isSeparator c with
  | false => rfl
  | true =>
    have hge : 0x7F ≤ c.toNat := by
      simp only [isSeparator, Bool.or_eq_true, beq_iff_eq] at hsep
      omega
    rw [isSeparator_iff (by omega), hunbroken c hc hge] at hsep
    cases hsep

/-- A log reads as it was written exactly when no row has a separator. -/
theorem readLines_iff {rows : List Dict} (hwf : ∀ row ∈ rows, (Value.dict row).WF) :
    valuesOfText (rowsText rows) = rows.map .dict ↔ ∀ row ∈ rows, SeparatorFree row := by
  refine ⟨fun h row hrow => ?_, valuesOfText_rowsText hwf⟩
  have hread : .dict row ∈ valuesOfText (rowsText rows) := by
    rw [h]
    exact List.mem_map.mpr ⟨row, hrow, rfl⟩
  exact separatorFree_of_mem hread

/-! ## Readers that fail at a broken line -/

/-- The values of the lines that are not blank, if every one of them holds a value. -/
def allOfText (text : List Char) : Option (List Value) :=
  (((splitLines text).map strip).filter (· ≠ [])).mapM loads

theorem allOfText_line {text line : List Char} {lines : List (List Char)}
    (hlines : splitLines text = line :: lines) (hne : strip line ≠ []) :
    allOfText text = (loads (strip line)).bind fun v =>
      (((lines.map strip).filter (· ≠ [])).mapM loads).map fun vs => v :: vs := by
  unfold allOfText
  rw [hlines, List.map_cons, List.filter_cons_of_pos (by simpa using hne), List.mapM_cons]
  simp only [Option.bind_eq_bind, Option.pure_def, Option.map_eq_bind, Function.comp_def]

/-- A row that is cut off before its end holds no value. -/
theorem loads_cut_row {row : Dict} (hwf : (Value.dict row).WF) {line rest : List Char}
    (hcut : dumps rawStyle (.dict row) = line ++ rest)
    (hrest : ∃ b ∈ rest, isJsonSpace b = false) (hline : line ≠ []) :
    strip line ≠ [] ∧ loads (strip line) = none := by
  obtain ⟨s, hs⟩ := rawText_braced row
  obtain ⟨first, line, rfl⟩ := List.exists_cons_of_ne_nil hline
  have hopen := hs.symm.trans hcut
  rw [List.cons_append] at hopen
  obtain ⟨rfl, -⟩ := List.cons.inj hopen
  obtain ⟨kept, tail, hstrip, rfl⟩ := strip_cons (c := '{') (by decide) line
  refine ⟨by rw [hstrip]; exact List.cons_ne_nil _ _, ?_⟩
  cases hloads : loads (strip ('{' :: (kept ++ tail))) with
  | none => rfl
  | some v =>
    -- A complete object is followed by white space only.
    rw [hstrip] at hloads
    have hwhole := loads_dumps rawStyle hwf fun h => absurd h (by decide)
    rw [hcut] at hwhole
    have hsplit : '{' :: (kept ++ tail) ++ rest = '{' :: kept ++ (tail ++ rest) := by simp
    rw [hsplit] at hwhole
    obtain ⟨b, hb, hspace⟩ := hrest
    have hall := (loads_continued hloads hwhole).2 b (List.mem_append_right _ hb)
    rw [hspace] at hall
    cases hall

/-- A log of rows with separators is not read at all, any other as it was written. -/
theorem allOfText_rowsText {rows : List Dict} (hwf : ∀ row ∈ rows, (Value.dict row).WF) :
    ((∀ row ∈ rows, SeparatorFree row) → allOfText (rowsText rows) = some (rows.map .dict)) ∧
      ((allOfText (rowsText rows)).isSome → ∀ row ∈ rows, SeparatorFree row) := by
  induction rows with
  | nil => exact ⟨fun _ => rfl, fun _ row hrow => absurd hrow List.not_mem_nil⟩
  | cons row rows ih =>
    obtain ⟨hrow, hwf⟩ := List.forall_mem_cons.mp hwf
    have ih := ih hwf
    obtain ⟨s, hs⟩ := rawText_braced row
    have hcons : rowsText (row :: rows) =
        dumps rawStyle (.dict row) ++ '\n' :: rowsText rows := by simp [rowsText]
    have hunbroken : (∀ c ∈ dumps rawStyle (.dict row), isLineBreak c = false) ↔
        SeparatorFree row := unbroken_dumps_iff rfl rfl _
    by_cases hfree : SeparatorFree row
    · have hunbroken := hunbroken.mpr hfree
      have hstrip : strip (dumps rawStyle (.dict row)) = dumps rawStyle (.dict row) := by
        rw [hs]
        exact strip_eq_self (by decide) (by decide)
      have hne : strip (dumps rawStyle (.dict row)) ≠ [] := by
        rw [hstrip, hs]
        exact List.cons_ne_nil _ _
      have hloads := loads_dumps rawStyle hrow fun h => absurd h (by decide)
      have hline := allOfText_line (hcons ▸ splitLines_row hunbroken (rowsText rows)) hne
      rw [hstrip, hloads, Option.bind_some] at hline
      rw [hline]
      constructor
      · intro hall
        have hrest := ih.1 fun r hr => hall r (List.mem_cons_of_mem _ hr)
        unfold allOfText at hrest
        rw [hrest]
        rfl
      · intro hsome r hr
        rcases List.mem_cons.mp hr with rfl | hr
        · exact hfree
        · rw [Option.isSome_map] at hsome
          exact ih.2 hsome r hr
    · -- The first separator of the row ends its line.
      have hbroken : ∃ c ∈ dumps rawStyle (.dict row), isLineBreak c = true := by
        by_contra hnone
        refine hfree (hunbroken.mp fun c hc => ?_)
        cases hc' : isLineBreak c with
        | false => rfl
        | true => exact absurd ⟨c, hc, hc'⟩ hnone
      obtain ⟨line, b, rest, hline, hb, hcut⟩ := exists_first_break hbroken
      have hbmem : b ∈ dumps rawStyle (.dict row) := by simp [hcut]
      have hlf : b ≠ '\n' := fun h => lineFeed_not_mem_rawText row (h ▸ hbmem)
      have hcr : b ≠ '\r' := fun h => carriageReturn_not_mem_dumps rawStyle _ (h ▸ hbmem)
      have hspace : isJsonSpace b = false := by
        have htab : b ≠ ' ' ∧ b ≠ '\t' :=
          ⟨fun h => absurd hb (by rw [h]; decide), fun h => absurd hb (by rw [h]; decide)⟩
        simp [isJsonSpace, htab, hlf, hcr]
      have hnonempty : line ≠ [] := by
        rintro rfl
        rw [hs, List.nil_append] at hcut
        obtain ⟨rfl, -⟩ := List.cons.inj hcut
        exact absurd hb (by decide)
      obtain ⟨hne, hnone⟩ := loads_cut_row hrow hcut ⟨_, List.mem_cons_self, hspace⟩ hnonempty
      have hlines : splitLines (rowsText (row :: rows)) =
          line :: splitLines (rest ++ '\n' :: rowsText rows) := by
        rw [hcons, hcut, List.append_assoc, List.cons_append, splitLines_cut hline hb hcr]
      have hfails := allOfText_line hlines hne
      rw [hnone, Option.bind_none] at hfails
      rw [hfails]
      exact ⟨fun hall => absurd (hall row List.mem_cons_self) hfree,
        fun hsome => absurd hsome (by simp)⟩

/-! ## The audit store -/

/-- A call of `append_audit_dict`, at the time `_now()` gives. -/
structure AuditCall where
  now : String
  payload : Payload

/-- `{"timestamp_utc": _now(), **payload}`. -/
def AuditCall.row (call : AuditCall) : Dict :=
  call.payload.1.foldl (fun d e => d.set e.1 e.2) [("timestamp_utc", .str call.now)]

/-- `append_audit_dict`. -/
def appendAuditDict (sep : Linesep) (log : File) (call : AuditCall) : File :=
  appendJsonl sep log call.row

/-- `read_audit_logs`, of the files that match its pattern, in their order. -/
def readAuditLogs : List ByteArray → Except PyError (List Value)
  | [] => .ok []
  | b :: files => do
    let text ← readFile b
    let rows ← readAuditLogs files
    return valuesOfText text ++ rows

theorem wf_foldl_set {d entries : Dict} (hd : (Value.dict d).WF) (hentries : EntriesWF entries) :
    (Value.dict (entries.foldl (fun (d : Dict) e => d.set e.1 e.2) d)).WF := by
  induction entries generalizing d with
  | nil => exact hd
  | cons e entries ih => exact ih (Value.WF.set e.1 hd hentries.1) hentries.2

/-- Keys that are all new go to the end, one after the other. -/
theorem foldl_set_fresh {d entries : Dict} (h : (Dict.keys (d ++ entries)).Nodup) :
    entries.foldl (fun d e => d.set e.1 e.2) d = d ++ entries := by
  induction entries generalizing d with
  | nil => exact (List.append_nil d).symm
  | cons e rest ih =>
    have hsplit : d ++ e :: rest = d ++ [e] ++ rest := List.append_cons d e rest
    have hnew : e.1 ∉ d.keys := by
      intro hmem
      rw [Dict.keys, List.map_append, List.nodup_append] at h
      exact h.2.2 _ hmem _ List.mem_cons_self rfl
    rw [List.foldl_cons, Dict.set_of_not_mem _ hnew, ih (hsplit ▸ h), hsplit]

theorem AuditCall.row_wf (call : AuditCall) : (Value.dict call.row).WF := by
  refine wf_foldl_set ⟨?_, trivial, trivial⟩ call.payload.2.2
  exact List.nodup_cons.mpr ⟨List.not_mem_nil, List.nodup_nil⟩

theorem appendAuditDict_all (sep : Linesep) (calls : List AuditCall) :
    calls.foldl (appendAuditDict sep) none = appendAll sep (calls.map AuditCall.row) := by
  unfold appendAll
  rw [List.foldl_map]
  rfl

theorem readFile_appendAll {sep : Linesep} {rows : List Dict} {b : ByteArray}
    (h : appendAll sep rows = some b) : readFile b = .ok (rowsText rows) := by
  have hread := readText_appendAll sep rows
  rw [h] at hread
  unfold readFile
  rw [show readText b = some (rowsText rows) from hread]

theorem rows_of_appendAll_none {sep : Linesep} {rows : List Dict}
    (h : appendAll sep rows = none) : rows = [] := by
  induction rows using List.reverseRecOn with
  | nil => rfl
  | append_singleton rows row ih =>
    rw [appendAll_concat] at h
    cases h

theorem readAuditLogs_appendAll (sep : Linesep) (rows : List Dict) :
    readAuditLogs (appendAll sep rows).toList = .ok (valuesOfText (rowsText rows)) := by
  cases hlog : appendAll sep rows with
  | none =>
    rw [rows_of_appendAll_none hlog]
    rfl
  | some b =>
    show (readFile b >>= fun text => _) = _
    rw [readFile_appendAll hlog]
    show Except.ok (valuesOfText (rowsText rows) ++ []) = _
    rw [List.append_nil]

/-! ## The event store -/

/-- The files of the event store that are written. -/
inductive Log where
  | events
  | decisions
  | remediationPreviews
  deriving DecidableEq

/-- A call of `append_event`, `append_decision` or `append_remediation_preview`, at the time
`utc_now_iso()` gives. -/
inductive StoreCall where
  | event (now runId eventType actor evidenceLevel : String) (payload : Payload)
  | decision (now runId outcome : String) (reasonCodes blockedActions : List String)
    (payload : Payload)
  | remediationPreview (now runId actionId policy : String) (dryRun : Bool) (detail : String)

namespace StoreCall

def log : StoreCall → Log
  | event .. => .events
  | decision .. => .decisions
  | remediationPreview .. => .remediationPreviews

def runId : StoreCall → String
  | event _ runId _ _ _ _ => runId
  | decision _ runId _ _ _ _ => runId
  | remediationPreview _ runId _ _ _ _ => runId

/-- The row a call appends. -/
def row : StoreCall → Dict
  | event now runId eventType actor evidenceLevel payload =>
    [("schema_version", .str "platform_event_store.v1"), ("record_type", .str "platform_event"),
      ("timestamp", .str now), ("run_id", .str runId), ("event_type", .str eventType),
      ("actor", .str actor), ("evidence_level", .str evidenceLevel),
      ("payload", .dict payload.1)]
  | decision now runId outcome reasonCodes blockedActions payload =>
    [("schema_version", .str "platform_event_store.v1"),
      ("record_type", .str "platform_decision"), ("timestamp", .str now), ("run_id", .str runId),
      ("decision", .str outcome), ("reason_codes", textList reasonCodes),
      ("blocked_actions", textList blockedActions), ("payload", .dict payload.1)]
  | remediationPreview now runId actionId policy dryRun detail =>
    [("schema_version", .str "platform_event_store.v1"),
      ("record_type", .str "remediation_preview"), ("timestamp", .str now),
      ("run_id", .str runId), ("action_id", .str actionId), ("policy", .str policy),
      ("dry_run", .bool dryRun), ("detail", .str detail)]

theorem row_wf (call : StoreCall) : (Value.dict call.row).WF := by
  cases call with
  | event now runId eventType actor evidenceLevel payload =>
    refine ⟨by simp [Dict.keys, row], ?_⟩
    exact ⟨trivial, trivial, trivial, trivial, trivial, trivial, trivial, payload.2, trivial⟩
  | decision now runId outcome reasonCodes blockedActions payload =>
    refine ⟨by simp [Dict.keys, row], ?_⟩
    exact ⟨trivial, trivial, trivial, trivial, trivial, textList_wf _, textList_wf _, payload.2,
      trivial⟩
  | remediationPreview now runId actionId policy dryRun detail =>
    refine ⟨by simp [Dict.keys, row], ?_⟩
    exact ⟨trivial, trivial, trivial, trivial, trivial, trivial, trivial, trivial, trivial⟩

end StoreCall

/-- The files of the event store. `decisionRuns` is the log of older versions, which is only
read. -/
structure Logs where
  events : File := none
  decisions : File := none
  remediationPreviews : File := none
  decisionRuns : File := none

/-- One append. -/
def Logs.append (sep : Linesep) (logs : Logs) (call : StoreCall) : Logs :=
  match call.log with
  | .events => { logs with events := appendJsonl sep logs.events call.row }
  | .decisions => { logs with decisions := appendJsonl sep logs.decisions call.row }
  | .remediationPreviews =>
    { logs with remediationPreviews := appendJsonl sep logs.remediationPreviews call.row }

/-- `_iter_jsonl`, exhausted: the objects among the values. -/
def iterJsonl : File → Except PyError (List Dict)
  | none => .ok []
  | some b => do
    let text ← readFile b
    return (valuesOfText text).filterMap fun
      | .dict row => some row
      | _ => none

/-- `str(r.get("run_id"))`. -/
def runIdText (row : Dict) : String := ((row.get? "run_id").getD .none).toText

/-- `str(row.get("run_id") or row.get("diagnosis_id") or "")`. -/
def decisionKey (row : Dict) : String :=
  (orElse (row.get? "run_id") (orElse (row.get? "diagnosis_id") (.str ""))).toText

/-- `run_id.strip()`. -/
def stripped (runId : String) : String := String.ofList (strip runId.toList)

/-- `find_decision_row`. -/
def findDecisionRow (logs : Logs) (runId : String) : Except PyError (Option Dict) := do
  let rid := stripped runId
  let rows ← iterJsonl logs.decisions
  match (rows.filter (decisionKey · = rid)).getLast? with
  | some row => return some row
  | none =>
    let rows ← iterJsonl logs.decisionRuns
    return (rows.filter (decisionKey · = rid)).getLast?

/-- What `replay_timeline` returns. -/
structure Timeline where
  runId : String
  events : List Dict
  decision : Option Dict
  remediationPreviews : List Dict

/-- `replay_timeline`. -/
def replayTimeline (logs : Logs) (runId : String) : Except PyError Timeline := do
  let rid := stripped runId
  let events ← iterJsonl logs.events
  let decision ← findDecisionRow logs rid
  let previews ← iterJsonl logs.remediationPreviews
  return {
    runId := rid
    events := events.filter (runIdText · = rid)
    decision := decision
    remediationPreviews := previews.filter (runIdText · = rid) }

/-! ## What a replay finds -/

/-- The rows that were appended to a log. -/
def rowsOf (calls : List StoreCall) (log : Log) : List Dict :=
  (calls.filter (·.log = log)).map StoreCall.row

/-- The rows of a run that were appended to a log. -/
def runRows (calls : List StoreCall) (log : Log) (runId : String) : List Dict :=
  (calls.filter fun call => call.log = log ∧ call.runId = runId).map StoreCall.row

/-- What there is to replay of a run: its events, the decision taken last, its previews. -/
def timelineOf (calls : List StoreCall) (runId : String) : Timeline where
  runId := runId
  events := runRows calls .events runId
  decision := (runRows calls .decisions runId).getLast?
  remediationPreviews := runRows calls .remediationPreviews runId

/-- All rows of a timeline. -/
def Timeline.rows (t : Timeline) : List Dict :=
  t.events ++ t.decision.toList ++ t.remediationPreviews

theorem append_all (sep : Linesep) (calls : List StoreCall) :
    calls.foldl (Logs.append sep) {} =
      { events := appendAll sep (rowsOf calls .events)
        decisions := appendAll sep (rowsOf calls .decisions)
        remediationPreviews := appendAll sep (rowsOf calls .remediationPreviews) } := by
  have hconcat : ∀ (calls : List StoreCall) (call : StoreCall) (log : Log),
      appendAll sep (rowsOf (calls ++ [call]) log) =
        if call.log = log then appendJsonl sep (appendAll sep (rowsOf calls log)) call.row
        else appendAll sep (rowsOf calls log) := by
    intro calls call log
    unfold rowsOf
    rw [List.filter_append, List.map_append]
    split
    · next h =>
      rw [← appendAll_concat]
      simp [h]
    · next h => simp [h]
  induction calls using List.reverseRecOn with
  | nil => rfl
  | append_singleton calls call ih =>
    rw [List.foldl_append, ih, hconcat, hconcat, hconcat]
    cases call with
    | event now runId eventType actor evidenceLevel payload => rfl
    | decision now runId outcome reasonCodes blockedActions payload => rfl
    | remediationPreview now runId actionId policy dryRun detail => rfl

/-- The rows that are read from a log, whatever they are. -/
def readRows (rows : List Dict) : List Dict :=
  (valuesOfText (rowsText rows)).filterMap fun
    | .dict row => some row
    | _ => none

theorem iterJsonl_appendAll (sep : Linesep) (rows : List Dict) :
    iterJsonl (appendAll sep rows) = .ok (readRows rows) := by
  cases hlog : appendAll sep rows with
  | none =>
    rw [rows_of_appendAll_none hlog]
    rfl
  | some b =>
    show (readFile b >>= fun text => _) = _
    rw [readFile_appendAll hlog]
    rfl

theorem readRows_eq {rows : List Dict} (hwf : ∀ row ∈ rows, (Value.dict row).WF)
    (hfree : ∀ row ∈ rows, SeparatorFree row) : readRows rows = rows := by
  unfold readRows
  rw [valuesOfText_rowsText hwf hfree, List.filterMap_map]
  exact List.filterMap_some

theorem separatorFree_of_mem_readRows {rows : List Dict} {row : Dict} (h : row ∈ readRows rows) :
    SeparatorFree row := by
  obtain ⟨v, hv, hrow⟩ := List.mem_filterMap.mp h
  cases v with
  | dict kvs =>
    cases hrow
    exact separatorFree_of_mem hv
  | _ => cases hrow

theorem runIdText_row (call : StoreCall) : runIdText call.row = call.runId := by
  cases call with
  | event now runId eventType actor evidenceLevel payload => rfl
  | decision now runId outcome reasonCodes blockedActions payload => rfl
  | remediationPreview now runId actionId policy dryRun detail => rfl

theorem decisionKey_row (call : StoreCall) : decisionKey call.row = call.runId := by
  have hkey : decisionKey call.row = (orElse (some (.str call.runId)) (.str "")).toText := by
    cases call with
    | event now runId eventType actor evidenceLevel payload => rfl
    | decision now runId outcome reasonCodes blockedActions payload => rfl
    | remediationPreview now runId actionId policy dryRun detail => rfl
  rw [hkey]
  by_cases hempty : call.runId = ""
  · rw [hempty]
    rfl
  · rw [orElse_str hempty]
    rfl

theorem rowsOf_wf (calls : List StoreCall) (log : Log) :
    ∀ row ∈ rowsOf calls log, (Value.dict row).WF := by
  intro row hrow
  obtain ⟨call, -, rfl⟩ := List.mem_map.mp hrow
  exact call.row_wf

/-- The rows of a run are found by their key. -/
theorem filter_rowsOf {key : Dict → String} (hkey : ∀ call : StoreCall, key call.row = call.runId)
    (calls : List StoreCall) (log : Log) (runId : String) :
    (rowsOf calls log).filter (key · = runId) = runRows calls log runId := by
  unfold rowsOf runRows
  rw [List.filter_map, List.filter_filter]
  congr 1
  apply List.filter_congr
  intro call _
  simp [hkey call, Bool.and_comm]

theorem stripped_stripped (runId : String) : stripped (stripped runId) = stripped runId := by
  unfold stripped
  rw [String.toList_ofList, strip_strip]

/-- A replay, of whatever is read from the logs. -/
theorem replayTimeline_eq (sep : Linesep) (calls : List StoreCall) (runId : String) :
    replayTimeline (calls.foldl (Logs.append sep) {}) runId = .ok
      { runId := stripped runId
        events := (readRows (rowsOf calls .events)).filter (runIdText · = stripped runId)
        decision := ((readRows (rowsOf calls .decisions)).filter
          (decisionKey · = stripped runId)).getLast?
        remediationPreviews := (readRows (rowsOf calls .remediationPreviews)).filter
          (runIdText · = stripped runId) } := by
  have hdecision : findDecisionRow (calls.foldl (Logs.append sep) {}) (stripped runId) = .ok
      ((readRows (rowsOf calls .decisions)).filter (decisionKey · = stripped runId)).getLast? := by
    unfold findDecisionRow
    rw [append_all, iterJsonl_appendAll, stripped_stripped]
    cases hlast : ((readRows (rowsOf calls .decisions)).filter
        (decisionKey · = stripped runId)).getLast? with
    | none =>
      simp only [bind, Except.bind, hlast]
      rfl
    | some row =>
      simp only [bind, Except.bind, hlast]
      rfl
  unfold replayTimeline
  dsimp only
  rw [hdecision, append_all, iterJsonl_appendAll, iterJsonl_appendAll]
  rfl

theorem replayTimeline_of_separatorFree (sep : Linesep) {calls : List StoreCall}
    (hfree : ∀ call ∈ calls, SeparatorFree call.row) (runId : String) :
    replayTimeline (calls.foldl (Logs.append sep) {}) runId =
      .ok (timelineOf calls (stripped runId)) := by
  have hread : ∀ log, readRows (rowsOf calls log) = rowsOf calls log := by
    intro log
    refine readRows_eq (rowsOf_wf calls log) fun row hrow => ?_
    obtain ⟨call, hcall, rfl⟩ := List.mem_map.mp hrow
    exact hfree call (List.mem_of_mem_filter hcall)
  rw [replayTimeline_eq, hread, hread, hread, filter_rowsOf runIdText_row,
    filter_rowsOf decisionKey_row, filter_rowsOf runIdText_row]
  rfl

theorem separatorFree_of_replay {sep : Linesep} {calls : List StoreCall} {runId : String}
    {t : Timeline} (h : replayTimeline (calls.foldl (Logs.append sep) {}) runId = .ok t) :
    ∀ row ∈ t.rows, SeparatorFree row := by
  rw [replayTimeline_eq] at h
  obtain rfl := Except.ok.inj h
  intro row hrow
  simp only [Timeline.rows, List.mem_append, Option.mem_toList] at hrow
  rcases hrow with (hrow | hrow) | hrow
  · exact separatorFree_of_mem_readRows (List.mem_of_mem_filter hrow)
  · exact separatorFree_of_mem_readRows (List.mem_of_mem_filter (List.mem_of_getLast? hrow))
  · exact separatorFree_of_mem_readRows (List.mem_of_mem_filter hrow)

/-- A row of a call that is replayed has the run id that was asked for, stripped. -/
theorem runId_of_replay {sep : Linesep} {calls : List StoreCall} {runId : String} {t : Timeline}
    (h : replayTimeline (calls.foldl (Logs.append sep) {}) runId = .ok t) {call : StoreCall}
    (hrow : call.row ∈ t.rows) : call.runId = stripped runId := by
  rw [replayTimeline_eq] at h
  obtain rfl := Except.ok.inj h
  simp only [Timeline.rows, List.mem_append, Option.mem_toList] at hrow
  rcases hrow with (hrow | hrow) | hrow
  · rw [← runIdText_row call]
    exact of_decide_eq_true (List.mem_filter.mp hrow).2
  · rw [← decisionKey_row call]
    exact of_decide_eq_true (List.mem_filter.mp (List.mem_of_getLast? hrow)).2
  · rw [← runIdText_row call]
    exact of_decide_eq_true (List.mem_filter.mp hrow).2

/-! ## The rows of a run -/

/-- A replay returns exactly the rows of the run that was asked for: its events, all of its
decisions, its previews. -/
def ReplaysExactly (sep : Linesep) (calls : List StoreCall) (runId : String) : Prop :=
  ∃ t, replayTimeline (calls.foldl (Logs.append sep) {}) runId = .ok t ∧
    t.events = runRows calls .events runId ∧
    t.decision.toList = runRows calls .decisions runId ∧
    t.remediationPreviews = runRows calls .remediationPreviews runId

theorem mem_runRows {calls : List StoreCall} {log : Log} {runId : String} {row : Dict} :
    row ∈ runRows calls log runId ↔
      ∃ call ∈ calls, call.log = log ∧ call.runId = runId ∧ call.row = row := by
  simp [runRows, and_assoc]

theorem runRows_eq_nil {calls : List StoreCall} {runId : String}
    (h : ∀ call ∈ calls, call.runId ≠ runId) (log : Log) : runRows calls log runId = [] := by
  refine List.eq_nil_iff_forall_not_mem.mpr fun row hrow => ?_
  obtain ⟨call, hcall, -, hrun, -⟩ := mem_runRows.mp hrow
  exact h call hcall hrun

/-- A replay keeps the last decision, so all of them where there is at most one. -/
theorem toList_getLast?_iff {rows : List Dict} :
    rows.getLast?.toList = rows ↔ rows.length ≤ 1 := by
  constructor
  · intro h
    rw [← h]
    exact Option.length_toList_le
  · intro h
    match rows, h with
    | [], _ => rfl
    | [row], _ => rfl

/-- A timeline with all rows of a run has the row of each of its calls. -/
theorem row_mem_rows {calls : List StoreCall} {runId : String} {t : Timeline}
    (hevents : t.events = runRows calls .events runId)
    (hdecisions : t.decision.toList = runRows calls .decisions runId)
    (hpreviews : t.remediationPreviews = runRows calls .remediationPreviews runId)
    {call : StoreCall} (hcall : call ∈ calls) (hrun : call.runId = runId) :
    call.row ∈ t.rows := by
  have hmem : ∀ log, call.log = log → call.row ∈ runRows calls log runId :=
    fun log hlog => mem_runRows.mpr ⟨call, hcall, hlog, hrun, rfl⟩
  unfold Timeline.rows
  rw [hevents, hdecisions, hpreviews]
  cases hlog : call.log with
  | events => exact List.mem_append_left _ (List.mem_append_left _ (hmem _ hlog))
  | decisions => exact List.mem_append_left _ (List.mem_append_right _ (hmem _ hlog))
  | remediationPreviews => exact List.mem_append_right _ (hmem _ hlog)

/-- A run is replayed exactly only if its rows are read, its id is found and no decision of it
is superseded. -/
theorem ReplaysExactly.necessary {sep : Linesep} {calls : List StoreCall} {runId : String}
    (h : ReplaysExactly sep calls runId) :
    (∀ call ∈ calls, call.runId = runId → SeparatorFree call.row ∧ stripped runId = runId) ∧
      (runRows calls .decisions runId).length ≤ 1 := by
  obtain ⟨t, ht, hevents, hdecisions, hpreviews⟩ := h
  constructor
  · intro call hcall hrun
    have hmem := row_mem_rows hevents hdecisions hpreviews hcall hrun
    exact ⟨separatorFree_of_replay ht _ hmem, (runId_of_replay ht hmem).symm.trans hrun⟩
  · rw [← hdecisions]
    exact Option.length_toList_le

/-- Where every row is read, a request is answered exactly when its run id is found as it is
(or nothing has it, with white space or without) and no decision of the run is superseded. -/
theorem replaysExactly_of_separatorFree (sep : Linesep) {calls : List StoreCall}
    (hfree : ∀ call ∈ calls, SeparatorFree call.row) (runId : String) :
    ReplaysExactly sep calls runId ↔
      (stripped runId = runId ∨
        ∀ call ∈ calls, call.runId ≠ runId ∧ call.runId ≠ stripped runId) ∧
      (runRows calls .decisions runId).length ≤ 1 := by
  have hreplay := replayTimeline_of_separatorFree sep hfree runId
  constructor
  · intro h
    obtain ⟨hrows, hlength⟩ := h.necessary
    refine ⟨or_iff_not_imp_left.mpr fun hspace call hcall => ?_, hlength⟩
    have hnone : ∀ call ∈ calls, call.runId ≠ runId :=
      fun call hcall hrun => hspace (hrows call hcall hrun).2
    refine ⟨hnone call hcall, fun hrun => ?_⟩
    -- Nothing has the run id itself, so nothing of the stripped one may be returned.
    obtain ⟨t, ht, hevents, hdecisions, hpreviews⟩ := h
    obtain rfl := Except.ok.inj (hreplay.symm.trans ht)
    rw [runRows_eq_nil hnone] at hevents hdecisions hpreviews
    have hempty : ∀ log, runRows calls log (stripped runId) = [] := by
      intro log
      cases log with
      | events => exact hevents
      | decisions => exact List.getLast?_eq_none_iff.mp (Option.toList_eq_nil_iff.mp hdecisions)
      | remediationPreviews => exact hpreviews
    have hmem := mem_runRows.mpr ⟨call, hcall, rfl, hrun, rfl⟩
    rw [hempty] at hmem
    exact absurd hmem List.not_mem_nil
  · rintro ⟨hstrip | hnone, hlength⟩
    · rw [hstrip] at hreplay
      exact ⟨_, hreplay, rfl, toList_getLast?_iff.mpr hlength, rfl⟩
    · have hrun := runRows_eq_nil fun call hcall => (hnone call hcall).1
      have hstripped := runRows_eq_nil fun call hcall => (hnone call hcall).2
      refine ⟨_, hreplay, ?_, ?_, ?_⟩
      · rw [hrun]
        exact hstripped .events
      · rw [hrun]
        exact congrArg (fun rows => rows.getLast?.toList) (hstripped .decisions)
      · rw [hrun]
        exact hstripped .remediationPreviews

/-- Every run of a sequence is replayed exactly when no row has a separator, no run id has
white space around it and no run has two decisions. -/
theorem replaysExactly_all_iff (sep : Linesep) (calls : List StoreCall) :
    (∀ call ∈ calls, ReplaysExactly sep calls call.runId) ↔
      ∀ call ∈ calls, SeparatorFree call.row ∧ stripped call.runId = call.runId ∧
        (runRows calls .decisions call.runId).length ≤ 1 := by
  constructor
  · intro h call hcall
    obtain ⟨hrows, hlength⟩ := (h call hcall).necessary
    obtain ⟨hfree, hstrip⟩ := hrows call hcall rfl
    exact ⟨hfree, hstrip, hlength⟩
  · intro h call hcall
    obtain ⟨-, hstrip, hlength⟩ := h call hcall
    exact (replaysExactly_of_separatorFree sep (fun call hcall => (h call hcall).1) _).mpr
      ⟨.inl hstrip, hlength⟩

/-- The audit log reads as the rows that were appended exactly when none of them has a
separator. Every run of the event store is replayed row for row exactly when, besides, no run
id has white space around it and no run has two decisions; a single request, of any run id,
asks that of the rows of its own run, and over rows without separators of nothing else. -/
theorem logs_roundTrip (sep : Linesep) (audits : List AuditCall) (calls : List StoreCall) :
    (readAuditLogs (audits.foldl (appendAuditDict sep) none).toList =
        .ok (audits.map fun call => .dict call.row) ↔
      ∀ call ∈ audits, SeparatorFree call.row) ∧
    ((∀ call ∈ calls, ReplaysExactly sep calls call.runId) ↔
      ∀ call ∈ calls, SeparatorFree call.row ∧ stripped call.runId = call.runId ∧
        (runRows calls .decisions call.runId).length ≤ 1) ∧
    ((∀ call ∈ calls, SeparatorFree call.row) → ∀ runId,
      (ReplaysExactly sep calls runId ↔
        (stripped runId = runId ∨
          ∀ call ∈ calls, call.runId ≠ runId ∧ call.runId ≠ stripped runId) ∧
        (runRows calls .decisions runId).length ≤ 1)) ∧
    ∀ runId, ReplaysExactly sep calls runId →
      (∀ call ∈ calls, call.runId = runId → SeparatorFree call.row ∧ stripped runId = runId) ∧
        (runRows calls .decisions runId).length ≤ 1 := by
  refine ⟨?_, replaysExactly_all_iff sep calls,
    fun hfree runId => replaysExactly_of_separatorFree sep hfree runId,
    fun runId h => h.necessary⟩
  have hwf : ∀ row ∈ audits.map AuditCall.row, (Value.dict row).WF := by
    intro row hrow
    obtain ⟨call, -, rfl⟩ := List.mem_map.mp hrow
    exact call.row_wf
  have hiff := readLines_iff hwf
  rw [List.map_map, List.forall_mem_map] at hiff
  rw [appendAuditDict_all, readAuditLogs_appendAll, ← hiff]
  exact ⟨fun h => Except.ok.inj h, fun h => congrArg Except.ok h⟩

/-- A note with a line separator in it. -/
def brokenAudit : AuditCall where
  now := "2026-01-01T00:00:00Z"
  payload := ⟨[("note", .str (String.ofList ['a', Char.ofNat 0x2028, 'b']))],
    List.nodup_cons.mpr ⟨List.not_mem_nil, List.nodup_nil⟩, trivial, trivial⟩

/-- The row is cut in two, and neither half is read. -/
theorem brokenAudit_lost :
    readAuditLogs ([brokenAudit].foldl (appendAuditDict .lf) none).toList ≠
      .ok ([brokenAudit].map fun call => .dict call.row) := by
  rw [appendAuditDict_all, readAuditLogs_appendAll]
  intro h
  have hread : .dict brokenAudit.row ∈ valuesOfText (rowsText ([brokenAudit].map AuditCall.row)) := by
    rw [Except.ok.inj h]
    exact List.mem_singleton_self _
  have hfree := separatorFree_of_mem hread (Char.ofNat 0x2028) (by decide +kernel)
  exact absurd hfree (by decide)

end Toolkit
