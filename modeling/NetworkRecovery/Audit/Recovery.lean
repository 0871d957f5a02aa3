import NetworkRecovery.Audit.Tamper

/-!
# Appending after a crash

A log that verifies, followed by what a crash can leave: nothing, blank lines,
or the first bytes of one more row. The next `append_audit` repairs nothing.
`recovers_iff` says exactly when the log is sound again after it:

* after a torn row NEVER. Cut inside a character, the file no longer decodes
  and the writer raises; otherwise the new row is glued to the remains, or the
  remains count as a line of their own.
* after blank lines only in an otherwise empty log: behind earlier records the
  writer takes the blank last line for an empty log and starts the chain anew.

The torn row needs no case analysis over the cut. All that is used is that
its first byte is the opening brace: if the remains and the new row fall on
one line, the line is no JSON (`loads_glued`), and if they do not, the anchor
counts one line too many.
-/

namespace Audit

open Python

/-- A log of rows whose chain verifies. -/
structure VerifiedLog (H : Digest) where
  rows : List Row
  chain : (verifyChain H (rows.map Row.record)).1 = true

def VerifiedLog.records {H : Digest} (log : VerifiedLog H) : List Dict := log.rows.map Row.record

/-- What stands behind the last complete row. -/
inductive Tail where
  | nothing
  /-- white space only -/
  | blank (ws : List Char) (ne : ws ≠ []) (space : ∀ c ∈ ws, isSpace c = true)
  /-- the first `cut` bytes of the row of a record, perhaps with a line end
  behind them; a whole row with its line end would be a record -/
  | torn (record : AuditRecord) (cut : Nat) (newline : Bool) (pos : 0 < cut)
      (part : cut < (encode record.modelDumpJson).size ∨ newline = false)

def Tail.bytes (sep : Linesep) : Tail → ByteArray
  | .nothing => .empty
  | .blank ws _ _ => encode ws
  | .torn record cut newline _ _ =>
    (encode record.modelDumpJson).extract 0 cut ++
      (if newline then encode sep.text else .empty)

/-- The file a crash left. -/
def crashed {H : Digest} (host : Host) (log : VerifiedLog H) (tail : Tail) : ByteArray :=
  writeText host.linesep (logText log.rows) ++ tail.bytes host.linesep

/-- One further `append_audit` makes the log sound: all the complete records and
the new one are read, their chain is accepted, and the anchor counts them. -/
def Recovers (H : Digest) (host : Host) (log : VerifiedLog H) (tail : Tail) (anchor : File)
    (call : Call) (stamp : Stamp) : Prop :=
  ∃ record s, appendAudit H host call stamp ⟨some (crashed host log tail), anchor⟩ =
      .ok (record, s) ∧
    readAuditRecords s.log = .ok (log.records ++ [record.modelDump]) ∧
    (verifyChain H (log.records ++ [record.modelDump])).1 = true ∧
    ∃ tip, loadTipAnchor s.tip = .ok (some tip) ∧
      tip.get? "record_count" = some (.int (log.records.length + 1))

/-! ## The text of a crashed file -/

theorem carriageReturn_not_mem_logText (rows : List Row) : '\r' ∉ logText rows := by
  intro h
  obtain ⟨row, -, hc⟩ := List.mem_flatMap.mp h
  rcases List.mem_append.mp hc with hc | hc
  · exact absurd (row.unbroken _ hc) (by decide)
  · exact absurd (List.mem_singleton.mp hc) (by decide)

/-- The rows read as they were written; behind them comes whatever the tail
decodes to. -/
theorem fileText_crashed {H : Digest} (host : Host) (log : VerifiedLog H) (tail : Tail) :
    fileText (some (crashed host log tail)) =
      (decode (tail.bytes host.linesep)).map fun q =>
        logText log.rows ++ universalNewlines q := by
  show (decode (crashed host log tail)).map universalNewlines = _
  unfold crashed writeText
  rw [decode_encode_append, Option.map_map]
  congr 1
  funext q
  exact universalNewlines_translate _ (carriageReturn_not_mem_logText _) q

/-- A torn row begins with the opening brace. -/
theorem decode_torn {sep : Linesep} {record : AuditRecord} {cut : Nat} {newline : Bool}
    {pos : 0 < cut} {part : cut < (encode record.modelDumpJson).size ∨ newline = false}
    {q : List Char} (h : decode ((Tail.torn record cut newline pos part).bytes sep) = some q) :
    ∃ q', q = '{' :: q' := by
  obtain ⟨s, hs⟩ := record.modelDumpJson_braced
  have hsize : (encode ['{']).size = 1 := rfl
  have hbrace : (encode record.modelDumpJson).extract 0 cut =
      encode ['{'] ++ (encode (s ++ ['}'])).extract 0 (cut - 1) := by
    have hfirst : (encode ['{']).extract 0 cut = encode ['{'] := by
      have hmax : max cut (encode ['{']).size = cut := by omega
      rw [← hmax]
      exact ByteArray.extract_zero_max_size
    rw [hs, ← List.singleton_append, encode_append, ByteArray.extract_append, hfirst, hsize]
  simp only [Tail.bytes] at h
  rw [hbrace, ByteArray.append_assoc, decode_encode_append] at h
  obtain ⟨q', -, rfl⟩ := Option.map_eq_some_iff.mp h
  exact ⟨q', rfl⟩

/-! ## Blank text in front of a row -/

theorem strip_cons_space {c : Char} (hc : isSpace c = true) (s : List Char) :
    strip (c :: s) = strip s := by
  unfold strip lstrip
  rw [List.dropWhile_cons_of_pos hc]

theorem recordOfLine_cons_space {c : Char} (hc : isSpace c = true) (s : List Char) :
    recordOfLine (c :: s) = recordOfLine s := by
  unfold recordOfLine
  rw [strip_cons_space hc]

/-- White space in front of a text changes neither the records read from it nor
the lines counted. -/
theorem space_before {ws : List Char} (hws : ∀ c ∈ ws, isSpace c = true) (hcr : '\r' ∉ ws)
    (s : List Char) :
    auditRecords (ws ++ s) = auditRecords s ∧ countNonBlank (ws ++ s) = countNonBlank s := by
  induction ws with
  | nil => exact ⟨rfl, rfl⟩
  | cons c cs ih =>
    simp only [List.mem_cons, not_or] at hcr
    obtain ⟨ihr, ihc⟩ := ih (fun d hd => hws d (List.mem_cons_of_mem _ hd)) hcr.2
    have hc := hws c (by simp)
    unfold auditRecords at ihr ⊢
    unfold countNonBlank at ihc ⊢
    rw [List.cons_append]
    cases hb : isLineBreak c with
    | true =>
      rw [splitLines_break hb (Ne.symm hcr.1), ← ihr, ← ihc]
      exact ⟨rfl, List.countP_cons_of_neg (by decide)⟩
    | false =>
      rw [splitLines_cons hb, ← ihr, ← ihc]
      cases splitLines (cs ++ s) with
      | nil =>
        have hblank : strip [c] = [] := (strip_eq_nil_iff [c]).mpr (by simpa using hc)
        have hnone : recordOfLine [c] = none := by
          unfold recordOfLine
          rw [hblank]
        exact ⟨List.filterMap_cons_none hnone, List.countP_cons_of_neg (by simp [hblank])⟩
      | cons l ls =>
        refine ⟨?_, ?_⟩
        · rw [List.filterMap_cons, List.filterMap_cons, recordOfLine_cons_space hc]
        · rw [List.countP_cons, List.countP_cons, strip_cons_space hc]

theorem isSpace_universalNewlines {ws : List Char} (hws : ∀ c ∈ ws, isSpace c = true) :
    ∀ c ∈ universalNewlines ws, isSpace c = true := by
  fun_induction universalNewlines ws with
  | case1 => exact fun c hc => absurd hc List.not_mem_nil
  | case2 cs ih =>
    simp only [List.mem_cons, forall_eq_or_imp] at hws ⊢
    exact ⟨by decide, ih hws.2.2⟩
  | case3 cs _ ih =>
    simp only [List.mem_cons, forall_eq_or_imp] at hws ⊢
    exact ⟨by decide, ih hws.2⟩
  | case4 c cs _ _ ih =>
    simp only [List.mem_cons, forall_eq_or_imp] at hws ⊢
    exact ⟨hws.1, ih hws.2⟩

theorem mem_of_mem_splitLines {s l : List Char} (hl : l ∈ splitLines s) {c : Char} (hc : c ∈ l) :
    c ∈ s := by
  fun_induction splitLines s generalizing l with
  | case1 => exact absurd hl List.not_mem_nil
  | case2 cs ih =>
    rcases List.mem_cons.mp hl with rfl | hl
    · exact absurd hc List.not_mem_nil
    · exact List.mem_cons_of_mem _ (List.mem_cons_of_mem _ (ih hl hc))
  | case3 d cs _ _ ih =>
    rcases List.mem_cons.mp hl with rfl | hl
    · exact absurd hc List.not_mem_nil
    · exact List.mem_cons_of_mem _ (ih hl hc)
  | case4 d cs _ _ hnil ih =>
    rw [List.mem_singleton.mp hl, List.mem_singleton] at hc
    exact hc ▸ List.mem_cons_self
  | case5 d cs _ _ l' ls hcons ih =>
    rcases List.mem_cons.mp hl with rfl | hl
    · rcases List.mem_cons.mp hc with rfl | hc
      · exact List.mem_cons_self
      · exact List.mem_cons_of_mem _ (ih (by rw [hcons]; exact List.mem_cons_self) hc)
    · exact List.mem_cons_of_mem _ (ih (by rw [hcons]; exact List.mem_cons_of_mem _ hl) hc)

/-- Behind blank text the writer starts a new chain. -/
theorem chainTip_blank (rows : List Row) {ws : List Char} (hne : ws ≠ [])
    (hws : ∀ c ∈ ws, isSpace c = true) : chainTip (logText rows ++ ws) = .ok "genesis" := by
  unfold chainTip
  rw [splitLines_logText]
  cases hlast : (splitLines ws).getLast? with
  | none => exact absurd (List.getLast?_eq_none_iff.mp hlast) (splitLines_ne_nil hne)
  | some line =>
    have hline : ∀ c ∈ line, isSpace c = true := fun c hc =>
      hws c (mem_of_mem_splitLines (List.mem_of_getLast? hlast) hc)
    rw [List.getLast?_append, hlast]
    simp only [Option.some_or, loads_blank hline]

/-! ## The next append -/

section Append

variable {H : Digest} {host : Host} {log : VerifiedLog H} {tail : Tail} {anchor : File} {call : Call}
  {stamp : Stamp}

/-- What a recovery says of the text behind the complete rows: it decodes, it is
one line that is not blank, and that line is the new record. -/
theorem Recovers.inv (h : Recovers H host log tail anchor call stamp) :
    ∃ q prev, decode (tail.bytes host.linesep) = some q ∧
      chainTip (logText log.rows ++ universalNewlines q) = .ok prev ∧
      auditRecords (universalNewlines q ++
        ((newRecord H call stamp prev).modelDumpJson ++ ['\n'])) =
          [(newRecord H call stamp prev).modelDump] ∧
      countNonBlank (universalNewlines q ++
        ((newRecord H call stamp prev).modelDumpJson ++ ['\n'])) = 1 ∧
      (verifyChain H (log.records ++ [(newRecord H call stamp prev).modelDump])).1 = true := by
  obtain ⟨record, s, hrun, hread, hchain, tip, hload, hcount⟩ := h
  obtain ⟨text, prev, htext, hprev, rfl, rfl⟩ := appendAudit_inv hrun
  rw [fileText_crashed] at htext
  obtain ⟨q, hq, rfl⟩ := Option.map_eq_some_iff.mp htext
  have hnew := fileText_appendRow host (f := some (crashed host log tail))
    (by rw [fileText_crashed, hq]; rfl) (newRecord H call stamp prev)
  have hread' := readAuditRecords_eq hnew
  rw [List.append_assoc, List.append_assoc, auditRecords_logText] at hread'
  refine ⟨q, prev, hq, hprev, ?_, ?_, hchain⟩
  · exact List.append_cancel_left (Except.ok.inj (hread'.symm.trans hread))
  · simp only [appended, loadTipAnchor_write] at hload
    obtain rfl := Option.some.inj (Except.ok.inj hload)
    have hget : ∀ n : Nat, Dict.get? (buildTipAnchor host stamp.anchoredAtUtc.1
        (newRecord H call stamp prev).currentHash n) "record_count" = some (.int n) := fun _ => rfl
    rw [hget] at hcount
    have hn := Value.int.inj (Option.some.inj hcount)
    rw [List.append_assoc, List.append_assoc, countNonBlank_logText] at hn
    have hlen : log.records.length = log.rows.length := by simp [VerifiedLog.records]
    omega

/-- Behind blank text in an empty log, or behind nothing, a call without
separators recovers the log. -/
theorem recovers_of_space {ws : List Char} (hws : ∀ c ∈ ws, isSpace c = true)
    (hbytes : decode (tail.bytes host.linesep) = some ws)
    (hcase : ws = [] ∨ log.rows = []) (hcall : call.SeparatorFree) :
    Recovers H host log tail anchor call stamp := by
  have htext : fileText (some (crashed host log tail)) =
      some (logText log.rows ++ universalNewlines ws) := by
    rw [fileText_crashed, hbytes]
    rfl
  have hprev : chainTip (logText log.rows ++ universalNewlines ws) = .ok (actualTip log.records) := by
    by_cases hne : universalNewlines ws = []
    · rw [hne, List.append_nil]
      exact chainTip_logText log.rows
    · rcases hcase with rfl | hrows
      · exact absurd rfl hne
      · rw [chainTip_blank _ hne (isSpace_universalNewlines hws)]
        simp [VerifiedLog.records, hrows, actualTip]
  generalize hr : newRecord H call stamp (actualTip log.records) = r
  have hfree : r.SeparatorFree := by
    rw [← hr]
    exact newRecord_separatorFree H stamp hcall (actualTip_printable log.chain)
  have hrow : ∃ row : Row, row.text = r.modelDumpJson ∧ row.record = r.modelDump := by
    refine ⟨r.toRow ?_ ?_ hfree, rfl, rfl⟩
    · rw [← hr]
      exact newRecord_wf H call stamp _
    · rw [← hr]
      exact newRecord_finite H call stamp _
  obtain ⟨row, hrowText, hrowRecord⟩ := hrow
  have hlog : logText [row] = r.modelDumpJson ++ ['\n'] := by simp [logText, hrowText]
  obtain ⟨hrec, hcnt⟩ := space_before (isSpace_universalNewlines hws)
    (not_mem_universalNewlines ws) (r.modelDumpJson ++ ['\n'])
  have hone := auditRecords_logText [row] []
  have hcount := countNonBlank_logText [row] []
  rw [List.append_nil, hlog] at hone hcount
  have happend := appendAudit_eq H host call stamp (s := ⟨some (crashed host log tail), anchor⟩)
    htext hprev
  rw [hr] at happend
  refine ⟨r, _, happend, ?_, ?_, buildTipAnchor host stamp.anchoredAtUtc.1 r.currentHash
    (countNonBlank (logText log.rows ++ universalNewlines ws ++ r.modelDumpJson ++ ['\n'])),
    loadTipAnchor_write _ _ _ _, ?_⟩
  · have hnew := fileText_appendRow host htext r
    show readAuditRecords (appendRow host _ r) = _
    rw [readAuditRecords_eq hnew, List.append_assoc, List.append_assoc, auditRecords_logText, hrec,
      hone]
    simp [VerifiedLog.records, hrowRecord, auditRecords, splitLines]
  · rw [← hr]
    exact verifyChain_concat call stamp log.chain
  · have hn : countNonBlank (logText log.rows ++ universalNewlines ws ++ r.modelDumpJson ++ ['\n']) =
        log.records.length + 1 := by
      rw [List.append_assoc, List.append_assoc, countNonBlank_logText, hcnt, hcount]
      simp [VerifiedLog.records, countNonBlank, splitLines]
    rw [hn]
    rfl

/-- A recovered log was written to by a call without separators. -/
theorem Recovers.separatorFree (h : Recovers H host log tail anchor call stamp)
    (hspace : ∀ q, decode (tail.bytes host.linesep) = some q → ∀ c ∈ q, isSpace c = true) :
    call.SeparatorFree := by
  obtain ⟨q, prev, hq, -, -, hcount, -⟩ := h.inv
  have hws := isSpace_universalNewlines (hspace q hq)
  rw [(space_before hws (not_mem_universalNewlines q) _).2] at hcount
  by_contra hsep
  have htwo := (countNonBlank_row (newRecord H call stamp prev) []).2
    fun hfree => hsep (separatorFree_of_newRecord hfree)
  rw [hcount] at htwo
  simp [countNonBlank, splitLines] at htwo

/-- A text between braces that counts as one line is one. -/
theorem unbroken_of_countNonBlank {s : List Char} (hcr : '\r' ∉ s)
    (hcount : countNonBlank ('{' :: (s ++ ['}']) ++ ['\n']) = 1) :
    ∀ c ∈ '{' :: (s ++ ['}']), isLineBreak c = false := by
  intro c hc
  cases hb : isLineBreak c with
  | false => rfl
  | true =>
    exfalso
    have hin : c ∈ s := by
      simp only [List.mem_cons, List.mem_append, List.not_mem_nil, or_false] at hc
      rcases hc with rfl | hc | rfl
      · exact absurd hb (by decide)
      · exact hc
      · exact absurd hb (by decide)
    have htwo := (countNonBlank_braced hcr []).2 ⟨c, hin, hb⟩
    rw [hcount] at htwo
    simp [countNonBlank, splitLines] at htwo

/-- The row of a new record, behind an opening brace and anything else, is no JSON. -/
theorem loads_newRecord_glued (H : Digest) (call : Call) (stamp : Stamp) (prev : String)
    (q : List Char) :
    loads ('{' :: q ++ (newRecord H call stamp prev).modelDumpJson) = none := by
  obtain ⟨rest, hhead⟩ := (newRecord H call stamp prev).modelDumpJson_head
  exact loads_glued hhead (by unfold NoFollow; decide)
    (AuditRecord.modelDump_wf (newRecord_wf H call stamp prev))
    (fun _ => AuditRecord.modelDump_finite (newRecord_finite H call stamp prev)) q

/-- Behind a torn row no append recovers the log. -/
theorem not_recovers_torn
    (hbrace : ∀ q, decode (tail.bytes host.linesep) = some q → ∃ q', q = '{' :: q') :
    ¬ Recovers H host log tail anchor call stamp := by
  intro h
  obtain ⟨q, prev, hq, -, hrecs, hcount, -⟩ := h.inv
  obtain ⟨q', rfl⟩ := hbrace q hq
  have hU : universalNewlines ('{' :: q') = '{' :: universalNewlines q' :=
    universalNewlines_append (s := ['{']) (by decide) q'
  obtain ⟨s, hs⟩ := (newRecord H call stamp prev).modelDumpJson_braced
  have hcr := (newRecord H call stamp prev).carriageReturn_not_mem
  have hglued := loads_newRecord_glued H call stamp prev (universalNewlines q')
  -- the remains and the new row together stand between braces
  have hline : '{' :: universalNewlines q' ++ (newRecord H call stamp prev).modelDumpJson =
      '{' :: ((universalNewlines q' ++ '{' :: s) ++ ['}']) := by
    rw [hs]
    simp
  rw [hline] at hglued
  have hcr' : '\r' ∉ universalNewlines q' ++ '{' :: s := by
    rw [hs] at hcr
    simp only [List.mem_append, not_or]
    exact ⟨not_mem_universalNewlines q', fun hm => hcr (by
      simp only [List.mem_cons, List.mem_append] at hm ⊢
      tauto)⟩
  rw [hU, ← List.append_assoc, hline] at hrecs hcount
  have hunbroken := unbroken_of_countNonBlank hcr' hcount
  have hnone : recordOfLine ('{' :: ((universalNewlines q' ++ '{' :: s) ++ ['}'])) = none := by
    unfold recordOfLine
    rw [strip_eq_self (by decide) (by decide)]
    simp only [hglued]
  unfold auditRecords at hrecs
  rw [splitLines_row hunbroken, List.filterMap_cons_none hnone] at hrecs
  exact absurd hrecs (by simp [splitLines])

/-- Behind blank text and earlier records the new row starts a second chain. -/
theorem not_recovers_blank (hinj : Function.Injective H.hexdigest) (hrows : log.rows ≠ [])
    {ws : List Char} (hne : ws ≠ []) (hws : ∀ c ∈ ws, isSpace c = true)
    (hbytes : decode (tail.bytes host.linesep) = some ws) :
    ¬ Recovers H host log tail anchor call stamp := by
  intro h
  obtain ⟨q, prev, hq, hprev, -, -, hchain⟩ := h.inv
  obtain rfl : ws = q := Option.some.inj (hbytes.symm.trans hq)
  rw [chainTip_blank _ (universalNewlines_ne_nil hne) (isSpace_universalNewlines hws)] at hprev
  obtain rfl := (Except.ok.inj hprev).symm
  rw [verifyChain_true, List.map_append, List.map_cons, List.map_nil] at hchain
  have hlink := ((HashChain.verifies_concat _ _).mp hchain).2
  rw [List.getLast?_map, Option.map_map] at hlink
  have hstored : (log.records.getLast?.map (Prod.snd ∘ chainRow)).getD "genesis" =
      actualTip log.records := (actualTip_eq log.chain).1.symm
  rw [hstored] at hlink
  -- the tip of a log that is not empty is a hash
  obtain ⟨p, b, hhash⟩ : ∃ p b, actualTip log.records = chainHash H p b :=
    (actualTip_eq log.chain).2.resolve_left fun h0 => hrows (List.map_eq_nil_iff.mp h0)
  have hgood : NoBar (actualTip log.records) := by
    rw [hhash]
    exact chainHash_noBar H p b
  have hwf := AuditRecord.modelDump_wf (newRecord_wf H call stamp "genesis")
  have hsame := (chainHash_injective hinj "genesis" (actualTip log.records)
    (hashBody ⟨_, hwf⟩) (hashBody ⟨_, hwf⟩) (by unfold NoBar; decide) hgood hlink).1
  rw [hhash] at hsame
  exact chainHash_ne_genesis H p b hsame.symm

end Append

/-- The next append recovers a crashed log if and only if nothing was left
behind its rows, or only blank text in a log without rows, and the call holds
no separator. -/
theorem recovers_iff (H : Digest) (hinj : Function.Injective H.hexdigest) (host : Host)
    (log : VerifiedLog H) (tail : Tail) (anchor : File) (call : Call) (stamp : Stamp) :
    Recovers H host log tail anchor call stamp ↔
      (tail = .nothing ∨ (log.rows = [] ∧ ∃ ws ne space, tail = .blank ws ne space)) ∧
        call.SeparatorFree := by
  have hnothing : decode ((Tail.nothing).bytes host.linesep) = some [] := decode_encode []
  constructor
  · intro h
    cases tail with
    | nothing =>
      refine ⟨.inl rfl, h.separatorFree fun q hq => ?_⟩
      obtain rfl : [] = q := Option.some.inj (hnothing.symm.trans hq)
      exact fun c hc => absurd hc List.not_mem_nil
    | blank ws ne space =>
      have hbytes : decode ((Tail.blank ws ne space).bytes host.linesep) = some ws :=
        decode_encode ws
      by_cases hrows : log.rows = []
      · refine ⟨.inr ⟨hrows, ws, ne, space, rfl⟩, h.separatorFree fun q hq => ?_⟩
        obtain rfl : ws = q := Option.some.inj (hbytes.symm.trans hq)
        exact space
      · exact absurd h (not_recovers_blank hinj hrows ne space hbytes)
    | torn record cut newline pos part =>
      exact absurd h (not_recovers_torn fun q hq => decode_torn hq)
  · rintro ⟨hcase, hcall⟩
    rcases hcase with rfl | ⟨hrows, ws, ne, space, rfl⟩
    · exact recovers_of_space (fun c hc => absurd hc List.not_mem_nil) hnothing (.inl rfl) hcall
    · exact recovers_of_space space (decode_encode ws) (.inr hrows) hcall

/-- A call that attaches evidence, and its record at the front of a log. -/
def attachedCall : Call := { actionType := .evidenceAttached, decisionId := "dec-1" }

def attachedRecord : AuditRecord := newRecord plainDigest attachedCall sampleStamp "genesis"

theorem attachedRecord_accepted :
    (verifyChain plainDigest [attachedRecord.modelDump]).1 = true := by
  have hempty : (verifyChain plainDigest []).1 = true := rfl
  have hgenesis : actualTip [] = "genesis" := rfl
  have hone := verifyChain_concat attachedCall sampleStamp hempty
  rw [List.nil_append, hgenesis] at hone
  exact hone

def attachedLog : VerifiedLog plainDigest where
  rows := [attachedRecord.toRow (newRecord_wf _ _ _ _) (newRecord_finite _ _ _ _)
    (newRecord_separatorFree plainDigest sampleStamp (by decide) (forall_mem_of_all (by decide)))]
  chain := attachedRecord_accepted

/-- A log with a record takes its next one, and does not take it behind the first byte of
another. -/
theorem recovers_iff_oneRecord :
    Recovers plainDigest ⟨.lf, "custody.jsonl"⟩ attachedLog .nothing none attachedCall
        sampleStamp ∧
      ¬ Recovers plainDigest ⟨.lf, "custody.jsonl"⟩ attachedLog
        (.torn attachedRecord 1 false (by decide) (.inr rfl)) none attachedCall sampleStamp := by
  constructor
  · exact (recovers_iff plainDigest plainDigest_injective _ _ _ _ _ _).mpr ⟨.inl rfl, by decide⟩
  · intro h
    obtain ⟨hcase, -⟩ := (recovers_iff plainDigest plainDigest_injective _ _ _ _ _ _).mp h
    rcases hcase with htail | ⟨hrows, -⟩
    · cases htail
    · exact absurd hrows (List.cons_ne_nil _ _)

/-- The record of one call with default arguments. -/
def sampleRecord : AuditRecord :=
  newRecord sha256 { actionType := .eventReceived } sampleStamp "genesis"

/-- The log that holds it. -/
def sampleLog : VerifiedLog sha256 where
  rows := [sampleRecord.toRow (newRecord_wf _ _ _ _) (newRecord_finite _ _ _ _)
    (newRecord_separatorFree sha256 sampleStamp (by decide) (forall_mem_of_all (by decide)))]
  chain := oneRecordLog_accepted

/-- After one record and the first byte of the next, the log is not recovered. -/
theorem not_recovers_after_torn_byte : ¬ Recovers sha256 ⟨.lf, "custody.jsonl"⟩ sampleLog
    (.torn sampleRecord 1 false (by decide) (.inr rfl)) none { actionType := .eventReceived }
    sampleStamp :=
  not_recovers_torn fun _ hq => decode_torn hq

end Audit
