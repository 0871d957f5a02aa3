import NetworkRecovery.Audit.Writer

/-!
# The views of the log agree on clean rows

A `Row` is a line that every reader takes alike: no line break inside, nothing
to strip, a JSON object. On a text made of rows the four views of the file
coincide: the lines are the rows, the records are theirs, the count is their
number, the tip is the last one's hash.

A record written by `append_audit` is such a row exactly when none of its
strings holds one of the three SEPARATORS that `splitlines` breaks at and JSON
leaves as they are. A record that does hold one is cut into at least two lines
that are not blank (`countNonBlank_row`), and the count alone tells.
-/

namespace Audit

open Python

/-! ## Rows -/

/-- A line that every reader takes as one record. -/
structure Row where
  text : List Char
  record : Dict
  unbroken : ∀ c ∈ text, isLineBreak c = false
  trimmed : strip text = text
  reads : loads text = some (.dict record)

/-- Rows, each ended by a line feed. -/
def logText (rows : List Row) : List Char := rows.flatMap fun row => row.text ++ ['\n']

theorem logText_concat (rows : List Row) (row : Row) :
    logText (rows ++ [row]) = logText rows ++ row.text ++ ['\n'] := by
  simp [logText]

theorem Row.text_ne_nil (row : Row) : row.text ≠ [] := by
  intro h
  have hreads := row.reads
  rw [h] at hreads
  exact absurd hreads (by simp [loads, Reader.run, Reader.start, Reader.finish])

theorem splitLines_logText (rows : List Row) (rest : List Char) :
    splitLines (logText rows ++ rest) = rows.map Row.text ++ splitLines rest := by
  induction rows with
  | nil => rfl
  | cons row rows ih =>
    have hcons : logText (row :: rows) ++ rest = row.text ++ '\n' :: (logText rows ++ rest) := by
      simp [logText]
    rw [hcons, splitLines_row row.unbroken, ih]
    rfl

theorem Row.recordOfLine_text (row : Row) : recordOfLine row.text = some row.record := by
  unfold recordOfLine
  rw [row.trimmed]
  split
  · next h => exact absurd h row.text_ne_nil
  · rw [row.reads]

theorem auditRecords_logText (rows : List Row) (rest : List Char) :
    auditRecords (logText rows ++ rest) = rows.map Row.record ++ auditRecords rest := by
  unfold auditRecords
  rw [splitLines_logText, List.filterMap_append]
  congr 1
  induction rows with
  | nil => rfl
  | cons row rows ih =>
    rw [List.map_cons, List.filterMap_cons_some row.recordOfLine_text, ih, List.map_cons]

theorem countNonBlank_logText (rows : List Row) (rest : List Char) :
    countNonBlank (logText rows ++ rest) = rows.length + countNonBlank rest := by
  unfold countNonBlank
  rw [splitLines_logText, List.countP_append]
  congr 1
  rw [List.countP_map, List.countP_eq_length]
  intro row _
  simp only [Function.comp, row.trimmed, Bool.not_eq_true', List.isEmpty_eq_false_iff]
  exact row.text_ne_nil

/-- The writer finds the hash the readers end with. -/
theorem chainTip_logText (rows : List Row) :
    chainTip (logText rows) = .ok (actualTip (rows.map Row.record)) := by
  have hlines := splitLines_logText rows []
  rw [List.append_nil] at hlines
  unfold chainTip actualTip
  rw [hlines, splitLines, List.append_nil, List.getLast?_map, List.getLast?_map]
  cases rows.getLast? with
  | none => rfl
  | some row => simp only [Option.map_some, row.reads]

/-! ## Separators -/

/-- The line breaks of `splitlines` that a JSON text leaves as they are. -/
def isSeparator (c : Char) : Bool := c.toNat == 0x85 || c.toNat == 0x2028 || c.toNat == 0x2029

theorem isSeparator_iff {c : Char} (h : 0x20 ≤ c.toNat) : isSeparator c = isLineBreak c := by
  rw [Bool.eq_iff_iff]
  simp only [isSeparator, isLineBreak, Bool.or_eq_true, Bool.and_eq_true, decide_eq_true_eq,
    beq_iff_eq]
  omega

/-- A record none of whose strings holds a separator. -/
def AuditRecord.SeparatorFree (r : AuditRecord) : Prop :=
  ∀ c ∈ (Value.dict r.modelDump).chars, isSeparator c = false

theorem AuditRecord.onLine {r : AuditRecord} {c : Char} (h : c ∈ r.modelDumpJson) :
    OnLine false (Value.dict r.modelDump).chars c :=
  have hline : Style.model.indent = none := rfl
  onLine_of_mem_dumps hline h

theorem AuditRecord.lineFeed_not_mem (r : AuditRecord) : '\n' ∉ r.modelDumpJson :=
  fun h => absurd (onLine h).1 (by decide)

theorem AuditRecord.carriageReturn_not_mem (r : AuditRecord) : '\r' ∉ r.modelDumpJson :=
  fun h => absurd (onLine h).1 (by decide)

/-- The text of a value, on one line and raw beyond ASCII, has a line break exactly when a string
of the value has a separator. -/
theorem unbroken_dumps_iff {sty : Style} (hline : sty.indent = none) (hraw : sty.ascii = false)
    (v : Value) :
    (∀ c ∈ dumps sty v, isLineBreak c = false) ↔ ∀ c ∈ v.chars, isSeparator c = false := by
  constructor
  · intro h c hc
    cases hsep : isSeparator c with
    | false => rfl
    | true =>
      have hge : 0x7F ≤ c.toNat := by
        simp only [isSeparator, Bool.or_eq_true, beq_iff_eq] at hsep
        omega
      have hmem : c ∈ dumps sty v := mem_dumpValue_of_mem hraw hc hge
      rw [← h c hmem, ← isSeparator_iff (by omega), hsep]
  · intro h c hc
    obtain ⟨hge, hin⟩ := onLine_of_mem_dumps hline hc
    rw [← isSeparator_iff hge]
    cases hsep : isSeparator c with
    | false => rfl
    | true =>
      have hbeyond : 0x7F ≤ c.toNat := by
        simp only [isSeparator, Bool.or_eq_true, beq_iff_eq] at hsep
        omega
      rw [h c (hin hbeyond).2] at hsep
      exact absurd hsep (by simp)

theorem AuditRecord.unbroken_iff (r : AuditRecord) :
    (∀ c ∈ r.modelDumpJson, isLineBreak c = false) ↔ r.SeparatorFree :=
  unbroken_dumps_iff rfl rfl _

/-- The row of a record without separators. -/
def AuditRecord.toRow (r : AuditRecord) (hwf : (Value.dict r.payload).WF)
    (hfin : (Value.dict r.payload).Finite) (hfree : r.SeparatorFree) : Row where
  text := r.modelDumpJson
  record := r.modelDump
  unbroken := r.unbroken_iff.mpr hfree
  trimmed := by
    obtain ⟨s, hs⟩ : ∃ s, r.modelDumpJson = '{' :: (s ++ ['}']) := dumps_object .model _ _ _
    rw [hs]
    exact strip_eq_self (by decide) (by decide)
  reads := AuditRecord.loads_modelDumpJson hwf hfin

/-- A text between braces, cut at a line break inside, has a brace on either
side: it is two lines that are not blank, or more. -/
theorem countNonBlank_braced {s : List Char} (hcr : '\r' ∉ s) (rest : List Char) :
    countNonBlank rest + 1 ≤ countNonBlank ('{' :: (s ++ ['}']) ++ '\n' :: rest) ∧
      ((∃ c ∈ s, isLineBreak c = true) →
        countNonBlank rest + 2 ≤ countNonBlank ('{' :: (s ++ ['}']) ++ '\n' :: rest)) := by
  have hcr' : '\r' ∉ '{' :: (s ++ ['}']) := by simpa using hcr
  have hrow : countNonBlank ('{' :: (s ++ ['}']) ++ '\n' :: rest) =
      countNonBlank ('{' :: (s ++ ['}']) ++ ['\n']) + countNonBlank rest :=
    countNonBlank_append_break (by decide) (by decide) hcr' rest
  have hpos : 0 < countNonBlank ('{' :: (s ++ ['}']) ++ ['\n']) :=
    countNonBlank_pos (c := '{') (by decide) (by simpa using hcr) (by simp)
  refine ⟨by omega, fun ⟨b, hb, hbreak⟩ => ?_⟩
  obtain ⟨left, right, rfl⟩ := List.append_of_mem hb
  simp only [List.mem_append, List.mem_cons, not_or] at hcr
  obtain ⟨hleft, hbcr, hright⟩ := hcr
  have hcut : '{' :: (left ++ b :: right ++ ['}']) ++ ['\n'] =
      '{' :: left ++ b :: (right ++ ['}', '\n']) := by simp
  have hcount : countNonBlank ('{' :: (left ++ b :: right ++ ['}']) ++ ['\n']) =
      countNonBlank ('{' :: left ++ [b]) + countNonBlank (right ++ ['}', '\n']) := by
    rw [hcut]
    exact countNonBlank_append_break hbreak (Ne.symm hbcr) (by simpa using hleft) _
  have h1 : 0 < countNonBlank ('{' :: left ++ [b]) :=
    countNonBlank_pos (c := '{') (by decide) (by simpa using ⟨hleft, hbcr⟩) (by simp)
  have h2 : 0 < countNonBlank (right ++ ['}', '\n']) :=
    countNonBlank_pos (c := '}') (by decide) (by simpa using hright) (by simp)
  omega

theorem AuditRecord.modelDumpJson_braced (r : AuditRecord) :
    ∃ s, r.modelDumpJson = '{' :: (s ++ ['}']) :=
  dumps_object .model _ _ _

/-- A row is one line that is not blank, and more if it has a separator. -/
theorem countNonBlank_row (r : AuditRecord) (rest : List Char) :
    countNonBlank rest + 1 ≤ countNonBlank (r.modelDumpJson ++ '\n' :: rest) ∧
      (¬ r.SeparatorFree →
        countNonBlank rest + 2 ≤ countNonBlank (r.modelDumpJson ++ '\n' :: rest)) := by
  obtain ⟨s, hs⟩ := r.modelDumpJson_braced
  have hcr := r.carriageReturn_not_mem
  rw [← r.unbroken_iff]
  rw [hs] at hcr ⊢
  obtain ⟨hone, htwo⟩ := countNonBlank_braced (s := s) (by simpa using hcr) rest
  refine ⟨hone, fun hbroken => htwo ?_⟩
  push Not at hbroken
  obtain ⟨c, hc, hbreak⟩ := hbroken
  have hbreak : isLineBreak c = true := by simpa using hbreak
  simp only [List.mem_cons, List.mem_append, List.not_mem_nil, or_false] at hc
  rcases hc with rfl | hc | rfl
  · exact absurd hbreak (by decide)
  · exact ⟨c, hc, hbreak⟩
  · exact absurd hbreak (by decide)

end Audit
