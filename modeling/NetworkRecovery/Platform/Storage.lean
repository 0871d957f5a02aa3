import NetworkRecovery.Audit.Writer

/-!
# JSON lines

`platform_core/storage.py`: a log file of one JSON object a line. Unlike the
readers of the audit log, `iter_jsonl` iterates the file itself, so that a line
ends at a line feed and at nothing else, and no string of a record can break
its row.

`JsonlFile` is a file that was only ever appended to, with the rows it holds;
that these are the rows a reader sees is the field `reads`.
-/

namespace Platform

open Python Audit

/-- `json.dumps(obj, ensure_ascii=False)`. -/
def rawStyle : Style := ⟨true, true, none, false, true⟩

/-- `append_jsonl`. -/
def appendJsonl (sep : Linesep) (file : File) (record : Dict) : File :=
  some (appendText sep (file.getD ByteArray.empty) (dumps rawStyle (.dict record) ++ ['\n']))

/-- The rows of a text. -/
def jsonlRows (text : List Char) : List Dict := (text.splitOn '\n').filterMap recordOfLine

/-- `iter_jsonl`, exhausted. -/
def iterJsonl : File → Except PyError (List Dict)
  | none => .ok []
  | some b => (readFile b).map jsonlRows

/-- A row of any style, appended to a file. -/
def appendLine (sty : Style) (sep : Linesep) (file : File) (record : Dict) : File :=
  some (appendText sep (file.getD ByteArray.empty) (dumps sty (.dict record) ++ ['\n']))

/-! ## One more row -/

/-- A style that writes a row on one line, and so that it can be read. -/
structure OneLine (sty : Style) : Prop where
  line : sty.indent = none
  named : sty.nanText = true

theorem oneLine_rawStyle : OneLine rawStyle := ⟨rfl, rfl⟩

theorem oneLine_compact : OneLine .compact := ⟨rfl, rfl⟩

theorem dumps_braced (sty : Style) (record : Dict) :
    ∃ s, dumps sty (.dict record) = '{' :: (s ++ ['}']) := by
  cases record with
  | nil => exact ⟨[], rfl⟩
  | cons e rest => exact dumps_object sty e.1 e.2 rest

theorem rawText_braced (record : Dict) :
    ∃ s, dumps rawStyle (.dict record) = '{' :: (s ++ ['}']) := dumps_braced rawStyle record

theorem lineFeed_not_mem_dumps {sty : Style} (hsty : OneLine sty) (record : Dict) :
    '\n' ∉ dumps sty (.dict record) := by
  intro h
  exact absurd (onLine_of_mem_dumps hsty.line h).1 (by decide)

theorem lineFeed_not_mem_rawText (record : Dict) : '\n' ∉ dumps rawStyle (.dict record) :=
  lineFeed_not_mem_dumps oneLine_rawStyle record

/-- The row of a record reads as the record. -/
theorem recordOfLine_dumps {sty : Style} (hsty : OneLine sty) {record : Dict}
    (hwf : (Value.dict record).WF) : recordOfLine (dumps sty (.dict record)) = some record := by
  obtain ⟨s, hs⟩ := dumps_braced sty record
  have hstrip : strip (dumps sty (.dict record)) = dumps sty (.dict record) := by
    rw [hs]
    exact strip_eq_self (by decide) (by decide)
  have hloads : loads (dumps sty (.dict record)) = some (.dict record) := by
    apply loads_dumps sty hwf
    intro hnan
    rw [hsty.named] at hnan
    cases hnan
  unfold recordOfLine
  rw [hstrip]
  split
  · rename_i hnil
    exact absurd (hs.symm.trans hnil) (List.cons_ne_nil _ _)
  · rw [hloads]

theorem recordOfLine_rawText {record : Dict} (hwf : (Value.dict record).WF) :
    recordOfLine (dumps rawStyle (.dict record)) = some record :=
  recordOfLine_dumps oneLine_rawStyle hwf

/-- A text at whose end the next row starts a line. -/
def Terminated (text : List Char) : Prop := text = [] ∨ ∃ init, text = init ++ ['\n']

/-- A row behind a terminated text is one row more. -/
theorem jsonlRows_concat {sty : Style} (hsty : OneLine sty) {text : List Char} {record : Dict}
    (hend : Terminated text) (hwf : (Value.dict record).WF) :
    jsonlRows (text ++ dumps sty (.dict record) ++ ['\n']) = jsonlRows text ++ [record] := by
  have hrow : (dumps sty (.dict record) ++ ['\n']).splitOn '\n' =
      [dumps sty (.dict record), []] := by
    rw [List.splitOn_append_cons_self_of_not_mem (lineFeed_not_mem_dumps hsty record)]
    simp
  have hblank : recordOfLine [] = none := rfl
  unfold jsonlRows
  rw [List.append_assoc]
  rcases hend with rfl | ⟨init, rfl⟩
  · rw [List.nil_append, hrow]
    simp [recordOfLine_dumps hsty hwf, hblank]
  · rw [List.append_assoc, List.singleton_append, List.splitOn_append_cons_self, hrow,
      List.splitOn_append_cons_self]
    simp [recordOfLine_dumps hsty hwf, hblank]

/-! ## Files that are only appended to -/

/-- A log file with the rows it holds. -/
structure JsonlFile where
  file : File
  rows : List Dict
  reads : iterJsonl file = .ok rows
  terminated : ∀ b, file = some b → ∃ text, readText b = some text ∧ Terminated text

/-- A file that is not there. -/
def JsonlFile.absent : JsonlFile where
  file := none
  rows := []
  reads := rfl
  terminated := fun b h => absurd h (by simp)

/-- Appending leaves the rows that were there and adds one. -/
theorem iterJsonl_appendLine {sty : Style} (hsty : OneLine sty) (sep : Linesep)
    (log : JsonlFile) {record : Dict} (hwf : (Value.dict record).WF) :
    iterJsonl (appendLine sty sep log.file record) = .ok (log.rows ++ [record]) ∧
      ∀ b, appendLine sty sep log.file record = some b →
        ∃ text, readText b = some text ∧ Terminated text := by
  obtain ⟨text, htext, hend, hrows⟩ : ∃ text,
      readText (log.file.getD ByteArray.empty) = some text ∧ Terminated text ∧
        jsonlRows text = log.rows := by
    have hreads := log.reads
    cases hfile : log.file with
    | none =>
      rw [hfile] at hreads
      obtain hnil : [] = log.rows := Except.ok.inj hreads
      exact ⟨[], rfl, .inl rfl, hnil⟩
    | some b =>
      obtain ⟨text, htext, hend⟩ := log.terminated b hfile
      refine ⟨text, htext, hend, ?_⟩
      rw [hfile] at hreads
      simp only [iterJsonl, readFile, htext] at hreads
      exact Except.ok.inj hreads
  obtain ⟨s, hs⟩ := dumps_braced sty record
  have hne : dumps sty (.dict record) ≠ [] := by
    rw [hs]
    exact List.cons_ne_nil _ _
  have hread := readText_appendText sep htext hne (lineFeed_not_mem_dumps hsty record)
    (carriageReturn_not_mem_dumps sty _)
  refine ⟨?_, fun b hb =>
    ⟨text ++ dumps sty (.dict record) ++ ['\n'], ?_, .inr ⟨_, rfl⟩⟩⟩
  · simp only [appendLine, iterJsonl, readFile, hread, Except.map]
    rw [jsonlRows_concat hsty hend hwf, hrows]
  · obtain rfl := Option.some.inj hb
    exact hread

theorem iterJsonl_appendJsonl (sep : Linesep) (log : JsonlFile) {record : Dict}
    (hwf : (Value.dict record).WF) :
    iterJsonl (appendJsonl sep log.file record) = .ok (log.rows ++ [record]) ∧
      ∀ b, appendJsonl sep log.file record = some b →
        ∃ text, readText b = some text ∧ Terminated text :=
  iterJsonl_appendLine oneLine_rawStyle sep log hwf

/-- `append_jsonl` on such a file. -/
def JsonlFile.append (sep : Linesep) (log : JsonlFile) (record : Dict)
    (hwf : (Value.dict record).WF) : JsonlFile where
  file := appendJsonl sep log.file record
  rows := log.rows ++ [record]
  reads := (iterJsonl_appendJsonl sep log hwf).1
  terminated := (iterJsonl_appendJsonl sep log hwf).2

/-- A row of another style, on such a file. -/
def JsonlFile.appendLine {sty : Style} (hsty : OneLine sty) (sep : Linesep) (log : JsonlFile)
    (record : Dict) (hwf : (Value.dict record).WF) : JsonlFile where
  file := Platform.appendLine sty sep log.file record
  rows := log.rows ++ [record]
  reads := (iterJsonl_appendLine hsty sep log hwf).1
  terminated := (iterJsonl_appendLine hsty sep log hwf).2

/-! ## Fields of a row -/

/-- The member of an enumeration with a given text. -/
def ofText {α : Type} (all : List α) (text : α → String) (s : String) : Option α :=
  all.find? fun a => text a = s

theorem text_of_ofText {α : Type} {all : List α} {text : α → String} {s : String} {a : α}
    (h : ofText all text s = some a) : text a = s := by
  have hfound := List.find?_some h
  exact of_decide_eq_true hfound

/-- The string under a key. -/
def textField (row : Dict) (key : String) : Option String :=
  match row.get? key with
  | some (.str s) => some s
  | _ => none

/-- The string or `None` under a key. -/
def optionalField (row : Dict) (key : String) : Option (Option String) :=
  match row.get? key with
  | some .none => some none
  | some (.str s) => some (some s)
  | _ => none

end Platform
