import NetworkRecovery.Platform.Storage

/-!
# Readers of recent rows

Three readers of JSON lines take a limit and are asked for the newest rows: `read_events`
of the event bus, `list_recent_events` of the domain events and `read_recent_jsonl`. The
first stops at the first rows that match, one at least; the second takes the first rows,
and raises on one that is no event; the third takes the last, and all of them where it is
asked for none (`readers_newest_iff`).
-/

namespace Platform

open Python Audit

/-! ## The event bus -/

/-- `SUPPORTED_SCHEMA_VERSIONS`. -/
def supportedSchemaVersions : List String := ["1", "2026.01"]

/-- `validate_schema_version`: the error, if there is one. -/
def validateSchemaVersion (raw : Dict) : Option String :=
  match raw.fetch "schema_version" with
  | .none => some "missing_schema_version"
  | sv =>
    if supportedSchemaVersions.contains sv.toText then none
    else some ("unsupported_schema_version:" ++ sv.toText)

/-- The filters of `read_events`. -/
structure EventFilters where
  eventType : Option String := none
  minSeverity : Option String := none
  endpointIdHash : Option String := none
  schemaVersion : Option String := none

/-- `sev_rank.get(severity, 0)`. -/
def severityRank (severity : String) : Nat :=
  (([("info", 0), ("low", 1), ("medium", 2), ("high", 3), ("critical", 4)] :
    List (String × Nat)).lookup severity).getD 0

/-- A filter that is set and not empty. -/
def setFilter (filter : Option String) : Option String := filter.filter (· ≠ "")

/-- The tests of a row, in their order. -/
def EventFilters.passes (filters : EventFilters) (obj : Dict) : Bool :=
  (setFilter filters.eventType).all (fun text => (obj.fetch "event_type").pyEq (.str text)) &&
    (setFilter filters.schemaVersion).all (fun text => (obj.fetch "schema_version").toText == text) &&
    (setFilter filters.endpointIdHash).all
      (fun text => (obj.fetch "endpoint_id_hash").pyEq (.str text)) &&
    (setFilter filters.minSeverity).all fun text =>
      severityRank text ≤ severityRank (orElse (obj.get? "severity") (.str "info")).toText

/-- What a line of the event bus is. -/
inductive EventLine where
  | blank
  | error (row : Dict)
  | row (obj : Dict)

section EventBus

-- `str(exc)` of the `JSONDecodeError` that a line raises
variable (decodeError : List Char → String)

/-- The first half of the loop body of `read_events`. -/
def eventLine (lineNo : Nat) (line : List Char) : EventLine :=
  match strip line with
  | [] => .blank
  | line => match loads line with
    | none => .error [("line_no", .int lineNo), ("detail", .str (decodeError line)),
        ("raw", .str (.ofList (line.take 200)))]
    | some (.dict obj) => match validateSchemaVersion obj with
      | some err => .error [("line_no", .int lineNo), ("detail", .str err),
          ("raw", .str (.ofList (line.take 200)))]
      | none => .row obj
    | some _ => .error [("line_no", .int lineNo), ("detail", .str "not_a_json_object")]

/-- The loop of `read_events`. -/
def readEventLines (filters : EventFilters) (limit : Nat) :
    Nat → List Dict → List Dict → List (List Char) → List Dict × List Dict
  | _, good, errors, [] => (good, errors)
  | lineNo, good, errors, line :: rest =>
    match eventLine decodeError lineNo line with
    | .blank => readEventLines filters limit (lineNo + 1) good errors rest
    | .error row => readEventLines filters limit (lineNo + 1) good (errors ++ [row]) rest
    | .row obj =>
      if filters.passes obj then
        if limit ≤ (good ++ [obj]).length then (good ++ [obj], errors)
        else readEventLines filters limit (lineNo + 1) (good ++ [obj]) errors rest
      else readEventLines filters limit (lineNo + 1) good errors rest

/-- The text of a log; one that is not there has none. -/
def logText : File → Except PyError (List Char)
  | none => .ok []
  | some b => readFile b

/-- `read_events`: the good rows and the parse errors. -/
def readEvents (filters : EventFilters) (limit : Nat) (file : File) :
    Except PyError (List Dict × List Dict) :=
  (logText file).map fun text => readEventLines decodeError filters limit 1 [] [] (text.splitOn '\n')

end EventBus

/-! ## The other readers -/

/-- `read_recent_jsonl`. -/
def readRecentJsonl (file : File) (limit : Nat) : Except PyError (List Dict) :=
  (iterJsonl file).map fun rows =>
    if rows.length ≤ limit then rows
    -- `rows[-0:]` is `rows[0:]`
    else if limit = 0 then rows
    else rows.drop (rows.length - limit)

section DomainEvents

-- `TriskDomainEvent.model_validate`; `none` is a `ValidationError`
variable {Event : Type} (modelValidate : Dict → Option Event)

/-- `TriskEventStore.iter_events`, exhausted. -/
def iterEvents (file : File) (aggregateId : Option String) (limit offset : Nat) :
    Except PyError (List Event) := do
  let all ← iterJsonl file
  let rows := all.filter fun row =>
    (setFilter aggregateId).all fun text => (row.fetch "aggregate_id").pyEq (.str text)
  ((rows.drop offset).take limit).mapM fun row => (modelValidate row).elim (.error .value) .ok

/-- `list_recent_events`, by way of `TriskEventStore.list_events`. -/
def listRecentEvents (file : File) (limit offset : Nat) : Except PyError (List Event) :=
  iterEvents modelValidate file none limit offset

end DomainEvents

/-! ## The newest rows -/

/-- The last rows, as many as the limit. -/
def newest {α : Type} (limit : Nat) (rows : List α) : List α := rows.drop (rows.length - limit)

/-- The first rows, as many as the limit, are the last ones, row for row. -/
def HeadIsTail {α : Type} (limit : Nat) (rows : List α) : Prop := rows.take limit = newest limit rows

theorem newest_of_le {α : Type} {limit : Nat} {rows : List α} (h : rows.length ≤ limit) :
    newest limit rows = rows := by
  rw [newest, Nat.sub_eq_zero_of_le h, List.drop_zero]

theorem newest_zero {α : Type} (rows : List α) : newest 0 rows = [] := List.drop_length

/-- A limit that suffices for all rows. -/
theorem headIsTail_of_le {α : Type} {limit : Nat} {rows : List α} (h : rows.length ≤ limit) :
    HeadIsTail limit rows := by
  rw [HeadIsTail, newest_of_le h, List.take_of_length_le h]

/-- The row of a line of the event bus that is well formed and matches. -/
def matchingRow (filters : EventFilters) (line : List Char) : Option Dict :=
  (recordOfLine line).filter fun obj => (validateSchemaVersion obj).isNone && filters.passes obj

/-- The rows of a text that are well formed and match. -/
def matchingRows (filters : EventFilters) (text : List Char) : List Dict :=
  (text.splitOn '\n').filterMap (matchingRow filters)

/-- The events among the rows of a text. -/
def eventRows {Event : Type} (modelValidate : Dict → Option Event) (text : List Char) : List Event :=
  (jsonlRows text).filterMap modelValidate

theorem iterJsonl_eq (file : File) : iterJsonl file = (logText file).map jsonlRows := by
  cases file <;> rfl

/-! ## What the readers take -/

/-- The row of a line, if it has one. -/
def EventLine.obj? : EventLine → Option Dict
  | .row obj => some obj
  | .blank | .error _ => none

theorem matchingRow_eq (decodeError : List Char → String) (filters : EventFilters) (lineNo : Nat)
    (line : List Char) :
    matchingRow filters line = (eventLine decodeError lineNo line).obj?.filter filters.passes := by
  unfold matchingRow recordOfLine eventLine
  cases strip line with
  | nil => rfl
  | cons c cs =>
    dsimp only
    cases loads (c :: cs) with
    | none => rfl
    | some v =>
      cases v with
      | dict record =>
        dsimp only
        cases hversion : validateSchemaVersion record with
        | none =>
          rw [EventLine.obj?, Option.filter_some, Option.filter_some, hversion, Option.isNone_none,
            Bool.true_and]
        | some err =>
          rw [EventLine.obj?, Option.filter_some, hversion, Option.isNone_some, Bool.false_and,
            if_neg Bool.false_ne_true]
          rfl
      | _ => rfl

/-- The bus takes the first rows that match, and one where it is asked for none. -/
theorem fst_readEventLines (decodeError : List Char → String) (filters : EventFilters) {limit : Nat}
    {lineNo : Nat} {good errors : List Dict} (hlength : good.length < max limit 1)
    (lines : List (List Char)) :
    (readEventLines decodeError filters limit lineNo good errors lines).1 =
      good ++ (lines.filterMap (matchingRow filters)).take (max limit 1 - good.length) := by
  induction lines generalizing lineNo good errors with
  | nil => rw [readEventLines, List.filterMap_nil, List.take_nil, List.append_nil]
  | cons line rest ih =>
    rw [readEventLines, List.filterMap_cons, matchingRow_eq decodeError filters lineNo line]
    cases eventLine decodeError lineNo line with
    | blank => exact ih hlength
    | error row => exact ih hlength
    | row obj =>
      rw [EventLine.obj?, Option.filter_some]
      by_cases hpasses : filters.passes obj = true
      · dsimp only
        rw [if_pos hpasses, if_pos hpasses, List.length_append, List.length_singleton]
        have hroom : max limit 1 - good.length = max limit 1 - (good.length + 1) + 1 := by omega
        rw [hroom, List.take_succ_cons]
        split
        next hfull =>
          have hnone : max limit 1 - (good.length + 1) = 0 := by omega
          rw [hnone, List.take_zero]
        next hmore =>
          have hlength' : (good ++ [obj]).length < max limit 1 := by
            rw [List.length_append, List.length_singleton]
            omega
          rw [ih hlength', List.append_assoc, List.singleton_append, List.length_append,
            List.length_singleton]
      · dsimp only
        rw [if_neg hpasses, if_neg hpasses]
        exact ih hlength

theorem readEvents_rows (decodeError : List Char → String) (filters : EventFilters) (limit : Nat)
    (file : File) :
    (readEvents decodeError filters limit file).map Prod.fst =
      (logText file).map fun text => (matchingRows filters text).take (max limit 1) := by
  unfold readEvents
  cases logText file with
  | error e => rfl
  | ok text =>
    refine congrArg Except.ok ?_
    exact fst_readEventLines decodeError filters (by rw [List.length_nil]; omega) _

theorem readRecentJsonl_rows (file : File) (limit : Nat) :
    readRecentJsonl file limit = (logText file).map fun text =>
      if limit = 0 then jsonlRows text else newest limit (jsonlRows text) := by
  unfold readRecentJsonl
  rw [iterJsonl_eq]
  cases logText file with
  | error e => rfl
  | ok text =>
    refine congrArg Except.ok ?_
    dsimp only
    split
    next hall =>
      split
      next => rfl
      next => exact (newest_of_le hall).symm
    next => rfl

/-- The reading of rows as events raises on one that is none. -/
theorem mapM_modelValidate {Event : Type} {modelValidate : Dict → Option Event} {rows : List Dict}
    {events : List Event} :
    (rows.mapM fun row => (modelValidate row).elim (.error .value) Except.ok) =
        (.ok events : Except PyError (List Event)) ↔
      (∀ row ∈ rows, (modelValidate row).isSome = true) ∧ events = rows.filterMap modelValidate := by
  induction rows generalizing events with
  | nil =>
    rw [List.mapM_nil, List.filterMap_nil]
    exact ⟨fun h => ⟨nofun, (Except.ok.inj h).symm⟩, fun h => congrArg Except.ok h.2.symm⟩
  | cons row rows ih =>
    rw [List.mapM_cons, bind_ok, List.forall_mem_cons, List.filterMap_cons]
    cases modelValidate row with
    | none =>
      refine iff_of_false ?_ (fun h => Bool.false_ne_true h.1.1)
      rintro ⟨event, hevent, -⟩
      cases hevent
    | some event =>
      constructor
      · rintro ⟨_, ⟨⟩, h⟩
        obtain ⟨rest, hrest, h⟩ := bind_ok.mp h
        obtain rfl := Except.ok.inj h
        obtain ⟨hall, rfl⟩ := ih.mp hrest
        exact ⟨⟨rfl, hall⟩, rfl⟩
      · rintro ⟨⟨-, hall⟩, rfl⟩
        exact ⟨event, rfl, bind_ok.mpr ⟨_, ih.mpr ⟨hall, rfl⟩, rfl⟩⟩

theorem listRecentEvents_rows {Event : Type} {modelValidate : Dict → Option Event} {file : File}
    {limit : Nat} {events : List Event} :
    listRecentEvents modelValidate file limit 0 = .ok events ↔
      ∃ text, logText file = .ok text ∧
        (∀ row ∈ (jsonlRows text).take limit, (modelValidate row).isSome = true) ∧
          events = ((jsonlRows text).take limit).filterMap modelValidate := by
  have hall : ∀ rows : List Dict, (rows.filter fun row =>
      (setFilter none).all fun text => (row.fetch "aggregate_id").pyEq (.str text)) = rows :=
    fun rows => List.filter_eq_self.mpr fun row _ => rfl
  unfold listRecentEvents iterEvents
  rw [iterJsonl_eq, bind_ok]
  constructor
  · rintro ⟨rows, hrows, h⟩
    obtain ⟨text, htext, rfl⟩ := map_ok.mp hrows
    dsimp only at h
    rw [hall, List.drop_zero] at h
    exact ⟨text, htext, mapM_modelValidate.mp h⟩
  · rintro ⟨text, htext, h⟩
    refine ⟨jsonlRows text, map_ok.mpr ⟨text, htext, rfl⟩, ?_⟩
    dsimp only
    rw [hall, List.drop_zero]
    exact mapM_modelValidate.mpr h

/-- Where the first rows are events they are the first events. -/
theorem filterMap_take {α β : Type} {f : α → Option β} {limit : Nat} {rows : List α}
    (h : ∀ row ∈ rows.take limit, (f row).isSome = true) :
    (rows.take limit).filterMap f = (rows.filterMap f).take limit := by
  induction rows generalizing limit with
  | nil => rw [List.take_nil, List.filterMap_nil, List.take_nil]
  | cons row rows ih =>
    cases limit with
    | zero => rfl
    | succ limit =>
      rw [List.take_succ_cons] at h ⊢
      obtain ⟨hrow, hrest⟩ := List.forall_mem_cons.mp h
      obtain ⟨b, hb⟩ := Option.isSome_iff_exists.mp hrow
      rw [List.filterMap_cons_some hb, List.filterMap_cons_some hb, List.take_succ_cons, ih hrest]

/-! ## When they are the newest -/

section Newest

variable {decodeError : List Char → String} {Event : Type} {modelValidate : Dict → Option Event}
  {filters : EventFilters} {limit : Nat} {file : File}

theorem readEvents_newest_iff :
    ((readEvents decodeError filters limit file).map Prod.fst =
        (logText file).map fun text => newest limit (matchingRows filters text)) ↔
      ∀ text, logText file = .ok text →
        (limit = 0 → matchingRows filters text = []) ∧ HeadIsTail limit (matchingRows filters text) := by
  rw [readEvents_rows]
  cases logText file with
  | error e =>
    refine iff_of_true rfl fun text htext => ?_
    cases htext
  | ok text =>
    have htake : (matchingRows filters text).take (max limit 1) =
        newest limit (matchingRows filters text) ↔
          (limit = 0 → matchingRows filters text = []) ∧ HeadIsTail limit (matchingRows filters text) := by
      rcases Nat.eq_zero_or_pos limit with rfl | hpos
      · rw [HeadIsTail, newest_zero, List.take_zero, Nat.max_eq_right (Nat.zero_le 1),
          List.take_eq_nil_iff]
        simp
      · rw [Nat.max_eq_left hpos, HeadIsTail]
        exact (and_iff_right fun hzero => absurd hzero hpos.ne').symm
    constructor
    · rintro h _ ⟨⟩
      exact htake.mp (Except.ok.inj h)
    · exact fun h => congrArg Except.ok (htake.mpr (h text rfl))

theorem listRecentEvents_newest_iff :
    (listRecentEvents modelValidate file limit 0 =
        (logText file).map fun text => newest limit (eventRows modelValidate text)) ↔
      ∀ text, logText file = .ok text →
        (∀ row ∈ (jsonlRows text).take limit, (modelValidate row).isSome = true) ∧
          HeadIsTail limit (eventRows modelValidate text) := by
  cases hlog : logText file with
  | error e =>
    have hraises : listRecentEvents modelValidate file limit 0 = .error e := by
      unfold listRecentEvents iterEvents
      rw [iterJsonl_eq, hlog]
      rfl
    refine iff_of_true hraises fun text htext => ?_
    cases htext
  | ok text =>
    constructor
    · rintro h _ ⟨⟩
      obtain ⟨text', htext', hvalid, hrows⟩ := listRecentEvents_rows.mp h
      obtain rfl := Except.ok.inj (hlog.symm.trans htext')
      refine ⟨hvalid, ?_⟩
      rw [filterMap_take hvalid] at hrows
      exact hrows.symm
    · intro h
      obtain ⟨hvalid, htail⟩ := h text rfl
      refine listRecentEvents_rows.mpr ⟨text, hlog, hvalid, ?_⟩
      rw [filterMap_take hvalid]
      exact htail.symm

theorem readRecentJsonl_newest_iff :
    (readRecentJsonl file limit = (logText file).map fun text => newest limit (jsonlRows text)) ↔
      ∀ text, logText file = .ok text → limit = 0 → jsonlRows text = [] := by
  rw [readRecentJsonl_rows]
  cases logText file with
  | error e =>
    refine iff_of_true rfl fun text htext => ?_
    cases htext
  | ok text =>
    constructor
    · rintro h _ ⟨⟩ rfl
      have hrows := Except.ok.inj h
      dsimp only at hrows
      rw [if_pos rfl, newest_zero] at hrows
      exact hrows
    · intro h
      refine congrArg Except.ok ?_
      dsimp only
      split
      next hzero => rw [h text rfl hzero, newest, List.drop_nil]
      next => rfl

end Newest

/-- Each of the readers returns the newest of its rows, as many as the limit. -/
structure ReadsNewest {Event : Type} (decodeError : List Char → String)
    (modelValidate : Dict → Option Event) (filters : EventFilters) (limit : Nat)
    (bus domain recent : File) : Prop where
  readEvents : (readEvents decodeError filters limit bus).map Prod.fst =
    (logText bus).map fun text => newest limit (matchingRows filters text)
  listRecentEvents : listRecentEvents modelValidate domain limit 0 =
    (logText domain).map fun text => newest limit (eventRows modelValidate text)
  readRecentJsonl : readRecentJsonl recent limit =
    (logText recent).map fun text => newest limit (jsonlRows text)

/-- The readers return the newest rows where the first ones are the last, the rows that the
domain reader takes are events, and none is asked of no rows only. -/
theorem readers_newest_iff {Event : Type} (decodeError : List Char → String)
    (modelValidate : Dict → Option Event) (filters : EventFilters) (limit : Nat)
    (bus domain recent : File) :
    ReadsNewest decodeError modelValidate filters limit bus domain recent ↔
      (∀ text, logText bus = .ok text →
        (limit = 0 → matchingRows filters text = []) ∧ HeadIsTail limit (matchingRows filters text)) ∧
      (∀ text, logText domain = .ok text →
        (∀ row ∈ (jsonlRows text).take limit, (modelValidate row).isSome = true) ∧
          HeadIsTail limit (eventRows modelValidate text)) ∧
      (∀ text, logText recent = .ok text → limit = 0 → jsonlRows text = []) := by
  constructor
  · intro h
    exact ⟨readEvents_newest_iff.mp h.readEvents, listRecentEvents_newest_iff.mp h.listRecentEvents,
      readRecentJsonl_newest_iff.mp h.readRecentJsonl⟩
  · rintro ⟨hbus, hdomain, hrecent⟩
    exact ⟨readEvents_newest_iff.mpr hbus, listRecentEvents_newest_iff.mpr hdomain,
      readRecentJsonl_newest_iff.mpr hrecent⟩

/-- Two rows of the event bus. -/
def twoRows : File :=
  some ("\x7b\"schema_version\": \"1\", \"n\": 1\x7d\n" ++
    "\x7b\"schema_version\": \"1\", \"n\": 2\x7d\n").toUTF8

/-- The bus and the domain reader take the older of two rows, and the third reader takes
both where it is asked for none. -/
theorem twoRows_oldest :
    (readEvents (fun _ => "") {} 1 twoRows).map (fun r => r.1.map fun row => (row.fetch "n").toText) =
        .ok ["1"] ∧
      (listRecentEvents some twoRows 1 0).map (fun rows => rows.map fun row => (row.fetch "n").toText) =
        .ok ["1"] ∧
      (readRecentJsonl twoRows 0).map List.length = .ok 2 ∧
      ¬ ∀ (decodeError : List Char → String) (modelValidate : Dict → Option Dict)
        (filters : EventFilters) (limit : Nat) (bus domain recent : File),
        ReadsNewest decodeError modelValidate filters limit bus domain recent := by
  have hall : (readRecentJsonl twoRows 0).map List.length = .ok 2 := by decide +kernel
  refine ⟨by decide +kernel, by decide +kernel, hall, fun h => ?_⟩
  have hnone := congrArg (Except.map List.length)
    (h (fun _ => "") some {} 0 none none twoRows).readRecentJsonl
  rw [hall] at hnone
  exact absurd hnone (by decide +kernel)

end Platform
