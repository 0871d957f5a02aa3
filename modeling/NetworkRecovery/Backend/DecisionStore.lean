import NetworkRecovery.Lib.Paging
import NetworkRecovery.Toolkit.JsonlLogs

/-!
# The two stores of the decision intelligence API

`store.py` of `backend/decision_intelligence`: events, decisions and outcomes are
kept in JSON lines or in PostgreSQL. The one store reads its file, filters,
sorts and slices lists; the other one leaves this to `WHERE`, `ORDER BY`, `LIMIT`
and `OFFSET`.

What the three listings share is written once, over a `Kind` of record; each
listing is the shared one at its own kind and filters. Of PostgreSQL the model
takes how it reads a time, how the driver prints one, and what `NOW()` gave each
row.
-/

namespace DecisionIntelligence

open Python Platform Toolkit Paging
open Audit (File)

/-! ## Records -/

/-- `row[key]`, a string. -/
def textOr (row : Dict) (key : String) (default : Option String) : Option String :=
  match row.get? key with
  | some (.str s) => some s
  | some _ => none
  | none => default

def flagOr (row : Dict) (key : String) (default : Option Bool) : Option Bool :=
  match row.get? key with
  | some (.bool b) => some b
  | some _ => none
  | none => default

def objectOr (row : Dict) (key : String) : Option Dict :=
  match row.get? key with
  | some (.dict entries) => some entries
  | some _ => none
  | none => some []

/-- The decimal in units of `10 ^ e`, for an `e` up to its own exponent. -/
def scaled (d : Decimal) (e : Int) : Int :=
  (if d.neg then -1 else 1) * (d.digits * 10 ^ (d.exponent - e).toNat)

/-- `x <= y` of floats. -/
def floatLe : FloatVal → FloatVal → Bool
  | .finite x, .finite y =>
    let e := min x.exponent y.exponent
    scaled x e ≤ scaled y e
  | .nan, _ | _, .nan => false
  | .inf neg, .inf neg' => neg || !neg'
  | .inf neg, .finite _ => neg
  | .finite _, .inf neg => !neg

/-- `Field(ge=0.0)`, or `Field(ge=0.0, le=most)`. -/
def inField (most : Option Nat) (x : FloatVal) : Bool :=
  floatLe (.finite (.ofParts false 0 0)) x &&
    most.all fun n => floatLe x (.finite (.ofParts false n 0))

/-- A float that such a field takes. -/
structure Ranged (most : Option Nat) where
  val : FloatVal
  inField : inField most val = true

def Ranged.of? (most : Option Nat) (x : FloatVal) : Option (Ranged most) :=
  if h : DecisionIntelligence.inField most x = true then some ⟨x, h⟩ else none

def rangedOr (row : Dict) (key : String) (most : Option Nat) (default : Option (Ranged most)) :
    Option (Ranged most) :=
  match row.get? key with
  | some (.float x) => Ranged.of? most x
  | some _ => none
  | none => default

theorem Ranged.of?_val {most : Option Nat} (x : Ranged most) : Ranged.of? most x.val = some x :=
  dif_pos x.inField

/-- `EventCreate`. -/
structure EventCreate where
  eventId : String
  domain : String := "generic"
  title : String
  category : String := ""
  timestampUtc : String
  payload : Dict := []

/-- `DecisionCreate`. -/
structure DecisionCreate where
  decisionId : String
  domain : String
  title : String
  confidence : Ranged (some 1)
  riskScore : Ranged (some 100)
  policyStatus : String := "PREVIEW"
  payload : Dict := []
  contentDigest : String := ""
  timestampUtc : String

/-- `OutcomeCreate`. -/
structure OutcomeCreate where
  outcomeId : String
  decisionId : String
  outcome : String
  success : Bool
  predictedSuccess : Bool := true
  cost : Ranged none
  timeToResolution : Ranged none
  notes : String := ""
  recordedAtUtc : String

/-- `row.model_dump(mode="json")`. -/
def EventCreate.modelDump (e : EventCreate) : Dict :=
  [("event_id", .str e.eventId), ("domain", .str e.domain), ("title", .str e.title),
    ("category", .str e.category), ("timestamp_utc", .str e.timestampUtc),
    ("payload", .dict e.payload)]

def DecisionCreate.modelDump (d : DecisionCreate) : Dict :=
  [("decision_id", .str d.decisionId), ("domain", .str d.domain), ("title", .str d.title),
    ("confidence", .float d.confidence.val), ("risk_score", .float d.riskScore.val),
    ("policy_status", .str d.policyStatus), ("payload", .dict d.payload),
    ("content_digest", .str d.contentDigest), ("timestamp_utc", .str d.timestampUtc)]

def OutcomeCreate.modelDump (o : OutcomeCreate) : Dict :=
  [("outcome_id", .str o.outcomeId), ("decision_id", .str o.decisionId),
    ("outcome", .str o.outcome), ("success", .bool o.success),
    ("predicted_success", .bool o.predictedSuccess), ("cost", .float o.cost.val),
    ("time_to_resolution", .float o.timeToResolution.val), ("notes", .str o.notes),
    ("recorded_at_utc", .str o.recordedAtUtc)]

/-- `EventRecord.model_validate(row)`, but for `created_at`. -/
def EventCreate.modelValidate (row : Dict) : Option EventCreate := do
  return {
    eventId := ← textOr row "event_id" none
    domain := ← textOr row "domain" (some "generic")
    title := ← textOr row "title" none
    category := ← textOr row "category" (some "")
    timestampUtc := ← textOr row "timestamp_utc" none
    payload := ← objectOr row "payload" }

def DecisionCreate.modelValidate (row : Dict) : Option DecisionCreate := do
  return {
    decisionId := ← textOr row "decision_id" none
    domain := ← textOr row "domain" none
    title := ← textOr row "title" none
    confidence := ← rangedOr row "confidence" (some 1) none
    riskScore := ← rangedOr row "risk_score" (some 100) none
    policyStatus := ← textOr row "policy_status" (some "PREVIEW")
    payload := ← objectOr row "payload"
    contentDigest := ← textOr row "content_digest" (some "")
    timestampUtc := ← textOr row "timestamp_utc" none }

def OutcomeCreate.modelValidate (row : Dict) : Option OutcomeCreate := do
  let zero := Ranged.of? none (.finite (.ofParts false 0 0))
  return {
    outcomeId := ← textOr row "outcome_id" none
    decisionId := ← textOr row "decision_id" none
    outcome := ← textOr row "outcome" none
    success := ← flagOr row "success" none
    predictedSuccess := ← flagOr row "predicted_success" (some true)
    cost := ← rangedOr row "cost" none zero
    timeToResolution := ← rangedOr row "time_to_resolution" none zero
    notes := ← textOr row "notes" (some "")
    recordedAtUtc := ← textOr row "recorded_at_utc" none }

theorem EventCreate.modelValidate_dump (e : EventCreate) : modelValidate e.modelDump = some e := by
  simp [modelValidate, modelDump, textOr, objectOr, Dict.get?, List.lookup_cons]

theorem DecisionCreate.modelValidate_dump (d : DecisionCreate) :
    modelValidate d.modelDump = some d := by
  simp [modelValidate, modelDump, textOr, objectOr, rangedOr, Dict.get?, List.lookup_cons,
    Ranged.of?_val]

theorem OutcomeCreate.modelValidate_dump (o : OutcomeCreate) :
    modelValidate o.modelDump = some o := by
  simp [modelValidate, modelDump, textOr, flagOr, rangedOr, Dict.get?, List.lookup_cons,
    Ranged.of?_val]

/-! ## Kinds of records -/

/-- What the stores need to know of a kind of record. -/
structure Kind (α : Type) where
  id : α → String
  time : α → String
  /-- the record with its time written in another way -/
  retime : α → String → α
  modelDump : α → Dict
  modelValidate : Dict → Option α
  modelValidate_dump : ∀ a, modelValidate (modelDump a) = some a
  id_retime : ∀ a s, id (retime a s) = id a
  time_retime : ∀ a s, time (retime a s) = s
  retime_retime : ∀ a s t, retime (retime a s) t = retime a t

def eventKind : Kind EventCreate where
  id := EventCreate.eventId
  time := EventCreate.timestampUtc
  retime := fun e s => { e with timestampUtc := s }
  modelDump := EventCreate.modelDump
  modelValidate := EventCreate.modelValidate
  modelValidate_dump := EventCreate.modelValidate_dump
  id_retime := fun _ _ => rfl
  time_retime := fun _ _ => rfl
  retime_retime := fun _ _ _ => rfl

def decisionKind : Kind DecisionCreate where
  id := DecisionCreate.decisionId
  time := DecisionCreate.timestampUtc
  retime := fun d s => { d with timestampUtc := s }
  modelDump := DecisionCreate.modelDump
  modelValidate := DecisionCreate.modelValidate
  modelValidate_dump := DecisionCreate.modelValidate_dump
  id_retime := fun _ _ => rfl
  time_retime := fun _ _ => rfl
  retime_retime := fun _ _ _ => rfl

def outcomeKind : Kind OutcomeCreate where
  id := OutcomeCreate.outcomeId
  time := OutcomeCreate.recordedAtUtc
  retime := fun o s => { o with recordedAtUtc := s }
  modelDump := OutcomeCreate.modelDump
  modelValidate := OutcomeCreate.modelValidate
  modelValidate_dump := OutcomeCreate.modelValidate_dump
  id_retime := fun _ _ => rfl
  time_retime := fun _ _ => rfl
  retime_retime := fun _ _ _ => rfl

/-- `EventRecord`, `DecisionRecord` or `OutcomeRecord`: the created record, and
`created_at`. -/
structure Recorded (α : Type) where
  row : α
  createdAt : Option String

abbrev EventRecord := Recorded EventCreate

abbrev DecisionRecord := Recorded DecisionCreate

abbrev OutcomeRecord := Recorded OutcomeCreate

/-- `PaginatedResponse`. -/
structure PaginatedResponse (α : Type) where
  items : List α
  page : Nat
  pageSize : Nat
  total : Nat
  hasMore : Bool

/-- `_paginate`. -/
def paginate {α : Type} (items : List α) (number pageSize : Nat) : PaginatedResponse α :=
  let start := (number - 1) * pageSize
  { items := page items number pageSize
    page := number
    pageSize := pageSize
    total := items.length
    hasMore := start + pageSize < items.length }

/-! ## JSON lines -/

section Jsonl

variable {α : Type} (k : Kind α)

/-- `create_event` and its siblings, one after the other. -/
def jsonlFile (sep : Linesep) (rows : List α) : File := appendAll sep (rows.map k.modelDump)

/-- `_read_all` of a file, each row validated; `none` where one of them raises. -/
def readRecords (file : File) : Option (List (Recorded α)) :=
  match file with
  | none => some []
  | some b => (readText b).bind fun text => (allOfText text).bind fun values =>
    values.mapM fun
      | .dict row => (k.modelValidate row).map fun a => ⟨a, none⟩
      | _ => none

/-- The listing of a file: read, filter, sort, slice. -/
def jsonlList (filter : List (Recorded α) → List (Recorded α)) (file : File)
    (number pageSize : Nat) : Option (PaginatedResponse (Recorded α)) :=
  (readRecords k file).map fun rows =>
    paginate (latestPairFirst (fun r => k.time r.row) (fun r => k.id r.row) (filter rows)) number
      pageSize

end Jsonl

/-! ## PostgreSQL -/

/-- What the model does not say of the database and its driver: the instant of a
text, `none` where it is none; what an instant is printed as; and when each row
was made. -/
structure Postgres where
  instant : String → Option Int
  isoformat : Int → String
  createdAt : String → String

/-- A row of a table. -/
structure TableRow (α : Type) where
  row : α
  at_ : Int
  createdAt : String

section Sql

variable {α : Type} (k : Kind α) (pg : Postgres)

/-- The table after an `INSERT` for each record: one whose time is no instant raises. -/
def tableOf (rows : List α) : List (TableRow α) :=
  rows.filterMap fun a => (pg.instant (k.time a)).map fun at_ => ⟨a, at_, pg.createdAt (k.id a)⟩

/-- The record made of a selected row. -/
def TableRow.record (r : TableRow α) : Recorded α :=
  ⟨k.retime r.row (pg.isoformat r.at_), some r.createdAt⟩

/-- The listing of a table: `WHERE`, `COUNT(*)`, `ORDER BY`, `LIMIT`, `OFFSET`. A
condition that is no condition raises. -/
def sqlList (condition : Option (TableRow α → Bool)) (table : List (TableRow α))
    (number pageSize : Nat) : Option (PaginatedResponse (Recorded α)) :=
  condition.map fun p =>
    let selected := table.filter p
    let offset := (number - 1) * pageSize
    let rows := ((latestFirst TableRow.at_ (fun r => k.id r.row) selected).drop offset).take pageSize
    { items := rows.map (TableRow.record k pg)
      page := number
      pageSize := pageSize
      total := selected.length
      hasMore := offset + rows.length < selected.length }

end Sql

/-! ## Filters -/

/-- `if value:` -/
def given : Option String → Option String
  | some "" => none
  | value => value

/-- A list comprehension, if there is something to filter by. -/
def narrow {α β : Type} (value : Option β) (p : β → α → Bool) (rows : List α) : List α :=
  match value with
  | some v => rows.filter (p v)
  | none => rows

/-- A clause of the condition, if there is something to ask for. -/
def clause {β : Type} (value : Option β) (p : β → Bool) : Bool := value.all p

structure EventFilters where
  domain : Option String := none
  category : Option String := none
  eventId : Option String := none
  since : Option String := none
  until_ : Option String := none

structure DecisionFilters where
  domain : Option String := none
  decisionId : Option String := none
  policyStatus : Option String := none
  minConfidence : Option (Ranged (some 1)) := none

structure OutcomeFilters where
  decisionId : Option String := none
  success : Option Bool := none

/-- `_filter_events`. -/
def filterEvents (filters : EventFilters) (rows : List EventRecord) : List EventRecord :=
  let out := narrow (given filters.domain) (fun v (r : EventRecord) => r.row.domain = v) rows
  let out := narrow (given filters.category) (fun v (r : EventRecord) => r.row.category = v) out
  let out := narrow (given filters.eventId) (fun v (r : EventRecord) => r.row.eventId = v) out
  let out := narrow (given filters.since)
    (fun v (r : EventRecord) => v ≤ r.row.timestampUtc) out
  narrow (given filters.until_) (fun v (r : EventRecord) => r.row.timestampUtc ≤ v) out

/-- `_filter_decisions`. -/
def filterDecisions (filters : DecisionFilters) (rows : List DecisionRecord) :
    List DecisionRecord :=
  let out := narrow (given filters.domain) (fun v (r : DecisionRecord) => r.row.domain = v) rows
  let out := narrow (given filters.decisionId)
    (fun v (r : DecisionRecord) => r.row.decisionId = v) out
  let out := narrow (given filters.policyStatus)
    (fun v (r : DecisionRecord) => r.row.policyStatus = v) out
  narrow filters.minConfidence
    (fun v (r : DecisionRecord) => floatLe v.val r.row.confidence.val) out

/-- `_filter_outcomes`. -/
def filterOutcomes (filters : OutcomeFilters) (rows : List OutcomeRecord) : List OutcomeRecord :=
  let out := narrow (given filters.decisionId)
    (fun v (r : OutcomeRecord) => r.row.decisionId = v) rows
  narrow filters.success (fun v (r : OutcomeRecord) => r.row.success = v) out

/-- The instant a bound is read as, if there is a bound. -/
def bound (pg : Postgres) (value : Option String) : Option (Option Int) :=
  match given value with
  | none => some none
  | some v => (pg.instant v).map some

/-- The condition of `PostgresDecisionIntelligenceStore.list_events`. -/
def eventsWhere (pg : Postgres) (filters : EventFilters) :
    Option (TableRow EventCreate → Bool) := do
  let since ← bound pg filters.since
  let until_ ← bound pg filters.until_
  return fun r => clause (given filters.domain) (fun v => r.row.domain = v) &&
    clause (given filters.category) (fun v => r.row.category = v) &&
    clause (given filters.eventId) (fun v => r.row.eventId = v) &&
    clause since (fun v => v ≤ r.at_) && clause until_ (fun v => r.at_ ≤ v)

def decisionsWhere (filters : DecisionFilters) : Option (TableRow DecisionCreate → Bool) :=
  some fun r => clause (given filters.domain) (fun v => r.row.domain = v) &&
    clause (given filters.decisionId) (fun v => r.row.decisionId = v) &&
    clause (given filters.policyStatus) (fun v => r.row.policyStatus = v) &&
    clause filters.minConfidence (fun v => floatLe v.val r.row.confidence.val)

def outcomesWhere (filters : OutcomeFilters) : Option (TableRow OutcomeCreate → Bool) :=
  some fun r => clause (given filters.decisionId) (fun v => r.row.decisionId = v) &&
    clause filters.success (fun v => r.row.success = v)

/-! ## The listings -/

namespace JsonlStore

/-- `JsonlDecisionIntelligenceStore.list_events`. -/
def listEvents (file : File) (filters : EventFilters) :
    Nat → Nat → Option (PaginatedResponse EventRecord) :=
  jsonlList eventKind (filterEvents filters) file

def listDecisions (file : File) (filters : DecisionFilters) :
    Nat → Nat → Option (PaginatedResponse DecisionRecord) :=
  jsonlList decisionKind (filterDecisions filters) file

def listOutcomes (file : File) (filters : OutcomeFilters) :
    Nat → Nat → Option (PaginatedResponse OutcomeRecord) :=
  jsonlList outcomeKind (filterOutcomes filters) file

/-- In the order of the file. -/
def listAllOutcomes (file : File) : Option (List OutcomeRecord) := readRecords outcomeKind file

end JsonlStore

namespace PostgresStore

variable (pg : Postgres)

/-- `PostgresDecisionIntelligenceStore.list_events`. -/
def listEvents (table : List (TableRow EventCreate)) (filters : EventFilters) :
    Nat → Nat → Option (PaginatedResponse EventRecord) :=
  sqlList eventKind pg (eventsWhere pg filters) table

def listDecisions (table : List (TableRow DecisionCreate)) (filters : DecisionFilters) :
    Nat → Nat → Option (PaginatedResponse DecisionRecord) :=
  sqlList decisionKind pg (decisionsWhere filters) table

def listOutcomes (table : List (TableRow OutcomeCreate)) (filters : OutcomeFilters) :
    Nat → Nat → Option (PaginatedResponse OutcomeRecord) :=
  sqlList outcomeKind pg (outcomesWhere filters) table

/-- One page. -/
def listAllOutcomes (table : List (TableRow OutcomeCreate)) : Option (List OutcomeRecord) :=
  (listOutcomes pg table {} 1 10000).map PaginatedResponse.items

end PostgresStore

end DecisionIntelligence
