import Mathlib.Data.Finset.Union
import NetworkRecovery.Lib.BoundedQueue
import NetworkRecovery.Toolkit.JsonlLogs

/-!
# The evidence buffer of the dashboard

`EvidenceEventStore`: a bounded queue of events, the ids that were cleared from the view, and a
log of one row an event. A clear names the events that are in the queue; those that were pushed
out before can not come back, so that the view is what was appended since (`visible_buffer`).

A write that the system refuses raises where the store has a path of its own, and goes unnoticed
where it writes to the audit directory; the queue has the event either way.
-/

namespace Dashboard

open Python Audit
open Platform (JsonlFile iterJsonl)
open Toolkit (Payload AuditCall)

/-! ## Events -/

/-- `EvidenceEvent`. -/
structure EvidenceEvent where
  eventId : String
  timestamp : String
  source : String
  eventType : String
  severity : String
  summary : String
  data : Payload
  incidentId : Option String := none
  classification : Option String := none
  proofTier : Option String := none
  confidence : Option FloatVal := none
  limitations : List String := []

/-- `to_dict`. -/
def EvidenceEvent.toDict (e : EvidenceEvent) : Dict :=
  [("event_id", .str e.eventId), ("timestamp", .str e.timestamp), ("source", .str e.source),
    ("event_type", .str e.eventType), ("severity", .str e.severity), ("summary", .str e.summary),
    ("data", .dict e.data.1), ("incident_id", optionalText e.incidentId),
    ("classification", optionalText e.classification), ("proof_tier", optionalText e.proofTier),
    ("confidence", e.confidence.elim .none .float), ("limitations", textList e.limitations)]

theorem EvidenceEvent.toDict_wf (e : EvidenceEvent) : (Value.dict e.toDict).WF := by
  have hconfidence : (e.confidence.elim Value.none Value.float).WF := by
    cases e.confidence with
    | none => trivial
    | some x => trivial
  refine ⟨by simp [Dict.keys, toDict], ?_⟩
  exact ⟨trivial, trivial, trivial, trivial, trivial, trivial, e.data.2, optionalText_wf _,
    optionalText_wf _, optionalText_wf _, hconfidence, textList_wf _, trivial⟩

/-! ## The store -/

/-- Where rows go: a path of the store's own, or a log of the audit directory. -/
inductive Sink where
  | storagePath
  | auditLog
  deriving DecidableEq

/-- The row of an event. The audit log adds the time `_now()` gives. -/
def Sink.row (sink : Sink) (now : String) (e : EvidenceEvent) : Dict :=
  match sink with
  | .storagePath => e.toDict
  | .auditLog => AuditCall.row ⟨now, e.toDict, e.toDict_wf⟩

theorem Sink.row_wf (sink : Sink) (now : String) (e : EvidenceEvent) :
    (Value.dict (sink.row now e)).WF := by
  cases sink with
  | storagePath => exact e.toDict_wf
  | auditLog => exact AuditCall.row_wf _

/-- `EvidenceEventStore`, with the file it persists to. -/
structure EvidenceEventStore where
  maxVisible : Nat
  sink : Sink
  persist : Bool
  events : BoundedQueue EvidenceEvent maxVisible
  uiClearedIds : Finset String
  log : JsonlFile

namespace EvidenceEventStore

/-- `__init__`, with no file yet. -/
def init (maxVisible : Int := 200) (sink : Sink := .auditLog) (persist : Bool := true) :
    EvidenceEventStore where
  maxVisible := (max 10 maxVisible).toNat
  sink := sink
  persist := persist
  events := .empty
  uiClearedIds := ∅
  log := .absent

variable (sep : Linesep)

/-- `append`: what it returns, and the store. `written` is what the system does with the write. -/
def append (store : EvidenceEventStore) (event : EvidenceEvent) (now : String) (written : Bool) :
    Except PyError EvidenceEvent × EvidenceEventStore :=
  let store := { store with events := store.events.push event }
  if !store.persist then (.ok event, store)
  else if written then
    (.ok event, { store with
      log := store.log.append sep (store.sink.row now event) (store.sink.row_wf now event) })
  else if store.sink = .storagePath then (.error .os, store)
  else (.ok event, store)

/-- `recent`. -/
def recent (store : EvidenceEventStore) (includeCleared : Bool := false)
    (limit : Option Int := none) : List EvidenceEvent :=
  let items := store.events.items
  let items :=
    if includeCleared then items else items.filter fun e => e.eventId ∉ store.uiClearedIds
  limit.elim items fun limit => items.rtake (max 1 limit).toNat

/-- `clear_ui_view`. -/
def clearUiView (store : EvidenceEventStore) : EvidenceEventStore :=
  { store with
    uiClearedIds := store.uiClearedIds ∪ (store.events.items.map (·.eventId)).toFinset }

end EvidenceEventStore

/-! ## Runs -/

/-- An operation on the store, with what the system does. -/
inductive Operation where
  | append (event : EvidenceEvent) (now : String) (written : Bool)
  | clearUiView

/-- The system takes what the operation writes. -/
def Operation.Written : Operation → Prop
  | .append _ _ written => written = true
  | .clearUiView => True

def Operation.event? : Operation → Option EvidenceEvent
  | .append event _ _ => some event
  | .clearUiView => none

/-- One operation; an error of `append` leaves the store to the next one. -/
def step (sep : Linesep) (store : EvidenceEventStore) : Operation → EvidenceEventStore
  | .append event now written => (store.append sep event now written).2
  | .clearUiView => store.clearUiView

def run (sep : Linesep) (store : EvidenceEventStore) (ops : List Operation) : EvidenceEventStore :=
  ops.foldl (step sep) store

/-- The events that were appended. -/
def appended (ops : List Operation) : List EvidenceEvent := ops.filterMap Operation.event?

/-- The events that were appended behind the last clear. -/
def sinceClear (ops : List Operation) : List EvidenceEvent :=
  appended (ops.rtakeWhile fun op => op.event?.isSome)

/-- The events that were appended before the last clear. -/
def beforeClear (ops : List Operation) : List EvidenceEvent :=
  appended (ops.rdropWhile fun op => op.event?.isSome)

theorem beforeClear_append_sinceClear (ops : List Operation) :
    beforeClear ops ++ sinceClear ops = appended ops := by
  unfold beforeClear sinceClear appended
  rw [← List.filterMap_append, List.rdropWhile_append_rtakeWhile]

theorem beforeClear_append (ops : List Operation) (event : EvidenceEvent) (now : String)
    (written : Bool) :
    beforeClear (ops ++ [Operation.append event now written]) = beforeClear ops := by
  unfold beforeClear
  rw [List.rdropWhile_concat_pos _ _ _ rfl]

theorem beforeClear_clearUiView (ops : List Operation) :
    beforeClear (ops ++ [Operation.clearUiView]) = appended ops := by
  unfold beforeClear appended
  rw [List.rdropWhile_concat_neg _ _ _ Bool.false_ne_true, List.filterMap_append]
  exact List.append_nil _

theorem appended_concat (ops : List Operation) (op : Operation) :
    appended (ops ++ [op]) = appended ops ++ op.event?.toList := by
  unfold appended
  rw [List.filterMap_append]
  cases h : op.event? with
  | none => simp [h]
  | some e => simp [h]

/-! ## Rows -/

/-- A row without the time that the audit log adds. -/
def withoutTime (row : Dict) : Dict := row.filter fun e => e.1 ≠ "timestamp_utc"

/-- The row of an event holds the event. -/
theorem withoutTime_row (sink : Sink) (now : String) (e : EvidenceEvent) :
    withoutTime (sink.row now e) = e.toDict := by
  have hkeys : (Dict.keys ([("timestamp_utc", .str now)] ++ e.toDict)).Nodup := by
    simp [Dict.keys, EvidenceEvent.toDict]
  have hevent : withoutTime e.toDict = e.toDict := by
    refine List.filter_eq_self.mpr fun entry hentry => decide_eq_true ?_
    intro htime
    exact (List.nodup_cons.mp hkeys).1 (List.mem_map.mpr ⟨entry, hentry, htime⟩)
  cases sink with
  | storagePath => exact hevent
  | auditLog =>
    rw [Sink.row, AuditCall.row, Toolkit.foldl_set_fresh hkeys]
    exact hevent

/-! ## The invariant -/

/-- What a store holds after some operations. -/
structure Holds (ops : List Operation) (store : EvidenceEventStore) : Prop where
  queue : store.events.items = (appended ops).rtake store.maxVisible
  cleared : ∀ id ∈ store.uiClearedIds, ∃ e ∈ beforeClear ops, e.eventId = id
  hidden : ∀ e ∈ (beforeClear ops).rtake store.maxVisible, e.eventId ∈ store.uiClearedIds
  rows : store.persist = true → (∀ op ∈ ops, op.Written) →
    store.log.rows.map withoutTime = (appended ops).map EvidenceEvent.toDict

theorem Holds.init (maxVisible : Int) (sink : Sink) (persist : Bool) :
    Holds [] (.init maxVisible sink persist) where
  queue := (List.rtake_nil _).symm
  cleared _ hid := absurd hid (Finset.notMem_empty _)
  hidden _ he := absurd (List.mem_of_mem_drop he) List.not_mem_nil
  rows _ _ := rfl

/-- What `append` leaves: the event in the queue, and its row in the log if it was written. -/
theorem append_cases (sep : Linesep) (store : EvidenceEventStore) (event : EvidenceEvent)
    (now : String) (written : Bool) :
    ∃ log, (store.append sep event now written).2 =
        { store with events := store.events.push event, log := log } ∧
      (store.persist = true → written = true →
        log.rows = store.log.rows ++ [store.sink.row now event]) := by
  unfold EvidenceEventStore.append
  cases hpersist : store.persist with
  | false => exact ⟨store.log, rfl, fun h => absurd h Bool.false_ne_true⟩
  | true =>
    cases written with
    | true => exact ⟨_, rfl, fun _ _ => rfl⟩
    | false =>
      refine ⟨store.log, ?_, fun _ h => absurd h Bool.false_ne_true⟩
      by_cases hsink : store.sink = .storagePath
      · simp [hsink]
      · simp [hsink]

/-- An event more. -/
theorem Holds.append {ops : List Operation} {store : EvidenceEventStore} (h : Holds ops store)
    (sep : Linesep) (event : EvidenceEvent) (now : String) (written : Bool) :
    Holds (ops ++ [Operation.append event now written]) (store.append sep event now written).2 := by
  obtain ⟨log, hstore, hrows⟩ := append_cases sep store event now written
  rw [hstore]
  have happended :
      appended (ops ++ [Operation.append event now written]) = appended ops ++ [event] :=
    appended_concat ops _
  refine ⟨?_, ?_, ?_, ?_⟩
  · rw [happended]
    exact BoundedQueue.items_push h.queue event
  · rw [beforeClear_append]
    exact h.cleared
  · rw [beforeClear_append]
    exact h.hidden
  · intro hpersist hwritten
    have hlast : written = true := hwritten _ (List.mem_append_right ops List.mem_cons_self)
    have hearlier := h.rows hpersist fun op hop => hwritten op (List.mem_append_left _ hop)
    change log.rows.map withoutTime = _
    rw [hrows hpersist hlast, happended, List.map_append, List.map_append, hearlier]
    simp only [List.map_cons, List.map_nil, withoutTime_row]

/-- A clear names what is in the queue. -/
theorem Holds.clearUiView {ops : List Operation} {store : EvidenceEventStore}
    (h : Holds ops store) : Holds (ops ++ [Operation.clearUiView]) store.clearUiView := by
  have happended : appended (ops ++ [Operation.clearUiView]) = appended ops := by
    rw [appended_concat]
    exact List.append_nil _
  refine ⟨?_, ?_, ?_, ?_⟩
  · rw [happended]
    exact h.queue
  · rw [beforeClear_clearUiView]
    intro id hid
    obtain hid | hid := Finset.mem_union.mp hid
    · obtain ⟨e, he, hid⟩ := h.cleared id hid
      refine ⟨e, ?_, hid⟩
      rw [← beforeClear_append_sinceClear]
      exact List.mem_append_left _ he
    · obtain ⟨e, he, hid⟩ := List.mem_map.mp (List.mem_toFinset.mp hid)
      rw [h.queue] at he
      exact ⟨e, List.mem_of_mem_drop he, hid⟩
  · rw [beforeClear_clearUiView]
    intro e he
    apply Finset.mem_union_right
    apply List.mem_toFinset.mpr
    rw [h.queue]
    exact List.mem_map_of_mem he
  · intro hpersist hwritten
    rw [happended]
    exact h.rows hpersist fun op hop => hwritten op (List.mem_append_left _ hop)

theorem Holds.run (sep : Linesep) (maxVisible : Int) (sink : Sink) (persist : Bool)
    (ops : List Operation) : Holds ops (run sep (.init maxVisible sink persist) ops) := by
  induction ops using List.reverseRecOn with
  | nil => exact .init maxVisible sink persist
  | append_singleton ops op ih =>
    unfold Dashboard.run
    rw [List.foldl_append]
    cases op with
    | append event now written => exact ih.append sep event now written
    | clearUiView => exact ih.clearUiView

/-- What `__init__` sets, the operations leave. -/
theorem run_fixed (sep : Linesep) (store : EvidenceEventStore) (ops : List Operation) :
    (run sep store ops).maxVisible = store.maxVisible ∧
      (run sep store ops).persist = store.persist := by
  induction ops generalizing store with
  | nil => exact ⟨rfl, rfl⟩
  | cons op ops ih =>
    obtain ⟨hvisible, hpersist⟩ := ih (step sep store op)
    have hstep : (step sep store op).maxVisible = store.maxVisible ∧
        (step sep store op).persist = store.persist := by
      cases op with
      | clearUiView => exact ⟨rfl, rfl⟩
      | append event now written =>
        obtain ⟨log, hstore, -⟩ := append_cases sep store event now written
        rw [step, hstore]
        exact ⟨rfl, rfl⟩
    exact ⟨hvisible.trans hstep.1, hpersist.trans hstep.2⟩

/-- With distinct ids the view is what came behind the last clear. -/
theorem Holds.recent {ops : List Operation} {store : EvidenceEventStore} (h : Holds ops store)
    (hids : ((appended ops).map EvidenceEvent.eventId).Nodup) :
    store.recent = (sinceClear ops).rtake store.maxVisible := by
  change store.events.items.filter (fun e => e.eventId ∉ store.uiClearedIds) = _
  rw [h.queue, ← beforeClear_append_sinceClear]
  apply BoundedQueue.filter_rtake_append
  · intro e he
    simpa using h.hidden e he
  · intro e he
    have hnew : e.eventId ∉ store.uiClearedIds := by
      intro hid
      obtain ⟨old, hold, heq⟩ := h.cleared _ hid
      rw [← beforeClear_append_sinceClear, List.map_append] at hids
      exact List.disjoint_of_nodup_append hids (List.mem_map_of_mem hold)
        (heq ▸ List.mem_map_of_mem he)
    simpa using hnew

/-- The queue shows the last events, the view those of them that came behind the last clear,
and the log has every event once. -/
theorem visible_buffer (sep : Linesep) (maxVisible : Int) (sink : Sink) {ops : List Operation}
    (hids : ((appended ops).map EvidenceEvent.eventId).Nodup) :
    let store := run sep (.init maxVisible sink) ops
    store.recent true = (appended ops).rtake (max 10 maxVisible).toNat ∧
      store.recent = (sinceClear ops).rtake (max 10 maxVisible).toNat ∧
      ((∀ op ∈ ops, op.Written) → ∃ rows, iterJsonl store.log.file = .ok rows ∧
        rows.map withoutTime = (appended ops).map EvidenceEvent.toDict) := by
  intro store
  have hholds : Holds ops store := .run sep maxVisible sink true ops
  obtain ⟨hvisible, hpersist⟩ := run_fixed sep (.init maxVisible sink) ops
  have hcapacity : store.maxVisible = (max 10 maxVisible).toNat := hvisible
  rw [← hcapacity]
  exact ⟨hholds.queue, hholds.recent hids, fun hwritten =>
    ⟨store.log.rows, store.log.reads, hholds.rows hpersist hwritten⟩⟩

/-- An event with nothing but an id. -/
def plainEvent (eventId : String) : EvidenceEvent :=
  ⟨eventId, "2026-01-01T00:00:00+00:00", "proxy_watcher", "proxy_state_change", "info", "",
    ⟨[], emptyDict_wf⟩, none, none, none, none, []⟩

theorem visible_buffer_cleared :
    let ops := [.append (plainEvent "ev-1") "2026-01-01T00:00:00Z" true, .clearUiView,
      .append (plainEvent "ev-2") "2026-01-01T00:00:01Z" true]
    let store := run .lf (.init 10) ops
    store.recent true = [plainEvent "ev-1", plainEvent "ev-2"] ∧
      store.recent = [plainEvent "ev-2"] ∧
      ∃ rows, iterJsonl store.log.file = .ok rows ∧
        rows.map withoutTime = [(plainEvent "ev-1").toDict, (plainEvent "ev-2").toDict] := by
  intro ops store
  obtain ⟨hall, hview, hrows⟩ := @visible_buffer .lf 10 .auditLog ops (by decide)
  refine ⟨hall.trans (by rfl), hview.trans (by rfl), hrows fun op hop => ?_⟩
  simp only [ops, List.mem_cons, List.not_mem_nil, or_false] at hop
  obtain rfl | rfl | rfl := hop
  · exact rfl
  · trivial
  · exact rfl

end Dashboard
