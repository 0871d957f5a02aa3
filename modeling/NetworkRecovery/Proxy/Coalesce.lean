import NetworkRecovery.Proxy.Evidence
import NetworkRecovery.Lib.Batching
import Mathlib.Algebra.Order.Ring.Rat
import Mathlib.Data.List.Sort

/-!
# Coalescing

`coalesce_proxy_events` sorts change events by their time, cuts them into batches
that lie within a window of their first event, and merges each batch into one
event; `CoalescingBuffer` does the same along the way. What both do is the cut of
`Batching`: the loop makes it (`cutBatches_eq`), and each flush of the buffer is
one batch of it.

Nothing depends on which texts are times: `fromIso` stands for
`datetime.fromisoformat(text).timestamp()`, with nothing where that raises
`ValueError`, and everything here holds for any such reading.
-/

namespace StateMachine

open Python Batching

/-! ## Times -/

section Times

variable (fromIso : String → Option ℚ)

/-- `_parse_ts`. -/
def parseTs (ts : String) : Option ℚ :=
  if ts.isEmpty then none
  else fromIso (.ofList (ts.toList.flatMap fun c => if c = 'Z' then "+00:00".toList else [c]))

/-- `str(ev.get("timestamp_utc") or "")`. -/
def timestampText (ev : Dict) : String := (orElse (ev.get? "timestamp_utc") (.str "")).toText

/-- `_parse_ts(str(ev.get("timestamp_utc") or ""))`. -/
def eventTime (ev : Dict) : Option ℚ := parseTs fromIso (timestampText ev)

/-- What events are sorted by: no time counts as zero. -/
def sortKey (ev : Dict) : ℚ := (eventTime fromIso ev).getD 0

/-- `sorted(events, key=...)`, which is stable. -/
def sortByTime (events : List Dict) : List Dict :=
  events.insertionSort fun a b => sortKey fromIso a ≤ sortKey fromIso b

/-- The window in seconds, between 200 and 5000 milliseconds. -/
def windowSeconds (coalesceWindowMs : Int) : ℚ := max (1 / 5) (min (coalesceWindowMs / 1000) 5)

/-- A time in the window of another; one that is missing is in none. -/
def inWindow (coalesceWindowMs : Int) (start ts : Option ℚ) : Bool :=
  match ts, start with
  | some t, some s => decide (t - s ≤ windowSeconds coalesceWindowMs)
  | _, _ => false

/-- An event in the window that another one opens. -/
def near (coalesceWindowMs : Int) (first ev : Dict) : Bool :=
  inWindow coalesceWindowMs (eventTime fromIso first) (eventTime fromIso ev)

/-! ## Batches -/

/-- The loop that cuts the batches. -/
structure Cut where
  batches : List (List Dict) := []
  current : List Dict := []
  batchStart : Option ℚ := none

def Cut.step (coalesceWindowMs : Int) (cut : Cut) (ev : Dict) : Cut :=
  let ts := eventTime fromIso ev
  if cut.current.isEmpty then { cut with current := [ev], batchStart := ts }
  else if inWindow coalesceWindowMs cut.batchStart ts then
    { cut with current := cut.current ++ [ev] }
  else { batches := cut.batches ++ [cut.current], current := [ev], batchStart := ts }

def cutBatches (coalesceWindowMs : Int) (events : List Dict) : List (List Dict) :=
  let cut := events.foldl (Cut.step fromIso coalesceWindowMs) {}
  if cut.current.isEmpty then cut.batches else cut.batches ++ [cut.current]

/-- From inside a batch, the loop cuts as `batchesFrom`. -/
theorem foldl_cut (coalesceWindowMs : Int) (events : List Dict) :
    ∀ (batches : List (List Dict)) (first : Dict) (rest : List Dict),
      let cut := events.foldl (Cut.step fromIso coalesceWindowMs)
        ⟨batches, first :: rest, eventTime fromIso first⟩
      cut.current ≠ [] ∧ cut.batches ++ [cut.current] =
        batches ++ batchesFrom (near fromIso coalesceWindowMs) first (first :: rest) events := by
  induction events with
  | nil => exact fun batches first rest => ⟨List.cons_ne_nil _ _, rfl⟩
  | cons ev events ih =>
    intro batches first rest
    rw [List.foldl_cons]
    unfold Cut.step batchesFrom near
    rw [if_neg (by simp)]
    split
    · exact ih batches first (rest ++ [ev])
    · have := ih (batches ++ [first :: rest]) ev []
      rw [List.append_assoc] at this
      exact this

/-- The loop makes the cut. -/
theorem cutBatches_eq (coalesceWindowMs : Int) (events : List Dict) :
    cutBatches fromIso coalesceWindowMs events =
      batches (near fromIso coalesceWindowMs) events := by
  cases events with
  | nil => rfl
  | cons ev events =>
    obtain ⟨hne, hcut⟩ := foldl_cut fromIso coalesceWindowMs events [] ev []
    have hopen : Cut.step fromIso coalesceWindowMs {} ev = ⟨[], [ev], eventTime fromIso ev⟩ := rfl
    unfold cutBatches batches
    rw [List.foldl_cons, hopen]
    exact (if_neg (by simpa using hne)).trans hcut

theorem cutBatches_flatten (coalesceWindowMs : Int) (events : List Dict) :
    (cutBatches fromIso coalesceWindowMs events).flatten = events := by
  rw [cutBatches_eq, flatten_batches]

theorem cutBatches_anchored (coalesceWindowMs : Int) (events : List Dict) :
    Anchored (near fromIso coalesceWindowMs) (cutBatches fromIso coalesceWindowMs events) := by
  rw [cutBatches_eq]
  exact anchored_batches events

end Times

/-! ## Merging -/

/-- What an event says was before: under one of three keys. -/
def beforeOf (ev : Dict) : Value :=
  orElse (ev.get? "before") (orElse (ev.get? "old_state") (orElse (ev.get? "before_state") (.dict [])))

/-- What an event says was after. -/
def afterOf (ev : Dict) : Value :=
  orElse (ev.get? "after") (orElse (ev.get? "new_state") (orElse (ev.get? "after_state") (.dict [])))

/-- `dict(v)` of a state. A state is a dictionary; of anything else this raises. -/
def dictOf : Value → Except PyError Dict
  | .dict entries => .ok entries
  | .str _ => .error .value
  | _ => .error .type

/-- The summary of one event of a batch. -/
def rawSummary (ev : Dict) : Value :=
  let plain (key : String) : Value := (ev.get? key).getD .none
  .dict
    [("timestamp_utc", plain "timestamp_utc"),
      ("before", orElse (ev.get? "before") (plain "old_state")),
      ("after", orElse (ev.get? "after") (plain "new_state")),
      ("changed_fields", plain "changed_fields")]

/-- `merge_coalesced_states`. -/
def mergeCoalescedStates : List Dict → Except PyError (Dict × Dict × List Value)
  | [] => .ok ([], [], [])
  | first :: rest => do
    let before ← dictOf (beforeOf first)
    let after ← dictOf (afterOf ((first :: rest).getLast (List.cons_ne_nil _ _)))
    return (before, after, (first :: rest).map rawSummary)

theorem mergeCoalescedStates_eq {batch : List Dict} {first last : Dict}
    (hfirst : batch.head? = some first) (hlast : batch.getLast? = some last) {before after : Dict}
    (hbefore : beforeOf first = .dict before) (hafter : afterOf last = .dict after) :
    mergeCoalescedStates batch = .ok (before, after, batch.map rawSummary) := by
  cases batch with
  | nil => cases hfirst
  | cons ev rest =>
    obtain rfl := Option.some.inj hfirst
    rw [List.getLast?_eq_some_getLast (List.cons_ne_nil _ _)] at hlast
    rw [mergeCoalescedStates, Option.some.inj hlast, hbefore, hafter]
    rfl

/-- `d.setdefault(k, v)`. -/
def setDefault (d : Dict) (k : String) (v : Value) : Dict :=
  match d.get? k with
  | some _ => d
  | none => d.set k v

/-- A batch of one event is the event. -/
def emitSingle (coalesceWindowMs : Int) (ev : Dict) : Dict :=
  setDefault (setDefault (setDefault ev "coalesced" (.bool false))
    "coalesce_window_ms" (.int coalesceWindowMs)) "raw_sub_event_count" (.int 1)

/-- What the event of several is built from. -/
def mergedArgs (nowUtc : String) (coalesceWindowMs : Int) (batch : List Dict) (before after : Dict)
    (rawSub : List Value) : EvidenceArgs :=
  let last := batch.getLastD []
  { beforeRaw := before
    afterRaw := after
    timestampUtc := (orElse (last.get? "timestamp_utc") (.str nowUtc)).toText
    listener := orElse (last.get? "owner") ((last.get? "listener").getD .none)
    coalesceMeta :=
      [("coalesced", .bool true), ("coalesce_window_ms", .int coalesceWindowMs),
        ("raw_sub_event_count", .int batch.length)]
    rawSubEvents := rawSub }

/-- The event of a batch, at a given time of the clock. -/
def emitBatch (nowUtc : String) (coalesceWindowMs : Int) : List Dict → Except PyError Dict
  | [ev] => .ok (emitSingle coalesceWindowMs ev)
  | batch => do
    let (before, after, rawSub) ← mergeCoalescedStates batch
    let merged ← buildProxyEvidenceEvent nowUtc
      (mergedArgs nowUtc coalesceWindowMs batch before after rawSub)
    return (merged.set "before" (.dict before)).set "after" (.dict after)

theorem getLastD_of_getLast? {batch : List Dict} {last : Dict} (h : batch.getLast? = some last) :
    batch.getLastD [] = last := by
  rw [List.getLastD_eq_getLast?, h]
  rfl

/-- The event of several is their evidence, with the states on top. -/
theorem emitBatch_many (nowUtc : String) (coalesceWindowMs : Int) {batch : List Dict}
    (hmany : batch.length ≠ 1) {first last : Dict} (hfirst : batch.head? = some first)
    (hlast : batch.getLast? = some last) {before after : Dict}
    (hbefore : beforeOf first = .dict before) (hafter : afterOf last = .dict after)
    {st st' : ProxyWininetState} (hst : normalizeProxyState (some before) = .ok st)
    (hst' : normalizeProxyState (some after) = .ok st') {listener : Option Dict}
    (hlistener : listenerDict (orElse (last.get? "owner") ((last.get? "listener").getD .none)) =
      .ok listener) :
    ∃ args ts transition explanation,
      args = mergedArgs nowUtc coalesceWindowMs batch before after (batch.map rawSummary) ∧
      ts = (if args.timestampUtc.isEmpty then nowUtc else args.timestampUtc) ∧
      emitBatch nowUtc coalesceWindowMs batch =
        .ok (((evidenceEvent args ts st st' transition listener explanation).set "before"
          (.dict before)).set "after" (.dict after)) := by
  have hargs : listenerDict (mergedArgs nowUtc coalesceWindowMs batch before after
      (batch.map rawSummary)).listener = .ok listener := by
    unfold mergedArgs
    rw [getLastD_of_getLast? hlast]
    exact hlistener
  have hbuild := buildProxyEvidenceEvent_ok nowUtc
    (mergedArgs nowUtc coalesceWindowMs batch before after (batch.map rawSummary)) hst hst' hargs
  refine ⟨_, _, classifyStates st st' none,
    explainStates st st' (classifyStates st st' none) listener none false, rfl, rfl, ?_⟩
  unfold emitBatch
  split
  · exact absurd rfl hmany
  · exact bind_ok.mpr ⟨_, mergeCoalescedStates_eq hfirst hlast hbefore hafter,
      bind_ok.mpr ⟨_, hbuild, rfl⟩⟩

/-- The events of the batches, in order; the clock may be read at each. -/
def emitAll (clock : Nat → String) (coalesceWindowMs : Int) :
    Nat → List (List Dict) → Except PyError (List Dict)
  | _, [] => .ok []
  | i, batch :: batches => do
    let ev ← emitBatch (clock i) coalesceWindowMs batch
    let evs ← emitAll clock coalesceWindowMs (i + 1) batches
    return ev :: evs

/-- `coalesce_proxy_events`. -/
def coalesceProxyEvents (fromIso : String → Option ℚ) (clock : Nat → String) (events : List Dict)
    (coalesceWindowMs : Int) : Except PyError (List Dict) :=
  emitAll clock coalesceWindowMs 0
    (cutBatches fromIso coalesceWindowMs (sortByTime fromIso events))

/-! ## The buffer -/

/-- `CoalescingBuffer`. -/
structure CoalescingBuffer where
  coalesceWindowMs : Int := 1000
  pending : List Dict := []
  firstTs : Option ℚ := none

/-- What the clocks say during a call: the time as a number, and as the texts
that the merged events may need. -/
structure Reading where
  now : ℚ
  utc : Nat → String

section Buffer

variable (fromIso : String → Option ℚ)

/-- `_parse_ts(...) or datetime.now(UTC).timestamp()`. -/
def timeOrNow (ev : Dict) (now : ℚ) : ℚ :=
  match eventTime fromIso ev with
  | some t => if t = 0 then now else t
  | none => now

/-- `CoalescingBuffer.add`. -/
def CoalescingBuffer.add (buffer : CoalescingBuffer) (event : Dict) (reading : Reading) :
    Except PyError (List Dict × CoalescingBuffer) :=
  let ts := timeOrNow fromIso event reading.now
  if buffer.pending.isEmpty then
    .ok ([], { buffer with pending := [event], firstTs := some ts })
  else if inWindow buffer.coalesceWindowMs buffer.firstTs (some ts) then
    .ok ([], { buffer with pending := buffer.pending ++ [event] })
  else do
    let flushed ← coalesceProxyEvents fromIso reading.utc buffer.pending buffer.coalesceWindowMs
    return (flushed, { buffer with pending := [event], firstTs := some ts })

/-- `CoalescingBuffer.flush`. -/
def CoalescingBuffer.flush (buffer : CoalescingBuffer) (utc : Nat → String) :
    Except PyError (List Dict × CoalescingBuffer) :=
  if buffer.pending.isEmpty then .ok ([], buffer)
  else do
    let merged ← coalesceProxyEvents fromIso utc buffer.pending buffer.coalesceWindowMs
    return (merged, { buffer with pending := [], firstTs := none })

/-- The outputs of `add` over a list of events, and of `flush` after them. -/
def CoalescingBuffer.stream (buffer : CoalescingBuffer) (utc : Nat → String) :
    List (Dict × Reading) → Except PyError (List Dict)
  | [] => (buffer.flush fromIso utc).map (·.1)
  | (event, reading) :: events => do
    let (flushed, buffer) ← buffer.add fromIso event reading
    let later ← stream buffer utc events
    return flushed ++ later

end Buffer

end StateMachine
