import NetworkRecovery.Proxy.Watch

/-!
# Replay

`proxy_replay.py`: the rows of a log are read back into transitions, coalesced and
classified anew, and a reverter loop over all of them is marked on the last.

The control tests that are run over the events are left out: they return their
verdicts next to the events and change none.
-/

namespace StateMachine

open Python ProxyGuard Batching

def hasKey (d : Dict) (key : String) : Bool := (d.get? key).isSome

/-- The transition of a `proxy_change` row. -/
def changeTransition (row : Dict) : Dict :=
  let plain (key : String) : Value := (row.get? key).getD .none
  [("timestamp_utc", plain "timestamp_utc"),
    ("before", orElse (row.get? "old_state") (plain "before")),
    ("after", orElse (row.get? "new_state") (plain "after")),
    ("owner", plain "owner"),
    ("listener", plain "owner")]

/-- `_extract_transition_rows`. -/
def extractTransitionRows (rows : List Dict) : List Dict :=
  rows.filterMap fun row =>
    if row.get? "event" matches some (.str "proxy_change") then some (changeTransition row)
    else if hasKey row "before_state" && hasKey row "after_state" then some row
    else if hasKey row "before" && hasKey row "after" then some row
    else if hasKey row "ProxyEnable" || hasKey row "wininet_proxy_enabled" then some row
    else none

/-- A sub-event with its states: it is asked for both, and its own entries go on
top. -/
def subEvent : Value → Except PyError Dict
  | .dict sub => .ok (updateDict
      [("before", (Dict.get? sub "before").getD .none), ("after", (Dict.get? sub "after").getD .none)]
      sub)
  | _ => .error .attribute

/-- The states of an event that is classified anew, and its sub-events. -/
def itemStates (item : Dict) : Except PyError (Value × Value × List Value) :=
  if truthyKey item "coalesced" then do
    let (before, after, rawSub) ← mergeCoalescedStates [item]
    if truthyKey item "raw_sub_events" then
      let subs ← (rawSubEvents item).mapM subEvent
      let (before, after, rawSub) ← mergeCoalescedStates subs
      return (.dict before, .dict after, rawSub)
    return (.dict before, .dict after, rawSub)
  else
    .ok (orElse (item.get? "before") (orElse (item.get? "before_state") (.dict [])),
      orElse (item.get? "after") (orElse (item.get? "after_state") (.dict [])), [])

/-- What the evidence of an event is built from. -/
def itemArgs (item : Dict) (coalesceMs : Int) (before after : Dict) (rawSub : List Value) :
    EvidenceArgs where
  beforeRaw := before
  afterRaw := after
  timestampUtc := timestampText item
  listener := orElse (item.get? "owner") ((item.get? "listener").getD .none)
  coalesceMeta :=
    [("coalesced", .bool (truthyKey item "coalesced")),
      ("coalesce_window_ms", (item.get? "coalesce_window_ms").getD (.int coalesceMs)),
      ("raw_sub_event_count", (item.get? "raw_sub_event_count").getD (.int 1))]
  rawSubEvents := if truthyKey item "raw_sub_events" then rawSubEvents item else rawSub

/-- The evidence of a coalesced event: what is evidence already stays. -/
def classifyItem (nowUtc : String) (coalesceMs : Int) (item : Dict) : Except PyError Dict :=
  if hasKey item "transition_class" && hasKey item "before_state" then .ok item
  else do
    let (before, after, rawSub) ← itemStates item
    let before ← stateDict before
    let after ← stateDict after
    buildProxyEvidenceEvent nowUtc (itemArgs item coalesceMs before after rawSub)

/-- The evidence of the coalesced events, in order; the clock may be read at each. -/
def classifyAll (clock : Nat → String) (coalesceMs : Int) :
    Nat → List Dict → Except PyError (List Dict)
  | _, [] => .ok []
  | i, item :: items => do
    let evidence ← classifyItem (clock i) coalesceMs item
    let rest ← classifyAll clock coalesceMs (i + 1) items
    return evidence :: rest

/-- The last event of a suspected reverter. -/
def markReplayed (last : Dict) : Dict :=
  ((((last.set "transition_class"
    (.str TransitionClass.reverterSuspectedLocalhostProxyLoop.value)).set "recommended_action"
    (.str ("require human review — pattern suggests a proxy reverter or " ++
      "auto-reapply loop; this is correlation, not proof of registry write"))).set "limitations"
    (textList ["Pattern suggests a proxy reverter or auto-reapply loop",
      "This is correlation, not proof of registry write",
      "Collect Sysmon Event ID 13 or Procmon trace for registry writer proof"])).set
    "risk" (.str "HIGH")).set "policy_decision" (.str "REQUIRE_HUMAN_REVIEW")

/-- The events, the last of them marked. -/
def markLast : List Dict → List Dict
  | [] => []
  | [last] => [markReplayed last]
  | ev :: next :: rest => ev :: markLast (next :: rest)

/-- What `replay_proxy_events` returns: the summary and the events. -/
structure Replayed where
  inputEventCount : Nat
  transitionCount : Nat
  coalescedEventCount : Nat
  coalesceWindowMs : Int
  reverterLoopDetected : Bool
  events : List Dict

/-- The clock during a replay, as it is read for coalescing and for classifying. -/
structure ReplayClock where
  coalescing : Nat → String
  classifying : Nat → String

/-- `replay_proxy_events`. -/
def replayProxyEvents (fromIso : String → Option ℚ) (clock : ReplayClock) (rows : List Dict)
    (coalesceMs : Int) : Except PyError Replayed := do
  let extracted := extractTransitionRows rows
  let transitions := if extracted.isEmpty && !rows.isEmpty then rows else extracted
  let coalesced ← coalesceProxyEvents fromIso clock.coalescing transitions coalesceMs
  let classified ← classifyAll clock.classifying coalesceMs 0 coalesced
  let loop ← detectReverterLoop fromIso (classified.map loopInput)
  return {
    inputEventCount := rows.length
    transitionCount := transitions.length
    coalescedEventCount := classified.length
    coalesceWindowMs := coalesceMs
    reverterLoopDetected := loop
    events := if loop then markLast classified else classified }

end StateMachine
