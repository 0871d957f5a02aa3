import NetworkRecovery.Proxy.CoalesceLaws

/-!
# The proxy watch

`watch.py`: the proxy state is polled over and over. When the key of a state is
not that of the state before, the change goes through the coalescing buffer, and
what the buffer puts out is written to the log as a `proxy_change` row, with the
evidence for it.

The fields of a row that come from probing the machine (`health`,
`health_audit`, `classification`) or from `analyze_proxy_watch_history`
(`reverter_diagnosis`) are left out: nothing here reads them.
-/

namespace StateMachine

open Python ProxyGuard Batching

/-! ## States -/

/-- `ProxyState`, what a poll finds. -/
structure ProxyState where
  timestampUtc : String
  wininetProxyEnabled : Bool
  wininetProxyServer : String
  wininetProxyOverride : String
  wininetAutoConfigUrl : String
  winhttpDirectAccess : Bool
  winhttpRawExcerpt : String
  localhostPort : Option Int
  source : String := "wininet_registry+netsh_winhttp"
  errors : List String := []
  deriving DecidableEq

/-- `ProxyState.to_dict`. -/
def ProxyState.toDict (s : ProxyState) : Dict :=
  [("timestamp_utc", .str s.timestampUtc),
    ("wininet_proxy_enabled", .bool s.wininetProxyEnabled),
    ("wininet_proxy_server", .str s.wininetProxyServer),
    ("wininet_proxy_override", .str s.wininetProxyOverride),
    ("wininet_auto_config_url", .str s.wininetAutoConfigUrl),
    ("winhttp_direct_access", .bool s.winhttpDirectAccess),
    ("winhttp_raw_excerpt", .str s.winhttpRawExcerpt),
    ("localhost_port", optionalInt s.localhostPort),
    ("source", .str s.source),
    ("errors", textList s.errors)]

/-- `_state_key`. -/
def stateKey (state : Dict) : String :=
  let text (key : String) := ((state.get? key).getD .none).toText
  text "wininet_proxy_enabled" ++ ":" ++ text "wininet_proxy_server" ++ ":" ++
    text "wininet_auto_config_url"

/-- `_is_localhost_transition`. -/
def isLocalhostTransition (state : Dict) : Bool :=
  let server := match state.get? "wininet_proxy_server" with
    | some (.str s) => some s
    | _ => none
  let parsed := parseProxyServer server
  truthyKey state "wininet_proxy_enabled" && parsed.isLocalhostProxy &&
    parsed.localhostPort.any (· != 0)

/-! ## Reverter loops -/

/-- What the detector of loops looks at: the time and the two states. -/
structure LoopInput where
  ts : String
  before : Value
  after : Value

def loopInput (item : Dict) : LoopInput where
  ts := timestampText item
  before := orElse (item.get? "before_state")
    (orElse (item.get? "before") (orElse (item.get? "old_state") (.dict [])))
  after := orElse (item.get? "after_state")
    (orElse (item.get? "after") (orElse (item.get? "new_state") (.dict [])))

/-- An entry of the timeline: the time, the switch and the port. -/
structure LoopPoint where
  ts : ℚ
  enabled : Bool
  port : Option Int

/-- `normalize_proxy_state` of any value: only a dictionary has a `get`. -/
def normalizeValue (v : Value) : Except PyError ProxyWininetState :=
  match v with
  | .dict entries => normalizeProxyState (some entries)
  | .none => normalizeProxyState none
  | _ => .error .attribute

/-- One more transition on the timeline: its later state, and its earlier one too
if it is the first with a time. -/
def loopStep (fromIso : String → Option ℚ) (timeline : List LoopPoint) (item : LoopInput) :
    Except PyError (List LoopPoint) :=
  match parseTs fromIso item.ts with
  | none => .ok timeline
  | some ts => do
    let before ← if timeline.isEmpty then
        (normalizeValue item.before).map fun st => [⟨ts, st.proxyEnable, st.parsedPort⟩]
      else .ok []
    let after ← normalizeValue item.after
    return timeline ++ before ++ [⟨ts, after.proxyEnable, after.parsedPort⟩]

def loopTimeline (fromIso : String → Option ℚ) (items : List LoopInput) :
    Except PyError (List LoopPoint) :=
  items.foldlM (loopStep fromIso) []

/-- Off, on at the port, off again. -/
def fullCycles (port : Int) : List LoopPoint → Nat
  | a :: b :: c :: rest =>
    (if !a.enabled && b.enabled && b.port == some port && !c.enabled then 1 else 0) +
      fullCycles port (b :: c :: rest)
  | _ => 0

/-- Off, then on at the port. -/
def enableFromDisabled (port : Int) : List LoopPoint → Nat
  | a :: b :: rest =>
    (if !a.enabled && b.enabled && b.port == some port then 1 else 0) +
      enableFromDisabled port (b :: rest)
  | _ => 0

/-- Whether a timeline shows a loop. -/
def showsLoop (timeline : List LoopPoint) (windowSeconds : ℚ) (minCycles : Nat) : Bool :=
  let sorted := timeline.insertionSort fun a b => a.ts ≤ b.ts
  let newest := (sorted.getLast?.map (·.ts)).getD 0
  let windowed := sorted.filter fun e => newest - e.ts ≤ windowSeconds
  if timeline.length < minCycles + 1 || windowed.length < minCycles + 1 then false
  else match (windowed.filterMap (·.port)).eraseDups with
    | [port] => minCycles ≤ fullCycles port windowed || minCycles ≤ enableFromDisabled port windowed
    | _ => false

/-- `detect_reverter_loop_pattern(...) is not None`, with the default window and
number of cycles. -/
def detectReverterLoop (fromIso : String → Option ℚ) (items : List LoopInput) :
    Except PyError Bool :=
  if items.length < 3 then .ok false
  else (loopTimeline fromIso items).map fun timeline => showsLoop timeline 300 3

/-! ## Rows -/

/-- What a poll finds, and what the machine says meanwhile: the clocks, and who
listens on the port of a state. -/
structure Poll where
  state : ProxyState
  now : String
  reading : Reading
  elapsedSeconds : Decimal
  detectProxyOwner : Dict → Dict

/-- The change that goes into the buffer. -/
def rawChange (prior state : ProxyState) (p : Poll) : Dict :=
  [("timestamp_utc", .str p.now),
    ("event", .str "proxy_change"),
    ("old_state", .dict prior.toDict),
    ("new_state", .dict state.toDict),
    ("before", .dict prior.toDict),
    ("after", .dict state.toDict),
    ("elapsed_seconds", .float (.finite p.elapsedSeconds))]

/-- The limitations of a suspected reverter. -/
def reverterLimitations : List String :=
  ["Pattern suggests a proxy reverter or auto-reapply loop",
    "This is correlation, not proof of registry write",
    "Collect Sysmon Event ID 13 or Procmon trace for registry writer proof",
    "Investigate listener process executable path and command line"]

/-- The evidence of a suspected reverter. -/
def markReverter (limitations : List String) (evidence : Dict) : Dict :=
  ((((evidence.set "transition_class"
    (.str TransitionClass.reverterSuspectedLocalhostProxyLoop.value)).set "risk" (.str "HIGH")).set
    "recommended_action" (.str ("require human review — pattern suggests a proxy reverter or " ++
      "auto-reapply loop; this is correlation, not proof of registry write"))).set
    "limitations" (textList limitations)).set "policy_decision" (.str "REQUIRE_HUMAN_REVIEW")

/-- The watch: the last state, the buffer, the evidence so far and the rows of the
log. -/
structure Watch where
  prior : Option ProxyState := none
  buffer : CoalescingBuffer
  transitionEvidenceLog : List Dict := []
  log : List Dict := []

/-- A state that is asked for its fields. -/
def stateDict (v : Value) : Except PyError Dict :=
  match v with
  | .dict entries => .ok entries
  | _ => .error .attribute

/-- The sub-events of a merged event. -/
def rawSubEvents (ev : Dict) : List Value :=
  match ev.get? "raw_sub_events" with
  | some (.list subs) => subs
  | _ => []

/-- What the evidence of a row is built from. -/
def rowArgs (merged : Dict) (coalesceMs : Int) (now : String) (owner : Value) (before after : Dict) :
    EvidenceArgs where
  beforeRaw := before
  afterRaw := after
  timestampUtc := (orElse (merged.get? "timestamp_utc") (.str now)).toText
  listener := owner
  winhttpMismatch :=
    some (truthyKey after "wininet_proxy_enabled" && truthyKey after "winhttp_direct_access")
  coalesceMeta :=
    [("coalesced", (merged.get? "coalesced").getD (.bool false)),
      ("coalesce_window_ms", (merged.get? "coalesce_window_ms").getD (.int coalesceMs)),
      ("raw_sub_event_count", (merged.get? "raw_sub_event_count").getD (.int 1))]
  rawSubEvents := rawSubEvents merged

/-- The entry of the owner, which is there for a localhost proxy only. -/
def ownerEntry : Value → Dict
  | .none => []
  | owner => [("owner", owner)]

/-- The `proxy_change` row of a merged event. -/
def changeRow (merged : Dict) (coalesceMs : Int) (now : String) (owner : Value)
    (before after evidence : Dict) (loop : Bool) : Dict :=
  [("timestamp_utc", orElse (merged.get? "timestamp_utc") (.str now)),
    ("event", .str "proxy_change"),
    ("old_state", .dict before),
    ("new_state", .dict after),
    ("coalesced", (merged.get? "coalesced").getD (.bool false)),
    ("coalesce_window_ms", (merged.get? "coalesce_window_ms").getD (.int coalesceMs)),
    ("raw_sub_event_count", (merged.get? "raw_sub_event_count").getD (.int 1))] ++
  (if (rawSubEvents merged).isEmpty then [] else
    [("raw_sub_events", Value.list (rawSubEvents merged))]) ++
  ownerEntry owner ++
  (if loop then
    [("reverter_suspected", Value.bool true),
      ("classification_hint", .str TransitionClass.reverterSuspectedLocalhostProxyLoop.value)]
    else []) ++
  [("transition_evidence", Value.dict evidence), ("audit_evidence", .dict evidence)]

section Run

variable (fromIso : String → Option ℚ)

/-- `_finalize_coalesced`: the row of a merged event. -/
def finalizeCoalesced (now : String) (detectProxyOwner : Dict → Dict) (w : Watch) (merged : Dict) :
    Except PyError Watch := do
  let before ← stateDict
    (orElse (merged.get? "before") (orElse (merged.get? "before_state") (.dict [])))
  let after ← stateDict
    (orElse (merged.get? "after") (orElse (merged.get? "after_state") (.dict [])))
  let owner := if isLocalhostTransition after then .dict (detectProxyOwner after) else .none
  let evidence ← buildProxyEvidenceEvent now
    (rowArgs merged w.buffer.coalesceWindowMs now owner before after)
  let loop ← detectReverterLoop fromIso ((w.transitionEvidenceLog ++ [evidence]).map loopInput)
  let evidence := if loop then markReverter reverterLimitations evidence else evidence
  return { w with
    transitionEvidenceLog := w.transitionEvidenceLog ++ [evidence]
    log := w.log ++
      [changeRow merged w.buffer.coalesceWindowMs now owner before after evidence loop] }

/-- `_poll`. -/
def Watch.poll (w : Watch) (p : Poll) : Except PyError Watch :=
  match w.prior with
  | none => .ok { w with
      prior := some p.state
      log := w.log ++ [[("timestamp_utc", .str p.now), ("event", .str "initial_poll"),
        ("state", .dict p.state.toDict)]] }
  | some prior =>
    if stateKey prior.toDict ≠ stateKey p.state.toDict then do
      let (flushed, buffer) ← w.buffer.add fromIso (rawChange prior p.state p) p.reading
      let w ← flushed.foldlM (finalizeCoalesced fromIso p.now p.detectProxyOwner)
        { w with buffer := buffer }
      return { w with prior := some p.state }
    else .ok { w with prior := some p.state }

/-- What the machine says when the watch ends. -/
structure Ending where
  now : String
  utc : Nat → String
  detectProxyOwner : Dict → Dict

/-- `run_proxy_watch`, over the states its polls find. -/
def runProxyWatch (coalesceMs : Int) (polls : List Poll) (ending : Ending) :
    Except PyError Watch := do
  let w ← polls.foldlM (Watch.poll fromIso)
    { buffer := { coalesceWindowMs := max 200 (min coalesceMs 5000) } }
  let (flushed, buffer) ← w.buffer.flush fromIso ending.utc
  flushed.foldlM (finalizeCoalesced fromIso ending.now ending.detectProxyOwner)
    { w with buffer := buffer }

end Run

/-- The `proxy_change` rows of a log. -/
def changeRows (log : List Dict) : List Dict :=
  log.filter fun row => match row.get? "event" with
    | some (.str s) => s = "proxy_change"
    | _ => false

end StateMachine
