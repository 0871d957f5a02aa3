import NetworkRecovery.Proxy.Watch
import NetworkRecovery.Python.Float

/-!
# The diagnosis of a watch

`analyze_proxy_watch_history`: what the changes of a watch say of a reverter. It runs through the
changes once, for the switch and the port after each and for the process that listens
(`Seen.event`), and concludes from what it has seen (`conclude`).

It looks for the states of a change under `before` and `after`, and takes a change without them for
one that left the proxy off.
-/

namespace StateMachine

open Python

/-- `ReverterDiagnosis`. -/
structure ReverterDiagnosis where
  status : String := "NONE"
  transitionCount : Nat := 0
  enableDisableCycleCount : Nat := 0
  lastPorts : List Int := []
  repeatedProcessNames : List String := []
  repeatedCommandLineHashes : List String := []
  suspectedReverterProcess : Option String := none
  confidence : FloatVal := .zero
  evidence : List String := []
  limitations : List String := []
  deriving DecidableEq

def historyLimitations : List String :=
  ["Likely process / correlation only; registry writer proof unavailable.",
    "Flapping detection uses observed state transitions, not registry write events."]

/-! ## Running through the changes -/

/-- `_cmd_hash`: only a string has an `encode`. -/
def cmdHash (cmdline : Value) : Except PyError (Option String) :=
  if !cmdline.truthy then .ok none
  else match cmdline with
    | .str s => .ok (some (.ofList ((Sha256.hexdigest s.toUTF8).toList.take 16)))
    | _ => .error .attribute

/-- What the changes so far have shown. -/
structure Seen where
  enableVals : List Int := []
  ports : List Int := []
  processNames : List String := []
  cmdHashes : List String := []

/-- `ev.get(key) or {}`. -/
def orEmpty (ev : Dict) (key : String) : Value := orElse (ev.get? key) (.dict [])

/-- `int(state.get("wininet_proxy_enabled") or 0)`. -/
def enabledOf (state : Dict) : Except PyError Int :=
  (orElse (state.get? "wininet_proxy_enabled") (.int 0)).toInt

/-- The port of a state, if it has one that `int()` reads. -/
def portOf (state : Dict) : Except PyError (Option Int) :=
  match state.get? "localhost_port" with
  | none | some .none => .ok none
  | some v => tryInt v

/-- The switch and the port of one more state. -/
def Seen.state (seen : Seen) (state : Value) : Except PyError Seen := do
  let state ← stateDict state
  let enabled ← enabledOf state
  let port ← portOf state
  return { seen with
    enableVals := seen.enableVals ++ [enabled]
    ports := seen.ports ++ port.toList }

/-- The name and the command line of a listener. -/
def Seen.owner (seen : Seen) (owner : Value) : Except PyError Seen := do
  let owner ← stateDict owner
  let proc : Dict := match owner.get? "process" with
    | some (.dict proc) => proc
    | _ => []
  let name := (proc.get? "name").getD .none
  let hash ← cmdHash ((proc.get? "cmdline").getD .none)
  return { seen with
    processNames := seen.processNames ++ (if name.truthy then [name.toText] else [])
    cmdHashes := seen.cmdHashes ++ hash.toList }

/-- The state before a change, which the first one shows. -/
def Seen.start (seen : Seen) (first : Bool) (before : Value) : Except PyError Seen :=
  if first && before.truthy then seen.state before else .ok seen

/-- One more change. -/
def Seen.event (first : Bool) (seen : Seen) (ev : Dict) : Except PyError Seen := do
  let seen ← seen.start first (orEmpty ev "before")
  let seen ← seen.state (orEmpty ev "after")
  seen.owner (orEmpty ev "owner")

def collect : List Dict → Except PyError Seen
  | [] => .ok {}
  | ev :: events => do
    let seen ← Seen.event true {} ev
    events.foldlM (Seen.event false) seen

/-! ## Conclusions -/

/-- On, off, and on again. -/
def enableCycles : List Int → Nat
  | a :: b :: c :: rest =>
    (if a = 1 ∧ b = 0 ∧ c = 1 then 1 else 0) + enableCycles (b :: c :: rest)
  | _ => 0

/-- What occurs twice, in the order of a `Counter`. -/
def repeated (texts : List String) : List String :=
  texts.eraseDups.filter fun text => 2 ≤ texts.count text

/-- Whether the proxy comes back on the port that it was switched off on. The port of a step is the
one at its place in the list of ports, or the last one. -/
def samePortReenable (enableVals ports : List Int) : Bool :=
  ((List.range (enableVals.length - 1)).foldl (fun (disabled, found) i =>
    let before := enableVals.getD i 0
    let after := enableVals.getD (i + 1) 0
    let port := ports[i + 1]?.or ports.getLast?
    let disabled : List Int :=
      if before = 1 ∧ after = 0 then port.toList ++ disabled else disabled
    (disabled, found || (before = 0 && after = 1 && port.any (· ∈ disabled)))) ([], false)).2

/-- What the switch and the ports say. -/
def verdict (count : Nat) (enableVals ports : List Int) : String × FloatVal × List String :=
  let cycles := enableCycles enableVals
  let uniquePorts := ports.dedup.insertionSort (· ≤ ·)
  if 1 ≤ cycles then
    ("REVERTER_SUSPECTED",
      .min (.ofScientific 95 (-2)) (.add (.ofScientific 6 (-1))
        (.mul (.ofScientific 15 (-2)) (.ofScientific cycles 0))),
      ("ProxyEnable cycled off→on " ++ toString cycles ++ " time(s) within watch window") ::
        if samePortReenable enableVals ports then
          ["ProxyServer returned to same localhost port after manual disable"] else [])
  else if 2 ≤ uniquePorts.length ∧ enableVals.getLast? = some 1 then
    ("REPEATED_LOCALHOST_PROXY_PORTS", .ofScientific 7 (-1),
      ["Localhost proxy ports changed across " ++ (Value.list (uniquePorts.map .int)).toText])
  else if 3 ≤ count ∧ 1 < enableVals.dedup.length then
    ("PROXY_FLAPPING", .ofScientific 55 (-2),
      ["Multiple proxy enable transitions in short window"])
  else ("NONE", .zero, [])

/-- The status that the last probe gives, where nothing else does. -/
def probedStatus (proxyStatus : Value) : String × FloatVal :=
  match proxyStatus with
  | .str "HEALTHY_LOCALHOST_PROXY" | .str "BOTH_DIRECT_AND_PROXY_WORK"
  | .str "PROXY_ONLY_WORKS" => ("LOCAL_PROXY_ACTIVE", .ofScientific 6 (-1))
  | .str "DEAD_LOCALHOST_PROXY" | .str "DIRECT_ONLY_WORKS" =>
    ("DEAD_PROXY_CONFIG", .ofScientific 85 (-2))
  | v => (if v.truthy then v.toText else "NONE", .zero)

/-- The diagnosis, from what was seen of so many changes, from a stale proxy and from the status of
the last probe. -/
def conclude (count : Nat) (seen : Seen) (stale : Bool) (lastStatus : Value) : ReverterDiagnosis :=
  let names := repeated seen.processNames
  let (status, confidence, evidence) := verdict count seen.enableVals seen.ports
  let evidence := evidence ++ match names with
    | [] => []
    | name :: _ => ["Repeated listener correlation: " ++ name ++
        " (correlation only; not registry writer proof)"]
  let (status, confidence, evidence) :=
    if stale && status == "NONE" then
      ("STALE_PROXY_AFTER_PROCESS_EXIT", .ofScientific 7 (-1),
        evidence ++ ["Proxy enabled but listener absent — stale proxy config suspected"])
    else (status, confidence, evidence)
  let (status, confidence) :=
    if status = "NONE" ∧ seen.enableVals.getLast? = some 1 then probedStatus lastStatus
    else (status, confidence)
  { status := status
    transitionCount := count
    enableDisableCycleCount := enableCycles seen.enableVals
    lastPorts := seen.ports.drop (seen.ports.length - 5)
    repeatedProcessNames := names
    repeatedCommandLineHashes := repeated seen.cmdHashes
    suspectedReverterProcess := names.head?
    confidence := confidence
    evidence := evidence
    limitations := historyLimitations }

/-- A change that shows a proxy without a listener. -/
def isStale (ev : Dict) : Except PyError Bool := do
  let health ← stateDict (orEmpty ev "health")
  match health.get? "proxy_status" with
  | some (.str "DEAD_LOCALHOST_PROXY") => return true
  | _ =>
    let owner ← stateDict (orEmpty ev "owner")
    match owner.get? "listener_found" with
    | some (.bool false) => do
      let after ← stateDict (orEmpty ev "after")
      let enabled ← enabledOf after
      return enabled == 1
    | _ => return false

/-- `analyze_proxy_watch_history`. The health of the last change is the first one that the search
for a stale proxy reads, so that reading it again does not raise. -/
def analyzeProxyWatchHistory (events : List Dict) : Except PyError ReverterDiagnosis :=
  match events.getLast? with
  | none => .ok { limitations := historyLimitations }
  | some last => do
    let seen ← collect events
    let stale ← events.reverse.anyM isStale
    let health ← stateDict (orEmpty last "health")
    return conclude events.length seen stale ((health.get? "proxy_status").getD .none)

end StateMachine
