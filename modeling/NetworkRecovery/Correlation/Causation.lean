import Mathlib.Algebra.Order.Ring.Rat
import Mathlib.Tactic.NormNum
import NetworkRecovery.Correlation.RegistryTexts
import NetworkRecovery.Lib.Ranking
import NetworkRecovery.Python.Json

/-!
# Who wrote the proxy

`correlation/proxy_causation.py`: the registry events around a change of the proxy are scored,
and the best one decides how sure the writer is. `FINAL_CAUSATION` stands for an event 13 that
wrote the new value at the time of the change. What the score asks of an event is less
(`finalCausation_iff`): events 12 and 14 count as well, the time is left to the query, so that a
list that was handed in is not checked, a path need only mention the value, the list of changed
fields is believed, and the `Details` need only CONTAIN the new value: a write of port 8080 proves
one of port 80.
-/

namespace Correlation

open Python Ranking

/-! ## Events -/

/-- `SysmonEvent`, without the raw fields. -/
structure SysmonEvent where
  utcTime : String
  eventId : Int
  processGuid : Option String := none
  processId : Option Int := none
  image : Option String := none
  commandLine : Option String := none
  parentProcessGuid : Option String := none
  parentProcessId : Option Int := none
  parentImage : Option String := none
  parentCommandLine : Option String := none
  targetObject : Option String := none
  details : Option String := none
  destinationIp : Option String := none
  destinationPort : Option Int := none
  sourceIp : Option String := none
  sourcePort : Option Int := none
  user : Option String := none
  hashes : Option String := none
  integrityLevel : Option String := none
  ruleName : Option String := none

/-- A process of a lineage; a process without a create event has only its id. -/
structure LineageNode where
  processGuid : Option String
  processId : Option Int := none
  image : Option String := none
  commandLine : Option String := none
  parentProcessGuid : Option String := none
  parentImage : Option String := none
  parentCommandLine : Option String := none
  createEventMissing : Bool := false

section Lower

variable (lower : List Char → List Char)

def lowered (s : String) : List Char := lower s.toList

/-- `ProcessTreeBuilder.get_creation`: the last create event of a process. -/
def getCreation (events : List SysmonEvent) (guid : String) : Option SysmonEvent :=
  (events.filter fun ev => ev.eventId = 1 ∧
    ev.processGuid.any (fun g => !g.isEmpty && lowered lower g == lowered lower guid)).getLast?

/-- The loop of `ancestor_chain`, from the process up; `seen` are the processes met. -/
def ancestors (events : List SysmonEvent) : Nat → List (List Char) → Option String → List LineageNode
  | 0, _, _ => []
  | depth + 1, seen, guid =>
    match guid.filter fun g => !g.isEmpty && !(seen.contains (lowered lower g)) with
    | none => []
    | some guid =>
      match getCreation lower events guid with
      | none => [{ processGuid := some guid, createEventMissing := true }]
      | some ev =>
        { processGuid := ev.processGuid
          processId := ev.processId
          image := ev.image
          commandLine := ev.commandLine
          parentProcessGuid := ev.parentProcessGuid
          parentImage := ev.parentImage
          parentCommandLine := ev.parentCommandLine } ::
          ancestors events depth (lowered lower guid :: seen) ev.parentProcessGuid

/-- `ProcessTreeBuilder.ancestor_chain`, root first. -/
def ancestorChain (events : List SysmonEvent) (guid : Option String) : List LineageNode :=
  (ancestors lower events 6 [] guid).reverse

/-! ## Scores -/

/-- The key of the state under which a value name is kept. -/
def stateKey (valueName : String) : String :=
  (["proxyenable", "proxyserver", "autoconfigurl", "proxyoverride"].zip
    ["proxy_enable", "proxy_server", "auto_config_url", "proxy_override"]).lookup valueName
    |>.getD valueName

/-- The key of the state that a changed field stands for. -/
def fieldToState : List (String × String) :=
  [("ProxyEnable", "proxy_enable"), ("proxy_enable", "proxy_enable"),
    ("ProxyServer", "proxy_server"), ("proxy_server", "proxy_server"),
    ("AutoConfigURL", "auto_config_url"), ("auto_config_url", "auto_config_url"),
    ("ProxyOverride", "proxy_override"), ("proxy_override", "proxy_override")]

/-- `d.get(key)`. -/
def getOrNone (d : Dict) (key : String) : Value := (d.get? key).getD .none

/-- The state has another value than before. -/
def changed (before after : Dict) (key : String) : Bool :=
  !(getOrNone before key).pyEq (getOrNone after key)

/-- `_expected_values_from_diff`: the new values, under their keys. -/
def expectedValuesFromDiff (before after : Dict) (changedFields : List String) : Dict :=
  let listed := changedFields.foldl (fun (expected : Dict) f =>
    match fieldToState.lookup f with
    | some key => expected.set key (getOrNone after key)
    | none => expected) []
  ["proxy_enable", "proxy_server", "auto_config_url", "proxy_override"].foldl
    (fun (expected : Dict) key =>
      if key ∉ expected.keys ∧ changed before after key then
        expected.set key (getOrNone after key)
      else expected) listed

/-- `_score_registry_match`. -/
def scoreRegistryMatch (order : List String) (ev : SysmonEvent) (expectedByValue : Dict) :
    ℚ × Bool :=
  if ev.eventId ∉ [12, 13, 14] then (0, false)
  else
    let target := (ev.targetObject.getD "").toList
    if !isProxyRegistryTarget lower target then (0, false)
    else
      match (proxyRegistryValueName lower order target).filter (!·.isEmpty) with
      | none => (3 / 10, false)
      | some vname =>
        let details := (ev.details.getD "").toList
        match getOrNone expectedByValue (stateKey vname) with
        | .none => if details ≠ [] then (3 / 4, false) else (11 / 20, false)
        | expected =>
          if detailsMatchesExpected lower vname details (some expected) then (1, true)
          else if details ≠ [] then (3 / 4, false)
          else (11 / 20, false)

/-! ## The analysis -/

inductive CausationLevel where
  | finalCausation
  | strongCausation
  | correlationOnly
  | unknown
  deriving DecidableEq

inductive SafetyClassification where
  | knownDevProxy
  | knownSecurityTool
  | unknownLocalProxy
  | suspiciousProxy
  | possibleMitmRisk
  | registryWriterConfirmed
  deriving DecidableEq

/-- The allowlist, as it was read. -/
structure Allowlist where
  processes : List (List Char) := []
  paths : List (List Char) := []

/-- `_classify_writer`. -/
def classifyWriter (image : Option String) (allowlist : Allowlist)
    (hasRegistryProof isLocalhost : Bool) : SafetyClassification :=
  match image.filter (!·.isEmpty) with
  | none => .unknownLocalProxy
  | some image =>
    let base := lower (((image.toList.splitOn '\\').getLast?).getD [])
    let pathLow := lower image.toList
    if hasRegistryProof then
      if allowlist.processes.contains base || allowlist.paths.any (contains · pathLow) then
        .knownDevProxy
      else if ["fiddler", "charles", "mitmproxy", "burp"].any fun x => contains x.toList base then
        .knownSecurityTool
      else if !isLocalhost then .possibleMitmRisk
      else .registryWriterConfirmed
    else if allowlist.processes.contains base then .knownDevProxy
    else if isLocalhost then .unknownLocalProxy
    else .suspiciousProxy

/-- The process that listens on the port; a dictionary without entries stands for none. -/
structure ListenerProcess where
  name : Option String := none
  processName : Option String := none
  pid : Option Int := none
  parentName : Option String := none
  commandLine : Option String := none

/-- What `analyze_proxy_causation` is called with. -/
structure CausationRequest where
  timestampUtc : String
  beforeState : Dict
  afterState : Dict
  changedFields : List String := []
  observedLocalhostPort : Option Int := none
  listenerProcess : Option ListenerProcess := none
  windowSeconds : Int := 10
  sysmonEvents : Option (List SysmonEvent) := none
  allowlist : Allowlist := {}

structure ProxyCausationResult where
  causationLevel : CausationLevel
  classification : SafetyClassification
  writerProcess : Option String := none
  writerCommandLine : Option String := none
  writerHashes : Option String := none
  writerProcessGuid : Option String := none
  writerPid : Option Int := none
  parentProcess : Option String := none
  parentCommandLine : Option String := none
  processTree : List LineageNode := []
  registryEvents : List SysmonEvent := []
  networkEvents : List SysmonEvent := []
  confidence : ℚ := 0
  explanation : String := ""
  matchedRegistryTarget : Option String := none
  matchedRegistryDetails : Option String := none
  observedLocalhostPort : Option Int := none

/-- What the analysis runs on: `datetime.fromisoformat` in seconds, the query of the Sysmon log,
and the order in which the value names are iterated. -/
structure CausationHost where
  fromIso : String → Option ℚ
  querySysmonEvents : ℚ → ℚ → List SysmonEvent
  order : List String
  order_perm : order.Perm proxyValueNames

/-- `_parse_ts`. -/
def parseTimestamp (host : CausationHost) (value : String) : Option ℚ :=
  if value = "" then none
  else host.fromIso <| String.ofList <|
    (strip value.toList).flatMap fun c => if c = 'Z' then "+00:00".toList else [c]

/-- An f-string's text of a value that may be `None`. -/
def formatted (s : Option String) : String := s.getD "None"

/-- A scored event. -/
structure Candidate where
  event : SysmonEvent
  score : ℚ
  detailsMatch : Bool

/-- `a` goes before `b`, or may. -/
def Candidate.Before (a b : Candidate) : Prop := b.score ≤ a.score

instance : DecidableRel Candidate.Before := fun a b =>
  inferInstanceAs (Decidable (b.score ≤ a.score))

namespace CausationRequest

variable (host : CausationHost) (r : CausationRequest)

/-- `window`, in seconds. -/
def window : ℚ := max 1 r.windowSeconds

/-- The events that are looked at: those handed in, or those of the window. -/
def events (anchor : ℚ) : List SysmonEvent :=
  r.sysmonEvents.getD (host.querySysmonEvents (anchor - r.window) (anchor + r.window))

def expected : Dict := expectedValuesFromDiff r.beforeState r.afterState r.changedFields

/-- The events with a score, best first. -/
def registryCandidates (events : List SysmonEvent) : List Candidate :=
  let scored := events.map fun ev =>
    let (score, ok) := scoreRegistryMatch lower host.order ev r.expected
    (⟨ev, score, ok⟩ : Candidate)
  (scored.filter (0 < ·.score)).insertionSort Candidate.Before

/-- The traffic over the port. -/
def networkHits (events : List SysmonEvent) : List SysmonEvent :=
  match r.observedLocalhostPort with
  | none => []
  | some port => events.filter fun ev =>
    ev.eventId = 3 ∧ (ev.destinationPort = some port ∨ ev.sourcePort = some port)

def isLocalhost : Bool :=
  r.observedLocalhostPort.any (· ≠ 0) ||
    "127.".toList.isPrefixOf (orElse (r.afterState.get? "proxy_server") (.str "")).toText.toList

/-- The level with its confidence and its explanation. -/
def verdict (best : Option Candidate) : CausationLevel × ℚ × String :=
  match best with
  | some ⟨ev, _, true⟩ =>
    (.finalCausation, 95 / 100,
      "Sysmon Event ID " ++ toString ev.eventId ++ " shows " ++ formatted ev.image ++ " wrote " ++
        formatted ev.targetObject ++ " = " ++ formatted ev.details ++ " within ±" ++
        toString r.windowSeconds ++ "s of proxy change.")
  | some ⟨ev, _, false⟩ =>
    (.strongCausation, 82 / 100,
      "Sysmon registry event on " ++ formatted ev.targetObject ++ " by " ++ formatted ev.image ++
        ", but Details did not exactly match expected new value.")
  | none =>
    if r.listenerProcess.isSome || r.observedLocalhostPort.any (· ≠ 0) then
      (.correlationOnly, 45 / 100,
        "Likely process / correlation only; registry writer proof unavailable " ++
          "(no matching Sysmon Event ID 13 in window).")
    else
      (.unknown, 1 / 10,
        "No Sysmon registry writer and no localhost listener correlation in window.")

/-- Python of a graphics driver, without a registry write, counts for little. -/
def guardNvidia (image commandLine : Option String) (v : CausationLevel × ℚ × String) :
    CausationLevel × ℚ × String :=
  let listenerCmd := r.listenerProcess.bind (·.commandLine)
  let blob := lower ((commandLine.getD "").toList ++ ' ' :: (listenerCmd.getD "").toList)
  if v.1 = .correlationOnly ∧
      image.any (fun image => contains "python.exe".toList (lower image.toList)) ∧
      contains "nvidia".toList blob then
    (v.1, min v.2.1 (1 / 4),
      v.2.2 ++ " Python/NVIDIA context without registry write — LOW confidence.")
  else v

/-- `analyze_proxy_causation`. -/
def analyzeProxyCausation : ProxyCausationResult :=
  match parseTimestamp host r.timestampUtc with
  | none =>
    { causationLevel := .unknown
      classification := .unknownLocalProxy
      explanation := "Invalid transition timestamp; cannot query Sysmon window." }
  | some anchor =>
    let events := r.events host anchor
    let candidates := r.registryCandidates lower host events
    let best := candidates.head?
    let writer := best.map Candidate.event
    let image := writer.bind (·.image)
    let fromListener := if image.all (·.isEmpty) then r.listenerProcess else none
    let writerImage := match fromListener with
      | some listener => (listener.name.filter (!·.isEmpty)).or listener.processName
      | none => image
    let writerCmd := writer.bind (·.commandLine)
    let v := r.guardNvidia lower writerImage writerCmd (r.verdict best)
    { causationLevel := v.1
      classification := classifyWriter lower writerImage r.allowlist best.isSome r.isLocalhost
      writerProcess := writerImage
      writerCommandLine := writerCmd
      writerHashes := writer.bind (·.hashes)
      writerProcessGuid := writer.bind (·.processGuid)
      writerPid := match fromListener with
        | some listener => listener.pid
        | none => writer.bind (·.processId)
      parentProcess := match fromListener with
        | some listener => listener.parentName
        | none => writer.bind (·.parentImage)
      parentCommandLine := writer.bind (·.parentCommandLine)
      processTree := ancestorChain lower events (writer.bind (·.processGuid))
      registryEvents := (candidates.take 5).map Candidate.event
      networkEvents := r.networkHits events
      confidence := v.2.1
      explanation := v.2.2
      matchedRegistryTarget := writer.bind (·.targetObject)
      matchedRegistryDetails := writer.bind (·.details)
      observedLocalhostPort := r.observedLocalhostPort }

end CausationRequest

/-! ## When the level is final -/

/-- The event passes the match. -/
def Passes (order : List String) (expected : Dict) (ev : SysmonEvent) : Prop :=
  scoreRegistryMatch lower order ev expected = (1, true)

/-- No score is above that of a match, and only a match has it. -/
theorem scoreRegistryMatch_cases (order : List String) (ev : SysmonEvent) (expected : Dict) :
    scoreRegistryMatch lower order ev expected = (1, true) ∨
      (scoreRegistryMatch lower order ev expected).1 < 1 ∧
        (scoreRegistryMatch lower order ev expected).2 = false := by
  unfold scoreRegistryMatch
  dsimp only
  repeat' split
  all_goals first
    | exact .inl rfl
    | exact .inr ⟨by norm_num, rfl⟩

theorem Candidate.before_trans (a b c : Candidate) (hab : a.Before b) (hbc : b.Before c) :
    a.Before c := by
  show c.score ≤ a.score
  exact le_trans hbc hab

theorem Candidate.before_total (a b : Candidate) : a.Before b ∨ b.Before a :=
  le_total b.score a.score

/-- The candidates before they are sorted. -/
def CausationRequest.scored (host : CausationHost) (r : CausationRequest)
    (events : List SysmonEvent) : List Candidate :=
  (events.map fun ev => (⟨ev, (scoreRegistryMatch lower host.order ev r.expected).1,
    (scoreRegistryMatch lower host.order ev r.expected).2⟩ : Candidate)).filter (0 < ·.score)

theorem mem_scored {host : CausationHost} {r : CausationRequest} {events : List SysmonEvent}
    {b : Candidate} (h : b ∈ r.scored lower host events) :
    b.event ∈ events ∧
      (b.score, b.detailsMatch) = scoreRegistryMatch lower host.order b.event r.expected := by
  obtain ⟨ev, hev, rfl⟩ := List.mem_map.mp (List.mem_of_mem_filter h)
  exact ⟨hev, Prod.mk.eta⟩

/-- The best candidate has matching details exactly when an event passes. -/
theorem best_detailsMatch_iff (host : CausationHost) (r : CausationRequest)
    (events : List SysmonEvent) :
    (∃ b, (r.registryCandidates lower host events).head? = some b ∧ b.detailsMatch = true) ↔
      ∃ ev ∈ events, Passes lower host.order r.expected ev := by
  have hhead : (r.registryCandidates lower host events).head? =
      best Candidate.Before (r.scored lower host events) := head?_insertionSort _
  rw [hhead]
  constructor
  · rintro ⟨b, hb, hmatch⟩
    obtain ⟨hev, hscore⟩ := mem_scored lower (best_mem hb)
    refine ⟨b.event, hev, ?_⟩
    rcases scoreRegistryMatch_cases lower host.order b.event r.expected with hpass | ⟨-, hno⟩
    · exact hpass
    · rw [← hscore, hmatch] at hno
      cases hno
  · rintro ⟨ev, hev, hpass⟩
    have hmem : (⟨ev, 1, true⟩ : Candidate) ∈ r.scored lower host events := by
      refine List.mem_filter.mpr ⟨List.mem_map.mpr ⟨ev, hev, ?_⟩, by norm_num⟩
      rw [show scoreRegistryMatch lower host.order ev r.expected = (1, true) from hpass]
    cases hbest : best Candidate.Before (r.scored lower host events) with
    | none =>
      cases hscored : r.scored lower host events with
      | nil =>
        rw [hscored] at hmem
        cases hmem
      | cons a l =>
        rw [hscored] at hbest
        cases hbest
    | some b =>
      refine ⟨b, rfl, ?_⟩
      have htop : 1 ≤ b.score :=
        best_spec Candidate.before_trans Candidate.before_total hbest _ hmem
      obtain ⟨-, hscore⟩ := mem_scored lower (best_mem hbest)
      rcases scoreRegistryMatch_cases lower host.order b.event r.expected with hfull | ⟨hlow, -⟩
      · rw [hfull] at hscore
        exact congrArg Prod.snd hscore
      · rw [← hscore] at hlow
        exact absurd htop (not_le.mpr hlow)

theorem guardNvidia_level (r : CausationRequest) (image commandLine : Option String)
    (v : CausationLevel × ℚ × String) : (r.guardNvidia lower image commandLine v).1 = v.1 := by
  unfold CausationRequest.guardNvidia
  dsimp only
  split
  · rfl
  · rfl

theorem verdict_final_iff (r : CausationRequest) (best : Option Candidate) :
    (r.verdict best).1 = .finalCausation ↔ ∃ b, best = some b ∧ b.detailsMatch = true := by
  unfold CausationRequest.verdict
  split
  · simp
  · simp
  · split
    · simp
    · simp

/-- The level is final exactly when some event passes the match. -/
theorem level_final_iff (host : CausationHost) (r : CausationRequest) :
    (r.analyzeProxyCausation lower host).causationLevel = .finalCausation ↔
      ∃ anchor, parseTimestamp host r.timestampUtc = some anchor ∧
        ∃ ev ∈ r.events host anchor, Passes lower host.order r.expected ev := by
  unfold CausationRequest.analyzeProxyCausation
  cases hanchor : parseTimestamp host r.timestampUtc with
  | none => simp
  | some anchor =>
    dsimp only
    rw [guardNvidia_level, verdict_final_iff, best_detailsMatch_iff]
    simp

/-! ## What passes the match -/

theorem get?_listed (after : Dict) (key : String) (fields : List String) (d : Dict) :
    (fields.foldl (fun (expected : Dict) f =>
      match fieldToState.lookup f with
      | some key => expected.set key (getOrNone after key)
      | none => expected) d).get? key =
      if ∃ f ∈ fields, fieldToState.lookup f = some key then some (getOrNone after key)
      else d.get? key := by
  induction fields generalizing d with
  | nil => simp
  | cons f fields ih =>
    rw [List.foldl_cons, ih]
    by_cases hrest : ∃ f ∈ fields, fieldToState.lookup f = some key
    · obtain ⟨f', hf', hlookup⟩ := hrest
      rw [if_pos ⟨f', hf', hlookup⟩, if_pos ⟨f', List.mem_cons_of_mem f hf', hlookup⟩]
    · rw [if_neg hrest]
      cases hf : fieldToState.lookup f with
      | none => simp [hf, hrest]
      | some key' =>
        by_cases hkey : key' = key
        · subst hkey
          simp [hf, Dict.get?_set_self]
        · simp [hf, hrest, hkey, Dict.get?_set_of_ne _ hkey]

theorem get?_eq_none_iff {d : Dict} {key : String} : d.get? key = none ↔ key ∉ d.keys := by
  unfold Dict.get? Dict.keys
  rw [List.lookup_eq_none_iff]
  simp only [List.mem_map, not_exists, not_and, bne_iff_ne, ne_eq]
  exact ⟨fun h e he heq => h e he heq.symm, fun h e he heq => h e he heq.symm⟩

theorem get?_changed (before after : Dict) (key : String) (keys : List String) (d : Dict) :
    (keys.foldl (fun (expected : Dict) key =>
      if key ∉ expected.keys ∧ changed before after key then
        expected.set key (getOrNone after key)
      else expected) d).get? key =
      if key ∈ keys ∧ d.get? key = none ∧ changed before after key = true then
        some (getOrNone after key)
      else d.get? key := by
  simp only [← get?_eq_none_iff]
  induction keys generalizing d with
  | nil => simp
  | cons key' keys ih =>
    rw [List.foldl_cons, ih]
    by_cases hkey : key' = key
    · subst hkey
      by_cases hset : d.get? key' = none ∧ changed before after key' = true
      · simp [hset, Dict.get?_set_self]
      · simp [hset]
    · have hne : key ≠ key' := fun h => hkey h.symm
      split
      · simp [Dict.get?_set_of_ne _ hkey, hne]
      · simp [hne]

/-- The new value of a key is looked for: a field that stands for the key is listed as changed,
or its state is another one than before. -/
def CausationRequest.Awaits (r : CausationRequest) (key : String) : Prop :=
  (∃ f ∈ r.changedFields, fieldToState.lookup f = some key) ∨
    changed r.beforeState r.afterState key = true

theorem getOrNone_expected (r : CausationRequest) {key : String}
    (hkey : key ∈ ["proxy_enable", "proxy_server", "auto_config_url", "proxy_override"]) :
    (r.Awaits key → getOrNone r.expected key = getOrNone r.afterState key) ∧
      (¬ r.Awaits key → getOrNone r.expected key = .none) := by
  unfold CausationRequest.expected expectedValuesFromDiff CausationRequest.Awaits
  dsimp only
  rw [getOrNone, get?_changed, get?_listed]
  by_cases hlisted : ∃ f ∈ r.changedFields, fieldToState.lookup f = some key
  · rw [if_pos hlisted]
    simp [hlisted]
  · rw [if_neg hlisted]
    cases hchanged : changed r.beforeState r.afterState key with
    | true => simp [hlisted, hkey, Dict.get?]
    | false => simp [hlisted, Dict.get?]

theorem stateKey_mem : ∀ valueName ∈ proxyValueNames, stateKey valueName ∈
    ["proxy_enable", "proxy_server", "auto_config_url", "proxy_override"] := by decide

/-- An event that is taken for a record of the change: a registry event, about a value that is
awaited and is not `None`, with `Details` that hold it. -/
structure TakenForRecord (order : List String) (r : CausationRequest) (ev : SysmonEvent)
    (valueName : String) : Prop where
  eventId : ev.eventId ∈ [12, 13, 14]
  target : IsAbout lower order (ev.targetObject.getD "").toList valueName
  awaited : r.Awaits (stateKey valueName)
  present : getOrNone r.afterState (stateKey valueName) ≠ .none
  details : Holds lower valueName (ev.details.getD "").toList
    (getOrNone r.afterState (stateKey valueName))

/-- What passes the match, in terms of the event and the two states. -/
theorem passes_iff {order : List String} (horder : order.Perm proxyValueNames)
    (r : CausationRequest) (ev : SysmonEvent) :
    Passes lower order r.expected ev ↔ ∃ valueName, TakenForRecord lower order r ev valueName := by
  have hfails : ∀ {score : ℚ}, ((score, false) : ℚ × Bool) ≠ (1, true) :=
    fun h => Bool.false_ne_true (congrArg Prod.snd h)
  unfold Passes scoreRegistryMatch
  dsimp only
  constructor
  · intro h
    split at h
    · exact absurd h hfails
    next hid =>
    split at h
    · exact absurd h hfails
    next htarget =>
    split at h
    · exact absurd h hfails
    next valueName hname =>
    have hname := (Option.filter_eq_some_iff.mp hname).1
    have habout := (isAbout_iff lower horder _ valueName).mp ⟨by simpa using htarget, hname⟩
    obtain ⟨hawaited, hignored⟩ := getOrNone_expected r (stateKey_mem valueName habout.1)
    split at h
    · split at h
      · exact absurd h hfails
      · exact absurd h hfails
    next hpresent =>
    split at h
    next hmatch =>
      by_cases hawaits : r.Awaits (stateKey valueName)
      · rw [hawaited hawaits] at hmatch hpresent
        refine ⟨valueName, not_not.mp hid, habout, hawaits, hpresent, ?_⟩
        exact (holds_iff lower habout.1 _ hpresent).mp hmatch
      · exact absurd (hignored hawaits) hpresent
    · split at h
      · exact absurd h hfails
      · exact absurd h hfails
  · rintro ⟨valueName, hid, habout, hawaits, hpresent, hholds⟩
    obtain ⟨htarget, hname⟩ := (isAbout_iff lower horder _ valueName).mpr habout
    have hexpected := (getOrNone_expected r (stateKey_mem valueName habout.1)).1 hawaits
    have hnamed : (some valueName).filter (!·.isEmpty) = some valueName := by
      have hne := (proxyValueNames_bare valueName habout.1).1
      simpa using hne
    have hmatch := (holds_iff lower habout.1 _ hpresent).mpr hholds
    rw [if_neg (not_not.mpr hid), htarget, if_neg (by decide), hname, hnamed]
    dsimp only
    rw [hexpected]
    split
    next hnone => exact absurd hnone hpresent
    next => rw [if_pos hmatch]

/-! ## Exact records -/

/-- The number of a text of hexadecimal digits. -/
def hexNumber (s : List Char) : Option Nat :=
  if s = [] then none else s.foldlM (fun n c => (hexValue c).map (16 * n + ·)) 0

/-- The DWORD a text stands for: `dword (0x00000001)`, `0x1`, `1`, or a truth value. -/
def dwordOf (d : List Char) : Option Nat :=
  let opening := "dword (0x".toList
  if opening.isPrefixOf d ∧ d.getLast? = some ')' then hexNumber ((d.drop opening.length).dropLast)
  else if "0x".toList.isPrefixOf d then hexNumber (d.drop 2)
  else if d = "true".toList then some 1
  else if d = "false".toList then some 0
  else if d ≠ [] ∧ d.all Char.isDigit then some (ofDecimal (d.map fun c => c.toNat - '0'.toNat))
  else none

/-- The DWORD of a new `ProxyEnable`. -/
def newDword : Value → Option Nat
  | .bool b => some (if b then 1 else 0)
  | v => dwordOf (lower (strip v.toText.toList))

/-- The details are those of the new value: the same text but for its ends and its case, or the
same DWORD. -/
def Denotes (valueName : String) (details : List Char) (new : Value) : Prop :=
  if valueName = "proxyenable" then
    ∃ n, dwordOf (lower (strip details)) = some n ∧ newDword lower new = some n
  else lower (strip details) = lower (strip new.toText.toList)

/-- The event lies in the window. -/
def InWindow (host : CausationHost) (r : CausationRequest) (anchor : ℚ) (ev : SysmonEvent) :
    Prop :=
  ∃ t, parseTimestamp host ev.utcTime = some t ∧ anchor - r.window ≤ t ∧ t ≤ anchor + r.window

/-- The event is about a value of `Internet Settings` that has changed, and its details are those
of the new value. -/
def RecordsNewValue (r : CausationRequest) (ev : SysmonEvent) : Prop :=
  ∃ valueName ∈ proxyValueNames,
    (∃ root, normalizeRegistryPath lower (ev.targetObject.getD "").toList =
      root ++ internetSettingsSuffix ++ '\\' :: valueName.toList) ∧
    changed r.beforeState r.afterState (stateKey valueName) = true ∧
    Denotes lower valueName (ev.details.getD "").toList
      (getOrNone r.afterState (stateKey valueName))

/-- The event proves who wrote the new value. -/
structure ExactRecord (host : CausationHost) (r : CausationRequest) (anchor : ℚ)
    (ev : SysmonEvent) : Prop where
  eventId : ev.eventId = 13
  inWindow : InWindow host r anchor ev
  records : RecordsNewValue lower r ev

/-- The event is taken for a record and is none: an event 12 or 14, an event at another time, or
one whose path only mentions the value, whose field is only listed as changed, or whose details
only contain the new value. -/
def NearMiss (host : CausationHost) (r : CausationRequest) (anchor : ℚ) (ev : SysmonEvent) :
    Prop :=
  (∃ valueName, TakenForRecord lower host.order r ev valueName) ∧
    (ev.eventId ≠ 13 ∨ ¬ InWindow host r anchor ev ∨ ¬ RecordsNewValue lower r ev)

/-- A final level has an exact record behind it exactly when there is one among the events, or
none of them is a near miss. -/
theorem finalCausation_iff (host : CausationHost) (r : CausationRequest) :
    ((r.analyzeProxyCausation lower host).causationLevel = .finalCausation →
      ∃ anchor, parseTimestamp host r.timestampUtc = some anchor ∧
        ∃ ev ∈ r.events host anchor, ExactRecord lower host r anchor ev) ↔
      ∀ anchor, parseTimestamp host r.timestampUtc = some anchor →
        (∃ ev ∈ r.events host anchor, ExactRecord lower host r anchor ev) ∨
          ∀ ev ∈ r.events host anchor, ¬ NearMiss lower host r anchor ev := by
  rw [level_final_iff]
  simp only [passes_iff lower host.order_perm]
  constructor
  · intro h anchor hanchor
    by_cases hmiss : ∃ ev ∈ r.events host anchor, NearMiss lower host r anchor ev
    · obtain ⟨ev, hev, htaken, -⟩ := hmiss
      obtain ⟨anchor', hanchor', hexact⟩ := h ⟨anchor, hanchor, ev, hev, htaken⟩
      obtain rfl := Option.some.inj (hanchor.symm.trans hanchor')
      exact .inl hexact
    · push Not at hmiss
      exact .inr hmiss
  · rintro h ⟨anchor, hanchor, ev, hev, htaken⟩
    refine ⟨anchor, hanchor, (h anchor hanchor).elim id fun hnone => ⟨ev, hev, ?_⟩⟩
    have hno := hnone ev hev
    unfold NearMiss at hno
    push Not at hno
    obtain ⟨hid, hwindow, hrecords⟩ := hno htaken
    exact ⟨hid, hwindow, hrecords⟩

end Lower

/-- A machine on which one timestamp can be read. -/
def newYearHost : CausationHost where
  fromIso text := if text = "2026-01-01T00:00:00+00:00" then some 1767225600 else none
  querySysmonEvents _ _ := []
  order := proxyValueNames
  order_perm := .refl _

/-- A write of port 8080. -/
def port8080Write : SysmonEvent where
  utcTime := "2026-01-01T00:00:00Z"
  eventId := 13
  image := some "C:\\Tools\\proxy.exe"
  targetObject := some ("HKU\\S-1-5-21-1\\Software\\Microsoft\\Windows\\CurrentVersion\\" ++
    "Internet Settings\\ProxyServer")
  details := some "127.0.0.1:8080"

/-- A change to port 80. -/
def port80Change : CausationRequest where
  timestampUtc := "2026-01-01T00:00:00Z"
  beforeState := []
  afterState := [("proxy_server", .str "127.0.0.1:80")]
  sysmonEvents := some [port8080Write]

/-- The write of another port is final proof. -/
theorem port8080_proves_port80 :
    ¬ ((port80Change.analyzeProxyCausation lower newYearHost).causationLevel = .finalCausation →
      ∃ anchor, parseTimestamp newYearHost port80Change.timestampUtc = some anchor ∧
        ∃ ev ∈ port80Change.events newYearHost anchor,
          ExactRecord lower newYearHost port80Change anchor ev) := by
  intro h
  have hpass : Passes lower newYearHost.order port80Change.expected port8080Write := by
    unfold Passes
    decide +kernel
  obtain ⟨anchor, -, ev, hev, hexact⟩ := h <| (level_final_iff lower newYearHost port80Change).mpr
    ⟨1767225600, by decide +kernel, port8080Write, List.mem_singleton_self _, hpass⟩
  obtain rfl : ev = port8080Write := List.mem_singleton.mp hev
  obtain ⟨valueName, hname, -, hchanged, hdenotes⟩ := hexact.records
  simp only [proxyValueNames, List.mem_cons, List.not_mem_nil, or_false] at hname
  rcases hname with rfl | rfl | rfl | rfl
  · exact absurd hchanged (by decide +kernel)
  · rw [Denotes, if_neg (by decide)] at hdenotes
    exact absurd hdenotes (by decide +kernel)
  · exact absurd hchanged (by decide +kernel)
  · exact absurd hchanged (by decide +kernel)

end Correlation
