import NetworkRecovery.Proxy.Parser
import NetworkRecovery.Python.Builtins

/-!
# The WinINET state machine

`normalize_proxy_state` and `classify_transition` of
`windows_network_toolkit/proxy_state_machine.py`. A snapshot is a dict as the
registry readers, the watcher and the fixtures write it: each field under one
of several keys, with a value of any type.

`int()` of an infinite float raises `OverflowError`, which the normalizer does
not catch. That is the only way it fails, and why the functions return
`Except`.
-/

namespace StateMachine

open Python ProxyGuard

/-- `ProxyMode`. -/
inductive ProxyMode where
  | disabled
  | localhostProxy
  | remoteProxy
  | pacConfigured
  | autodetect
  | inconsistent
  | unknown
  deriving DecidableEq, Repr

/-- `TransitionClass`. -/
inductive TransitionClass where
  | noChange
  | proxyDisabled
  | proxyServerRemoved
  | proxyServerRemovedPartial
  | proxyDisabledAndServerRemoved
  | localhostProxyEnabled
  | remoteOrNonLoopbackProxyConfigured
  | proxyServerChangedToRemote
  | proxyEnabledWithNoServer
  | pacConfigured
  | pacRemoved
  | autodetectEnabled
  | wininetWinhttpMismatch
  | localhostProxyPortChanged
  | reverterSuspectedLocalhostProxyLoop
  | errorInsufficientData
  deriving DecidableEq, Repr

def TransitionClass.value : TransitionClass → String
  | .noChange => "NO_CHANGE"
  | .proxyDisabled => "PROXY_DISABLED"
  | .proxyServerRemoved => "PROXY_SERVER_REMOVED"
  | .proxyServerRemovedPartial => "PROXY_SERVER_REMOVED_PARTIAL"
  | .proxyDisabledAndServerRemoved => "PROXY_DISABLED_AND_SERVER_REMOVED"
  | .localhostProxyEnabled => "LOCALHOST_PROXY_ENABLED"
  | .remoteOrNonLoopbackProxyConfigured => "REMOTE_OR_NON_LOOPBACK_PROXY_CONFIGURED"
  | .proxyServerChangedToRemote => "PROXY_SERVER_CHANGED_TO_REMOTE"
  | .proxyEnabledWithNoServer => "PROXY_ENABLED_WITH_NO_SERVER"
  | .pacConfigured => "PAC_CONFIGURED"
  | .pacRemoved => "PAC_REMOVED"
  | .autodetectEnabled => "AUTODETECT_ENABLED"
  | .wininetWinhttpMismatch => "WININET_WINHTTP_MISMATCH"
  | .localhostProxyPortChanged => "LOCALHOST_PROXY_PORT_CHANGED"
  | .reverterSuspectedLocalhostProxyLoop => "REVERTER_SUSPECTED_LOCALHOST_PROXY_LOOP"
  | .errorInsufficientData => "ERROR_INSUFFICIENT_DATA"

/-! ## Normalization -/

/-- `ProxyWininetState`. -/
structure ProxyWininetState where
  proxyEnable : Bool
  proxyServer : Option String
  autoConfigUrl : Option String
  autoDetect : Option Bool
  proxyOverride : Option String
  parsedHost : Option String
  parsedPort : Option Int
  proxyMode : ProxyMode
  winhttpDirectAccess : Option Bool
  deriving DecidableEq

/-- `_server_empty` of an optional string. -/
def serverEmpty (val : Option String) : Bool :=
  match val with
  | none => true
  | some s => (strip s.toList).isEmpty

/-- The value under the first key that is there, `None` if none is. -/
def firstKey (raw : Dict) (keys : List String) : Value :=
  (keys.findSome? raw.get?).getD .none

/-- `int(v)`, nothing where it raises `TypeError` or `ValueError`. -/
def tryInt (v : Value) : Except PyError (Option Int) :=
  match v.toInt with
  | .ok n => .ok (some n)
  | .error .type | .error .value => .ok none
  | .error e => .error e

/-- A flag: `int(v) == 1`, or the truth of what `int` refuses. -/
def flagOf (v : Value) : Except PyError (Option Bool) :=
  match v with
  | .none => .ok none
  | .bool b => .ok (some b)
  | v => do
    match ← tryInt v with
    | some n => return some (n == 1)
    | none => return some v.truthy

/-- `str(v).strip()`, except of `None` and of the empty string. -/
def textOf (v : Value) : Option String :=
  match v with
  | .none | .str "" => none
  | v => some (.ofList (strip v.toText.toList))

/-- The server: white space alone counts as none. -/
def serverOf (v : Value) : Option String :=
  match v with
  | .none => none
  | .str s => match strip s.toList with
    | [] => none
    | t => some (.ofList t)
  | v => some (.ofList (strip v.toText.toList))

/-- `s` as a condition: neither `None` nor empty. -/
def truthyText (s : Option String) : Bool := s.any (!·.isEmpty)

/-- The ladder that derives the mode. -/
def modeOf (parsed : ParsedProxy) (enable : Bool) (server pac : Option String)
    (autoDetect : Option Bool) (port : Option Int) : ProxyMode :=
  if parsed.isMalformed && enable then .inconsistent
  else if !enable && serverEmpty server && !truthyText pac && autoDetect != some true then .disabled
  else if truthyText pac then .pacConfigured
  else if autoDetect == some true && !enable && serverEmpty server then .autodetect
  else if enable && parsed.isLocalhostProxy && port.any (· != 0) then .localhostProxy
  else if enable && !serverEmpty server && !parsed.isLocalhostProxy then .remoteProxy
  else if enable && serverEmpty server && !truthyText pac then .inconsistent
  else if !enable && !serverEmpty server then .inconsistent
  else .unknown

/-- The port: the parser's, or the one the snapshot brings. -/
def resolvePort (raw : Dict) (parsed : ParsedProxy) : Except PyError (Option Int) :=
  match parsed.localhostPort with
  | some port => .ok (some port)
  | none => tryInt (firstKey raw ["localhost_port"])

def serverOfRaw (raw : Dict) : Option String :=
  serverOf (firstKey raw ["proxy_server", "ProxyServer", "wininet_proxy_server"])

/-- The state, once the values that `int()` may refuse are there. -/
def stateOf (raw : Dict) (enable : Bool) (autoDetect : Option Bool) (port : Option Int) :
    ProxyWininetState :=
  let server := serverOfRaw raw
  let pac := textOf (firstKey raw
    ["auto_config_url", "AutoConfigURL", "wininet_auto_config_url"])
  let parsed := parseProxyServer server
  { proxyEnable := enable
    proxyServer := server
    autoConfigUrl := pac
    autoDetect := autoDetect
    proxyOverride := textOf (firstKey raw
      ["proxy_override", "ProxyOverride", "wininet_proxy_override"])
    parsedHost := if parsed.isLocalhostProxy then parsed.localhostHost else none
    parsedPort := port
    proxyMode := modeOf parsed enable server pac autoDetect port
    winhttpDirectAccess := match firstKey raw ["winhttp_direct_access"] with
      | .none => none
      | v => some v.truthy }

/-- `normalize_proxy_state`. -/
def normalizeProxyState (raw : Option Dict) : Except PyError ProxyWininetState := do
  let raw := raw.getD []
  let enable ← flagOf (firstKey raw ["proxy_enable", "ProxyEnable", "wininet_proxy_enabled"])
  let autoDetect ← flagOf (firstKey raw ["auto_detect", "AutoDetect"])
  let port ← resolvePort raw (parseProxyServer (serverOfRaw raw))
  return stateOf raw (enable.getD false) autoDetect port

theorem toInt_error {v : Value} {e : PyError} (h : v.toInt = .error e) :
    e = .type ∨ e = .value ∨ e = .overflow := by
  unfold Value.toInt at h
  split at h
  case h_6 =>
    split at h
    · exact absurd h (by simp)
    · exact .inr (.inl (Except.error.inj h).symm)
  all_goals cases h
  all_goals simp

theorem tryInt_error {v : Value} {e : PyError} (h : tryInt v = .error e) : e = .overflow := by
  unfold tryInt at h
  split at h
  · exact absurd h (by simp)
  · exact absurd h (by simp)
  · exact absurd h (by simp)
  · rename_i htype hvalue hint
    obtain rfl := Except.error.inj h
    rcases toInt_error hint with rfl | rfl | rfl
    · exact absurd rfl htype
    · exact absurd rfl hvalue
    · rfl

theorem flagOf_error {v : Value} {e : PyError} (h : flagOf v = .error e) : e = .overflow := by
  unfold flagOf at h
  split at h
  · exact absurd h (by simp)
  · exact absurd h (by simp)
  · cases hint : tryInt v with
    | error e' =>
      rw [hint] at h
      obtain rfl := Except.error.inj h
      exact tryInt_error hint
    | ok n =>
      rw [hint] at h
      cases n <;> exact absurd h (by simp [bind, Except.bind, pure, Except.pure])

theorem resolvePort_error {raw : Dict} {parsed : ParsedProxy} {e : PyError}
    (h : resolvePort raw parsed = .error e) : e = .overflow := by
  unfold resolvePort at h
  split at h
  · exact absurd h (by simp)
  · exact tryInt_error h

/-- The normalizer raises nothing but `OverflowError`. -/
theorem normalizeProxyState_error {raw : Option Dict} {e : PyError}
    (h : normalizeProxyState raw = .error e) : e = .overflow := by
  simp only [normalizeProxyState, bind, Except.bind] at h
  split at h
  · obtain rfl := Except.error.inj h
    exact flagOf_error ‹_›
  · split at h
    · obtain rfl := Except.error.inj h
      exact flagOf_error ‹_›
    · split at h
      · obtain rfl := Except.error.inj h
        exact resolvePort_error ‹_›
      · exact absurd h (by simp [pure, Except.pure])

/-- `states_equal`. -/
def statesEqual (a b : ProxyWininetState) : Bool :=
  a.proxyEnable == b.proxyEnable && a.proxyServer == b.proxyServer &&
    a.autoConfigUrl == b.autoConfigUrl && a.autoDetect == b.autoDetect &&
    a.proxyOverride == b.proxyOverride

/-! ## Transitions -/

/-- The ladder of `classify_transition`, on normalized states. -/
def classifyStates (before after : ProxyWininetState) (winhttpMismatch : Option Bool) :
    TransitionClass :=
  let serverRemoved := !serverEmpty before.proxyServer && serverEmpty after.proxyServer
  let enableOff := before.proxyEnable && !after.proxyEnable
  let enableOn := !before.proxyEnable && after.proxyEnable
  let pacAdded := serverEmpty before.autoConfigUrl && !serverEmpty after.autoConfigUrl
  let pacRemoved := !serverEmpty before.autoConfigUrl && serverEmpty after.autoConfigUrl
  let pacChanged := !serverEmpty before.autoConfigUrl && !serverEmpty after.autoConfigUrl &&
    before.autoConfigUrl != after.autoConfigUrl
  let autodetectOn := before.autoDetect != some true && after.autoDetect == some true
  let beforeLocalhost := before.proxyMode == .localhostProxy
  let afterRemote := after.proxyMode == .remoteProxy
  let localhostToRemote := beforeLocalhost && afterRemote && !serverEmpty after.proxyServer
  let mismatch := match winhttpMismatch with
    | some b => b
    | none => after.winhttpDirectAccess.any fun direct => after.proxyEnable && direct
  if statesEqual before after then .noChange
  else if enableOff && serverRemoved then .proxyDisabledAndServerRemoved
  else if serverRemoved && after.proxyEnable then .proxyServerRemovedPartial
  else if serverRemoved && !after.proxyEnable then .proxyServerRemoved
  else if enableOff then .proxyDisabled
  else if mismatch && after.proxyEnable then .wininetWinhttpMismatch
  else if after.proxyEnable && serverEmpty after.proxyServer && !truthyText after.autoConfigUrl then
    .proxyEnabledWithNoServer
  else if after.proxyEnable && after.proxyMode == .inconsistent then .proxyEnabledWithNoServer
  else if pacRemoved then .pacRemoved
  else if pacAdded || pacChanged then .pacConfigured
  else if autodetectOn then .autodetectEnabled
  else if before.proxyMode == .localhostProxy && after.proxyMode == .localhostProxy &&
      before.parsedPort != after.parsedPort && before.parsedPort.isSome &&
      after.parsedPort.isSome then .localhostProxyPortChanged
  else if enableOn && after.proxyMode == .localhostProxy then .localhostProxyEnabled
  else if localhostToRemote then .proxyServerChangedToRemote
  else if after.proxyEnable && !serverEmpty after.proxyServer && after.proxyMode == .remoteProxy then
    .remoteOrNonLoopbackProxyConfigured
  else if after.proxyMode == .pacConfigured && !(pacAdded || pacChanged) then .pacConfigured
  else .errorInsufficientData

/-- `classify_transition`. -/
def classifyTransition (before after : Option Dict) (winhttpMismatch : Option Bool) :
    Except PyError TransitionClass :=
  match before, after with
  | some before, some after => do
    let before ← normalizeProxyState (some before)
    let after ← normalizeProxyState (some after)
    return classifyStates before after winhttpMismatch
  | _, _ => .ok .errorInsufficientData

end StateMachine
