import NetworkRecovery.Proxy.Evidence

/-!
# Live snapshots

`LiveNetworkSnapshot` of `core/models.py` and the way back from what it writes,
`live_network_snapshot_from_observations` of `audit/replay.py`. The two were
written apart: the one lays a nested record out as a dictionary, the other takes
any dictionary and fills in a default where a key is missing.

A field that the reader converts (`bool`, `int`, `str`) has its type here; a
field that it passes on holds any value, as it does in the program. Whatever
the snapshot, what it writes is read as the snapshot, but for the commands,
which come back with their two keys in one order (`fromObservations_toDict`).
-/

namespace Live

open Python
open StateMachine (optionalBool)

/-- What the reader of a record can raise. -/
inductive Failure where
  /-- `KeyError` -/
  | key (k : String)
  | raised (e : PyError)

/-- A computation of the language inside one that may also miss a key. -/
def lift {α : Type} : Except PyError α → Except Failure α
  | .ok a => .ok a
  | .error e => .error (.raised e)

theorem ok_bind {ε α β : Type} (a : α) (f : α → Except ε β) : (Except.ok a >>= f) = f a := rfl

/-- `d[k]`. -/
def getItem (d : Dict) (k : String) : Except Failure Value :=
  match d.get? k with
  | some v => .ok v
  | none => .error (.key k)

/-- A value whose `get` is called: only a dictionary has one. -/
def asDict : Value → Except Failure Dict
  | .dict d => .ok d
  | _ => .error (.raised .attribute)

/-- `bool(d.get(k, default))`. -/
def getBool (d : Dict) (k : String) (default : Bool) : Bool :=
  ((d.get? k).getD (.bool default)).truthy

/-- `int(d.get(k, 0))`. -/
def getInt (d : Dict) (k : String) : Except Failure Int := lift ((d.get? k).getD (.int 0)).toInt

/-- `d.get(k) or []`, run through. -/
def getItems (d : Dict) (k : String) : Except Failure (List Value) :=
  lift (orElse (d.get? k) (.list [])).items

/-! ## The parts -/

structure FeatureVector where
  pingIpOk : Bool
  pingDomainOk : Bool
  nslookupOk : Bool
  tcp443Ok : Bool
  browserHttpOk : Bool
  proxyEnabled : Bool
  winhttpProxyEnabled : Bool
  dnsServersDetected : Int
  adapterConnected : Bool
  gatewayReachable : Option Bool
  tlsCertIssueDetected : Bool
  firewallPathSuspected : Bool
  timeWaitCount : Int
  establishedCount : Int

/-- `FeatureVector.to_dict`. -/
def FeatureVector.toDict (fv : FeatureVector) : Dict :=
  [("ping_ip_ok", .bool fv.pingIpOk),
    ("ping_domain_ok", .bool fv.pingDomainOk),
    ("nslookup_ok", .bool fv.nslookupOk),
    ("tcp_443_ok", .bool fv.tcp443Ok),
    ("browser_http_ok", .bool fv.browserHttpOk),
    ("proxy_enabled", .bool fv.proxyEnabled),
    ("winhttp_proxy_enabled", .bool fv.winhttpProxyEnabled),
    ("dns_servers_detected", .int fv.dnsServersDetected),
    ("adapter_connected", .bool fv.adapterConnected),
    ("gateway_reachable", optionalBool fv.gatewayReachable),
    ("tls_cert_issue_detected", .bool fv.tlsCertIssueDetected),
    ("firewall_path_suspected", .bool fv.firewallPathSuspected),
    ("time_wait_count", .int fv.timeWaitCount),
    ("established_count", .int fv.establishedCount)]

/-- `FeatureVector.from_dict`. -/
def FeatureVector.fromDict (data : Dict) : Except Failure FeatureVector := do
  let pingIpOk ← getItem data "ping_ip_ok"
  let nslookupOk ← getItem data "nslookup_ok"
  let browserHttpOk ← getItem data "browser_http_ok"
  let dnsServersDetected ← getInt data "dns_servers_detected"
  let timeWaitCount ← getInt data "time_wait_count"
  let establishedCount ← getInt data "established_count"
  return {
    pingIpOk := pingIpOk.truthy
    pingDomainOk := getBool data "ping_domain_ok" false
    nslookupOk := nslookupOk.truthy
    tcp443Ok := getBool data "tcp_443_ok" false
    browserHttpOk := browserHttpOk.truthy
    proxyEnabled := getBool data "proxy_enabled" false
    winhttpProxyEnabled := getBool data "winhttp_proxy_enabled" false
    dnsServersDetected
    adapterConnected := getBool data "adapter_connected" true
    gatewayReachable := match Dict.fetch data "gateway_reachable" with
      | .none => none
      | gw => some gw.truthy
    tlsCertIssueDetected := getBool data "tls_cert_issue_detected" false
    firewallPathSuspected := getBool data "firewall_path_suspected" false
    timeWaitCount
    establishedCount }

theorem FeatureVector.fromDict_toDict (fv : FeatureVector) : fromDict fv.toDict = .ok fv := by
  obtain ⟨_, _, _, _, _, _, _, _, _, gw, _, _, _, _⟩ := fv
  cases gw with
  | none => rfl
  | some b => rfl

/-- `ProxyRegistrySnapshot`: nothing the reader takes from a record is checked. -/
structure ProxyRegistry where
  proxyEnable : Value
  proxyServer : Value
  autoConfigUrl : Value
  autoDetect : Value
  proxyOverride : Value

/-- `proxy_enable == 1`. -/
def ProxyRegistry.isEnabled (reg : ProxyRegistry) : Bool := reg.proxyEnable.pyEq (.int 1)

/-- `ProxyRegistrySnapshot.to_dict`. -/
def ProxyRegistry.toDict (reg : ProxyRegistry) : Dict :=
  [("proxy_enable", reg.proxyEnable),
    ("proxy_server", reg.proxyServer),
    ("auto_config_url", reg.autoConfigUrl),
    ("auto_detect", reg.autoDetect),
    ("proxy_override", reg.proxyOverride),
    ("is_enabled", .bool reg.isEnabled)]

def ProxyRegistry.fromDict (ur : Dict) : ProxyRegistry where
  proxyEnable := Dict.fetch ur "proxy_enable"
  proxyServer := Dict.fetch ur "proxy_server"
  autoConfigUrl := Dict.fetch ur "auto_config_url"
  autoDetect := Dict.fetch ur "auto_detect"
  proxyOverride := Dict.fetch ur "proxy_override"

theorem ProxyRegistry.fromDict_toDict (reg : ProxyRegistry) : fromDict reg.toDict = reg := rfl

def modes : List ProxyGuard.ProxyMode :=
  [.missing, .malformed, .disabledServerField, .manualLocalhost, .manualExplicit, .socksLocalhost,
    .httpHttpsLocalhost, .multiSchemeExplicit]

/-- `_proxy_mode`. -/
def proxyMode (raw : Value) : ProxyGuard.ProxyMode :=
  match raw with
  | .str s => (modes.find? fun m => m.text = s).getD .missing
  | _ => .missing

theorem proxyMode_text (m : ProxyGuard.ProxyMode) : proxyMode (.str m.text) = m := by
  cases m <;> rfl

/-- `ParsedProxy` as the reader makes it. -/
structure ParsedProxy where
  raw : Value
  isMissing : Bool
  isMalformed : Bool
  isLocalhostProxy : Bool
  localhostHost : Value
  localhostPort : Value
  proxyMode : ProxyGuard.ProxyMode
  socksPort : Value
  httpLocalhostPort : Value
  httpsLocalhostPort : Value

/-- `ParsedProxy.to_dict`. -/
def ParsedProxy.toDict (parsed : ParsedProxy) : Dict :=
  [("raw", parsed.raw),
    ("is_missing", .bool parsed.isMissing),
    ("is_malformed", .bool parsed.isMalformed),
    ("is_localhost_proxy", .bool parsed.isLocalhostProxy),
    ("localhost_host", parsed.localhostHost),
    ("localhost_port", parsed.localhostPort),
    ("proxy_mode", .str (parsed.proxyMode.text)),
    ("socks_port", parsed.socksPort),
    ("http_localhost_port", parsed.httpLocalhostPort),
    ("https_localhost_port", parsed.httpsLocalhostPort)]

def ParsedProxy.fromDict (ppd : Dict) : ParsedProxy where
  raw := Dict.fetch ppd "raw"
  isMissing := getBool ppd "is_missing" false
  isMalformed := getBool ppd "is_malformed" false
  isLocalhostProxy := getBool ppd "is_localhost_proxy" false
  localhostHost := Dict.fetch ppd "localhost_host"
  localhostPort := Dict.fetch ppd "localhost_port"
  proxyMode := Live.proxyMode (Dict.fetch ppd "proxy_mode")
  socksPort := Dict.fetch ppd "socks_port"
  httpLocalhostPort := Dict.fetch ppd "http_localhost_port"
  httpsLocalhostPort := Dict.fetch ppd "https_localhost_port"

theorem ParsedProxy.fromDict_toDict (parsed : ParsedProxy) : fromDict parsed.toDict = parsed := by
  have hmode : (fromDict parsed.toDict).proxyMode = parsed.proxyMode := proxyMode_text _
  calc fromDict parsed.toDict
      = { parsed with proxyMode := (fromDict parsed.toDict).proxyMode } := rfl
    _ = parsed := by rw [hmode]

structure PortOwnerRecord where
  port : Int
  pid : Value
  processName : Value
  state : Value
  localAddress : Value
  parentPid : Value
  parentName : Value
  commandLine : Value
  executablePath : Value
  permissionLimited : Bool

/-- `PortOwnerRecord.to_dict`, behind the port. -/
def PortOwnerRecord.toDict (o : PortOwnerRecord) : Dict :=
  [("port", .int o.port),
    ("pid", o.pid),
    ("process_name", o.processName),
    ("state", o.state),
    ("local_address", o.localAddress),
    ("parent_pid", o.parentPid),
    ("parent_name", o.parentName),
    ("command_line", o.commandLine),
    ("executable_path", o.executablePath),
    ("permission_limited", .bool o.permissionLimited)]

/-- One round over the owners: a row without a port is passed over. -/
def PortOwnerRecord.ofRow : Value → Except Failure (Option PortOwnerRecord)
  | .dict row => match Dict.get? row "port" with
    | some port => do
      let port ← lift port.toInt
      return some {
        port
        pid := Dict.fetch row "pid"
        processName := Dict.fetch row "process_name"
        state := Dict.fetch row "state"
        localAddress := Dict.fetch row "local_address"
        parentPid := Dict.fetch row "parent_pid"
        parentName := Dict.fetch row "parent_name"
        commandLine := Dict.fetch row "command_line"
        executablePath := Dict.fetch row "executable_path"
        permissionLimited := getBool row "permission_limited" false }
    | none => return none
  | _ => return none

/-! ## The snapshot -/

structure LiveNetworkSnapshot where
  generatedAtUtc : String
  featureVector : FeatureVector
  proxyRegistry : ProxyRegistry
  parsedProxy : ParsedProxy
  portOwners : List PortOwnerRecord
  localhostListenPorts : List Int
  interestingProcesses : List Dict
  tcpTopPorts : List Dict
  commandsExecuted : List Dict
  permissionNotes : List String

/-- `LiveNetworkSnapshot.to_dict`. -/
def LiveNetworkSnapshot.toDict (s : LiveNetworkSnapshot) : Dict :=
  [("generated_at_utc", .str s.generatedAtUtc),
    ("feature_vector", .dict s.featureVector.toDict),
    ("user_proxy_registry", .dict s.proxyRegistry.toDict),
    ("parsed_proxy_server", .dict s.parsedProxy.toDict),
    ("combined_proxy_flags", .dict (s.proxyRegistry.toDict ++
      [("is_localhost_proxy", Value.bool s.parsedProxy.isLocalhostProxy),
        ("localhost_port", s.parsedProxy.localhostPort),
        ("proxy_mode", .str (s.parsedProxy.proxyMode.text))])),
    ("port_attribution", .dict
      [("owners", .list (s.portOwners.map fun o => .dict o.toDict))]),
    ("localhost_listen_ports", .list (s.localhostListenPorts.map .int)),
    ("interesting_processes", .list (s.interestingProcesses.map .dict)),
    ("tcp_top_ports_by_count", .list (s.tcpTopPorts.map .dict)),
    ("commands_executed", .list (s.commandsExecuted.map .dict)),
    ("permission_notes", textList s.permissionNotes)]

/-- The dictionaries among the values. -/
def dicts (values : List Value) : List Dict :=
  values.filterMap fun
    | .dict d => some d
    | _ => none

/-- `x is not None`. -/
def isSome : Value → Bool
  | .none => false
  | _ => true

/-- `{"label": str(r.get("label", "")), "cmd": str(r.get("cmd", ""))}`. -/
def commandRow (r : Dict) : Dict :=
  [("label", .str ((r.get? "label").getD (.str "")).toText),
    ("cmd", .str ((r.get? "cmd").getD (.str "")).toText)]

/-- `live_network_snapshot_from_observations`. -/
def fromObservations (blob : Dict) : Except Failure LiveNetworkSnapshot := do
  let fv ← FeatureVector.fromDict (← asDict (← getItem blob "feature_vector"))
  let ur ← asDict (← getItem blob "user_proxy_registry")
  let ppd ← asDict (← getItem blob "parsed_proxy_server")
  let attribution ← asDict ((blob.get? "port_attribution").getD (.dict []))
  let owners ← (← getItems attribution "owners").mapM PortOwnerRecord.ofRow
  let tcpTop ← getItems blob "tcp_top_ports_by_count"
  let interesting ← getItems blob "interesting_processes"
  let cmds ← getItems blob "commands_executed"
  let ports ← ((← getItems blob "localhost_listen_ports").filter isSome).mapM
    fun x => lift x.toInt
  let notes ← getItems blob "permission_notes"
  return {
    generatedAtUtc := (orElse (blob.get? "generated_at_utc") (.str "")).toText
    featureVector := fv
    proxyRegistry := .fromDict ur
    parsedProxy := .fromDict ppd
    portOwners := owners.reduceOption
    localhostListenPorts := ports
    interestingProcesses := dicts interesting
    tcpTopPorts := dicts tcpTop
    commandsExecuted := (dicts cmds).map commandRow
    permissionNotes := (notes.filter isSome).map Value.toText }

/-! ## The way back -/

/-- A list that was written is run through as it was. -/
theorem getItems_list {d : Dict} {k : String} {xs : List Value} (h : d.get? k = some (.list xs)) :
    getItems d k = .ok xs := by
  unfold getItems
  rw [h]
  cases xs with
  | nil => rfl
  | cons x xs => rfl

theorem dicts_map (ds : List Dict) : dicts (ds.map .dict) = ds := by
  induction ds with
  | nil => rfl
  | cons d ds ih =>
    unfold dicts at ih ⊢
    rw [List.map_cons, List.filterMap_cons, ih]

theorem PortOwnerRecord.ofRow_toDict (o : PortOwnerRecord) :
    ofRow (.dict o.toDict) = .ok (some o) := rfl

theorem mapM_ofRow (owners : List PortOwnerRecord) :
    (owners.map fun o => Value.dict o.toDict).mapM PortOwnerRecord.ofRow =
      .ok (owners.map some) := by
  induction owners with
  | nil => rfl
  | cons o owners ih =>
    rw [List.map_cons, List.mapM_cons, ih, PortOwnerRecord.ofRow_toDict]
    rfl

theorem reduceOption_map_some (owners : List PortOwnerRecord) :
    (owners.map some).reduceOption = owners := by
  unfold List.reduceOption
  rw [List.filterMap_map]
  exact List.filterMap_some

theorem mapM_toInt (ports : List Int) :
    ((ports.map Value.int).filter isSome).mapM (fun x => lift x.toInt) = .ok ports := by
  induction ports with
  | nil => rfl
  | cons n ports ih =>
    rw [List.map_cons, List.filter_cons_of_pos rfl, List.mapM_cons, ih]
    rfl

theorem map_toText (notes : List String) :
    ((notes.map Value.str).filter isSome).map Value.toText = notes := by
  induction notes with
  | nil => rfl
  | cons s notes ih => rw [List.map_cons, List.filter_cons_of_pos rfl, List.map_cons, ih]; rfl

/-- What a snapshot writes is read as the snapshot; of a command the reader keeps the label and
the text. -/
theorem fromObservations_toDict (s : LiveNetworkSnapshot) :
    fromObservations s.toDict =
      .ok { s with commandsExecuted := s.commandsExecuted.map commandRow } := by
  have hfv : getItem s.toDict "feature_vector" = .ok (.dict s.featureVector.toDict) := rfl
  have hur : getItem s.toDict "user_proxy_registry" = .ok (.dict s.proxyRegistry.toDict) := rfl
  have hppd : getItem s.toDict "parsed_proxy_server" = .ok (.dict s.parsedProxy.toDict) := rfl
  have hattribution : (s.toDict.get? "port_attribution").getD (.dict []) = .dict
      [("owners", .list (s.portOwners.map fun o => .dict o.toDict))] := rfl
  have howners : getItems [("owners", .list (s.portOwners.map fun o => .dict o.toDict))] "owners" =
      .ok (s.portOwners.map fun o => .dict o.toDict) := getItems_list rfl
  have htcp : getItems s.toDict "tcp_top_ports_by_count" = .ok (s.tcpTopPorts.map .dict) :=
    getItems_list rfl
  have hinteresting : getItems s.toDict "interesting_processes" =
      .ok (s.interestingProcesses.map .dict) := getItems_list rfl
  have hcmds : getItems s.toDict "commands_executed" = .ok (s.commandsExecuted.map .dict) :=
    getItems_list rfl
  have hports : getItems s.toDict "localhost_listen_ports" =
      .ok (s.localhostListenPorts.map .int) := getItems_list rfl
  have hnotes : getItems s.toDict "permission_notes" = .ok (s.permissionNotes.map .str) :=
    getItems_list rfl
  have hutc : (orElse (s.toDict.get? "generated_at_utc") (.str "")).toText = s.generatedAtUtc :=
    orElse_toText s.generatedAtUtc
  unfold fromObservations
  simp only [hfv, hur, hppd, hattribution, howners, htcp, hinteresting, hcmds, hports, hnotes, hutc,
    asDict, ok_bind, FeatureVector.fromDict_toDict, ProxyRegistry.fromDict_toDict,
    ParsedProxy.fromDict_toDict, mapM_ofRow, mapM_toInt, map_toText, dicts_map,
    reduceOption_map_some]
  rfl

/-- A command as the collectors write it: the two keys in some order. -/
def CommandRow (r : Dict) : Prop := ∃ label cmd, r.Perm [("label", .str label), ("cmd", .str cmd)]

/-- Equality of snapshots. Two commands with their keys in another order are equal in the
program. -/
def LiveNetworkSnapshot.Same (t s : LiveNetworkSnapshot) : Prop :=
  t = { s with commandsExecuted := t.commandsExecuted } ∧
    List.Forall₂ List.Perm t.commandsExecuted s.commandsExecuted

/-- Two entries stand in one of two orders. -/
theorem perm_pair {r : Dict} {a b : String × Value} (h : r.Perm [a, b]) :
    r = [a, b] ∨ r = [b, a] := by
  obtain ⟨x, y, rfl⟩ := List.length_eq_two.mp h.length_eq
  rcases List.mem_pair.mp (h.mem_iff.mp List.mem_cons_self) with rfl | rfl
  · left
    rw [List.perm_singleton.mp h.cons_inv]
  · right
    rw [List.perm_singleton.mp (h.trans (List.Perm.swap x a [])).cons_inv]

/-- The reader keeps a command that has no other keys. -/
theorem commandRow_perm {r : Dict} (h : CommandRow r) : (commandRow r).Perm r := by
  obtain ⟨label, cmd, hperm⟩ := h
  rcases perm_pair hperm with rfl | rfl
  · exact List.Perm.refl _
  · exact List.Perm.swap _ _ _

/-- A snapshot of such commands comes back as it was. -/
theorem fromObservations_same (s : LiveNetworkSnapshot)
    (hcommands : ∀ r ∈ s.commandsExecuted, CommandRow r) :
    ∃ t, fromObservations s.toDict = .ok t ∧ t.Same s := by
  refine ⟨_, fromObservations_toDict s, rfl, ?_⟩
  rw [List.forall₂_map_left_iff, List.forall₂_same]
  intro r hr
  exact commandRow_perm (hcommands r hr)

end Live
