import NetworkRecovery.Guard.Evaluation
import NetworkRecovery.Lib.Interaction

/-!
# The machine the repair runs on

The repair tools of `proxy_drift` see Windows through commands: `reg query`
and `reg add`, one value at a time, the `winreg` calls on the Connections key,
a TCP connect, `netstat`, an HTTPS probe. Each is a `Request` here, and each
takes one tick of the clock.

Other programs write the registry too. `Tick.writes` are their writes between
the previous request and this one; any number of them fits there, and since
the tool touches the registry through requests alone, every interleaving of
the tool with its rivals is some `Nat → Tick`. `calm` is the machine on which
nobody else writes and every query is answered: there the tool sees the state
it started from, changed by itself alone.
-/

namespace ProxyDrift

open Python Interaction
open ProxyGuard (ProxyRegistrySnapshot ParsedProxy)

/-! ## Registry values -/

/-- The five values under `Internet Settings`. -/
inductive ValueName where
  | proxyEnable
  | proxyServer
  | autoConfigUrl
  | autoDetect
  | proxyOverride
  deriving DecidableEq

def ValueName.text : ValueName → String
  | .proxyEnable => "ProxyEnable"
  | .proxyServer => "ProxyServer"
  | .autoConfigUrl => "AutoConfigURL"
  | .autoDetect => "AutoDetect"
  | .proxyOverride => "ProxyOverride"

/-- `REG_DWORD` or `REG_SZ`. -/
abbrev ValueName.Content : ValueName → Type
  | .proxyEnable | .autoDetect => Int
  | .proxyServer | .autoConfigUrl | .proxyOverride => String

def valueOf (reg : ProxyRegistrySnapshot) : (name : ValueName) → Option name.Content
  | .proxyEnable => reg.proxyEnable
  | .proxyServer => reg.proxyServer
  | .autoConfigUrl => reg.autoConfigUrl
  | .autoDetect => reg.autoDetect
  | .proxyOverride => reg.proxyOverride

def setValue (reg : ProxyRegistrySnapshot) :
    (name : ValueName) → Option name.Content → ProxyRegistrySnapshot
  | .proxyEnable, v => { reg with proxyEnable := v }
  | .proxyServer, v => { reg with proxyServer := v }
  | .autoConfigUrl, v => { reg with autoConfigUrl := v }
  | .autoDetect, v => { reg with autoDetect := v }
  | .proxyOverride, v => { reg with proxyOverride := v }

/-- The two values of the Connections key that hold the proxy once more. -/
inductive ConnectionValue where
  | defaultConnectionSettings
  | savedLegacySettings
  deriving DecidableEq

def ConnectionValue.text : ConnectionValue → String
  | .defaultConnectionSettings => "DefaultConnectionSettings"
  | .savedLegacySettings => "SavedLegacySettings"

/-- A value with its bytes; `isBinary` is `value_type == REG_BINARY`. -/
structure ConnectionData where
  isBinary : Bool
  bytes : List UInt8
  deriving DecidableEq

/-! ## Commands -/

/-- `INTERNET_SETTINGS_KEY`. -/
def internetSettingsKey : String :=
  "HKCU\\Software\\Microsoft\\Windows\\CurrentVersion\\Internet Settings"

/-- What a `ProxyDisableMutation` of the fix asks `reg.exe` for. -/
inductive RegCommand where
  | disableProxy
  | delete (name : ValueName)
  deriving DecidableEq

def RegCommand.argv : RegCommand → List String
  | .disableProxy =>
    ["reg", "add", internetSettingsKey, "/v", "ProxyEnable", "/t", "REG_DWORD", "/d", "0", "/f"]
  | .delete name => ["reg", "delete", internetSettingsKey, "/v", name.text, "/f"]

def RegCommand.human : RegCommand → String
  | .disableProxy =>
    "reg add \"" ++ internetSettingsKey ++ "\" /v ProxyEnable /t REG_DWORD /d 0 /f"
  | .delete name => "reg delete \"" ++ internetSettingsKey ++ "\" /v " ++ name.text ++ " /f"

/-- What the command does to the registry when it succeeds. -/
def RegCommand.perform (reg : ProxyRegistrySnapshot) : RegCommand → ProxyRegistrySnapshot
  | .disableProxy => setValue reg .proxyEnable (some (0 : Int))
  | .delete name => setValue reg name none

/-- What came of a `subprocess.run`: a process that ended, or an `OSError` or
`TimeoutExpired`. -/
inductive CommandResult where
  | exited (returncode : Int) (stdout stderr : String)
  | raised (error : String)
  deriving DecidableEq

def CommandResult.succeeded : CommandResult → Bool
  | .exited code _ _ => code == 0
  | .raised _ => false

/-! ## Reports -/

/-- The labels of `classify_proxy_drift`, and `DEAD_PROXY_CONFIG`, which it does
not give and `auto_fix.py` knows. -/
inductive DriftLabel where
  | pacConfigured
  | noProxy
  | insufficientEvidence
  | brokenLocalhostProxy
  | knownVpnProxy
  | knownDevProxy
  | localProxyActive
  | staleProxyAfterProcessExit
  | staleLocalhostProxy
  | unknownLocalProxy
  | winhttpWininetMismatch
  | deadProxyConfig
  deriving DecidableEq

/-- The part of a snapshot that goes into a report. -/
structure ProxyFields where
  proxyEnable : Option Int
  proxyServer : Option String
  autoConfigUrl : Option String
  deriving DecidableEq

def ProxyFields.of (reg : ProxyRegistrySnapshot) : ProxyFields :=
  ⟨reg.proxyEnable, reg.proxyServer, reg.autoConfigUrl⟩

inductive BlobAction where
  | cleared
  | unchanged
  | failed
  deriving DecidableEq

/-- The report of `clear_wininet_connection_proxy_blob`. -/
structure BlobResult where
  clearedValues : List String
  errors : List String
  actionTaken : BlobAction
  deriving DecidableEq

/-- The report of `apply_proxy_fix`. -/
structure FixPayload where
  dryRun : Bool
  plannedChanges : List String
  before : ProxyFields
  limitations : List String
  actionAllowed : Bool
  reason : String
  connectionSettingsBlob : Option BlobResult := none
  after : Option ProxyFields := none
  deriving DecidableEq

/-- What `_listener_fingerprint` found out. -/
structure Fingerprint where
  listenerPid : Option Int := none
  localhostPort : Option Int := none
  listenerName : Option String := none

inductive ActionTaken where
  | none
  | previewOnly
  | blocked
  | remediated
  deriving DecidableEq

/-- The report of `run_dead_proxy_guardian_once`. -/
structure GuardianResult where
  dryRun : Bool
  classification : DriftLabel
  deadLocalhostProxy : Bool
  brokenLocalhostProxy : Bool
  holdDirect : Bool
  holdDirectHit : Bool
  clearBroken : Bool
  proxyEnable : Option Int
  proxyServer : Option String
  localhostPort : Option Int
  listenerFound : Bool
  proxyProbeOk : Option Bool
  directProbeOk : Option Bool
  proxyStatus : Option Value
  actionTaken : ActionTaken
  recommendedAction : String
  limitations : List String
  fingerprint : Fingerprint
  reason : String
  confirmationRequired : Option String := none
  remediation : Option FixPayload := none
  clearedBrokenLocalhost : Bool := false
  clearedHoldDirect : Bool := false

/-! ## Requests -/

/-- What `check_localhost_proxy_health` reports. -/
structure ProxyHealth where
  proxyProbeOk : Bool
  directProbeOk : Bool
  proxyStatus : String
  tcpConnectOk : Bool

/-- What a PowerShell script left behind. -/
structure ScriptRun where
  returncode : Int
  stdout : String
  stderr : String

/-- The four artifacts `observability_install_status` looks for. -/
structure ObservabilityProbe where
  guardianHook : Bool := false
  bootHook : Bool := false
  guardianTask : Bool := false
  bootTask : Bool := false

/-- One call to the machine. -/
inductive Request where
  /-- `reg query … /v name`. -/
  | query (name : ValueName)
  | reg (command : RegCommand)
  | openConnections
  | queryConnection (name : ConnectionValue)
  | setConnection (name : ConnectionValue) (bytes : List UInt8)
  /-- `socket.create_connection(("127.0.0.1", port))`. -/
  | connect (port : Int)
  | netstat
  | tasklist (pid : Int)
  /-- `check_localhost_proxy_health("127.0.0.1", port)`. -/
  | proxyHealth (port : Int)
  /-- A PowerShell script of the repository, with its arguments. -/
  | script (name : String) (args : List String)
  | observability
  | installObservability (interval : Int)
  /-- `collect_wifi_dns_snapshot`. -/
  | dns
  /-- One row of the guardian's log. -/
  | guardianRow (event : String) (row : GuardianResult)
  /-- A custody event of `apply_proxy_fix`. -/
  | fixCustody (event : String) (payload : FixPayload) (confirmationSupplied : Bool)
  /-- The custody event of `run_ensure_proxy_health`. -/
  | ensureCustody (event : String)
  /-- Not a command: marks a call of `apply_proxy_fix` in the trace. -/
  | proxyFix (dryRun : Bool)

abbrev Answer : Request → Type
  | .query name => Option name.Content
  | .reg _ => CommandResult
  | .openConnections | .setConnection _ _ => Except String Unit
  | .queryConnection _ => Option ConnectionData
  | .connect _ => Bool
  | .netstat | .tasklist _ => Option String
  | .proxyHealth _ => Option ProxyHealth
  | .script _ _ => Option ScriptRun
  | .observability => ObservabilityProbe
  | .installObservability _ => Dict
  | .dns => Dict
  | .guardianRow _ _ | .fixCustody _ _ _ | .ensureCustody _ | .proxyFix _ => Unit

/-- The requests that change the proxy of the machine, and the call that leads
to them. -/
def Request.mutates : Request → Bool
  | .reg _ | .setConnection _ _ => true
  | .proxyFix dryRun => !dryRun
  | _ => false

/-- A request that leaves the proxy alone. -/
def Harmless (r : Request) : Prop := r.mutates = false

/-- The requests that only look at the machine. -/
def Request.looks : Request → Bool
  | .query _ | .openConnections | .queryConnection _ | .connect _ | .netstat | .tasklist _
  | .proxyHealth _ => true
  | _ => false

/-- A request that only looks. -/
def Looks (r : Request) : Prop := r.looks = true

/-! ## Worlds -/

structure World where
  registry : ProxyRegistrySnapshot
  connections : ConnectionValue → Option ConnectionData := fun _ => none
  clock : Nat := 0

/-- A write by another program. -/
inductive Write where
  | value (name : ValueName) (content : Option name.Content)
  | connection (name : ConnectionValue) (data : Option ConnectionData)

def World.write (w : World) : Write → World
  | .value name content => { w with registry := setValue w.registry name content }
  | .connection name data => { w with connections := Function.update w.connections name data }

/-- What the machine answers at one tick, whatever the request is. -/
structure Probe where
  command : CommandResult := .exited 0 "" ""
  connection : Except String Unit := .ok ()
  listening : Bool := false
  netstat : Option String := none
  tasklist : Option String := none
  /-- `none` when the module with the probe cannot be imported. -/
  proxyHealth : Option ProxyHealth := none
  /-- `none` when the script is not there. -/
  script : Option ScriptRun := none
  observability : ObservabilityProbe := {}
  installed : Dict := []
  dns : Dict := []

/-- A tick of a machine that others write to, and whose queries may fail. -/
structure Tick extends Probe where
  writes : List Write := []
  answered : Bool := true

/-- The machine nobody else writes to. -/
def calm (probes : Nat → Probe) (n : Nat) : Tick := { toProbe := probes n }

/-- The clock goes on, and the others write. -/
def World.pass (w : World) (t : Tick) : World :=
  { t.writes.foldl World.write w with clock := w.clock + 1 }

/-- The world `n` ticks later, if the tool itself writes nothing. -/
def World.later (env : Nat → Tick) (w : World) : Nat → World
  | 0 => w
  | n + 1 => (w.later env n).pass (env (w.clock + n))

/-- What a query finds `n` ticks from now, if the tool itself writes nothing
until then. -/
def World.seen (env : Nat → Tick) (w : World) (n : Nat) (name : ValueName) :
    Option name.Content :=
  if (env (w.clock + n)).answered then valueOf (w.later env (n + 1)).registry name else none

def answer (env : Nat → Tick) (w : World) (r : Request) : Answer r × World :=
  let t := env w.clock
  let w := w.pass t
  match r with
  | .query name => (if t.answered then valueOf w.registry name else none, w)
  | .reg command =>
    (t.command,
      if t.command.succeeded then { w with registry := command.perform w.registry } else w)
  | .openConnections => (t.connection, w)
  | .queryConnection name => (w.connections name, w)
  | .setConnection name bytes =>
    (t.connection,
      match t.connection with
      | .ok () => w.write (.connection name (some ⟨true, bytes⟩))
      | .error _ => w)
  | .connect _ => (t.listening, w)
  | .netstat => (t.netstat, w)
  | .tasklist _ => (t.tasklist, w)
  | .proxyHealth _ => (t.proxyHealth, w)
  | .script _ _ => (t.script, w)
  | .observability => (t.observability, w)
  | .installObservability _ => (t.installed, w)
  | .dns => (t.dns, w)
  | .guardianRow _ _ | .fixCustody _ _ _ | .ensureCustody _ | .proxyFix _ => ((), w)

/-- A repair tool. -/
abbrev Repair := Prog Answer

/-- One request of a repair tool. -/
def call (r : Request) : Repair (Answer r) := request r

/-- The run of a repair tool on a machine. -/
abbrev runOn {α : Type} (env : Nat → Tick) (p : Repair α) (w : World) : Outcome Answer World α :=
  exec (answer env) p w

/-- The run reaches the mutation path. -/
def Mutates (trace : List (Event Answer)) : Prop := ∃ e ∈ trace, e.1.mutates = true

/-- In the run, `ProxyEnable` is set to 0. -/
def DisablesProxy (trace : List (Event Answer)) : Prop :=
  ∃ result : CommandResult, result.succeeded = true ∧ ⟨.reg .disableProxy, result⟩ ∈ trace

/-! ## What the tool's requests do to the world -/

theorem Looks.harmless {r : Request} (h : Looks r) : Harmless r := by
  cases r <;> first | rfl | exact absurd h (by simp [Looks, Request.looks])

theorem Harmless.call {r : Request} (h : Harmless r) : Asks Harmless (call r) := Asks.request h

theorem answer_calm_registry {probes : Nat → Probe} (w : World) {r : Request} (h : Harmless r) :
    (answer (calm probes) w r).2.registry = w.registry := by
  cases r with
  | reg command => exact absurd h (by simp [Harmless, Request.mutates])
  | setConnection name bytes => exact absurd h (by simp [Harmless, Request.mutates])
  | _ => rfl

/-- From a calm machine with this registry the program changes nothing and
returns a value in `Q`. -/
abbrev Spares {α : Type} (probes : Nat → Probe) (reg : ProxyRegistrySnapshot) (p : Repair α)
    (Q : α → Prop) : Prop :=
  Within (answer (calm probes)) (fun w => w.registry = reg) Harmless p Q

theorem Harmless.spares {α : Type} (probes : Nat → Probe) (reg : ProxyRegistrySnapshot)
    {p : Repair α} (hp : Asks Harmless p) : Spares probes reg p fun _ => True := by
  refine Within.of_asks ?_ hp
  intro w r hr hw
  rw [answer_calm_registry w hr, hw]

/-- A harmless program leaves a calm machine's registry as it was. -/
theorem Harmless.registry {α : Type} (probes : Nat → Probe) {p : Repair α} (hp : Asks Harmless p)
    (w : World) : (runOn (calm probes) p w).state.registry = w.registry :=
  (Harmless.spares probes w.registry hp w rfl).2.1

theorem not_mutates_of_spares {α : Type} {probes : Nat → Probe} {w : World} {p : Repair α}
    {Q : α → Prop} (hp : Spares probes w.registry p Q) :
    ¬ Mutates (runOn (calm probes) p w).trace := by
  rintro ⟨e, he, hmut⟩
  have hharmless : Harmless e.1 := (hp w rfl).1 e he
  rw [Harmless, hmut] at hharmless
  cases hharmless

theorem mutates_append {t t' : List (Event Answer)} :
    Mutates (t ++ t') ↔ Mutates t ∨ Mutates t' := by
  simp only [Mutates, List.mem_append, or_and_right, exists_or]

theorem disablesProxy_append {t t' : List (Event Answer)} :
    DisablesProxy (t ++ t') ↔ DisablesProxy t ∨ DisablesProxy t' := by
  simp only [DisablesProxy, List.mem_append, and_or_left, exists_or]

end ProxyDrift
