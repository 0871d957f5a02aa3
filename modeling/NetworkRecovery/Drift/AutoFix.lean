import NetworkRecovery.Drift.Guardian

/-!
# The two automatic repairs

`run_auto_fix_proxy` of `auto_fix.py` and `run_ensure_proxy_health` of
`ensure_health.py`: look, let the guardian clear a dead local proxy, look
again, clear what is still dead, look again, and under prefer-direct clear a
local proxy that is alive.

The last step asks whether there IS a local proxy by asking whether
`localhost_port` is there, and a bare remote `host:port` has one too. So on a
machine nobody else writes to, a proxy that is not local is spared except in
one case: `repair_spares_remote_iff`.
-/

namespace ProxyDrift

open Python Interaction
open ProxyGuard (ProxyRegistrySnapshot ParsedProxy parseProxyServer)

/-! ## `read_proxy_drift_status` -/

structure DriftStatus where
  classification : DriftLabel
  legacyClassification : DriftLabel
  isDeadLocalhostProxy : Bool
  isBrokenLocalhostProxy : Bool
  proxyEnable : Option Int
  proxyServer : Option String
  localhostPort : Option Int
  listenerFound : Option Bool
  proxyProbeOk : Option Bool
  directProbeOk : Option Bool
  proxyStatus : Option Value
  pathProbe : Option Dict
  limitations : List String

/-- `_DEAD_CLASSIFICATIONS`. -/
def deadClassifications : List DriftLabel :=
  [.staleLocalhostProxy, .staleProxyAfterProcessExit, .deadProxyConfig]

/-- `_BROKEN_CLASSIFICATIONS`. -/
def brokenClassifications : List DriftLabel := [.brokenLocalhostProxy]

def legacyClassification (reg : ProxyRegistrySnapshot) (label : DriftLabel) : DriftLabel :=
  if !isEnabled reg.proxyEnable && !isText reg.proxyServer then .noProxy
  else
    match label with
    | .staleLocalhostProxy | .staleProxyAfterProcessExit | .brokenLocalhostProxy =>
      .deadProxyConfig
    | label => label

/-- The status, once the registry is read, the port tried and the path probed. -/
def driftStatus (reg : ProxyRegistrySnapshot) (listener : Option Bool) (path : Dict) :
    DriftStatus :=
  let classification := classifyProxyDrift
    { proxyEnable := reg.proxyEnable
      proxyServer := reg.proxyServer
      autoConfigUrl := reg.autoConfigUrl
      listenerFound := listener
      proxyProbeOk := boolField path "proxy_probe_ok"
      directProbeOk := boolField path "direct_probe_ok" }
  let label := classification.classification
  { classification := label
    legacyClassification := legacyClassification reg label
    isDeadLocalhostProxy := label ∈ deadClassifications
    isBrokenLocalhostProxy := label ∈ brokenClassifications
    proxyEnable := reg.proxyEnable
    proxyServer := reg.proxyServer
    localhostPort := (parseProxyServer reg.proxyServer).localhostPort
    listenerFound := listener
    proxyProbeOk := boolField path "proxy_probe_ok"
    directProbeOk := boolField path "direct_probe_ok"
    proxyStatus := path.get? "proxy_status"
    pathProbe := if path = [] then none else some path
    limitations := classification.limitations ++
      if (path.get? "probed").any Value.truthy then
        ["Path probe contrasts proxied HTTPS vs direct; success does not prove proxy safety or " ++
          "intent."]
      else [] }

/-- `_port_listening` of `auto_fix.py`. -/
def portState : Option Int → Repair (Option Bool)
  | none => return none
  | some port => do
    let listening ← call (.connect port)
    return some listening

/-- The path is probed where something listens. -/
def probePath (port : Option Int) (listener : Option Bool) (pathHealth : Option Dict)
    (skipPathProbe : Bool) : Repair Dict :=
  match listener, port with
  | some true, some port =>
    if skipPathProbe then return [] else assessLocalhostProxyPath port pathHealth
  | _, _ => return []

/-- `read_proxy_drift_status`. -/
def readProxyDriftStatus (pathHealth : Option Dict) (skipPathProbe : Bool) :
    Repair DriftStatus := do
  let reg ← readProxyRegistry
  let port := (parseProxyServer reg.proxyServer).localhostPort
  let listener ← portState port
  let path ← probePath port listener pathHealth skipPathProbe
  return driftStatus reg listener path

/-- `int(status["proxy_enable"] or 0) == 1 and status["localhost_port"] is not None`:
the test both repairs take for "there is a local proxy". -/
def DriftStatus.localhostEnabled (status : DriftStatus) : Bool :=
  isEnabled status.proxyEnable && status.localhostPort.isSome

/-! ## Prefer-direct -/

/-- The arguments the two repairs share. -/
structure RepairFlags where
  dryRun : Bool := false
  preferDirect : Bool := false
  confirm : String := ""
  skipCursorFix : Bool := false
  guardianIntervalSeconds : Int := 15

inductive PreferResult where
  | held (action : ActionTaken) (reason : String) (proxyServer : Option String)
      (classification : DriftLabel)
  | applied (fix : FixPayload) (clearedBrokenLocalhost : Bool)

def PreferResult.blocked : PreferResult → Bool
  | .held .blocked _ _ _ => true
  | _ => false

/-- `_prefer_direct_clear`. -/
def preferDirectClear (dryRun : Bool) (confirm confirmToken : String) (status : DriftStatus)
    (reasonPreview : String) : Repair PreferResult :=
  if dryRun then
    return .held .previewOnly reasonPreview status.proxyServer status.classification
  else if confirm ≠ confirmToken then
    return .held .blocked ("Confirmation required: " ++ confirmToken) status.proxyServer
      status.classification
  else do
    let fix ← applyProxyFix false confirmationPhrase false
    return .applied fix status.isBrokenLocalhostProxy

/-- The prefer-direct step of both repairs; they differ in what they call a
proxy that is alive. -/
def preferStep (alive : String) (flags : RepairFlags) (status : DriftStatus) :
    Repair (Option PreferResult) :=
  if status.localhostEnabled && (flags.preferDirect || status.isBrokenLocalhostProxy) then do
    let what := if status.isBrokenLocalhostProxy then "active-but-broken localhost" else alive
    let result ← preferDirectClear flags.dryRun flags.confirm confirmPreferDirect status
      ("Would clear " ++ what ++ " WinINET proxy (confirm " ++ confirmPreferDirect ++ ").")
    return some result
  else return none

/-! ## `run_auto_fix_proxy` -/

inductive RepairOutcome where
  | wouldRemediate
  | stillDead
  | needsPreferDirectConfirm
  | localhostProxyBroken
  | localhostProxyActive
  | healthy
  deriving DecidableEq

/-- The verdict of both repairs on the final status. -/
def repairOutcome (flags : RepairFlags) (localhostEnabled preferBlocked : Bool)
    (final : DriftStatus) : RepairOutcome :=
  if final.isDeadLocalhostProxy then if flags.dryRun then .wouldRemediate else .stillDead
  else if final.isBrokenLocalhostProxy && preferBlocked then .needsPreferDirectConfirm
  else if final.isBrokenLocalhostProxy then
    if flags.dryRun then .wouldRemediate else .localhostProxyBroken
  else if flags.preferDirect && localhostEnabled && preferBlocked then .needsPreferDirectConfirm
  else if final.localhostEnabled then .localhostProxyActive
  else .healthy

/-- The report of a PowerShell script, its output cut to the last `keep`
characters. -/
inductive ScriptReport where
  | skipped (reason : String)
  | ran (returncode : Int) (stdout stderr : String)

def ScriptReport.of (missing : String) (keep : Nat) : Option ScriptRun → ScriptReport
  | none => .skipped missing
  | some run =>
    let tail (n : Nat) (s : String) : String := String.ofList ((strip s.toList).rtake n)
    .ran run.returncode (tail keep run.stdout) (tail 2000 run.stderr)

inductive AutoFixStep where
  | cursorNoProxy (report : ScriptReport)
  | statusBefore (status : DriftStatus)
  | proxyGuardian (result : GuardianResult)
  | statusAfterGuardian (status : DriftStatus)
  | proxyFixFallback (fix : FixPayload)
  | preferDirect (result : PreferResult)
  | statusFinal (status : DriftStatus)
  | guardianInstall (intervalSeconds : Int) (report : ScriptReport)

structure AutoFixReport where
  dryRun : Bool
  preferDirect : Bool
  outcome : RepairOutcome
  classification : DriftLabel
  legacyClassification : DriftLabel
  isBrokenLocalhostProxy : Bool
  proxyProbeOk : Option Bool
  directProbeOk : Option Bool
  steps : List AutoFixStep
  limitations : List String

/-- What a repair returns; it runs on Windows alone. -/
inductive RepairResult (Report : Type) where
  | unsupported (platform : String)
  | report (r : Report)

/-- `_run_cursor_no_proxy_script`, unless skipped. -/
def cursorStep (flags : RepairFlags) : Repair (List AutoFixStep) :=
  if !flags.skipCursorFix && !flags.dryRun then do
    let run ← call (.script "configure-cursor-no-proxy.ps1" [])
    return [.cursorNoProxy (.of "script missing" 2000 run)]
  else return []

/-- The fix for what the guardian has left dead. -/
def deadFallback (flags : RepairFlags) (afterGuardian : DriftStatus) : Repair (List AutoFixStep) :=
  if afterGuardian.isDeadLocalhostProxy && !flags.dryRun then do
    let fix ← applyProxyFix false confirmationPhrase false
    return [.proxyFixFallback fix]
  else return []

/-- `_install_guardian_loop`, unless skipped. -/
def installStep (skipGuardianInstall : Bool) (flags : RepairFlags) : Repair (List AutoFixStep) :=
  if !skipGuardianInstall && !flags.dryRun then do
    let interval := max 5 flags.guardianIntervalSeconds
    let run ← call (.script "install-dead-proxy-guardian.ps1"
      ["-IntervalSeconds", String.ofList (intText interval)])
    return [.guardianInstall interval (.of "installer missing" 3000 run)]
  else return []

/-- The repair up to its prefer-direct step: the steps so far and the status
`after_dead`. -/
def clearDeadProxy (flags : RepairFlags) : Repair (List AutoFixStep × DriftStatus) := do
  let cursor ← cursorStep flags
  let before ← readProxyDriftStatus none false
  let guardian ← runDeadProxyGuardianOnce
    { dryRun := flags.dryRun, confirm := if flags.dryRun then "" else confirmClearDead }
  let afterGuardian ← readProxyDriftStatus none false
  let fallback ← deadFallback flags afterGuardian
  let afterDead ← readProxyDriftStatus none false
  return (cursor ++ [.statusBefore before, .proxyGuardian guardian,
    .statusAfterGuardian afterGuardian] ++ fallback, afterDead)

def autoFixReport (flags : RepairFlags) (steps : List AutoFixStep) (afterDead : DriftStatus)
    (prefer : Option PreferResult) (final : DriftStatus) (install : List AutoFixStep) :
    AutoFixReport where
  dryRun := flags.dryRun
  preferDirect := flags.preferDirect
  outcome := repairOutcome flags afterDead.localhostEnabled (prefer.any (·.blocked)) final
  classification := final.classification
  legacyClassification := final.legacyClassification
  isBrokenLocalhostProxy := final.isBrokenLocalhostProxy
  proxyProbeOk := final.proxyProbeOk
  directProbeOk := final.directProbeOk
  steps := steps ++ prefer.toList.map .preferDirect ++ [.statusFinal final] ++ install
  limitations :=
    ["Default auto-fix clears dead localhost WinINET proxy only — not corporate proxy policy.",
      "Active-but-broken (listener up, proxy path fail, direct ok) clears with " ++
        "PREFER_DIRECT_WININET.",
      "prefer_direct also clears healthy active localhost proxies; may break intentional local " ++
        "tunnels.",
      "Listener correlation is not registry writer proof.",
      "Background guardian only remediates dead (no-listener) proxies — not broken-listener " ++
        "cases."]

/-- `run_auto_fix_proxy`. -/
def runAutoFixProxy (platform : String) (skipGuardianInstall : Bool) (flags : RepairFlags) :
    Repair (RepairResult AutoFixReport) :=
  if platform ≠ "Windows" then return .unsupported platform
  else do
    let (steps, afterDead) ← clearDeadProxy flags
    let prefer ← preferStep "active localhost" flags afterDead
    let final ← readProxyDriftStatus none false
    let install ← installStep skipGuardianInstall flags
    return .report (autoFixReport flags steps afterDead prefer final install)

/-! ## What the repair does to a proxy that is not local -/

theorem portState_harmless (port : Option Int) : Asks Harmless (portState port) := by
  cases port with
  | none => trivial
  | some port => exact ⟨rfl, fun _ => trivial⟩

theorem probePath_harmless (port : Option Int) (listener : Option Bool)
    (pathHealth : Option Dict) (skipPathProbe : Bool) :
    Asks Harmless (probePath port listener pathHealth skipPathProbe) := by
  unfold probePath
  split
  · split
    · trivial
    · exact assessLocalhostProxyPath_harmless _ _
  · trivial

theorem readProxyRegistry_spares (probes : Nat → Probe) (reg : ProxyRegistrySnapshot) :
    Spares probes reg readProxyRegistry (· = reg) := by
  rintro w rfl
  obtain ⟨htrace, hstate, -⟩ := Harmless.spares probes w.registry readProxyRegistry_harmless w rfl
  exact ⟨htrace, hstate, readProxyRegistry_calm probes w⟩

/-- The status of a calm machine is about the registry there is. -/
theorem readProxyDriftStatus_spares (probes : Nat → Probe) (reg : ProxyRegistrySnapshot)
    (pathHealth : Option Dict) (skipPathProbe : Bool) :
    Spares probes reg (readProxyDriftStatus pathHealth skipPathProbe)
      fun status => ∃ listener path, status = driftStatus reg listener path := by
  apply (readProxyRegistry_spares probes reg).bind
  rintro reg rfl
  apply (Harmless.spares probes reg (portState_harmless _)).bind
  intro listener _
  apply (Harmless.spares probes reg (probePath_harmless _ _ _ _)).bind
  intro path _
  exact Within.pure ⟨listener, path, rfl⟩

/-- A proxy that is not local is neither dead nor broken, whatever the probes
say. -/
theorem driftStatus_remote {reg : ProxyRegistrySnapshot}
    (hremote : (parseProxyServer reg.proxyServer).isLocalhostProxy = false)
    (listener : Option Bool) (path : Dict) :
    (driftStatus reg listener path).isDeadLocalhostProxy = false ∧
      (driftStatus reg listener path).isBrokenLocalhostProxy = false := by
  have hlabel : (driftStatus reg listener path).classification.local = false := by
    by_contra hlocal
    rw [Bool.not_eq_false] at hlocal
    have hparsed := classifyProxyDrift_local hlocal
    rw [hremote] at hparsed
    cases hparsed
  have hnone : ∀ labels : List DriftLabel, (∀ label ∈ labels, label.local = true) →
      (driftStatus reg listener path).classification ∉ labels := by
    intro labels hlocal hmem
    rw [hlocal _ hmem] at hlabel
    cases hlabel
  exact ⟨decide_eq_false (hnone _ (by decide)), decide_eq_false (hnone _ (by decide))⟩

/-- On a calm machine the guardian spares a proxy that is not local. -/
theorem guardian_spares (probes : Nat → Probe) {reg : ProxyRegistrySnapshot}
    (hremote : (parseProxyServer reg.proxyServer).isLocalhostProxy = false)
    (flags : GuardianFlags) :
    Spares probes reg (runDeadProxyGuardianOnce flags) fun _ => True := by
  have hlook : Spares probes reg (guardianLook flags) fun look => look.Sound ∧ look.reg = reg := by
    rintro w rfl
    obtain ⟨htrace, hstate, -⟩ :=
      Harmless.spares probes w.registry (guardianLook_harmless flags) w rfl
    exact ⟨htrace, hstate, guardianLook_sound _ flags w, guardianLook_reg _ flags w⟩
  apply hlook.bind
  rintro look ⟨hsound, rfl⟩
  have hclosed : ¬ flags.Gate look := by
    rintro ⟨-, hlocal, -⟩
    rw [Look.localhostEnabled, Look.parsed, hremote, Bool.and_false, Bool.false_and] at hlocal
    cases hlocal
  obtain ⟨event, row, hact, -⟩ := guardianAct_idle hsound hclosed
  rw [hact]
  exact Harmless.spares probes look.reg ⟨rfl, fun _ => trivial⟩

theorem cursorStep_harmless (flags : RepairFlags) : Asks Harmless (cursorStep flags) := by
  unfold cursorStep
  split
  · exact ⟨rfl, fun _ => trivial⟩
  · trivial

theorem installStep_harmless (skipGuardianInstall : Bool) (flags : RepairFlags) :
    Asks Harmless (installStep skipGuardianInstall flags) := by
  unfold installStep
  split
  · exact ⟨rfl, fun _ => trivial⟩
  · trivial

/-- Up to the prefer-direct step nothing happens to a proxy that is not local. -/
theorem clearDeadProxy_spares (probes : Nat → Probe) {reg : ProxyRegistrySnapshot}
    (hremote : (parseProxyServer reg.proxyServer).isLocalhostProxy = false)
    (flags : RepairFlags) :
    Spares probes reg (clearDeadProxy flags)
      fun result => ∃ listener path, result.2 = driftStatus reg listener path := by
  apply (Harmless.spares probes reg (cursorStep_harmless flags)).bind
  intro cursor _
  apply (readProxyDriftStatus_spares probes reg none false).bind
  intro before _
  apply (guardian_spares probes hremote _).bind
  intro guardian _
  apply (readProxyDriftStatus_spares probes reg none false).bind
  rintro afterGuardian ⟨listener, path, rfl⟩
  have hfallback : Asks Harmless (deadFallback flags (driftStatus reg listener path)) := by
    rw [deadFallback, (driftStatus_remote hremote listener path).1]
    trivial
  apply (Harmless.spares probes reg hfallback).bind
  intro fallback _
  apply (readProxyDriftStatus_spares probes reg none false).bind
  rintro afterDead ⟨listener, path, rfl⟩
  exact Within.pure ⟨listener, path, rfl⟩

/-- The case in which the repairs clear a proxy that is not local: prefer-direct
with its phrase, live, and an enabled bare `host:port`. -/
def ClearsRemote (platform : String) (flags : RepairFlags) (reg : ProxyRegistrySnapshot) : Prop :=
  platform = "Windows" ∧ flags.dryRun = false ∧ flags.preferDirect = true ∧
    flags.confirm = confirmPreferDirect ∧ reg.proxyEnable = some 1 ∧
    ProxyGuard.BareRemote reg.proxyServer

theorem localhostEnabled_remote {reg : ProxyRegistrySnapshot}
    (hremote : (parseProxyServer reg.proxyServer).isLocalhostProxy = false)
    (listener : Option Bool) (path : Dict) :
    (driftStatus reg listener path).localhostEnabled = true ↔
      reg.proxyEnable = some 1 ∧ ProxyGuard.BareRemote reg.proxyServer := by
  rw [DriftStatus.localhostEnabled, Bool.and_eq_true]
  exact and_congr (isEnabled_iff _) (ProxyGuard.localhostPort_of_not_localhost hremote)

theorem preferStep_harmless {reg : ProxyRegistrySnapshot}
    (hremote : (parseProxyServer reg.proxyServer).isLocalhostProxy = false) {flags : RepairFlags}
    (h : ¬ ClearsRemote "Windows" flags reg) (alive : String) (listener : Option Bool)
    (path : Dict) : Asks Harmless (preferStep alive flags (driftStatus reg listener path)) := by
  by_cases hstep : (driftStatus reg listener path).localhostEnabled = true ∧
      flags.preferDirect = true
  · obtain ⟨hlocal, hprefer⟩ := hstep
    obtain ⟨henabled, hbare⟩ := (localhostEnabled_remote hremote listener path).mp hlocal
    rw [preferStep, hlocal, hprefer, Bool.true_or, Bool.and_true, if_pos rfl]
    refine Asks.bind ?_ fun _ => trivial
    cases hdry : flags.dryRun with
    | true => trivial
    | false =>
      by_cases hconfirm : flags.confirm = confirmPreferDirect
      · exact absurd ⟨rfl, hdry, hprefer, hconfirm, henabled, hbare⟩ h
      · rw [preferDirectClear, if_neg Bool.false_ne_true, if_pos hconfirm]
        trivial
  · rw [← Bool.and_eq_true] at hstep
    rw [preferStep, (driftStatus_remote hremote listener path).2, Bool.or_false, if_neg hstep]
    trivial

theorem preferStep_mutates {platform : String} {reg : ProxyRegistrySnapshot} {flags : RepairFlags}
    (h : ClearsRemote platform flags reg) (alive : String) (listener : Option Bool) (path : Dict)
    (env : Nat → Tick) (w : World) :
    Mutates (runOn env (preferStep alive flags (driftStatus reg listener path)) w).trace := by
  obtain ⟨-, hdry, hprefer, hconfirm, henabled, hbare⟩ := h
  have hstep : ((driftStatus reg listener path).localhostEnabled && (flags.preferDirect ||
      (driftStatus reg listener path).isBrokenLocalhostProxy)) = true := by
    rw [hprefer, Bool.true_or, Bool.and_true, localhostEnabled_remote hbare.not_localhost]
    exact ⟨henabled, hbare⟩
  rw [preferStep, if_pos hstep, runOn, trace_bind, mutates_append]
  left
  rw [preferDirectClear, hdry, if_neg Bool.false_ne_true, if_neg (not_not_intro hconfirm),
    trace_bind, mutates_append]
  exact .inl ⟨⟨.proxyFix false, ()⟩, List.mem_cons_self, rfl⟩

theorem runAutoFixProxy_spares (probes : Nat → Probe) {reg : ProxyRegistrySnapshot}
    (hremote : (parseProxyServer reg.proxyServer).isLocalhostProxy = false) {platform : String}
    {flags : RepairFlags} (h : ¬ ClearsRemote platform flags reg) (skipGuardianInstall : Bool) :
    Spares probes reg (runAutoFixProxy platform skipGuardianInstall flags) fun _ => True := by
  unfold runAutoFixProxy
  split_ifs with hplatform
  · exact Within.pure trivial
  · rw [not_not] at hplatform
    subst hplatform
    apply (clearDeadProxy_spares probes hremote flags).bind
    rintro ⟨steps, afterDead⟩ ⟨listener, path, rfl⟩
    apply (Harmless.spares probes reg (preferStep_harmless hremote h _ listener path)).bind
    intro prefer _
    apply (readProxyDriftStatus_spares probes reg none false).bind
    intro final _
    apply (Harmless.spares probes reg (installStep_harmless _ _)).bind
    exact fun _ _ => Within.pure trivial

theorem runAutoFixProxy_mutates (probes : Nat → Probe) {w : World} {platform : String}
    {flags : RepairFlags} (h : ClearsRemote platform flags w.registry)
    (skipGuardianInstall : Bool) :
    Mutates (runOn (calm probes) (runAutoFixProxy platform skipGuardianInstall flags) w).trace := by
  have hremote := h.2.2.2.2.2.not_localhost
  obtain ⟨-, -, listener, path, hstatus⟩ :=
    clearDeadProxy_spares probes hremote flags w rfl
  rw [runAutoFixProxy, if_neg (not_not_intro h.1), runOn, trace_bind, mutates_append]
  right
  rw [trace_bind, mutates_append]
  left
  rw [hstatus]
  exact preferStep_mutates h _ listener path _ _

end ProxyDrift
