import NetworkRecovery.Drift.AutoFix

/-!
# The session repair

`run_ensure_proxy_health` of `ensure_health.py`: the automatic fix, then its
own prefer-direct step over the same test, then the startup observability and
the final report. Both entry points meet in `repair_spares_remote_iff`.
-/

namespace ProxyDrift

open Python Interaction
open ProxyGuard (ProxyRegistrySnapshot parseProxyServer)

/-! ## Observability -/

inductive InstalledVia where
  | task
  | startupHook
  deriving DecidableEq

/-- The report of `observability_install_status`. -/
structure ObservabilityStatus where
  guardianPresent : Bool
  bootTracePresent : Bool
  guardianVia : Option InstalledVia
  bootTraceVia : Option InstalledVia
  fullyInstalled : Bool

def ObservabilityStatus.of (probe : ObservabilityProbe) : ObservabilityStatus :=
  let via (task hook : Bool) : Option InstalledVia :=
    if task then some .task else if hook then some .startupHook else none
  let guardianOk := probe.guardianHook || probe.guardianTask
  let bootOk := probe.bootHook || probe.bootTask
  { guardianPresent := guardianOk
    bootTracePresent := bootOk
    guardianVia := via probe.guardianTask probe.guardianHook
    bootTraceVia := via probe.bootTask probe.bootHook
    fullyInstalled := guardianOk && bootOk }

/-- `observability_install_status`. -/
def observabilityInstallStatus : Repair ObservabilityStatus := do
  let probe ← call .observability
  return .of probe

inductive InstallReport where
  | alreadyInstalled (status : ObservabilityStatus)
  | previewOnly (status : ObservabilityStatus)
  | installed (report : Dict)

/-- The installation of the startup observability, unless skipped. -/
def observabilityStep (skipObservabilityInstall : Bool) (flags : RepairFlags) :
    Repair (Option InstallReport) :=
  if skipObservabilityInstall then return none
  else do
    let now ← observabilityInstallStatus
    if now.fullyInstalled then return some (.alreadyInstalled now)
    else if flags.dryRun then return some (.previewOnly now)
    else
      let report ← call (.installObservability flags.guardianIntervalSeconds)
      return some (.installed report)

/-! ## The report -/

inductive EnsureStep where
  | statusBefore (status : DriftStatus)
  | observabilityBefore (status : ObservabilityStatus)
  | autoFixProxy (result : RepairResult AutoFixReport)
  | preferDirect (result : PreferResult)
  | startupObservability (report : InstallReport)
  | statusFinal (status : DriftStatus)
  | observabilityFinal (status : ObservabilityStatus)
  | dnsHealth (dns : Dict)

structure EnsureReport where
  dryRun : Bool
  preferDirect : Bool
  outcome : RepairOutcome
  classification : DriftLabel
  legacyClassification : DriftLabel
  isBrokenLocalhostProxy : Bool
  proxyProbeOk : Option Bool
  directProbeOk : Option Bool
  proxyEnable : Option Int
  proxyServer : Option String
  dnsHealth : Dict
  observabilityInstalled : Bool
  steps : List EnsureStep
  recommendedNextStep : String
  limitations : List String

/-- `_recommend`. -/
def recommend (outcome : RepairOutcome) (preferDirect : Bool) (dns : Dict) : String :=
  if (dns.get? "primary_off_subnet").any Value.truthy then
    "DNS primary appears off-subnet (browser DNS_PROBE_FINISHED_BAD_CONFIG risk). " ++
      "Run .\\fix-dns.cmd elevated, then refresh the browser."
  else
    match outcome with
    | .healthy =>
      "Proxy path clean. Restart LinkedIn/browser if they still show ERR_PROXY_CONNECTION_FAILED."
    | .stillDead =>
      "Still dead — run scripts/fix-wininet-proxy.cmd or proxy-fix with DISABLE_WININET_PROXY."
    | .localhostProxyBroken =>
      "Active-but-broken localhost proxy (listener up, path probe failed, direct ok). " ++
        "Re-run with --confirm " ++ confirmPreferDirect ++ " (or --prefer-direct) to clear."
    | .needsPreferDirectConfirm =>
      "Localhost proxy still needs clear confirmation. Re-run with --confirm " ++
        confirmPreferDirect ++
        " (add --prefer-direct to clear a healthy active localhost proxy)."
    | .localhostProxyActive =>
      if preferDirect then "Review ensure-proxy-health JSON output and limitations."
      else
        "Localhost proxy is active and path probe did not mark it broken. For LinkedIn " ++
          "reliability, run: python -m src ensure-proxy-health --prefer-direct --confirm " ++
          confirmPreferDirect
    | .wouldRemediate =>
      "Dry-run: dead or broken localhost proxy would be cleared; re-run without --dry-run to apply."

/-- The custody event the repair leaves. -/
def ensureEvent (flags : RepairFlags) (outcome : RepairOutcome) : String :=
  if flags.preferDirect && outcome == .needsPreferDirectConfirm then "prefer_direct_blocked"
  else if flags.preferDirect && outcome == .healthy && !flags.dryRun then "prefer_direct_applied"
  else "ensure_proxy_health"

def ensureReport (flags : RepairFlags) (outcome : RepairOutcome) (final : DriftStatus)
    (observability : ObservabilityStatus) (dns : Dict) (steps : List EnsureStep) :
    EnsureReport where
  dryRun := flags.dryRun
  preferDirect := flags.preferDirect
  outcome := outcome
  classification := final.classification
  legacyClassification := final.legacyClassification
  isBrokenLocalhostProxy := final.isBrokenLocalhostProxy
  proxyProbeOk := final.proxyProbeOk
  directProbeOk := final.directProbeOk
  proxyEnable := final.proxyEnable
  proxyServer := final.proxyServer
  dnsHealth := dns
  observabilityInstalled := observability.fullyInstalled
  steps := steps
  recommendedNextStep := recommend outcome flags.preferDirect dns
  limitations :=
    ["Default ensure clears dead localhost WinINET only — not corporate proxies.",
      "Active-but-broken (listener up, proxy path fail, direct ok) clears with " ++
        "PREFER_DIRECT_WININET.",
      "prefer_direct clears healthy active localhost proxies; may break intentional local tunnels.",
      "Observation ≠ registry writer proof; LinkedIn uses WinINET system proxy.",
      "dns_health is adapter heuristic only — not DNS malware attribution."]

/-! ## `run_ensure_proxy_health` -/

/-- The repair behind its prefer-direct step. -/
def finishEnsure (skipObservabilityInstall : Bool) (flags : RepairFlags) (steps : List EnsureStep)
    (afterAuto : DriftStatus) (prefer : Option PreferResult) : Repair EnsureReport := do
  let install ← observabilityStep skipObservabilityInstall flags
  let final ← readProxyDriftStatus none false
  let observability ← observabilityInstallStatus
  let dns ← call .dns
  let outcome := repairOutcome flags afterAuto.localhostEnabled (prefer.any (·.blocked)) final
  let _ ← call (.ensureCustody (ensureEvent flags outcome))
  return ensureReport flags outcome final observability dns
    (steps ++ prefer.toList.map .preferDirect ++ install.toList.map .startupObservability ++
      [.statusFinal final, .observabilityFinal observability, .dnsHealth dns])

/-- `run_ensure_proxy_health`. -/
def runEnsureProxyHealth (platform : String) (skipObservabilityInstall : Bool)
    (flags : RepairFlags) : Repair (RepairResult EnsureReport) :=
  if platform ≠ "Windows" then return .unsupported platform
  else do
    let before ← readProxyDriftStatus none false
    let observability ← observabilityInstallStatus
    let auto ← runAutoFixProxy platform true
      { flags with skipCursorFix := flags.skipCursorFix || flags.dryRun }
    let afterAuto ← readProxyDriftStatus none false
    let prefer ← preferStep "localhost" flags afterAuto
    let report ← finishEnsure skipObservabilityInstall flags
      [.statusBefore before, .observabilityBefore observability, .autoFixProxy auto] afterAuto prefer
    return .report report

/-! ## What both repairs do to a proxy that is not local -/

theorem observabilityInstallStatus_harmless : Asks Harmless observabilityInstallStatus :=
  ⟨rfl, fun _ => trivial⟩

theorem observabilityStep_harmless (skipObservabilityInstall : Bool) (flags : RepairFlags) :
    Asks Harmless (observabilityStep skipObservabilityInstall flags) := by
  unfold observabilityStep
  split
  · trivial
  · apply observabilityInstallStatus_harmless.bind
    intro now
    split
    · trivial
    · split
      · trivial
      · exact ⟨rfl, fun _ => trivial⟩

theorem readProxyDriftStatus_harmless (pathHealth : Option Dict) (skipPathProbe : Bool) :
    Asks Harmless (readProxyDriftStatus pathHealth skipPathProbe) := by
  apply readProxyRegistry_harmless.bind
  intro reg
  apply (portState_harmless _).bind
  intro listener
  apply (probePath_harmless _ _ _ _).bind
  exact fun _ => trivial

theorem finishEnsure_harmless (skipObservabilityInstall : Bool) (flags : RepairFlags)
    (steps : List EnsureStep) (afterAuto : DriftStatus) (prefer : Option PreferResult) :
    Asks Harmless (finishEnsure skipObservabilityInstall flags steps afterAuto prefer) := by
  apply (observabilityStep_harmless _ _).bind
  intro install
  apply (readProxyDriftStatus_harmless none false).bind
  intro final
  apply observabilityInstallStatus_harmless.bind
  intro observability
  exact ⟨rfl, fun _ => ⟨rfl, fun _ => trivial⟩⟩

theorem runEnsureProxyHealth_spares (probes : Nat → Probe) {reg : ProxyRegistrySnapshot}
    (hremote : (parseProxyServer reg.proxyServer).isLocalhostProxy = false) {platform : String}
    {flags : RepairFlags} (h : ¬ ClearsRemote platform flags reg)
    (skipObservabilityInstall : Bool) :
    Spares probes reg (runEnsureProxyHealth platform skipObservabilityInstall flags)
      fun _ => True := by
  unfold runEnsureProxyHealth
  split_ifs with hplatform
  · exact Within.pure trivial
  · rw [not_not] at hplatform
    subst hplatform
    apply (readProxyDriftStatus_spares probes reg none false).bind
    intro before _
    apply (Harmless.spares probes reg observabilityInstallStatus_harmless).bind
    intro observability _
    refine Within.bind (runAutoFixProxy_spares probes hremote ?_ true) ?_
    · exact h
    intro auto _
    apply (readProxyDriftStatus_spares probes reg none false).bind
    rintro afterAuto ⟨listener, path, rfl⟩
    apply (Harmless.spares probes reg (preferStep_harmless hremote h _ listener path)).bind
    intro prefer _
    apply (Harmless.spares probes reg (finishEnsure_harmless _ _ _ _ _)).bind
    exact fun _ _ => Within.pure trivial

theorem runEnsureProxyHealth_mutates (probes : Nat → Probe) {w : World} {platform : String}
    {flags : RepairFlags} (h : ClearsRemote platform flags w.registry)
    (skipObservabilityInstall : Bool) :
    Mutates
      (runOn (calm probes) (runEnsureProxyHealth platform skipObservabilityInstall flags) w).trace := by
  -- the automatic fix inside meets the registry the repair started from
  have hread := readProxyDriftStatus_harmless none false
  have hobs := observabilityInstallStatus_harmless
  rw [runEnsureProxyHealth, if_neg (not_not_intro h.1), runOn, trace_bind, mutates_append]
  right
  rw [trace_bind, mutates_append]
  right
  rw [trace_bind, mutates_append]
  left
  apply runAutoFixProxy_mutates
  rw [Harmless.registry probes hobs, Harmless.registry probes hread]
  exact h

/-- For every registry, every answer of the probes and every flag, each of the
two repairs leaves a proxy that is not local alone exactly outside of
`ClearsRemote`. -/
theorem repair_spares_remote_iff (probes : Nat → Probe) (w : World) (platform : String)
    (skipGuardianInstall skipObservabilityInstall : Bool) (flags : RepairFlags) :
    let autoFix := runOn (calm probes) (runAutoFixProxy platform skipGuardianInstall flags) w
    let ensure := runOn (calm probes) (runEnsureProxyHealth platform skipObservabilityInstall flags) w
    let remote := (parseProxyServer w.registry.proxyServer).isLocalhostProxy = false
    ((remote → ¬ Mutates autoFix.trace) ↔ ¬ ClearsRemote platform flags w.registry) ∧
      ((remote → ¬ Mutates ensure.trace) ↔ ¬ ClearsRemote platform flags w.registry) := by
  dsimp only
  refine ⟨⟨?_, ?_⟩, ⟨?_, ?_⟩⟩
  · intro hspares hclears
    have hremote := hclears.2.2.2.2.2.not_localhost
    exact hspares hremote (runAutoFixProxy_mutates probes hclears skipGuardianInstall)
  · intro h hremote
    exact not_mutates_of_spares (runAutoFixProxy_spares probes hremote h skipGuardianInstall)
  · intro hspares hclears
    have hremote := hclears.2.2.2.2.2.not_localhost
    exact hspares hremote (runEnsureProxyHealth_mutates probes hclears skipObservabilityInstall)
  · intro h hremote
    exact not_mutates_of_spares
      (runEnsureProxyHealth_spares probes hremote h skipObservabilityInstall)

/-- A corporate proxy, enabled. -/
def corporateProxy : World :=
  { registry := { proxyEnable := some 1, proxyServer := some "proxy.corp.example:8080" } }

/-- Prefer-direct with its phrase. -/
def preferDirectFlags : RepairFlags := { preferDirect := true, confirm := "PREFER_DIRECT_WININET" }

theorem corporate_proxy_disabled :
    let autoFix := runOn (calm fun _ => {}) (runAutoFixProxy "Windows" true preferDirectFlags)
      corporateProxy
    let ensure := runOn (calm fun _ => {}) (runEnsureProxyHealth "Windows" true preferDirectFlags)
      corporateProxy
    (parseProxyServer corporateProxy.registry.proxyServer).isLocalhostProxy = false ∧
      Mutates autoFix.trace ∧ autoFix.state.registry.proxyEnable = some 0 ∧
      Mutates ensure.trace ∧ ensure.state.registry.proxyEnable = some 0 := by
  have hclears : ClearsRemote "Windows" preferDirectFlags corporateProxy.registry :=
    ⟨rfl, rfl, rfl, rfl, rfl, by decide +kernel⟩
  exact ⟨hclears.2.2.2.2.2.not_localhost, runAutoFixProxy_mutates _ hclears true,
    by decide +kernel, runEnsureProxyHealth_mutates _ hclears true, by decide +kernel⟩

/-- It is not one host: prefer-direct clears every `host:port` that is not local. -/
theorem hostPort_cleared (probes : Nat → Probe) {w : World} {host : List Char} {port : Nat}
    (hne : host ≠ []) (hhost : ∀ c ∈ host, ProxyGuard.isHostChar c = true ∧ c ≠ '=')
    (hlocal : ProxyGuard.isLocalHost host = false) (hport : 1 ≤ port ∧ port ≤ 65535)
    (henabled : w.registry.proxyEnable = some 1)
    (hserver : w.registry.proxyServer = some (String.ofList (host ++ ':' :: natText port)))
    (skipGuardianInstall skipObservabilityInstall : Bool) :
    Mutates (runOn (calm probes)
        (runAutoFixProxy "Windows" skipGuardianInstall preferDirectFlags) w).trace ∧
      Mutates (runOn (calm probes)
        (runEnsureProxyHealth "Windows" skipObservabilityInstall preferDirectFlags) w).trace := by
  have hbare : ProxyGuard.BareRemote w.registry.proxyServer := by
    rw [hserver]
    exact ProxyGuard.bareRemote_text hne hhost hlocal hport
  have hclears : ClearsRemote "Windows" preferDirectFlags w.registry :=
    ⟨rfl, rfl, rfl, rfl, henabled, hbare⟩
  exact ⟨runAutoFixProxy_mutates probes hclears skipGuardianInstall,
    runEnsureProxyHealth_mutates probes hclears skipObservabilityInstall⟩

end ProxyDrift
