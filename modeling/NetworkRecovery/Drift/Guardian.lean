import NetworkRecovery.Drift.ProxyFix

/-!
# The guardian

`run_dead_proxy_guardian_once` of `guardian.py`. It LOOKS (reads the registry,
tries the port, asks who listens, perhaps probes the path), and if it finds a
local proxy that is dead, broken, or unwanted under hold-direct, and the typed
confirmation fits, it hands over to the fix.

The fix reads the registry again, and what it disables is what it reads. A
program that puts a corporate proxy in between loses it: that is
`guardian_keeps_remote_iff`, for every order of the tool's steps and the
others' writes.
-/

namespace ProxyDrift

open Python Interaction
open ProxyGuard (ProxyRegistrySnapshot ParsedProxy parseProxyServer)

/-! ## `classify_proxy_drift` -/

/-- The arguments of `classify_proxy_drift`, with their defaults. -/
structure DriftInputs where
  proxyEnable : Option Int
  proxyServer : Option String
  autoConfigUrl : Option String := none
  winhttpDirect : Option Bool := none
  listenerFound : Option Bool := none
  listenerExited : Bool := false
  processName : Option String := none
  commandLine : Option String := none
  proxyProbeOk : Option Bool := none
  directProbeOk : Option Bool := none

structure Classification where
  classification : DriftLabel
  rationale : String
  localhostPort : Option Int
  isLocalhostProxy : Bool
  limitations : List String

/-- `int(proxy_enable or 0) == 1`. -/
def isEnabled (proxyEnable : Option Int) : Bool := proxyEnable.getD 0 == 1

theorem isEnabled_iff (proxyEnable : Option Int) :
    isEnabled proxyEnable = true ↔ proxyEnable = some 1 := by
  cases proxyEnable with
  | none => simp [isEnabled]
  | some n => simp [isEnabled]

/-- The truth of an optional string. -/
def isText (s : Option String) : Bool := s.any (!·.isEmpty)

def devProcessFragments : List String :=
  ["node.exe", "cursor.exe", "code.exe", "electron", "python.exe", "powershell.exe", "cmd.exe"]

def vpnFragments : List String :=
  ["hide.me", "hideme", "openvpn", "wireguard", "nordvpn", "expressvpn", "vpn", "tailscale"]

/-- `LIMITATIONS`. -/
def driftLimitations : List String :=
  ["Classification is triage guidance — not malware verdict or registry writer proof.",
    "Listener correlation does not prove which process wrote ProxyEnable/ProxyServer."]

/-- `_name_hints`: whether the names look like a developer tool, and like a VPN. -/
def nameHints (processName command : Option String) : Bool × Bool :=
  let blob := lower (processName.getD "" ++ " " ++ command.getD "").toList
  (devProcessFragments.any fun f => contains f.toList blob,
    vpnFragments.any fun f => contains f.toList blob)

/-- The ladder of `classify_proxy_drift`: the label and its rationale. -/
def driftLadder (i : DriftInputs) : DriftLabel × String :=
  let parsed := parseProxyServer i.proxyServer
  let enabled := isEnabled i.proxyEnable
  let (dev, vpn) := nameHints i.processName i.commandLine
  if i.autoConfigUrl.any fun url => strip url.toList ≠ [] then
    (.pacConfigured, "AutoConfigURL is set; PAC path requires separate validation.")
  else if !enabled && !isText parsed.raw then
    (.noProxy, "WinINET proxy disabled with no ProxyServer value.")
  else if enabled && !parsed.isLocalhostProxy && isText parsed.raw then
    (.insufficientEvidence,
      "Non-localhost proxy configured; corporate proxy policy may apply — do not auto-clear.")
  else if enabled && parsed.isLocalhostProxy && i.listenerFound == some true &&
      i.proxyProbeOk == some false && i.directProbeOk == some true then
    (.brokenLocalhostProxy,
      "Localhost listener is present but the proxy path failed while direct HTTPS works " ++
        "(active-but-broken — prefer-direct clear is appropriate).")
  else if enabled && parsed.isLocalhostProxy && i.listenerFound == some true then
    (if vpn then .knownVpnProxy else if dev then .knownDevProxy else .localProxyActive,
      "Localhost proxy enabled with an active listener on the configured port." ++
        if i.proxyProbeOk == some false && i.directProbeOk == some false then
          " Proxy and direct HTTPS probes both failed — path triage inconclusive."
        else "")
  else if enabled && parsed.isLocalhostProxy && i.listenerFound == some false then
    if i.listenerExited then
      (.staleProxyAfterProcessExit,
        "Proxy still points at localhost after listener disappeared.")
    else
      (.staleLocalhostProxy,
        "ProxyEnable=1 toward localhost but no listener — likely ERR_PROXY_CONNECTION_FAILED.")
  else if enabled && parsed.isLocalhostProxy && i.listenerFound == none then
    (.unknownLocalProxy, "Localhost proxy configured; listener state unknown at probe time.")
  else if i.winhttpDirect == some false && enabled then
    (.winhttpWininetMismatch,
      "WinINET proxy enabled while WinHTTP reports non-direct access.")
  else (.insufficientEvidence, "Insufficient contrasting evidence for a stronger label.")

/-- `classify_proxy_drift`. -/
def classifyProxyDrift (i : DriftInputs) : Classification where
  classification := (driftLadder i).1
  rationale := (driftLadder i).2
  localhostPort := (parseProxyServer i.proxyServer).localhostPort
  isLocalhostProxy := (parseProxyServer i.proxyServer).isLocalhostProxy
  limitations := driftLimitations

/-- The labels that speak of a local proxy. -/
def DriftLabel.local : DriftLabel → Bool
  | .pacConfigured | .noProxy | .insufficientEvidence | .winhttpWininetMismatch => false
  | _ => true

/-- Only a local proxy gets a label that speaks of one. -/
theorem classifyProxyDrift_local {i : DriftInputs}
    (h : (classifyProxyDrift i).classification.local = true) :
    (parseProxyServer i.proxyServer).isLocalhostProxy = true := by
  by_contra hremote
  rw [Bool.not_eq_true] at hremote
  revert h
  show (driftLadder i).1.local ≠ true
  unfold driftLadder
  simp only [hremote, Bool.and_false, Bool.false_and, Bool.false_eq_true, if_false]
  split_ifs <;> simp [DriftLabel.local]

/-! ## The listener -/

/-- The process id a line of `netstat` gives for the port, if it is one of its
listeners. -/
def netstatPid (port : Int) (line : List Char) : Option Int :=
  if contains "LISTENING".toList (upper line) && contains (':' :: intText port) line &&
      (contains "127.0.0.1".toList line || contains "[::1]".toList line ||
        contains "0.0.0.0".toList line) then
    (words line).getLast?.bind intOfText
  else none

/-- The loop over the lines: the first positive id ends it, and one that is not
positive is kept until another comes. -/
def scanNetstat (port : Int) : Option Int → List (List Char) → Option Int
  | found, [] => found
  | found, line :: rest =>
    match netstatPid port line with
    | none => scanNetstat port found rest
    | some pid => if 0 < pid then some pid else scanNetstat port (some pid) rest

/-- The image name in the first row of `tasklist`. -/
def tasklistName (out : String) : Option String :=
  match splitLines (strip out.toList) with
  | [] => none
  | row :: _ =>
    (row.splitOn ',').head?.map fun c => String.ofList (stripChars ['"'] (strip c))

/-- `_listener_fingerprint`. -/
def listenerFingerprint (port : Option Int) : Repair Fingerprint := do
  match port.filter (· ≠ 0) with
  | none => return {}
  | some port =>
    match ← call .netstat with
    | none => return {}
    | some out =>
      match (scanNetstat port none (splitLines out.toList)).filter (· ≠ 0) with
      | none => return { localhostPort := some port }
      | some pid =>
        let rows ← call (.tasklist pid)
        return { listenerPid := some pid, localhostPort := some port,
                 listenerName := (rows.bind tasklistName).filter (!·.isEmpty) }

/-- `assess_localhost_proxy_path`. -/
def assessLocalhostProxyPath (port : Int) (inject : Option Dict) : Repair Dict :=
  match inject with
  | some d =>
    let field (k : String) : String × Value := (k, (d.get? k).getD .none)
    return [field "proxy_probe_ok", field "direct_probe_ok", field "proxy_status",
      field "tcp_connect_ok", ("probed", .bool true), ("injected", .bool true)]
  | none => do
    match ← call (.proxyHealth port) with
    | none =>
      return [("proxy_probe_ok", .none), ("direct_probe_ok", .none), ("proxy_status", .none),
        ("tcp_connect_ok", .none), ("probed", .bool false)]
    | some health =>
      return [("proxy_probe_ok", .bool health.proxyProbeOk),
        ("direct_probe_ok", .bool health.directProbeOk),
        ("proxy_status", .str health.proxyStatus), ("tcp_connect_ok", .bool health.tcpConnectOk),
        ("probed", .bool true), ("injected", .bool false)]

/-- `path.get(k)` where it is a `bool`. -/
def boolField (path : Dict) (k : String) : Option Bool :=
  match path.get? k with
  | some (.bool b) => some b
  | _ => none

/-- `proxy_ok is False and direct_ok is not None`. -/
def brokenPath (path : Dict) : Bool :=
  boolField path "proxy_probe_ok" == some false &&
    match path.get? "direct_probe_ok" with
    | none | some .none => false
    | some _ => true

/-! ## Looking -/

/-- `CONFIRM_CLEAR_DEAD`. -/
def confirmClearDead : String := "CLEAR_DEAD_LOCALHOST_PROXY"

/-- `CONFIRM_CLEAR_BROKEN`, `CONFIRM_HOLD_DIRECT` and `CONFIRM_PREFER_DIRECT`. -/
def confirmPreferDirect : String := "PREFER_DIRECT_WININET"

/-- The arguments of `run_dead_proxy_guardian_once`, with their defaults. -/
structure GuardianFlags where
  dryRun : Bool := true
  confirm : String := ""
  clearBroken : Bool := false
  confirmBroken : String := ""
  holdDirect : Bool := false
  pathHealth : Option Dict := none

/-- What the guardian has seen when it decides. -/
structure Look where
  reg : ProxyRegistrySnapshot
  listener : Bool
  fingerprint : Fingerprint
  broken : Bool
  path : Dict

namespace Look

variable (look : Look)

def parsed : ParsedProxy := parseProxyServer look.reg.proxyServer

def enabled : Bool := isEnabled look.reg.proxyEnable

def port : Option Int := look.parsed.localhostPort.filter (· ≠ 0)

def localhostEnabled : Bool :=
  look.enabled && look.parsed.isLocalhostProxy && look.port.isSome

end Look

/-- `_assess_broken`. -/
def assessBroken (enabled isLocalhost : Bool) (port : Option Int) (listener : Bool)
    (pathHealth : Option Dict) : Repair (Bool × Dict) :=
  match port with
  | some port =>
    if enabled && isLocalhost && listener then do
      let path ← assessLocalhostProxyPath port pathHealth
      return (brokenPath path, path)
    else return (false, [])
  | none => return (false, [])

/-- `_port_listening(int(port)) if port else False`. -/
def portListening : Option Int → Repair Bool
  | some port => call (.connect port)
  | none => return false

/-- The path is assessed under `clear_broken` alone. -/
def lookAtPath (flags : GuardianFlags) (reg : ProxyRegistrySnapshot) (listener : Bool) :
    Repair (Bool × Dict) :=
  let parsed := parseProxyServer reg.proxyServer
  if flags.clearBroken then
    assessBroken (isEnabled reg.proxyEnable) parsed.isLocalhostProxy
      (parsed.localhostPort.filter (· ≠ 0)) listener flags.pathHealth
  else return (false, [])

/-- What the guardian asks about a registry it has read. -/
def lookFurther (flags : GuardianFlags) (reg : ProxyRegistrySnapshot) : Repair Look := do
  let port := (parseProxyServer reg.proxyServer).localhostPort.filter (· ≠ 0)
  let listener ← portListening port
  let fingerprint ← listenerFingerprint (if listener then port else none)
  let (broken, path) ← lookAtPath flags reg listener
  return { reg, listener, fingerprint, broken, path }

/-- The guardian up to its decision. -/
def guardianLook (flags : GuardianFlags) : Repair Look := do
  let reg ← readProxyRegistry
  lookFurther flags reg

/-! ## Deciding -/

/-- What the guardian found; at most one of the three. -/
inductive Finding where
  | dead
  | held
  | broken
  deriving DecidableEq

/-- Dead comes first, then hold-direct, then broken. -/
def Look.finding (look : Look) (flags : GuardianFlags) : Option Finding :=
  if look.localhostEnabled && !look.listener then some .dead
  else if flags.holdDirect && look.localhostEnabled then some .held
  else if look.broken then some .broken
  else none

/-- The texts and the gate that go with a finding. -/
structure Plan where
  recommendedAction : String
  required : String
  confirmOk : Bool
  eventPreview : String
  eventBlocked : String
  eventApply : String
  previewReason : String

def Finding.plan (flags : GuardianFlags) : Finding → Plan
  | .dead =>
    { recommendedAction :=
        "Set ProxyEnable=0 and clear localhost ProxyServer (preview by default)."
      required := confirmClearDead
      confirmOk := flags.confirm == confirmClearDead
      eventPreview := "guardian_preview"
      eventBlocked := "guardian_blocked"
      eventApply := "guardian_apply"
      previewReason := "Dead localhost proxy detected; dry-run — no registry mutation." }
  | .held =>
    { recommendedAction :=
        "Hold-direct: clear localhost WinINET rewrite (confirm " ++ confirmPreferDirect ++ ")."
      required := confirmPreferDirect
      confirmOk := flags.confirmBroken == confirmPreferDirect
      eventPreview := "guardian_hold_direct_preview"
      eventBlocked := "guardian_hold_direct_blocked"
      eventApply := "guardian_hold_direct_apply"
      previewReason :=
        "Hold-direct: enabled localhost WinINET detected; dry-run — no registry mutation." }
  | .broken =>
    { recommendedAction :=
        "Clear active-but-broken / unusable localhost WinINET proxy (confirm " ++
          confirmPreferDirect ++ ")."
      required := confirmPreferDirect
      confirmOk := flags.confirmBroken == confirmPreferDirect
      eventPreview := "guardian_broken_preview"
      eventBlocked := "guardian_broken_blocked"
      eventApply := "guardian_broken_apply"
      previewReason :=
        "Active-but-broken localhost proxy detected; dry-run — no registry mutation." }

/-- Why nothing is done. -/
def idleReason (flags : GuardianFlags) : String :=
  if flags.holdDirect then "No localhost WinINET proxy to clear (hold-direct idle)."
  else if flags.clearBroken then "No dead or active-but-broken localhost proxy detected."
  else "No dead localhost proxy detected."

def Look.classification (look : Look) : Classification :=
  classifyProxyDrift
    { proxyEnable := look.reg.proxyEnable
      proxyServer := look.reg.proxyServer
      autoConfigUrl := look.reg.autoConfigUrl
      listenerFound := look.port.map fun _ => look.listener
      proxyProbeOk := boolField look.path "proxy_probe_ok"
      directProbeOk := boolField look.path "direct_probe_ok"
      processName := look.fingerprint.listenerName }

/-- The report before anything is done. -/
def Look.result (look : Look) (flags : GuardianFlags) : GuardianResult where
  dryRun := flags.dryRun
  classification := look.classification.classification
  deadLocalhostProxy := look.finding flags == some .dead
  brokenLocalhostProxy := look.finding flags == some .broken
  holdDirect := flags.holdDirect
  holdDirectHit := look.finding flags == some .held
  clearBroken := flags.clearBroken
  proxyEnable := look.reg.proxyEnable
  proxyServer := look.reg.proxyServer
  localhostPort := look.parsed.localhostPort
  listenerFound := look.listener
  proxyProbeOk := boolField look.path "proxy_probe_ok"
  directProbeOk := boolField look.path "direct_probe_ok"
  proxyStatus := look.path.get? "proxy_status"
  actionTaken := .none
  recommendedAction := "No change required."
  limitations :=
    look.classification.limitations ++
      (if flags.clearBroken then
        ["clear_broken remediates listener-up cases where the proxy path probe failed; " ++
          "without --hold-direct, healthy active localhost (proxy path ok) is left alone."]
      else []) ++
      (if flags.holdDirect then
        ["hold_direct clears ANY enabled localhost WinINET proxy (including healthy tunnels); " ++
          "use only when prefer-direct browsing is the policy goal. " ++
          "Listener process fingerprint is correlation only — not registry-writer proof."]
      else [])
  fingerprint := look.fingerprint
  reason := idleReason flags

/-- Leaves one row in the guardian's log and returns the report. -/
def record (event : String) (row : GuardianResult) : Repair GuardianResult := do
  let _ ← call (.guardianRow event row)
  return row

/-- The report behind the fix. -/
def Look.remediated (look : Look) (flags : GuardianFlags) (finding : Finding) (fix : FixPayload) :
    GuardianResult :=
  { look.result flags with
    recommendedAction := (finding.plan flags).recommendedAction
    remediation := some fix
    actionTaken := if fix.actionAllowed then .remediated else .blocked
    reason := if fix.reason ≠ "" then fix.reason else "Guardian remediation completed."
    clearedBrokenLocalhost := finding == .broken
    clearedHoldDirect := finding == .held }

/-- The guardian from its decision on. -/
def guardianAct (flags : GuardianFlags) (look : Look) : Repair GuardianResult :=
  match look.finding flags with
  | none => record "guardian_check" (look.result flags)
  | some finding =>
    let plan := finding.plan flags
    let held (action : ActionTaken) (reason : String) : GuardianResult :=
      { look.result flags with
        recommendedAction := plan.recommendedAction
        actionTaken := action
        reason := reason
        confirmationRequired := some plan.required }
    if flags.dryRun then record plan.eventPreview (held .previewOnly plan.previewReason)
    else if !plan.confirmOk then
      record plan.eventBlocked (held .blocked ("Confirmation required: " ++ plan.required))
    else do
      let fix ← applyProxyFix false confirmationPhrase false
      record plan.eventApply (look.remediated flags finding fix)

/-- `run_dead_proxy_guardian_once`. -/
def runDeadProxyGuardianOnce (flags : GuardianFlags) : Repair GuardianResult := do
  let look ← guardianLook flags
  guardianAct flags look

/-! ## When the guardian acts -/

theorem listenerFingerprint_looks (port : Option Int) :
    Asks Looks (listenerFingerprint port) := by
  unfold listenerFingerprint
  split
  · trivial
  · refine Asks.bind (p := call .netstat) ⟨rfl, fun _ => trivial⟩ ?_
    intro out
    cases out with
    | none => trivial
    | some out =>
      dsimp only
      split
      · trivial
      · exact ⟨rfl, fun _ => trivial⟩

theorem portListening_looks (port : Option Int) : Asks Looks (portListening port) := by
  cases port with
  | none => trivial
  | some port => exact ⟨rfl, fun _ => trivial⟩

theorem assessLocalhostProxyPath_looks (port : Int) (inject : Option Dict) :
    Asks Looks (assessLocalhostProxyPath port inject) := by
  cases inject with
  | some d => trivial
  | none =>
    refine ⟨rfl, ?_⟩
    intro health
    cases health <;> trivial

theorem assessLocalhostProxyPath_harmless (port : Int) (inject : Option Dict) :
    Asks Harmless (assessLocalhostProxyPath port inject) :=
  (assessLocalhostProxyPath_looks port inject).mono fun _ => Looks.harmless

theorem assessBroken_looks (enabled isLocalhost : Bool) (port : Option Int) (listener : Bool)
    (pathHealth : Option Dict) :
    Asks Looks (assessBroken enabled isLocalhost port listener pathHealth) := by
  cases port with
  | none => trivial
  | some port =>
    unfold assessBroken
    dsimp only
    split
    · apply (assessLocalhostProxyPath_looks port pathHealth).bind
      exact fun _ => trivial
    · trivial

theorem lookAtPath_looks (flags : GuardianFlags) (reg : ProxyRegistrySnapshot)
    (listener : Bool) : Asks Looks (lookAtPath flags reg listener) := by
  unfold lookAtPath
  dsimp only
  split
  · exact assessBroken_looks _ _ _ _ _
  · trivial

theorem lookFurther_looks (flags : GuardianFlags) (reg : ProxyRegistrySnapshot) :
    Asks Looks (lookFurther flags reg) := by
  apply (portListening_looks _).bind
  intro listener
  apply (listenerFingerprint_looks _).bind
  intro fingerprint
  apply (lookAtPath_looks flags reg listener).bind
  exact fun _ => trivial

theorem guardianLook_looks (flags : GuardianFlags) : Asks Looks (guardianLook flags) := by
  apply readProxyRegistry_looks.bind
  exact lookFurther_looks flags

theorem guardianLook_harmless (flags : GuardianFlags) : Asks Harmless (guardianLook flags) :=
  (guardianLook_looks flags).mono fun _ => Looks.harmless

/-- A path found broken belongs to a local proxy that listens. -/
theorem lookAtPath_broken {env : Nat → Tick} {flags : GuardianFlags} {reg : ProxyRegistrySnapshot}
    {listener : Bool} {w : World}
    (h : (runOn env (lookAtPath flags reg listener) w).value.1 = true) :
    isEnabled reg.proxyEnable = true ∧ (parseProxyServer reg.proxyServer).isLocalhostProxy = true ∧
      ((parseProxyServer reg.proxyServer).localhostPort.filter (· ≠ 0)).isSome = true ∧
      listener = true := by
  unfold lookAtPath assessBroken at h
  dsimp only at h
  split at h
  · split at h
    · split at h
      · rename_i hport hguard
        rw [Bool.and_eq_true, Bool.and_eq_true] at hguard
        rw [hport]
        exact ⟨hguard.1.1, hguard.1.2, rfl, hguard.2⟩
      · exact absurd h Bool.false_ne_true
    · exact absurd h Bool.false_ne_true
  · exact absurd h Bool.false_ne_true

/-- What every look has: a broken path is that of a local proxy that listens. -/
def Look.Sound (look : Look) : Prop :=
  look.broken = true → look.localhostEnabled = true ∧ look.listener = true

theorem guardianLook_sound (env : Nat → Tick) (flags : GuardianFlags) (w : World) :
    (runOn env (guardianLook flags) w).value.Sound := by
  intro hbroken
  unfold guardianLook lookFurther at hbroken ⊢
  simp only [runOn, value_bind, exec_pure] at hbroken ⊢
  obtain ⟨henabled, hlocal, hport, hlistener⟩ := lookAtPath_broken hbroken
  refine ⟨?_, hlistener⟩
  rw [Look.localhostEnabled, Bool.and_eq_true, Bool.and_eq_true]
  exact ⟨⟨henabled, hlocal⟩, hport⟩

theorem guardianLook_reg (env : Nat → Tick) (flags : GuardianFlags) (w : World) :
    (runOn env (guardianLook flags) w).value.reg = (runOn env readProxyRegistry w).value := by
  unfold guardianLook lookFurther
  simp only [runOn, value_bind, exec_pure]

/-- The gate: an enabled local proxy, and the phrase that goes with its state. -/
def GuardianFlags.Gate (flags : GuardianFlags) (look : Look) : Prop :=
  flags.dryRun = false ∧ look.localhostEnabled = true ∧
    ((look.listener = false ∧ flags.confirm = confirmClearDead) ∨
      (look.listener = true ∧ (flags.holdDirect = true ∨ look.broken = true) ∧
        flags.confirmBroken = confirmPreferDirect))

instance (flags : GuardianFlags) (look : Look) : Decidable (flags.Gate look) :=
  inferInstanceAs (Decidable (_ ∧ _))

/-- A confirmed finding goes to the fix. -/
theorem guardianAct_of_finding {flags : GuardianFlags} {look : Look} {finding : Finding}
    (hf : look.finding flags = some finding) (hdry : flags.dryRun = false)
    (hok : (finding.plan flags).confirmOk = true) :
    guardianAct flags look =
      applyProxyFix false confirmationPhrase false >>= fun fix =>
        record (finding.plan flags).eventApply (look.remediated flags finding fix) := by
  unfold guardianAct
  rw [hf]
  simp only [hdry, hok, Bool.not_true, Bool.false_eq_true, if_false]

/-- Through the gate the guardian calls the fix and reports what it did. -/
theorem guardianAct_gate {flags : GuardianFlags} {look : Look} (h : flags.Gate look) :
    ∃ finding, guardianAct flags look =
      applyProxyFix false confirmationPhrase false >>= fun fix =>
        record (finding.plan flags).eventApply (look.remediated flags finding fix) := by
  obtain ⟨hdry, hlocal, ⟨hlistener, hconfirm⟩ | ⟨hlistener, hfound, hconfirm⟩⟩ := h
  · have hf : look.finding flags = some .dead := by simp [Look.finding, hlocal, hlistener]
    exact ⟨_, guardianAct_of_finding hf hdry (beq_iff_eq.mpr hconfirm)⟩
  · by_cases hhold : flags.holdDirect = true
    · have hf : look.finding flags = some .held := by
        simp [Look.finding, hlocal, hlistener, hhold]
      exact ⟨_, guardianAct_of_finding hf hdry (beq_iff_eq.mpr hconfirm)⟩
    · have hbroken : look.broken = true := hfound.resolve_left hhold
      have hf : look.finding flags = some .broken := by
        simp [Look.finding, hlistener, hhold, hbroken]
      exact ⟨_, guardianAct_of_finding hf hdry (beq_iff_eq.mpr hconfirm)⟩

/-- A confirmed finding has passed the gate. -/
theorem Look.Sound.gate {flags : GuardianFlags} {look : Look} (hlook : look.Sound)
    {finding : Finding} (hf : look.finding flags = some finding) (hdry : flags.dryRun = false)
    (hok : (finding.plan flags).confirmOk = true) : flags.Gate look := by
  unfold Look.finding at hf
  split_ifs at hf with hdead hheld hbroken
  · cases hf
    rw [Bool.and_eq_true, Bool.not_eq_true'] at hdead
    exact ⟨hdry, hdead.1, .inl ⟨hdead.2, beq_iff_eq.mp hok⟩⟩
  · cases hf
    rw [Bool.and_eq_true] at hheld
    have hlistener : look.listener = true := by simpa [hheld.2] using hdead
    exact ⟨hdry, hheld.2, .inr ⟨hlistener, .inl hheld.1, beq_iff_eq.mp hok⟩⟩
  · cases hf
    obtain ⟨hlocal, hlistener⟩ := hlook hbroken
    exact ⟨hdry, hlocal, .inr ⟨hlistener, .inr hbroken, beq_iff_eq.mp hok⟩⟩

/-- In front of it the guardian leaves a row and nothing else. -/
theorem guardianAct_idle {flags : GuardianFlags} {look : Look} (hlook : look.Sound)
    (h : ¬ flags.Gate look) :
    ∃ event row, guardianAct flags look = record event row ∧ row.remediation = none ∧
      row.actionTaken ≠ .remediated := by
  unfold guardianAct
  cases hf : look.finding flags with
  | none => exact ⟨_, _, rfl, rfl, nofun⟩
  | some finding =>
    dsimp only
    split_ifs with hdry hok
    · exact ⟨_, _, rfl, rfl, nofun⟩
    · exact ⟨_, _, rfl, rfl, nofun⟩
    · rw [Bool.not_eq_true] at hdry
      rw [Bool.not_eq_true', Bool.not_eq_false] at hok
      exact absurd (hlook.gate hf hdry hok) h

/-! ## The proxy that was swapped -/

/-- The property of a run: where the fix has read a `ProxyServer` that is not
local, `ProxyEnable` is not set to 0. -/
def SparesRemote (o : Outcome Answer World GuardianResult) : Prop :=
  ∀ fix, o.value.remediation = some fix →
    (parseProxyServer fix.before.proxyServer).isLocalhostProxy = false → ¬ DisablesProxy o.trace

/-- The guardian's look opens the gate; then others put a proxy in place that is
not local, so that the fix's query of `ProxyServer`, two ticks on, meets it;
and the `reg add` of the fix, four ticks later, succeeds. -/
def Overtaken (env : Nat → Tick) (flags : GuardianFlags) (w : World) : Prop :=
  let look := runOn env (guardianLook flags) w
  flags.Gate look.value ∧
    (parseProxyServer (look.state.seen env 2 .proxyServer)).isLocalhostProxy = false ∧
    (env (look.state.clock + 6)).command.succeeded = true

/-- The fix reports what it has read. -/
theorem applyProxyFix_before (env : Nat → Tick) (w : World) :
    (runOn env (applyProxyFix false confirmationPhrase false) w).value.before.proxyServer =
      w.seen env 2 .proxyServer := by
  rw [applyProxyFix_live, runOn, value_bind]
  rw [mutateProxy_before env _ false _]
  rfl

theorem applyProxyFix_disables_iff (env : Nat → Tick) (w : World) :
    DisablesProxy (runOn env (applyProxyFix false confirmationPhrase false) w).trace ↔
      (env (w.clock + 6)).command.succeeded = true := by
  rw [applyProxyFix_live, runOn, trace_bind, disablesProxy_append,
    or_iff_right (KeepsEnabled.not_disablesProxy env
      (KeepsValues.keepsEnabled (readForFix_keepsValues false)) w)]
  exact mutateProxy_disables_iff env _ false _

theorem record_keepsValues (event : String) (row : GuardianResult) :
    Asks KeepsValues (record event row) := ⟨nofun, fun _ => trivial⟩

/-- A guardian that passes the gate reports the fix it called, and disables what
the fix disables. -/
theorem guardian_gate {env : Nat → Tick} {flags : GuardianFlags} {w : World}
    (hgate : flags.Gate (runOn env (guardianLook flags) w).value) :
    let fix := runOn env (applyProxyFix false confirmationPhrase false)
      (runOn env (guardianLook flags) w).state
    let o := runOn env (runDeadProxyGuardianOnce flags) w
    o.value.remediation = some fix.value ∧ (DisablesProxy o.trace ↔ DisablesProxy fix.trace) := by
  obtain ⟨finding, hact⟩ := guardianAct_gate hgate
  have hlook := KeepsEnabled.not_disablesProxy env
    (KeepsValues.keepsEnabled (Harmless.keepsValues (guardianLook_harmless flags))) w
  dsimp only
  constructor
  · rw [runDeadProxyGuardianOnce, runOn, value_bind, hact, value_bind]
    rfl
  · rw [runDeadProxyGuardianOnce, runOn, trace_bind, hact, trace_bind, disablesProxy_append,
      disablesProxy_append, or_iff_right hlook, or_iff_left]
    exact KeepsEnabled.not_disablesProxy env (KeepsValues.keepsEnabled (record_keepsValues _ _)) _

theorem guardian_idle {env : Nat → Tick} {flags : GuardianFlags} {w : World}
    (hgate : ¬ flags.Gate (runOn env (guardianLook flags) w).value) :
    (runOn env (runDeadProxyGuardianOnce flags) w).value.remediation = none ∧
      (runOn env (runDeadProxyGuardianOnce flags) w).value.actionTaken ≠ .remediated := by
  obtain ⟨event, row, hact, hrow⟩ := guardianAct_idle (guardianLook_sound env flags w) hgate
  rw [runDeadProxyGuardianOnce, runOn, value_bind, hact]
  exact hrow

/-- In every run of the guardian among other writers, a proxy that is not local
when the fix reads it stays enabled, exactly unless the writers overtook the
guardian. -/
theorem guardian_sparesRemote_iff (env : Nat → Tick) (flags : GuardianFlags) (w : World) :
    SparesRemote (runOn env (runDeadProxyGuardianOnce flags) w) ↔ ¬ Overtaken env flags w := by
  by_cases hgate : flags.Gate (runOn env (guardianLook flags) w).value
  · obtain ⟨hremediation, hdisables⟩ := guardian_gate hgate
    rw [applyProxyFix_disables_iff] at hdisables
    have hbefore := applyProxyFix_before env (runOn env (guardianLook flags) w).state
    constructor
    · rintro hspares ⟨-, hremote, hok⟩
      refine hspares _ hremediation ?_ (hdisables.mpr hok)
      rw [hbefore]
      exact hremote
    · intro hnot fix hfix hremote hdisabled
      obtain rfl := Option.some.inj (hremediation.symm.trans hfix)
      rw [hbefore] at hremote
      exact hnot ⟨hgate, hremote, hdisables.mp hdisabled⟩
  · constructor
    · rintro - ⟨hopen, -⟩
      exact hgate hopen
    · intro _ fix hfix
      rw [(guardian_idle hgate).1] at hfix
      cases hfix

/-- A dead local proxy. -/
def deadProxy : World :=
  { registry := { proxyEnable := some 1, proxyServer := some "127.0.0.1:8080" } }

/-- The guardian as `run_auto_fix_proxy` calls it. -/
def clearDead : GuardianFlags := { dryRun := false, confirm := confirmClearDead }

/-- A writer that puts a corporate proxy in place between the guardian's last
request and the fix's first. -/
def swappedProxy (n : Nat) : Tick :=
  if n = 6 then { writes := [.value .proxyServer (some "proxy.corp.example:8080")] } else {}

theorem swapped_remote_disabled :
    let o := runOn swappedProxy (runDeadProxyGuardianOnce clearDead) deadProxy
    ¬ SparesRemote o ∧ o.state.registry.proxyEnable = some 0 ∧
      o.state.registry.proxyServer = some "proxy.corp.example:8080" := by
  refine ⟨?_, by decide +kernel, by decide +kernel⟩
  intro hspares
  have hgate : clearDead.Gate (runOn swappedProxy (guardianLook clearDead) deadProxy).value := by
    decide +kernel
  obtain ⟨hremediation, hdisables⟩ := guardian_gate hgate
  refine hspares _ hremediation ?_ (hdisables.mpr ?_)
  · rw [applyProxyFix_before]
    decide +kernel
  · rw [applyProxyFix_disables_iff]
    decide +kernel

/-! ### Writers that stay local -/

/-- A write that leaves a local proxy local. -/
def Write.Local : Write → Prop
  | .value .proxyServer server => (parseProxyServer server).isLocalhostProxy = true
  | _ => True

/-- The server in the registry is local. -/
def World.Local (w : World) : Prop :=
  (parseProxyServer w.registry.proxyServer).isLocalhostProxy = true

theorem World.Local.write {w : World} (h : w.Local) {x : Write} (hx : x.Local) :
    (w.write x).Local := by
  match x with
  | .value .proxyServer server => exact hx
  | .value .proxyEnable _ => exact h
  | .value .autoConfigUrl _ => exact h
  | .value .autoDetect _ => exact h
  | .value .proxyOverride _ => exact h
  | .connection _ _ => exact h

theorem World.Local.pass {w : World} (h : w.Local) {t : Tick} (ht : ∀ x ∈ t.writes, x.Local) :
    (w.pass t).Local := by
  show (t.writes.foldl World.write w).Local
  revert ht
  generalize t.writes = writes
  induction writes generalizing w with
  | nil => exact fun _ => h
  | cons x rest ih =>
    intro ht
    exact ih (h.write (ht x List.mem_cons_self)) fun y hy => ht y (List.mem_cons_of_mem x hy)

theorem World.Local.answer {env : Nat → Tick} (henv : ∀ n, ∀ x ∈ (env n).writes, x.Local)
    {w : World} (h : w.Local) {r : Request} (hr : Harmless r) : (answer env w r).2.Local := by
  have hpass := h.pass (henv w.clock)
  cases r with
  | reg command => exact absurd hr (by simp [Harmless, Request.mutates])
  | setConnection name bytes => exact absurd hr (by simp [Harmless, Request.mutates])
  | _ => exact hpass

/-- Writers that never write a remote server do not overtake the guardian. -/
theorem not_overtaken_of_local {env : Nat → Tick} (hanswered : ∀ n, (env n).answered = true)
    (henv : ∀ n, ∀ x ∈ (env n).writes, x.Local) (flags : GuardianFlags) (w : World) :
    ¬ Overtaken env flags w := by
  have hseen : ∀ (w : World) n, w.seen env n .proxyServer = (w.later env (n + 1)).registry.proxyServer :=
    fun w n => if_pos (hanswered (w.clock + n))
  rintro ⟨hgate, hremote, -⟩
  -- the server was local when the guardian read it, and nothing has changed that since
  have hread : (w.later env 2).Local := by
    have hlocal := hgate.2.1
    rw [Look.localhostEnabled, Bool.and_eq_true, Bool.and_eq_true] at hlocal
    have hserver := hlocal.1.2
    rw [Look.parsed, guardianLook_reg] at hserver
    have : (runOn env readProxyRegistry w).value.proxyServer = w.seen env 1 .proxyServer := rfl
    rwa [this, hseen] at hserver
  have hfive : (runOn env readProxyRegistry w).state.Local := by
    show (((w.later env 2).pass _).pass _ |>.pass _).Local
    exact ((hread.pass (henv _)).pass (henv _)).pass (henv _)
  have hlook : (runOn env (guardianLook flags) w).state.Local := by
    rw [guardianLook, runOn, state_bind]
    exact (lookFurther_looks flags _).keeps (fun _ _ hr h => h.answer henv hr.harmless) hfive
  have hthree : ((runOn env (guardianLook flags) w).state.later env 3).Local :=
    ((hlook.pass (henv _)).pass (henv _)).pass (henv _)
  rw [hseen] at hremote
  exact absurd hthree (by rw [World.Local, hremote]; exact Bool.false_ne_true)

end ProxyDrift
