import NetworkRecovery.Drift.World

/-!
# The fix

`apply_proxy_fix` of `proxy_fix.py`: read the registry, and with the typed
confirmation set `ProxyEnable` to 0, delete a LOCAL `ProxyServer`, perhaps the
PAC, and the manual-proxy bits of the Connections values. The gate in front of
it is `validate_action_confirmation` of `remediation.py`.

What it protects of a corporate proxy is the server string, not the proxy:
`build_proxy_fix_mutations` disables whatever it finds. So all safety for
remote proxies lies in who calls it and when; `applyProxyFix_live` is what a
caller gets.
-/

namespace ProxyDrift

open Python Interaction
open ProxyGuard (ProxyRegistrySnapshot ParsedProxy parseProxyServer)

/-! ## Reading the registry -/

/-- `read_proxy_registry`: five queries, one after the other. -/
def readProxyRegistry : Repair ProxyRegistrySnapshot := do
  let proxyEnable ← call (.query .proxyEnable)
  let proxyServer ← call (.query .proxyServer)
  let autoConfigUrl ← call (.query .autoConfigUrl)
  let autoDetect ← call (.query .autoDetect)
  let proxyOverride ← call (.query .proxyOverride)
  return { proxyEnable, proxyServer, autoConfigUrl, autoDetect, proxyOverride }

theorem readProxyRegistry_looks : Asks Looks readProxyRegistry :=
  ⟨rfl, fun _ => ⟨rfl, fun _ => ⟨rfl, fun _ => ⟨rfl, fun _ => ⟨rfl, fun _ => trivial⟩⟩⟩⟩⟩

theorem readProxyRegistry_harmless : Asks Harmless readProxyRegistry :=
  readProxyRegistry_looks.mono fun _ => Looks.harmless

/-- On a calm machine the five queries together read one state. -/
theorem readProxyRegistry_calm (probes : Nat → Probe) (w : World) :
    (runOn (calm probes) readProxyRegistry w).value = w.registry := rfl

/-! ## The allowlist -/

/-- `CONFIRMATION_PHRASE`. -/
def confirmationPhrase : String := "DISABLE_WININET_PROXY"

/-- `CONFIRM_CLEAR_PAC`. -/
def confirmClearPac : String := "CLEAR_PAC_TOO"

/-- A row of the allowlist, as far as the validation reads it. -/
structure AllowlistedRemediationAction where
  actionId : String
  requiredConfirmation : String
  allowedRegistryFields : List String
  blockedReason : String := ""

/-- `_ALLOWLIST`. -/
def allowlist : List AllowlistedRemediationAction :=
  [{ actionId := "disable_wininet_proxy"
     requiredConfirmation := confirmationPhrase
     allowedRegistryFields := ["ProxyEnable", "ProxyServer", "AutoConfigURL"] },
   { actionId := "restore_wininet_proxy_from_lkg"
     requiredConfirmation := "RESTORE_WININET_PROXY_FROM_LKG"
     allowedRegistryFields :=
      ["ProxyEnable", "ProxyServer", "AutoConfigURL", "ProxyOverride", "AutoDetect"] },
   { actionId := "stop_proxy_listener"
     requiredConfirmation := "STOP_PROXY_LISTENER"
     allowedRegistryFields := [] },
   { actionId := "stop_proxy_reverter"
     requiredConfirmation := "STOP_PROXY_REVERTER"
     allowedRegistryFields := [] },
   { actionId := "reset_firewall"
     requiredConfirmation := ""
     allowedRegistryFields := []
     blockedReason := "firewall reset is blocked from automatic remediation" },
   { actionId := "disable_adapter"
     requiredConfirmation := ""
     allowedRegistryFields := []
     blockedReason := "adapter disable is blocked from automatic remediation" },
   { actionId := "kill_process"
     requiredConfirmation := ""
     allowedRegistryFields := []
     blockedReason := "process kill is blocked from automatic remediation" },
   { actionId := "delete_certificate"
     requiredConfirmation := ""
     allowedRegistryFields := []
     blockedReason := "certificate deletion is blocked from automatic remediation" },
   { actionId := "broad_registry_cleanup"
     requiredConfirmation := ""
     allowedRegistryFields := []
     blockedReason := "broad registry cleanup is blocked from automatic remediation" }]

inductive Decision where
  | allow
  | preview
  | block
  deriving DecidableEq

/-- `sorted(set(requested) - set(allowed))`. -/
def fieldsNotAllowed (requested allowed : List String) : List String :=
  (requested.filter (· ∉ allowed)).dedup.mergeSort

/-- `validate_action_confirmation`: the decision and its reason. -/
def validateActionConfirmation (actionId : String) (dryRun : Bool) (confirmation : String)
    (requestedRegistryFields : List String) : Decision × String :=
  match allowlist.find? (·.actionId == actionId) with
  | none => (.block, "unknown_action")
  | some action =>
    if action.blockedReason ≠ "" then (.block, action.blockedReason)
    else
      match fieldsNotAllowed requestedRegistryFields action.allowedRegistryFields with
      | [] =>
        if dryRun then (.preview, "dry_run_preview_only")
        else if strip confirmation.toList = [] then (.block, "missing_confirmation")
        else if strip confirmation.toList ≠ action.requiredConfirmation.toList then
          (.block, "confirmation_mismatch")
        else (.allow, "confirmed_allowlisted_action")
      | fields => (.block, "registry_fields_not_allowlisted:" ++ ",".intercalate fields)

/-! ## The mutations -/

/-- A local proxy server that is really there. -/
def clearsServer (proxyServer : Option String) : Bool :=
  (parseProxyServer proxyServer).isLocalhostProxy && proxyServer.any (!·.isEmpty)

/-- `build_proxy_fix_mutations`: the commands, and what is said about them. -/
def buildProxyFixMutations (proxyServer : Option String) (clearPac : Bool) :
    List RegCommand × List String :=
  let server : List RegCommand := if clearsServer proxyServer then [.delete .proxyServer] else []
  let kept :=
    if !clearsServer proxyServer && proxyServer.any (!·.isEmpty) then
      ["ProxyServer not cleared — non-localhost corporate proxy preserved."]
    else []
  let pac : List RegCommand := if clearPac then [.delete .autoConfigUrl] else []
  (.disableProxy :: (server ++ pac),
    [RegCommand.human .disableProxy] ++ server.map RegCommand.human ++ kept ++
      pac.map RegCommand.human ++ ["WinHTTP unchanged; observation is not proof of root cause."])

/-- `RegApplyResult` of `repair/executor.py`. -/
structure RegApplyResult where
  argv : List String
  returncode : Int
  stderr : String
  stdout : String

def RegApplyResult.of (command : RegCommand) : CommandResult → RegApplyResult
  | .exited code stdout stderr => ⟨command.argv, code, stderr, stdout⟩
  | .raised error => ⟨command.argv, -1, error, ""⟩

/-- `apply_mutations`: every command is run, whatever came of those before. -/
def applyMutations (dryRun : Bool) : List RegCommand → Repair (List RegApplyResult)
  | [] => return []
  | command :: rest => do
    let outcome ←
      if dryRun then pure (RegApplyResult.of command (.exited 0 "[dry-run] not executed" ""))
      else RegApplyResult.of command <$> call (.reg command)
    let outcomes ← applyMutations dryRun rest
    return outcome :: outcomes

/-! ## The Connections values -/

/-- The value without its manual-proxy flag and the length of its proxy string. -/
def clearProxyBits (raw : List UInt8) : List UInt8 :=
  let flags := raw.getD 8 0 &&& ~~~2
  ((((raw.set 8 flags).set 12 0).set 13 0).set 14 0).set 15 0

/-- One pass of the loop: whether the value was written, or what went wrong. -/
def clearConnectionValue (name : ConnectionValue) : Repair (Except String Bool) := do
  match ← call (.queryConnection name) with
  | some ⟨true, raw⟩ =>
    if raw.length < 16 ∨ clearProxyBits raw = raw then return .ok false
    else
      match ← call (.setConnection name (clearProxyBits raw)) with
      | .ok () => return .ok true
      | .error e => return .error e
  | _ => return .ok false

/-- The values cleared and the error that ended the loop. -/
def clearConnectionValues : List ConnectionValue → List String →
    Repair (List String × List String)
  | [], cleared => return (cleared, [])
  | name :: rest, cleared => do
    match ← clearConnectionValue name with
    | .error e => return (cleared, [e])
    | .ok written => clearConnectionValues rest (if written then cleared ++ [name.text] else cleared)

def BlobResult.of (cleared errors : List String) : BlobResult where
  clearedValues := cleared
  errors := errors
  actionTaken := if cleared ≠ [] then .cleared else if errors = [] then .unchanged else .failed

/-- `clear_wininet_connection_proxy_blob`. -/
def clearWininetConnectionProxyBlob : Repair BlobResult := do
  match ← call .openConnections with
  | .error e => return .of [] [e]
  | .ok () =>
    let (cleared, errors) ←
      clearConnectionValues [.defaultConnectionSettings, .savedLegacySettings] []
    return .of cleared errors

/-! ## `apply_proxy_fix` -/

def requiredConfirm (clearPac : Bool) : String :=
  if clearPac then confirmClearPac else confirmationPhrase

def requestedFields (reg : ProxyRegistrySnapshot) (clearPac : Bool) : List String :=
  ["ProxyEnable"] ++ (if clearsServer reg.proxyServer then ["ProxyServer"] else []) ++
    (if clearPac then ["AutoConfigURL"] else [])

/-- What every report of the fix has in common. -/
def fixPayload (dryRun : Bool) (reg : ProxyRegistrySnapshot) (clearPac : Bool) (reason : String) :
    FixPayload where
  dryRun := dryRun
  plannedChanges := (buildProxyFixMutations reg.proxyServer clearPac).2
  before := .of reg
  limitations :=
    ["Remediation is preview-only unless confirmed.",
      "Does not prove malware or registry writer identity."]
  actionAllowed := false
  reason := reason

def previewPayload (reg : ProxyRegistrySnapshot) (clearPac : Bool) : FixPayload :=
  let payload := fixPayload true reg clearPac "Dry-run preview only."
  { payload with
    plannedChanges := payload.plannedChanges ++
      ["Also clear manual-proxy flag in HKCU ...\\Internet Settings\\Connections " ++
        "(DefaultConnectionSettings / SavedLegacySettings)."] }

def appliedPayload (reg : ProxyRegistrySnapshot) (clearPac : Bool) (blob : BlobResult)
    (after : ProxyRegistrySnapshot) : FixPayload :=
  { fixPayload false reg clearPac
      "HKCU WinINET proxy fix applied (including Connections blob)." with
    actionAllowed := true
    connectionSettingsBlob := some blob
    after := some (.of after) }

/-- Leaves a custody event behind and returns the report. -/
def withCustody (event : String) (confirmationSupplied : Bool) (payload : FixPayload) :
    Repair FixPayload := do
  let _ ← call (.fixCustody event payload confirmationSupplied)
  return payload

/-- The fix behind its `reg` commands. -/
def finishFix (reg : ProxyRegistrySnapshot) (clearPac : Bool) : Repair FixPayload := do
  let blob ← clearWininetConnectionProxyBlob
  let after ← readProxyRegistry
  withCustody "proxy_fix_applied" true (appliedPayload reg clearPac blob after)

/-- The fix behind its gate. -/
def mutateProxy (reg : ProxyRegistrySnapshot) (clearPac : Bool) : Repair FixPayload := do
  let _ ← applyMutations false (buildProxyFixMutations reg.proxyServer clearPac).1
  finishFix reg clearPac

/-- `apply_proxy_fix` behind its read of the registry. -/
def decideFix (dryRun : Bool) (confirm : String) (clearPac : Bool) (reg : ProxyRegistrySnapshot) :
    Repair FixPayload :=
  let confirmation := if clearPac then confirm else confirmationPhrase
  let typed := "Typed confirmation required: " ++ requiredConfirm clearPac
  if dryRun then withCustody "proxy_fix_preview" false (previewPayload reg clearPac)
  else if confirm ≠ requiredConfirm clearPac then
    withCustody "proxy_fix_blocked" false (fixPayload false reg clearPac typed)
  else
    match validateActionConfirmation "disable_wininet_proxy" false confirmation
        (requestedFields reg clearPac) with
    | (.allow, _) =>
      if clearPac ∧ confirm ≠ confirmClearPac then return fixPayload false reg clearPac typed
      else mutateProxy reg clearPac
    | (_, reason) =>
      return fixPayload false reg clearPac (if reason ≠ "" then reason else typed)

/-- The call of the fix, and what it reads. -/
def readForFix (dryRun : Bool) : Repair ProxyRegistrySnapshot := do
  let _ ← call (.proxyFix dryRun)
  readProxyRegistry

/-- `apply_proxy_fix`. -/
def applyProxyFix (dryRun : Bool) (confirm : String) (clearPac : Bool) : Repair FixPayload := do
  let reg ← readForFix dryRun
  decideFix dryRun confirm clearPac reg

/-! ## What a caller gets -/

theorem fieldsNotAllowed_eq_nil {requested allowed : List String}
    (h : ∀ field ∈ requested, field ∈ allowed) : fieldsNotAllowed requested allowed = [] := by
  have hnone : requested.filter (· ∉ allowed) = [] := by
    apply List.filter_eq_nil_iff.mpr
    intro field hfield
    simpa using h field hfield
  rw [fieldsNotAllowed, hnone]
  exact List.mergeSort_nil

theorem validate_disable (reg : ProxyRegistrySnapshot) :
    validateActionConfirmation "disable_wininet_proxy" false confirmationPhrase
      (requestedFields reg false) = (.allow, "confirmed_allowlisted_action") := by
  have hfields : fieldsNotAllowed (requestedFields reg false)
      ["ProxyEnable", "ProxyServer", "AutoConfigURL"] = [] := by
    apply fieldsNotAllowed_eq_nil
    intro field hfield
    unfold requestedFields at hfield
    split at hfield <;> simp at hfield ⊢ <;> grind
  show (match fieldsNotAllowed (requestedFields reg false)
      ["ProxyEnable", "ProxyServer", "AutoConfigURL"] with
    | [] => _
    | fields => _) = _
  rw [hfields]
  rfl

/-- With the phrase of the two automatic tools the fix goes through. -/
theorem applyProxyFix_live :
    applyProxyFix false confirmationPhrase false =
      readForFix false >>= fun reg => mutateProxy reg false := by
  show (readForFix false >>= decideFix false confirmationPhrase false) = _
  congr 1
  funext reg
  show (match validateActionConfirmation "disable_wininet_proxy" false confirmationPhrase
      (requestedFields reg false) with
    | (.allow, _) => _
    | (_, _) => _) = _
  rw [validate_disable]
  rfl

/-- A request that is no `reg` command. -/
def KeepsValues (r : Request) : Prop := ∀ command, r ≠ .reg command

theorem Harmless.keepsValues {α : Type} {p : Repair α} (hp : Asks Harmless p) :
    Asks KeepsValues p := by
  refine hp.mono ?_
  rintro r hr command rfl
  exact absurd hr (by simp [Harmless, Request.mutates])

theorem readForFix_keepsValues (dryRun : Bool) : Asks KeepsValues (readForFix dryRun) :=
  ⟨nofun, fun _ => Harmless.keepsValues readProxyRegistry_harmless⟩

/-- The requests of the fix behind its commands. -/
def Request.tidies : Request → Bool
  | .setConnection _ _ | .fixCustody _ _ _ => true
  | r => r.looks

/-- A request of the fix behind its commands. -/
def Tidies (r : Request) : Prop := r.tidies = true

theorem Looks.tidies {r : Request} (h : Looks r) : Tidies r := by
  cases r <;> first | rfl | exact absurd h (by simp [Looks, Request.looks])

theorem Tidies.keepsValues {r : Request} (h : Tidies r) : KeepsValues r := by
  rintro command rfl
  exact absurd h (by simp [Tidies, Request.tidies, Request.looks])

theorem clearConnectionValue_tidies (name : ConnectionValue) :
    Asks Tidies (clearConnectionValue name) := by
  refine ⟨rfl, ?_⟩
  intro data
  match data with
  | none => trivial
  | some ⟨false, raw⟩ => trivial
  | some ⟨true, raw⟩ =>
    show Asks Tidies (ite _ _ _)
    split
    · trivial
    · refine ⟨rfl, ?_⟩
      intro result
      cases result <;> trivial

theorem clearConnectionValues_tidies (names : List ConnectionValue) :
    ∀ cleared, Asks Tidies (clearConnectionValues names cleared) := by
  induction names with
  | nil => exact fun _ => trivial
  | cons name rest ih =>
    intro cleared
    apply (clearConnectionValue_tidies name).bind
    intro result
    cases result with
    | error e => trivial
    | ok written => exact ih _

theorem clearBlob_tidies : Asks Tidies clearWininetConnectionProxyBlob := by
  refine ⟨rfl, ?_⟩
  intro opened
  cases opened with
  | error e => trivial
  | ok u =>
    apply (clearConnectionValues_tidies _ _).bind
    exact fun _ => trivial

theorem finishFix_tidies (reg : ProxyRegistrySnapshot) (clearPac : Bool) :
    Asks Tidies (finishFix reg clearPac) := by
  apply clearBlob_tidies.bind
  intro blob
  apply (readProxyRegistry_looks.mono fun _ => Looks.tidies).bind
  exact fun _ => ⟨rfl, fun _ => trivial⟩

theorem finishFix_keepsValues (reg : ProxyRegistrySnapshot) (clearPac : Bool) :
    Asks KeepsValues (finishFix reg clearPac) :=
  (finishFix_tidies reg clearPac).mono fun _ => Tidies.keepsValues

/-- A request other than the one that sets `ProxyEnable` to 0. -/
def KeepsEnabled (r : Request) : Prop := r ≠ .reg .disableProxy

theorem KeepsEnabled.not_disablesProxy {α : Type} (env : Nat → Tick) {p : Repair α}
    (hp : Asks KeepsEnabled p) (w : World) : ¬ DisablesProxy (runOn env p w).trace := by
  rintro ⟨result, -, hmem⟩
  exact hp.mem_trace hmem rfl

theorem KeepsValues.keepsEnabled {α : Type} {p : Repair α} (hp : Asks KeepsValues p) :
    Asks KeepsEnabled p :=
  hp.mono fun _ hr => hr .disableProxy

theorem finishFix_before (env : Nat → Tick) (reg : ProxyRegistrySnapshot) (clearPac : Bool)
    (w : World) : (runOn env (finishFix reg clearPac) w).value.before = .of reg := by
  rw [finishFix, runOn, value_bind, value_bind]
  rfl

/-- The writes of a fix are its commands. -/
theorem asks_applyMutations {P : Request → Prop} {commands : List RegCommand}
    (h : ∀ command ∈ commands, P (.reg command)) : Asks P (applyMutations false commands) := by
  induction commands with
  | nil => trivial
  | cons command rest ih =>
    obtain ⟨hhead, hrest⟩ := List.forall_mem_cons.mp h
    refine ⟨hhead, ?_⟩
    intro result
    apply (ih hrest).bind
    exact fun _ => trivial

theorem applyMutations_keepsEnabled {commands : List RegCommand}
    (h : .disableProxy ∉ commands) : Asks KeepsEnabled (applyMutations false commands) := by
  refine asks_applyMutations fun command hmem heq => h ?_
  rwa [← Request.reg.inj heq]

theorem trace_applyMutations (env : Nat → Tick) (command : RegCommand) (rest : List RegCommand)
    (w : World) :
    (runOn env (applyMutations false (command :: rest)) w).trace =
      ⟨.reg command, (answer env w (.reg command)).1⟩ ::
        (runOn env (applyMutations false rest) (answer env w (.reg command)).2).trace := by
  show (⟨.reg command, _⟩ :: (runOn env (applyMutations false rest >>= _) _).trace) = _
  rw [runOn, trace_bind, exec_pure, List.append_nil]

theorem mutateProxy_before (env : Nat → Tick) (reg : ProxyRegistrySnapshot) (clearPac : Bool)
    (w : World) : (runOn env (mutateProxy reg clearPac) w).value.before = .of reg := by
  rw [mutateProxy, runOn, value_bind]
  exact finishFix_before env reg clearPac _

/-- The first command sets `ProxyEnable` to 0, whatever the server is, and no
other does. -/
theorem mutateProxy_disables_iff (env : Nat → Tick) (reg : ProxyRegistrySnapshot)
    (clearPac : Bool) (w : World) :
    DisablesProxy (runOn env (mutateProxy reg clearPac) w).trace ↔
      (answer env w (.reg .disableProxy)).1.succeeded = true := by
  obtain ⟨rest, hcommands, hrest⟩ : ∃ rest,
      (buildProxyFixMutations reg.proxyServer clearPac).1 = .disableProxy :: rest ∧
        .disableProxy ∉ rest := by
    refine ⟨_, rfl, ?_⟩
    rw [List.mem_append, not_or]
    constructor <;> split <;> simp
  rw [mutateProxy, hcommands, runOn, trace_bind, disablesProxy_append,
    or_iff_left (KeepsEnabled.not_disablesProxy env
      (KeepsValues.keepsEnabled (finishFix_keepsValues reg clearPac)) _)]
  rw [trace_applyMutations, ← List.singleton_append, disablesProxy_append,
    or_iff_left (KeepsEnabled.not_disablesProxy env (applyMutations_keepsEnabled hrest) _)]
  constructor
  · rintro ⟨result, hok, hmem⟩
    obtain rfl := eq_of_heq (Sigma.mk.inj (List.mem_singleton.mp hmem)).2
    exact hok
  · intro hok
    exact ⟨_, hok, List.mem_singleton.mpr rfl⟩

end ProxyDrift
