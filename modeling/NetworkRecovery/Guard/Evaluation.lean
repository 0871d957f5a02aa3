import NetworkRecovery.Proxy.Parser
import NetworkRecovery.Python.Builtins

/-!
# The verdict on a proxy change

`evaluate_proxy_transition` of `guard_evaluation.py`, with the allowlist
policy (`policy.py`) it asks: what the guard thinks of the step from one
snapshot of the HKCU proxy values to the next.

Names, paths and URLs are compared in lower case on BOTH sides, so the whole
of `str.lower` matters here. It is the parameter `lower` of the functions that
use it.
-/

namespace ProxyGuard

open Python

/-! ## Snapshots -/

/-- `ProxyRegistrySnapshot`: the five HKCU values. -/
structure ProxyRegistrySnapshot where
  proxyEnable : Option Int := none
  proxyServer : Option String := none
  proxyOverride : Option String := none
  autoConfigUrl : Option String := none
  autoDetect : Option Int := none
  deriving DecidableEq

/-- `ProxySnapshot`: the HKCU values with WinHTTP's, those of Git, npm and the
user's environment, and the time of capture. -/
structure ProxySnapshot extends ProxyRegistrySnapshot where
  winhttpProxy : String := ""
  winhttpDirectAccess : Bool := false
  winhttpProxyServerLiteral : Option String := none
  gitHttpProxy : Option String := none
  gitHttpsProxy : Option String := none
  npmProxy : Option String := none
  npmHttpsProxy : Option String := none
  userHttpProxy : Option String := none
  userHttpsProxy : Option String := none
  userAllProxy : Option String := none
  userNoProxy : Option String := none
  capturedAt : String := ""
  deriving DecidableEq

/-- `hkcu_proxy_core_tuple`. -/
abbrev ProxySnapshot.core (snapshot : ProxySnapshot) : ProxyRegistrySnapshot :=
  snapshot.toProxyRegistrySnapshot

/-- `disabling_transition_allowed`. -/
def disablingTransitionAllowed (prior curr : ProxySnapshot) : Bool :=
  prior.proxyEnable.getD 0 == 1 && curr.proxyEnable.getD 0 == 0

/-! ## Attribution -/

/-- `AttributionMode`. -/
inductive AttributionMode where
  | verifiedEventlog
  | bestEffort
  | unknown
  deriving DecidableEq

structure ProcessIdentity where
  pid : Option Int
  exe : Option String
  name : Option String

structure AttributionResult where
  mode : AttributionMode
  process : Option ProcessIdentity

/-- The part of a Windows path behind the drive and the root, as `pathlib`
splits them. -/
def windowsTail (path : List Char) : List Char :=
  let p := path.map fun c => if c = '/' then '\\' else c
  let afterNext (s : List Char) := (s.dropWhile (· != '\\')).drop 1
  match p with
  | '\\' :: '\\' :: rest =>
    -- a share or a device: its first two components are the drive
    let device := ['?', '\\', 'u', 'n', 'c', '\\']
    let rest := if lower (rest.take 6) = device then rest.drop 6 else rest
    afterNext (afterNext rest)
  | '\\' :: rest => rest
  | _ :: ':' :: '\\' :: rest => rest
  | _ :: ':' :: rest => rest
  | _ => p

/-- `PureWindowsPath(path).name`. -/
def windowsName (path : List Char) : List Char :=
  (((windowsTail path).splitOn '\\').filter fun part => part ≠ [] ∧ part ≠ ['.']).getLast?.getD []

section Lower

variable (lower : List Char → List Char)

/-- `_exe_basename_candidate`. -/
def exeBasenameCandidate (exe name : Option String) : Option (List Char) :=
  match exe.filter (!·.isEmpty) with
  | some exe => some (lower (windowsName (stripChars ['"'] (strip exe.toList))))
  | none => (name.filter (!·.isEmpty)).map fun name => lower name.toList

/-- A path without quotes, in lower case, with backslashes. -/
def normalizedPath (path : String) : List Char :=
  (lower (stripChars ['"'] (strip path.toList))).map fun c => if c = '/' then '\\' else c

/-- `exe_path_trusted`. -/
def exePathTrusted (candidate : Option String) (prefixes : List String) : Bool :=
  match candidate.filter (!·.isEmpty) with
  | none => false
  | some candidate =>
    let norm := normalizedPath lower candidate
    prefixes.any fun pref =>
      let root := (normalizedPath lower pref).rdropWhile (· == '\\')
      !root.isEmpty && root.isPrefixOf norm

/-- `attribution_to_owner_rows`. -/
def attributionToOwnerRows (attribution : AttributionResult) : List Dict :=
  match attribution.process with
  | none => []
  | some process =>
    match exeBasenameCandidate lower process.exe process.name with
    | none | some [] => []
    | some basename =>
      [[("process_name", .str (.ofList basename)),
        ("pid", (process.pid.map Value.int).getD .none)]]

/-! ## The allowlist -/

/-- `PolicyDecision`. -/
structure PolicyDecision where
  allowed : Bool
  reason : String
  matchedRule : Option String
  primaryProcessName : Option String

/-- `ProxyGuardPolicy`. -/
structure ProxyGuardPolicy where
  allowedProcessNameSubstrings : List String := []
  allowedProcessNamesExact : List String := []
  allowWhenAttributionEmpty : Bool := false
  trustedExePaths : List String := []
  allowedAutoconfigUrlSubstrings : List String := []
  observeOnlyWhenUnknownAttribution : Bool := false

/-- The name of a row, if it is a string. -/
def rowName (row : Dict) : Option String :=
  match row.get? "process_name" with
  | some (.str name) => some name
  | _ => none

/-- The rule a row satisfies: an exact one first. -/
def ProxyGuardPolicy.matchRow (policy : ProxyGuardPolicy) (row : Dict) : Option (String × String) :=
  match rowName row with
  | none => none
  | some name =>
    if (strip name.toList).isEmpty then none
    else
      let lowered := lower name.toList
      match policy.allowedProcessNamesExact.find? fun exact => lowered = lower exact.toList with
      | some exact => some ("exact_process_name_match", "exact:" ++ exact)
      | none =>
        (policy.allowedProcessNameSubstrings.find? fun sub =>
          contains (lower sub.toList) lowered).map fun sub =>
            ("substring_process_name_match", "substring:" ++ sub)

/-- `ProxyGuardPolicy.evaluate`. -/
def ProxyGuardPolicy.evaluate (policy : ProxyGuardPolicy) (rows : List Dict) : PolicyDecision :=
  match rows with
  | [] =>
    if policy.allowWhenAttributionEmpty then
      ⟨true, "no_attribution_allowed_by_policy_flag", some "allow_when_attribution_empty", none⟩
    else ⟨false, "no_attribution_default_deny", none, none⟩
  | first :: _ =>
    let primary := (rowName first).map fun name => String.ofList (lower name.toList)
    let hit := rows.findSome? fun row =>
      (policy.matchRow lower row).map fun rule => (rule, rowName row)
    match hit with
    | some ((reason, rule), name) =>
      let lowered := name.map fun name => String.ofList (lower name.toList)
      ⟨true, reason, some rule, if primary.any (!·.isEmpty) then primary else lowered⟩
    | none => ⟨false, "no_whitelist_match_default_deny", none, primary⟩

/-! ## The verdict -/

/-- `GuardDecisionKind`. -/
inductive GuardDecision where
  | allowed
  | blocked
  | observe
  deriving DecidableEq

/-- `ProxyPathComposite`. -/
inductive PathState where
  | direct
  | latentMisconfig
  | loopbackOperational
  | loopbackBroken
  | enterprisePac
  deriving DecidableEq

/-- `ProxyGuardPolicyDecision`; `rollback_required` is never set. -/
structure Verdict where
  decision : GuardDecision
  reason : String
  matchedRule : Option String := none
  rollbackAllowed : Bool := false

/-- A change that may be rolled back. -/
def Verdict.block (reason : String) (matchedRule : Option String := none) : Verdict :=
  ⟨.blocked, reason, matchedRule, true⟩

/-- The allowed substring a new PAC URL contains. -/
def autoconfigRule (policy : ProxyGuardPolicy) (pac : List Char) : Option String :=
  policy.allowedAutoconfigUrlSubstrings.find? fun s => contains (lower s.toList) (lower pac)

/-- `_norm_str`. -/
def normStr (s : Option String) : List Char := strip (s.getD "").toList

/-- What the allowlist says of the process behind the change. -/
def processVerdict (policy : ProxyGuardPolicy) (attribution : AttributionResult) : Verdict :=
  let pd := policy.evaluate lower (attributionToOwnerRows lower attribution)
  if pd.allowed then ⟨.allowed, pd.reason, pd.matchedRule, false⟩
  else if policy.observeOnlyWhenUnknownAttribution &&
      (attribution.mode = .unknown || attribution.process.isNone) then
    ⟨.observe, "observe_only_unknown_attribution_user_manual_mode", none, false⟩
  else .block pd.reason

/-- What is said of a loopback proxy, if anything. -/
def loopbackVerdict (policy : ProxyGuardPolicy) (attribution : AttributionResult)
    (portListen : Option Bool) (path : Option PathState) : Option Verdict :=
  if path = some .loopbackBroken then
    some (.block "loopback_proxy_path_non_operational" (some "proxy_path_operational"))
  else if path = some .loopbackOperational then
    some ⟨.allowed, "loopback_path_operational_observe", some "proxy_path_operational", false⟩
  else
    let pd := policy.evaluate lower (attributionToOwnerRows lower attribution)
    let trustedPath := attribution.process.any fun process =>
      exePathTrusted lower process.exe policy.trustedExePaths
    let listenerOk := portListen = some true
    if listenerOk ∨ trustedPath ∨ attribution.mode = .verifiedEventlog ∨ pd.allowed then
      let fallback := if listenerOk then "localhost_listener_present" else "trusted_override"
      some ⟨.allowed, "localhost_loopback_policy_allow",
        some ((pd.matchedRule.filter (!·.isEmpty)).getD fallback), false⟩
    else if portListen = some false then
      some (.block "loopback_proxy_without_listener_and_untrusted")
    else none

/-- `evaluate_proxy_transition`. -/
def evaluateProxyTransition (priorSnap currSnap : ProxySnapshot) (parsedAfter : ParsedProxy)
    (attribution : AttributionResult) (policy : ProxyGuardPolicy) (portListen : Option Bool)
    (path : Option PathState) : Verdict :=
  let pac := normStr currSnap.autoConfigUrl
  if priorSnap.core = currSnap.core then ⟨.observe, "no_op_registry_core", none, false⟩
  else if disablingTransitionAllowed priorSnap currSnap then
    ⟨.allowed, "proxy_disable_transition_allowed_default", none, false⟩
  else if normStr priorSnap.autoConfigUrl ≠ pac ∧ pac ≠ [] ∧
      (autoconfigRule lower policy pac).isNone then
    .block "autoconfig_url_change_not_allowlisted"
  else if attribution.mode = .verifiedEventlog ∧ (attribution.process.any fun process =>
      exePathTrusted lower process.exe policy.trustedExePaths) then
    ⟨.allowed, "trusted_exe_path_verified_eventlog", some "trusted_exe_paths", false⟩
  else
    let loopback :=
      if parsedAfter.isLocalhostProxy then
        loopbackVerdict lower policy attribution portListen path
      else none
    loopback.getD (processVerdict lower policy attribution)

/-- A block that may be rolled back, or no block. -/
def Verdict.Reversible (v : Verdict) : Prop := v.decision = .blocked → v.rollbackAllowed = true

theorem processVerdict_reversible (policy : ProxyGuardPolicy) (attribution : AttributionResult) :
    (processVerdict lower policy attribution).Reversible := by
  unfold processVerdict
  dsimp only
  split
  · exact fun h => absurd h (by simp)
  · split
    · exact fun h => absurd h (by simp)
    · exact fun _ => rfl

theorem loopbackVerdict_reversible {policy : ProxyGuardPolicy} {attribution : AttributionResult}
    {portListen : Option Bool} {path : Option PathState} {v : Verdict}
    (hv : loopbackVerdict lower policy attribution portListen path = some v) : v.Reversible := by
  unfold loopbackVerdict at hv
  dsimp only at hv
  split at hv
  · obtain rfl := Option.some.inj hv
    exact fun _ => rfl
  · split at hv
    · obtain rfl := Option.some.inj hv
      exact fun h => absurd h (by simp)
    · split at hv
      · obtain rfl := Option.some.inj hv
        exact fun h => absurd h (by simp)
      · split at hv
        · obtain rfl := Option.some.inj hv
          exact fun _ => rfl
        · exact absurd hv (by simp)

/-- A blocked change may always be rolled back. -/
theorem evaluateProxyTransition_reversible (priorSnap currSnap : ProxySnapshot)
    (parsedAfter : ParsedProxy) (attribution : AttributionResult) (policy : ProxyGuardPolicy)
    (portListen : Option Bool) (path : Option PathState) :
    (evaluateProxyTransition lower priorSnap currSnap parsedAfter attribution policy portListen
      path).Reversible := by
  unfold evaluateProxyTransition
  dsimp only
  split
  · exact fun h => absurd h (by simp)
  · split
    · exact fun h => absurd h (by simp)
    · split
      · exact fun _ => rfl
      · split
        · exact fun h => absurd h (by simp)
        · generalize hloop : (if parsedAfter.isLocalhostProxy = true then
            loopbackVerdict lower policy attribution portListen path else none) = loopback
          cases loopback with
          | none => exact processVerdict_reversible lower policy attribution
          | some v =>
            split at hloop
            · exact loopbackVerdict_reversible lower hloop
            · exact absurd hloop (by simp)

/-- Whatever else changes with it: a new PAC URL that is none of the listed ones
is blocked and may be rolled back, unless the proxy is switched off in the same
step. -/
theorem unlistedPac_blocked_iff (priorSnap currSnap : ProxySnapshot) (parsedAfter : ParsedProxy)
    (attribution : AttributionResult) (policy : ProxyGuardPolicy) (portListen : Option Bool)
    (path : Option PathState)
    (hchange : normStr priorSnap.autoConfigUrl ≠ normStr currSnap.autoConfigUrl)
    (hurl : normStr currSnap.autoConfigUrl ≠ [])
    (hunlisted : ∀ s ∈ policy.allowedAutoconfigUrlSubstrings,
      contains (lower s.toList) (lower (normStr currSnap.autoConfigUrl)) = false) :
    let verdict := evaluateProxyTransition lower priorSnap currSnap parsedAfter attribution policy
      portListen path
    verdict.decision = .blocked ∧ verdict.rollbackAllowed = true ↔
      ¬ (priorSnap.proxyEnable = some 1 ∧ currSnap.proxyEnable.getD 0 = 0) := by
  have hcore : priorSnap.core ≠ currSnap.core := by
    intro heq
    have hsame : priorSnap.autoConfigUrl = currSnap.autoConfigUrl :=
      congrArg ProxyRegistrySnapshot.autoConfigUrl heq
    exact hchange (by rw [hsame])
  have hrule : autoconfigRule lower policy (normStr currSnap.autoConfigUrl) = none := by
    refine List.find?_eq_none.mpr fun s hs => ?_
    rw [hunlisted s hs]
    exact Bool.false_ne_true
  have hdisabling : disablingTransitionAllowed priorSnap currSnap = true ↔
      priorSnap.proxyEnable = some 1 ∧ currSnap.proxyEnable.getD 0 = 0 := by
    unfold disablingTransitionAllowed
    rw [Bool.and_eq_true, beq_iff_eq, beq_iff_eq]
    cases priorSnap.proxyEnable with
    | none => simp
    | some enable => simp
  dsimp only
  rw [← hdisabling]
  unfold evaluateProxyTransition
  rw [if_neg hcore]
  by_cases h : disablingTransitionAllowed priorSnap currSnap = true
  · rw [if_pos h]
    exact iff_of_false (fun hblocked => absurd hblocked.1 (by simp)) (not_not.mpr h)
  · rw [if_neg h, if_pos ⟨hchange, hurl, by rw [hrule]; rfl⟩]
    exact iff_of_true ⟨rfl, rfl⟩ h

end Lower

/-- Nothing known about the writer. -/
def unknownWriter : AttributionResult := ⟨.unknown, none⟩

/-- A PAC URL appears next to a proxy that stays on. -/
theorem unlistedPac_blocked_iff_enabled :
    let verdict := evaluateProxyTransition Python.lower
      { proxyEnable := some 1 }
      { proxyEnable := some 1, autoConfigUrl := some "http://pac.example/p.pac" }
      (parseProxyServer none) unknownWriter { allowedAutoconfigUrlSubstrings := ["corp.example"] }
      none none
    verdict.decision = .blocked ∧ verdict.rollbackAllowed = true ↔
      ¬ (some (1 : Int) = some 1 ∧ (some (1 : Int)).getD 0 = 0) :=
  unlistedPac_blocked_iff Python.lower { proxyEnable := some 1 }
    { proxyEnable := some 1, autoConfigUrl := some "http://pac.example/p.pac" }
    (parseProxyServer none) unknownWriter { allowedAutoconfigUrlSubstrings := ["corp.example"] }
    none none (by decide +kernel) (by decide +kernel) (by decide +kernel)

/-- The same URL, and the proxy is switched off with it: allowed. -/
theorem disguisedPac_allowed :
    ¬ ∀ (lower : List Char → List Char) (priorSnap currSnap : ProxySnapshot)
        (parsedAfter : ParsedProxy) (attribution : AttributionResult) (policy : ProxyGuardPolicy)
        (portListen : Option Bool) (path : Option PathState),
      normStr priorSnap.autoConfigUrl ≠ normStr currSnap.autoConfigUrl →
      normStr currSnap.autoConfigUrl ≠ [] →
      (∀ s ∈ policy.allowedAutoconfigUrlSubstrings,
        contains (lower s.toList) (lower (normStr currSnap.autoConfigUrl)) = false) →
      let verdict := evaluateProxyTransition lower priorSnap currSnap parsedAfter attribution policy
        portListen path
      verdict.decision = .blocked ∧ verdict.rollbackAllowed = true := by
  intro h
  have hblocked := h Python.lower { proxyEnable := some 1 }
    { proxyEnable := some 0, autoConfigUrl := some "http://pac.example/p.pac" }
    (parseProxyServer none) unknownWriter {} none none (by decide +kernel) (by decide +kernel)
    (fun _ hs => absurd hs List.not_mem_nil)
  exact absurd hblocked.1 (by decide +kernel)

end ProxyGuard
