import NetworkRecovery.Drift.ProxyFix

/-!
# Stopping a listener

`run_stop_listener_workflow` of `stop_listener.py`, with the parts of
`stop_reverter.py` it uses. It kills the parent of the listener first, if that is
asked for, and only then looks at the confirmation for the listener; and it
reports from the exit codes what it has done.

What a `taskkill` terminates is up to the machine, and so is its exit code: it can
terminate some processes of a tree and fail, and the parent's `taskkill` can leave
nothing for the listener's. The report is right, and everything was confirmed,
exactly when no `taskkill` terminates something without success, and the parent's
terminates something only if the listener's then succeeds (`reports_iff`).
-/

namespace StopListener

open Python Interaction
open ProxyDrift (CommandResult Decision allowlist)
open ProxyGuard (parseProxyServer)

/-! ## The machine -/

/-- `PortOwnerRecord`, as far as the resolution reads it. -/
structure PortOwnerRecord where
  pid : Option Int
  processName : Option String
  parentPid : Option Int
  parentName : Option String

/-- What became of a `taskkill`: its exit, which the tool sees, and the processes
that it terminated, which the tool does not see. -/
structure Taskkill where
  exit : CommandResult
  terminated : List Int

inductive Request where
  | proxyServer
  | owners (port : Int)
  | taskkill (pid : Int)

abbrev Request.Answer : Request → Type
  | .proxyServer => Option String
  | .owners _ => List PortOwnerRecord × List String
  | .taskkill _ => Taskkill

/-- A workflow that asks the machine. -/
abbrev Workflow := Prog Request.Answer

def call (r : Request) : Workflow r.Answer := request r

/-- The processes that a request terminated. -/
def killed : Event Request.Answer → List Int
  | ⟨.taskkill _, kill⟩ => kill.terminated
  | ⟨.proxyServer, _⟩ | ⟨.owners _, _⟩ => []

/-- The processes that a run terminated. -/
def terminated (trace : List (Event Request.Answer)) : List Int := trace.flatMap killed

theorem terminated_append (first second : List (Event Request.Answer)) :
    terminated (first ++ second) = terminated first ++ terminated second := List.flatMap_append

/-! ## The target -/

/-- `StopListenerTarget`. -/
structure StopListenerTarget where
  port : Int
  pid : Int
  processName : Option String
  parentPid : Option Int
  parentName : Option String

/-- The port, given or parsed from the registry. -/
def resolvePort : Option Int → Workflow (Option Int)
  | some port => pure (some port)
  | none => do
    let proxyServer ← call .proxyServer
    return (parseProxyServer proxyServer).localhostPort

/-- `resolve_stop_listener_target`. -/
def resolveStopListenerTarget (port : Option Int) :
    Workflow (Option StopListenerTarget × List String) := do
  match ← resolvePort port with
  | none => return (none,
      ["No localhost proxy port parsed from HKCU ProxyServer; pass --port explicitly."])
  | some port =>
    let (owners, notes) ← call (.owners port)
    match owners with
    | [] => return (none, notes ++ ["No listener owner rows resolved; cannot plan taskkill."])
    | primary :: _ =>
      match primary.pid with
      | none => return (none, notes ++ ["Owner row missing PID; cannot plan taskkill."])
      | some pid => return (some ⟨port, pid, primary.processName, primary.parentPid,
          primary.parentName⟩, notes)

/-- `is_eligible_reverter_parent`. -/
def isEligibleReverterParent : Option String → Bool
  | none => false
  | some name =>
    let name := lower (strip name.toList)
    name == "powershell.exe".toList || name == "pwsh.exe".toList

/-- `resolve_reverter_parent_pid`. -/
def resolveReverterParentPid (target : Option StopListenerTarget) : Option Int :=
  match target with
  | none => none
  | some target => if isEligibleReverterParent target.parentName then target.parentPid else none

/-! ## Gates -/

/-- A policy over a row of the allowlist: `absent` says why there is nothing to
stop. -/
def evaluateStopPolicy (actionId phrase : String) (absent : Option String) (dryRun : Bool)
    (confirmation : String) (elevated : Bool) : Decision × String :=
  match allowlist.find? (·.actionId == actionId) with
  | none => (.block, "unknown_action")
  | some action =>
    if action.blockedReason ≠ "" then (.block, action.blockedReason)
    else match absent with
      | some reason => (.block, reason)
      | none =>
        if dryRun then (.preview, "dry_run_preview_only")
        else if strip confirmation.toList = [] then (.block, "missing_confirmation")
        else if strip confirmation.toList ≠ phrase.toList then (.block, "confirmation_mismatch")
        else if !elevated then (.block, "administrator_elevation_required")
        else (.allow, "confirmed_allowlisted_action")

/-- `STOP_PROXY_LISTENER_PHRASE`. -/
def stopProxyListenerPhrase : String := "STOP_PROXY_LISTENER"

/-- `STOP_PROXY_REVERTER_PHRASE`. -/
def stopProxyReverterPhrase : String := "STOP_PROXY_REVERTER"

/-- `evaluate_stop_listener_policy`. -/
def evaluateStopListenerPolicy (target : Option StopListenerTarget) :
    (dryRun : Bool) → (confirmation : String) → (elevated : Bool) → Decision × String :=
  evaluateStopPolicy "stop_proxy_listener" stopProxyListenerPhrase
    (if target.isNone then some "no_listener_pid" else none)

/-- `evaluate_stop_reverter_policy`. -/
def evaluateStopReverterPolicy (target : Option StopListenerTarget) (parentPid : Option Int) :
    (dryRun : Bool) → (confirmation : String) → (elevated : Bool) → Decision × String :=
  evaluateStopPolicy "stop_proxy_reverter" stopProxyReverterPhrase
    (if target.isNone then some "no_listener_pid"
    else if parentPid.isNone then some "no_eligible_parent_pid" else none)

/-- A confirmation that is the phrase, apart from white space around it. -/
def Confirms (confirmation phrase : String) : Prop := strip confirmation.toList = phrase.toList

instance (confirmation phrase : String) : Decidable (Confirms confirmation phrase) :=
  inferInstanceAs (Decidable (_ = _))

/-- What a policy lets through. -/
theorem evaluateStopPolicy_allow {actionId phrase : String} (hphrase : phrase.toList ≠ [])
    (hrow : (allowlist.find? (·.actionId == actionId)).map (·.blockedReason) = some "")
    (absent : Option String) (dryRun : Bool) (confirmation : String) (elevated : Bool) :
    (evaluateStopPolicy actionId phrase absent dryRun confirmation elevated).1 = .allow ↔
      absent = none ∧ dryRun = false ∧ Confirms confirmation phrase ∧ elevated = true := by
  obtain ⟨action, haction, hreason⟩ := Option.map_eq_some_iff.mp hrow
  unfold evaluateStopPolicy Confirms
  rw [haction]
  dsimp only
  rw [if_neg (not_not.mpr hreason)]
  cases absent with
  | some reason => simp
  | none =>
    cases dryRun with
    | true => simp
    | false =>
      by_cases hmissing : strip confirmation.toList = []
      · simp [hmissing, hphrase.symm]
      · by_cases hconfirms : strip confirmation.toList = phrase.toList
        · cases elevated with
          | true => simp [hconfirms, hphrase]
          | false => simp [hconfirms, hphrase]
        · simp [hmissing, hconfirms]

/-! ## Running taskkill -/

/-- `build_taskkill_argv`. -/
def buildTaskkillArgv (pid : Int) : List String := ["taskkill", "/F", "/PID", toString pid, "/T"]

/-- What `execute_taskkill` returns. -/
structure TaskkillResult where
  argv : List String
  returncode : Int
  stdout : String
  stderr : String
  success : Bool

/-- `text[:4000]`. -/
def excerpt (text : String) : String := .ofList (text.toList.take 4000)

/-- The result of an exit. -/
def taskkillResult (pid : Int) : CommandResult → TaskkillResult
  | .exited returncode stdout stderr =>
    ⟨buildTaskkillArgv pid, returncode, excerpt stdout, excerpt stderr, returncode == 0⟩
  | .raised error => ⟨buildTaskkillArgv pid, -1, "", excerpt error, false⟩

theorem taskkillResult_success (pid : Int) (exit : CommandResult) :
    (taskkillResult pid exit).success = exit.succeeded := by
  cases exit with
  | exited returncode stdout stderr => rfl
  | raised error => rfl

/-- `execute_taskkill`. -/
def executeTaskkill (pid : Int) : Workflow TaskkillResult := do
  let kill ← call (.taskkill pid)
  return taskkillResult pid kill.exit

/-! ## The workflow -/

/-- The arguments of `run_stop_listener_workflow`. -/
structure StopOptions where
  dryRun : Bool
  confirmation : String := ""
  stopParentTree : Bool := false
  reverterConfirmation : String := ""
  port : Option Int := none
  elevated : Option Bool := none

/-- The state before, as it is reported. -/
structure Before where
  target : Option StopListenerTarget
  elevated : Bool
  stopParentTree : Bool
  parentPid : Option Int
  parentPlannedArgv : List String

/-- What was done, as it is reported. -/
structure After where
  taskkillResult : Option TaskkillResult := none
  target : Option StopListenerTarget := none
  parentTaskkillResult : Option TaskkillResult := none

/-- `StopListenerResult`. -/
structure StopListenerResult where
  actionId : String := "stop_proxy_listener"
  decision : Decision
  dryRun : Bool
  mutated : Bool
  reason : String
  target : Option StopListenerTarget
  before : Before
  after : Option After
  plannedArgv : List String
  taskkillResult : Option TaskkillResult
  notes : List String

def listenerAttributionLimitation : String :=
  "Listener correlation is not registry-writer proof; stopping the listener may not stop " ++
    "proxy re-enable if another process writes HKCU keys."

/-- The command line for a target, if there is one. -/
def plannedArgv (target : Option StopListenerTarget) : List String :=
  match target with
  | none => []
  | some target => buildTaskkillArgv target.pid

/-- The command line for a parent: a PID 0 counts as none. -/
def parentArgv (parentPid : Option Int) : List String :=
  match parentPid with
  | none => []
  | some pid => if pid = 0 then [] else buildTaskkillArgv pid

section Run

variable (isWindowsAdmin : Bool) (o : StopOptions)

/-- Whether the session is elevated. -/
def StopOptions.isElevated : Bool := o.elevated.getD isWindowsAdmin

/-- The `before` of a report. -/
def reportBefore (target : Option StopListenerTarget) (parentPid : Option Int) : Before where
  target := target
  elevated := o.isElevated isWindowsAdmin
  stopParentTree := o.stopParentTree
  parentPid := parentPid
  parentPlannedArgv := parentArgv parentPid

/-- The report of a parent that the policy blocks. -/
def parentBlocked (target : Option StopListenerTarget) (notes : List String)
    (parentPid : Option Int) (reason : String) : StopListenerResult where
  decision := .block
  dryRun := o.dryRun
  mutated := false
  reason := reason
  target := target
  before := reportBefore isWindowsAdmin o target parentPid
  after := none
  plannedArgv :=
    if parentArgv parentPid = [] then plannedArgv target else parentArgv parentPid
  taskkillResult := none
  notes := listenerAttributionLimitation :: notes

/-- The report of a parent whose `taskkill` failed. -/
def parentFailed (target : Option StopListenerTarget) (notes : List String)
    (parentPid : Option Int) (result : TaskkillResult) : StopListenerResult where
  decision := .block
  dryRun := o.dryRun
  mutated := false
  reason := "parent_taskkill_failed"
  target := target
  before := reportBefore isWindowsAdmin o target parentPid
  after := some { parentTaskkillResult := some result }
  plannedArgv := parentArgv parentPid
  taskkillResult := some result
  notes := listenerAttributionLimitation :: notes

/-- The listener's part, after that of the parent: the parent's result is there if
its `taskkill` ran. -/
def stopTarget (target : Option StopListenerTarget) (notes : List String)
    (parentPid : Option Int) (parentResult : Option TaskkillResult) :
    Workflow StopListenerResult :=
  let policy := evaluateStopListenerPolicy target o.dryRun o.confirmation
    (o.isElevated isWindowsAdmin)
  let report : StopListenerResult :=
    { decision := policy.1
      dryRun := o.dryRun
      mutated := false
      reason := policy.2
      target := target
      before := reportBefore isWindowsAdmin o target parentPid
      after := none
      plannedArgv := plannedArgv target
      taskkillResult := none
      notes := listenerAttributionLimitation :: notes }
  match policy.1, target with
  | .allow, some listener => do
    let result ← executeTaskkill listener.pid
    let mutated := result.success && parentResult.all (·.success)
    return { report with
      decision := if mutated then .allow else .block
      mutated := mutated
      reason := if mutated then policy.2 else "taskkill_failed"
      after := some
        { taskkillResult := some result
          target := target
          parentTaskkillResult := parentResult }
      taskkillResult := some result }
  | _, _ => return report

/-- The live run that kills the parent first. -/
def stopParentFirst (target : Option StopListenerTarget) (notes : List String) :
    Workflow StopListenerResult :=
  let parentPid := resolveReverterParentPid target
  match evaluateStopReverterPolicy target parentPid false o.reverterConfirmation
    (o.isElevated isWindowsAdmin) with
  | (.allow, _) =>
    match parentPid with
    | none => stopTarget isWindowsAdmin o target notes parentPid none
    | some pid => do
      let result ← executeTaskkill pid
      if result.success then stopTarget isWindowsAdmin o target notes parentPid (some result)
      else return parentFailed isWindowsAdmin o target notes parentPid result
  | (_, reason) => return parentBlocked isWindowsAdmin o target notes parentPid reason

/-- `run_stop_listener_workflow`. -/
def runStopListenerWorkflow : Workflow StopListenerResult := do
  let (target, notes) ← resolveStopListenerTarget o.port
  if o.stopParentTree then
    if o.dryRun then
      stopTarget isWindowsAdmin o target notes (resolveReverterParentPid target) none
    else stopParentFirst isWindowsAdmin o target notes
  else stopTarget isWindowsAdmin o target notes none none

end Run

/-! ## What is asked -/

/-- A request that terminates nothing. -/
def Request.Quiet : Request → Prop
  | .taskkill _ => False
  | .proxyServer | .owners _ => True

theorem resolvePort_quiet (port : Option Int) : Asks Request.Quiet (resolvePort port) := by
  cases port with
  | some port => exact .pure _
  | none => exact .bind (.request trivial) fun _ => .pure _

theorem resolveStopListenerTarget_quiet (port : Option Int) :
    Asks Request.Quiet (resolveStopListenerTarget port) := by
  refine .bind (resolvePort_quiet port) fun resolved => ?_
  cases resolved with
  | none => exact .pure _
  | some port =>
    refine .bind (.request trivial) fun (owners, notes) => ?_
    cases owners with
    | nil => exact .pure _
    | cons primary owners =>
      dsimp only
      cases primary.pid with
      | none => exact .pure _
      | some pid => exact .pure _

section Machine

variable {σ : Type} {answer : σ → (r : Request) → r.Answer × σ}

theorem terminated_of_quiet {α : Type} {p : Workflow α} (hp : Asks Request.Quiet p) (s : σ) :
    terminated (exec answer p s).trace = [] := by
  refine List.flatMap_eq_nil_iff.mpr fun e he => ?_
  have hquiet := hp.mem_trace he
  match e, hquiet with
  | ⟨.proxyServer, _⟩, _ => rfl
  | ⟨.owners _, _⟩, _ => rfl

theorem exec_executeTaskkill (pid : Int) (s : σ) :
    exec answer (executeTaskkill pid) s =
      ⟨taskkillResult pid (answer s (.taskkill pid)).1.exit, (answer s (.taskkill pid)).2,
        [⟨.taskkill pid, (answer s (.taskkill pid)).1⟩]⟩ := rfl

/-- The `taskkill` of a target that every gate lets through. -/
def targetCall (answer : σ → (r : Request) → r.Answer × σ) (isWindowsAdmin : Bool) (o : StopOptions)
    (target : Option StopListenerTarget) (s : σ) : Option Taskkill :=
  if o.dryRun = false ∧ Confirms o.confirmation stopProxyListenerPhrase ∧
      o.isElevated isWindowsAdmin = true then
    target.map fun listener => (answer s (.taskkill listener.pid)).1
  else none

theorem evaluateStopListenerPolicy_allow (target : Option StopListenerTarget) (dryRun : Bool)
    (confirmation : String) (elevated : Bool) :
    (evaluateStopListenerPolicy target dryRun confirmation elevated).1 = .allow ↔
      target.isSome ∧ dryRun = false ∧ Confirms confirmation stopProxyListenerPhrase ∧
        elevated = true := by
  rw [evaluateStopListenerPolicy, evaluateStopPolicy_allow (by decide) rfl]
  cases target with
  | none => simp
  | some target => simp

theorem evaluateStopReverterPolicy_allow (target : Option StopListenerTarget)
    (parentPid : Option Int) (dryRun : Bool) (confirmation : String) (elevated : Bool) :
    (evaluateStopReverterPolicy target parentPid dryRun confirmation elevated).1 = .allow ↔
      (target.isSome ∧ parentPid.isSome) ∧ dryRun = false ∧
        Confirms confirmation stopProxyReverterPhrase ∧ elevated = true := by
  rw [evaluateStopReverterPolicy, evaluateStopPolicy_allow (by decide) rfl]
  cases target with
  | none => simp
  | some target =>
    cases parentPid with
    | none => simp
    | some pid => simp

/-- What a run has done, and what it says of it. -/
structure Stops (killed : List Int) (success : Bool)
    (out : Outcome Request.Answer σ StopListenerResult) : Prop where
  terminated : terminated out.trace = killed
  mutated : out.value.mutated = success
  decision : out.value.decision = .allow ↔ success = true

theorem stopTarget_stops (isWindowsAdmin : Bool) (o : StopOptions)
    (target : Option StopListenerTarget) (notes : List String) (parentPid : Option Int)
    {parentResult : Option TaskkillResult} (hparent : parentResult.all (·.success) = true) (s : σ) :
    Stops (((targetCall answer isWindowsAdmin o target s).map (·.terminated)).getD [])
      ((targetCall answer isWindowsAdmin o target s).any (·.exit.succeeded))
      (exec answer (stopTarget isWindowsAdmin o target notes parentPid parentResult) s) := by
  have hallow := evaluateStopListenerPolicy_allow target o.dryRun o.confirmation
    (o.isElevated isWindowsAdmin)
  by_cases hgate : target.isSome ∧ o.dryRun = false ∧
      Confirms o.confirmation stopProxyListenerPhrase ∧ o.isElevated isWindowsAdmin = true
  · obtain ⟨listener, rfl⟩ := Option.isSome_iff_exists.mp hgate.1
    have hsuccess : (taskkillResult listener.pid
        (answer s (.taskkill listener.pid)).1.exit).success =
          (answer s (.taskkill listener.pid)).1.exit.succeeded := taskkillResult_success _ _
    rw [targetCall, if_pos hgate.2]
    unfold stopTarget
    simp only [hallow.mpr hgate, exec_bind, exec_executeTaskkill, exec_pure]
    refine ⟨?_, ?_, ?_⟩
    · simp [terminated, killed]
    · simp [hsuccess, hparent]
    · simp [hsuccess, hparent]
  · have hnone : targetCall answer isWindowsAdmin o target s = none := by
      unfold targetCall
      split
      · next hopen => cases target with
        | none => rfl
        | some listener => exact absurd ⟨rfl, hopen⟩ hgate
      · rfl
    have hpolicy := mt hallow.mp hgate
    have hexec : ∃ report, report.decision ≠ .allow ∧ report.mutated = false ∧
        exec answer (stopTarget isWindowsAdmin o target notes parentPid parentResult) s =
          ⟨report, s, []⟩ := by
      unfold stopTarget
      dsimp only
      split
      · next hallowed => exact absurd hallowed hpolicy
      · exact ⟨_, hpolicy, rfl, rfl⟩
    obtain ⟨report, hdecision, hmutated, hexec⟩ := hexec
    rw [hnone, hexec]
    exact ⟨rfl, hmutated, ⟨fun h => absurd h hdecision, fun h => nomatch h⟩⟩

end Machine

/-! ## Reports -/

section Reports

variable {σ : Type} (answer : σ → (r : Request) → r.Answer × σ) (isWindowsAdmin : Bool)
  (o : StopOptions) (s : σ)

/-- The target, and the machine after it was resolved. -/
def resolution : Option StopListenerTarget × σ :=
  let out := exec answer (resolveStopListenerTarget o.port) s
  (out.value.1, out.state)

/-- The parent's `taskkill`, where every gate of the parent lets it through, and the machine after
it. -/
def parentCall (target : Option StopListenerTarget) (now : σ) : Option (Taskkill × σ) :=
  if o.stopParentTree = true ∧ o.dryRun = false ∧
      Confirms o.reverterConfirmation stopProxyReverterPhrase ∧ o.isElevated isWindowsAdmin = true then
    (resolveReverterParentPid target).map fun pid => answer now (.taskkill pid)
  else none

/-- The listener's `taskkill`, where every gate lets it through. -/
def listenerCall (target : Option StopListenerTarget) (now : σ) : Option Taskkill :=
  if o.stopParentTree = true ∧ o.dryRun = false then
    match parentCall answer isWindowsAdmin o target now with
    | none => none
    | some (kill, later) =>
      if kill.exit.succeeded then targetCall answer isWindowsAdmin o target later else none
  else targetCall answer isWindowsAdmin o target now

/-- Something was terminated only on confirmation, and a report that nothing was done is right. -/
structure Reports (out : Outcome Request.Answer σ StopListenerResult) : Prop where
  confirmed : terminated out.trace ≠ [] →
    o.dryRun = false ∧ o.isElevated isWindowsAdmin = true ∧
      Confirms o.confirmation stopProxyListenerPhrase ∧
      (o.stopParentTree = true → Confirms o.reverterConfirmation stopProxyReverterPhrase)
  reported : out.value.mutated = false ∨ out.value.decision ≠ .allow → terminated out.trace = []

/-- No `taskkill` terminates something without success, and the parent's terminates something only
if the listener's succeeds. -/
structure KillsCleanly (target : Option StopListenerTarget) (now : σ) : Prop where
  parent : ∀ call ∈ parentCall answer isWindowsAdmin o target now, call.1.terminated ≠ [] →
    ∃ kill ∈ listenerCall answer isWindowsAdmin o target now, kill.exit.succeeded = true
  listener : ∀ kill ∈ listenerCall answer isWindowsAdmin o target now, kill.terminated ≠ [] →
    kill.exit.succeeded = true

theorem Stops.after_quiet {α : Type} {p : Workflow α} (hp : Asks Request.Quiet p)
    {f : α → Workflow StopListenerResult} {killed : List Int} {success : Bool} {s : σ}
    {answer : σ → (r : Request) → r.Answer × σ}
    (h : Stops killed success (exec answer (f (exec answer p s).value) (exec answer p s).state)) :
    Stops killed success (exec answer (p >>= f) s) := by
  rw [exec_bind]
  refine ⟨?_, h.mutated, h.decision⟩
  rw [terminated_append, terminated_of_quiet hp, List.nil_append]
  exact h.terminated

variable {answer isWindowsAdmin o}

theorem target_of_parent {target : Option StopListenerTarget} {pid : Int}
    (h : resolveReverterParentPid target = some pid) : target.isSome = true := by
  cases target with
  | none => cases h
  | some target => rfl

/-- A parent that may not be killed: nothing is. -/
theorem stopParentFirst_blocked {target : Option StopListenerTarget} (notes : List String)
    (hblocked : (evaluateStopReverterPolicy target (resolveReverterParentPid target) false
      o.reverterConfirmation (o.isElevated isWindowsAdmin)).1 ≠ .allow) (now : σ) :
    Stops [] false (exec answer (stopParentFirst isWindowsAdmin o target notes) now) := by
  unfold stopParentFirst
  dsimp only
  split
  · next hpolicy => exact absurd (congrArg Prod.fst hpolicy) hblocked
  · exact ⟨rfl, rfl, ⟨(nomatch ·), (nomatch ·)⟩⟩

/-- A parent that is killed: the listener's turn comes if that succeeds. -/
theorem stopParentFirst_confirmed {target : Option StopListenerTarget} (notes : List String)
    {pid : Int} (hpid : resolveReverterParentPid target = some pid)
    (hpolicy : (evaluateStopReverterPolicy target (resolveReverterParentPid target) false
      o.reverterConfirmation (o.isElevated isWindowsAdmin)).1 = .allow) (now : σ) :
    exec answer (stopParentFirst isWindowsAdmin o target notes) now =
      let kill := answer now (.taskkill pid)
      let result := taskkillResult pid kill.1.exit
      let rest := exec answer (if result.success then
          stopTarget isWindowsAdmin o target notes (some pid) (some result)
        else pure (parentFailed isWindowsAdmin o target notes (some pid) result)) kill.2
      ⟨rest.value, rest.state, ⟨.taskkill pid, kill.1⟩ :: rest.trace⟩ := by
  unfold stopParentFirst
  rcases hval : evaluateStopReverterPolicy target (resolveReverterParentPid target) false
    o.reverterConfirmation (o.isElevated isWindowsAdmin) with ⟨decision, reason⟩
  rw [hval] at hpolicy
  obtain rfl : decision = .allow := hpolicy
  rw [hpid] at hval ⊢
  simp only [hval]
  rfl

theorem stopParentFirst_stops (htree : o.stopParentTree = true) (hdry : o.dryRun = false)
    (target : Option StopListenerTarget) (notes : List String) (now : σ) :
    Stops (((parentCall answer isWindowsAdmin o target now).map (·.1.terminated)).getD [] ++
        ((listenerCall answer isWindowsAdmin o target now).map (·.terminated)).getD [])
      ((listenerCall answer isWindowsAdmin o target now).any (·.exit.succeeded))
      (exec answer (stopParentFirst isWindowsAdmin o target notes) now) := by
  have hallow := evaluateStopReverterPolicy_allow target (resolveReverterParentPid target) false
    o.reverterConfirmation (o.isElevated isWindowsAdmin)
  rw [listenerCall, if_pos ⟨htree, hdry⟩]
  cases hcall : parentCall answer isWindowsAdmin o target now with
  | none =>
    refine stopParentFirst_blocked notes (fun hpolicy => ?_) now
    obtain ⟨⟨-, hparent⟩, -, hgate⟩ := hallow.mp hpolicy
    rw [parentCall, if_pos ⟨htree, hdry, hgate⟩, Option.map_eq_none_iff] at hcall
    rw [hcall] at hparent
    cases hparent
  | some kill =>
    obtain ⟨hgate, hmap⟩ : _ ∧ _ := by
      unfold parentCall at hcall
      split at hcall
      · next hgate => exact ⟨hgate, hcall⟩
      · cases hcall
    obtain ⟨pid, hpid, rfl⟩ := Option.map_eq_some_iff.mp hmap
    have hpolicy := hallow.mpr ⟨⟨target_of_parent hpid, by rw [hpid]; rfl⟩, rfl, hgate.2.2⟩
    have hsuccess : (taskkillResult pid (answer now (.taskkill pid)).1.exit).success =
        (answer now (.taskkill pid)).1.exit.succeeded := taskkillResult_success _ _
    rw [stopParentFirst_confirmed notes hpid hpolicy]
    dsimp only
    rw [hsuccess]
    cases hsucceeded : (answer now (.taskkill pid)).1.exit.succeeded with
    | false =>
      refine ⟨?_, rfl, ⟨(nomatch ·), (nomatch ·)⟩⟩
      simp [terminated, killed]
    | true =>
      have hparent : (some (taskkillResult pid (answer now (.taskkill pid)).1.exit)).all
          (·.success) = true := hsuccess.trans hsucceeded
      have hrest : Stops _ _ (exec answer _ _) :=
        stopTarget_stops isWindowsAdmin o target notes (some pid) hparent
          (answer now (.taskkill pid)).2
      refine ⟨?_, hrest.mutated, hrest.decision⟩
      exact congrArg ((answer now (.taskkill pid)).1.terminated ++ ·) hrest.terminated

variable (answer isWindowsAdmin o) in
theorem runStopListenerWorkflow_stops :
    Stops (((parentCall answer isWindowsAdmin o (resolution answer o s).1
          (resolution answer o s).2).map (·.1.terminated)).getD [] ++
        ((listenerCall answer isWindowsAdmin o (resolution answer o s).1
          (resolution answer o s).2).map (·.terminated)).getD [])
      ((listenerCall answer isWindowsAdmin o (resolution answer o s).1
        (resolution answer o s).2).any (·.exit.succeeded))
      (exec answer (runStopListenerWorkflow isWindowsAdmin o) s) := by
  refine .after_quiet (resolveStopListenerTarget_quiet o.port) ?_
  unfold resolution
  generalize exec answer (resolveStopListenerTarget o.port) s = found
  obtain ⟨⟨target, notes⟩, now, trace⟩ := found
  dsimp only
  by_cases hlive : o.stopParentTree = true ∧ o.dryRun = false
  · rw [if_pos hlive.1, hlive.2]
    exact stopParentFirst_stops hlive.1 hlive.2 target notes now
  · have hparent : parentCall answer isWindowsAdmin o target now = none :=
      if_neg fun hgate => hlive ⟨hgate.1, hgate.2.1⟩
    rw [hparent, listenerCall, if_neg hlive]
    cases htree : o.stopParentTree with
    | false => exact stopTarget_stops isWindowsAdmin o target notes none rfl now
    | true =>
      cases hdry : o.dryRun with
      | false => exact absurd ⟨htree, hdry⟩ hlive
      | true => exact stopTarget_stops isWindowsAdmin o target notes _ rfl now

theorem parentCall_gate {target : Option StopListenerTarget} {now : σ} {call : Taskkill × σ}
    (h : parentCall answer isWindowsAdmin o target now = some call) :
    Confirms o.reverterConfirmation stopProxyReverterPhrase := by
  unfold parentCall at h
  split at h
  · next hgate => exact hgate.2.2.1
  · cases h

theorem targetCall_gate {target : Option StopListenerTarget} {now : σ} {kill : Taskkill}
    (h : targetCall answer isWindowsAdmin o target now = some kill) :
    o.dryRun = false ∧ Confirms o.confirmation stopProxyListenerPhrase ∧
      o.isElevated isWindowsAdmin = true := by
  unfold targetCall at h
  split at h
  · next hgate => exact hgate
  · cases h

/-- The listener's `taskkill` runs only after every gate. -/
theorem listenerCall_gate {target : Option StopListenerTarget} {now : σ} {kill : Taskkill}
    (h : listenerCall answer isWindowsAdmin o target now = some kill) :
    o.dryRun = false ∧ o.isElevated isWindowsAdmin = true ∧
      Confirms o.confirmation stopProxyListenerPhrase ∧
      (o.stopParentTree = true → Confirms o.reverterConfirmation stopProxyReverterPhrase) := by
  unfold listenerCall at h
  split at h
  · split at h
    · cases h
    · next call hparent =>
      split at h
      · obtain ⟨hdry, hconfirms, helevated⟩ := targetCall_gate h
        exact ⟨hdry, helevated, hconfirms, fun _ => parentCall_gate hparent⟩
      · cases h
  · next hnot =>
    obtain ⟨hdry, hconfirms, helevated⟩ := targetCall_gate h
    exact ⟨hdry, helevated, hconfirms, fun htree => absurd ⟨htree, hdry⟩ hnot⟩

/-- It kills cleanly if the listener's `taskkill` succeeds whenever something is terminated. -/
theorem killsCleanly_iff (target : Option StopListenerTarget) (now : σ) :
    KillsCleanly answer isWindowsAdmin o target now ↔
      (((parentCall answer isWindowsAdmin o target now).map (·.1.terminated)).getD [] ++
          ((listenerCall answer isWindowsAdmin o target now).map (·.terminated)).getD [] ≠ [] →
        (listenerCall answer isWindowsAdmin o target now).any (·.exit.succeeded) = true) := by
  constructor
  · intro h hne
    rw [Option.any_eq_true]
    rcases not_and_or.mp (mt List.append_eq_nil_iff.mpr hne) with hparent | hlistener
    · cases hcall : parentCall answer isWindowsAdmin o target now with
      | none =>
        rw [hcall] at hparent
        exact absurd rfl hparent
      | some call =>
        rw [hcall] at hparent
        exact h.parent call hcall hparent
    · cases hcall : listenerCall answer isWindowsAdmin o target now with
      | none =>
        rw [hcall] at hlistener
        exact absurd rfl hlistener
      | some kill =>
        rw [hcall] at hlistener
        exact ⟨kill, rfl, h.listener kill hcall hlistener⟩
  · intro h
    rw [Option.any_eq_true] at h
    constructor
    · intro call hcall hne
      refine h (List.append_ne_nil_of_left_ne_nil ?_ _)
      rw [Option.mem_def.mp hcall]
      exact hne
    · intro kill hkill hne
      obtain ⟨kill', hkill', hsucceeded⟩ := h (List.append_ne_nil_of_right_ne_nil _ (by
        rw [Option.mem_def.mp hkill]
        exact hne))
      obtain rfl := Option.mem_unique hkill hkill'
      exact hsucceeded

variable (answer isWindowsAdmin o)

/-- The workflow terminates nothing unconfirmed and reports what it did, exactly when its calls of
`taskkill` kill cleanly. -/
theorem reports_iff :
    Reports isWindowsAdmin o (exec answer (runStopListenerWorkflow isWindowsAdmin o) s) ↔
      KillsCleanly answer isWindowsAdmin o (resolution answer o s).1 (resolution answer o s).2 := by
  obtain ⟨hterminated, hmutated, hdecision⟩ :=
    runStopListenerWorkflow_stops answer isWindowsAdmin o s
  rw [killsCleanly_iff, ← hterminated]
  constructor
  · intro h hne
    rw [← hmutated]
    cases hvalue : (exec answer (runStopListenerWorkflow isWindowsAdmin o) s).value.mutated with
    | true => rfl
    | false => exact absurd (h.reported (.inl hvalue)) hne
  · intro h
    constructor
    · intro hne
      obtain ⟨kill, hkill, -⟩ := (Option.any_eq_true _ _).mp (h hne)
      exact listenerCall_gate hkill
    · intro hreport
      by_contra hne
      rcases hreport with hmutated' | hdecision'
      · rw [hmutated, h hne] at hmutated'
        cases hmutated'
      · exact hdecision' (hdecision.mpr (h hne))

end Reports

/-- A machine on which PowerShell (PID 7) respawns a Node proxy (PID 99), and `taskkill`
terminates a process with its children. -/
def respawning : Unit → (r : Request) → r.Answer × Unit
  | now, .proxyServer => (some "127.0.0.1:57324", now)
  | now, .owners _ => (([⟨some 99, some "node.exe", some 7, some "powershell.exe"⟩], []), now)
  | now, .taskkill pid => (⟨.exited 0 "SUCCESS" "", if pid = 7 then [99, 7] else [pid]⟩, now)

/-- The parent is killed before the missing confirmation for the listener is noticed. -/
theorem parent_killed_unconfirmed :
    let o : StopOptions :=
      { dryRun := false
        stopParentTree := true
        reverterConfirmation := stopProxyReverterPhrase
        elevated := some true }
    ¬ Reports false o (exec respawning (runStopListenerWorkflow false o) ()) := by
  intro o h
  obtain ⟨-, -, hconfirms, -⟩ := h.confirmed (by decide +kernel)
  exact absurd hconfirms (by decide)

end StopListener
