import NetworkRecovery.Guard.Loop
import NetworkRecovery.Guard.Rollback

/-!
# One change, as the guard tells it

A round of the loop in full: what the limiter is asked and told, which commands
are run, what is read afterwards, and the two audit records. The schema 1 row
goes to `proxy_guard_pipeline_audit.jsonl` and carries a `RollbackPayload`, the
schema 2 row to three sinks and carries a `RollbackResult`; each has a status
ladder of its own. `guardStep` is the same round with the details left out
(`guardStep_changeRound`).

The two ladders part where the commands succeed: the first record looks at the
registry again, the second does not. They tell one story exactly when the read
after a rollback that went through shows all five values of its target
(`recordsAgree_iff`).
-/

namespace ProxyGuard

open Python

/-! ## What a round does -/

/-- What a round with a change reads from outside: the snapshot on file and what
comes of the commands, on top of a `Poll`. -/
structure ChangePoll extends Poll where
  lkg : Option ProxySnapshot := none
  runner : Runner := fun _ => {}

inductive GuardAction where
  | evaluated (now : ℚ) (refusal : Option SuppressReason)
  | executed (target : ProxySnapshot) (dryRun : Bool) (exec : RollbackExec)
  | recorded (now : ℚ)
  | reread (snapshot : ProxySnapshot)
  deriving DecidableEq

/-- A rollback whose commands are run. -/
def GuardAction.Live : GuardAction → Prop
  | .executed _ dryRun exec => dryRun = false ∧ exec.skipped = false
  | _ => False

/-- The part of it that `guardStep` tells. -/
def GuardAction.event : GuardAction → Option GuardEvent
  | .evaluated _ refusal => refusal.map .suppressed
  | .executed target dryRun exec =>
    if dryRun || exec.skipped then none else some (.restored target)
  | .recorded _ => none
  | .reread snapshot => some (.reread snapshot)

/-! ## Texts -/

/-- `f"{x:.1f}"` of a number that is not negative: rounded to tenths, a tie to
the even one. -/
def tenthsText (x : ℚ) : String :=
  let floor := (x * 10).floor.toNat
  let rest := x * 10 - floor
  let tenths := if rest < 1 / 2 then floor else if 1 / 2 < rest then floor + 1
    else floor + floor % 2
  toString (tenths / 10) ++ "." ++ toString (tenths % 10)

def SuppressReason.text : SuppressReason → String
  | .cooldownActive remain => "rollback_cooldown_active:" ++ tenthsText remain ++ "s"
  | .rateLimitedInWindow => "rollback_rate_limited_in_window"

/-! ## The plan -/

structure RollbackPlan where
  dryRunRequested : Bool
  restoreWininet : Bool
  restoreWinhttp : Bool
  wouldRestoreGitOrEnv : Bool

/-- `winhttp_explicit`. -/
def winhttpExplicit (lkg : ProxySnapshot) : Bool :=
  (strippedText lkg.winhttpProxyServerLiteral).isSome || lkg.winhttpDirectAccess ||
    (strippedText (some lkg.winhttpProxy)).isSome

/-- `build_rollback_plan`; a snapshot to restore is always there. -/
def buildRollbackPlan (gd : Verdict) (autoRollbackEnabled liveRollbackEnabled explicitWinhttpData
    restoreGitNpmEnv : Bool) : RollbackPlan :=
  let wants := decide (gd.decision = .blocked) && gd.rollbackAllowed && autoRollbackEnabled
  { dryRunRequested := !liveRollbackEnabled
    restoreWininet := wants
    restoreWinhttp := wants && explicitWinhttpData
    wouldRestoreGitOrEnv := restoreGitNpmEnv }

/-! ## The two records -/

inductive PipelineAction where
  | rollbackSkipped
  | rollbackPreview
  | rollbackFailed
  | rollbackApplied
  deriving DecidableEq

inductive Verification where
  | passed
  | failed
  | notRun
  deriving DecidableEq

/-- `rollback_payload_for_audit`, the `rollback` part of the schema 1 row. -/
structure RollbackPayload where
  action : PipelineAction
  restoredFields : List String := []
  verification : Verification := .notRun
  error : Option String := none
  deriving DecidableEq

inductive RollbackStatus where
  | skippedNoLkg
  | skippedNotBlocked
  | skippedDryRun
  | skippedObserve
  | skippedSuppressed
  | skippedAutoRollbackDisabled
  | skippedRollBackDisallowed
  | executedOk
  | executedPartial
  | error
  deriving DecidableEq

/-- `RollbackResult`, the `rollback_result` of the schema 2 row. -/
structure RollbackResult where
  status : RollbackStatus
  detail : String
  wininetAudit : List CommandRow := []
  winhttpAudit : Option CommandRow := none
  deriving DecidableEq

/-- The ladder of the schema 1 row, behind an executor. -/
def pipelinePayload (live : Bool) (exec : RollbackExec) (reread : ProxyRegistrySnapshot)
    (target : ProxySnapshot) : RollbackPayload :=
  let fields := wininetArgvRestoredFields exec.wininetReg
  if exec.skipped then ⟨.rollbackSkipped, fields, .notRun, none⟩
  else if !live then ⟨.rollbackPreview, fields, .notRun, none⟩
  else if exec.success = some false then
    ⟨.rollbackFailed, fields, .failed, some "registry_or_netsh_nonzero"⟩
  else if verifyHkcuCoreMatchesPrior reread target then ⟨.rollbackApplied, fields, .passed, none⟩
  else ⟨.rollbackFailed, fields, .failed, some "post_rollback_registry_mismatch"⟩

/-- The ladder of the schema 2 row. -/
def rollbackResult (cfg : GuardConfig) (gd : Verdict) (suppressed : Option SuppressReason)
    (exec : Option RollbackExec) : RollbackResult :=
  match suppressed with
  | some reason => { status := .skippedSuppressed, detail := reason.text }
  | none =>
    if gd.decision = .observe then
      { status := .skippedObserve, detail := "no_registry_core_change_policy_branch" }
    else if gd.decision ≠ .blocked then { status := .skippedNotBlocked, detail := gd.reason }
    else if !gd.rollbackAllowed then { status := .skippedRollBackDisallowed, detail := gd.reason }
    else if !cfg.effectiveRollback then
      { status := .skippedAutoRollbackDisabled, detail := "rollback_flags_disabled" }
    else match exec with
      | none => { status := .error, detail := "rollback_executor_not_invoked_internal_error" }
      | some exec =>
        if exec.skipped then
          let reason := exec.reason.getD ""
          if reason = "skipped_no_lkg" then { status := .skippedNoLkg, detail := reason }
          else { status := .error, detail := if reason = "" then "skipped" else reason }
        else if !cfg.liveRollbackGate then
          { status := .skippedDryRun
            detail := "dry_run_only"
            wininetAudit := exec.wininetReg
            winhttpAudit := exec.winhttpRestore }
        else
          { status := if exec.success = some false then .executedPartial else .executedOk
            detail := "prior_snapshot_restore"
            wininetAudit := exec.wininetReg
            winhttpAudit := exec.winhttpRestore }

/-! ## The round -/

/-- What a round with a change leaves behind. -/
structure ChangeRound where
  state : GuardState
  actions : List GuardAction := []
  plan : RollbackPlan
  payload : RollbackPayload
  result : RollbackResult

section Loop

variable (lower : List Char → List Char) (cfg : GuardConfig)

/-- The plan of a round. -/
def ChangePoll.plan (poll : ChangePoll) (prior : Baseline) : RollbackPlan :=
  let basis := match cfg.knownGoodSnapshot with
    | some known => known
    | none => poll.lkg.getD prior.fullSnap
  buildRollbackPlan (poll.verdict lower cfg prior) cfg.effectiveRollback cfg.liveRollbackGate
    (winhttpExplicit basis) cfg.restoreGitNpmEnv

/-- `restore_target`. -/
def GuardConfig.restoreTarget (prior : Baseline) : ProxySnapshot :=
  cfg.knownGoodSnapshot.getD prior.fullSnap

/-- The executor of a round, called. -/
def ChangePoll.execute (poll : ChangePoll) (prior : Baseline) : RollbackExec :=
  let dryRun := !cfg.liveRollbackGate
  let restoreWinhttp := (poll.plan lower cfg prior).restoreWinhttp
  match cfg.knownGoodSnapshot with
  | some known => executeKnownGoodProxyRestore lower known dryRun restoreWinhttp poll.runner
  | none =>
    executeLkgSnapshotRollback prior.fullSnap dryRun restoreWinhttp poll.runner cfg.restoreGitNpmEnv

/-- A round of `run_proxy_guard_guard_loop` from where the change is seen. -/
def changeRound (st : GuardState) (prior : Baseline) (poll : ChangePoll) : ChangeRound :=
  let gd := poll.verdict lower cfg prior
  let plan := poll.plan lower cfg prior
  if gd.decision = .blocked ∧ gd.rollbackAllowed ∧ cfg.effectiveRollback then
    match st.limiter.evaluate cfg.rollbackLimits poll.evaluateClock with
    | (some reason, limiter) =>
      { state := ⟨some (.of poll.snapshot), limiter⟩
        actions := [.evaluated poll.evaluateClock (some reason)]
        plan := plan
        payload := { action := .rollbackSkipped, error := some reason.text }
        result := rollbackResult cfg gd (some reason) none }
    | (none, limiter) =>
      let target := cfg.restoreTarget prior
      let exec := poll.execute lower cfg prior
      let record := cfg.liveRollbackGate && !exec.skipped
      { state := ⟨some (.of poll.reread),
          if record then limiter.record cfg.rollbackLimits poll.recordClock else limiter⟩
        actions := [.evaluated poll.evaluateClock none,
            .executed target (!cfg.liveRollbackGate) exec] ++
          (if record then [.recorded poll.recordClock] else []) ++ [.reread poll.reread]
        plan := plan
        payload := pipelinePayload cfg.liveRollbackGate exec poll.reread.core target
        result := rollbackResult cfg gd none (some exec) }
  else
    { state := { st with prior := some (.of poll.snapshot) }
      plan := plan
      payload := { action :=
        if gd.decision = .blocked ∧ gd.rollbackAllowed ∧ !cfg.effectiveRollback then .rollbackPreview
        else .rollbackSkipped }
      result := rollbackResult cfg gd none none }

/-- One round of the loop with everything it does. -/
def guardRound (st : GuardState) (poll : ChangePoll) : GuardState × List GuardAction :=
  match st.prior with
  | none => ({ st with prior := some (.of poll.snapshot) }, [])
  | some prior =>
    if prior.view = poll.snapshot.view then
      ({ st with prior := some { prior with fullSnap := poll.snapshot } }, [])
    else
      let out := changeRound lower cfg st prior poll
      (out.state, out.actions)

variable {lower cfg}

/-- Only the restore of Git, npm and the environment is refused. -/
theorem ChangePoll.execute_skipped (poll : ChangePoll) (prior : Baseline) :
    (poll.execute lower cfg prior).skipped =
      (cfg.knownGoodSnapshot.isNone && cfg.restoreGitNpmEnv) := by
  unfold ChangePoll.execute
  cases hknown : cfg.knownGoodSnapshot with
  | some known => rfl
  | none =>
    dsimp only
    unfold executeLkgSnapshotRollback
    cases hgit : cfg.restoreGitNpmEnv with
    | true => rfl
    | false => rfl

/-- An executor that was not refused says whether all went well. -/
theorem ChangePoll.execute_success {poll : ChangePoll} {prior : Baseline}
    (hrun : (poll.execute lower cfg prior).skipped = false) :
    ∃ ok, (poll.execute lower cfg prior).success = some ok := by
  rw [ChangePoll.execute_skipped] at hrun
  unfold ChangePoll.execute
  cases hknown : cfg.knownGoodSnapshot with
  | some known => exact ⟨_, rfl⟩
  | none =>
    rw [hknown, Option.isNone_none, Bool.true_and] at hrun
    rw [hrun]
    exact ⟨_, rfl⟩

/-- `guardStep` is the round without its details. -/
theorem guardStep_changeRound {st : GuardState} {prior : Baseline} {poll : ChangePoll}
    (hprior : st.prior = some prior) (hchanged : prior.view ≠ poll.snapshot.view) :
    guardStep lower cfg st poll.toPoll =
      ((changeRound lower cfg st prior poll).state,
        .observed poll.snapshot (some (poll.verdict lower cfg prior).decision) ::
          (changeRound lower cfg st prior poll).actions.filterMap GuardAction.event) := by
  unfold guardStep changeRound
  rw [hprior]
  dsimp only
  rw [if_neg hchanged]
  split
  · unfold rollbackStep
    have hskipped : (poll.execute lower cfg prior).skipped =
        (cfg.knownGoodSnapshot.isNone && cfg.restoreGitNpmEnv) := poll.execute_skipped prior
    generalize poll.execute lower cfg prior = exec at hskipped ⊢
    cases hanswer : st.limiter.evaluate cfg.rollbackLimits poll.evaluateClock with
    | mk refusal limiter =>
      cases refusal with
      | some reason => rfl
      | none =>
        dsimp only
        rw [← hskipped]
        cases hlive : cfg.liveRollbackGate <;> cases hskip : exec.skipped <;>
          simp [List.filterMap_cons, GuardAction.event, hskip, GuardConfig.restoreTarget]
  · rfl

/-- The two descriptions of the loop move through the same states. -/
theorem guardRound_state (st : GuardState) (poll : ChangePoll) :
    (guardRound lower cfg st poll).1 = (guardStep lower cfg st poll.toPoll).1 := by
  unfold guardRound
  cases hprior : st.prior with
  | none => simp only [guardStep, hprior]
  | some prior =>
    dsimp only
    split
    · rename_i hsame
      simp only [guardStep, hprior, if_pos hsame]
    · rename_i hchanged
      rw [guardStep_changeRound hprior hchanged]

/-! ## One story -/

/-- The two records agree with each other and with the registry. -/
structure RecordsAgree (out : ChangeRound) (reread : ProxyRegistrySnapshot)
    (target : ProxySnapshot) : Prop where
  executed : out.result.status = .executedOk ↔
    out.payload.action = .rollbackApplied ∧ out.payload.verification = .passed
  notFailed : out.payload.action = .rollbackFailed → out.result.status ≠ .executedOk
  restored : out.payload.action = .rollbackApplied → reread = target.core

variable (lower cfg) in
/-- The change is blocked, the limiter admits the rollback, its commands are run
and all of them succeed. -/
structure GoesThrough (st : GuardState) (prior : Baseline) (poll : ChangePoll) : Prop where
  blocked : (poll.verdict lower cfg prior).decision = .blocked
  admitted : (st.limiter.evaluate cfg.rollbackLimits poll.evaluateClock).1 = none
  live : cfg.liveRollbackGate = true
  allowed : (poll.execute lower cfg prior).skipped = false
  succeeded : (poll.execute lower cfg prior).success = some true

/-- The check after a rollback looks at four of the five values. -/
theorem verifyHkcuCoreMatchesPrior_of_eq {observed : ProxyRegistrySnapshot} {target : ProxySnapshot}
    (h : observed = target.core) : verifyHkcuCoreMatchesPrior observed target = true := by
  subst h
  simp [verifyHkcuCoreMatchesPrior]

/-- Where neither record speaks of a rollback, they agree. -/
theorem recordsAgree_of_quiet {out : ChangeRound} {reread : ProxyRegistrySnapshot}
    {target : ProxySnapshot} (hstatus : out.result.status ≠ .executedOk)
    (haction : out.payload.action ≠ .rollbackApplied) : RecordsAgree out reread target where
  executed := ⟨fun h => absurd h hstatus, fun h => absurd h.1 haction⟩
  notFailed := fun _ => hstatus
  restored := fun h => absurd h haction

/-- A round that runs no executor says so in both records. -/
theorem rollbackResult_none (gd : Verdict) (suppressed : Option SuppressReason) :
    (rollbackResult cfg gd suppressed none).status ≠ .executedOk := by
  unfold rollbackResult
  cases suppressed with
  | some reason => exact fun h => absurd h (by simp)
  | none =>
    dsimp only
    split_ifs <;> exact fun h => absurd h (by simp)

/-- The schema 2 row, behind an executor. -/
theorem rollbackResult_executed {gd : Verdict} {exec : RollbackExec}
    (hblocked : gd.decision = .blocked) (hallowed : gd.rollbackAllowed = true)
    (heffective : cfg.effectiveRollback = true) :
    (rollbackResult cfg gd none (some exec)).status = .executedOk ↔
      exec.skipped = false ∧ cfg.liveRollbackGate = true ∧ exec.success ≠ some false := by
  unfold rollbackResult
  simp only [hblocked, hallowed, heffective]
  cases hskip : exec.skipped with
  | true =>
    simp
    split <;> simp
  | false =>
    cases hlive : cfg.liveRollbackGate with
    | false => simp
    | true => simp

/-- The schema 1 row, behind an executor. -/
theorem pipelinePayload_cases (live : Bool) (exec : RollbackExec) (reread : ProxyRegistrySnapshot)
    (target : ProxySnapshot) :
    ((pipelinePayload live exec reread target).action = .rollbackApplied ∧
        (pipelinePayload live exec reread target).verification = .passed ∧
        exec.skipped = false ∧ live = true ∧ exec.success ≠ some false ∧
        verifyHkcuCoreMatchesPrior reread target = true) ∨
      ((pipelinePayload live exec reread target).action ≠ .rollbackApplied ∧
        (exec.skipped = false → live = true → exec.success ≠ some false →
          (pipelinePayload live exec reread target).action = .rollbackFailed ∧
          verifyHkcuCoreMatchesPrior reread target = false)) := by
  unfold pipelinePayload
  cases hskip : exec.skipped with
  | true => exact .inr ⟨by simp, fun h => absurd h (by simp)⟩
  | false =>
    cases live with
    | false => exact .inr ⟨by simp, fun _ h => absurd h (by simp)⟩
    | true =>
      by_cases hfail : exec.success = some false
      · exact .inr ⟨by simp [hfail], fun _ _ h => absurd hfail h⟩
      · cases hmatch : verifyHkcuCoreMatchesPrior reread target with
        | true => exact .inl (by simp [hfail])
        | false => exact .inr (by simp [hfail])

/-- Behind an executor that was run on purpose, the records agree exactly when
success means that all five values are back. -/
theorem recordsAgree_executed {out : ChangeRound} {exec : RollbackExec} {live : Bool}
    {reread : ProxyRegistrySnapshot} {target : ProxySnapshot}
    (hpayload : out.payload = pipelinePayload live exec reread target)
    (hstatus : out.result.status = .executedOk ↔
      exec.skipped = false ∧ live = true ∧ exec.success ≠ some false) :
    RecordsAgree out reread target ↔
      (exec.skipped = false → live = true → exec.success ≠ some false → reread = target.core) := by
  rcases pipelinePayload_cases live exec reread target with
    ⟨haction, hverified, hrun, hlive, hok, -⟩ | ⟨haction, hfailed⟩
  · rw [← hpayload] at haction hverified
    constructor
    · exact fun hagree _ _ _ => hagree.restored haction
    · intro hback
      refine ⟨⟨fun _ => ⟨haction, hverified⟩, fun _ => hstatus.mpr ⟨hrun, hlive, hok⟩⟩, ?_, ?_⟩
      · exact fun hfail => absurd (haction.symm.trans hfail) (by simp)
      · exact fun _ => hback hrun hlive hok
  · rw [← hpayload] at haction hfailed
    constructor
    · intro hagree hrun hlive hok
      exact absurd (hagree.executed.mp (hstatus.mpr ⟨hrun, hlive, hok⟩)).1 haction
    · intro hback
      refine recordsAgree_of_quiet (fun hexecuted => ?_) haction
      obtain ⟨hrun, hlive, hok⟩ := hstatus.mp hexecuted
      have hmismatch := (hfailed hrun hlive hok).2
      rw [verifyHkcuCoreMatchesPrior_of_eq (hback hrun hlive hok)] at hmismatch
      exact absurd hmismatch (by simp)

/-- For every change, in every state of the guard and whatever comes of the
commands and the read after them: the two records agree with each other and
with the registry exactly when a rollback that goes through is followed by a
read that shows all five values of its target. -/
theorem recordsAgree_iff (lower : List Char → List Char) (cfg : GuardConfig) (st : GuardState)
    (prior : Baseline) (poll : ChangePoll) :
    RecordsAgree (changeRound lower cfg st prior poll) poll.reread.core (cfg.restoreTarget prior) ↔
      (GoesThrough lower cfg st prior poll → poll.reread.core = (cfg.restoreTarget prior).core) := by
  unfold changeRound
  dsimp only
  split
  · rename_i hblocked
    cases hanswer : st.limiter.evaluate cfg.rollbackLimits poll.evaluateClock with
    | mk refusal limiter =>
      cases refusal with
      | some reason =>
        refine ⟨fun _ hgoes => ?_, fun _ => recordsAgree_of_quiet (rollbackResult_none _ _) (by simp)⟩
        have hnone := hgoes.admitted
        rw [hanswer] at hnone
        exact absurd hnone (by simp)
      | none =>
        rw [recordsAgree_executed rfl
          (rollbackResult_executed hblocked.1 hblocked.2.1 hblocked.2.2)]
        constructor
        · exact fun hback hgoes =>
            hback hgoes.allowed hgoes.live (by rw [hgoes.succeeded]; simp)
        · intro hback hrun hlive hok
          obtain ⟨ok, hsuccess⟩ := ChangePoll.execute_success hrun
          refine hback ⟨hblocked.1, by rw [hanswer], hlive, hrun, ?_⟩
          cases ok with
          | true => exact hsuccess
          | false => exact absurd hsuccess hok
  · rename_i hnot
    refine ⟨fun _ hgoes => ?_, fun _ => recordsAgree_of_quiet (rollbackResult_none _ _) ?_⟩
    · -- a blocked change may be rolled back, so that only the flags can be off
      have hreversible := evaluateProxyTransition_reversible lower prior.fullSnap poll.snapshot
        (parseProxyServer poll.snapshot.proxyServer) poll.attribution cfg.policy poll.portListen
        poll.path hgoes.blocked
      exact absurd ⟨hgoes.blocked, hreversible, effectiveRollback_of_live hgoes.live⟩ hnot
    · dsimp only
      split <;> simp

end Loop

/-- A PAC file appears, is blocked and rolled back; every command succeeds, and
the read afterwards shows the PAC file again. -/
def stubbornPoll : ChangePoll :=
  { samplePoll (pacSnapshot "http://one.example/p.pac") (pacSnapshot "http://one.example/p.pac") 10
      with }

/-- On that poll, the second of a run, one record says that the rollback was
executed and the other that it failed. -/
theorem records_disagree :
    ¬ ∀ (lower : List Char → List Char) (cfg : GuardConfig) (polls : List ChangePoll)
        (prior : Baseline) (poll : ChangePoll),
      (Reactive.run (guardRound lower cfg) {} polls).1.prior = some prior →
      prior.view ≠ poll.snapshot.view →
      RecordsAgree (changeRound lower cfg (Reactive.run (guardRound lower cfg) {} polls).1 prior poll)
        poll.reread.core (cfg.restoreTarget prior) := by
  intro h
  have hagree := h Python.lower { autoRollback := true } [{ samplePoll {} {} 0 with }] (.of {})
    stubbornPoll rfl (by decide +kernel)
  refine hagree.notFailed ?_ ?_
  · decide +kernel
  · decide +kernel

end ProxyGuard
