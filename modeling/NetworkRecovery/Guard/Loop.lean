import Mathlib.Data.Rat.Defs
import Mathlib.Algebra.Order.Ring.Rat
import NetworkRecovery.Guard.Evaluation
import NetworkRecovery.Lib.Reactive

/-!
# The guard loop

`run_proxy_guard_guard_loop`: poll the HKCU values, and where they differ from
the baseline judge the change and perhaps roll it back. One round of the loop
is `guardStep`; a run is the reactive run of it. What a round reads from
outside is a `Poll`: the snapshot, what attribution and the probes say, the
limiter's clock, and the snapshot that is read after a rollback.

A rollback restores the BASELINE, and the baseline is whatever the round before
left there. A blocked change whose rollback is suppressed, skipped or without
effect becomes the baseline itself, and the next rollback restores it. The
`Ledger` keeps, from the events alone, the most recent state that was not
judged blocked; a run in which every blocked change is rolled back at once
restores nothing else (`restored_lastUnblocked`).
-/

namespace ProxyGuard

open Python Reactive

/-! ## The rate limiter -/

structure RollbackLimitSettings where
  cooldownSeconds : ℚ := 60
  windowSeconds : ℚ := 300
  maxRollbacksPerWindow : Int := 5

structure RollbackLimiter where
  rollbackTimes : List ℚ := []
  cooldownUntil : Option ℚ := none

/-- Why a rollback is suppressed. -/
inductive SuppressReason where
  | cooldownActive (remain : ℚ)
  | rateLimitedInWindow
  deriving DecidableEq

/-- `RollbackLimiter.evaluate`: a reason to suppress, or none. Times outside the
window are forgotten on the way. -/
def RollbackLimiter.evaluate (settings : RollbackLimitSettings) (now : ℚ)
    (limiter : RollbackLimiter) : Option SuppressReason × RollbackLimiter :=
  match limiter.cooldownUntil.filter (now < ·) with
  | some untilTime => (some (.cooldownActive (untilTime - now)), limiter)
  | none =>
    let horizon := now - max 1 settings.windowSeconds
    let limiter := { limiter with
      rollbackTimes := limiter.rollbackTimes.filter (horizon ≤ ·) }
    if settings.maxRollbacksPerWindow ≤ limiter.rollbackTimes.length then
      (some .rateLimitedInWindow, limiter)
    else (none, limiter)

/-- `RollbackLimiter.record_rollback`. -/
def RollbackLimiter.record (settings : RollbackLimitSettings) (now : ℚ)
    (limiter : RollbackLimiter) : RollbackLimiter where
  rollbackTimes := limiter.rollbackTimes ++ [now]
  cooldownUntil := some (now + max 0 settings.cooldownSeconds)

/-! ## One round -/

/-- `ProxyGuardServiceConfig`, as far as the loop decides on it. -/
structure GuardConfig where
  policy : ProxyGuardPolicy := {}
  autoRollback : Bool := false
  cliRollback : Bool := false
  dryRunRollback : Bool := false
  rollbackConfirmPhrase : String := ""
  restoreGitNpmEnv : Bool := false
  knownGoodSnapshot : Option ProxySnapshot := none
  rollbackLimits : RollbackLimitSettings := {}

def GuardConfig.effectiveRollback (cfg : GuardConfig) : Bool := cfg.autoRollback || cfg.cliRollback

/-- `live_rollback_gate`. -/
def GuardConfig.liveRollbackGate (cfg : GuardConfig) : Bool :=
  let confirmRequired := cfg.cliRollback && !cfg.autoRollback
  let phraseOk := strip cfg.rollbackConfirmPhrase.toList = "RESTORE_PROXY".toList
  cfg.effectiveRollback && !cfg.dryRunRollback && (!confirmRequired || phraseOk)

/-- What one round reads from outside. -/
structure Poll where
  snapshot : ProxySnapshot
  attribution : AttributionResult
  portListen : Option Bool
  path : Option PathState
  /-- the clock when the limiter is asked, and when it is told -/
  evaluateClock : ℚ
  recordClock : ℚ
  /-- the snapshot that is read after a rollback -/
  reread : ProxySnapshot

/-- `normalize_registry_view`. -/
structure RegistryView extends ProxyRegistrySnapshot where
  parsed : ParsedProxy
  deriving DecidableEq

def ProxySnapshot.view (snapshot : ProxySnapshot) : RegistryView :=
  { snapshot.core with parsed := parseProxyServer snapshot.proxyServer }

/-- `prior_registry_view` and `prior_full_snap`. -/
structure Baseline where
  view : RegistryView
  fullSnap : ProxySnapshot

def Baseline.of (snapshot : ProxySnapshot) : Baseline := ⟨snapshot.view, snapshot⟩

structure GuardState where
  prior : Option Baseline := none
  limiter : RollbackLimiter := {}

/-- What a round does, as far as an observer can tell. -/
inductive GuardEvent where
  /-- a poll, with the verdict if the values had changed -/
  | observed (snapshot : ProxySnapshot) (verdict : Option GuardDecision)
  | suppressed (reason : SuppressReason)
  /-- a rollback that writes to the registry -/
  | restored (target : ProxySnapshot)
  /-- the read after a rollback, live or not -/
  | reread (snapshot : ProxySnapshot)
  deriving DecidableEq

section Loop

variable (lower : List Char → List Char) (cfg : GuardConfig)

/-- The verdict of a round. -/
def Poll.verdict (poll : Poll) (prior : Baseline) : Verdict :=
  evaluateProxyTransition lower prior.fullSnap poll.snapshot
    (parseProxyServer poll.snapshot.proxyServer) poll.attribution cfg.policy poll.portListen poll.path

/-- The rollback branch: the limiter, the restore, the read after it. -/
def rollbackStep (st : GuardState) (prior : Baseline) (poll : Poll) :
    GuardState × List GuardEvent :=
  match st.limiter.evaluate cfg.rollbackLimits poll.evaluateClock with
  | (some reason, limiter) => (⟨some (.of poll.snapshot), limiter⟩, [.suppressed reason])
  | (none, limiter) =>
    let target := cfg.knownGoodSnapshot.getD prior.fullSnap
    -- restoring Git, npm and the environment is refused, and with it the whole rollback
    let skipped := cfg.knownGoodSnapshot.isNone && cfg.restoreGitNpmEnv
    if cfg.liveRollbackGate && !skipped then
      (⟨some (.of poll.reread), limiter.record cfg.rollbackLimits poll.recordClock⟩,
        [.restored target, .reread poll.reread])
    else (⟨some (.of poll.reread), limiter⟩, [.reread poll.reread])

/-- One round of `run_proxy_guard_guard_loop`. -/
def guardStep (st : GuardState) (poll : Poll) : GuardState × List GuardEvent :=
  match st.prior with
  | none => ({ st with prior := some (.of poll.snapshot) }, [.observed poll.snapshot none])
  | some prior =>
    if prior.view = poll.snapshot.view then
      ({ st with prior := some { prior with fullSnap := poll.snapshot } },
        [.observed poll.snapshot none])
    else
      let gd := poll.verdict lower cfg prior
      if gd.decision = .blocked ∧ gd.rollbackAllowed ∧ cfg.effectiveRollback then
        let out := rollbackStep cfg st prior poll
        (out.1, .observed poll.snapshot (some gd.decision) :: out.2)
      else
        ({ st with prior := some (.of poll.snapshot) },
          [.observed poll.snapshot (some gd.decision)])

end Loop

/-! ## What was judged blocked -/

/-- The state the guard saw last, with whether it is judged blocked, and the
most recent state that was not. -/
structure Ledger where
  current : Option (ProxySnapshot × Bool) := none
  lastUnblocked : Option ProxySnapshot := none

def Ledger.see (ledger : Ledger) (snapshot : ProxySnapshot) (blocked : Bool) : Ledger :=
  ⟨some (snapshot, blocked), if blocked then ledger.lastUnblocked else some snapshot⟩

/-- A state without a verdict of its own is judged blocked when it is the blocked
state it follows, unchanged. -/
def Ledger.stillBlocked (ledger : Ledger) (snapshot : ProxySnapshot) : Bool :=
  ledger.current.any fun (seen, blocked) => blocked && seen.core = snapshot.core

def Ledger.note (ledger : Ledger) : GuardEvent → Ledger
  | .observed snapshot (some verdict) => ledger.see snapshot (verdict = .blocked)
  | .observed snapshot none | .reread snapshot =>
    ledger.see snapshot (ledger.stillBlocked snapshot)
  | .suppressed _ | .restored _ => ledger

def ledgerOf (events : List GuardEvent) : Ledger := events.foldl Ledger.note {}

theorem ledgerOf_append (history events : List GuardEvent) :
    ledgerOf (history ++ events) = events.foldl Ledger.note (ledgerOf history) :=
  List.foldl_append

/-! ## The invariant -/

/-- A rollback restores the most recent state that was not judged blocked. -/
def RestoresUnblocked (history : List GuardEvent) (event : GuardEvent) : Prop :=
  ∀ target, event = .restored target → (ledgerOf history).lastUnblocked = some target

/-- The baseline is the state seen last, and that is not judged blocked. -/
structure BaselineUnblocked (st : GuardState) (history : List GuardEvent) : Prop where
  started : st.prior = none → (ledgerOf history).current = none
  baseline : ∀ prior, st.prior = some prior → prior.view = prior.fullSnap.view ∧
    ledgerOf history = ⟨some (prior.fullSnap, false), some prior.fullSnap⟩

/-- Seeing a state that is not blocked makes it the baseline. -/
theorem baselineUnblocked_of_see {history events : List GuardEvent} {limiter : RollbackLimiter}
    {prior : Baseline} (ledger : Ledger) (hview : prior.view = prior.fullSnap.view)
    (h : ledgerOf (history ++ events) = ledger.see prior.fullSnap false) :
    BaselineUnblocked ⟨some prior, limiter⟩ (history ++ events) where
  started := fun hnone => absurd hnone (by simp)
  baseline := by
    intro prior' hprior'
    obtain rfl := Option.some.inj hprior'
    exact ⟨hview, h⟩

section Loop

variable (lower : List Char → List Char) (cfg : GuardConfig)

/-- A change that is judged blocked is rolled back at once: the limiter lets the
rollback through, and the read after it no longer shows the blocked values. -/
def RolledBackAtOnce (st : GuardState) (poll : Poll) : Prop :=
  ∀ prior, st.prior = some prior → prior.view ≠ poll.snapshot.view →
    (poll.verdict lower cfg prior).decision = .blocked →
      (st.limiter.evaluate cfg.rollbackLimits poll.evaluateClock).1 = none ∧
        poll.snapshot.core ≠ poll.reread.core

variable {lower cfg}

theorem effectiveRollback_of_live (hlive : cfg.liveRollbackGate = true) :
    cfg.effectiveRollback = true := by
  unfold GuardConfig.liveRollbackGate at hlive
  exact (Bool.and_eq_true_iff.mp (Bool.and_eq_true_iff.mp hlive).1).1

/-- The rollback branch, when the limiter lets it through: it restores the
baseline, if anything, and what is read afterwards is the next baseline. -/
theorem rollbackStep_admitted {st : GuardState} (prior : Baseline) {poll : Poll}
    (hknown : cfg.knownGoodSnapshot = none)
    (hok : (st.limiter.evaluate cfg.rollbackLimits poll.evaluateClock).1 = none) :
    ∃ limiter, rollbackStep cfg st prior poll =
        (⟨some (.of poll.reread), limiter⟩, [.restored prior.fullSnap, .reread poll.reread]) ∨
      rollbackStep cfg st prior poll = (⟨some (.of poll.reread), limiter⟩, [.reread poll.reread]) := by
  unfold rollbackStep
  rw [hknown]
  split
  · rename_i hsome
    rw [hsome] at hok
    exact absurd hok (by simp)
  · dsimp only
    split
    · exact ⟨_, .inl rfl⟩
    · exact ⟨_, .inr rfl⟩

/-- Only a rollback restores. -/
theorem restoresUnblocked_observed (history : List GuardEvent) (snapshot : ProxySnapshot)
    (verdict : Option GuardDecision) : RestoresUnblocked history (.observed snapshot verdict) :=
  fun _ h => absurd h (by simp)

theorem restoresUnblocked_reread (history : List GuardEvent) (snapshot : ProxySnapshot) :
    RestoresUnblocked history (.reread snapshot) :=
  fun _ h => absurd h (by simp)

/-- The rollback of a change just judged blocked restores the state before it,
and the read after it is the new baseline. -/
theorem rollbackStep_unblocked {st : GuardState} {prior : Baseline} {poll : Poll}
    {history : List GuardEvent} (hknown : cfg.knownGoodSnapshot = none)
    (hledger : ledgerOf history = ⟨some (poll.snapshot, true), some prior.fullSnap⟩)
    (hok : (st.limiter.evaluate cfg.rollbackLimits poll.evaluateClock).1 = none)
    (hreread : poll.snapshot.core ≠ poll.reread.core) :
    BaselineUnblocked (rollbackStep cfg st prior poll).1
        (history ++ (rollbackStep cfg st prior poll).2) ∧
      Each RestoresUnblocked history (rollbackStep cfg st prior poll).2 := by
  obtain ⟨limiter, hstep | hstep⟩ := rollbackStep_admitted prior hknown hok
  · rw [hstep]
    refine ⟨baselineUnblocked_of_see ⟨some (poll.snapshot, true), some prior.fullSnap⟩ rfl ?_,
      Each.cons ?_ (Each.cons (restoresUnblocked_reread _ _) (Each.nil _ _))⟩
    · rw [ledgerOf_append, hledger]
      simp [Ledger.note, Ledger.stillBlocked, hreread, Baseline.of]
    · intro target htarget
      obtain rfl := GuardEvent.restored.inj htarget
      rw [hledger]
  · rw [hstep]
    refine ⟨baselineUnblocked_of_see ⟨some (poll.snapshot, true), some prior.fullSnap⟩ rfl ?_,
      Each.cons (restoresUnblocked_reread _ _) (Each.nil _ _)⟩
    rw [ledgerOf_append, hledger]
    simp [Ledger.note, Ledger.stillBlocked, hreread, Baseline.of]

/-- One round keeps the invariant and restores nothing that was blocked. -/
theorem guardStep_unblocked (hlive : cfg.liveRollbackGate = true)
    (hknown : cfg.knownGoodSnapshot = none) (st : GuardState) (history : List GuardEvent)
    (poll : Poll) (hinv : BaselineUnblocked st history) (hcond : RolledBackAtOnce lower cfg st poll) :
    BaselineUnblocked (guardStep lower cfg st poll).1
        (history ++ (guardStep lower cfg st poll).2) ∧
      Each RestoresUnblocked history (guardStep lower cfg st poll).2 := by
  have quiet := restoresUnblocked_observed
  unfold guardStep
  cases hprior : st.prior with
  | none =>
    have hcurrent := hinv.started hprior
    refine ⟨baselineUnblocked_of_see (ledgerOf history) rfl ?_,
      Each.cons (quiet _ _ _) (Each.nil _ _)⟩
    rw [ledgerOf_append]
    simp [Ledger.note, Ledger.stillBlocked, hcurrent, Baseline.of]
  | some prior =>
    obtain ⟨hview, hledger⟩ := hinv.baseline prior hprior
    dsimp only
    split
    · rename_i hsame
      refine ⟨baselineUnblocked_of_see (ledgerOf history) hsame ?_,
        Each.cons (quiet _ _ _) (Each.nil _ _)⟩
      rw [ledgerOf_append]
      simp [Ledger.note, Ledger.stillBlocked, hledger]
    · rename_i hchanged
      have hreversible := evaluateProxyTransition_reversible lower prior.fullSnap poll.snapshot
        (parseProxyServer poll.snapshot.proxyServer) poll.attribution cfg.policy poll.portListen
        poll.path
      split
      · rename_i hblocked
        obtain ⟨hok, hreread⟩ := hcond prior hprior hchanged hblocked.1
        -- after the verdict the ledger holds the blocked state, and the baseline behind it
        have hseen : ledgerOf (history ++ [.observed poll.snapshot
            (some (poll.verdict lower cfg prior).decision)]) =
            ⟨some (poll.snapshot, true), some prior.fullSnap⟩ := by
          rw [ledgerOf_append]
          simp [Ledger.note, Ledger.see, hblocked.1, hledger]
        obtain ⟨hbaseline, heach⟩ := rollbackStep_unblocked hknown hseen hok hreread
        rw [List.append_assoc] at hbaseline
        exact ⟨hbaseline, Each.cons (quiet _ _ _) heach⟩
      · rename_i hnot
        have hunblocked : (poll.verdict lower cfg prior).decision ≠ .blocked :=
          fun h => hnot ⟨h, hreversible h, effectiveRollback_of_live hlive⟩
        refine ⟨baselineUnblocked_of_see (ledgerOf history) rfl ?_,
          Each.cons (quiet _ _ _) (Each.nil _ _)⟩
        rw [ledgerOf_append]
        simp [Ledger.note, hunblocked, Baseline.of]

/-- In every run in which each change that is judged blocked is rolled back at
once, every rollback restores the most recent state that was not judged
blocked. -/
theorem restored_lastUnblocked (lower : List Char → List Char) (cfg : GuardConfig)
    (polls : List Poll) (before after : List GuardEvent) (target : ProxySnapshot)
    (hlive : cfg.liveRollbackGate = true) (hknown : cfg.knownGoodSnapshot = none)
    (hadm : Admitted (guardStep lower cfg) (RolledBackAtOnce lower cfg) {} polls)
    (hrun : (run (guardStep lower cfg) {} polls).2 = before ++ .restored target :: after) :
    (ledgerOf before).lastUnblocked = some target := by
  have hinit : BaselineUnblocked {} [] :=
    ⟨fun _ => rfl, fun prior hprior => absurd hprior (by simp)⟩
  have heach := (run_each (guardStep_unblocked hlive hknown) hinit hadm).2
  exact heach before (.restored target) after hrun target rfl

end Loop

/-! ## A run -/

/-- A snapshot with a PAC file. -/
def pacSnapshot (url : String) : ProxySnapshot := { autoConfigUrl := some url }

/-- A poll that nothing is known about but what it reads. -/
def samplePoll (snapshot reread : ProxySnapshot) (clock : ℚ) : Poll where
  snapshot := snapshot
  attribution := ⟨.unknown, none⟩
  portListen := none
  path := none
  evaluateClock := clock
  recordClock := clock
  reread := reread

def samplePolls : List Poll :=
  [samplePoll {} {} 0, samplePoll (pacSnapshot "http://one.example/p.pac") {} 10]

/-- A PAC file appears and is rolled back: the empty state is restored. -/
theorem restored_lastUnblocked_sample :
    (ledgerOf [.observed {} none,
      .observed (pacSnapshot "http://one.example/p.pac") (some .blocked)]).lastUnblocked =
        some {} := by
  refine restored_lastUnblocked Python.lower { autoRollback := true } samplePolls _ [.reread {}] _
    (by decide) rfl ⟨?_, ?_, trivial⟩ (by decide +kernel)
  · exact fun prior hprior => absurd hprior (by simp)
  · exact fun prior _ _ _ => ⟨by decide +kernel, by decide +kernel⟩

/-- Three PAC files appear. The first is rolled back; the second is blocked but
within the cooldown, so that it becomes the baseline; and after the cooldown,
when the third is rolled back, the guard writes the SECOND. -/
theorem blocked_state_restored :
    ¬ ∀ (lower : List Char → List Char) (cfg : GuardConfig) (polls : List Poll)
        (before after : List GuardEvent) (target : ProxySnapshot),
      cfg.liveRollbackGate = true → cfg.knownGoodSnapshot = none →
      (run (guardStep lower cfg) {} polls).2 = before ++ .restored target :: after →
      (ledgerOf before).lastUnblocked = some target := by
  intro h
  have hlast := h Python.lower { autoRollback := true }
    (samplePolls ++ [samplePoll (pacSnapshot "http://two.example/p.pac") {} 20,
      samplePoll (pacSnapshot "http://three.example/p.pac") (pacSnapshot "http://two.example/p.pac")
        100])
    [.observed {} none,
      .observed (pacSnapshot "http://one.example/p.pac") (some .blocked), .restored {}, .reread {},
      .observed (pacSnapshot "http://two.example/p.pac") (some .blocked),
      .suppressed (.cooldownActive 50),
      .observed (pacSnapshot "http://three.example/p.pac") (some .blocked)]
    [.reread (pacSnapshot "http://two.example/p.pac")]
    (pacSnapshot "http://two.example/p.pac") (by decide) rfl (by decide +kernel)
  exact absurd hlast (by decide)

end ProxyGuard
