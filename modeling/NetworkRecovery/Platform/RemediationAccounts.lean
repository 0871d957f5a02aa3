import NetworkRecovery.Platform.RemediationRuns

/-!
# What the logs say of the remediations that were run

A run is announced in the audit log before it starts and recorded among the executions when it
has come back. The rows of both logs are told apart from those of the requests that run nothing,
and then counted against the runs.
-/

namespace Remediation

open Python Audit Platform Relation

/-! ## What is recorded of the runs -/

/-- The row that announces a run. -/
def AuditRow.isPending : AuditRow → Bool
  | .written _ action _ _ _ _ => action = "execute_live_pending"
  | .contract .. => false

/-- What is answered at once neither announces a run nor says that one succeeded. -/
def Verdict.Quiet : Verdict → Prop
  | .refused _ audit => audit.filter AuditRow.isPending = []
  | .answered answer =>
    answer.audit.filter AuditRow.isPending = [] ∧ answer.execution.result ≠ .success
  | .live _ | .failed _ => True

theorem executePreview_quiet (executionId : String) (principal : DemoPrincipal) (body : ExecuteIn)
    (preview : RemediationPreview) (host : Host) :
    (executePreview executionId principal body preview host).Quiet := by
  have hrefused : ∀ error summary, Verdict.Quiet (.refused error
      [executionAudit principal body preview "remediation_blocked" summary "blocked"]) :=
    fun _ _ => rfl
  have hblocked : ∀ reason, Verdict.Quiet
      (.answered (blockedAnswer executionId principal body preview reason)) := by
    intro reason
    exact ⟨rfl, by simp [blockedAnswer, executionRow]⟩
  unfold executePreview
  split
  · exact hrefused _ _
  simp only
  split
  · exact hblocked _
  split
  · exact hrefused _ _
  split
  · exact hblocked _
  split
  · split
    · exact ⟨rfl, by simp [notWindowsAnswer, executionRow]⟩
    · split
      · exact hrefused _ _
      · trivial
  · exact ⟨rfl, by simp [dryRunAnswer, executionRow]⟩

theorem remediationExecute_quiet (executionId : String) (principal : DemoPrincipal)
    (body : ExecuteIn) (host : Host) (previews : File) :
    (remediationExecute executionId principal body host previews).Quiet := by
  unfold remediationExecute
  split
  · rfl
  split
  · rfl
  split
  · trivial
  · rfl
  split
  · trivial
  · exact executePreview_quiet _ _ _ _ _

/-- Those of the jobs that have come as far as a stage. -/
def jobsAt (stage : Stage) (jobs : List Job) : List Live :=
  (jobs.filter fun job => job.stage = stage).map Job.live

def System.at (sys : System) (stage : Stage) : List Live := jobsAt stage sys.jobs

theorem jobsAt_middle (front back : List Job) (live : Live) (stage : Stage) :
    (jobsAt stage (front ++ ⟨stage, live⟩ :: back)).Perm
      (live :: jobsAt stage (front ++ back)) := by
  unfold jobsAt
  rw [List.filter_append, List.filter_append, List.filter_cons, if_pos (decide_eq_true rfl),
    List.map_append, List.map_append, List.map_cons]
  exact List.perm_middle

theorem jobsAt_middle_of_ne {stage stage' : Stage} (h : stage' ≠ stage) (front back : List Job)
    (live : Live) :
    jobsAt stage (front ++ ⟨stage', live⟩ :: back) = jobsAt stage (front ++ back) := by
  unfold jobsAt
  rw [List.filter_append, List.filter_append, List.filter_cons, if_neg (by simpa using h)]

/-- What a success says: the preview it was for, who asked for it, and the action. -/
def RemediationExecution.told (ex : RemediationExecution) : String × String × String :=
  (ex.previewId, ex.confirmedBy, ex.action)

def Live.told (live : Live) : String × String × String :=
  (live.body.previewId, live.principal.operatorId, live.preview.proposedAction)

/-- What the logs say of the runs. -/
structure Accounts (sys : System) : Prop where
  /-- the successes on record are the runs that ended with exit code 0 -/
  successes : (sys.executions.filter fun ex => ex.result = .success).map RemediationExecution.told =
    (sys.finished.filter fun run => run.2.ok).map fun run => run.1.told
  /-- a run has come back, or is going on, or has ended in an exception that is no timeout -/
  runs : sys.spawned.Perm (sys.finished.map Prod.fst ++ sys.at .running ++ sys.crashed)
  /-- the runs that were announced are those that were started and those that are about to be -/
  announced : (sys.audit.filter AuditRow.isPending).Perm
    ((sys.spawned ++ sys.at .announced).map Live.pending)

theorem accounts_init : Accounts .init := ⟨rfl, .refl _, .refl _⟩

/-- One more in the middle is one more. -/
theorem perm_cons_middle {α : Type} {middle middle' : List α} {a : α}
    (h : middle'.Perm (a :: middle)) (front back : List α) :
    (front ++ middle' ++ back).Perm (a :: (front ++ middle ++ back)) := by
  have hmiddle : (front ++ middle').Perm (a :: (front ++ middle)) :=
    (h.append_left front).trans List.perm_middle
  exact hmiddle.append_right back

section Accounts

variable {alnum : Char → Bool} {sep : Linesep} {sys sys' : System}

/-- Neither runs nor successes are touched by what is answered at once. -/
theorem Accounts.quiet (h : Accounts sys) {executions : List RemediationExecution}
    {audit : List AuditRow} (hexecutions : ∀ ex ∈ executions, ex.result ≠ .success)
    (haudit : audit.filter AuditRow.isPending = []) :
    Accounts { sys with executions := sys.executions ++ executions, audit := sys.audit ++ audit } := by
  refine ⟨?_, h.runs, ?_⟩
  · have hnone : executions.filter (fun ex => ex.result = .success) = [] := by
      simpa [List.filter_eq_nil_iff] using hexecutions
    show ((sys.executions ++ executions).filter _).map _ = _
    rw [List.filter_append, hnone, List.append_nil]
    exact h.successes
  · show ((sys.audit ++ audit).filter _).Perm _
    rw [List.filter_append, haudit, List.append_nil]
    exact h.announced

theorem Accounts.silent (h : Accounts sys) {audit : List AuditRow}
    (haudit : audit.filter AuditRow.isPending = []) :
    Accounts { sys with audit := sys.audit ++ audit } := by
  have hquiet := h.quiet (fun ex hex => absurd hex List.not_mem_nil) haudit
  rwa [List.append_nil] at hquiet

variable {front back : List Job} {live : Live}

theorem Accounts.clear (h : Accounts sys) (live : Live) :
    Accounts { sys with jobs := ⟨.cleared, live⟩ :: sys.jobs } := by
  have hrunning : jobsAt .running (⟨.cleared, live⟩ :: sys.jobs) = sys.at .running :=
    jobsAt_middle_of_ne (by decide) [] sys.jobs live
  have hannounced : jobsAt .announced (⟨.cleared, live⟩ :: sys.jobs) = sys.at .announced :=
    jobsAt_middle_of_ne (by decide) [] sys.jobs live
  refine ⟨h.successes, ?_, ?_⟩
  · show sys.spawned.Perm (_ ++ jobsAt .running _ ++ sys.crashed)
    rw [hrunning]
    exact h.runs
  · show (sys.audit.filter _).Perm ((sys.spawned ++ jobsAt .announced _).map _)
    rw [hannounced]
    exact h.announced

theorem Accounts.announce (h : Accounts sys) (jobs : sys.jobs = front ++ ⟨.cleared, live⟩ :: back) :
    Accounts { sys with
      jobs := front ++ ⟨.announced, live⟩ :: back, audit := sys.audit ++ [live.pending] } := by
  have hrunning : jobsAt .running (front ++ ⟨.announced, live⟩ :: back) = sys.at .running := by
    rw [System.at, jobs, jobsAt_middle_of_ne (by decide), jobsAt_middle_of_ne (by decide)]
  have hannounced : (jobsAt .announced (front ++ ⟨.announced, live⟩ :: back)).Perm
      (live :: sys.at .announced) := by
    rw [System.at, jobs, jobsAt_middle_of_ne (show Stage.cleared ≠ .announced by decide)]
    exact jobsAt_middle _ _ _ _
  refine ⟨h.successes, ?_, ?_⟩
  · show sys.spawned.Perm (_ ++ jobsAt .running _ ++ sys.crashed)
    rw [hrunning]
    exact h.runs
  · have hpending : (sys.audit ++ [live.pending]).filter AuditRow.isPending =
        sys.audit.filter AuditRow.isPending ++ [live.pending] := by
      rw [List.filter_append]
      rfl
    have hmore : (sys.spawned ++ jobsAt .announced (front ++ ⟨.announced, live⟩ :: back)).Perm
        (live :: (sys.spawned ++ sys.at .announced)) :=
      (hannounced.append_left _).trans List.perm_middle
    show ((sys.audit ++ [live.pending]).filter _).Perm _
    rw [hpending]
    exact (List.perm_append_singleton _ _).trans
      ((h.announced.cons live.pending).trans (hmore.symm.map Live.pending))

theorem Accounts.spawn (h : Accounts sys) (jobs : sys.jobs = front ++ ⟨.announced, live⟩ :: back) :
    Accounts { sys with
      jobs := front ++ ⟨.running, live⟩ :: back, spawned := sys.spawned ++ [live] } := by
  have hrunning : (jobsAt .running (front ++ ⟨.running, live⟩ :: back)).Perm
      (live :: sys.at .running) := by
    rw [System.at, jobs, jobsAt_middle_of_ne (show Stage.announced ≠ .running by decide)]
    exact jobsAt_middle _ _ _ _
  have hannounced : (sys.at .announced).Perm
      (live :: jobsAt .announced (front ++ ⟨.running, live⟩ :: back)) := by
    rw [System.at, jobs, jobsAt_middle_of_ne (show Stage.running ≠ .announced by decide)]
    exact jobsAt_middle _ _ _ _
  refine ⟨h.successes, ?_, ?_⟩
  · exact (List.perm_append_singleton _ _).trans
      ((h.runs.cons live).trans (perm_cons_middle hrunning _ sys.crashed).symm)
  · refine h.announced.trans (List.Perm.map Live.pending ?_)
    show (sys.spawned ++ sys.at .announced).Perm (sys.spawned ++ [live] ++ jobsAt .announced _)
    rw [List.append_assoc]
    exact hannounced.append_left sys.spawned

/-- A run that is over is off the jobs. -/
theorem running_left (jobs : sys.jobs = front ++ ⟨.running, live⟩ :: back) :
    (sys.at .running).Perm (live :: jobsAt .running (front ++ back)) ∧
      sys.at .announced = jobsAt .announced (front ++ back) := by
  rw [System.at, System.at, jobs]
  exact ⟨jobsAt_middle _ _ _ _, jobsAt_middle_of_ne (by decide) _ _ _⟩

theorem Accounts.crash (h : Accounts sys) (jobs : sys.jobs = front ++ ⟨.running, live⟩ :: back) :
    Accounts { sys with jobs := front ++ back, crashed := sys.crashed ++ [live] } := by
  obtain ⟨hrunning, hannounced⟩ := running_left jobs
  refine ⟨h.successes, ?_, ?_⟩
  · show sys.spawned.Perm (_ ++ jobsAt .running (front ++ back) ++ (sys.crashed ++ [live]))
    rw [← List.append_assoc]
    exact h.runs.trans ((perm_cons_middle hrunning _ sys.crashed).trans
      (List.perm_append_singleton _ _).symm)
  · show (sys.audit.filter _).Perm ((sys.spawned ++ jobsAt .announced (front ++ back)).map _)
    rw [← hannounced]
    exact h.announced

/-- What a run leaves is a success where it ended with exit code 0. -/
theorem finish_success (alnum : Char → Bool) (live : Live) (executionId : String) (run : RunResult) :
    ([(live.finish alnum executionId run).execution].filter fun ex => ex.result = .success).map
        RemediationExecution.told =
      ([(live, run)].filter fun run => run.2.ok).map fun run => run.1.told := by
  cases run with
  | completed returncode stdout stderr =>
    by_cases h : returncode = 0
    · simp [Live.finish, RunResult.ok, h, executionRow, RemediationExecution.told, Live.told]
    · simp [Live.finish, RunResult.ok, h, executionRow]
  | timedOut => rfl

theorem finish_silent (alnum : Char → Bool) (live : Live) (executionId : String) (run : RunResult) :
    (live.finish alnum executionId run).audit.filter AuditRow.isPending = [] := by
  cases run <;> rfl

theorem Accounts.finish (h : Accounts sys) (jobs : sys.jobs = front ++ ⟨.running, live⟩ :: back)
    (executionId : String) (run : RunResult) :
    Accounts ({ sys with jobs := front ++ back, finished := sys.finished ++ [(live, run)] }.record
      (live.finish alnum executionId run)) := by
  obtain ⟨hrunning, hannounced⟩ := running_left jobs
  refine ⟨?_, ?_, ?_⟩
  · show ((sys.executions ++ [_]).filter _).map _ = ((sys.finished ++ [(live, run)]).filter _).map _
    rw [List.filter_append, List.map_append, h.successes, finish_success, List.filter_append,
      List.map_append]
  · show sys.spawned.Perm ((sys.finished ++ [(live, run)]).map Prod.fst ++
      jobsAt .running (front ++ back) ++ sys.crashed)
    have hmoved : (sys.finished.map Prod.fst ++ sys.at .running).Perm
        (sys.finished.map Prod.fst ++ [live] ++ jobsAt .running (front ++ back)) := by
      rw [List.append_assoc]
      exact hrunning.append_left _
    rw [List.map_append]
    exact h.runs.trans (hmoved.append_right sys.crashed)
  · show ((sys.audit ++ _).filter _).Perm ((sys.spawned ++ jobsAt .announced (front ++ back)).map _)
    rw [List.filter_append, finish_silent, List.append_nil, ← hannounced]
    exact h.announced

theorem Step.accounts (hstep : Step alnum sep sys sys') (h : Accounts sys) : Accounts sys' := by
  cases hstep with
  | @preview draw principal body event preview built =>
    have hquiet := h.silent (show (previewAudit principal body preview).filter _ = [] from rfl)
    exact ⟨hquiet.successes, hquiet.runs, hquiet.announced⟩
  | @refuse executionId principal body host error audit refused =>
    have hverdict := remediationExecute_quiet executionId principal body host sys.previews.file
    rw [refused] at hverdict
    exact h.silent hverdict
  | @answer executionId principal body host answer answered =>
    have hverdict := remediationExecute_quiet executionId principal body host sys.previews.file
    rw [answered] at hverdict
    refine h.quiet (fun ex hex => ?_) hverdict.1
    rw [List.mem_singleton.mp hex]
    exact hverdict.2
  | clear cleared => exact h.clear _
  | announce jobs => exact h.announce jobs
  | spawn jobs => exact h.spawn jobs
  | finish jobs => exact h.finish jobs _ _
  | crash jobs => exact h.crash jobs

/-- However requests interleave, the logs account for the runs. -/
theorem reachable_accounts (h : ReflTransGen (Step alnum sep) .init sys) : Accounts sys := by
  induction h with
  | refl => exact accounts_init
  | tail _ hstep ih => exact hstep.accounts ih

theorem reachable_accounts_resetDns : ∃ sys : System, sys.spawned ≠ [] ∧ Accounts sys := by
  obtain ⟨sys, hrun, live, hlive, -⟩ := resetDns_spawned (fun _ => true) .lf
  exact ⟨sys, List.ne_nil_of_mem hlive, reachable_accounts hrun⟩

end Accounts

end Remediation
