import NetworkRecovery.Platform.RemediationRoutes

/-!
# Requests for remediation, side by side

What it takes for an execution to go live, first for one request (`remediationExecute_live_iff`)
and then for any number of them at work on the same logs. The script is run between two writes
to the logs, so other requests come in between; what a request has found before it goes live is
in a log that is only ever appended to, and cannot be taken back.
-/

namespace Remediation

open Python Audit Platform LastWriter Relation
open Reliability (textsField)

/-! ## Rows of previews -/

theorem riskName_ofText (risk : RiskName) : RiskName.ofText? risk.text = some risk := by
  cases risk <;> decide

theorem textsField_textList {row : Dict} {key : String} {texts : List String}
    (h : row.get? key = some (textList texts)) : textsField row key = some texts := by
  unfold textsField
  rw [h]
  exact Reliability.mapM_map_of_pure fun _ => rfl

/-- A row is read as the preview it was written from. -/
theorem ofRow_modelDump (p : RemediationPreview) :
    RemediationPreview.ofRow p.modelDump = some p := by
  have hrisk : (textField p.modelDump "risk_level").bind RiskName.ofText? = some p.riskLevel :=
    riskName_ofText p.riskLevel
  have hcommands : textsField p.modelDump "commands_preview" = some p.commandsPreview :=
    textsField_textList rfl
  unfold RemediationPreview.ofRow
  rw [hrisk, hcommands]
  rfl

theorem modelDump_wf (p : RemediationPreview) : (Value.dict p.modelDump).WF := by
  refine ⟨?_, trivial, trivial, trivial, trivial, trivial, trivial, textList_wf _, trivial, trivial,
    trivial, trivial, trivial, trivial, trivial⟩
  show ["preview_id", "endpoint_id", "failure_event_id", "proposed_action", "risk_level",
    "rationale", "commands_preview", "rollback_plan", "requires_typed_confirmation",
    "confirmation_phrase", "allowed_by_policy", "policy_reason", "created_at"].Nodup
  decide

/-- A log that is only appended to is always searched. -/
theorem findById_reads (log : JsonlFile) (idField idValue : String) :
    findById log.file idField idValue =
      .ok (scan (textField · idField) (some idValue) log.rows) := by
  unfold findById
  rw [log.reads]
  rfl

/-- What is found under an id is the last thing that was written under it. -/
theorem findById_rows {σ : Type} {write : σ → Dict} {id : σ → String} {idField : String}
    (hid : ∀ w, textField (write w) idField = some (id w)) {log : JsonlFile} {writes : List σ}
    (h : log.rows = writes.map write) (idValue : String) :
    findById log.file idField idValue = .ok ((scan id idValue writes).map write) := by
  rw [findById_reads, h]
  refine congrArg Except.ok ?_
  rw [scan_map]
  refine congrArg (Option.map _) ?_
  unfold scan
  refine congrArg (fun f => List.foldl f none writes) ?_
  funext last w
  simp only [Function.comp_apply, hid, Option.some_inj]

theorem findById_previews {log : JsonlFile} {previews : List RemediationPreview}
    (h : log.rows = previews.map RemediationPreview.modelDump) (previewId : String) :
    findById log.file "preview_id" previewId =
      .ok ((scan RemediationPreview.previewId previewId previews).map
        RemediationPreview.modelDump) := findById_rows (fun _ => rfl) h previewId

/-! ## One request -/

/-- What it takes for an execution of a preview to go live. -/
structure Clears (host : Host) (body : ExecuteIn) (preview : RemediationPreview) (script : String) :
    Prop where
  wet : body.dryRun = false
  windows : host.windows = true
  file : host.isFile script = true
  repair : ∃ defn, (preview.proposedAction, defn) ∈ liveActions ∧ defn.scriptPath = some script ∧
    (preview.requiresTypedConfirmation = true →
      strip body.confirmationPhrase.toList = defn.confirmationPhrase.toList)

/-- What a live action says of itself. -/
theorem live_scripted {action : String} {defn : RemediationActionDef}
    (h : (action, defn) ∈ liveActions) :
    ∃ script, defn.scriptPath = some script ∧ script ∈ allowlist ∧ defn.confirmationPhrase ≠ "" ∧
      defn.riskLevel = .medium := by
  have hall : ∀ e ∈ liveActions, (∃ script, e.2.scriptPath = some script ∧ script ∈ allowlist) ∧
      e.2.confirmationPhrase ≠ "" ∧ e.2.riskLevel = .medium := by
    intro e he
    obtain rfl | rfl : e = ("reset_dns", resetDns) ∨ e = ("reset_proxy", resetProxy) := by
      simpa [liveActions] using he
    · exact ⟨⟨"reset_dns.bat", rfl, by decide +kernel⟩, by decide, rfl⟩
    · exact ⟨⟨"reset_proxy.bat", rfl, by decide +kernel⟩, by decide, rfl⟩
  obtain ⟨⟨script, hscript, hallowed⟩, hphrase, hrisk⟩ := hall _ h
  exact ⟨script, hscript, hallowed, hphrase, hrisk⟩

/-- The default policy lets the live actions pass from the API. -/
theorem evaluateAction_live {action : String} {defn : RemediationActionDef}
    (h : (action, defn) ∈ liveActions) : (evaluateAction action .api).allowed = true :=
  (evaluateAction_live_iff h .api {}).mpr ⟨rfl, by decide, List.not_mem_nil⟩

theorem validate_live_iff {action : String} {defn : RemediationActionDef}
    (h : (action, defn) ∈ liveActions) (phrase : String) :
    validateConfirmationPhrase action phrase = true ↔
      strip phrase.toList = defn.confirmationPhrase.toList := by
  obtain ⟨-, -, -, hphrase, -⟩ := live_scripted h
  unfold validateConfirmationPhrase requireTypedConfirmation
  rw [(mem_liveActions_iff.mp h).1, Option.elim_some]
  simp [hphrase]

theorem allowlistedScript_eq_some_iff {isFile : String → Bool} {script path : String} :
    allowlistedScript isFile script = some path ↔
      script ∈ allowlist ∧ isFile script = true ∧ script = path := by
  unfold allowlistedScript
  split
  · next h => simp [h]
  · next h =>
    split
    · next hfile => simp [not_not.mp h, hfile]
    · next hfile => simp [hfile]

theorem executePreview_live_iff {executionId : String} {principal : DemoPrincipal}
    {body : ExecuteIn} {preview : RemediationPreview} {host : Host} {live : Live} :
    executePreview executionId principal body preview host = .live live ↔
      ∃ script, Clears host body preview script ∧ live = ⟨principal, body, preview, script⟩ := by
  constructor
  · intro h
    unfold executePreview at h
    split at h
    · cases h
    next defn hdefn =>
    simp only at h
    split at h
    · cases h
    split at h
    · cases h
    next hphrase =>
    split at h
    · cases h
    next hgate =>
    split at h
    · next script hwet hscript =>
      split at h
      · cases h
      next hwindows =>
      split at h
      · cases h
      next path hpath =>
      obtain ⟨-, hfile, rfl⟩ := allowlistedScript_eq_some_iff.mp hpath
      have hapi : defn.apiExecuteAllowed = true := by
        rw [hwet] at hgate
        simp only [Bool.not_false, Bool.true_and, Bool.or_eq_true, Bool.not_eq_true', not_or,
          Bool.not_eq_false] at hgate
        exact hgate.2
      have hlive := mem_liveActions_iff.mpr ⟨hdefn, hapi⟩
      refine ⟨script, ⟨hwet, by simpa using hwindows, hfile, defn, hlive, hscript, ?_⟩, ?_⟩
      · intro hasks
        rw [← validate_live_iff hlive]
        simpa [hasks] using hphrase
      · exact (Verdict.live.inj h).symm
    · cases h
  · rintro ⟨script, ⟨hwet, hwindows, hfile, defn, hlive, hscript, hphrase⟩, rfl⟩
    obtain ⟨hdefn, hapi⟩ := mem_liveActions_iff.mp hlive
    obtain ⟨script', hscript', hallowed, -, -⟩ := live_scripted hlive
    obtain rfl : script = script' := Option.some.inj (hscript.symm.trans hscript')
    have hpath : allowlistedScript host.isFile script = some script :=
      allowlistedScript_eq_some_iff.mpr ⟨hallowed, hfile, rfl⟩
    have hvalid : (preview.requiresTypedConfirmation &&
        !validateConfirmationPhrase preview.proposedAction body.confirmationPhrase) = false := by
      cases hasks : preview.requiresTypedConfirmation with
      | false => rfl
      | true => rw [(validate_live_iff hlive _).mpr (hphrase hasks)]; rfl
    have hmanual : defn.manualOnly = false := (live_plain hlive).2.2
    simp only [executePreview, hdefn, evaluateAction_live hlive, hvalid, hwet, hapi, hmanual,
      hscript, hwindows, hpath, Bool.not_true, Bool.not_false, Bool.or_self, Bool.and_false,
      Bool.false_eq_true, if_false]

theorem assertCanExecute_live_iff (principal : DemoPrincipal) :
    assertCanExecute principal false = .ok () ↔ principal.role = .admin := by
  unfold assertCanExecute
  cases principal.role <;> simp

/-- An execution goes live exactly when an admin asks for it, not as a dry run and not in demo
mode, of the last preview under the id, and the preview clears. -/
theorem remediationExecute_live_iff {executionId : String} {principal : DemoPrincipal}
    {body : ExecuteIn} {host : Host} {log : JsonlFile} {previews : List RemediationPreview}
    (h : log.rows = previews.map RemediationPreview.modelDump) {live : Live} :
    remediationExecute executionId principal body host log.file = .live live ↔
      principal.role = .admin ∧ host.demoMode = false ∧ ∃ preview script,
        scan RemediationPreview.previewId body.previewId previews = some preview ∧
        Clears host body preview script ∧ live = ⟨principal, body, preview, script⟩ := by
  have hread := findById_previews h body.previewId
  constructor
  · intro hlive
    unfold remediationExecute at hlive
    rw [hread] at hlive
    split at hlive
    · cases hlive
    next hrole =>
    split at hlive
    · cases hlive
    next hdemo =>
    split at hlive
    · cases hlive
    · cases hlive
    next row hrow =>
    obtain ⟨preview, hpreview, rfl⟩ := Option.map_eq_some_iff.mp (Except.ok.inj hrow)
    rw [ofRow_modelDump] at hlive
    obtain ⟨script, hclears, rfl⟩ := executePreview_live_iff.mp hlive
    rw [hclears.wet, assertCanExecute_live_iff] at hrole
    rw [hclears.wet, Bool.not_false, Bool.and_true, Bool.not_eq_true] at hdemo
    exact ⟨hrole, hdemo, preview, script, hpreview, hclears, rfl⟩
  · rintro ⟨hrole, hdemo, preview, script, hpreview, hclears, rfl⟩
    unfold remediationExecute
    rw [hclears.wet, (assertCanExecute_live_iff principal).mpr hrole, hread, hpreview]
    simp only [hdemo, Bool.false_and, Bool.false_eq_true, if_false, Option.map_some,
      ofRow_modelDump]
    exact executePreview_live_iff.mpr ⟨script, hclears, rfl⟩

/-- A phrase of the registry has no space around it. -/
theorem strip_phrase {action : String} {defn : RemediationActionDef}
    (h : (action, defn) ∈ liveActions) :
    strip defn.confirmationPhrase.toList = defn.confirmationPhrase.toList := by
  have hall : ∀ e ∈ liveActions,
      strip e.2.confirmationPhrase.toList = e.2.confirmationPhrase.toList := by decide +kernel
  exact hall (action, defn) h

/-- The unified gate and the route agree: an action may be executed by somebody, the gate says,
exactly when there is a request of theirs that goes live with a preview of it. -/
theorem live_iff_executeAllowed {principal : DemoPrincipal} {action : String} :
    (∃ (executionId : String) (body : ExecuteIn) (host : Host) (log : JsonlFile)
        (previews : List RemediationPreview) (preview : RemediationPreview) (live : Live),
      log.rows = previews.map RemediationPreview.modelDump ∧
      scan RemediationPreview.previewId body.previewId previews = some preview ∧
      preview.proposedAction = stripped action ∧
      remediationExecute executionId principal body host log.file = .live live) ↔
      (evaluate (some action) ⟨principal.role, .api⟩).executeAllowed = true := by
  rw [evaluate_executeAllowed_iff]
  constructor
  · rintro ⟨executionId, body, host, log, previews, preview, live, hlog, hscan, haction, hlive⟩
    obtain ⟨hadmin, -, preview', script, hscan', hclears, rfl⟩ :=
      (remediationExecute_live_iff hlog).mp hlive
    obtain rfl : preview = preview' := Option.some.inj (hscan.symm.trans hscan')
    obtain ⟨defn, hdefn, -, -⟩ := hclears.repair
    rw [haction] at hdefn
    exact ⟨rfl, hadmin, action, rfl, List.mem_map_of_mem hdefn, rfl, by decide, List.not_mem_nil⟩
  · rintro ⟨-, hadmin, action', haction, hname, -⟩
    obtain rfl : action = action' := Option.some.inj haction
    obtain ⟨⟨name, defn⟩, hdefn, hname⟩ := List.mem_map.mp hname
    obtain rfl : name = stripped action := hname
    obtain ⟨script, hscript, -⟩ := live_scripted hdefn
    let preview : RemediationPreview :=
      { previewId := "", endpointId := "", failureEventId := "", proposedAction := stripped action,
        riskLevel := defn.riskLevel, createdAt := "" }
    let body : ExecuteIn := ⟨"", defn.confirmationPhrase, false⟩
    let host : Host := ⟨false, true, fun _ => true⟩
    let log := JsonlFile.absent.append .lf preview.modelDump (modelDump_wf preview)
    have hlog : log.rows = [preview].map RemediationPreview.modelDump := rfl
    have hscan : scan RemediationPreview.previewId body.previewId [preview] = some preview := rfl
    have hclears : Clears host body preview script :=
      ⟨rfl, rfl, rfl, defn, hdefn, hscript, fun _ => strip_phrase hdefn⟩
    refine ⟨"", body, host, log, [preview], preview, _, hlog, hscan, rfl,
      (remediationExecute_live_iff hlog).mpr ⟨hadmin, rfl, preview, script, hscan, hclears, rfl⟩⟩

/-! ## What a preview says -/

/-- A preview that was recorded for somebody. -/
structure Requested where
  principal : DemoPrincipal
  preview : RemediationPreview

/-- Who it was recorded for may ask for previews, its action is no shell text, and of a live
action it asks for the phrase to be typed. -/
structure Requested.Honest (r : Requested) : Prop where
  role : r.principal.role ∈ [.operator, .admin]
  plain : isShellInjection r.preview.proposedAction = false
  asks : ∀ defn, (r.preview.proposedAction, defn) ∈ liveActions →
    r.preview.requiresTypedConfirmation = true

theorem assertCanPreview_ok_iff (principal : DemoPrincipal) :
    assertCanPreview principal = .ok () ↔ principal.role ∈ [.operator, .admin] := by
  unfold assertCanPreview
  cases principal.role <;> simp

theorem buildPreview_proposedAction (draw : PreviewDraw) (fe : FailureEvent) (action : String)
    (surface : Surface) (policy : RemediationPolicy) :
    (buildPreview draw fe action surface policy).proposedAction = action := by
  unfold buildPreview
  split <;> rfl

theorem buildPreview_asks {action : String} {defn : RemediationActionDef}
    (h : (action, defn) ∈ liveActions) (draw : PreviewDraw) (fe : FailureEvent)
    (surface : Surface) :
    (buildPreview draw fe action surface).requiresTypedConfirmation = true := by
  obtain ⟨-, -, -, hphrase, hrisk⟩ := live_scripted h
  unfold buildPreview
  rw [(mem_liveActions_iff.mp h).1]
  simp [hphrase, hrisk]

theorem remediationPreview_honest {draw : PreviewDraw} {principal : DemoPrincipal}
    {body : PreviewIn} {event : Option FailureEvent} {preview : RemediationPreview}
    (h : remediationPreview draw principal body event = .ok preview) :
    Requested.Honest ⟨principal, preview⟩ := by
  unfold remediationPreview at h
  cases hrole : assertCanPreview principal with
  | error e =>
    rw [hrole] at h
    cases h
  | ok allowed =>
    cases hshell : isShellInjection body.requestedAction with
    | true =>
      rw [hrole, hshell] at h
      cases h
    | false =>
      cases event with
      | none =>
        rw [hrole, hshell] at h
        cases h
      | some fe =>
        rw [hrole, hshell] at h
        obtain rfl := Except.ok.inj h
        refine ⟨(assertCanPreview_ok_iff principal).mp hrole, ?_, fun defn hlive => ?_⟩
        · show isShellInjection (buildPreview draw fe _ _).proposedAction = false
          rw [buildPreview_proposedAction]
          exact hshell
        · rw [buildPreview_proposedAction] at hlive
          exact buildPreview_asks hlive draw fe body.surface

/-! ## Requests side by side -/

/-- How far an execution that is live has come. -/
inductive Stage where
  | cleared
  | announced
  | running
  deriving DecidableEq

structure Job where
  stage : Stage
  live : Live

/-- The logs, the executions at work, and what has been run so far. -/
structure System where
  requested : List Requested
  previews : JsonlFile
  executions : List RemediationExecution
  audit : List AuditRow
  jobs : List Job
  /-- the calls of `subprocess.run`, in order -/
  spawned : List Live
  /-- those that have come back, in order -/
  finished : List (Live × RunResult)
  /-- those that an exception other than a timeout has ended, in order -/
  crashed : List Live

def System.init : System := ⟨[], .absent, [], [], [], [], [], []⟩

def System.record (sys : System) (answer : Answer) : System :=
  { sys with
    executions := sys.executions ++ [answer.execution]
    audit := sys.audit ++ answer.audit }

/-- One move. A request is answered in one, unless it goes live: then it is announced, run and
recorded in a move each, in whatever order the moves of several come. A run that ends in an
exception other than a timeout leaves nothing in the logs. -/
inductive Step (alnum : Char → Bool) (sep : Linesep) : System → System → Prop
  | preview {sys : System} {draw : PreviewDraw} {principal : DemoPrincipal} {body : PreviewIn}
      {event : Option FailureEvent} {preview : RemediationPreview}
      (built : remediationPreview draw principal body event = .ok preview) :
      Step alnum sep sys
        { sys with
          requested := sys.requested ++ [⟨principal, preview⟩]
          previews := sys.previews.append sep preview.modelDump (modelDump_wf preview)
          audit := sys.audit ++ previewAudit principal body preview }
  | refuse {sys : System} {executionId : String} {principal : DemoPrincipal} {body : ExecuteIn}
      {host : Host} {error : HttpError} {audit : List AuditRow}
      (refused : remediationExecute executionId principal body host sys.previews.file =
        .refused error audit) :
      Step alnum sep sys { sys with audit := sys.audit ++ audit }
  | answer {sys : System} {executionId : String} {principal : DemoPrincipal} {body : ExecuteIn}
      {host : Host} {answer : Answer}
      (answered : remediationExecute executionId principal body host sys.previews.file =
        .answered answer) :
      Step alnum sep sys (sys.record answer)
  | clear {sys : System} {executionId : String} {principal : DemoPrincipal} {body : ExecuteIn}
      {host : Host} {live : Live}
      (cleared : remediationExecute executionId principal body host sys.previews.file =
        .live live) :
      Step alnum sep sys { sys with jobs := ⟨.cleared, live⟩ :: sys.jobs }
  | announce {sys : System} {front back : List Job} {live : Live}
      (jobs : sys.jobs = front ++ ⟨.cleared, live⟩ :: back) :
      Step alnum sep sys
        { sys with jobs := front ++ ⟨.announced, live⟩ :: back, audit := sys.audit ++ [live.pending] }
  | spawn {sys : System} {front back : List Job} {live : Live}
      (jobs : sys.jobs = front ++ ⟨.announced, live⟩ :: back) :
      Step alnum sep sys
        { sys with jobs := front ++ ⟨.running, live⟩ :: back, spawned := sys.spawned ++ [live] }
  | finish {sys : System} {front back : List Job} {live : Live} {executionId : String}
      {run : RunResult} (jobs : sys.jobs = front ++ ⟨.running, live⟩ :: back) :
      Step alnum sep sys
        ({ sys with jobs := front ++ back, finished := sys.finished ++ [(live, run)] }.record
          (live.finish alnum executionId run))
  | crash {sys : System} {front back : List Job} {live : Live}
      (jobs : sys.jobs = front ++ ⟨.running, live⟩ :: back) :
      Step alnum sep sys { sys with jobs := front ++ back, crashed := sys.crashed ++ [live] }

/-- What stands behind a run: who asked for it, and in what way, for which of the two repairs, and
out of which preview. -/
structure Authorized (requested : List Requested) (live : Live) : Prop where
  admin : live.principal.role = .admin
  wet : live.body.dryRun = false
  previewed : ∃ r ∈ requested, r.Honest ∧ r.preview = live.preview ∧
    r.preview.previewId = live.body.previewId
  repair : ∃ defn, (live.preview.proposedAction, defn) ∈ liveActions ∧
    defn.scriptPath = some live.script ∧
    strip live.body.confirmationPhrase.toList = defn.confirmationPhrase.toList

theorem Authorized.mono {requested requested' : List Requested} {live : Live}
    (h : Authorized requested live) (hsub : requested ⊆ requested') :
    Authorized requested' live := by
  obtain ⟨r, hr, hhonest⟩ := h.previewed
  exact ⟨h.admin, h.wet, ⟨r, hsub hr, hhonest⟩, h.repair⟩

/-- What every move keeps. -/
structure Sound (sys : System) : Prop where
  log : sys.previews.rows = sys.requested.map fun r => r.preview.modelDump
  honest : ∀ r ∈ sys.requested, r.Honest
  jobs : ∀ job ∈ sys.jobs, Authorized sys.requested job.live
  spawned : ∀ live ∈ sys.spawned, Authorized sys.requested live

theorem sound_init : Sound .init :=
  ⟨rfl, fun _ h => absurd h List.not_mem_nil, fun _ h => absurd h List.not_mem_nil,
    fun _ h => absurd h List.not_mem_nil⟩

section Moves

variable {alnum : Char → Bool} {sep : Linesep} {sys sys' : System}

theorem Sound.previews_rows (h : Sound sys) :
    sys.previews.rows = (sys.requested.map Requested.preview).map RemediationPreview.modelDump := by
  rw [h.log, List.map_map]
  rfl

/-- An execution that goes live is authorized. -/
theorem Sound.authorized (h : Sound sys) {executionId : String} {principal : DemoPrincipal}
    {body : ExecuteIn} {host : Host} {live : Live}
    (hlive : remediationExecute executionId principal body host sys.previews.file = .live live) :
    Authorized sys.requested live := by
  obtain ⟨hadmin, -, preview, script, hscan, hclears, rfl⟩ :=
    (remediationExecute_live_iff h.previews_rows).mp hlive
  obtain ⟨hmem, hid⟩ := scan_some hscan
  obtain ⟨r, hr, rfl⟩ := List.mem_map.mp hmem
  obtain ⟨defn, haction, hscript, hphrase⟩ := hclears.repair
  have hasks := (h.honest r hr).asks defn haction
  exact ⟨hadmin, hclears.wet, ⟨r, hr, h.honest r hr, rfl, hid⟩, defn, haction, hscript, hphrase hasks⟩

section Jobs

variable {requested : List Requested} {front back : List Job} {job : Job}
  (h : ∀ j ∈ front ++ job :: back, Authorized requested j.live)

include h

theorem jobs_without : ∀ j ∈ front ++ back, Authorized requested j.live := by
  intro j hj
  apply h j
  rcases List.mem_append.mp hj with hj | hj
  · exact List.mem_append_left _ hj
  · exact List.mem_append_right _ (List.mem_cons_of_mem _ hj)

theorem job_authorized : Authorized requested job.live :=
  h job (List.mem_append_right _ List.mem_cons_self)

/-- Executions at work stay authorized when one of them moves on. -/
theorem jobs_moved (stage : Stage) :
    ∀ j ∈ front ++ ⟨stage, job.live⟩ :: back, Authorized requested j.live := by
  intro j hj
  rcases List.mem_append.mp hj with hj | hj
  · exact jobs_without h j (List.mem_append_left _ hj)
  · rcases List.mem_cons.mp hj with rfl | hj
    · have hjob : Authorized requested job.live := job_authorized h
      exact hjob
    · exact jobs_without h j (List.mem_append_right _ hj)

end Jobs

theorem Step.sound (hstep : Step alnum sep sys sys') (h : Sound sys) : Sound sys' := by
  cases hstep with
  | @preview draw principal body event preview built =>
    have hsub : sys.requested ⊆ sys.requested ++ [⟨principal, preview⟩] :=
      List.subset_append_left _ _
    refine ⟨?_, fun r hr => ?_, fun job hjob => (h.jobs job hjob).mono hsub,
      fun live hlive => (h.spawned live hlive).mono hsub⟩
    · show sys.previews.rows ++ [preview.modelDump] = _
      rw [h.log, List.map_append, List.map_singleton]
    · rcases List.mem_append.mp hr with hr | hr
      · exact h.honest r hr
      · rw [List.mem_singleton.mp hr]
        exact remediationPreview_honest built
  | refuse refused => exact ⟨h.log, h.honest, h.jobs, h.spawned⟩
  | answer answered => exact ⟨h.log, h.honest, h.jobs, h.spawned⟩
  | clear cleared =>
    refine ⟨h.log, h.honest, fun job hjob => ?_, h.spawned⟩
    rcases List.mem_cons.mp hjob with rfl | hjob
    · exact h.authorized cleared
    · exact h.jobs job hjob
  | announce jobs =>
    have hjobs := h.jobs
    rw [jobs] at hjobs
    exact ⟨h.log, h.honest, jobs_moved hjobs .announced, h.spawned⟩
  | spawn jobs =>
    have hjobs := h.jobs
    rw [jobs] at hjobs
    refine ⟨h.log, h.honest, jobs_moved hjobs .running, fun live hlive => ?_⟩
    rcases List.mem_append.mp hlive with hlive | hlive
    · exact h.spawned live hlive
    · rw [List.mem_singleton.mp hlive]
      exact job_authorized hjobs
  | finish jobs =>
    have hjobs := h.jobs
    rw [jobs] at hjobs
    exact ⟨h.log, h.honest, jobs_without hjobs, h.spawned⟩
  | crash jobs =>
    have hjobs := h.jobs
    rw [jobs] at hjobs
    exact ⟨h.log, h.honest, jobs_without hjobs, h.spawned⟩

theorem reachable_sound (h : ReflTransGen (Step alnum sep) .init sys) : Sound sys := by
  induction h with
  | refl => exact sound_init
  | tail _ hstep ih => exact hstep.sound ih

/-- What the registry says of a live action, in full. -/
theorem live_repair {action script : String} {defn : RemediationActionDef}
    (h : (action, defn) ∈ liveActions) (hscript : defn.scriptPath = some script) :
    (action, script, defn.confirmationPhrase) ∈
      [("reset_dns", "reset_dns.bat", "RUN_DNS_RESET"),
        ("reset_proxy", "reset_proxy.bat", "RUN_PROXY_RESET")] := by
  have hcases : (action, defn) = ("reset_dns", resetDns) ∨
      (action, defn) = ("reset_proxy", resetProxy) := by
    simpa [liveActions] using h
  rcases hcases with heq | heq
  · obtain ⟨rfl, rfl⟩ := Prod.mk.inj heq
    obtain rfl : "reset_dns.bat" = script := Option.some.inj hscript
    exact List.mem_cons_self
  · obtain ⟨rfl, rfl⟩ := Prod.mk.inj heq
    obtain rfl : "reset_proxy.bat" = script := Option.some.inj hscript
    exact List.mem_cons_of_mem _ List.mem_cons_self

/-- Whatever requests come, and however they interleave: a script that is run was asked for by an
admin, not as a dry run; of a preview that is in the log, recorded for somebody who may ask for
previews; and it is the script of one of the two repairs, its phrase typed in. -/
theorem spawned_authorized (h : ReflTransGen (Step alnum sep) .init sys) {live : Live}
    (hlive : live ∈ sys.spawned) :
    live.principal.role = .admin ∧ live.body.dryRun = false ∧
      (∃ rows, iterJsonl sys.previews.file = .ok rows ∧ live.preview.modelDump ∈ rows) ∧
      live.preview.previewId = live.body.previewId ∧
      (∃ r ∈ sys.requested, r.preview = live.preview ∧ r.principal.role ∈ [.operator, .admin]) ∧
      (live.preview.proposedAction, live.script, stripped live.body.confirmationPhrase) ∈
        [("reset_dns", "reset_dns.bat", "RUN_DNS_RESET"),
          ("reset_proxy", "reset_proxy.bat", "RUN_PROXY_RESET")] := by
  have hsound := reachable_sound h
  obtain ⟨hadmin, hwet, ⟨r, hr, hhonest, hpreview, hid⟩, defn, haction, hscript, hphrase⟩ :=
    hsound.spawned live hlive
  have hrow : live.preview.modelDump ∈ sys.previews.rows := by
    rw [hsound.log, ← hpreview]
    exact List.mem_map_of_mem hr
  have htyped : stripped live.body.confirmationPhrase = defn.confirmationPhrase := by
    rw [stripped, hphrase, String.ofList_toList]
  refine ⟨hadmin, hwet, ⟨_, sys.previews.reads, hrow⟩, hpreview ▸ hid,
    ⟨r, hr, hpreview, hhonest.role⟩, ?_⟩
  rw [htyped]
  exact live_repair haction hscript

/-- A repair of the name servers, from its preview to its run. -/
theorem resetDns_spawned (alnum : Char → Bool) (sep : Linesep) : ∃ sys, ReflTransGen (Step alnum sep) .init sys ∧
    ∃ live ∈ sys.spawned, live.script = "reset_dns.bat" := by
  let admin : DemoPrincipal := ⟨"ops", .admin⟩
  let request : PreviewIn := ⟨"ep-1", "fe-1", "reset_dns", .api⟩
  let preview := buildPreview ⟨"pv-1", "t0"⟩ ⟨"fe-1", "ep-1", ""⟩ "reset_dns" .api
  let body : ExecuteIn := ⟨"pv-1", " RUN_DNS_RESET ", false⟩
  let host : Host := ⟨false, true, fun _ => true⟩
  have hplain : isShellInjection "reset_dns" = false := by decide +kernel
  have hbuilt : remediationPreview ⟨"pv-1", "t0"⟩ admin request (some ⟨"fe-1", "ep-1", ""⟩) =
      .ok preview := by
    simp [remediationPreview, assertCanPreview, admin, request, hplain, preview, pure, Except.pure,
      bind, Except.bind]
  have hdefn : ("reset_dns", resetDns) ∈ liveActions := List.mem_cons_self
  have hclears : Clears host body preview "reset_dns.bat" := by
    refine ⟨rfl, rfl, rfl, resetDns, ?_, rfl, fun _ => by decide +kernel⟩
    rw [buildPreview_proposedAction]
    exact hdefn
  have hid : preview.previewId = "pv-1" := by decide +kernel
  let sys₁ : System := ⟨[⟨admin, preview⟩],
    JsonlFile.absent.append sep preview.modelDump (modelDump_wf preview), [],
    previewAudit admin request preview, [], [], [], []⟩
  let live : Live := ⟨admin, body, preview, "reset_dns.bat"⟩
  have hpreview : Step alnum sep .init sys₁ := .preview hbuilt
  let sys₂ : System := { sys₁ with jobs := [⟨.cleared, live⟩] }
  let sys₃ : System := { sys₂ with
    jobs := [⟨.announced, live⟩], audit := sys₂.audit ++ [live.pending] }
  let sys₄ : System := { sys₃ with jobs := [⟨.running, live⟩], spawned := [live] }
  have hclear : Step alnum sep sys₁ sys₂ := by
    have hlog : sys₁.previews.rows = [preview].map RemediationPreview.modelDump := rfl
    have hscan : scan RemediationPreview.previewId "pv-1" ([] ++ [preview]) = some preview :=
      scan_concat_self [] hid
    have hlive : remediationExecute "ex-1" admin body host sys₁.previews.file = .live live :=
      (remediationExecute_live_iff hlog).mpr ⟨rfl, rfl, preview, _, hscan, hclears, rfl⟩
    exact .clear hlive
  have hcleared : sys₂.jobs = [] ++ ⟨.cleared, live⟩ :: [] := rfl
  have hannounced : sys₃.jobs = [] ++ ⟨.announced, live⟩ :: [] := rfl
  have hannounce : Step alnum sep sys₂ sys₃ := .announce hcleared
  have hspawn : Step alnum sep sys₃ sys₄ := .spawn hannounced
  exact ⟨sys₄, .head hpreview (.head hclear (.head hannounce (.single hspawn))), live,
    List.mem_cons_self, rfl⟩

theorem spawned_authorized_resetDns : ∃ sys : System, ∃ live ∈ sys.spawned,
    live.script = "reset_dns.bat" ∧ live.principal.role = .admin ∧ live.body.dryRun = false := by
  obtain ⟨sys, hrun, live, hlive, hscript⟩ := resetDns_spawned (fun _ => true) .lf
  obtain ⟨hadmin, hwet, -⟩ := spawned_authorized hrun hlive
  exact ⟨sys, live, hlive, hscript, hadmin, hwet⟩

end Moves

end Remediation
