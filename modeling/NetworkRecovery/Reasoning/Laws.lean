import NetworkRecovery.Reasoning.Engine

/-!
# What a run decides

A run is taken apart once (`Ran`). What authority it gives hangs on the action, the
proof, the confirmation and the contradictions among the latest signals, and on
nothing else that is observed (`authority_runReasoning`): the score, the impact and
the guardrails change what a decision says of itself, never what it is. The path that
it reports follows the scenario, and its projection is a path of the canonical machine
(`path_runReasoning`).
-/

namespace Reasoning

open Python Platform Trails
open scoped List

/-! ## Taking a run apart -/

/-- What a run has done, on the events it has made. -/
structure Ran (draw : RunDraw) (observations : List Observation) (args : RunArgs)
    (run : ReasoningRun) : Prop where
  id : run.id = args.id draw
  raw : run.rawObservations = observations
  signals : run.normalizedSignals = normalizeSignals observations
  events : detectEndpointEvents draw.eventId 0 observations = .ok run.detectedEvents
  transitions : run.stateTransitions =
    inferBrowserProxyTransitions run.detectedEvents run.normalizedSignals
  canonical : run.canonicalStateTransitions = inferCanonicalTransitions run.stateTransitions
    (run.detectedEvents.map (·.toEndpointEvent)) run.normalizedSignals
  path : run.canonicalStatePath = Platform.canonicalStatePath run.canonicalStateTransitions
  proof : run.proofResult = args.proof draw
  ranking : run.hypothesisRanking =
    rankHypotheses run.stateTransitions run.normalizedSignals run.proofResult.status
  impact : run.reliabilityImpact = impactOf run.normalizedSignals
    (acceptedHypothesis run.stateTransitions run.normalizedSignals run.proofResult.status).confidence
  policy : run.policyDecision =
    policyOf run.normalizedSignals run.stateTransitions run.proofResult args
  preview : run.remediationPreview = previewOf args.requestedAction run.policyDecision
  limitations : run.limitations = (runLimitations run.normalizedSignals run.proofResult.status ++
    run.proofResult.limitations ++ run.policyDecision.limitations).eraseDups

attribute [local irreducible] policyOf in
theorem ran_of_ok {draw : RunDraw} {observations : List Observation} {args : RunArgs}
    {run : ReasoningRun} (h : runReasoning draw observations args = .ok run) :
    Ran draw observations args run := by
  obtain ⟨events, hevents, h⟩ := bind_ok.mp h
  obtain rfl := Except.ok.inj h
  exact ⟨rfl, rfl, rfl, hevents, rfl, rfl, rfl, rfl, rfl, rfl, rfl, rfl, rfl⟩

/-! ## Signals -/

theorem normalizeSignals_concat (observations : List Observation) (o : Observation) :
    normalizeSignals (observations ++ [o]) =
      (normalizeSignals observations).set o.signalName o.effective := by
  unfold normalizeSignals
  rw [List.foldl_append]
  rfl

/-- Whether there are events hangs on nothing that is drawn. -/
theorem detectEndpointEvents_ok_iff (draw : Nat → String) (i : Nat) (observations : List Observation) :
    (∃ events, detectEndpointEvents draw i observations = .ok events) ↔
      ∀ o ∈ observations, ∃ present, isTrue o.effective = .ok present := by
  induction observations generalizing i with
  | nil => simp [detectEndpointEvents]
  | cons o os ih =>
    rw [List.forall_mem_cons, ← ih (i + 1)]
    constructor
    · rintro ⟨events, h⟩
      obtain ⟨present, hpresent, h⟩ := bind_ok.mp h
      obtain ⟨later, hlater, -⟩ := bind_ok.mp h
      exact ⟨⟨present, hpresent⟩, ⟨later, hlater⟩⟩
    · rintro ⟨⟨present, hpresent⟩, ⟨later, hlater⟩⟩
      exact ⟨_, bind_ok.mpr ⟨present, hpresent, bind_ok.mpr ⟨later, hlater, rfl⟩⟩⟩

/-- A run comes to an end where no value that it looks for is a list or a dictionary. -/
theorem runReasoning_ok_iff (draw : RunDraw) (observations : List Observation) (args : RunArgs) :
    (∃ run, runReasoning draw observations args = .ok run) ↔
      ∀ o ∈ observations, ∃ present, isTrue o.effective = .ok present := by
  rw [← detectEndpointEvents_ok_iff draw.eventId 0]
  constructor
  · rintro ⟨run, h⟩
    exact ⟨_, (ran_of_ok h).events⟩
  · rintro ⟨events, h⟩
    exact ⟨_, bind_ok.mpr ⟨events, h, rfl⟩⟩

/-! ## The gate and the guardrails -/

theorem Verdict.guardrail_preview {v : Verdict} (hv : v.outcome = .preview) (condition : Bool)
    (code limitation : String) : (v.guardrail condition code limitation).outcome = .preview := by
  unfold guardrail
  split
  · rfl
  · exact hv

theorem Verdict.guarded_preview {v : Verdict} (hv : v.outcome = .preview) (status : ProofStatus)
    (trustLevel : TrustLevel) (impactLevel : Severity) :
    (v.guarded status trustLevel impactLevel).outcome = .preview :=
  guardrail_preview (guardrail_preview (guardrail_preview hv _ _ _) _ _ _) _ _ _

/-- With proof and high trust no guardrail has a say. -/
theorem Verdict.guarded_proven (v : Verdict) (impactLevel : Severity) :
    v.guarded .confirmed .high impactLevel = v := by
  simp [guarded, guardrail]

theorem gate_eq_allow {status : ProofStatus} {confirmation conflicting : Bool} :
    (gate status confirmation conflicting).outcome = .allow ↔
      status = .confirmed ∧ confirmation = true ∧ conflicting = false := by
  cases conflicting <;> cases confirmation <;> cases status <;> decide

theorem gate_ne_block (status : ProofStatus) (confirmation conflicting : Bool) :
    (gate status confirmation conflicting).outcome ≠ .block := by
  cases conflicting <;> cases confirmation <;> cases status <;> decide

/-- The verdict on a safe action. -/
def PolicyRequest.verdict (r : PolicyRequest) : Verdict :=
  (gate r.status r.explicitConfirmation r.conflictingSignals).guarded r.status r.trustLevel
    r.impactLevel

/-- What the gate lets through, no guardrail looks at. -/
theorem PolicyRequest.verdict_of_allow {r : PolicyRequest}
    (h : (gate r.status r.explicitConfirmation r.conflictingSignals).outcome = .allow) :
    r.verdict = gate r.status r.explicitConfirmation r.conflictingSignals := by
  obtain ⟨hstatus, -, hconflicting⟩ := gate_eq_allow.mp h
  have htrust : r.trustLevel = .high := by simp [trustLevel, hstatus, hconflicting]
  unfold verdict
  rw [htrust, hstatus]
  exact Verdict.guarded_proven _ _

theorem PolicyRequest.verdict_outcome (r : PolicyRequest) :
    r.verdict.outcome = (gate r.status r.explicitConfirmation r.conflictingSignals).outcome := by
  cases houtcome : (gate r.status r.explicitConfirmation r.conflictingSignals).outcome with
  | allow => rw [verdict_of_allow houtcome, houtcome]
  | preview => exact Verdict.guarded_preview houtcome _ _ _
  | block => exact absurd houtcome (gate_ne_block _ _ _)

/-! ## Decisions -/

theorem safe_not_destructive : ∀ action ∈ safeRegistryActions, destructive action = false := by
  decide +kernel

theorem safe_not_blocked : ∀ action ∈ safeRegistryActions, action ∉ alwaysBlockedActions := by
  simp [safeRegistryActions, alwaysBlockedActions]

theorem not_safe {action : String}
    (h : destructive action = true ∨ action ∉ safeRegistryActions) : action ∉ safeRegistryActions := by
  rintro hsafe
  rcases h with hdestructive | hunknown
  · rw [safe_not_destructive action hsafe] at hdestructive
    cases hdestructive
  · exact hunknown hsafe

/-- The three cases of a request: no action, an action that is blocked, a safe one. -/
inductive Decides (r : PolicyRequest) : PolicyDecision → Prop
  | diagnostic {d : PolicyDecision} (key : actionKey r.requestedAction = none)
      (outcome : d.outcome = .preview) (requested : d.requestedAction = none)
      (blocked : d.blockedActions = blockedActionsForRequest .preview none)
      (codes : d.reasonCodes = ["DIAGNOSTIC_ONLY"]) (phrase : d.requiresConfirmation = false) :
      Decides r d
  | blocked {d : PolicyDecision} {action : String} (key : actionKey r.requestedAction = some action)
      (unsafeAction : destructive action = true ∨ action ∉ safeRegistryActions)
      (outcome : d.outcome = .block) (requested : d.requestedAction = some action)
      (blocked : d.blockedActions = blockedActionsForRequest .block d.requestedAction)
      (codes : d.reasonCodes = ["DESTRUCTIVE_ACTION_BLOCKED"] ∨ d.reasonCodes = ["UNKNOWN_ACTION"])
      (phrase : d.requiresConfirmation = false) : Decides r d
  | safe {d : PolicyDecision} {action : String} (key : actionKey r.requestedAction = some action)
      (safeAction : action ∈ safeRegistryActions) (outcome : d.outcome = r.verdict.outcome)
      (requested : d.requestedAction = some action)
      (blocked : d.blockedActions = blockedActionsForRequest d.outcome d.requestedAction)
      (codes : d.reasonCodes = (r.verdict.reasonCodes ++ ["REQUIRES_TYPED_CONFIRMATION"]).eraseDups)
      (phrase : d.requiresConfirmation = true) : Decides r d

attribute [local irreducible] blockedActionsForRequest in
theorem decides_evaluate (r : PolicyRequest) : Decides r (evaluateReasoningPolicy r) := by
  unfold evaluateReasoningPolicy
  split
  next hkey => exact .diagnostic hkey rfl rfl rfl rfl rfl
  next action hkey =>
    split
    next hdestructive => exact .blocked hkey (.inl hdestructive) rfl rfl rfl (.inl rfl) rfl
    next =>
      split
      next hunknown => exact .blocked hkey (.inr hunknown) rfl rfl rfl (.inr rfl) rfl
      next hsafe =>
        rw [not_not] at hsafe
        exact .safe hkey hsafe rfl rfl rfl rfl rfl

theorem normalizeAction_idem (s : String) : normalizeAction (normalizeAction s) = normalizeAction s := by
  unfold normalizeAction
  rw [String.toList_ofList, strip_lower (strip_strip s.toList), lower_lower]

theorem actionKey_some {requestedAction : Option String} {action : String}
    (h : actionKey requestedAction = some action) :
    normalizeAction (requestedAction.getD "") = action := by
  unfold actionKey at h
  dsimp only at h
  split at h
  · cases h
  · exact Option.some.inj h

/-- A key is its own key. -/
theorem actionKey_actionKey (requestedAction : Option String) :
    actionKey (actionKey requestedAction) = actionKey requestedAction := by
  cases hkey : actionKey requestedAction with
  | none => rfl
  | some action =>
    have hself : normalizeAction action = action := by
      rw [← actionKey_some hkey, normalizeAction_idem]
    have hne : action ≠ "" := by
      rintro rfl
      have hempty := actionKey_some hkey
      unfold actionKey at hkey
      simp [hempty] at hkey
    simp [actionKey, hself, hne]

theorem mem_blockedActionsForRequest (outcome : PolicyOutcome) (requestedAction : Option String)
    (action : String) :
    action ∈ blockedActionsForRequest outcome requestedAction ↔
      action ∈ alwaysBlockedActions ∨ outcome = .block ∧ actionKey requestedAction = some action := by
  unfold blockedActionsForRequest
  split
  next key hkey =>
    split
    next hblock =>
      rw [List.mem_eraseDups, List.mem_append, List.mem_singleton, hkey, Option.some_inj]
      simp only [hblock.1, true_and, eq_comm]
    next hblock =>
      rw [List.mem_eraseDups, hkey, Option.some_inj]
      refine ⟨.inl, ?_⟩
      rintro (hmem | ⟨houtcome, rfl⟩)
      · exact hmem
      · exact not_not.mp fun hnot => hblock ⟨houtcome, hnot⟩
  next hkey => simp [hkey]

/-! ## Authority -/

/-- What a run lets happen, and how it says so. -/
structure Authority (observations : List Observation) (status : ProofStatus) (args : RunArgs)
    (run : ReasoningRun) : Prop where
  allow : run.policyDecision.outcome = .allow ↔
    (∃ action ∈ safeRegistryActions, actionKey args.requestedAction = some action) ∧
      status = .confirmed ∧ args.explicitConfirmation = true ∧
      conflictingSignals (normalizeSignals observations) = false
  block : run.policyDecision.outcome = .block ↔ ∃ action,
    actionKey args.requestedAction = some action ∧
      (destructive action = true ∨ action ∉ safeRegistryActions)
  action : run.policyDecision.requestedAction = actionKey args.requestedAction
  /-- the code of an action that is let through says so -/
  code : "CONFIRMED_SAFE_TIER_WITH_CONFIRMATION" ∈ run.policyDecision.reasonCodes ↔
    run.policyDecision.outcome = .allow
  phrase : run.policyDecision.requiresConfirmation = true ↔
    ∃ action ∈ safeRegistryActions, actionKey args.requestedAction = some action
  always : ∀ action ∈ alwaysBlockedActions, action ∈ run.policyDecision.blockedActions
  /-- an action is among those that are blocked where the decision is to block it -/
  blocked : ∀ action, actionKey args.requestedAction = some action →
    (action ∈ run.policyDecision.blockedActions ↔ run.policyDecision.outcome = .block)
  preview : run.remediationPreview.isSome = true ↔ run.policyDecision.outcome = .preview

theorem gate_code {status : ProofStatus} {confirmation conflicting : Bool} :
    "CONFIRMED_SAFE_TIER_WITH_CONFIRMATION" ∈ (gate status confirmation conflicting).reasonCodes ↔
      (gate status confirmation conflicting).outcome = .allow := by
  cases conflicting <;> cases confirmation <;> cases status <;> simp [gate]

theorem Verdict.mem_guardrail {code : String} {v : Verdict} {condition : Bool} {added limitation : String}
    (hcode : code ≠ added) :
    code ∈ (v.guardrail condition added limitation).reasonCodes ↔ code ∈ v.reasonCodes := by
  unfold guardrail
  split
  · simp [hcode]
  · rfl

/-- The code of the gate stays whatever the guardrails add. -/
theorem PolicyRequest.verdict_code (r : PolicyRequest) :
    "CONFIRMED_SAFE_TIER_WITH_CONFIRMATION" ∈ r.verdict.reasonCodes ↔ r.verdict.outcome = .allow := by
  rw [r.verdict_outcome, ← gate_code]
  unfold verdict Verdict.guarded
  rw [Verdict.mem_guardrail (by simp), Verdict.mem_guardrail (by simp),
    Verdict.mem_guardrail (by simp)]

/-- The request of a run. -/
def requestOf (signals : Dict) (transitions : List StateTransition) (proof : ProofResult)
    (args : RunArgs) : PolicyRequest :=
  let accepted := acceptedHypothesis transitions signals proof.status
  { hypothesis := accepted.hypothesis
    lastState := transitions.getLast?.map (·.toState)
    status := proof.status
    confidence := accepted.confidence
    impactLevel := (impactOf signals accepted.confidence).impactLevel
    requestedAction := args.requestedAction
    explicitConfirmation := args.explicitConfirmation
    conflictingSignals := conflictingSignals signals }

theorem policyOf_eq (signals : Dict) (transitions : List StateTransition) (proof : ProofResult)
    (args : RunArgs) :
    policyOf signals transitions proof args =
      evaluateReasoningPolicy (requestOf signals transitions proof args) := rfl

theorem Decides.action {r : PolicyRequest} {d : PolicyDecision} (h : Decides r d) :
    d.requestedAction = actionKey r.requestedAction := by
  cases h with
  | diagnostic key _ requested => rw [key, requested]
  | blocked key _ _ requested => rw [key, requested]
  | safe key _ _ requested => rw [key, requested]

theorem Decides.blockedActions {r : PolicyRequest} {d : PolicyDecision} (h : Decides r d) :
    d.blockedActions = blockedActionsForRequest d.outcome d.requestedAction := by
  cases h with
  | diagnostic _ outcome requested blocked => rw [outcome, requested, blocked]
  | blocked _ _ outcome _ blocked => rw [outcome, blocked]
  | safe _ _ _ _ blocked => exact blocked

theorem Decides.allow {r : PolicyRequest} {d : PolicyDecision} (h : Decides r d) :
    d.outcome = .allow ↔ (∃ action ∈ safeRegistryActions, actionKey r.requestedAction = some action) ∧
      r.status = .confirmed ∧ r.explicitConfirmation = true ∧ r.conflictingSignals = false := by
  cases h with
  | diagnostic key outcome => simp [key, outcome]
  | blocked key unsafeAction outcome => simp [key, outcome, not_safe unsafeAction]
  | safe key safeAction outcome =>
    rw [outcome, r.verdict_outcome, gate_eq_allow]
    simp [key, safeAction]

theorem Decides.block {r : PolicyRequest} {d : PolicyDecision} (h : Decides r d) :
    d.outcome = .block ↔ ∃ action, actionKey r.requestedAction = some action ∧
      (destructive action = true ∨ action ∉ safeRegistryActions) := by
  cases h with
  | diagnostic key outcome => simp [key, outcome]
  | blocked key unsafeAction outcome => simp [key, outcome, unsafeAction]
  | @safe action key safeAction outcome =>
    have hgate := gate_ne_block r.status r.explicitConfirmation r.conflictingSignals
    rw [outcome, r.verdict_outcome]
    simp [key, safeAction, hgate, safe_not_destructive action safeAction]

theorem Decides.code {r : PolicyRequest} {d : PolicyDecision} (h : Decides r d) :
    "CONFIRMED_SAFE_TIER_WITH_CONFIRMATION" ∈ d.reasonCodes ↔ d.outcome = .allow := by
  cases h with
  | diagnostic _ outcome _ _ codes => simp [outcome, codes]
  | blocked _ _ outcome _ _ codes => rcases codes with codes | codes <;> simp [outcome, codes]
  | safe _ _ outcome _ _ codes =>
    rw [codes, outcome, List.mem_eraseDups, List.mem_append, ← r.verdict_code]
    simp

theorem Decides.phrase {r : PolicyRequest} {d : PolicyDecision} (h : Decides r d) :
    d.requiresConfirmation = true ↔
      ∃ action ∈ safeRegistryActions, actionKey r.requestedAction = some action := by
  cases h with
  | diagnostic key _ _ _ _ phrase => simp [key, phrase]
  | blocked key unsafeAction _ _ _ _ phrase => simp [key, phrase, not_safe unsafeAction]
  | safe key safeAction _ _ _ _ phrase => simp [key, phrase, safeAction]

/-- The decision at any run: authority comes from the action, the proof and the
confirmation, where no signals contradict each other, and from nothing else. -/
theorem authority_runReasoning {draw : RunDraw} {observations : List Observation} {args : RunArgs}
    {run : ReasoningRun} (h : runReasoning draw observations args = .ok run) :
    Authority observations (args.proof draw).status args run := by
  have hran := ran_of_ok h
  have hdecides := decides_evaluate (requestOf run.normalizedSignals run.stateTransitions
    run.proofResult args)
  rw [← policyOf_eq, ← hran.policy] at hdecides
  have hblock := hdecides.block
  have hallow := hdecides.allow
  have hphrase := hdecides.phrase
  have haction : run.policyDecision.requestedAction = actionKey args.requestedAction :=
    hdecides.action
  simp only [requestOf, hran.proof, hran.signals] at hallow hblock hphrase
  refine ⟨hallow, hblock, haction, hdecides.code, hphrase, ?_, ?_, ?_⟩
  · intro action hmem
    rw [hdecides.blockedActions, mem_blockedActionsForRequest]
    exact .inl hmem
  · intro action hkey
    rw [hdecides.blockedActions, mem_blockedActionsForRequest, haction, actionKey_actionKey, hkey]
    simp only [and_true, or_iff_right_iff_imp]
    intro hmem
    refine hblock.mpr ⟨action, hkey, .inr fun hsafe => safe_not_blocked action hsafe hmem⟩
  · rw [hran.preview, previewOf]
    split
    next houtcome => simp [houtcome]
    next houtcome => simp [houtcome]

/-- A browser that only a proxy keeps from the net, as two observations and a proof say. -/
def proxyFailure : List Observation :=
  [{ id := "obs_1", timestamp := "2026-05-01T10:00:00Z", signalName := "proxy_bypass_succeeded",
     value := .bool true },
    { id := "obs_2", timestamp := "2026-05-01T10:00:01Z", signalName := "proxied_path_failed",
      value := .str "Yes" }]

def proxyFailureDraw : RunDraw where
  runId := "run_1"
  eventId := fun _ => "evt"
  proofId := "proof_1"
  proofTimestamp := "2026-05-01T10:00:02Z"

/-- The proxy is to be restored, and an operator has confirmed it. -/
def restoreConfirmed : RunArgs where
  proofResult := some {
    id := "proof_2", timestamp := "2026-05-01T10:00:02Z", status := .confirmed }
  requestedAction := some " Restore_Proxy "
  explicitConfirmation := true

theorem proxyFailure_ends (draw : RunDraw) (args : RunArgs) :
    ∃ run, runReasoning draw proxyFailure args = .ok run := by
  rw [runReasoning_ok_iff]
  intro o ho
  obtain rfl | rfl : o = proxyFailure[0] ∨ o = proxyFailure[1] := by simpa [proxyFailure] using ho
  · exact ⟨true, rfl⟩
  · exact ⟨true, rfl⟩

theorem authority_runReasoning_restore : ∃ run,
    runReasoning proxyFailureDraw proxyFailure restoreConfirmed = .ok run ∧
      run.policyDecision.outcome = .allow := by
  obtain ⟨run, hrun⟩ := proxyFailure_ends proxyFailureDraw restoreConfirmed
  refine ⟨run, hrun, (authority_runReasoning hrun).allow.mpr ⟨⟨"restore_proxy", ?_, ?_⟩, rfl, rfl, ?_⟩⟩
  · decide +kernel
  · decide +kernel
  · decide +kernel

/-! ## The path -/

/-- The steps of `browser_proxy_path_regression`, in their order: where each leads, and the rule
it is taken by. -/
def scenarioSteps : List (String × String) :=
  [("proxy_drift_detected", "proxy_drift"),
    ("browser_path_failure_suspected", "browser_path_suspected"),
    ("proxy_path_failure_confirmed", "proxy_path_confirmed"),
    ("remediation_preview_ready", "preview_ready")]

/-- Where a transition leads, and by which rule. -/
def stepOf (t : StateTransition) : String × String := (t.toState, t.ruleId)

/-- What a step of the walk keeps: a trail from the healthy path to where the walk is, each
step of which rests on events of the run. -/
structure Walk.Sound (events : List DetectedEvent) (walk : Walk) : Prop where
  trail : Trail StateTransition.fromState StateTransition.toState "healthy_browser_path"
    walk.transitions
  ends : endOf StateTransition.toState "healthy_browser_path" walk.transitions = walk.current
  events : ∀ t ∈ walk.transitions, ∀ id ∈ t.eventIds, ∃ e ∈ events, e.id = id

theorem Walk.Sound.goIf {events : List DetectedEvent} {walk : Walk} (h : walk.Sound events)
    (condition : Bool) (toState ruleId : String) (confidence : FloatVal) (required : List String) :
    (walk.goIf condition toState ruleId confidence (eventIdsFor required events)).Sound events := by
  unfold Walk.goIf Walk.goTo
  split
  next =>
    refine ⟨trail_concat.mpr ⟨h.trail, h.ends.symm⟩, endOf_concat _ _, ?_⟩
    intro t ht id hid
    rcases List.mem_append.mp ht with ht | ht
    · exact h.events t ht id hid
    · obtain rfl := List.mem_singleton.mp ht
      obtain ⟨e, he, hid⟩ := List.mem_map.mp hid
      exact ⟨e, (List.mem_filter.mp he).1, hid⟩
  next => exact h

theorem goIf_steps {steps : List (String × String)} {walk : Walk}
    (h : walk.transitions.map stepOf <+ steps) (condition : Bool) (toState ruleId : String)
    (confidence : FloatVal) (eventIds : List String) :
    (walk.goIf condition toState ruleId confidence eventIds).transitions.map stepOf <+
      steps ++ [(toState, ruleId)] := by
  unfold Walk.goIf Walk.goTo
  split
  next =>
    rw [List.map_append]
    exact h.append_right _
  next => exact h.trans (List.sublist_append_left _ _)

/-- No step is taken twice, and none before its turn. -/
theorem browserProxyWalk_steps (events : List DetectedEvent) (signals : Dict) :
    (inferBrowserProxyTransitions events signals).map stepOf <+ scenarioSteps := by
  have hstart : ({} : Walk).transitions.map stepOf <+ [] := List.Sublist.refl []
  have hdrift := fun condition confidence ids => goIf_steps hstart condition
    "proxy_drift_detected" "proxy_drift" confidence ids
  unfold inferBrowserProxyTransitions browserProxyWalk
  exact goIf_steps (goIf_steps (goIf_steps (hdrift _ _ _) _ _ _ _ _) _ _ _ _ _) _ _ _ _ _

theorem browserProxyWalk_sound (events : List DetectedEvent) (signals : Dict) :
    (browserProxyWalk events signals).Sound events := by
  have hstart : ({} : Walk).Sound events := ⟨trivial, rfl, fun t ht => absurd ht List.not_mem_nil⟩
  exact (((hstart.goIf _ _ _ _ _).goIf _ _ _ _ _).goIf _ _ _ _ _).goIf _ _ _ _ _

theorem mem_goIf {step : String × String} {walk : Walk} {condition : Bool} {toState ruleId : String}
    {confidence : FloatVal} {eventIds : List String} :
    step ∈ (walk.goIf condition toState ruleId confidence eventIds).transitions.map stepOf ↔
      step ∈ walk.transitions.map stepOf ∨ condition = true ∧ step = (toState, ruleId) := by
  unfold Walk.goIf Walk.goTo
  split
  next hcondition =>
    rw [List.map_append, List.mem_append, List.map_singleton, List.mem_singleton]
    simp [hcondition, stepOf]
  next hcondition => simp [hcondition]

theorem goIf_current (walk : Walk) (condition : Bool) (toState ruleId : String)
    (confidence : FloatVal) (eventIds : List String) :
    (walk.goIf condition toState ruleId confidence eventIds).current =
      if condition then toState else walk.current := by
  unfold Walk.goIf Walk.goTo
  split
  · rfl
  · rfl

/-- Which steps are taken. -/
theorem mem_browserProxyWalk (events : List DetectedEvent) (signals : Dict) (step : String × String) :
    step ∈ (inferBrowserProxyTransitions events signals).map stepOf ↔
      (∃ name ∈ driftEvents, observed events name = true) ∧
          step = ("proxy_drift_detected", "proxy_drift") ∨
        (∀ name ∈ suspectRequired, observed events name = true) ∧
          step = ("browser_path_failure_suspected", "browser_path_suspected") ∨
        (∀ name ∈ confirmedRequired, observed events name = true) ∧
          step = ("proxy_path_failure_confirmed", "proxy_path_confirmed") ∨
        ((∀ name ∈ confirmedRequired, observed events name = true) ∧
            has signals "policy_preview_allowed" = true) ∧
          step = ("remediation_preview_ready", "preview_ready") := by
  have hdrift : (!(driftEvents.filter (observed events)).isEmpty) = true ↔
      ∃ name ∈ driftEvents, observed events name = true := by
    rw [Bool.not_eq_true', List.isEmpty_eq_false_iff_exists_mem]
    simp only [List.mem_filter]
  -- the walk is there only by the third step
  have hthere : ∀ suspected confirmed drifted : Bool,
      ((if confirmed = true then "proxy_path_failure_confirmed"
        else if suspected = true then "browser_path_failure_suspected"
        else if drifted = true then "proxy_drift_detected"
        else "healthy_browser_path") == "proxy_path_failure_confirmed") = confirmed := by
    decide
  unfold inferBrowserProxyTransitions browserProxyWalk
  simp only [mem_goIf, goIf_current, hthere]
  simp only [hdrift, List.all_eq_true, Bool.and_eq_true, List.map_nil, List.not_mem_nil, false_or,
    or_assoc]
  rw [and_comm (a := has signals "policy_preview_allowed" = true)]

/-- An observation reports the signal. -/
def Reports (observations : List Observation) (name : String) : Prop :=
  ∃ o ∈ observations, o.signalName = name ∧ isTrue o.effective = .ok true

theorem observed_iff {draw : Nat → String} {i : Nat} {observations : List Observation}
    {events : List DetectedEvent} (h : detectEndpointEvents draw i observations = .ok events)
    (name : String) : observed events name = true ↔ Reports observations name := by
  induction observations generalizing i events with
  | nil =>
    obtain rfl := Except.ok.inj h
    simp [observed, Reports]
  | cons o os ih =>
    obtain ⟨present, hpresent, h⟩ := bind_ok.mp h
    obtain ⟨later, hlater, h⟩ := bind_ok.mp h
    have hrest := ih hlater
    unfold Reports at hrest ⊢
    rw [List.exists_mem_cons_iff, ← hrest, hpresent]
    obtain rfl := Except.ok.inj h
    cases present with
    | false => simp [observed]
    | true => simp [observed, eventOf]

/-- What a run reports of the way to the failure: the steps of the scenario that the
observations ask for, each from where the one before it has led and on events of the run, and
their projection, which is a path of the canonical machine. -/
structure Path (observations : List Observation) (run : ReasoningRun) : Prop where
  trail : Trail StateTransition.fromState StateTransition.toState "healthy_browser_path"
    run.stateTransitions
  order : run.stateTransitions.map stepOf <+ scenarioSteps
  steps : ∀ step, step ∈ run.stateTransitions.map stepOf ↔
    (∃ name ∈ driftEvents, Reports observations name) ∧
        step = ("proxy_drift_detected", "proxy_drift") ∨
      (∀ name ∈ suspectRequired, Reports observations name) ∧
        step = ("browser_path_failure_suspected", "browser_path_suspected") ∨
      (∀ name ∈ confirmedRequired, Reports observations name) ∧
        step = ("proxy_path_failure_confirmed", "proxy_path_confirmed") ∨
      ((∀ name ∈ confirmedRequired, Reports observations name) ∧
          has (normalizeSignals observations) "policy_preview_allowed" = true) ∧
        step = ("remediation_preview_ready", "preview_ready")
  events : ∀ t ∈ run.stateTransitions, ∀ id ∈ t.eventIds, ∃ e ∈ run.detectedEvents, e.id = id
  canonical : IsCanonicalPath run.canonicalStateTransitions
    (inferLoop run.stateTransitions (run.detectedEvents.map (·.toEndpointEvent))
      run.normalizedSignals).current
  states : run.canonicalStatePath = canonicalStatePath run.canonicalStateTransitions

/-- Whatever is observed, the path that a run reports is that of the scenario, and leads the
canonical machine to the state that the run ends in. -/
theorem path_runReasoning {draw : RunDraw} {observations : List Observation} {args : RunArgs}
    {run : ReasoningRun} (h : runReasoning draw observations args = .ok run) :
    Path observations run := by
  have hran := ran_of_ok h
  have hsound := browserProxyWalk_sound run.detectedEvents run.normalizedSignals
  have horder := browserProxyWalk_steps run.detectedEvents run.normalizedSignals
  have hsteps := mem_browserProxyWalk run.detectedEvents run.normalizedSignals
  have hwalk : (browserProxyWalk run.detectedEvents run.normalizedSignals).transitions =
      run.stateTransitions := hran.transitions.symm
  rw [← hran.transitions] at horder hsteps
  have hnodup : (run.stateTransitions.map fun t => mapRuleId t.ruleId).Nodup := by
    have hrules := horder.map fun step => mapRuleId step.2
    rw [List.map_map] at hrules
    exact hrules.nodup (by decide)
  refine ⟨hwalk ▸ hsound.trail, horder, ?_, hwalk ▸ hsound.events, ?_, hran.path⟩
  · simp only [observed_iff hran.events, hran.signals] at hsteps
    exact hsteps
  · rw [hran.canonical]
    exact isCanonicalPath_of_nodup hnodup _ _

theorem path_runReasoning_proxyFailure : ∃ run,
    runReasoning proxyFailureDraw proxyFailure restoreConfirmed = .ok run ∧
      ("proxy_path_failure_confirmed", "proxy_path_confirmed") ∈ run.stateTransitions.map stepOf := by
  obtain ⟨run, hrun⟩ := proxyFailure_ends proxyFailureDraw restoreConfirmed
  refine ⟨run, hrun, ((path_runReasoning hrun).steps _).mpr (.inr (.inr (.inl ⟨?_, rfl⟩)))⟩
  intro name hname
  obtain rfl | rfl : name = "proxy_bypass_succeeded" ∨ name = "proxied_path_failed" := by
    simpa [confirmedRequired] using hname
  · exact ⟨proxyFailure[0], List.getElem_mem _, rfl, rfl⟩
  · exact ⟨proxyFailure[1], List.getElem_mem _, rfl, rfl⟩

end Reasoning
