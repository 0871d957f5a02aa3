import NetworkRecovery.Policy.Evidence

/-!
# The policy engine and the remediation planner

`evaluate_policy` (`policy/engine.py`) and `plan_proxy_drift_remediation`
(`remediation/planner.py`), with the action registry and the token check
between them.

The engine assigns the outcome twice: first by the evidence, then by the
decision's wish for human review, and the second assignment does not look at
the first. A `BLOCK` therefore survives only in decisions that ask for no
review (`blocked_iff`), and the planner's decision always asks for one, so
that its gate is the token alone (`canExecute_iff`).
-/

namespace Policy

open Python

/-! ## Actions -/

/-- The values of `DestructiveAction`. -/
def destructiveActions : List String :=
  ["registry_modification", "kill_process", "disable_proxy", "firewall_reset", "adapter_disable",
    "delete_files", "system_network_change"]

/-- `ACTION_ALIASES`. -/
def actionAliases : List (String × String) :=
  [("disable_wininet_proxy", "disable_proxy"),
    ("stop_proxy_listener", "kill_process"),
    ("stop_proxy_reverter", "kill_process"),
    ("registry_modification", "registry_modification"),
    ("reset_firewall", "firewall_reset"),
    ("adapter_disable", "adapter_disable")]

/-- `normalize_action`. -/
def normalizeAction (action : String) : String :=
  let key := String.ofList ((lower (strip action.toList)).map fun c => if c = '-' then '_' else c)
  (actionAliases.lookup key).getD key

/-- `is_destructive`. -/
def isDestructive (action : String) : Bool :=
  let norm := normalizeAction action
  destructiveActions.contains norm ||
    ["disable", "kill", "reset", "delete"].any fun d => contains d.toList norm.toList

/-! ## The engine -/

/-- `PolicyOutcomeName`. -/
inductive PolicyOutcome where
  | allow
  | previewOnly
  | requireHumanApproval
  | block
  | rollbackRequired
  deriving DecidableEq, Repr

structure EvidenceItem where
  signal : String
  observedValue : String

structure EvidenceBundle where
  incidentId : String
  tier : EvidenceTier
  items : List EvidenceItem

structure Decision where
  decisionId : String
  incidentId : String
  timestampUtc : String
  incidentType : String
  recommendedAction : String
  confidence : FloatVal
  evidenceTier : EvidenceTier
  requiresHumanReview : Bool

structure PolicyEvaluation where
  evaluationId : String
  decisionId : String
  timestampUtc : String
  requestedAction : String
  evidenceTier : EvidenceTier
  outcome : PolicyOutcome
  allowed : Bool
  requiresApproval : Bool
  requiresRollbackPlan : Bool
  blockedReasons : List String
  rationale : String

/-- The proof the items of a bundle amount to. -/
def EvidenceBundle.proof (bundle : EvidenceBundle) : ProofInputs :=
  proofInputsFromSignals
    (bundle.items.foldl (fun d item => Dict.set d item.signal (.str item.observedValue)) [])

def policyRationale : String :=
  "Policy permission is not a safety guarantee. Destructive actions require FINAL_CAUSATION, preview, approval, audit, validation, rollback."

/-- What the evidence says: the outcome, whether approval and a rollback plan
are required, and the reasons for a block. -/
def evidenceOutcome (tier : EvidenceTier) (proof : ProofInputs) (action : String) (dryRun : Bool) :
    PolicyOutcome × Bool × Bool × List String :=
  if isDestructive action && !canUnlockDestructiveRemediation tier proof then
    (.block, false, false, [action, "destructive_without_final_causation"])
  else if isDestructive action then (.requireHumanApproval, true, true, [])
  else if tierRank tier < tierRank .provenNetworkImpact then (.previewOnly, false, false, [])
  else (if dryRun then .previewOnly else .allow, false, false, [])

/-- `evaluate_policy`. The operator context is read by nothing. -/
def evaluatePolicy (decision : Decision) (bundle : EvidenceBundle) (requestedAction : String)
    (proof : Option ProofInputs := none) (dryRun : Bool := true) : PolicyEvaluation :=
  let proof := proof.getD bundle.proof
  let action := normalizeAction requestedAction
  let (outcome, approval, rollback, blocked) := evidenceOutcome bundle.tier proof action dryRun
  let outcome := if decision.requiresHumanReview then .requireHumanApproval else outcome
  let approval := approval || decision.requiresHumanReview
  let allowed := outcome = .allow ∨ outcome = .previewOnly ∨ outcome = .requireHumanApproval
  { evaluationId := "peval-" ++ decision.decisionId
    decisionId := decision.decisionId
    timestampUtc := decision.timestampUtc
    requestedAction := action
    evidenceTier := bundle.tier
    outcome := outcome
    allowed := decide (allowed ∧ action ∉ blocked)
    requiresApproval := approval
    requiresRollbackPlan := rollback
    blockedReasons := blocked
    rationale := policyRationale }

/-! ## Tokens -/

/-- `secrets.compare_digest` of two strings, which must be ASCII. -/
def compareDigest (a b : List Char) : Except PyError Bool :=
  if (a ++ b).all (·.toNat < 128) then .ok (a = b) else .error .type

/-- `validate_approval_token`. -/
def validateApprovalToken (provided expected : String) : Except PyError Bool :=
  if provided.isEmpty || expected.isEmpty then .ok false
  else compareDigest (strip provided.toList) (strip expected.toList)

/-! ## The planner -/

/-- What a run of the planner draws from outside. `float()` is a parameter:
nothing here depends on how it rounds. -/
structure Runtime where
  now : String
  decisionId : String
  /-- `secrets.token_hex(16)` -/
  generatedToken : String
  float : Value → Except PyError FloatVal

/-- `_bundle_from_signals`: the tier has to be one of the five. -/
def bundleFromSignals (signals : Dict) (incidentId tier : String) :
    Except PyError EvidenceBundle := do
  let tier ← match EvidenceTier.ofString? tier with
    | some tier => pure tier
    | none => throw .value
  return {
    incidentId := incidentId
    tier := tier
    items := (signals.mergeSort fun a b => a.1 ≤ b.1).map fun (k, v) => ⟨k, v.toText⟩ }

/-- `0 ≤ x ≤ 1`, as the model of a decision demands of its confidence. -/
def inUnitInterval : FloatVal → Bool
  | .finite d => d.digits == 0 ||
      (!d.neg && (d.exponent < 0 && d.digits ≤ 10 ^ (-d.exponent).toNat ||
        d.digits == 1 && d.exponent == 0))
  | .inf _ | .nan => false

/-- The arguments of the planner. -/
structure PlanArgs where
  incidentId : String
  recommendedAction : String := "disable_wininet_proxy"
  signals : Dict := []
  dryRun : Bool := true
  confirmationToken : String := ""
  expectedToken : String := ""

structure Approval where
  required : Bool
  tokenExpectedHint : String
  approved : Bool
  canExecute : Bool

/-- The plan, its previews and rollback package apart: nothing is decided on
them. -/
structure Plan where
  incidentId : String
  dryRun : Bool
  decision : Decision
  policyGate : PolicyEvaluation
  approval : Approval
  blockedReasons : List String
  rationale : String

/-- The token that was issued: the expected one, or a fresh one. -/
def PlanArgs.approvalToken (rt : Runtime) (args : PlanArgs) : String :=
  if args.expectedToken.isEmpty then rt.generatedToken else args.expectedToken

/-- The confidence of the planner's decision. -/
def planConfidence (rt : Runtime) (signals : Dict) : Except PyError FloatVal := do
  let x ← rt.float ((signals.get? "confidence").getD (.float (.finite (.ofParts false 5 (-1)))))
  if inUnitInterval x then return x else throw .value

/-- The planner's decision. It always asks for human review. -/
def planDecision (rt : Runtime) (args : PlanArgs) (confidence : FloatVal) (tier : EvidenceTier) :
    Decision where
  decisionId := "dec-" ++ rt.decisionId
  incidentId := args.incidentId
  timestampUtc := rt.now
  incidentType := ((args.signals.get? "incident_type").getD (.str "WININET_PROXY_DRIFT")).toText
  recommendedAction := args.recommendedAction
  confidence := confidence
  evidenceTier := tier
  requiresHumanReview := true

/-- Whether the operator's token is accepted. -/
def planApproved (rt : Runtime) (args : PlanArgs) : Except PyError Bool :=
  if args.confirmationToken.isEmpty then .ok false
  else validateApprovalToken args.confirmationToken (args.approvalToken rt)

/-- The plan, once everything that can be refused has been accepted. -/
def planOf (rt : Runtime) (args : PlanArgs) (bundle : EvidenceBundle) (decision : Decision)
    (approved : Bool) : Plan :=
  let policy := evaluatePolicy decision bundle args.recommendedAction
    (some (proofInputsFromSignals args.signals)) args.dryRun
  { incidentId := args.incidentId
    dryRun := args.dryRun
    decision := decision
    policyGate := policy
    approval :=
      { required := policy.requiresApproval || policy.outcome = .requireHumanApproval
        tokenExpectedHint :=
          if args.dryRun then String.ofList ((args.approvalToken rt).toList.take 8) ++ "…" else ""
        approved := approved
        canExecute := decide (approved ∧
          (policy.outcome = .allow ∨ policy.outcome = .requireHumanApproval) ∧ ¬ args.dryRun) }
    blockedReasons := policy.blockedReasons
    rationale := policy.rationale }

/-- `plan_proxy_drift_remediation`. -/
def planProxyDriftRemediation (rt : Runtime) (args : PlanArgs) : Except PyError Plan := do
  let bundle ← bundleFromSignals args.signals args.incidentId
    ((args.signals.get? "evidence_tier").getD (.str "OBSERVED_ONLY")).toText
  let confidence ← planConfidence rt args.signals
  let approved ← planApproved rt args
  return planOf rt args bundle (planDecision rt args confidence bundle.tier) approved

/-! ## Blocking -/

/-- A destructive action that the evidence does not unlock. -/
def Locked (tier : EvidenceTier) (proof : ProofInputs) (requestedAction : String) : Prop :=
  isDestructive (normalizeAction requestedAction) = true ∧
    canUnlockDestructiveRemediation tier proof = false

instance (tier : EvidenceTier) (proof : ProofInputs) (action : String) :
    Decidable (Locked tier proof action) :=
  inferInstanceAs (Decidable (_ ∧ _))

theorem evidenceOutcome_locked {tier : EvidenceTier} {proof : ProofInputs} {action : String}
    (h : Locked tier proof action) (dryRun : Bool) :
    evidenceOutcome tier proof (normalizeAction action) dryRun =
      (.block, false, false, [normalizeAction action, "destructive_without_final_causation"]) := by
  unfold evidenceOutcome
  rw [h.1, h.2]
  rfl

/-- A locked action is blocked unless the decision asks for human review. -/
theorem evaluatePolicy_blocked_iff {bundle : EvidenceBundle} {proof : Option ProofInputs}
    {action : String} (decision : Decision) (dryRun : Bool)
    (h : Locked bundle.tier (proof.getD bundle.proof) action) :
    (evaluatePolicy decision bundle action proof dryRun).outcome = .block ↔
      decision.requiresHumanReview = false := by
  have houtcome : (evaluatePolicy decision bundle action proof dryRun).outcome =
      if decision.requiresHumanReview then .requireHumanApproval else .block := by
    unfold evaluatePolicy
    simp only [evidenceOutcome_locked h]
  rw [houtcome]
  cases decision.requiresHumanReview <;> simp

/-- A decision that asks for review gets the outcome `REQUIRE_HUMAN_APPROVAL`,
whatever the evidence. -/
theorem evaluatePolicy_review (decision : Decision) (h : decision.requiresHumanReview = true)
    (bundle : EvidenceBundle) (action : String) (proof : Option ProofInputs) (dryRun : Bool) :
    (evaluatePolicy decision bundle action proof dryRun).outcome = .requireHumanApproval := by
  unfold evaluatePolicy
  simp only [h, if_true]

/-- The operator's token is the issued one. -/
def TokenMatches (provided expected : String) : Prop :=
  provided ≠ "" ∧ expected ≠ "" ∧ strip provided.toList = strip expected.toList

theorem validateApprovalToken_true {provided expected : String} {ok : Bool}
    (h : validateApprovalToken provided expected = .ok ok) :
    ok = true ↔ TokenMatches provided expected := by
  unfold validateApprovalToken compareDigest at h
  unfold TokenMatches
  split at h
  · rename_i hempty
    obtain rfl := Except.ok.inj h
    have hor : provided = "" ∨ expected = "" := by simpa using hempty
    rcases hor with rfl | rfl <;> simp
  · rename_i hne
    have hboth : provided ≠ "" ∧ expected ≠ "" := by simpa using hne
    split at h
    · obtain rfl := Except.ok.inj h
      simp [hboth.1, hboth.2]
    · exact absurd h (by simp)

theorem planApproved_true {rt : Runtime} {args : PlanArgs} {ok : Bool}
    (h : planApproved rt args = .ok ok) :
    ok = true ↔ TokenMatches args.confirmationToken (args.approvalToken rt) := by
  unfold planApproved at h
  split at h
  · rename_i hempty
    obtain rfl := Except.ok.inj h
    have hnone : args.confirmationToken = "" := by simpa using hempty
    simp [TokenMatches, hnone]
  · exact validateApprovalToken_true h

/-- The planner's gate is the token and the dry run, and nothing else. -/
theorem canExecute_iff {rt : Runtime} {args : PlanArgs} {plan : Plan}
    (h : planProxyDriftRemediation rt args = .ok plan) :
    plan.approval.canExecute = true ↔
      args.dryRun = false ∧ TokenMatches args.confirmationToken (args.approvalToken rt) := by
  obtain ⟨bundle, -, h⟩ := bind_ok.mp h
  obtain ⟨confidence, -, h⟩ := bind_ok.mp h
  obtain ⟨approved, happroved, h⟩ := bind_ok.mp h
  obtain rfl := Except.ok.inj h
  have houtcome := evaluatePolicy_review (planDecision rt args confidence bundle.tier) rfl bundle
    args.recommendedAction (some (proofInputsFromSignals args.signals)) args.dryRun
  rw [← planApproved_true happroved]
  simp only [planOf, houtcome, decide_eq_true_eq]
  simp [and_comm]

/-- `BLOCK` is final exactly where nobody asks for review: in the engine, for a
locked action, when the decision does not require it; in the planner, whose
decision always does, when the run is dry or the token does not match. -/
theorem block_final_iff (decision : Decision) (bundle : EvidenceBundle) (action : String)
    (proof : Option ProofInputs) (dryRun : Bool) (rt : Runtime) (args : PlanArgs) (plan : Plan) :
    (Locked bundle.tier (proof.getD bundle.proof) action →
      ((evaluatePolicy decision bundle action proof dryRun).outcome = .block ↔
        decision.requiresHumanReview = false)) ∧
    (planProxyDriftRemediation rt args = .ok plan →
      Locked plan.policyGate.evidenceTier (proofInputsFromSignals args.signals)
        args.recommendedAction →
      (plan.approval.canExecute = false ↔
        args.dryRun = true ∨ ¬ TokenMatches args.confirmationToken (args.approvalToken rt))) := by
  constructor
  · exact evaluatePolicy_blocked_iff decision dryRun
  · intro hplan _
    have hexec := canExecute_iff hplan
    rw [← Bool.not_eq_true, hexec, not_and_or, Bool.not_eq_false]

/-- A run of the planner in which `float()` is given floats. -/
def sampleRuntime : Runtime where
  now := "2026-01-01T00:00:00Z"
  decisionId := "0b9f6a525c5e"
  generatedToken := "5c5e4a539f0e6f3b1a2c4d5e0b9f6a52"
  float := fun
    | .float x => .ok x
    | _ => .error .type

/-- Disabling the proxy on no evidence at all, with a token that matches. -/
def sampleArgs : PlanArgs where
  incidentId := "inc-1"
  dryRun := false
  confirmationToken := "5c5e4a53"
  expectedToken := "5c5e4a53"

def sampleBundle : EvidenceBundle := ⟨"inc-1", .observedOnly, []⟩

def samplePlan (args : PlanArgs) (approved : Bool) : Plan :=
  planOf sampleRuntime args sampleBundle
    (planDecision sampleRuntime args (.finite (.ofParts false 5 (-1))) .observedOnly) approved

/-- Without review the engine blocks it, and the dry run of the planner does not
let it through. -/
theorem block_final_iff_sample :
    (evaluatePolicy { (samplePlan sampleArgs true).decision with requiresHumanReview := false }
        sampleBundle "disable_wininet_proxy" none false).outcome = .block ∧
      (samplePlan { sampleArgs with dryRun := true } true).approval.canExecute = false := by
  have hlocked : Locked .observedOnly {} "disable_wininet_proxy" := by decide +kernel
  obtain ⟨hengine, hplanner⟩ := block_final_iff
    { (samplePlan sampleArgs true).decision with requiresHumanReview := false } sampleBundle
    "disable_wininet_proxy" none false sampleRuntime { sampleArgs with dryRun := true }
    (samplePlan { sampleArgs with dryRun := true } true)
  exact ⟨(hengine hlocked).mpr rfl, (hplanner rfl hlocked).mpr (.inl rfl)⟩

/-- On no evidence at all the engine does not block the action when the decision
asks for review, and the planner lets it be executed. -/
theorem block_not_final :
    ¬ (∀ (decision : Decision) (bundle : EvidenceBundle) (action : String)
        (proof : Option ProofInputs) (dryRun : Bool),
      Locked bundle.tier (proof.getD bundle.proof) action →
        (evaluatePolicy decision bundle action proof dryRun).outcome = .block) ∧
    ¬ ∀ (rt : Runtime) (args : PlanArgs) (plan : Plan),
      planProxyDriftRemediation rt args = .ok plan →
      Locked plan.policyGate.evidenceTier (proofInputsFromSignals args.signals)
        args.recommendedAction → plan.approval.canExecute = false := by
  have hlocked : Locked .observedOnly {} "disable_wininet_proxy" := by decide +kernel
  constructor
  · intro h
    have hblock := h (samplePlan sampleArgs true).decision sampleBundle _ none false hlocked
    rw [evaluatePolicy_review _ rfl] at hblock
    exact absurd hblock (by decide)
  · intro h
    have hexec := h sampleRuntime sampleArgs (samplePlan sampleArgs true) rfl hlocked
    have hplan : planProxyDriftRemediation sampleRuntime sampleArgs =
        .ok (samplePlan sampleArgs true) := rfl
    have hcan := (canExecute_iff hplan).mpr ⟨rfl, by decide, by decide, rfl⟩
    exact absurd (hexec.symm.trans hcan) (by decide)

end Policy
