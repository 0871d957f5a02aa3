import NetworkRecovery.Backend.ClassifierWorker
import NetworkRecovery.Policy.Engine
import NetworkRecovery.Python.Float

/-!
# Approval in the decision pipeline

Three sources say that a person has to approve a decision: the rule of the tenant's policy pack,
the list of classes under review, and the policy engine. The outcome of a decision follows all of
them. Its record follows the pack alone, so that a class under review whose rule does not ask for
approval is recorded as one that needs none (`flags_consistent_iff`).
-/

namespace Backend

open Python Policy

/-! ## Policy packs -/

/-- The objects that the text of a pack denotes, as far as the evaluation uses them. YAML has dates,
sets and keys of every type, so the type is left open. -/
class PyObject (D : Type) where
  /-- a literal of the code -/
  literal : Value → D
  /-- `bool(x)` -/
  truthy : D → Bool
  /-- `x.get(key)` -/
  get : D → String → Except PyError D
  /-- `str(x)` -/
  str : D → Except PyError String
  /-- the items that `for y in x` runs through -/
  items : D → Except PyError (List D)
  /-- `x == s` -/
  eqText : D → String → Bool

/-- A pack that is written in JSON, which YAML includes. -/
instance : PyObject Value where
  literal := id
  truthy := Value.truthy
  get v key := match v with
    | .dict d => .ok (Dict.fetch d key)
    | _ => .error .attribute
  str v := .ok v.toText
  items := Value.items
  eqText v s := v.pyEq (.str s)

section Pack

variable {D : Type} [PyObject D]

open PyObject

/-- `x or default`. -/
def orLiteral (x : D) (default : Value) : D := if truthy x then x else literal default

/-- `x.get(key) or {}`. -/
def blockAt (x : D) (key : String) : Except PyError D := do
  return orLiteral (← get x key) (.dict [])

/-- `str(x.get(key) or default)`. -/
def textOr (x : D) (key default : String) : Except PyError String := do
  str (orLiteral (← get x key) (.str default))

/-- `tuple(str(y) for y in (x.get(key) or default))`. -/
def textsOr (x : D) (key : String) (default : List String) : Except PyError (List String) := do
  (← items (orLiteral (← get x key) (textList default))).mapM str

/-- The rule for a classification: `rules.get(label.upper()) or rules.get(label) or {}`. -/
def ruleFor (doc : D) (classification : String) : Except PyError D := do
  let rules ← blockAt doc "classification_rules"
  let rule ← get rules (String.ofList (upper classification.toList))
  if truthy rule then return rule else blockAt rules classification

structure YamlPolicyEvaluation where
  classification : String
  decision : String
  severity : String
  allowedActions : List String
  blockedActions : List String
  requiresConfirmation : Bool
  requiresHumanApproval : Bool
  limitations : List String

/-- The actions that `never_kill_process_automatically` is about. -/
def killActions : List String := ["kill_process", "terminate"]

/-- The decisions that ask for approval by themselves. -/
def escalations : List String := ["ESCALATE_REVIEW", "BLOCK_RECOMMENDED"]

/-- `_builtin_default_policy`. -/
def builtinDefaultPolicy : Value := .dict
  [("schema_version", .str "enterprise_policy.v1"),
    ("default_mode", .str "read_only"),
    ("classification_rules", .dict
      [("UNKNOWN_LOCAL_PROXY", .dict
          [("decision", .str "ALERT"),
            ("severity", .str "HIGH"),
            ("allowed_actions", textList ["observe", "preview_disable", "export_report"]),
            ("blocked_actions", textList ["kill_process", "registry_mutation"]),
            ("requires_confirmation", .bool true)]),
        ("SUSPICIOUS_PROXY", .dict
          [("decision", .str "BLOCK_RECOMMENDED"),
            ("severity", .str "CRITICAL"),
            ("requires_confirmation", .bool true)]),
        ("POSSIBLE_MITM_RISK", .dict
          [("decision", .str "ESCALATE_REVIEW"),
            ("severity", .str "CRITICAL"),
            ("requires_human_approval", .bool true)])]),
    ("safety", .dict
      [("never_kill_process_automatically", .bool true),
        ("never_reset_network_automatically", .bool true),
        ("registry_mutation_requires_typed_confirmation", .bool true),
        ("default_mode", .str "read_only")])]

/-- `load_policy_yaml`, of what the default file denotes, if there is one. -/
def loadPolicyYaml (file : Option D) : D :=
  match file with
  | some doc => orLiteral doc (.dict [])
  | none => literal builtinDefaultPolicy

/-- `policy_doc or load_policy_yaml()`. -/
def docUsed (file : Option D) (policyDoc : D) : D :=
  if truthy policyDoc then policyDoc else loadPolicyYaml file

/-- `evaluate_yaml_policy`. -/
def evaluateYamlPolicy (file : Option D) (policyDoc : D) (classification requestedAction : String) :
    Except PyError YamlPolicyEvaluation := do
  let doc := docUsed file policyDoc
  let rule ← ruleFor doc classification
  let safety ← blockAt doc "safety"
  let decision ← textOr rule "decision" "OBSERVE"
  let severity ← textOr rule "severity" "MEDIUM"
  let allowed ← textsOr rule "allowed_actions" ["observe", "export_report"]
  let blocked ← textsOr rule "blocked_actions" []
  let neverKill ← get safety "never_kill_process_automatically"
  let confirmation ← get rule "requires_confirmation"
  let approval ← get rule "requires_human_approval"
  let defaultMode ← get safety "default_mode"
  return {
    classification := String.ofList (upper classification.toList)
    decision
    severity
    allowedActions := allowed
    blockedActions :=
      if truthy neverKill && killActions.contains requestedAction then blocked ++ [requestedAction]
      else blocked
    requiresConfirmation := truthy confirmation
    requiresHumanApproval :=
      truthy approval || escalations.contains decision || severity == "CRITICAL"
    limitations :=
      ["Policy-as-code output — not malware verdict or autonomous authorization.",
        "Observation is not proof; correlation is not causation."] ++
      if eqText defaultMode "read_only" then
        ["Default mode is read-only — no autonomous remediation."]
      else [] }

/-- `get_active_policy_doc`: of the tenant's active pack, if there is one. -/
def activePolicyDoc (file active : Option D) : D :=
  match active with
  | some doc => orLiteral doc (.dict [])
  | none => loadPolicyYaml file

/-! ## The policy service -/

/-- `tier_map`. -/
def tierMap : List (String × EvidenceTier) :=
  [("T0_OBSERVATION_ONLY", .observedOnly),
    ("T1_STATE_EVIDENCE", .correlated),
    ("T1_LOCAL_CONFIG_EVIDENCE", .correlated),
    ("T2_RUNTIME_CORROBORATION", .provenRegistryWriter),
    ("T3_BEHAVIORAL_REPRODUCTION", .provenNetworkImpact),
    ("T4_OPERATOR_CONFIRMED", .finalCausation)]

structure PolicyRequest where
  classification : String
  confidenceScore : FloatVal
  evidenceTier : String
  requestedAction : String
  requiresHumanReview : Bool
  /-- `dec-` and a fresh id -/
  decisionId : String
  timestamp : String

/-- The bundle that the engine is shown: it has no items. -/
def PolicyRequest.bundle (request : PolicyRequest) : EvidenceBundle where
  incidentId := request.decisionId
  tier := (tierMap.lookup (String.ofList (upper request.evidenceTier.toList))).getD .observedOnly
  items := []

/-- The decision that the engine is asked about, whose confidence has to lie between 0 and 1. -/
def PolicyRequest.decision (request : PolicyRequest) (yamlApproval : Bool) :
    Except PyError Decision :=
  if inUnitInterval request.confidenceScore then .ok {
    decisionId := request.decisionId
    incidentId := request.decisionId
    timestampUtc := request.timestamp
    incidentType := request.classification
    recommendedAction := request.requestedAction
    confidence := request.confidenceScore
    evidenceTier := .observedOnly
    requiresHumanReview := request.requiresHumanReview || yamlApproval }
  else .error .value

structure PolicyResult where
  classification : String
  yamlDecision : String
  yamlSeverity : String
  policyOutcome : PolicyOutcome
  allowedActions : List String
  blockedActions : List String
  requiresHumanApproval : Bool
  canonicalEvaluation : PolicyEvaluation
  limitations : List String
  rationale : String

/-- The outcome of the three sources together. -/
def mergedOutcome (yamlEval : YamlPolicyEvaluation) (requestedAction : String)
    (canonical : PolicyOutcome) : PolicyOutcome :=
  if yamlEval.blockedActions.contains requestedAction then .block
  else if yamlEval.requiresHumanApproval then .requireHumanApproval
  else canonical

/-- `PolicyService.evaluate`. -/
def evaluate (file active : Option D) (request : PolicyRequest) :
    Except PyError PolicyResult := do
  let yamlEval ← evaluateYamlPolicy file (activePolicyDoc file active) request.classification
    request.requestedAction
  let decision ← request.decision yamlEval.requiresHumanApproval
  let canonical := evaluatePolicy decision request.bundle request.requestedAction
  return {
    classification := request.classification
    yamlDecision := yamlEval.decision
    yamlSeverity := yamlEval.severity
    policyOutcome := mergedOutcome yamlEval request.requestedAction canonical.outcome
    allowedActions := yamlEval.allowedActions
    blockedActions := yamlEval.blockedActions
    requiresHumanApproval := yamlEval.requiresHumanApproval
    canonicalEvaluation := canonical
    limitations := yamlEval.limitations
    rationale := canonical.rationale }

/-! ## The record -/

/-- `_confidence_label`. -/
def confidenceLabel (score : FloatVal) : String :=
  if FloatVal.le (.ofScientific 85 (-2)) score then "high"
  else if FloatVal.le (.ofScientific 65 (-2)) score then "medium"
  else if FloatVal.le (.ofScientific 4 (-1)) score then "low"
  else "very_low"

inductive ExecutionAuthority where
  | previewOnly
  | requiresApproval
  | blocked
  deriving DecidableEq

inductive HumanApprovalStatus where
  | pending
  | notRequired
  deriving DecidableEq

structure PlatformDecisionRecord where
  decisionId : String
  tenantId : String
  incidentId : Option String
  hypothesisId : String
  evidenceEventId : String
  confidenceScore : FloatVal
  confidenceLabel : String
  policyOutcome : PolicyOutcome
  recommendedAction : String
  executionAuthority : ExecutionAuthority
  humanApprovalRequired : Bool
  humanApprovalStatus : HumanApprovalStatus
  actor : String
  rationale : String
  limitations : List String

/-- What a run of the pipeline has come to before its fifth stage, and the ids that it draws. -/
structure Assessment where
  tenantId : String
  actor : String
  incidentId : Option String
  hypothesisId : String
  evidenceEventId : String
  classification : String
  confidence : FloatVal
  proofTier : String
  requestedAction : String
  policyDecisionId : String
  timestamp : String
  decisionId : String
  reviewId : String

/-- `classification.upper() in REVIEW_CLASSES`, which is also `needs_human_review`. -/
def needsHumanReview (classification : String) : Bool :=
  reviewClasses.contains (String.ofList (upper classification.toList))

/-- How the policy service is called. -/
def Assessment.request (a : Assessment) : PolicyRequest where
  classification := a.classification
  confidenceScore := a.confidence
  evidenceTier := a.proofTier
  requestedAction := a.requestedAction
  requiresHumanReview := needsHumanReview a.classification
  decisionId := a.policyDecisionId
  timestamp := a.timestamp

def executionAuthority (policyResult : PolicyResult) : ExecutionAuthority :=
  if policyResult.policyOutcome = .block then .blocked
  else if policyResult.requiresHumanApproval then .requiresApproval
  else .previewOnly

/-- The row of the decision. -/
def Assessment.decisionRecord (a : Assessment) (policyResult : PolicyResult) :
    PlatformDecisionRecord where
  decisionId := a.decisionId
  tenantId := a.tenantId
  incidentId := a.incidentId
  hypothesisId := a.hypothesisId
  evidenceEventId := a.evidenceEventId
  confidenceScore := a.confidence
  confidenceLabel := confidenceLabel a.confidence
  policyOutcome := policyResult.policyOutcome
  recommendedAction := policyResult.yamlDecision
  executionAuthority := executionAuthority policyResult
  humanApprovalRequired := policyResult.requiresHumanApproval
  humanApprovalStatus := if policyResult.requiresHumanApproval then .pending else .notRequired
  actor := a.actor
  rationale := policyResult.rationale
  limitations := policyResult.limitations

/-- The row of the review queue. -/
def Assessment.reviewItem (a : Assessment) : Option HumanReviewItem :=
  match a.incidentId with
  | some incidentId =>
    if needsHumanReview a.classification && !incidentId.isEmpty then some {
      reviewId := a.reviewId
      incidentId
      evidenceId := a.evidenceEventId
      classification := a.classification
      status := "PENDING_REVIEW"
      reason := "" }
    else none
  | none => none

/-- The rows that the last two stages of `DecisionPipeline.run` add. -/
def recordDecision (file active : Option D) (a : Assessment) :
    Except PyError (PlatformDecisionRecord × Option HumanReviewItem) := do
  return (a.decisionRecord (← evaluate file active a.request), a.reviewItem)

/-! ## What a pack asks for -/

/-- What an object holds under a key counts as true. -/
def Holds (x : D) (key : String) : Prop := ∃ v, get x key = .ok v ∧ truthy v = true

/-- A rule asks for approval: by its flag, its decision or its severity. -/
def RuleAsks (rule : D) : Prop :=
  Holds rule "requires_human_approval" ∨
    (∃ decision ∈ escalations, textOr rule "decision" "OBSERVE" = .ok decision) ∨
    textOr rule "severity" "MEDIUM" = .ok "CRITICAL"

def AsksApproval (doc : D) (classification : String) : Prop :=
  ∃ rule, ruleFor doc classification = .ok rule ∧ RuleAsks rule

/-- The pack blocks an action: the rule for the classification lists it, or it kills a process and
that is never to happen automatically. -/
def Blocks (doc : D) (classification action : String) : Prop :=
  (∃ rule, ruleFor doc classification = .ok rule ∧
      ∃ blocked, textsOr rule "blocked_actions" [] = .ok blocked ∧ action ∈ blocked) ∨
    ((∃ safety, blockAt doc "safety" = .ok safety ∧
        Holds safety "never_kill_process_automatically") ∧ action ∈ killActions)

/-- The record says that a person has to approve the decision first. -/
structure AwaitsApproval (record : PlatformDecisionRecord) : Prop where
  required : record.humanApprovalRequired = true
  status : record.humanApprovalStatus = .pending
  authority : record.executionAuthority = .requiresApproval

/-- A decision that a person has to approve is recorded as such: one with that outcome, and one on
a class under review that is not blocked. -/
def FlagsConsistent (classification : String) (record : PlatformDecisionRecord) : Prop :=
  record.policyOutcome = .requireHumanApproval ∨
      (needsHumanReview classification = true ∧ record.policyOutcome ≠ .block) →
    AwaitsApproval record

/-! ## The sources, one by one -/

section Sources

variable {file : Option D} {policyDoc : D} {classification action : String} {yamlEval : YamlPolicyEvaluation}

theorem holds_iff {x v : D} {key : String} (h : get x key = .ok v) :
    Holds x key ↔ truthy v = true := by
  constructor
  · intro ⟨w, hw, htruthy⟩
    obtain rfl := Except.ok.inj (h.symm.trans hw)
    exact htruthy
  · intro htruthy
    exact ⟨v, h, htruthy⟩

/-- A property of what a computation returns, once it has returned. -/
theorem exists_ok_iff {α : Type} {x : Except PyError α} {a : α} (h : x = .ok a) (P : α → Prop) :
    (∃ b, x = .ok b ∧ P b) ↔ P a := by
  rw [h]
  constructor
  · intro ⟨b, hb, hP⟩
    obtain rfl := Except.ok.inj hb
    exact hP
  · intro hP
    exact ⟨a, rfl, hP⟩

/-- What an evaluation has read of the document. -/
theorem evaluateYamlPolicy_ok
    (h : evaluateYamlPolicy file policyDoc classification action = .ok yamlEval) :
    ∃ rule, ruleFor (docUsed file policyDoc) classification = .ok rule ∧
      textOr rule "decision" "OBSERVE" = .ok yamlEval.decision ∧
      textOr rule "severity" "MEDIUM" = .ok yamlEval.severity ∧
      (∃ approval, get rule "requires_human_approval" = .ok approval ∧
        yamlEval.requiresHumanApproval =
          (truthy approval || escalations.contains yamlEval.decision ||
            yamlEval.severity == "CRITICAL")) ∧
      ∃ blocked, textsOr rule "blocked_actions" [] = .ok blocked ∧
        ∃ safety, blockAt (docUsed file policyDoc) "safety" = .ok safety ∧
          ∃ neverKill, get safety "never_kill_process_automatically" = .ok neverKill ∧
            yamlEval.blockedActions =
              if truthy neverKill && killActions.contains action then blocked ++ [action]
              else blocked := by
  obtain ⟨rule, hrule, h⟩ := bind_ok.mp h
  obtain ⟨safety, hsafety, h⟩ := bind_ok.mp h
  obtain ⟨decision, hdecision, h⟩ := bind_ok.mp h
  obtain ⟨severity, hseverity, h⟩ := bind_ok.mp h
  obtain ⟨allowed, -, h⟩ := bind_ok.mp h
  obtain ⟨blocked, hblocked, h⟩ := bind_ok.mp h
  obtain ⟨neverKill, hneverKill, h⟩ := bind_ok.mp h
  obtain ⟨confirmation, -, h⟩ := bind_ok.mp h
  obtain ⟨approval, happroval, h⟩ := bind_ok.mp h
  obtain ⟨defaultMode, -, h⟩ := bind_ok.mp h
  obtain rfl := Except.ok.inj h
  exact ⟨rule, hrule, hdecision, hseverity, ⟨approval, happroval, rfl⟩, blocked, hblocked, safety,
    hsafety, neverKill, hneverKill, rfl⟩

theorem requiresHumanApproval_iff
    (h : evaluateYamlPolicy file policyDoc classification action = .ok yamlEval) :
    yamlEval.requiresHumanApproval = true ↔
      AsksApproval (docUsed file policyDoc) classification := by
  obtain ⟨rule, hrule, hdecision, hseverity, ⟨approval, happroval, hflag⟩, -⟩ :=
    evaluateYamlPolicy_ok h
  have hescalates : (∃ decision ∈ escalations, textOr rule "decision" "OBSERVE" = .ok decision) ↔
      yamlEval.decision ∈ escalations := by
    rw [← exists_ok_iff hdecision (· ∈ escalations)]
    simp only [and_comm]
  have hcritical : textOr rule "severity" "MEDIUM" = .ok "CRITICAL" ↔
      yamlEval.severity = "CRITICAL" := by
    rw [hseverity]
    exact ⟨Except.ok.inj, congrArg _⟩
  unfold AsksApproval
  rw [exists_ok_iff hrule RuleAsks]
  unfold RuleAsks
  rw [holds_iff happroval, hescalates, hcritical, hflag, Bool.or_eq_true, Bool.or_eq_true,
    List.contains_iff_mem, beq_iff_eq, or_assoc]

theorem mem_blockedActions_iff
    (h : evaluateYamlPolicy file policyDoc classification action = .ok yamlEval) :
    action ∈ yamlEval.blockedActions ↔
      Blocks (docUsed file policyDoc) classification action := by
  obtain ⟨rule, hrule, -, -, -, blocked, hblocked, safety, hsafety, neverKill, hneverKill, hlist⟩ :=
    evaluateYamlPolicy_ok h
  unfold Blocks
  rw [exists_ok_iff hrule fun rule =>
      ∃ blocked, textsOr rule "blocked_actions" [] = .ok blocked ∧ action ∈ blocked,
    exists_ok_iff hblocked (action ∈ ·),
    exists_ok_iff hsafety (Holds · "never_kill_process_automatically"), holds_iff hneverKill, hlist]
  by_cases hkill : truthy neverKill = true ∧ action ∈ killActions
  · rw [if_pos (Bool.and_eq_true_iff.mpr ⟨hkill.1, List.contains_iff_mem.mpr hkill.2⟩)]
    simp [hkill.1, hkill.2]
  · rw [if_neg fun hboth => hkill ⟨(Bool.and_eq_true_iff.mp hboth).1,
      List.contains_iff_mem.mp (Bool.and_eq_true_iff.mp hboth).2⟩]
    exact (or_iff_left hkill).symm

/-- Without proof nothing destructive is unlocked, and nothing else needs approval. -/
theorem evidenceOutcome_unproved (tier : EvidenceTier) (action : String) :
    (evidenceOutcome tier {} action true).1 ≠ .requireHumanApproval := by
  have hlocked : canUnlockDestructiveRemediation tier {} = false := by
    apply Bool.eq_false_iff.mpr
    intro hunlocked
    exact absurd ((canUnlockDestructiveRemediation_iff _ _).mp hunlocked).2.1 (by simp)
  unfold evidenceOutcome
  rw [hlocked]
  cases isDestructive action with
  | true => simp
  | false =>
    rw [if_neg (by simp), if_neg Bool.false_ne_true]
    split <;> simp

/-- Without evidence the engine asks for approval where the decision asks for review. -/
theorem evaluatePolicy_requireHumanApproval_iff (decision : Decision) {bundle : EvidenceBundle}
    (hitems : bundle.items = []) (action : String) :
    (evaluatePolicy decision bundle action).outcome = .requireHumanApproval ↔
      decision.requiresHumanReview = true := by
  have hproof : bundle.proof = {} := by
    unfold EvidenceBundle.proof
    rw [hitems]
    decide +kernel
  cases hreview : decision.requiresHumanReview with
  | true => simp [evaluatePolicy_review decision hreview]
  | false =>
    unfold evaluatePolicy
    dsimp only [Option.getD_none]
    rw [hproof, hreview]
    simpa using evidenceOutcome_unproved bundle.tier (normalizeAction action)

end Sources

/-! ## The record -/

variable {file active : Option D} {a : Assessment}

/-- The document that the evaluation goes by. -/
def docInForce (file active : Option D) : D := docUsed file (activePolicyDoc file active)

theorem requiresHumanReview_decision {request : PolicyRequest} {yamlApproval : Bool}
    {decision : Decision} (h : request.decision yamlApproval = .ok decision) :
    decision.requiresHumanReview = (request.requiresHumanReview || yamlApproval) := by
  unfold PolicyRequest.decision at h
  split at h
  · obtain rfl := Except.ok.inj h
    rfl
  · cases h

/-- What an evaluation says, by its sources. -/
theorem evaluate_ok {policyResult : PolicyResult}
    (h : evaluate file active a.request = .ok policyResult) :
    ∃ yamlEval canonical,
      evaluateYamlPolicy file (activePolicyDoc file active) a.classification a.requestedAction =
        .ok yamlEval ∧
      policyResult.requiresHumanApproval = yamlEval.requiresHumanApproval ∧
      policyResult.policyOutcome = mergedOutcome yamlEval a.requestedAction canonical ∧
      (canonical = .requireHumanApproval ↔
        needsHumanReview a.classification = true ∨ yamlEval.requiresHumanApproval = true) := by
  obtain ⟨yamlEval, hyaml, h⟩ := bind_ok.mp h
  obtain ⟨decision, hdecision, h⟩ := bind_ok.mp h
  obtain rfl := Except.ok.inj h
  refine ⟨yamlEval, _, hyaml, rfl, rfl, ?_⟩
  rw [evaluatePolicy_requireHumanApproval_iff decision rfl, requiresHumanReview_decision hdecision,
    Bool.or_eq_true]
  exact Iff.rfl

theorem mergedOutcome_approval_iff {yamlEval : YamlPolicyEvaluation} {action : String}
    (h : action ∉ yamlEval.blockedActions) (canonical : PolicyOutcome) :
    mergedOutcome yamlEval action canonical = .requireHumanApproval ↔
      yamlEval.requiresHumanApproval = true ∨ canonical = .requireHumanApproval := by
  have hcontains : ¬ yamlEval.blockedActions.contains action = true :=
    fun hc => h (List.contains_iff_mem.mp hc)
  unfold mergedOutcome
  rw [if_neg hcontains]
  cases yamlEval.requiresHumanApproval with
  | true => simp
  | false => simp

/-- The record follows the pack, unless the action is blocked. -/
theorem awaitsApproval_iff (policyResult : PolicyResult) :
    AwaitsApproval (a.decisionRecord policyResult) ↔
      policyResult.requiresHumanApproval = true ∧ policyResult.policyOutcome ≠ .block := by
  constructor
  · intro h
    refine ⟨h.required, ?_⟩
    intro hblock
    have hauthority := h.authority
    change executionAuthority policyResult = .requiresApproval at hauthority
    rw [executionAuthority, if_pos hblock] at hauthority
    cases hauthority
  · intro ⟨hrequired, hblock⟩
    constructor
    · exact hrequired
    · exact if_pos hrequired
    · change executionAuthority policyResult = .requiresApproval
      rw [executionAuthority, if_neg hblock, if_pos hrequired]

/-- The outcome follows the pack's word on the action first, then all who ask for approval; the flag
of the result follows the pack alone. -/
theorem evaluate_sources {policyResult : PolicyResult}
    (h : evaluate file active a.request = .ok policyResult) :
    (policyResult.requiresHumanApproval = true ↔
      AsksApproval (docInForce file active) a.classification) ∧
    (Blocks (docInForce file active) a.classification a.requestedAction →
      policyResult.policyOutcome = .block) ∧
    (¬ Blocks (docInForce file active) a.classification a.requestedAction →
      (policyResult.policyOutcome = .requireHumanApproval ↔
        policyResult.requiresHumanApproval = true ∨ needsHumanReview a.classification = true)) := by
  obtain ⟨yamlEval, canonical, hyaml, hrequired, houtcome, hcanonical⟩ := evaluate_ok h
  have hblocks : a.requestedAction ∈ yamlEval.blockedActions ↔
      Blocks (docInForce file active) a.classification a.requestedAction :=
    mem_blockedActions_iff hyaml
  rw [← hblocks]
  refine ⟨?_, ?_, ?_⟩
  · rw [hrequired]
    exact requiresHumanApproval_iff hyaml
  · intro hblocked
    rw [houtcome]
    exact if_pos (List.contains_iff_mem.mpr hblocked)
  · intro hblocked
    rw [houtcome, mergedOutcome_approval_iff hblocked, hcanonical, ← hrequired, or_left_comm,
      or_self, or_comm]

/-- The record of a decision is consistent when the class is not under review, the pack blocks the
action, or the pack asks for approval. -/
theorem flags_consistent_iff {record : PlatformDecisionRecord} {review : Option HumanReviewItem}
    (h : recordDecision file active a = .ok (record, review)) :
    FlagsConsistent a.classification record ↔
      needsHumanReview a.classification = false ∨
        Blocks (docInForce file active) a.classification a.requestedAction ∨
        AsksApproval (docInForce file active) a.classification := by
  obtain ⟨policyResult, hresult, h⟩ := bind_ok.mp h
  obtain ⟨rfl, -⟩ := Prod.mk.inj (Except.ok.inj h)
  obtain ⟨hasks, hblock, hmerged⟩ := evaluate_sources hresult
  rw [← hasks]
  unfold FlagsConsistent
  rw [awaitsApproval_iff]
  change (policyResult.policyOutcome = .requireHumanApproval ∨
    _ ∧ policyResult.policyOutcome ≠ .block → _) ↔ _
  by_cases hblocked : Blocks (docInForce file active) a.classification a.requestedAction
  · rw [hblock hblocked]
    simp [hblocked]
  · have happroval := hmerged hblocked
    cases hpack : policyResult.requiresHumanApproval with
    | true =>
      have hout := happroval.mpr (.inl hpack)
      simp [hout]
    | false =>
      cases hreview : needsHumanReview a.classification with
      | true =>
        have hout := happroval.mpr (.inr hreview)
        simp [hout, hblocked]
      | false =>
        have hout : policyResult.policyOutcome ≠ .requireHumanApproval := by
          rw [Ne, happroval, hpack, hreview]
          simp
        simp [hout]

end Pack

/-- A suspicious proxy, observed. -/
def suspiciousProxy : Assessment where
  tenantId := "acme"
  actor := "operator"
  incidentId := some "inc-1"
  hypothesisId := "hyp-1"
  evidenceEventId := "ev-1"
  classification := "SUSPICIOUS_PROXY"
  confidence := .ofScientific 5 (-1)
  proofTier := "T1_STATE_EVIDENCE"
  requestedAction := "observe"
  policyDecisionId := "dec-1"
  timestamp := "2026-01-01T00:00:00Z"
  decisionId := "pdec-1"
  reviewId := "rev-1"

/-- The built-in policy asks for approval of what is done about it. -/
theorem flags_consistent_suspicious : ∃ record review,
    recordDecision (none : Option Value) none suspiciousProxy = .ok (record, review) ∧
      FlagsConsistent "SUSPICIOUS_PROXY" record := by
  obtain ⟨policyResult, hresult⟩ : ∃ policyResult,
      evaluate (none : Option Value) none suspiciousProxy.request = .ok policyResult := ⟨_, rfl⟩
  have hrecord : recordDecision (none : Option Value) none suspiciousProxy =
      .ok (suspiciousProxy.decisionRecord policyResult, suspiciousProxy.reviewItem) :=
    bind_ok.mpr ⟨policyResult, hresult, rfl⟩
  refine ⟨_, _, hrecord, (flags_consistent_iff hrecord).mpr (.inr (.inr ?_))⟩
  exact ⟨_, rfl, .inr (.inr rfl)⟩

/-- A local proxy that nobody knows, observed. -/
def unknownProxy : Assessment := { suspiciousProxy with classification := "UNKNOWN_LOCAL_PROXY" }

/-- It is under review, and the built-in policy does not ask for approval: the decision's outcome
requires it, and its record does not. -/
theorem unknown_proxy_not_pending : ¬ ∀ (file active : Option Value) (a : Assessment)
    (record : PlatformDecisionRecord) (review : Option HumanReviewItem),
    recordDecision file active a = .ok (record, review) →
      FlagsConsistent a.classification record := by
  intro h
  obtain ⟨policyResult, hresult, houtcome, hrequired⟩ : ∃ policyResult,
      evaluate (none : Option Value) none unknownProxy.request = .ok policyResult ∧
        policyResult.policyOutcome = .requireHumanApproval ∧
        policyResult.requiresHumanApproval = false := ⟨_, rfl, rfl, rfl⟩
  have hrecord : recordDecision (none : Option Value) none unknownProxy =
      .ok (unknownProxy.decisionRecord policyResult, unknownProxy.reviewItem) :=
    bind_ok.mpr ⟨policyResult, hresult, rfl⟩
  have hawaits := h _ _ _ _ _ hrecord (.inl houtcome)
  exact absurd (hrequired.symm.trans hawaits.required) Bool.false_ne_true

end Backend
