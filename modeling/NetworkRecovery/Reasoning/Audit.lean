import NetworkRecovery.Reasoning.Laws
import NetworkRecovery.Reliability.TimeTravel

/-!
# The reasoning log

`platform_core/reasoning_audit.py`: runs are appended to a log of JSON lines, and the
observations and the proof of a row are reasoned on once more. The ids of the events are
drawn anew; what was asked for is read from the decision, and the confirmation from its
codes.

Whatever runs have been written, every row of the log replays to the decision that it
records, over the same signals, ranking, impact and path (`replay_log`). Only the preview
of a remediation can read another way: it names the action as it is in the decision.
-/

namespace Reasoning

open Python Audit Platform Trails
open Reliability (textsField)

/-! ## Rows -/

/-- `audit_metadata.model_dump(mode="json")`. -/
def AuditMetadata.modelDump (m : AuditMetadata) : Dict :=
  [("schema_version", .str m.schemaVersion), ("engine_version", .str m.engineVersion),
    ("replayable", .bool m.replayable), ("source_run_id", optionalText m.sourceRunId),
    ("tags", textList m.tags)]

/-- `obs.model_dump(mode="json")`. -/
def Observation.modelDump (o : Observation) : Dict :=
  [("id", .str o.id), ("timestamp", .str o.timestamp), ("source", .str o.source),
    ("signal_name", .str o.signalName), ("value", o.value),
    ("normalized_value", o.normalizedValue), ("confidence", .float o.confidence),
    ("evidence_level", .str o.evidenceLevel.text), ("limitations", textList o.limitations),
    ("recommended_next_steps", textList o.recommendedNextSteps),
    ("audit_metadata", .dict o.auditMetadata.modelDump)]

/-- `proof_result.model_dump(mode="json")`. -/
def ProofResult.modelDump (p : ProofResult) : Dict :=
  [("id", .str p.id), ("timestamp", .str p.timestamp), ("source", .str p.source),
    ("hypothesis", .str p.hypothesis), ("status", .str p.status.text),
    ("confidence", .float p.confidence), ("checks_run", textList p.checksRun),
    ("evidence", textList p.evidence), ("limitations", textList p.limitations),
    ("recommended_next_steps", textList p.recommendedNextSteps),
    ("audit_metadata", .dict p.auditMetadata.modelDump)]

def TrustLevel.text : TrustLevel → String
  | .low => "low"
  | .medium => "medium"
  | .high => "high"

/-- `policy_decision.model_dump(mode="json")`, without its id, its time and its source. -/
def PolicyDecision.modelDump (d : PolicyDecision) : Dict :=
  [("outcome", .str d.outcome.text), ("requested_action", optionalText d.requestedAction),
    ("hypothesis", .str d.hypothesis), ("state_transition", .str d.stateTransition),
    ("evidence_level", .str d.evidenceLevel.text), ("proof_status", .str d.proofStatus.text),
    ("confidence", .float d.confidence), ("trust_level", .str d.trustLevel.text),
    ("impact_level", .str d.impactLevel.text),
    ("requires_confirmation", .bool d.requiresConfirmation),
    ("confirmation_phrase", optionalText d.confirmationPhrase),
    ("reason_codes", textList d.reasonCodes), ("blocked_actions", textList d.blockedActions),
    ("limitations", textList d.limitations),
    ("recommended_next_steps", textList d.recommendedNextSteps)]

/-- `to_audit_record`, as far as a replay reads it. -/
def toAuditRecord (run : ReasoningRun) : Dict :=
  [("record_type", .str "reasoning_run"),
    ("run", .dict [("id", .str run.id), ("source", .str run.source)]),
    ("raw_observations", .list (run.rawObservations.map fun o => .dict o.modelDump)),
    ("normalized_signals", .dict run.normalizedSignals),
    ("proof_result", .dict run.proofResult.modelDump),
    ("policy_decision", .dict run.policyDecision.modelDump),
    ("limitations", textList run.limitations)]

/-! ## The replay -/

/-- The value under a key, where the row has one, in its own type; else the default. -/
def fieldOr {α : Type} (row : Dict) (key : String) (default : α) (read : Dict → String → Option α) :
    Option α :=
  if (row.get? key).isSome then read row key else some default

/-- A confidence: a number between zero and one. -/
def confidenceField (row : Dict) (key : String) : Option FloatVal :=
  match row.get? key with
  | some (.float x) => if FloatVal.zero.le x && x.le .one then some x else none
  | _ => none

def boolField (row : Dict) (key : String) : Option Bool :=
  match row.get? key with
  | some (.bool b) => some b
  | _ => none

def evidenceLevelField (row : Dict) (key : String) : Option EvidenceLevel :=
  (textField row key).bind
    (ofText [.observed, .inferred, .validated, .proof, .rejected] EvidenceLevel.text)

def proofStatusField (row : Dict) (key : String) : Option ProofStatus :=
  (textField row key).bind (ofText [.notRun, .confirmed, .rejected, .inconclusive] ProofStatus.text)

/-- `AuditMetadata(**row)`. -/
def AuditMetadata.ofRow (row : Dict) : Option AuditMetadata := do
  let schemaVersion ← fieldOr row "schema_version" "reasoning.v1" textField
  let engineVersion ← fieldOr row "engine_version" "2026.05" textField
  let replayable ← fieldOr row "replayable" true boolField
  let sourceRunId ← fieldOr row "source_run_id" none optionalField
  let tags ← fieldOr row "tags" [] textsField
  return { schemaVersion, engineVersion, replayable, sourceRunId, tags }

def auditMetadataField (row : Dict) (key : String) : Option AuditMetadata :=
  match row.get? key with
  | some (.dict entries) => AuditMetadata.ofRow entries
  | _ => none

/-- The id and the time that a row without them is given. -/
structure Stamp where
  id : String
  timestamp : String

/-- `Observation(**row)`. -/
def Observation.ofRow (stamp : Stamp) (row : Dict) : Option Observation := do
  let id ← fieldOr row "id" stamp.id textField
  let timestamp ← fieldOr row "timestamp" stamp.timestamp textField
  let source ← fieldOr row "source" "unknown" textField
  let signalName ← textField row "signal_name"
  let value ← row.get? "value"
  let confidence ← fieldOr row "confidence" .one confidenceField
  let evidenceLevel ← fieldOr row "evidence_level" .observed evidenceLevelField
  let limitations ← fieldOr row "limitations" [] textsField
  let recommendedNextSteps ← fieldOr row "recommended_next_steps" [] textsField
  let auditMetadata ← fieldOr row "audit_metadata" {} auditMetadataField
  return {
    id, timestamp, source, signalName, value, normalizedValue := row.fetch "normalized_value",
    confidence, evidenceLevel, limitations, recommendedNextSteps, auditMetadata }

/-- `ProofResult(**row)`. -/
def ProofResult.ofRow (stamp : Stamp) (row : Dict) : Option ProofResult := do
  let id ← fieldOr row "id" stamp.id textField
  let timestamp ← fieldOr row "timestamp" stamp.timestamp textField
  let source ← fieldOr row "source" "proof_engine" textField
  let hypothesis ← fieldOr row "hypothesis" "" textField
  let status ← fieldOr row "status" .notRun proofStatusField
  let confidence ← fieldOr row "confidence" .zero confidenceField
  let checksRun ← fieldOr row "checks_run" [] textsField
  let evidence ← fieldOr row "evidence" [] textsField
  let limitations ← fieldOr row "limitations" [] textsField
  let recommendedNextSteps ← fieldOr row "recommended_next_steps" [] textsField
  let auditMetadata ← fieldOr row "audit_metadata" {} auditMetadataField
  return {
    id, timestamp, source, hypothesis, status, confidence, checksRun, evidence, limitations,
    recommendedNextSteps, auditMetadata }

/-- The entries of a dictionary, and none of anything else. -/
def entriesOf : Value → Dict
  | .dict entries => entries
  | _ => []

/-- `record.get(key) or run_blob.get(key) or default`. -/
def eitherField (record runBlob : Dict) (key : String) (default : Value) : Value :=
  orElse (some (orElse (record.get? key) (runBlob.fetch key))) default

/-- `value.get`, of what should be a dictionary. -/
def asDict : Value → Except PyError Dict
  | .dict entries => .ok entries
  | _ => .error .attribute

/-- The items of the observations that are dictionaries. -/
def dictItems (v : Value) : Except PyError (List Dict) := do
  let items ← v.items
  return items.filterMap fun
    | .dict entries => some entries
    | _ => none

/-- `code in codes`. -/
def codeIn (code : String) : Value → Except PyError Bool
  | .list xs => .ok (xs.any fun x => x.pyEq (.str code))
  | .str s => .ok (contains code.toList s.toList)
  | .dict entries => .ok ((Dict.keys entries).contains code)
  | _ => .error .type

/-- What is drawn at a replay. -/
structure ReplayDraw extends RunDraw where
  observation : Nat → Stamp

/-- The action that a decision is about. -/
def requestedActionOf (policyBlob : Dict) : Except PyError (Option String) :=
  match policyBlob.fetch "requested_action" with
  | .str s => .ok (some s)
  | .none => .ok none
  | _ => .error .attribute

/-- `Observation(**item)`, one by one. -/
def observationsOf (draw : ReplayDraw) : Nat → List Dict → Except PyError (List Observation)
  | _, [] => .ok []
  | i, item :: items => do
    let o ← (Observation.ofRow (draw.observation i) item).elim (.error .value) .ok
    let os ← observationsOf draw (i + 1) items
    return o :: os

/-- `replay_reasoning_record`. -/
def replayReasoningRecord (draw : ReplayDraw) (record : Dict) : Except PyError ReasoningRun := do
  let runBlob ← asDict (orElse (record.get? "run") (.dict []))
  let items ← dictItems (eitherField record runBlob "raw_observations" (.list []))
  let observations ← observationsOf draw 0 items
  let proof ← (ProofResult.ofRow ⟨draw.proofId, draw.proofTimestamp⟩
    (entriesOf (eitherField record runBlob "proof_result" (.dict [])))).elim (.error .value) .ok
  let policyBlob := entriesOf (eitherField record runBlob "policy_decision" (.dict []))
  let requestedAction ← requestedActionOf policyBlob
  let codes := orElse (policyBlob.get? "reason_codes") (.list [])
  let confirmed ← codeIn "CONFIRMED_SAFE_TIER_WITH_CONFIRMATION" codes
  let confirmedBefore ← codeIn "confirmed_proof_safe_action_confirmation_present" codes
  runReasoning draw.toRunDraw observations {
    proofResult := some proof
    requestedAction := requestedAction
    explicitConfirmation := confirmed || confirmedBefore
    source := "replay"
    runId := some
      (orElse (some (orElse (runBlob.get? "id") (record.fetch "run_id"))) (.str "")).toText }

/-! ## Reading back -/

/-- What pydantic has checked of an observation, and what JSON can carry. -/
structure Observation.Valid (o : Observation) : Prop where
  value : o.value.WF
  normalizedValue : o.normalizedValue.WF
  confidence : (FloatVal.zero.le o.confidence && o.confidence.le .one) = true

def ProofResult.Valid (p : ProofResult) : Prop :=
  (FloatVal.zero.le p.confidence && p.confidence.le .one) = true

theorem evidenceLevel_ofText (l : EvidenceLevel) :
    ofText [.observed, .inferred, .validated, .proof, .rejected] EvidenceLevel.text l.text =
      some l := by
  cases l <;> decide

theorem proofStatus_ofText (status : ProofStatus) :
    ofText [.notRun, .confirmed, .rejected, .inconclusive] ProofStatus.text status.text =
      some status := by
  cases status <;> decide

theorem optionalOr_optionalText {row : Dict} {key : String} {text : Option String}
    (h : row.get? key = some (optionalText text)) :
    fieldOr row key none optionalField = some text := by
  unfold fieldOr optionalField
  rw [h]
  cases text with
  | none => rfl
  | some s => rfl

theorem textsOr_textList {row : Dict} {key : String} {texts : List String}
    (h : row.get? key = some (textList texts)) : fieldOr row key [] textsField = some texts := by
  unfold fieldOr textsField
  rw [h]
  exact Reliability.mapM_map_of_pure fun _ => rfl

theorem AuditMetadata.ofRow_modelDump (m : AuditMetadata) : ofRow m.modelDump = some m := by
  have hsource : fieldOr m.modelDump "source_run_id" none optionalField = some m.sourceRunId :=
    optionalOr_optionalText rfl
  have htags : fieldOr m.modelDump "tags" [] textsField = some m.tags :=
    textsOr_textList rfl
  unfold ofRow
  rw [hsource, htags]
  rfl

theorem Observation.ofRow_modelDump (stamp : Stamp) {o : Observation} (h : o.Valid) :
    ofRow stamp o.modelDump = some o := by
  have hconfidence : fieldOr o.modelDump "confidence" .one confidenceField = some o.confidence :=
    if_pos h.confidence
  have hlevel : fieldOr o.modelDump "evidence_level" .observed evidenceLevelField =
      some o.evidenceLevel := evidenceLevel_ofText o.evidenceLevel
  have hlimitations : fieldOr o.modelDump "limitations" [] textsField = some o.limitations :=
    textsOr_textList rfl
  have hsteps : fieldOr o.modelDump "recommended_next_steps" [] textsField =
      some o.recommendedNextSteps := textsOr_textList rfl
  have hmetadata : fieldOr o.modelDump "audit_metadata" {} auditMetadataField =
      some o.auditMetadata := AuditMetadata.ofRow_modelDump o.auditMetadata
  unfold ofRow
  rw [hconfidence, hlevel, hlimitations, hsteps, hmetadata]
  rfl

theorem ProofResult.ofRow_modelDump (stamp : Stamp) {p : ProofResult} (h : p.Valid) :
    ofRow stamp p.modelDump = some p := by
  have hstatus : fieldOr p.modelDump "status" .notRun proofStatusField = some p.status :=
    proofStatus_ofText p.status
  have hconfidence : fieldOr p.modelDump "confidence" .zero confidenceField = some p.confidence :=
    if_pos h
  have hchecks : fieldOr p.modelDump "checks_run" [] textsField = some p.checksRun :=
    textsOr_textList rfl
  have hevidence : fieldOr p.modelDump "evidence" [] textsField = some p.evidence :=
    textsOr_textList rfl
  have hlimitations : fieldOr p.modelDump "limitations" [] textsField = some p.limitations :=
    textsOr_textList rfl
  have hsteps : fieldOr p.modelDump "recommended_next_steps" [] textsField =
      some p.recommendedNextSteps := textsOr_textList rfl
  have hmetadata : fieldOr p.modelDump "audit_metadata" {} auditMetadataField =
      some p.auditMetadata := AuditMetadata.ofRow_modelDump p.auditMetadata
  unfold ofRow
  rw [hstatus, hconfidence, hchecks, hevidence, hlimitations, hsteps, hmetadata]
  rfl

/-! ## Other ids -/

/-- Two transitions that differ in nothing but the ids of their events. -/
structure SameStep (t t' : StateTransition) : Prop where
  fromState : t.fromState = t'.fromState
  toState : t.toState = t'.toState
  ruleId : t.ruleId = t'.ruleId
  confidence : t.confidence = t'.confidence

theorem goIf_same {walk walk' : Walk} (hcurrent : walk.current = walk'.current)
    (hsame : List.Forall₂ SameStep walk.transitions walk'.transitions) (condition : Bool)
    (toState ruleId : String) (confidence : FloatVal) (ids ids' : List String) :
    (walk.goIf condition toState ruleId confidence ids).current =
        (walk'.goIf condition toState ruleId confidence ids').current ∧
      List.Forall₂ SameStep (walk.goIf condition toState ruleId confidence ids).transitions
        (walk'.goIf condition toState ruleId confidence ids').transitions := by
  unfold Walk.goIf Walk.goTo
  split
  · exact ⟨rfl, List.rel_append hsame (.cons ⟨hcurrent, rfl, rfl, rfl⟩ .nil)⟩
  · exact ⟨hcurrent, hsame⟩

/-- The walk sees of the events only which there are. -/
theorem browserProxyTransitions_same {events events' : List DetectedEvent}
    (h : ∀ name, observed events name = observed events' name) (signals : Dict) :
    List.Forall₂ SameStep (inferBrowserProxyTransitions events signals)
      (inferBrowserProxyTransitions events' signals) := by
  have hobserved : observed events = observed events' := funext h
  unfold inferBrowserProxyTransitions browserProxyWalk
  rw [hobserved]
  dsimp only
  obtain ⟨hcurrent, hsame⟩ := goIf_same (rfl : ({} : Walk).current = ({} : Walk).current) .nil
    (!(driftEvents.filter (observed events')).isEmpty) "proxy_drift_detected" "proxy_drift"
    (.ofScientific 72 (-2)) (eventIdsFor (driftEvents.filter (observed events')) events)
    (eventIdsFor (driftEvents.filter (observed events')) events')
  obtain ⟨hcurrent, hsame⟩ := goIf_same hcurrent hsame (suspectRequired.all (observed events'))
    "browser_path_failure_suspected" "browser_path_suspected" (.ofScientific 84 (-2))
    (eventIdsFor suspectRequired events) (eventIdsFor suspectRequired events')
  obtain ⟨hcurrent, hsame⟩ := goIf_same hcurrent hsame (confirmedRequired.all (observed events'))
    "proxy_path_failure_confirmed" "proxy_path_confirmed" (.ofScientific 92 (-2))
    (eventIdsFor confirmedRequired events) (eventIdsFor confirmedRequired events')
  rw [hcurrent]
  exact (goIf_same hcurrent hsame _ _ _ _ _ _).2

/-- Two canonical transitions with the same states and the same rule. -/
def SameKey (t t' : CanonicalStateTransition) : Prop := t.key = t'.key

structure SameInference (i i' : Inference) : Prop where
  current : i.current = i'.current
  canonical : List.Forall₂ SameKey i.canonical i'.canonical

theorem SameInference.emit {i i' : Inference} (h : SameInference i i')
    {t t' : CanonicalStateTransition} (ht : SameKey t t') : SameInference (i.emit t) (i'.emit t') :=
  ⟨congrArg (fun key => key.2.1) ht, List.rel_append h.canonical (.cons ht .nil)⟩

theorem triggered_same {events events' : List EndpointEvent}
    (h : ∀ name, (events.any fun e => e.eventType == name) = events'.any fun e => e.eventType == name)
    (signals : Dict) (rule : CanonicalRule) :
    triggered rule events signals = triggered rule events' signals := by
  unfold triggered
  simp only [h]

theorem ruleStep_same {events events' : List EndpointEvent}
    (h : ∀ name, (events.any fun e => e.eventType == name) = events'.any fun e => e.eventType == name)
    (signals : Dict) {i i' : Inference} (hi : SameInference i i') (rule : CanonicalRule) :
    SameInference (ruleStep events signals i rule) (ruleStep events' signals i' rule) := by
  unfold ruleStep
  rw [triggered_same h, hi.current]
  split
  · exact hi.emit rfl
  · exact hi

theorem scenarioStep_same {i i' : Inference} (hi : SameInference i i') {t t' : StateTransition}
    (ht : SameStep t t') : SameInference (scenarioStep i t) (scenarioStep i' t') := by
  have hempty : i.canonical ≠ [] ↔ i'.canonical ≠ [] := by
    rw [← List.length_pos_iff, ← List.length_pos_iff, hi.canonical.length_eq]
  unfold scenarioStep
  dsimp only
  rw [hi.current, ht.toState, ht.fromState]
  by_cases hthere : mapScenarioState t'.toState = i'.current
  · rw [if_pos hthere, if_pos hthere]
    exact hi
  · rw [if_neg hthere, if_neg hthere]
    by_cases hoff : mapScenarioState t'.fromState ≠ i'.current ∧ i'.canonical ≠ []
    · rw [if_pos ⟨hoff.1, hempty.mpr hoff.2⟩, if_pos hoff]
      exact hi
    · rw [if_neg fun h => hoff ⟨h.1, hempty.mp h.2⟩, if_neg hoff]
      refine hi.emit ?_
      unfold SameKey CanonicalStateTransition.key
      dsimp only
      rw [ht.ruleId]

theorem inferLoop_same {events events' : List EndpointEvent} {ts ts' : List StateTransition}
    (h : ∀ name, (events.any fun e => e.eventType == name) = events'.any fun e => e.eventType == name)
    (hts : List.Forall₂ SameStep ts ts') (signals : Dict) :
    SameInference (inferLoop ts events signals) (inferLoop ts' events' signals) := by
  have hrules : ∀ (rules : List CanonicalRule) (i i' : Inference), SameInference i i' →
      SameInference (rules.foldl (ruleStep events signals) i)
        (rules.foldl (ruleStep events' signals) i') := by
    intro rules
    induction rules with
    | nil => exact fun i i' hi => hi
    | cons rule rules ih => exact fun i i' hi => ih _ _ (ruleStep_same h signals hi rule)
  have hstart : SameInference {} {} := ⟨rfl, .nil⟩
  have hscenario : ∀ i i' : Inference, SameInference i i' →
      SameInference (ts.foldl scenarioStep i) (ts'.foldl scenarioStep i') := by
    induction hts with
    | nil => exact fun i i' hi => hi
    | cons ht _ ih => exact fun i i' hi => ih _ _ (scenarioStep_same hi ht)
  exact hscenario _ _ (hrules _ _ _ hstart)

theorem keepFirst_same {ts ts' : List CanonicalStateTransition} (h : List.Forall₂ SameKey ts ts')
    (seen : List (CanonicalState × CanonicalState × String)) :
    List.Forall₂ SameKey (keepFirst CanonicalStateTransition.key seen ts)
      (keepFirst CanonicalStateTransition.key seen ts') := by
  induction h generalizing seen with
  | nil => exact .nil
  | @cons t t' ts ts' ht _ ih =>
    have hkey : t.key = t'.key := ht
    unfold keepFirst
    rw [hkey]
    split
    · exact ih seen
    · exact .cons ht (ih _)

theorem canonicalStatePath_same {ts ts' : List CanonicalStateTransition}
    (h : List.Forall₂ SameKey ts ts') : canonicalStatePath ts = canonicalStatePath ts' := by
  have hstep : ∀ (path : List CanonicalState) (t t' : CanonicalStateTransition), SameKey t t' →
      pathStep path t = pathStep path t' := by
    intro path t t' ht
    have hto : t.toState = t'.toState := congrArg (fun key => key.2.1) ht
    unfold pathStep
    rw [hto]
  have hfold : ∀ path, ts.foldl pathStep path = ts'.foldl pathStep path := by
    induction h with
    | nil => exact fun _ => rfl
    | @cons t t' ts ts' ht _ ih =>
      intro path
      rw [List.foldl_cons, List.foldl_cons, hstep path t t' ht, ih]
  cases h with
  | nil => rfl
  | @cons t t' ts ts' ht _ =>
    have hfrom : t.fromState = t'.fromState := congrArg (fun key => key.1) ht
    show ((t :: ts).foldl pathStep [t.fromState]).reverse =
      ((t' :: ts').foldl pathStep [t'.fromState]).reverse
    rw [hfrom, hfold]

/-! ## The same decision -/

/-- The gate asks of a confirmation that has let something through no more than of the one it
was. -/
theorem gate_confirmed (status : ProofStatus) (confirmation conflicting : Bool) :
    gate status (decide ((gate status confirmation conflicting).outcome = .allow)) conflicting =
      gate status confirmation conflicting := by
  cases conflicting <;> cases confirmation <;> cases status <;> rfl

/-- A decision asks for the action by its key, and for the confirmation at the gate. -/
theorem evaluate_congr {r : PolicyRequest} {action : Option String} {confirmation : Bool}
    (hkey : actionKey action = actionKey r.requestedAction)
    (hgate : ∀ key ∈ safeRegistryActions, actionKey r.requestedAction = some key →
      gate r.status confirmation r.conflictingSignals =
        gate r.status r.explicitConfirmation r.conflictingSignals) :
    evaluateReasoningPolicy
        { r with requestedAction := action, explicitConfirmation := confirmation } =
      evaluateReasoningPolicy r := by
  have hdecision : PolicyRequest.decision
      { r with requestedAction := action, explicitConfirmation := confirmation } = r.decision := rfl
  have htrust : PolicyRequest.trustLevel
      { r with requestedAction := action, explicitConfirmation := confirmation } = r.trustLevel := rfl
  unfold evaluateReasoningPolicy
  rw [hdecision, htrust, hkey]
  cases hr : actionKey r.requestedAction with
  | none => rfl
  | some key =>
    dsimp only
    by_cases hdestructive : destructive key = true
    · rw [if_pos hdestructive, if_pos hdestructive]
    · rw [if_neg hdestructive, if_neg hdestructive]
      by_cases hsafe : key ∉ safeRegistryActions
      · rw [if_pos hsafe, if_pos hsafe]
      · rw [if_neg hsafe, if_neg hsafe, hgate key (not_not.mp hsafe) hr]

/-- A request that is made once more from the decision on it. -/
theorem evaluate_again (r : PolicyRequest) :
    evaluateReasoningPolicy
        { r with
          requestedAction := actionKey r.requestedAction
          explicitConfirmation := (evaluateReasoningPolicy r).outcome = .allow } =
      evaluateReasoningPolicy r := by
  refine evaluate_congr (actionKey_actionKey _) fun key hsafe hkey => ?_
  have hdecides := decides_evaluate r
  generalize evaluateReasoningPolicy r = d at hdecides ⊢
  have houtcome : d.outcome = .allow ↔
      (gate r.status r.explicitConfirmation r.conflictingSignals).outcome = .allow := by
    rw [hdecides.allow, gate_eq_allow]
    exact and_iff_right ⟨key, hsafe, hkey⟩
  rw [decide_eq_decide.mpr houtcome]
  exact gate_confirmed _ _ _

/-- The code of an older engine is in no decision. -/
theorem Decides.legacy {r : PolicyRequest} {d : PolicyDecision} (h : Decides r d) :
    "confirmed_proof_safe_action_confirmation_present" ∉ d.reasonCodes := by
  cases h with
  | diagnostic _ _ _ _ codes => simp [codes]
  | blocked _ _ _ _ _ codes => rcases codes with codes | codes <;> simp [codes]
  | safe _ _ _ _ _ codes =>
    have hgate : "confirmed_proof_safe_action_confirmation_present" ∉
        (gate r.status r.explicitConfirmation r.conflictingSignals).reasonCodes := by
      unfold gate
      split
      · simp
      · split <;> simp
    rw [codes, List.mem_eraseDups, List.mem_append]
    unfold PolicyRequest.verdict Verdict.guarded
    rw [Verdict.mem_guardrail (by simp), Verdict.mem_guardrail (by simp),
      Verdict.mem_guardrail (by simp)]
    simp [hgate]

/-! ## The log -/

/-- A run that has come to an end, on observations and a proof that have been checked. -/
structure AuditedRun where
  draw : RunDraw
  observations : List Observation
  args : RunArgs
  run : ReasoningRun
  ok : runReasoning draw observations args = .ok run
  valid : ∀ o ∈ observations, o.Valid
  proofValid : (args.proof draw).Valid

theorem effective_wf {o : Observation} (h : o.Valid) : o.effective.WF := by
  unfold Observation.effective
  split
  · exact h.value
  · exact h.normalizedValue

theorem normalizeSignals_wf {observations : List Observation} (h : ∀ o ∈ observations, o.Valid) :
    (Value.dict (normalizeSignals observations)).WF := by
  induction observations using List.reverseRecOn with
  | nil => exact emptyDict_wf
  | append_singleton observations o ih =>
    rw [normalizeSignals_concat]
    exact (ih fun o' ho' => h o' (by simp [ho'])).set _ (effective_wf (h o (by simp)))

theorem AuditMetadata.modelDump_wf (m : AuditMetadata) : (Value.dict m.modelDump).WF := by
  have hkeys : Dict.keys m.modelDump =
      ["schema_version", "engine_version", "replayable", "source_run_id", "tags"] := rfl
  refine ⟨?_, trivial, trivial, trivial, optionalText_wf _, textList_wf _, trivial⟩
  rw [hkeys]
  decide

theorem Observation.modelDump_wf {o : Observation} (h : o.Valid) : (Value.dict o.modelDump).WF := by
  have hkeys : Dict.keys o.modelDump = ["id", "timestamp", "source", "signal_name", "value",
      "normalized_value", "confidence", "evidence_level", "limitations", "recommended_next_steps",
      "audit_metadata"] := rfl
  refine ⟨?_, trivial, trivial, trivial, trivial, h.value, h.normalizedValue, trivial, trivial,
    textList_wf _, textList_wf _, o.auditMetadata.modelDump_wf, trivial⟩
  rw [hkeys]
  decide

theorem ProofResult.modelDump_wf (p : ProofResult) : (Value.dict p.modelDump).WF := by
  have hkeys : Dict.keys p.modelDump = ["id", "timestamp", "source", "hypothesis", "status",
      "confidence", "checks_run", "evidence", "limitations", "recommended_next_steps",
      "audit_metadata"] := rfl
  refine ⟨?_, trivial, trivial, trivial, trivial, trivial, trivial, textList_wf _, textList_wf _,
    textList_wf _, textList_wf _, p.auditMetadata.modelDump_wf, trivial⟩
  rw [hkeys]
  decide

theorem PolicyDecision.modelDump_wf (d : PolicyDecision) : (Value.dict d.modelDump).WF := by
  have hkeys : Dict.keys d.modelDump = ["outcome", "requested_action", "hypothesis",
      "state_transition", "evidence_level", "proof_status", "confidence", "trust_level",
      "impact_level", "requires_confirmation", "confirmation_phrase", "reason_codes",
      "blocked_actions", "limitations", "recommended_next_steps"] := rfl
  refine ⟨?_, trivial, optionalText_wf _, trivial, trivial, trivial, trivial, trivial, trivial,
    trivial, trivial, optionalText_wf _, textList_wf _, textList_wf _, textList_wf _, textList_wf _,
    trivial⟩
  rw [hkeys]
  decide

theorem AuditedRun.record_wf (r : AuditedRun) : (Value.dict (toAuditRecord r.run)).WF := by
  have hran := ran_of_ok r.ok
  have hkeys : Dict.keys (toAuditRecord r.run) = ["record_type", "run", "raw_observations",
      "normalized_signals", "proof_result", "policy_decision", "limitations"] := rfl
  have hrun : (Value.dict [("id", .str r.run.id), ("source", .str r.run.source)]).WF :=
    ⟨by simp [Dict.keys], trivial, trivial, trivial⟩
  have hsignals : (Value.dict r.run.normalizedSignals).WF := by
    rw [hran.signals]
    exact normalizeSignals_wf r.valid
  have hobservations : (Value.list (r.run.rawObservations.map fun o => .dict o.modelDump)).WF := by
    rw [hran.raw]
    have hvalid := r.valid
    generalize r.observations = os at hvalid
    induction os with
    | nil => trivial
    | cons o os ih =>
      obtain ⟨ho, hos⟩ := List.forall_mem_cons.mp hvalid
      exact ⟨o.modelDump_wf ho, ih hos⟩
  refine ⟨?_, trivial, hrun, hobservations, hsignals, r.run.proofResult.modelDump_wf,
    r.run.policyDecision.modelDump_wf, textList_wf _, trivial⟩
  rw [hkeys]
  decide

/-- `append_reasoning_run`. -/
def appendReasoningRun (sep : Linesep) (log : JsonlFile) (r : AuditedRun) : JsonlFile :=
  log.append sep (toAuditRecord r.run) r.record_wf

/-- What a replay says as the run has said it. -/
structure Replays (run replayed : ReasoningRun) : Prop where
  observations : replayed.rawObservations = run.rawObservations
  signals : replayed.normalizedSignals = run.normalizedSignals
  proof : replayed.proofResult = run.proofResult
  steps : List.Forall₂ SameStep replayed.stateTransitions run.stateTransitions
  path : replayed.canonicalStatePath = run.canonicalStatePath
  ranking : replayed.hypothesisRanking = run.hypothesisRanking
  impact : replayed.reliabilityImpact = run.reliabilityImpact
  policy : replayed.policyDecision = run.policyDecision
  limitations : replayed.limitations = run.limitations
  preview : replayed.remediationPreview =
    run.remediationPreview.map fun preview => { preview with action := actionKey preview.action }
  id : run.id ≠ "" → replayed.id = run.id

theorem observationsOf_modelDump (draw : ReplayDraw) {observations : List Observation}
    (h : ∀ o ∈ observations, o.Valid) (i : Nat) :
    observationsOf draw i (observations.map Observation.modelDump) = .ok observations := by
  induction observations generalizing i with
  | nil => rfl
  | cons o os ih =>
    obtain ⟨ho, hos⟩ := List.forall_mem_cons.mp h
    rw [List.map_cons, observationsOf, Observation.ofRow_modelDump _ ho, ih hos]
    rfl

theorem dictItems_map (rows : List Dict) : dictItems (.list (rows.map .dict)) = .ok rows := by
  have hitems : Value.items (.list (rows.map .dict)) = .ok (rows.map .dict) := rfl
  unfold dictItems
  rw [hitems]
  refine congrArg Except.ok ?_
  rw [List.filterMap_map]
  exact List.filterMap_some

/-- The rows of the observations in a record. -/
theorem dictItems_record (run : ReasoningRun) (runBlob : Dict)
    (hblob : runBlob.get? "raw_observations" = none) :
    dictItems (eitherField (toAuditRecord run) runBlob "raw_observations" (.list [])) =
      .ok (run.rawObservations.map Observation.modelDump) := by
  have hget : (toAuditRecord run).get? "raw_observations" =
      some (.list (run.rawObservations.map fun o => .dict o.modelDump)) := rfl
  unfold eitherField Dict.fetch
  rw [hget, hblob]
  cases hraw : run.rawObservations with
  | nil => rfl
  | cons o os =>
    have hitems := dictItems_map ((o :: os).map Observation.modelDump)
    rw [List.map_map] at hitems
    exact hitems

theorem codeIn_textList (code : String) (codes : List String) :
    codeIn code (orElse (some (textList codes)) (.list [])) = .ok (decide (code ∈ codes)) := by
  have hcodes : orElse (some (textList codes)) (.list []) = textList codes := by
    cases codes with
    | nil => rfl
    | cons c cs => rfl
  have hany : ((codes.map Value.str).any fun x => x.pyEq (.str code)) = decide (code ∈ codes) := by
    rw [List.any_map, Bool.eq_iff_iff, List.any_eq_true, decide_eq_true_iff]
    simp [Value.pyEq]
  rw [hcodes]
  exact congrArg Except.ok hany

/-- What a replay asks for. -/
def ReasoningRun.again (run : ReasoningRun) : RunArgs where
  proofResult := some run.proofResult
  requestedAction := run.policyDecision.requestedAction
  explicitConfirmation := run.policyDecision.outcome = .allow
  source := "replay"
  runId := some run.id

theorem replay_eq (draw : ReplayDraw) (r : AuditedRun) :
    replayReasoningRecord draw (toAuditRecord r.run) =
      runReasoning draw.toRunDraw r.observations r.run.again := by
  have hran := ran_of_ok r.ok
  have hdecides := decides_evaluate (requestOf r.run.normalizedSignals r.run.stateTransitions
    r.run.proofResult r.args)
  rw [← policyOf_eq, ← hran.policy] at hdecides
  have hblob : asDict (orElse ((toAuditRecord r.run).get? "run") (.dict [])) =
      .ok [("id", .str r.run.id), ("source", .str r.run.source)] := rfl
  have hitems := dictItems_record r.run [("id", .str r.run.id), ("source", .str r.run.source)] rfl
  have hobservations := observationsOf_modelDump draw r.valid 0
  rw [← hran.raw] at hobservations
  have hproof : ProofResult.ofRow ⟨draw.proofId, draw.proofTimestamp⟩
      (entriesOf (eitherField (toAuditRecord r.run)
        [("id", .str r.run.id), ("source", .str r.run.source)] "proof_result" (.dict []))) =
      some r.run.proofResult := by
    refine ProofResult.ofRow_modelDump _ ?_
    rw [hran.proof]
    exact r.proofValid
  have hpolicy : entriesOf (eitherField (toAuditRecord r.run)
      [("id", .str r.run.id), ("source", .str r.run.source)] "policy_decision" (.dict [])) =
      r.run.policyDecision.modelDump := rfl
  have haction : requestedActionOf r.run.policyDecision.modelDump =
      .ok r.run.policyDecision.requestedAction := by
    have hfetch : r.run.policyDecision.modelDump.fetch "requested_action" =
        optionalText r.run.policyDecision.requestedAction := rfl
    unfold requestedActionOf
    rw [hfetch]
    cases r.run.policyDecision.requestedAction with
    | none => rfl
    | some action => rfl
  have hcodes : r.run.policyDecision.modelDump.get? "reason_codes" =
      some (textList r.run.policyDecision.reasonCodes) := rfl
  have hconfirmed : (decide ("CONFIRMED_SAFE_TIER_WITH_CONFIRMATION" ∈
        r.run.policyDecision.reasonCodes) ||
      decide ("confirmed_proof_safe_action_confirmation_present" ∈
        r.run.policyDecision.reasonCodes)) =
      decide (r.run.policyDecision.outcome = .allow) := by
    rw [decide_eq_false hdecides.legacy, Bool.or_false]
    exact decide_eq_decide.mpr hdecides.code
  have hid : (orElse (some (orElse (Dict.get? [("id", .str r.run.id), ("source", .str r.run.source)] "id")
      ((toAuditRecord r.run).fetch "run_id"))) (.str "")).toText = r.run.id := by
    have hget : Dict.get? [("id", .str r.run.id), ("source", .str r.run.source)] "id" =
        some (.str r.run.id) := rfl
    have hfetch : (toAuditRecord r.run).fetch "run_id" = .none := rfl
    rw [hget, hfetch]
    by_cases hempty : r.run.id = ""
    · rw [hempty]
      rfl
    · rw [orElse_str hempty, orElse_toText]
  unfold replayReasoningRecord
  rw [hblob]
  dsimp only [bind, Except.bind]
  rw [hitems]
  dsimp only
  rw [hobservations]
  dsimp only
  rw [hproof]
  dsimp only [Option.elim]
  rw [hpolicy, haction]
  dsimp only
  rw [hcodes, codeIn_textList, codeIn_textList]
  dsimp only
  rw [hconfirmed, hid, hran.raw]
  rfl

/-- A ranking asks only for how many transitions there are. -/
theorem acceptedHypothesis_same {ts ts' : List StateTransition} (h : ts'.length = ts.length)
    (signals : Dict) (status : ProofStatus) :
    acceptedHypothesis ts' signals status = acceptedHypothesis ts signals status := by
  have hempty : ts'.isEmpty = ts.isEmpty := by
    rw [Bool.eq_iff_iff, List.isEmpty_iff_length_eq_zero, List.isEmpty_iff_length_eq_zero, h]
  unfold acceptedHypothesis
  rw [hempty, h]

/-- The policy of a replay is the policy of the run. -/
theorem policyOf_again {signals : Dict} {ts ts' : List StateTransition}
    (h : List.Forall₂ SameStep ts' ts) (run : ReasoningRun) (args : RunArgs)
    (hpolicy : run.policyDecision = policyOf signals ts run.proofResult args) :
    policyOf signals ts' run.proofResult run.again = run.policyDecision := by
  have hlast : ts'.getLast?.map (·.toState) = ts.getLast?.map (·.toState) := by
    rw [← List.getLast?_map, ← List.getLast?_map,
      Reliability.map_eq_of_forall₂ (fun _ _ hsame => hsame.toState) h]
  have haction : run.policyDecision.requestedAction = actionKey args.requestedAction := by
    rw [hpolicy, policyOf_eq]
    exact (decides_evaluate _).action
  have hrequest : requestOf signals ts' run.proofResult run.again =
      { requestOf signals ts run.proofResult args with
        requestedAction := actionKey args.requestedAction
        explicitConfirmation :=
          (evaluateReasoningPolicy (requestOf signals ts run.proofResult args)).outcome = .allow } := by
    rw [← policyOf_eq, ← hpolicy, ← haction]
    unfold requestOf
    rw [acceptedHypothesis_same h.length_eq, hlast]
    rfl
  rw [policyOf_eq, hrequest, hpolicy, policyOf_eq]
  exact evaluate_again _

/-- The record of a run, replayed. -/
theorem replay_record (draw : ReplayDraw) (r : AuditedRun) :
    ∃ replayed, replayReasoningRecord draw (toAuditRecord r.run) = .ok replayed ∧
      Replays r.run replayed := by
  have hran := ran_of_ok r.ok
  obtain ⟨replayed, hreplayed⟩ := (runReasoning_ok_iff draw.toRunDraw r.observations r.run.again).mpr
    ((runReasoning_ok_iff _ _ _).mp ⟨_, r.ok⟩)
  have hagain := ran_of_ok hreplayed
  have hsignals : replayed.normalizedSignals = r.run.normalizedSignals := by
    rw [hagain.signals, hran.signals]
  have hproof : replayed.proofResult = r.run.proofResult := by
    rw [hagain.proof]
    rfl
  have hobserved : ∀ name, observed replayed.detectedEvents name =
      observed r.run.detectedEvents name := by
    intro name
    rw [Bool.eq_iff_iff, observed_iff hagain.events, observed_iff hran.events]
  have hsteps : List.Forall₂ SameStep replayed.stateTransitions r.run.stateTransitions := by
    rw [hagain.transitions, hran.transitions, hsignals]
    exact browserProxyTransitions_same hobserved _
  have haccepted := acceptedHypothesis_same hsteps.length_eq r.run.normalizedSignals
    r.run.proofResult.status
  have hpolicy : replayed.policyDecision = r.run.policyDecision := by
    rw [hagain.policy, hsignals, hproof]
    exact policyOf_again hsteps r.run r.args hran.policy
  refine ⟨replayed, (replay_eq draw r).trans hreplayed, ?_⟩
  constructor
  · rw [hagain.raw, hran.raw]
  · exact hsignals
  · exact hproof
  · exact hsteps
  · rw [hagain.path, hran.path, hagain.canonical, hran.canonical, hsignals]
    refine canonicalStatePath_same (keepFirst_same (inferLoop_same ?_ hsteps _).canonical [])
    intro name
    rw [List.any_map, List.any_map]
    exact hobserved name
  · rw [hagain.ranking, hran.ranking, hsignals, hproof]
    unfold rankHypotheses
    rw [haccepted]
  · rw [hagain.impact, hran.impact, hsignals, hproof, haccepted]
  · exact hpolicy
  · rw [hagain.limitations, hran.limitations, hsignals, hproof, hpolicy]
  · have haction : r.run.again.requestedAction = actionKey r.args.requestedAction :=
      (authority_runReasoning r.ok).action
    rw [hagain.preview, hran.preview, hpolicy, haction]
    unfold previewOf
    split
    · rfl
    · rfl
  · intro hid
    rw [hagain.id]
    exact if_neg hid

/-- Runs are appended to a log, whatever it has held; its rows are then those it has had and
one for each run, and each of these replays to what the run has said. -/
theorem replay_log (sep : Linesep) (log : JsonlFile) (runs : List AuditedRun) :
    ∃ rows, iterJsonl (runs.foldl (appendReasoningRun sep) log).file = .ok (log.rows ++ rows) ∧
      List.Forall₂ (fun r row => ∀ draw, ∃ replayed,
        replayReasoningRecord draw row = .ok replayed ∧ Replays r.run replayed) runs rows := by
  refine ⟨runs.map fun r => toAuditRecord r.run, ?_, ?_⟩
  · rw [(runs.foldl (appendReasoningRun sep) log).reads]
    refine congrArg Except.ok ?_
    induction runs generalizing log with
    | nil => simp
    | cons r runs ih =>
      rw [List.foldl_cons, ih, List.map_cons]
      exact List.append_assoc _ _ _
  · induction runs with
    | nil => exact .nil
    | cons r runs ih => exact .cons (fun draw => replay_record draw r) ih

/-- A run on the two observations of a proxy failure, logged twice. -/
theorem replay_log_proxyFailure : ∃ r : AuditedRun, r.observations = proxyFailure ∧
    ∃ rows, iterJsonl ([r, r].foldl (appendReasoningRun .lf) .absent).file = .ok rows ∧
      List.Forall₂ (fun r row => ∀ draw, ∃ replayed,
        replayReasoningRecord draw row = .ok replayed ∧ Replays r.run replayed) [r, r] rows := by
  obtain ⟨run, hrun⟩ := proxyFailure_ends proxyFailureDraw restoreConfirmed
  have hvalid : ∀ o ∈ proxyFailure, o.Valid := by
    intro o ho
    obtain rfl | rfl : o = proxyFailure[0] ∨ o = proxyFailure[1] := by
      simpa [proxyFailure] using ho
    · exact ⟨trivial, trivial, by decide +kernel⟩
    · exact ⟨trivial, trivial, by decide +kernel⟩
  have hproof : (restoreConfirmed.proof proxyFailureDraw).Valid := by
    unfold ProofResult.Valid
    decide +kernel
  let r : AuditedRun := ⟨proxyFailureDraw, proxyFailure, restoreConfirmed, run, hrun, hvalid, hproof⟩
  exact ⟨r, rfl, replay_log .lf .absent [r, r]⟩

end Reasoning
