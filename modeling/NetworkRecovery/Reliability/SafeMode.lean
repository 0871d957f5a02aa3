import NetworkRecovery.Reliability.Decision

/-!
# Safe mode

`platform_core/reliability/policy_config.py`, the reading of a policy and the flag
`safe_mode`. The flag adds a code to the reasons and changes no outcome
(`evaluatePlatformPolicy_safeMode`): what is allowed without a proof or without a
confirmation is what the rules and the default outcome let through
(`allow_confirmed_iff`).
-/

namespace Reliability

open Python

/-! ## Reading a policy -/

/-- `PolicyConfig._parse_minimal_yaml`. -/
def PolicyConfig.parseMinimalYaml (text : String) : PolicyConfig :=
  let cfg := PolicyConfig.productionDefaults
  let cfg := if contains "safe_mode: false".toList (lower text.toList) then
      { cfg with safeMode := false }
    else cfg
  if contains "default_outcome: \"ALLOW\"".toList text.toList ||
      contains "default_outcome: ALLOW".toList text.toList then
    { cfg with defaultOutcome := .allow }
  else cfg

/-- `PolicyConfig.from_yaml_path`: without a text where there is no file, or none that
can be read. -/
def PolicyConfig.fromYamlPath (text : Option String) : PolicyConfig :=
  text.elim PolicyConfig.productionDefaults PolicyConfig.parseMinimalYaml

/-- The text asks for `ALLOW` where no rule decides. -/
def AsksAllow (text : String) : Prop :=
  contains "default_outcome: \"ALLOW\"".toList text.toList ∨
    contains "default_outcome: ALLOW".toList text.toList

/-- A text changes the flag and the default, never the rules. -/
theorem parseMinimalYaml_rules (text : String) :
    (PolicyConfig.parseMinimalYaml text).rules = PolicyConfig.productionDefaults.rules := by
  unfold PolicyConfig.parseMinimalYaml
  dsimp only
  split <;> split <;> rfl

theorem parseMinimalYaml_defaultOutcome (text : String) :
    (PolicyConfig.parseMinimalYaml text).defaultOutcome = .allow ↔ AsksAllow text := by
  unfold PolicyConfig.parseMinimalYaml AsksAllow
  rw [← Bool.or_eq_true]
  dsimp only
  split
  next hasks => exact iff_of_true rfl hasks
  next hasks =>
    refine iff_of_false ?_ hasks
    split <;> exact nofun

/-! ## The rule that decides -/

/-- The rule may allow at this confidence. -/
def PolicyRule.applies (conf : ℚ) (rule : PolicyRule) : Bool :=
  rule.outcome = .allow ∧ rule.minConfidence ≤ conf

/-- What a rule that applies says of a request: nothing, where it asks for a proof that
is not there. -/
def PolicyRule.verdict (request : PolicyRequest) (rule : PolicyRule) : Option PolicyOutcome :=
  if rule.requiresProofTier && !request.hasProofTier then none
  else if rule.requiresProofTier && !request.explicitConfirmation then some .preview
  else some .allow

/-- The first rule with a verdict decides. -/
theorem allowRules_fst (conf : ℚ) (request : PolicyRequest) (rules : List PolicyRule) :
    ∀ codes, (allowRules conf request rules codes).1 =
      (rules.filter (·.applies conf)).findSome? (·.verdict request) := by
  induction rules with
  | nil => exact fun codes => rfl
  | cons rule rules ih =>
    intro codes
    rw [allowRules]
    by_cases happlies : rule.outcome = .allow ∧ rule.minConfidence ≤ conf
    · have hfilter : (rule :: rules).filter (·.applies conf) =
          rule :: rules.filter (·.applies conf) :=
        List.filter_cons_of_pos (by simpa [PolicyRule.applies] using happlies)
      rw [if_pos happlies, hfilter, List.findSome?_cons, PolicyRule.verdict]
      split
      · exact ih _
      · split <;> rfl
    · have hfilter : (rule :: rules).filter (·.applies conf) = rules.filter (·.applies conf) :=
        List.filter_cons_of_neg (by simpa [PolicyRule.applies] using happlies)
      rw [if_neg happlies, hfilter]
      exact ih codes

/-- The confidence of a hypothesis, where there is one. -/
def confidenceOf (hypothesis : Option RankedHypothesis) : ℚ :=
  (hypothesis.map RankedHypothesis.confidence).getD 0

/-- Malware is suspected and not proved. -/
def SuspectsMalware (hypothesis : Option RankedHypothesis) (request : PolicyRequest) : Prop :=
  hypothesis.any (·.category = .potentialMalware) ∧ request.hasProofTier = false

/-- No rule blocks what is requested. -/
def Unblocked (cfg : PolicyConfig) (request : PolicyRequest) : Prop :=
  ∀ action, request.requestedAction = some action → action ≠ "" →
    ∀ rule ∈ cfg.rules, action ∉ rule.blockedActions

theorem blockingRule_eq_none {cfg : PolicyConfig} {request : PolicyRequest} :
    blockingRule cfg request.requestedAction = none ↔ Unblocked cfg request := by
  unfold blockingRule Unblocked
  cases request.requestedAction with
  | none => exact iff_of_true rfl nofun
  | some action =>
    by_cases hempty : action = ""
    · subst hempty
      exact iff_of_true rfl fun _ h hne => absurd (Option.some.inj h).symm hne
    · have hisEmpty : action.isEmpty = false := by simpa using hempty
      simp only [hisEmpty, Bool.false_eq_true, if_false, List.find?_eq_none, decide_eq_true_eq,
        Option.some.injEq, forall_eq', ne_eq, hempty, not_false_eq_true, true_imp_iff]

/-- What is allowed: by the first rule with a verdict, or by the default where there is
none and the confidence is not a reason to wait for a proof. -/
theorem evaluatePlatformPolicy_allow (hypothesis : Option RankedHypothesis) (cfg : PolicyConfig)
    (request : PolicyRequest) :
    (evaluatePlatformPolicy hypothesis (some cfg) request).1 = .allow ↔
      Unblocked cfg request ∧ ¬ SuspectsMalware hypothesis request ∧
      ((cfg.rules.filter (·.applies (confidenceOf hypothesis))).findSome? (·.verdict request) =
          some .allow ∨
        (cfg.rules.filter (·.applies (confidenceOf hypothesis))).findSome? (·.verdict request) =
            none ∧
          ¬ (70 / 100 ≤ confidenceOf hypothesis ∧ request.hasProofTier = false) ∧
          cfg.defaultOutcome = .allow) := by
  rw [← blockingRule_eq_none, SuspectsMalware]
  unfold evaluatePlatformPolicy
  dsimp only [Option.getD_some]
  cases blockingRule cfg request.requestedAction with
  | some rule => simp
  | none =>
    dsimp only
    by_cases hmalware : (hypothesis.any (·.category = .potentialMalware) && !request.hasProofTier) = true
    · rw [if_pos hmalware]
      simp only [Bool.and_eq_true, Bool.not_eq_true'] at hmalware
      simp [hmalware]
    · rw [if_neg hmalware]
      simp only [Bool.and_eq_true, Bool.not_eq_true'] at hmalware
      rw [← allowRules_fst (confidenceOf hypothesis) request cfg.rules
        (if cfg.safeMode = true then ["safe_mode_default_preview"] else [])]
      unfold confidenceOf
      generalize allowRules _ request cfg.rules _ = allowed
      obtain ⟨outcome, codes⟩ := allowed
      cases outcome with
      | some outcome => simp [hmalware]
      | none =>
        dsimp only
        by_cases hwaits : 70 / 100 ≤ (hypothesis.map RankedHypothesis.confidence).getD 0 ∧
            request.hasProofTier = false
        · simp [hwaits]
        · simp [hwaits, hmalware]

/-! ## What is let through -/

/-- A request that is not proved is let through, at this confidence: by a rule that asks
for no proof, or by the default. -/
def LetsUnproved (cfg : PolicyConfig) (conf : ℚ) : Prop :=
  (∃ rule ∈ cfg.rules, rule.applies conf ∧ rule.requiresProofTier = false) ∨
    conf < 70 / 100 ∧ cfg.defaultOutcome = .allow

/-- A request that is proved and not confirmed is let through: by the first rule that
applies, or by the default where none does. -/
def LetsUnconfirmed (cfg : PolicyConfig) (conf : ℚ) : Prop :=
  match cfg.rules.find? (·.applies conf) with
  | some rule => rule.requiresProofTier = false
  | none => cfg.defaultOutcome = .allow

/-- The request is let through without a proof or without a confirmation. -/
def LetsThrough (cfg : PolicyConfig) (hypothesis : Option RankedHypothesis)
    (request : PolicyRequest) : Prop :=
  Unblocked cfg request ∧
    (request.hasProofTier = false ∧ ¬ SuspectsMalware hypothesis request ∧
        LetsUnproved cfg (confidenceOf hypothesis) ∨
      request.hasProofTier = true ∧ request.explicitConfirmation = false ∧
        LetsUnconfirmed cfg (confidenceOf hypothesis))

theorem verdict_unproved {request : PolicyRequest} (h : request.hasProofTier = false)
    (rule : PolicyRule) :
    rule.verdict request = if rule.requiresProofTier then none else some .allow := by
  unfold PolicyRule.verdict
  cases rule.requiresProofTier <;> simp [h]

theorem verdict_unconfirmed {request : PolicyRequest} (hproof : request.hasProofTier = true)
    (h : request.explicitConfirmation = false) (rule : PolicyRule) :
    rule.verdict request = some (if rule.requiresProofTier then .preview else .allow) := by
  unfold PolicyRule.verdict
  cases rule.requiresProofTier <;> simp [hproof, h]

theorem verdicts_unproved {request : PolicyRequest} (h : request.hasProofTier = false)
    (rules : List PolicyRule) :
    rules.findSome? (·.verdict request) =
      if ∃ rule ∈ rules, rule.requiresProofTier = false then some .allow else none := by
  induction rules with
  | nil => rfl
  | cons rule rules ih =>
    rw [List.findSome?_cons, verdict_unproved h, ih]
    cases hproof : rule.requiresProofTier <;> simp [hproof]

theorem verdicts_unconfirmed {request : PolicyRequest} (hproof : request.hasProofTier = true)
    (h : request.explicitConfirmation = false) (rules : List PolicyRule) :
    rules.findSome? (·.verdict request) =
      rules.head?.map fun rule => if rule.requiresProofTier then .preview else .allow := by
  cases rules with
  | nil => rfl
  | cons rule rules =>
    rw [List.findSome?_cons, verdict_unconfirmed hproof h]
    rfl

/-- What is allowed without a proof. -/
theorem allow_unproved {hypothesis : Option RankedHypothesis} {cfg : PolicyConfig}
    {request : PolicyRequest} (h : request.hasProofTier = false) :
    (evaluatePlatformPolicy hypothesis (some cfg) request).1 = .allow ↔
      Unblocked cfg request ∧ ¬ SuspectsMalware hypothesis request ∧
        LetsUnproved cfg (confidenceOf hypothesis) := by
  rw [evaluatePlatformPolicy_allow, verdicts_unproved h]
  refine and_congr_right fun _ => and_congr_right fun _ => ?_
  have hrules : (∃ rule ∈ cfg.rules.filter (·.applies (confidenceOf hypothesis)),
      rule.requiresProofTier = false) ↔
      ∃ rule ∈ cfg.rules, rule.applies (confidenceOf hypothesis) ∧
        rule.requiresProofTier = false := by
    simp only [List.mem_filter, and_assoc]
  simp only [hrules, h, and_true, not_le, LetsUnproved]
  split
  next hrule => exact iff_of_true (.inl rfl) (.inl hrule)
  next hrule => simp only [reduceCtorEq, false_or, true_and, hrule]

/-- What is allowed with a proof and without a confirmation. -/
theorem allow_unconfirmed {hypothesis : Option RankedHypothesis} {cfg : PolicyConfig}
    {request : PolicyRequest} (hproof : request.hasProofTier = true)
    (h : request.explicitConfirmation = false) :
    (evaluatePlatformPolicy hypothesis (some cfg) request).1 = .allow ↔
      Unblocked cfg request ∧ LetsUnconfirmed cfg (confidenceOf hypothesis) := by
  have hmalware : ¬ SuspectsMalware hypothesis request := by
    rintro ⟨-, hunproved⟩
    rw [hproof] at hunproved
    cases hunproved
  rw [evaluatePlatformPolicy_allow, verdicts_unconfirmed hproof h, List.head?_filter]
  refine and_congr_right fun _ => ?_
  unfold LetsUnconfirmed
  cases cfg.rules.find? (·.applies (confidenceOf hypothesis)) with
  | none => simp [hmalware, hproof]
  | some rule => cases hrule : rule.requiresProofTier <;> simp [hmalware, hrule]

/-! ## What the flag does -/

/-- The flag adds a code to the reasons: whatever it says, the outcome is the same. -/
theorem evaluatePlatformPolicy_safeMode (hypothesis : Option RankedHypothesis)
    (cfg : PolicyConfig) (safeMode : Bool) (request : PolicyRequest) :
    (evaluatePlatformPolicy hypothesis (some { cfg with safeMode := safeMode }) request).1 =
      (evaluatePlatformPolicy hypothesis (some cfg) request).1 := by
  have hrules : ∀ conf codes codes', (allowRules conf request cfg.rules codes).1 =
      (allowRules conf request cfg.rules codes').1 := by
    intro conf codes codes'
    rw [allowRules_fst, allowRules_fst]
  have hblocking : blockingRule { cfg with safeMode := safeMode } request.requestedAction =
      blockingRule cfg request.requestedAction := rfl
  unfold evaluatePlatformPolicy
  dsimp only [Option.getD_some]
  rw [hblocking]
  cases blockingRule cfg request.requestedAction with
  | some rule => rfl
  | none =>
    dsimp only
    split
    · rfl
    · specialize hrules ((hypothesis.map RankedHypothesis.confidence).getD 0)
        (if safeMode = true then ["safe_mode_default_preview"] else [])
        (if cfg.safeMode = true then ["safe_mode_default_preview"] else [])
      revert hrules
      generalize allowRules _ request cfg.rules (if safeMode = true then _ else _) = allowed
      generalize allowRules _ request cfg.rules (if cfg.safeMode = true then _ else _) = allowed'
      obtain ⟨outcome, codes⟩ := allowed
      obtain ⟨outcome', codes'⟩ := allowed'
      rintro rfl
      cases outcome with
      | some outcome => rfl
      | none =>
        dsimp only
        split <;> rfl

/-- What is allowed is proved and confirmed, unless the policy lets the request through
without: in safe mode as elsewhere. -/
theorem allow_confirmed_iff (hypothesis : Option RankedHypothesis) (cfg : PolicyConfig)
    (request : PolicyRequest) :
    ((evaluatePlatformPolicy hypothesis (some cfg) request).1 = .allow →
      request.hasProofTier = true ∧ request.explicitConfirmation = true) ↔
    ¬ LetsThrough cfg hypothesis request := by
  unfold LetsThrough
  cases hproof : request.hasProofTier with
  | false => rw [allow_unproved hproof]; simp
  | true =>
    cases hconfirmed : request.explicitConfirmation with
    | false => rw [allow_unconfirmed hproof hconfirmed]; simp
    | true => simp

/-- The text asks for `ALLOW` by default, and nothing is known of the endpoint. -/
theorem default_allow_in_safe_mode :
    (PolicyConfig.parseMinimalYaml "default_outcome: ALLOW").safeMode = true ∧
      evaluatePlatformPolicy none (some (PolicyConfig.parseMinimalYaml "default_outcome: ALLOW"))
        {} = (.allow, ["safe_mode_default_preview"]) := by
  decide +kernel

/-! ## Policies that hold back -/

theorem not_letsUnproved {cfg : PolicyConfig} {conf : ℚ}
    (hdefault : cfg.defaultOutcome ≠ .allow)
    (hrules : ∀ rule ∈ cfg.rules, rule.applies conf → rule.requiresProofTier = true) :
    ¬ LetsUnproved cfg conf := by
  rintro (⟨rule, hmem, happlies, hopen⟩ | ⟨-, hallow⟩)
  · rw [hrules rule hmem happlies] at hopen
    cases hopen
  · exact hdefault hallow

theorem not_letsUnconfirmed {cfg : PolicyConfig} {conf : ℚ}
    (hdefault : cfg.defaultOutcome ≠ .allow)
    (hrules : ∀ rule ∈ cfg.rules, rule.applies conf → rule.requiresProofTier = true) :
    ¬ LetsUnconfirmed cfg conf := by
  unfold LetsUnconfirmed
  split
  next rule hfind =>
    rw [hrules rule (List.mem_of_find?_eq_some hfind) (List.find?_some hfind)]
    exact nofun
  next => exact hdefault

theorem unblocked_of_none (cfg : PolicyConfig) : Unblocked cfg {} := nofun

/-- A confidence is between 0 and 1. -/
def Confident (hypothesis : Option RankedHypothesis) : Prop :=
  ∀ h ∈ hypothesis, 0 ≤ h.confidence ∧ h.confidence ≤ 1

/-- The policy allows nothing without a proof and a confirmation. -/
def PolicyConfig.HoldsBack (cfg : PolicyConfig) : Prop :=
  ∀ hypothesis request, Confident hypothesis →
    (evaluatePlatformPolicy hypothesis (some cfg) request).1 = .allow →
      request.hasProofTier = true ∧ request.explicitConfirmation = true

/-- Each rule that allows, and that a hypothesis can reach, asks for a proof. -/
def PolicyConfig.AsksProof (cfg : PolicyConfig) : Prop :=
  ∀ rule ∈ cfg.rules, rule.outcome = .allow → rule.minConfidence ≤ 1 →
    rule.requiresProofTier = true

theorem PolicyConfig.AsksProof.of_applies {cfg : PolicyConfig} (h : cfg.AsksProof)
    {hypothesis : Option RankedHypothesis} (hconf : Confident hypothesis) :
    ∀ rule ∈ cfg.rules, rule.applies (confidenceOf hypothesis) →
      rule.requiresProofTier = true := by
  have hreach : confidenceOf hypothesis ≤ 1 := by
    cases hypothesis with
    | none => exact zero_le_one
    | some h => exact (hconf h rfl).2
  intro rule hmem happlies
  obtain ⟨houtcome, hmin⟩ := of_decide_eq_true happlies
  exact h rule hmem houtcome (hmin.trans hreach)

/-- A policy that holds back lets nothing through that nobody asks a proof of. -/
theorem PolicyConfig.HoldsBack.not_letsUnproved {cfg : PolicyConfig} (h : cfg.HoldsBack)
    {hypothesis : Option RankedHypothesis} (hconf : Confident hypothesis)
    (hmalware : ¬ SuspectsMalware hypothesis {}) :
    ¬ LetsUnproved cfg (confidenceOf hypothesis) := by
  intro hlets
  have hallow := (allow_unproved rfl).mpr ⟨unblocked_of_none cfg, hmalware, hlets⟩
  exact nomatch (h hypothesis {} hconf hallow).1

/-- A hypothesis that reaches every rule. -/
def sureHypothesis : RankedHypothesis where
  hypothesisId := ""
  category := .unknown
  label := ""
  confidence := 1
  supportingSignals := []

theorem confident_sureHypothesis : Confident (some sureHypothesis) := by
  rintro _ ⟨⟩
  exact ⟨zero_le_one, le_rfl⟩

/-- A policy holds back if its default is not `ALLOW` and its rules ask for proofs. -/
theorem PolicyConfig.holdsBack_iff (cfg : PolicyConfig) :
    cfg.HoldsBack ↔ cfg.defaultOutcome ≠ .allow ∧ cfg.AsksProof := by
  constructor
  · intro h
    constructor
    · intro hdefault
      have hnothing : Confident none := nofun
      exact h.not_letsUnproved hnothing nofun (.inr ⟨by decide +kernel, hdefault⟩)
    · intro rule hmem houtcome hmin
      by_contra hopen
      refine h.not_letsUnproved confident_sureHypothesis nofun (.inl ⟨rule, hmem, ?_, ?_⟩)
      · exact decide_eq_true ⟨houtcome, hmin⟩
      · simpa using hopen
  · rintro ⟨hdefault, hrules⟩ hypothesis request hconf hallow
    have happlies := hrules.of_applies hconf
    cases hproof : request.hasProofTier with
    | false =>
      exact absurd ((allow_unproved hproof).mp hallow).2.2
        (not_letsUnproved hdefault happlies)
    | true =>
      cases hconfirmed : request.explicitConfirmation with
      | false =>
        exact absurd ((allow_unconfirmed hproof hconfirmed).mp hallow).2
          (not_letsUnconfirmed hdefault happlies)
      | true => exact ⟨rfl, rfl⟩

/-- A policy that is read from a text holds back unless the text asks for `ALLOW`. -/
theorem parseMinimalYaml_holdsBack_iff (text : String) :
    (PolicyConfig.parseMinimalYaml text).HoldsBack ↔ ¬ AsksAllow text := by
  have hrules : PolicyConfig.productionDefaults.AsksProof := by
    unfold PolicyConfig.AsksProof
    decide +kernel
  rw [PolicyConfig.holdsBack_iff, PolicyConfig.AsksProof, parseMinimalYaml_rules, ne_eq,
    parseMinimalYaml_defaultOutcome]
  exact and_iff_left hrules

end Reliability
