import NetworkRecovery.Python.Rounding

/-!
# Risk scores

`score_risk` of `risk_scoring_engine.py`: five weighted terms make a likelihood, which is capped at
one, taken times an impact and rounded to one place. The score is promised to lie in [0, 100]. Only the
cap from above is there: a control that passed takes 0.15 off, and a first observation of a quiet class
with no better proof than an observation adds less than that. Exactly then the score falls below zero
(`score_range_iff`).

The weights are taken as the decimals that the code writes, without the rounding of binary floats.
-/

namespace RiskScoring

open Python

/-! ## Tables -/

/-- `GOVERNANCE_LIMITATIONS`. -/
def governanceLimitations : List String :=
  ["Risk score is ordinal governance input, not a statistical probability.",
    "Correlation and listener attribution do not prove registry writer identity without T4 proof.",
    "Classification is not accusation — this is not malware or EDR verdicting.",
    "Policy permission is not a safety guarantee; human review may still be required."]

inductive ProofLevel where
  | t0Observation
  | t1Correlation
  | t2Supported
  | t3Strong
  | t4WriterProof
  | notRun
  | unknown
  deriving DecidableEq

def ProofLevel.value : ProofLevel → String
  | .t0Observation => "T0"
  | .t1Correlation => "T1"
  | .t2Supported => "T2"
  | .t3Strong => "T3"
  | .t4WriterProof => "T4"
  | .notRun => "NOT_RUN"
  | .unknown => "UNKNOWN"

inductive ControlAggregate where
  | passed
  | failed
  | partly
  | notTested
  deriving DecidableEq

def ControlAggregate.value : ControlAggregate → String
  | .passed => "PASS"
  | .failed => "FAIL"
  | .partly => "PARTIAL"
  | .notTested => "NOT_TESTED"

/-- `_PROOF_WEIGHT`. -/
def proofWeight : ProofLevel → ℚ
  | .t0Observation => 15 / 100
  | .t1Correlation => 35 / 100
  | .t2Supported => 55 / 100
  | .t3Strong => 75 / 100
  | .t4WriterProof => 9 / 10
  | .notRun => 1 / 10
  | .unknown => 2 / 10

/-- `_IMPACT_SCORE`. -/
def impactScores : List (String × ℚ) :=
  [("low", 1), ("medium", 5 / 2), ("high", 4), ("critical", 5)]

/-- `_HIGH_CLASSES`. -/
def highClasses : List String :=
  ["REVERTER_SUSPECTED", "PROXY_FLAPPING", "POSSIBLE_MITM_RISK", "BOTH_DIRECT_AND_PROXY_FAIL",
    "DEAD_PROXY_CONFIG"]

/-- `_MEDIUM_CLASSES`. -/
def mediumClasses : List String :=
  ["LOCAL_PROXY_ACTIVE", "UNKNOWN_LOCAL_PROXY", "WININET_WINHTTP_MISMATCH", "DIRECT_ONLY_WORKS",
    "STALE_PROXY_AFTER_PROCESS_EXIT"]

/-- The classes of the lowest base. -/
def quietClasses : List String := ["NO_PROXY", "BOTH_DIRECT_AND_PROXY_WORK", "PROXY_ONLY_WORKS"]

/-- `_CONTROL_MODIFIER`, with its default. -/
def controlModifier (result : String) : ℚ :=
  if result = ControlAggregate.passed.value then -(15 / 100)
  else if result = ControlAggregate.partly.value then 5 / 100
  else if result = ControlAggregate.failed.value then 25 / 100
  else 1 / 10

/-- `_class_likelihood_base`. -/
def classLikelihoodBase (incidentClass : String) : ℚ :=
  if incidentClass ∈ highClasses then 75 / 100
  else if incidentClass ∈ mediumClasses then 5 / 10
  else if incidentClass ∈ quietClasses then 2 / 10
  else 35 / 100

/-- `_normalize_proof_level`. -/
def normalizeProofLevel (proofLevel : String) : ProofLevel :=
  let raw := upper (if proofLevel = "" then ProofLevel.unknown.value else proofLevel).toList
  if "T4".toList.isPrefixOf raw then .t4WriterProof
  else if "T3".toList.isPrefixOf raw then .t3Strong
  else if "T2".toList.isPrefixOf raw then .t2Supported
  else if "T1".toList.isPrefixOf raw then .t1Correlation
  else if "T0".toList.isPrefixOf raw then .t0Observation
  else ([ProofLevel.notRun, .unknown].find? fun p => p.value.toList = raw).getD .unknown

/-- `(business_impact or "medium").lower()`. -/
def impactKey (businessImpact : String) : String :=
  .ofList (lower (if businessImpact = "" then "medium" else businessImpact).toList)

def impactScore (businessImpact : String) : ℚ :=
  (impactScores.lookup (impactKey businessImpact)).getD (5 / 2)

/-! ## Inputs -/

/-- `max(0.0, min(1.0, x))`, of the decimal itself; what is not a number stays at one. -/
def clampUnit : FloatVal → ℚ
  | .finite d => max 0 (min 1 d.value)
  | .inf neg => if neg then 0 else 1
  | .nan => 1

theorem clampUnit_nonneg (x : FloatVal) : 0 ≤ clampUnit x := by
  cases x with
  | finite d => exact le_max_left _ _
  | inf neg => cases neg <;> simp [clampUnit]
  | nan => exact zero_le_one

theorem clampUnit_le_one (x : FloatVal) : clampUnit x ≤ 1 := by
  cases x with
  | finite d => exact max_le zero_le_one (min_le_left _ _)
  | inf neg => cases neg <;> simp [clampUnit]
  | nan => exact le_refl 1

/-- `RiskScoringInput`, with the evidence quality in its range. -/
structure RiskScoringInput where
  incidentClass : String
  evidenceQuality : ℚ
  proofLevel : String
  businessImpact : String
  recurrenceCount : Nat
  controlTestResult : String
  quality_nonneg : 0 ≤ evidenceQuality
  quality_le_one : evidenceQuality ≤ 1

/-- The input that `__post_init__` makes. -/
def RiskScoringInput.ofFields (incidentClass : String) (evidenceQuality : FloatVal)
    (proofLevel businessImpact : String) (recurrenceCount : Int) (controlTestResult : String) :
    RiskScoringInput where
  incidentClass := incidentClass
  evidenceQuality := clampUnit evidenceQuality
  proofLevel := proofLevel
  businessImpact := businessImpact
  recurrenceCount := recurrenceCount.toNat
  controlTestResult := controlTestResult
  quality_nonneg := clampUnit_nonneg evidenceQuality
  quality_le_one := clampUnit_le_one evidenceQuality

/-! ## The score -/

inductive RiskLevel where
  | low
  | medium
  | high
  deriving DecidableEq

def RiskLevel.value : RiskLevel → String
  | .low => "LOW"
  | .medium => "MEDIUM"
  | .high => "HIGH"

structure RiskScoringResult where
  likelihood : String
  impact : String
  riskScore : ℚ
  riskLevel : RiskLevel
  explanation : String
  limitations : List String
  incidentClass : String
  humanReviewRecommended : Bool

/-- `_score_to_level`. -/
def scoreToLevel (score : ℚ) : RiskLevel :=
  if score ≥ 70 then .high else if score ≥ 40 then .medium else .low

/-- `_likelihood_label`. -/
def likelihoodLabel (score : ℚ) : String :=
  if score ≥ 7 / 10 then "high" else if score ≥ 4 / 10 then "medium" else "low"

/-- `min(0.2, recurrence_count * 0.05)`. -/
def recurrenceBoost (recurrenceCount : Nat) : ℚ := min (2 / 10) (recurrenceCount * (5 / 100))

/-- The terms of the likelihood but for the controls. -/
def evidenceSum (inputs : RiskScoringInput) : ℚ :=
  classLikelihoodBase inputs.incidentClass * (45 / 100) +
    inputs.evidenceQuality * (25 / 100) +
    proofWeight (normalizeProofLevel inputs.proofLevel) * (2 / 10) +
    recurrenceBoost inputs.recurrenceCount

/-- `likelihood_raw`. -/
def likelihoodRaw (inputs : RiskScoringInput) : ℚ :=
  min 1 (evidenceSum inputs + controlModifier inputs.controlTestResult)

/-- `round(x, 1)`. -/
def roundTenth (x : ℚ) : ℚ := roundEven (x * 10) / 10

/-- `risk_score`. -/
def riskScore (inputs : RiskScoringInput) : ℚ :=
  roundTenth (min 100 (likelihoodRaw inputs * impactScore inputs.businessImpact * 20))

/-- A number with so many places. -/
def placesText (places : Nat) (x : ℚ) : String :=
  let scaled := roundEven (x * 10 ^ places)
  let fraction := natText (scaled.natAbs % 10 ^ places)
  (if scaled < 0 then "-" else "") ++ .ofList (natText (scaled.natAbs / 10 ^ places)) ++ "." ++
    .ofList (List.replicate (places - fraction.length) '0' ++ fraction)

def limitationsOf (inputs : RiskScoringInput) : List String :=
  governanceLimitations ++
  (if normalizeProofLevel inputs.proofLevel ∈
      [ProofLevel.t0Observation, .t1Correlation, .unknown] then
    ["Proof tier is observation or correlation — escalate only with additional validation."]
  else []) ++
  (if inputs.controlTestResult = ControlAggregate.notTested.value then
    ["One or more controls were NOT_TESTED; residual risk may be understated."] else []) ++
  (if inputs.recurrenceCount ≥ 3 then
    ["Recurrence pattern observed — review change management and writer attribution."] else [])

/-- `score_risk`. -/
def scoreRisk (inputs : RiskScoringInput) : RiskScoringResult :=
  let proofKey := normalizeProofLevel inputs.proofLevel
  let riskLevel := scoreToLevel (riskScore inputs)
  let likelihood := likelihoodLabel (likelihoodRaw inputs)
  let key := impactKey inputs.businessImpact
  let impact := if key ∈ impactScores.map Prod.fst then key else "medium"
  { likelihood
    impact
    riskScore := riskScore inputs
    riskLevel
    explanation := "Incident class " ++ inputs.incidentClass ++ " with " ++ likelihood ++
      " likelihood and " ++ impact ++ " impact (evidence_quality=" ++
      placesText 2 inputs.evidenceQuality ++ ", proof=" ++ proofKey.value ++ ", controls=" ++
      inputs.controlTestResult ++ ", recurrence=" ++ .ofList (natText inputs.recurrenceCount) ++
      ") yields risk_score=" ++ placesText 1 (riskScore inputs) ++ " (" ++ riskLevel.value ++ ")."
    limitations := limitationsOf inputs
    incidentClass := inputs.incidentClass
    humanReviewRecommended :=
      riskLevel = .high || inputs.controlTestResult = ControlAggregate.failed.value }

/-! ## The terms -/

theorem proofWeight_mem (level : ProofLevel) :
    1 / 10 ≤ proofWeight level ∧ proofWeight level ≤ 9 / 10 := by
  cases level <;> constructor <;> norm_num [proofWeight]

/-- There are four bases. -/
theorem classLikelihoodBase_cases (incidentClass : String) :
    classLikelihoodBase incidentClass = 75 / 100 ∨ classLikelihoodBase incidentClass = 5 / 10 ∨
      (incidentClass ∈ quietClasses ∧ classLikelihoodBase incidentClass = 2 / 10) ∨
        classLikelihoodBase incidentClass = 35 / 100 := by
  unfold classLikelihoodBase
  by_cases hhigh : incidentClass ∈ highClasses
  · exact .inl (if_pos hhigh)
  · rw [if_neg hhigh]
    by_cases hmedium : incidentClass ∈ mediumClasses
    · exact .inr (.inl (if_pos hmedium))
    · rw [if_neg hmedium]
      by_cases hquiet : incidentClass ∈ quietClasses
      · exact .inr (.inr (.inl ⟨hquiet, if_pos hquiet⟩))
      · exact .inr (.inr (.inr (if_neg hquiet)))

theorem classLikelihoodBase_mem (incidentClass : String) :
    2 / 10 ≤ classLikelihoodBase incidentClass ∧ classLikelihoodBase incidentClass ≤ 75 / 100 := by
  rcases classLikelihoodBase_cases incidentClass with h | h | ⟨-, h⟩ | h <;> rw [h] <;> norm_num

/-- Only the quiet classes have the lowest base. -/
theorem classLikelihoodBase_loud {incidentClass : String} (h : incidentClass ∉ quietClasses) :
    35 / 100 ≤ classLikelihoodBase incidentClass := by
  rcases classLikelihoodBase_cases incidentClass with hbase | hbase | ⟨hquiet, -⟩ | hbase
  · norm_num [hbase]
  · norm_num [hbase]
  · exact absurd hquiet h
  · exact hbase.ge

theorem classLikelihoodBase_quiet {incidentClass : String} (h : incidentClass ∈ quietClasses) :
    classLikelihoodBase incidentClass = 2 / 10 := by
  have hclasses : ∀ c ∈ quietClasses, c ∉ highClasses ∧ c ∉ mediumClasses := by decide
  obtain ⟨hhigh, hmedium⟩ := hclasses incidentClass h
  unfold classLikelihoodBase
  rw [if_neg hhigh, if_neg hmedium, if_pos h]

theorem recurrenceBoost_mem (recurrenceCount : Nat) :
    0 ≤ recurrenceBoost recurrenceCount ∧ recurrenceBoost recurrenceCount ≤ 2 / 10 := by
  refine ⟨le_min (by norm_num) ?_, min_le_left _ _⟩
  exact mul_nonneg (Nat.cast_nonneg recurrenceCount) (by norm_num)

theorem recurrenceBoost_mono {count count' : Nat} (h : count ≤ count') :
    recurrenceBoost count ≤ recurrenceBoost count' := by
  have hcast : (count : ℚ) ≤ count' := by exact_mod_cast h
  unfold recurrenceBoost
  gcongr

theorem controlModifier_pass : controlModifier ControlAggregate.passed.value = -(15 / 100) := rfl

/-- A control that has not passed adds to the likelihood. -/
theorem controlModifier_pos {result : String} (h : result ≠ ControlAggregate.passed.value) :
    5 / 100 ≤ controlModifier result := by
  unfold controlModifier
  rw [if_neg h]
  by_cases hpartly : result = ControlAggregate.partly.value
  · rw [if_pos hpartly]
  · rw [if_neg hpartly]
    by_cases hfailed : result = ControlAggregate.failed.value
    · rw [if_pos hfailed]
      norm_num
    · rw [if_neg hfailed]
      norm_num

/-- There are four impacts. -/
theorem impactScore_cases (businessImpact : String) :
    impactScore businessImpact = 1 ∨ impactScore businessImpact = 5 / 2 ∨
      impactScore businessImpact = 4 ∨ impactScore businessImpact = 5 := by
  unfold impactScore
  cases hfound : impactScores.lookup (impactKey businessImpact) with
  | none => exact .inr (.inl rfl)
  | some score =>
    obtain ⟨front, back, hsplit, -⟩ := List.lookup_eq_some_iff.mp hfound
    have hmem : (impactKey businessImpact, score) ∈ impactScores := by
      rw [hsplit]
      exact List.mem_append_right front List.mem_cons_self
    simp only [impactScores, List.mem_cons, Prod.mk.injEq, List.not_mem_nil, or_false] at hmem
    rw [Option.getD_some]
    rcases hmem with ⟨-, h⟩ | ⟨-, h⟩ | ⟨-, h⟩ | ⟨-, h⟩
    · exact .inl h
    · exact .inr (.inl h)
    · exact .inr (.inr (.inl h))
    · exact .inr (.inr (.inr h))

theorem impactScore_mem (businessImpact : String) :
    1 ≤ impactScore businessImpact ∧ impactScore businessImpact ≤ 5 := by
  rcases impactScore_cases businessImpact with h | h | h | h <;> rw [h] <;> norm_num

/-! ## The range -/

theorem likelihoodRaw_le_one (inputs : RiskScoringInput) : likelihoodRaw inputs ≤ 1 := min_le_left _ _

/-- The cap of the score is never reached: that of the likelihood is enough. -/
theorem riskScore_eq (inputs : RiskScoringInput) :
    riskScore inputs =
      roundTenth (likelihoodRaw inputs * impactScore inputs.businessImpact * 20) := by
  have hlikelihood := likelihoodRaw_le_one inputs
  have himpact := impactScore_mem inputs.businessImpact
  unfold riskScore
  rw [min_eq_right]
  nlinarith [himpact.1, himpact.2]

/-- The inputs whose score is below zero: a control that passed, and a quiet class that was seen at most
once, with so little evidence that its weight stays behind what the control takes off. -/
structure BelowZero (inputs : RiskScoringInput) : Prop where
  passed : inputs.controlTestResult = ControlAggregate.passed.value
  once : inputs.recurrenceCount = 0
  quiet : inputs.incidentClass ∈ quietClasses
  weak : inputs.evidenceQuality * (25 / 100) +
      proofWeight (normalizeProofLevel inputs.proofLevel) * (2 / 10) +
      1 / (400 * impactScore inputs.businessImpact) < 6 / 100

/-- A score is rounded to zero from half a tenth below it. -/
theorem roundTenth_neg_iff (x : ℚ) : roundTenth x < 0 ↔ x < -(1 / 20) := by
  have heven := @le_roundEven_iff (x * 10) 0 rfl
  push_cast at heven
  have hsign : roundTenth x < 0 ↔ roundEven (x * 10) < 0 := by
    unfold roundTenth
    rw [div_neg_iff]
    simp
  rw [hsign, ← not_le, heven, not_le]
  constructor <;> intro h <;> linarith

theorem evidenceSum_quiet {inputs : RiskScoringInput} (hquiet : inputs.incidentClass ∈ quietClasses)
    (honce : inputs.recurrenceCount = 0) :
    evidenceSum inputs = 9 / 100 + inputs.evidenceQuality * (25 / 100) +
      proofWeight (normalizeProofLevel inputs.proofLevel) * (2 / 10) := by
  have hboost : recurrenceBoost 0 = 0 := by
    norm_num [recurrenceBoost]
  unfold evidenceSum
  rw [classLikelihoodBase_quiet hquiet, honce, hboost]
  ring

/-- Anything else outweighs what a control takes off. -/
theorem evidenceSum_pos {inputs : RiskScoringInput}
    (h : ¬ (inputs.recurrenceCount = 0 ∧ inputs.incidentClass ∈ quietClasses)) :
    15 / 100 ≤ evidenceSum inputs := by
  have hbase := classLikelihoodBase_mem inputs.incidentClass
  have hquality := inputs.quality_nonneg
  have hproof := proofWeight_mem (normalizeProofLevel inputs.proofLevel)
  have hboost := recurrenceBoost_mem inputs.recurrenceCount
  unfold evidenceSum
  by_cases honce : inputs.recurrenceCount = 0
  · have hloud := classLikelihoodBase_loud fun hquiet => h ⟨honce, hquiet⟩
    linarith
  · have hone : recurrenceBoost 1 ≤ recurrenceBoost inputs.recurrenceCount :=
      recurrenceBoost_mono (by omega)
    have hvalue : recurrenceBoost 1 = 5 / 100 := by
      norm_num [recurrenceBoost]
    linarith

theorem riskScore_neg_iff (inputs : RiskScoringInput) : riskScore inputs < 0 ↔ BelowZero inputs := by
  have himpact := impactScore_mem inputs.businessImpact
  have hpos : 0 < 400 * impactScore inputs.businessImpact := by linarith
  have hlikelihood : riskScore inputs < 0 ↔
      likelihoodRaw inputs < -(1 / (400 * impactScore inputs.businessImpact)) := by
    rw [riskScore_eq, roundTenth_neg_iff,
      ← neg_div (400 * impactScore inputs.businessImpact) 1, lt_div_iff₀ hpos]
    constructor <;> intro h <;> linarith
  have hfraction : 0 < 1 / (400 * impactScore inputs.businessImpact) := one_div_pos.mpr hpos
  rw [hlikelihood]
  constructor
  · intro h
    have hsum : evidenceSum inputs + controlModifier inputs.controlTestResult <
        -(1 / (400 * impactScore inputs.businessImpact)) := by
      obtain hone | hsum := min_lt_iff.mp h
      · linarith
      · exact hsum
    have hbase := classLikelihoodBase_mem inputs.incidentClass
    by_cases hpassed : inputs.controlTestResult = ControlAggregate.passed.value
    · rw [hpassed, controlModifier_pass] at hsum
      by_cases hquiet : inputs.recurrenceCount = 0 ∧ inputs.incidentClass ∈ quietClasses
      · obtain ⟨honce, hquiet⟩ := hquiet
        rw [evidenceSum_quiet hquiet honce] at hsum
        exact ⟨hpassed, honce, hquiet, by linarith⟩
      · have hsumPos := evidenceSum_pos hquiet
        linarith
    · have hmodifier := controlModifier_pos hpassed
      have hquality := inputs.quality_nonneg
      have hproof := proofWeight_mem (normalizeProofLevel inputs.proofLevel)
      have hboost := recurrenceBoost_mem inputs.recurrenceCount
      unfold evidenceSum at hsum
      linarith
  · intro h
    have hweak := h.weak
    apply min_lt_iff.mpr
    right
    rw [h.passed, controlModifier_pass, evidenceSum_quiet h.quiet h.once]
    linarith

theorem riskScore_le (inputs : RiskScoringInput) : riskScore inputs ≤ 100 := by
  have hround : roundEven (min 100 (likelihoodRaw inputs * impactScore inputs.businessImpact * 20) * 10)
      ≤ 1000 := by
    apply roundEven_le
    have hcap : min 100 (likelihoodRaw inputs * impactScore inputs.businessImpact * 20) ≤ 100 :=
      min_le_left _ _
    push_cast
    linarith
  have hcast : (roundEven
      (min 100 (likelihoodRaw inputs * impactScore inputs.businessImpact * 20) * 10) : ℚ) ≤ 1000 := by
    exact_mod_cast hround
  unfold riskScore roundTenth
  linarith

theorem scoreToLevel_high_iff (score : ℚ) : scoreToLevel score = .high ↔ 70 ≤ score := by
  unfold scoreToLevel
  split_ifs with hhigh hmedium
  · simp [hhigh]
  · simp [not_le.mp hhigh]
  · simp [not_le.mp hhigh]

theorem scoreToLevel_medium_iff (score : ℚ) :
    scoreToLevel score = .medium ↔ 40 ≤ score ∧ score < 70 := by
  unfold scoreToLevel
  split_ifs with hhigh hmedium
  · simp [hhigh]
  · simp [hmedium, not_le.mp hhigh]
  · simp [not_le.mp hmedium]

/-- A result as it is promised. -/
structure InRange (result : RiskScoringResult) : Prop where
  nonneg : 0 ≤ result.riskScore
  le_hundred : result.riskScore ≤ 100
  high_iff : result.riskLevel = .high ↔ 70 ≤ result.riskScore
  medium_iff : result.riskLevel = .medium ↔ 40 ≤ result.riskScore ∧ result.riskScore < 70

/-- The promise is kept but for the inputs whose score is below zero. -/
theorem score_range_iff (incidentClass : String) (evidenceQuality : FloatVal)
    (proofLevel businessImpact : String) (recurrenceCount : Int) (controlTestResult : String) :
    InRange (scoreRisk (.ofFields incidentClass evidenceQuality proofLevel businessImpact
        recurrenceCount controlTestResult)) ↔
      ¬ BelowZero (.ofFields incidentClass evidenceQuality proofLevel businessImpact
        recurrenceCount controlTestResult) := by
  rw [← riskScore_neg_iff, not_lt]
  constructor
  · intro h
    exact h.nonneg
  · intro h
    exact ⟨h, riskScore_le _, scoreToLevel_high_iff _, scoreToLevel_medium_iff _⟩

/-- A critical machine without a proxy, and a control that passed. -/
theorem score_below_zero :
    (scoreRisk (.ofFields "NO_PROXY" .zero "NOT_RUN" "critical" 0 "PASS")).riskScore = -4 ∧
      ¬ InRange (scoreRisk (.ofFields "NO_PROXY" .zero "NOT_RUN" "critical" 0 "PASS")) := by
  have hscore : (scoreRisk (.ofFields "NO_PROXY" .zero "NOT_RUN" "critical" 0 "PASS")).riskScore =
      -4 := by
    decide +kernel
  refine ⟨hscore, fun h => ?_⟩
  have hnonneg := h.nonneg
  rw [hscore] at hnonneg
  norm_num at hnonneg

end RiskScoring
