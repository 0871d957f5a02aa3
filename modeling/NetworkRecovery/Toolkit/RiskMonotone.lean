import NetworkRecovery.Toolkit.IncidentRisk

/-!
# More evidence

More evidence should not lower a score: a higher confidence, more recurrences, a higher tier of a
control, one more control of the same tier that failed in part or in whole. The tiers are compared as
texts, and that is safe (`inferTier_raise`). Two things are not. A confidence of zero is taken for a
missing one, which counts as a half, and a result that is only partly a failure weighs less than one
that was not tested, which the precedence of the results ranks below it (`rises_iff`).
-/

namespace RiskScoring

open Python

/-! ## More evidence -/

/-- A control of the tier that the score has taken. -/
def SameTier (row : Dict) (c : RiskCase) : Prop :=
  normalizeProofLevel (inferTier [row]) = normalizeProofLevel (inferTier c.related)

/-- One thing more that speaks for the incident. -/
inductive Raises : RiskCase → RiskCase → Prop
  | confidence {incident : Dict} {controls : List Dict} {recurrences : Int} {old new : Value}
      {confidence confidence' : ℚ} (hold : incident.get? "confidence" = some old)
      (hnumber : numberOf old = some confidence) (hnumber' : numberOf new = some confidence')
      (hnonneg : 0 ≤ confidence) (hle : confidence ≤ confidence') (hone : confidence' ≤ 1) :
      Raises ⟨incident, controls, recurrences⟩
        ⟨incident.set "confidence" new, controls, recurrences⟩
  | recurrence {incident : Dict} {controls : List Dict} {recurrences recurrences' : Int}
      (hle : recurrences ≤ recurrences') :
      Raises ⟨incident, controls, recurrences⟩ ⟨incident, controls, recurrences'⟩
  | tier {incident : Dict} {front back : List Dict} {recurrences : Int} {row : Dict}
      {label label' : String} {tier tier' : Nat}
      (hlabel : row.get? "evidence_tier" = some (.str label)) (htier : HasTier label tier)
      (htier' : HasTier label' tier') (hlt : tier < tier') :
      Raises ⟨incident, front ++ row :: back, recurrences⟩
        ⟨incident, front ++ row.set "evidence_tier" (.str label') :: back, recurrences⟩
  | control {incident : Dict} {front back : List Dict} {recurrences : Int} {row : Dict}
      (hrelated : isRelated incident row = true)
      (hsame : SameTier row ⟨incident, front ++ back, recurrences⟩)
      (hresult : testResult row = "PARTIAL" ∨ testResult row = "FAIL") :
      Raises ⟨incident, front ++ back, recurrences⟩ ⟨incident, front ++ row :: back, recurrences⟩

section Rises

variable (ofText : String → Option FloatVal) (proofLevel businessImpact : Option String)

/-- No more evidence lowers the score. -/
def Rises (c : RiskCase) : Prop :=
  ∀ c', Raises c c' → ∀ result result',
    scoreRiskFromIncident ofText proofLevel businessImpact c = .ok result →
    scoreRiskFromIncident ofText proofLevel businessImpact c' = .ok result' →
    result.riskScore ≤ result'.riskScore

/-- One more control that failed in part counts for less than what there is: nothing was tested, or
only controls of other incidents have failed. -/
def PartialLoses (c : RiskCase) : Prop :=
  c.aggregate = .notTested ∨
    ((∀ row ∈ c.controlTests, isRelated c.incident row = false) ∧ c.aggregate = .failed)

/-- When no more evidence lowers the score. -/
structure RisesWhen (c : RiskCase) : Prop where
  confidence : ∀ v, c.incident.get? "confidence" = some v → numberOf v ≠ some 0
  controls : PartialLoses c → ∀ quality, evidenceQuality ofText c.incident = .ok quality →
    let inputs := c.inputs proofLevel businessImpact quality
    1 - 1 / (400 * impactScore inputs.businessImpact) ≤
      evidenceSum inputs + controlModifier ControlAggregate.partly.value

end Rises

/-! ## Scores in order -/

theorem roundTenth_mono {x y : ℚ} (h : x ≤ y) : roundTenth x ≤ roundTenth y := by
  have hround : (roundEven (x * 10) : ℚ) ≤ roundEven (y * 10) := by
    exact_mod_cast roundEven_mono (by linarith : x * 10 ≤ y * 10)
  unfold roundTenth
  linarith

/-- The greatest score of an impact is a whole number, and an even number of tenths. -/
theorem impactScore_tenths (businessImpact : String) :
    ∃ n : ℤ, n % 2 = 0 ∧ (n : ℚ) = 200 * impactScore businessImpact := by
  rcases impactScore_cases businessImpact with h | h | h | h
  · exact ⟨200, by rw [h]; norm_num⟩
  · exact ⟨500, by rw [h]; norm_num⟩
  · exact ⟨800, by rw [h]; norm_num⟩
  · exact ⟨1000, by rw [h]; norm_num⟩

/-- The likelihood before its cap. -/
def likelihoodSum (inputs : RiskScoringInput) : ℚ :=
  evidenceSum inputs + controlModifier inputs.controlTestResult

theorem likelihoodRaw_eq (inputs : RiskScoringInput) :
    likelihoodRaw inputs = min 1 (likelihoodSum inputs) := rfl

section Order

variable {inputs inputs' : RiskScoringInput} (himpact : inputs.businessImpact = inputs'.businessImpact)

include himpact

theorem riskScore_mono (h : likelihoodSum inputs ≤ likelihoodSum inputs') :
    riskScore inputs ≤ riskScore inputs' := by
  have hpos := (impactScore_mem inputs'.businessImpact).1
  have hlikelihood : likelihoodRaw inputs ≤ likelihoodRaw inputs' := by
    rw [likelihoodRaw_eq, likelihoodRaw_eq]
    exact min_le_min_left 1 h
  rw [riskScore_eq, riskScore_eq, himpact]
  apply roundTenth_mono
  gcongr

/-- A score goes up with each of its terms. -/
theorem riskScore_mono_terms (hclass : inputs.incidentClass = inputs'.incidentClass)
    (hquality : inputs.evidenceQuality ≤ inputs'.evidenceQuality)
    (hproof : proofWeight (normalizeProofLevel inputs.proofLevel) ≤
      proofWeight (normalizeProofLevel inputs'.proofLevel))
    (hrecurrence : inputs.recurrenceCount ≤ inputs'.recurrenceCount)
    (hmodifier : controlModifier inputs.controlTestResult ≤
      controlModifier inputs'.controlTestResult) :
    riskScore inputs ≤ riskScore inputs' := by
  have hboost := recurrenceBoost_mono hrecurrence
  apply riskScore_mono himpact
  unfold likelihoodSum evidenceSum
  rw [hclass]
  linarith

/-- From half a tenth below it a score is the greatest of its impact. -/
theorem riskScore_le_top
    (h : 1 - 1 / (400 * impactScore inputs'.businessImpact) ≤ likelihoodSum inputs') :
    riskScore inputs ≤ riskScore inputs' := by
  obtain ⟨n, heven, hn⟩ := impactScore_tenths inputs'.businessImpact
  have hpos := (impactScore_mem inputs'.businessImpact).1
  have hfraction : 0 < 1 / (400 * impactScore inputs'.businessImpact) :=
    one_div_pos.mpr (by linarith)
  have hscaled : (1 - 1 / (400 * impactScore inputs'.businessImpact)) *
      (200 * impactScore inputs'.businessImpact) = n - 1 / 2 := by
    rw [hn]
    field_simp
    ring
  have hraw : 1 - 1 / (400 * impactScore inputs'.businessImpact) ≤ likelihoodRaw inputs' :=
    le_min (by linarith) h
  have htop : n ≤ roundEven (likelihoodRaw inputs' * impactScore inputs'.businessImpact * 20 * 10) := by
    rw [le_roundEven_iff heven]
    nlinarith [hraw, hpos]
  have hother : roundEven (likelihoodRaw inputs * impactScore inputs'.businessImpact * 20 * 10) ≤ n := by
    apply roundEven_le
    have hone := likelihoodRaw_le_one inputs
    nlinarith [hone, hpos]
  have hcast : (roundEven (likelihoodRaw inputs * impactScore inputs'.businessImpact * 20 * 10) : ℚ) ≤
      roundEven (likelihoodRaw inputs' * impactScore inputs'.businessImpact * 20 * 10) := by
    exact_mod_cast hother.trans htop
  rw [riskScore_eq, riskScore_eq, himpact]
  unfold roundTenth
  linarith

/-- Less than the greatest, a loss of a twentieth is seen. -/
theorem riskScore_lt
    (htop : likelihoodSum inputs < 1 - 1 / (400 * impactScore inputs.businessImpact))
    (hloss : likelihoodSum inputs + 5 / 100 ≤ likelihoodSum inputs') :
    riskScore inputs < riskScore inputs' := by
  obtain ⟨n, heven, hn⟩ := impactScore_tenths inputs.businessImpact
  have hpos := (impactScore_mem inputs.businessImpact).1
  have hfraction : 0 < 1 / (400 * impactScore inputs.businessImpact) :=
    one_div_pos.mpr (by linarith)
  have hone : likelihoodSum inputs ≤ 1 := by linarith
  have hraw : likelihoodRaw inputs = likelihoodSum inputs := min_eq_right hone
  have hround : roundEven (likelihoodRaw inputs * impactScore inputs.businessImpact * 20 * 10) <
      roundEven (likelihoodRaw inputs' * impactScore inputs.businessImpact * 20 * 10) := by
    by_cases hcapped : likelihoodSum inputs' ≤ 1
    · have hraw' : likelihoodRaw inputs' = likelihoodSum inputs' := min_eq_right hcapped
      apply roundEven_lt
      rw [hraw, hraw']
      nlinarith [hloss, hpos]
    · have hraw' : likelihoodRaw inputs' = 1 := min_eq_left (not_le.mp hcapped).le
      have htenths : (likelihoodRaw inputs' * impactScore inputs.businessImpact * 20 * 10) = n := by
        rw [hraw', hn]
        ring
      have htopReached : n ≤ roundEven (n : ℚ) := le_roundEven le_rfl
      have hscaled : (1 - 1 / (400 * impactScore inputs.businessImpact)) *
          (200 * impactScore inputs.businessImpact) = n - 1 / 2 := by
        rw [hn]
        field_simp
        ring
      rw [htenths]
      apply lt_of_lt_of_le _ htopReached
      rw [← not_le, le_roundEven_iff heven, not_le, hraw]
      nlinarith [htop, hpos]
  have hcast : (roundEven (likelihoodRaw inputs * impactScore inputs.businessImpact * 20 * 10) : ℚ) <
      roundEven (likelihoodRaw inputs' * impactScore inputs.businessImpact * 20 * 10) := by
    exact_mod_cast hround
  rw [riskScore_eq, riskScore_eq, ← himpact]
  unfold roundTenth
  linarith

end Order

/-! ## What each change does -/

section Changes

variable {ofText : String → Option FloatVal} {proofLevel businessImpact : Option String}
  {incident : Dict} {controls : List Dict} {recurrences : Int} {quality : FloatVal}

theorem scoreRiskFromIncident_ok {c : RiskCase} {result : RiskScoringResult}
    (h : scoreRiskFromIncident ofText proofLevel businessImpact c = .ok result) :
    ∃ quality, evidenceQuality ofText c.incident = .ok quality ∧
      result.riskScore = riskScore (c.inputs proofLevel businessImpact quality) := by
  obtain ⟨quality, hquality, rfl⟩ := map_ok.mp h
  exact ⟨quality, hquality, rfl⟩

/-- The confidence is read for the evidence quality alone. -/
theorem inputs_set_confidence (v : Value) :
    (⟨incident.set "confidence" v, controls, recurrences⟩ : RiskCase).inputs proofLevel businessImpact
        quality =
      (⟨incident, controls, recurrences⟩ : RiskCase).inputs proofLevel businessImpact quality := by
  have hget : ∀ key, "confidence" ≠ key →
      (incident.set "confidence" v).get? key = incident.get? key :=
    fun key hne => Dict.get?_set_of_ne v hne
  have hrelated : isRelated (incident.set "confidence" v) = isRelated incident := by
    funext c
    unfold isRelated
    rw [hget "incident_id" (by decide)]
  unfold RiskCase.inputs RiskCase.aggregate RiskCase.related relatedControls Dict.fetch
  dsimp only
  rw [hrelated, hget "incident_class" (by decide), hget "risk_level" (by decide)]

theorem tierLabel_str {row : Dict} {label : String} {tier : Nat}
    (h : row.get? "evidence_tier" = some (.str label)) (htier : HasTier label tier) :
    tierLabel row = some label := by
  have hne : label ≠ "" := by
    obtain ⟨-, rest, hlabel⟩ := htier
    rintro rfl
    cases hlabel
  have hfetch : row.fetch "evidence_tier" = .str label := by
    rw [Dict.fetch, h, Option.getD_some]
  have htruthy : (Value.str label).truthy = true := by
    simp [Value.truthy, hne]
  unfold tierLabel
  rw [hfetch, if_pos htruthy]
  rfl

theorem inferTier_ne_empty (related : List Dict) : inferTier related ≠ "" := by
  cases hlabels : related.filterMap tierLabel with
  | nil =>
    rw [inferTier_nil hlabels]
    decide
  | cons label labels =>
    have hmem : label ∈ related.filterMap tierLabel := by
      rw [hlabels]
      exact List.mem_cons_self
    obtain ⟨c, -, hc⟩ := List.mem_filterMap.mp (inferTier_greatest hmem).1
    unfold tierLabel at hc
    split_ifs at hc with htruthy
    rw [← Option.some.inj hc]
    exact toText_ne_empty htruthy

variable {front back : List Dict} {row : Dict}

/-- A control of the same tier adds nothing but its result. -/
theorem proofWeight_insert (hrelated : isRelated incident row = true)
    (hsame : SameTier row ⟨incident, front ++ back, recurrences⟩) :
    proofWeight (normalizeProofLevel (proofLevel.getD
        (inferTier (relatedControls incident (front ++ row :: back))))) =
      proofWeight (normalizeProofLevel (proofLevel.getD
        (inferTier (relatedControls incident (front ++ back))))) := by
  have htier : normalizeProofLevel (inferTier [row]) =
      normalizeProofLevel (inferTier (relatedControls incident (front ++ back))) := hsame
  cases proofLevel with
  | some level => rfl
  | none =>
    obtain ⟨before, after, hbefore, hafter, -⟩ | ⟨hafter, -⟩ := relatedControls_insert hrelated
    · rw [hbefore] at htier
      rw [Option.getD_none, Option.getD_none, hbefore, hafter, inferTier_same htier]
    · rw [Option.getD_none, Option.getD_none, hafter, htier]

/-- One more control that failed in part is what counts, unless a related one has failed. -/
theorem aggregate_partlyFailed (hrelated : isRelated incident row = true)
    (hresult : testResult row = "PARTIAL") :
    (⟨incident, front ++ row :: back, recurrences⟩ : RiskCase).aggregate =
      if (⟨incident, front ++ back, recurrences⟩ : RiskCase).aggregate = .failed ∧
          ¬ ∀ other ∈ front ++ back, isRelated incident other = false then .failed
      else .partly := by
  unfold RiskCase.aggregate RiskCase.related
  dsimp only
  obtain ⟨before, after, hbefore, hafter, hother⟩ | ⟨hafter, hnone⟩ :=
    relatedControls_insert hrelated
  · have hsome : ¬ ∀ other ∈ front ++ back, isRelated incident other = false := by
      obtain ⟨other, hmem, hother⟩ := hother
      intro hnone
      rw [hnone other hmem] at hother
      cases hother
    rw [hbefore, hafter, List.map_append, List.map_cons, aggregate_insert_partly hresult,
      List.map_append]
    simp only [hsome, not_false_eq_true, and_true]
  · have hsingle : aggregateControlResult ([row].map testResult) = .partly := by
      rw [List.map_singleton, hresult]
      decide
    rw [hafter, hsingle, if_neg (fun h => h.2 hnone)]

theorem aggregate_fail (hrelated : isRelated incident row = true)
    (hresult : testResult row = "FAIL") :
    (⟨incident, front ++ row :: back, recurrences⟩ : RiskCase).aggregate = .failed := by
  unfold RiskCase.aggregate RiskCase.related
  dsimp only
  obtain ⟨before, after, -, hafter, -⟩ | ⟨hafter, -⟩ := relatedControls_insert hrelated
  · rw [hafter, List.map_append, List.map_cons, aggregate_insert_fail hresult]
  · rw [hafter, List.map_singleton, hresult]
    decide

/-- A control that failed in part loses against what was not tested, and where it comes in place of
failed ones. -/
theorem partialLoses_iff (hrelated : isRelated incident row = true)
    (hresult : testResult row = "PARTIAL") :
    PartialLoses ⟨incident, front ++ back, recurrences⟩ ↔
      controlModifier (⟨incident, front ++ row :: back, recurrences⟩ : RiskCase).aggregate.value <
        controlModifier (⟨incident, front ++ back, recurrences⟩ : RiskCase).aggregate.value := by
  have hafter : (⟨incident, front ++ row :: back, recurrences⟩ : RiskCase).aggregate = _ :=
    aggregate_partlyFailed hrelated hresult
  unfold PartialLoses
  dsimp only
  rw [hafter]
  cases (⟨incident, front ++ back, recurrences⟩ : RiskCase).aggregate with
  | passed =>
    rw [if_neg (fun h => by cases h.1), controlModifier_partly, controlModifier_pass]
    apply iff_of_false
    · intro h
      rcases h with h | ⟨-, h⟩ <;> cases h
    · norm_num
  | partly =>
    rw [if_neg (fun h => by cases h.1)]
    apply iff_of_false
    · intro h
      rcases h with h | ⟨-, h⟩ <;> cases h
    · exact lt_irrefl _
  | notTested =>
    rw [if_neg (fun h => by cases h.1), controlModifier_partly, controlModifier_notTested]
    exact iff_of_true (.inl rfl) (by norm_num)
  | failed =>
    by_cases hnone : ∀ other ∈ front ++ back, isRelated incident other = false
    · rw [if_neg (fun h => h.2 hnone), controlModifier_partly, controlModifier_failed]
      exact iff_of_true (.inr ⟨hnone, rfl⟩) (by norm_num)
    · rw [if_pos ⟨rfl, hnone⟩]
      apply iff_of_false
      · intro h
        rcases h with h | ⟨h, -⟩
        · cases h
        · exact hnone h
      · exact lt_irrefl _

end Changes

/-! ## When the score rises -/

section Main

variable {ofText : String → Option FloatVal} {proofLevel businessImpact : Option String}

/-- A score goes up with the evidence quality, the weight of the tier, the recurrences and the weight of
the aggregate. -/
theorem score_mono {c c' : RiskCase} {quality quality' : FloatVal} (hincident : c'.incident = c.incident)
    (hquality : clampUnit quality ≤ clampUnit quality')
    (hproof : proofWeight (normalizeProofLevel (proofLevel.getD (inferTier c.related))) ≤
      proofWeight (normalizeProofLevel (proofLevel.getD (inferTier c'.related))))
    (hrecurrence : c.recurrenceCount ≤ c'.recurrenceCount)
    (hmodifier : controlModifier c.aggregate.value ≤ controlModifier c'.aggregate.value) :
    riskScore (c.inputs proofLevel businessImpact quality) ≤
      riskScore (c'.inputs proofLevel businessImpact quality') := by
  have hclass : (c.inputs proofLevel businessImpact quality).incidentClass =
      (c'.inputs proofLevel businessImpact quality').incidentClass := by
    unfold RiskCase.inputs RiskScoringInput.ofFields
    rw [hincident]
  have himpact : (c.inputs proofLevel businessImpact quality).businessImpact =
      (c'.inputs proofLevel businessImpact quality').businessImpact := by
    unfold RiskCase.inputs RiskScoringInput.ofFields
    rw [hincident]
  exact riskScore_mono_terms himpact hclass hquality hproof (Int.toNat_le_toNat hrecurrence) hmodifier

/-- Only the controls that are taken into account count. -/
theorem score_mono_of_related {c c' : RiskCase} {quality : FloatVal}
    (hincident : c'.incident = c.incident) (hrecurrence : c.recurrenceCount ≤ c'.recurrenceCount)
    (hrelated : c'.related = c.related) :
    riskScore (c.inputs proofLevel businessImpact quality) ≤
      riskScore (c'.inputs proofLevel businessImpact quality) := by
  refine score_mono hincident le_rfl ?_ hrecurrence ?_
  · rw [hrelated]
  · unfold RiskCase.aggregate
    rw [hrelated]

theorem rises_confidence {incident : Dict} {controls : List Dict} {recurrences : Int}
    {old new : Value} {confidence confidence' : ℚ} {quality quality' : FloatVal}
    (hzero : confidence ≠ 0) (hold : incident.get? "confidence" = some old)
    (hnumber : numberOf old = some confidence) (hnumber' : numberOf new = some confidence')
    (hnonneg : 0 ≤ confidence) (hle : confidence ≤ confidence') (hone : confidence' ≤ 1)
    (hquality : evidenceQuality ofText incident = .ok quality)
    (hquality' : evidenceQuality ofText (incident.set "confidence" new) = .ok quality') :
    riskScore ((⟨incident, controls, recurrences⟩ : RiskCase).inputs proofLevel businessImpact
        quality) ≤
      riskScore ((⟨incident.set "confidence" new, controls, recurrences⟩ : RiskCase).inputs proofLevel
        businessImpact quality') := by
  have hpos : 0 < confidence := lt_of_le_of_ne hnonneg (Ne.symm hzero)
  obtain ⟨x, hx, hclamp⟩ := evidenceQuality_number ofText hold hnumber hpos (hle.trans hone)
  obtain ⟨x', hx', hclamp'⟩ := evidenceQuality_number ofText (Dict.get?_set_self incident _ new)
    hnumber' (hpos.trans_le hle) hone
  obtain rfl : x = quality := Except.ok.inj (hx.symm.trans hquality)
  obtain rfl : x' = quality' := Except.ok.inj (hx'.symm.trans hquality')
  have hclampLe : clampUnit x ≤ clampUnit x' := by
    rw [hclamp, hclamp']
    exact hle
  rw [inputs_set_confidence]
  exact score_mono rfl hclampLe le_rfl le_rfl le_rfl

theorem rises_tier {incident : Dict} {front back : List Dict} {recurrences : Int} {row : Dict}
    {label label' : String} {tier tier' : Nat} {quality : FloatVal}
    (hlabel : row.get? "evidence_tier" = some (.str label)) (htier : HasTier label tier)
    (htier' : HasTier label' tier') (hlt : tier < tier') :
    riskScore ((⟨incident, front ++ row :: back, recurrences⟩ : RiskCase).inputs proofLevel
        businessImpact quality) ≤
      riskScore ((⟨incident, front ++ row.set "evidence_tier" (.str label') :: back, recurrences⟩ :
        RiskCase).inputs proofLevel businessImpact quality) := by
  have hrow : tierLabel row = some label := tierLabel_str hlabel htier
  have hrow' : tierLabel (row.set "evidence_tier" (.str label')) = some label' :=
    tierLabel_str (Dict.get?_set_self row _ _) htier'
  have hresult : testResult (row.set "evidence_tier" (.str label')) = testResult row := by
    rw [testResult, testResult, Dict.get?_set_of_ne _ (by decide)]
  have hrelated : isRelated incident (row.set "evidence_tier" (.str label')) =
      isRelated incident row := by
    unfold isRelated Dict.fetch
    rw [Dict.get?_set_of_ne _ (by decide)]
  have hreplace : relatedControls incident (front ++ row.set "evidence_tier" (.str label') :: back) =
        relatedControls incident (front ++ row :: back) ∨ _ := relatedControls_replace hrelated
  -- where the row is taken into account its tier counts, its result stays
  obtain hsame | ⟨before, after, hbefore, hafter⟩ := hreplace
  · refine score_mono_of_related ?_ ?_ hsame
    · rfl
    · exact le_rfl
  · refine score_mono ?_ ?_ ?_ ?_ ?_
    · rfl
    · exact le_rfl
    · cases proofLevel with
      | some level => exact le_rfl
      | none =>
        unfold RiskCase.related
        dsimp only
        rw [hbefore, hafter]
        exact inferTier_raise hrow hrow' htier htier' hlt
    · exact le_rfl
    · unfold RiskCase.aggregate RiskCase.related
      dsimp only
      rw [hbefore, hafter, List.map_append, List.map_append, List.map_cons, List.map_cons, hresult]

/-- What the likelihood is after one more control that failed in part. -/
theorem likelihoodSum_partly {incident : Dict} {front back : List Dict} {recurrences : Int}
    {row : Dict} {quality : FloatVal} (hrelated : isRelated incident row = true)
    (hsame : SameTier row ⟨incident, front ++ back, recurrences⟩)
    (hresult : testResult row = "PARTIAL")
    (hloses : PartialLoses ⟨incident, front ++ back, recurrences⟩) :
    likelihoodSum ((⟨incident, front ++ row :: back, recurrences⟩ : RiskCase).inputs proofLevel
        businessImpact quality) =
      evidenceSum ((⟨incident, front ++ back, recurrences⟩ : RiskCase).inputs proofLevel
        businessImpact quality) + controlModifier ControlAggregate.partly.value := by
  have haggregate : (⟨incident, front ++ row :: back, recurrences⟩ : RiskCase).aggregate = .partly := by
    rw [aggregate_partlyFailed hrelated hresult, if_neg]
    intro hboth
    obtain ⟨hfailed, hsome⟩ := hboth
    rcases hloses with hnotTested | ⟨hnone, -⟩
    · rw [hfailed] at hnotTested
      cases hnotTested
    · exact hsome hnone
  have hproof : proofWeight (normalizeProofLevel (proofLevel.getD
        (inferTier (⟨incident, front ++ row :: back, recurrences⟩ : RiskCase).related))) =
      proofWeight (normalizeProofLevel (proofLevel.getD
        (inferTier (⟨incident, front ++ back, recurrences⟩ : RiskCase).related))) :=
    proofWeight_insert hrelated hsame
  unfold likelihoodSum evidenceSum RiskCase.inputs RiskScoringInput.ofFields
  dsimp only
  rw [haggregate, hproof]

theorem rises_control {incident : Dict} {front back : List Dict} {recurrences : Int} {row : Dict}
    {quality : FloatVal}
    (h : RisesWhen ofText proofLevel businessImpact ⟨incident, front ++ back, recurrences⟩)
    (hquality : evidenceQuality ofText incident = .ok quality)
    (hrelated : isRelated incident row = true)
    (hsame : SameTier row ⟨incident, front ++ back, recurrences⟩)
    (hresult : testResult row = "PARTIAL" ∨ testResult row = "FAIL") :
    riskScore ((⟨incident, front ++ back, recurrences⟩ : RiskCase).inputs proofLevel businessImpact
        quality) ≤
      riskScore ((⟨incident, front ++ row :: back, recurrences⟩ : RiskCase).inputs proofLevel
        businessImpact quality) := by
  have hproof : proofWeight (normalizeProofLevel (proofLevel.getD
        (inferTier (⟨incident, front ++ row :: back, recurrences⟩ : RiskCase).related))) =
      proofWeight (normalizeProofLevel (proofLevel.getD
        (inferTier (⟨incident, front ++ back, recurrences⟩ : RiskCase).related))) :=
    proofWeight_insert hrelated hsame
  obtain hpartly | hfail := hresult
  · by_cases hloses : PartialLoses ⟨incident, front ++ back, recurrences⟩
    · have htop := h.controls hloses quality hquality
      apply riskScore_le_top
      · rfl
      · rw [likelihoodSum_partly hrelated hsame hpartly hloses]
        exact htop
    · rw [partialLoses_iff hrelated hpartly, not_lt] at hloses
      refine score_mono ?_ ?_ hproof.ge ?_ hloses
      · rfl
      · exact le_rfl
      · exact le_rfl
  · have hfailed : (⟨incident, front ++ row :: back, recurrences⟩ : RiskCase).aggregate = .failed :=
      aggregate_fail hrelated hfail
    refine score_mono ?_ ?_ hproof.ge ?_ ?_
    · rfl
    · exact le_rfl
    · exact le_rfl
    · rw [hfailed]
      exact controlModifier_le_failed _

theorem RisesWhen.rises {c : RiskCase} (h : RisesWhen ofText proofLevel businessImpact c) :
    Rises ofText proofLevel businessImpact c := by
  intro c' hraises result result' hresult hresult'
  obtain ⟨quality, hquality, hscore⟩ := scoreRiskFromIncident_ok hresult
  obtain ⟨quality', hquality', hscore'⟩ := scoreRiskFromIncident_ok hresult'
  rw [hscore, hscore']
  cases hraises with
  | confidence hold hnumber hnumber' hnonneg hle hone =>
    refine rises_confidence ?_ hold hnumber hnumber' hnonneg hle hone hquality hquality'
    rintro rfl
    exact h.confidence _ hold hnumber
  | recurrence hle =>
    obtain rfl := Except.ok.inj (hquality.symm.trans hquality')
    refine score_mono_of_related ?_ hle ?_
    · rfl
    · rfl
  | tier hlabel htier htier' hlt =>
    obtain rfl := Except.ok.inj (hquality.symm.trans hquality')
    exact rises_tier hlabel htier htier' hlt
  | control hrelated hsame hresultRow =>
    obtain rfl := Except.ok.inj (hquality.symm.trans hquality')
    exact rises_control h hquality hrelated hsame hresultRow

theorem PartialLoses.le_modifier {c : RiskCase} (h : PartialLoses c) :
    1 / 10 ≤ controlModifier c.aggregate.value := by
  rcases h with hnotTested | ⟨-, hfailed⟩
  · rw [hnotTested, controlModifier_notTested]
  · rw [hfailed, controlModifier_failed]
    norm_num

theorem likelihoodSum_sub (c : RiskCase) (quality quality' : FloatVal) :
    likelihoodSum (c.inputs proofLevel businessImpact quality) -
        likelihoodSum (c.inputs proofLevel businessImpact quality') =
      (clampUnit quality - clampUnit quality') * (25 / 100) := by
  unfold likelihoodSum evidenceSum RiskCase.inputs RiskScoringInput.ofFields
  dsimp only
  ring

/-- A confidence of a thousandth, which is more than none. -/
def slight : Value := .float (.finite (.ofParts false 1 (-3)))

theorem numberOf_slight : numberOf slight = some (1 / 1000) := by
  decide +kernel

/-- More confidence than none scores less. -/
theorem Rises.confidence {c : RiskCase} (h : Rises ofText proofLevel businessImpact c) {v : Value}
    (hget : c.incident.get? "confidence" = some v) : numberOf v ≠ some 0 := by
  intro hzero
  obtain ⟨incident, controls, recurrences⟩ := c
  obtain ⟨x, hx, hclamp⟩ := evidenceQuality_zero ofText hget hzero
  obtain ⟨x', hx', hclamp'⟩ := evidenceQuality_number ofText
    (Dict.get?_set_self incident "confidence" slight) numberOf_slight (by norm_num) (by norm_num)
  have hraises : Raises ⟨incident, controls, recurrences⟩
      ⟨incident.set "confidence" slight, controls, recurrences⟩ :=
    .confidence hget hzero numberOf_slight le_rfl (by norm_num) (by norm_num)
  have hle := h _ hraises _ _ (map_ok.mpr ⟨x, hx, rfl⟩) (map_ok.mpr ⟨x', hx', rfl⟩)
  rw [inputs_set_confidence] at hle
  let inputs := (⟨incident, controls, recurrences⟩ : RiskCase).inputs proofLevel businessImpact
  have hbase := classLikelihoodBase_mem (inputs x').incidentClass
  have hproof := proofWeight_mem (normalizeProofLevel (inputs x').proofLevel)
  have hboost := recurrenceBoost_mem (inputs x').recurrenceCount
  have hmodifier : controlModifier (inputs x').controlTestResult ≤ 25 / 100 :=
    controlModifier_le_failed _
  have himpact := (impactScore_mem (inputs x').businessImpact).1
  have hfraction : 1 / (400 * impactScore (inputs x').businessImpact) ≤ 1 / 400 :=
    one_div_le_one_div_of_le (by norm_num) (by linarith)
  have hquality' : (inputs x').evidenceQuality = 1 / 1000 := hclamp'
  have htop : likelihoodSum (inputs x') < 1 - 1 / (400 * impactScore (inputs x').businessImpact) := by
    unfold likelihoodSum evidenceSum
    rw [hquality']
    linarith
  have hloss : likelihoodSum (inputs x') + 5 / 100 ≤ likelihoodSum (inputs x) := by
    have hsum : likelihoodSum (inputs x) - likelihoodSum (inputs x') = _ := likelihoodSum_sub _ x x'
    rw [hclamp, hclamp'] at hsum
    linarith
  exact absurd hle (not_le.mpr (riskScore_lt rfl htop hloss))

/-- A control of the inferred tier that failed in part. -/
def partialRow (related : List Dict) : Dict :=
  [("evidence_tier", .str (inferTier related)), ("test_result", .str "PARTIAL")]

theorem inferTier_partialRow (related : List Dict) :
    inferTier [partialRow related] = inferTier related := by
  have hfetch : (partialRow related).fetch "evidence_tier" = .str (inferTier related) := rfl
  have htruthy : (Value.str (inferTier related)).truthy = true := by
    simp [Value.truthy, inferTier_ne_empty related]
  have hlabel : tierLabel (partialRow related) = some (inferTier related) := by
    unfold tierLabel
    rw [hfetch, if_pos htruthy]
    rfl
  conv_lhs => unfold inferTier
  rw [List.filterMap_cons_some hlabel]
  rfl

theorem isRelated_partialRow (incident : Dict) (related : List Dict) :
    isRelated incident (partialRow related) = true := by
  have hnone : (Value.pyEq (.none) (.none)) = true := rfl
  have hfetch : (partialRow related).fetch "incident_id" = .none := rfl
  unfold isRelated
  dsimp only
  rw [hfetch, hnone, Bool.or_true, Bool.true_or]

theorem Rises.controls {c : RiskCase} (h : Rises ofText proofLevel businessImpact c)
    (hloses : PartialLoses c) {quality : FloatVal}
    (hquality : evidenceQuality ofText c.incident = .ok quality) :
    1 - 1 / (400 * impactScore (c.inputs proofLevel businessImpact quality).businessImpact) ≤
      evidenceSum (c.inputs proofLevel businessImpact quality) +
        controlModifier ControlAggregate.partly.value := by
  by_contra htop
  obtain ⟨incident, controls, recurrences⟩ := c
  let c : RiskCase := ⟨incident, [] ++ controls, recurrences⟩
  let row := partialRow c.related
  have hrelated : isRelated incident row = true := isRelated_partialRow incident c.related
  have hsame : SameTier row c := congrArg normalizeProofLevel (inferTier_partialRow c.related)
  have hraises : Raises c ⟨incident, [] ++ row :: controls, recurrences⟩ :=
    .control hrelated hsame (.inl rfl)
  have hle := h _ hraises _ _ (map_ok.mpr ⟨quality, hquality, rfl⟩)
    (map_ok.mpr ⟨quality, hquality, rfl⟩)
  have hsum := @likelihoodSum_partly proofLevel businessImpact incident [] controls recurrences row
    quality hrelated hsame rfl hloses
  have hmodifier := PartialLoses.le_modifier (c := c) hloses
  have hlt : riskScore ((⟨incident, [] ++ row :: controls, recurrences⟩ : RiskCase).inputs proofLevel
      businessImpact quality) < riskScore (c.inputs proofLevel businessImpact quality) := by
    apply riskScore_lt
    · rfl
    · rw [hsum]
      exact not_le.mp htop
    · rw [hsum, controlModifier_partly]
      show evidenceSum (c.inputs proofLevel businessImpact quality) + 5 / 100 + 5 / 100 ≤
        evidenceSum (c.inputs proofLevel businessImpact quality) + controlModifier c.aggregate.value
      linarith
  exact absurd hle (not_le.mpr hlt)

/-- No more evidence lowers the score, exactly if the confidence is not zero and one more control that
failed in part cannot lose, or the score is the greatest of its impact with it as well. -/
theorem rises_iff (ofText : String → Option FloatVal) (proofLevel businessImpact : Option String)
    (c : RiskCase) :
    Rises ofText proofLevel businessImpact c ↔ RisesWhen ofText proofLevel businessImpact c := by
  constructor
  · intro h
    refine ⟨fun v hget => h.confidence hget, fun hloses quality hquality => ?_⟩
    exact h.controls hloses hquality
  · intro h
    exact h.rises

end Main

/-- An incident of confidence zero, to which any is added, and one without controls, to which one is
added that failed in part. -/
theorem more_evidence_lowers :
    ¬ Rises (fun _ => none) none none ⟨[("confidence", .int 0)], [], 0⟩ ∧
      ¬ Rises (fun _ => none) none none
        ⟨[("confidence", .float (.ofScientific 8 (-1)))], [], 0⟩ := by
  constructor
  · intro h
    exact h.confidence rfl rfl
  · intro h
    have htop := h.controls (.inl rfl) rfl
    exact absurd htop (by decide +kernel)

end RiskScoring
