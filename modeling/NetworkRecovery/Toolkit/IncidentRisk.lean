import Mathlib.Data.String.Basic
import Mathlib.Tactic.IntervalCases
import NetworkRecovery.Lib.HighWater
import NetworkRecovery.Toolkit.RiskScoring

/-!
# Risk scores of incidents

`score_risk_from_incident` reads the inputs of a score off an incident and its control tests: the
confidence or a half, the controls of the incident or all of them, the greatest tier among these as a
text, and the worst of their results. What the parts come to is said here, one lemma for each; how the
score follows them is left to the module on more evidence.
-/

namespace RiskScoring

open Python

/-! ## Control tests -/

/-- `aggregate_control_result`. -/
def aggregateControlResult (testResults : List String) : ControlAggregate :=
  let normalized := testResults.map fun r => String.ofList (upper r.toList)
  ([ControlAggregate.failed, .partly, .notTested, .passed].find? fun outcome =>
    outcome.value ∈ normalized).getD .notTested

/-- `str(c.get("test_result", ""))`. -/
def testResult (c : Dict) : String := ((c.get? "test_result").getD (.str "")).toText

/-- The tier of a control, if it has one. -/
def tierLabel (c : Dict) : Option String :=
  if (c.fetch "evidence_tier").truthy then some (c.fetch "evidence_tier").toText else none

/-- The greatest tier of the controls as a text. -/
def inferTier (related : List Dict) : String :=
  match related.filterMap tierLabel with
  | [] => ProofLevel.t1Correlation.value
  | label :: labels => highWater label labels

/-- `not incident_id or c.get("incident_id") in (incident_id, None, "")`. -/
def isRelated (incident c : Dict) : Bool :=
  let incidentId := (incident.get? "incident_id").getD (.str "")
  let own := c.fetch "incident_id"
  !incidentId.truthy || own.pyEq incidentId || own.pyEq .none || own.pyEq (.str "")

/-- The controls that are taken into account: all of them if none belongs to the incident. -/
def relatedControls (incident : Dict) (controlTests : List Dict) : List Dict :=
  let related := controlTests.filter (isRelated incident)
  if related.isEmpty then controlTests else related

/-! ## The score of an incident -/

/-- What the score is read off. -/
structure RiskCase where
  incident : Dict
  controlTests : List Dict
  recurrenceCount : Int

def RiskCase.related (c : RiskCase) : List Dict := relatedControls c.incident c.controlTests

def RiskCase.aggregate (c : RiskCase) : ControlAggregate :=
  aggregateControlResult (c.related.map testResult)

section Score

variable (ofText : String → Option FloatVal) (proofLevel businessImpact : Option String)

/-- `float(incident.get("confidence") or 0.5)`. -/
def evidenceQuality (incident : Dict) : Except PyError FloatVal :=
  (orElse (incident.get? "confidence") (.float (.ofScientific 5 (-1)))).toFloat ofText

/-- The inputs of the score, with the evidence quality as it was read. -/
def RiskCase.inputs (c : RiskCase) (quality : FloatVal) : RiskScoringInput :=
  .ofFields (orElse (c.incident.get? "incident_class") (.str "UNKNOWN")).toText quality
    (proofLevel.getD (inferTier c.related))
    (businessImpact.getD
      (if (c.incident.fetch "risk_level").pyEq (.str "HIGH") then "high" else "medium"))
    c.recurrenceCount c.aggregate.value

/-- `score_risk_from_incident`. -/
def scoreRiskFromIncident (c : RiskCase) : Except PyError RiskScoringResult :=
  (evidenceQuality ofText c.incident).map fun quality =>
    scoreRisk (c.inputs proofLevel businessImpact quality)

end Score

/-! ## Tiers as texts -/

/-- A label of a tier from T0 to T4. -/
def HasTier (label : String) (tier : Nat) : Prop :=
  tier ≤ 4 ∧ ['T', tier.digitChar] <+: label.toList

theorem digitChar_lt {tier tier' : Nat} (hle : tier' ≤ 4) (hlt : tier < tier') :
    tier.digitChar < tier'.digitChar := by
  interval_cases tier' <;> interval_cases tier <;> decide

theorem digitChar_mem {tier : Nat} (hle : tier ≤ 4) :
    '0' ≤ tier.digitChar ∧ tier.digitChar ≤ '4' := by
  interval_cases tier <;> decide

theorem exists_digitChar {c : Char} (hle : '0' ≤ c) (hge : c ≤ '4') :
    ∃ tier ≤ 4, c = tier.digitChar := by
  have hlow : 48 ≤ c.toNat := hle
  have hhigh : c.toNat ≤ 52 := hge
  obtain ⟨tier, htier⟩ := Nat.exists_eq_add_of_le hlow
  have hfour : tier ≤ 4 := by omega
  refine ⟨tier, hfour, ?_⟩
  rw [← Char.ofNat_toNat c, htier]
  interval_cases tier <;> rfl

/-- The level of a tier. -/
def tierLevel : Nat → ProofLevel
  | 0 => .t0Observation
  | 1 => .t1Correlation
  | 2 => .t2Supported
  | 3 => .t3Strong
  | _ => .t4WriterProof

theorem tierLevel_mono {tier tier' : Nat} (hle : tier' ≤ 4) (h : tier ≤ tier') :
    proofWeight (tierLevel tier) ≤ proofWeight (tierLevel tier') := by
  interval_cases tier' <;> interval_cases tier <;> norm_num [tierLevel, proofWeight]

theorem HasTier.normalize {label : String} {tier : Nat} (h : HasTier label tier) :
    normalizeProofLevel label = tierLevel tier := by
  obtain ⟨hle, rest, hlabel⟩ := h
  have hne : label ≠ "" := by
    intro hempty
    rw [hempty] at hlabel
    cases hlabel
  unfold normalizeProofLevel
  rw [if_neg hne, ← hlabel]
  interval_cases tier
  · rfl
  · rfl
  · rfl
  · rfl
  · rfl

/-- Labels are ordered as their tiers. -/
theorem HasTier.lt {label label' : String} {tier tier' : Nat} (h : HasTier label tier)
    (h' : HasTier label' tier') (hlt : tier < tier') : label < label' := by
  obtain ⟨hle, rest, hlabel⟩ := h
  obtain ⟨hle', rest', hlabel'⟩ := h'
  rw [String.lt_iff_toList_lt, ← hlabel, ← hlabel']
  exact List.cons_lt_cons_iff.mpr (.inr ⟨rfl, List.cons_lt_cons_iff.mpr (.inl (digitChar_lt hle' hlt))⟩)

/-- What lies between two labels is a label of a tier between theirs. -/
theorem HasTier.between {label label' text : String} {tier tier' : Nat} (h : HasTier label tier)
    (h' : HasTier label' tier') (hle : label ≤ text) (hge : text ≤ label') :
    ∃ middle, HasTier text middle ∧ middle ≤ tier' := by
  obtain ⟨htier, rest, hlabel⟩ := h
  obtain ⟨hfour, rest', hlabel'⟩ := h'
  have hle := not_lt.mpr hle
  have hge := not_lt.mpr hge
  rw [String.lt_iff_toList_lt, ← hlabel] at hle
  rw [String.lt_iff_toList_lt, ← hlabel'] at hge
  cases htext : text.toList with
  | nil =>
    rw [htext] at hle
    exact absurd (List.nil_lt_cons _ _) hle
  | cons c chars =>
    rw [htext, List.cons_append, List.cons_lt_cons_iff, not_or] at hle hge
    obtain rfl : c = 'T' := le_antisymm (not_lt.mp hge.1) (not_lt.mp hle.1)
    cases chars with
    | nil => exact absurd ⟨rfl, List.nil_lt_cons _ _⟩ hle.2
    | cons d chars =>
      have hlow : tier.digitChar ≤ d := by
        by_contra hlt
        exact hle.2 ⟨rfl, List.cons_lt_cons_iff.mpr (.inl (not_le.mp hlt))⟩
      have hhigh : d ≤ tier'.digitChar := by
        by_contra hlt
        exact hge.2 ⟨rfl, List.cons_lt_cons_iff.mpr (.inl (not_le.mp hlt))⟩
      obtain ⟨middle, hmiddle, rfl⟩ := exists_digitChar ((digitChar_mem htier).1.trans hlow)
        (hhigh.trans (digitChar_mem hfour).2)
      refine ⟨middle, ⟨hmiddle, chars, htext.symm⟩, ?_⟩
      by_contra hlt
      exact absurd (digitChar_lt hmiddle (not_le.mp hlt)) (not_lt.mpr hhigh)

/-! ## The inferred tier -/

theorem inferTier_nil {related : List Dict} (h : related.filterMap tierLabel = []) :
    inferTier related = ProofLevel.t1Correlation.value := by
  unfold inferTier
  rw [h]

/-- Where there are labels, the inferred tier is the greatest. -/
theorem inferTier_greatest {related : List Dict} {label : String}
    (h : label ∈ related.filterMap tierLabel) :
    inferTier related ∈ related.filterMap tierLabel ∧
      ∀ label ∈ related.filterMap tierLabel, label ≤ inferTier related := by
  unfold inferTier
  cases hlabels : related.filterMap tierLabel with
  | nil =>
    rw [hlabels] at h
    cases h
  | cons first labels =>
    have hbound := highWater_le_iff.mp (le_refl (highWater first labels))
    refine ⟨?_, List.forall_mem_cons.mpr hbound⟩
    obtain hfirst | hmem := highWater_mem first labels
    · exact List.mem_cons.mpr (.inl hfirst)
    · exact List.mem_cons_of_mem _ hmem

theorem filterMap_middle (front back : List Dict) {row : Dict} {label : String}
    (h : tierLabel row = some label) (other : String) :
    other ∈ (front ++ row :: back).filterMap tierLabel ↔
      other = label ∨ other ∈ (front ++ back).filterMap tierLabel := by
  rw [List.filterMap_append, List.filterMap_cons_some h, List.filterMap_append]
  simp only [List.mem_append, List.mem_cons]
  tauto

/-- A higher tier of one control does not make the inferred one weigh less. -/
theorem inferTier_raise {front back : List Dict} {row row' : Dict} {label label' : String}
    {tier tier' : Nat} (hrow : tierLabel row = some label) (hrow' : tierLabel row' = some label')
    (htier : HasTier label tier) (htier' : HasTier label' tier') (hlt : tier < tier') :
    proofWeight (normalizeProofLevel (inferTier (front ++ row :: back))) ≤
      proofWeight (normalizeProofLevel (inferTier (front ++ row' :: back))) := by
  have hmem := filterMap_middle front back hrow
  have hmem' := filterMap_middle front back hrow'
  obtain ⟨hold, hbound⟩ := inferTier_greatest ((hmem label).mpr (.inl rfl))
  obtain ⟨hnew, hbound'⟩ := inferTier_greatest ((hmem' label').mpr (.inl rfl))
  -- the inferred tier does not go down as a text
  have hle : inferTier (front ++ row :: back) ≤ inferTier (front ++ row' :: back) := by
    obtain hlabel | hother := (hmem _).mp hold
    · rw [hlabel]
      exact (htier.lt htier' hlt).le.trans (hbound' label' ((hmem' label').mpr (.inl rfl)))
    · exact hbound' _ ((hmem' _).mpr (.inr hother))
  obtain hlabel' | hother := (hmem' _).mp hnew
  · -- it is the new label, and the old one was between the two
    rw [hlabel'] at hle ⊢
    have hbetween := htier.between htier' (hbound label ((hmem label).mpr (.inl rfl))) hle
    obtain ⟨middle, hmiddle, hmiddleLe⟩ := hbetween
    rw [hmiddle.normalize, htier'.normalize]
    exact tierLevel_mono htier'.1 hmiddleLe
  · -- it is that of another control, which was there before
    have hsame := le_antisymm hle (hbound _ ((hmem _).mpr (.inr hother)))
    rw [hsame]

/-- A control of the same tier leaves the level of the inferred one. -/
theorem inferTier_same {front back : List Dict} {row : Dict}
    (hsame : normalizeProofLevel (inferTier [row]) =
      normalizeProofLevel (inferTier (front ++ back))) :
    normalizeProofLevel (inferTier (front ++ row :: back)) =
      normalizeProofLevel (inferTier (front ++ back)) := by
  cases hrow : tierLabel row with
  | none =>
    have hlabels : (front ++ row :: back).filterMap tierLabel =
        (front ++ back).filterMap tierLabel := by
      rw [List.filterMap_append, List.filterMap_cons_none hrow, List.filterMap_append]
    unfold inferTier
    rw [hlabels]
  | some label =>
    have hsingle : inferTier [row] = label := by
      unfold inferTier
      rw [List.filterMap_cons_some hrow]
      rfl
    have hmem := filterMap_middle front back hrow
    obtain ⟨hnew, hbound⟩ := inferTier_greatest ((hmem label).mpr (.inl rfl))
    obtain hlabel | hother := (hmem _).mp hnew
    · rw [hlabel, ← hsingle, hsame]
    · obtain ⟨hold, hboundOld⟩ := inferTier_greatest hother
      have hle := hboundOld _ hother
      have hge := hbound _ ((hmem _).mpr (.inr hold))
      rw [le_antisymm hle hge]

/-! ## The controls taken into account -/

section Related

variable {incident : Dict} {front back : List Dict} {row row' : Dict}

/-- A row that stays related or unrelated is replaced where it is taken into account. -/
theorem relatedControls_replace (h : isRelated incident row' = isRelated incident row) :
    relatedControls incident (front ++ row' :: back) =
        relatedControls incident (front ++ row :: back) ∨
      ∃ before after, relatedControls incident (front ++ row :: back) = before ++ row :: after ∧
        relatedControls incident (front ++ row' :: back) = before ++ row' :: after := by
  unfold relatedControls
  rw [List.filter_append, List.filter_append]
  cases hrow : isRelated incident row with
  | true =>
    rw [hrow] at h
    rw [List.filter_cons_of_pos hrow, List.filter_cons_of_pos h]
    exact .inr ⟨front.filter (isRelated incident), back.filter (isRelated incident), by simp,
      by simp⟩
  | false =>
    rw [hrow] at h
    rw [List.filter_cons_of_neg (by simp [h]), List.filter_cons_of_neg (by simp [hrow])]
    dsimp only
    split_ifs with hempty
    · exact .inr ⟨front, back, rfl, rfl⟩
    · exact .inl rfl

/-- A related row is added to the related ones, or is the only one. -/
theorem relatedControls_insert (hrow : isRelated incident row = true) :
    (∃ before after, relatedControls incident (front ++ back) = before ++ after ∧
        relatedControls incident (front ++ row :: back) = before ++ row :: after ∧
        ∃ other ∈ front ++ back, isRelated incident other = true) ∨
      (relatedControls incident (front ++ row :: back) = [row] ∧
        ∀ other ∈ front ++ back, isRelated incident other = false) := by
  have hafter : relatedControls incident (front ++ row :: back) =
      front.filter (isRelated incident) ++ row :: back.filter (isRelated incident) := by
    unfold relatedControls
    rw [List.filter_append, List.filter_cons_of_pos hrow]
    simp
  cases hrelated : (front ++ back).filter (isRelated incident) with
  | nil =>
    have hnone := List.filter_eq_nil_iff.mp hrelated
    rw [List.filter_append, List.append_eq_nil_iff] at hrelated
    refine .inr ⟨?_, fun other hother => by simpa using hnone other hother⟩
    rw [hafter, hrelated.1, hrelated.2, List.nil_append]
  | cons other others =>
    have hother := List.mem_filter.mp (hrelated.symm ▸ List.mem_cons_self :
      other ∈ (front ++ back).filter (isRelated incident))
    refine .inl ⟨front.filter (isRelated incident), back.filter (isRelated incident), ?_, hafter,
      other, hother⟩
    unfold relatedControls
    rw [hrelated, ← List.filter_append, hrelated]
    rfl

end Related

/-! ## The aggregate -/

/-- A result is among the outcomes. -/
def Shows (testResults : List String) (outcome : ControlAggregate) : Prop :=
  outcome.value ∈ testResults.map fun r => String.ofList (upper r.toList)

instance (testResults : List String) (outcome : ControlAggregate) :
    Decidable (Shows testResults outcome) :=
  inferInstanceAs (Decidable (_ ∈ _))

theorem aggregate_eq (testResults : List String) :
    aggregateControlResult testResults =
      ([ControlAggregate.failed, .partly, .notTested, .passed].find? fun outcome =>
        Shows testResults outcome).getD .notTested := rfl

theorem aggregate_failed_iff {testResults : List String} :
    aggregateControlResult testResults = .failed ↔ Shows testResults .failed := by
  rw [aggregate_eq]
  by_cases hfailed : Shows testResults .failed
  · rw [List.find?_cons_of_pos (by simpa using hfailed)]
    exact iff_of_true rfl hfailed
  · rw [List.find?_cons_of_neg (by simpa using hfailed)]
    refine iff_of_false ?_ hfailed
    cases hfound : [ControlAggregate.partly, .notTested, .passed].find? fun outcome =>
        Shows testResults outcome with
    | none =>
      intro h
      cases h
    | some outcome =>
      have hmem := List.mem_of_find?_eq_some hfound
      intro h
      obtain rfl : outcome = .failed := h
      simp at hmem

theorem aggregate_partly {testResults : List String} (hfailed : ¬ Shows testResults .failed)
    (h : Shows testResults .partly) : aggregateControlResult testResults = .partly := by
  rw [aggregate_eq, List.find?_cons_of_neg (by simpa using hfailed),
    List.find?_cons_of_pos (by simpa using h)]
  rfl

section Aggregate

variable {before after : List String} {result : String}

theorem shows_insert {outcome : ControlAggregate} :
    Shows (before ++ result :: after) outcome ↔
      outcome.value = .ofList (upper result.toList) ∨ Shows (before ++ after) outcome := by
  unfold Shows
  rw [List.map_append, List.map_cons, List.map_append]
  simp only [List.mem_append, List.mem_cons]
  tauto

theorem aggregate_insert_fail (h : result = "FAIL") :
    aggregateControlResult (before ++ result :: after) = .failed := by
  rw [aggregate_failed_iff, shows_insert, h]
  exact .inl (by decide)

theorem aggregate_insert_partly (h : result = "PARTIAL") :
    aggregateControlResult (before ++ result :: after) =
      if aggregateControlResult (before ++ after) = .failed then .failed else .partly := by
  have hpartly : Shows (before ++ result :: after) .partly := by
    rw [shows_insert, h]
    exact .inl (by decide)
  have hfailed : Shows (before ++ result :: after) .failed ↔ Shows (before ++ after) .failed := by
    rw [shows_insert, h]
    exact or_iff_right (by decide)
  split_ifs with hold
  · exact aggregate_failed_iff.mpr (hfailed.mpr (aggregate_failed_iff.mp hold))
  · exact aggregate_partly (fun hnew => hold (aggregate_failed_iff.mpr (hfailed.mp hnew))) hpartly

end Aggregate

theorem controlModifier_partly : controlModifier ControlAggregate.partly.value = 5 / 100 := rfl

theorem controlModifier_failed : controlModifier ControlAggregate.failed.value = 25 / 100 := rfl

theorem controlModifier_notTested : controlModifier ControlAggregate.notTested.value = 1 / 10 := rfl

theorem controlModifier_le_failed (outcome : ControlAggregate) :
    controlModifier outcome.value ≤ controlModifier ControlAggregate.failed.value := by
  rw [controlModifier_failed]
  cases outcome with
  | passed => norm_num [controlModifier_pass]
  | failed => norm_num [controlModifier_failed]
  | partly => norm_num [controlModifier_partly]
  | notTested => norm_num [controlModifier_notTested]

/-! ## The evidence quality -/

/-- A number. -/
def numberOf : Value → Option ℚ
  | .int n => some n
  | .bool b => some (if b then 1 else 0)
  | .float (.finite d) => some d.value
  | _ => none

theorem numberOf_zero_iff {v : Value} {q : ℚ} (h : numberOf v = some q) :
    v.truthy = false ↔ q = 0 := by
  cases v with
  | none => cases h
  | str s => cases h
  | list xs => cases h
  | dict kvs => cases h
  | bool b =>
    obtain rfl := Option.some.inj h
    cases b <;> simp [Value.truthy]
  | int n =>
    obtain rfl := Option.some.inj h
    simp [Value.truthy]
  | float x =>
    cases x with
    | inf neg => cases h
    | nan => cases h
    | finite d =>
      obtain rfl := Option.some.inj h
      have hsign : (if d.neg then -1 else 1 : ℚ) ≠ 0 := by split_ifs <;> norm_num
      have hpower : (10 : ℚ) ^ d.exponent ≠ 0 := zpow_ne_zero _ (by norm_num)
      unfold Value.truthy Decimal.value
      rw [mul_eq_zero_iff_right hpower, mul_eq_zero_iff_left hsign, Nat.cast_eq_zero]
      simp

theorem floatOfInt_one : ∃ x, floatOfInt 1 = .ok x ∧ clampUnit x = 1 := by
  refine ⟨.one, by decide +kernel, ?_⟩
  decide +kernel

/-- A number in the unit interval is read as it is. -/
theorem toFloat_number (ofText : String → Option FloatVal) {v : Value} {q : ℚ}
    (h : numberOf v = some q) (hpos : 0 < q) (hle : q ≤ 1) :
    ∃ x, v.toFloat ofText = .ok x ∧ clampUnit x = q := by
  cases v with
  | none => cases h
  | str s => cases h
  | list xs => cases h
  | dict kvs => cases h
  | bool b =>
    obtain rfl := Option.some.inj h
    cases b with
    | true => exact floatOfInt_one
    | false => simp at hpos
  | int n =>
    obtain rfl := Option.some.inj h
    obtain rfl : n = 1 := by
      have hn : 0 < n := by exact_mod_cast hpos
      have hn' : n ≤ 1 := by exact_mod_cast hle
      omega
    obtain ⟨x, hx, hone⟩ := floatOfInt_one
    exact ⟨x, hx, hone.trans (by norm_num)⟩
  | float x =>
    cases x with
    | inf neg => cases h
    | nan => cases h
    | finite d =>
      obtain rfl := Option.some.inj h
      refine ⟨.finite d, rfl, ?_⟩
      show max 0 (min 1 d.value) = d.value
      rw [min_eq_right hle, max_eq_right hpos.le]

theorem evidenceQuality_number (ofText : String → Option FloatVal) {incident : Dict} {v : Value}
    {q : ℚ} (hget : incident.get? "confidence" = some v) (hnumber : numberOf v = some q)
    (hpos : 0 < q) (hle : q ≤ 1) :
    ∃ x, evidenceQuality ofText incident = .ok x ∧ clampUnit x = q := by
  have htruthy : v.truthy = true := by
    by_contra hfalse
    have hzero := (numberOf_zero_iff hnumber).mp (by simpa using hfalse)
    linarith
  unfold evidenceQuality
  rw [hget, orElse_true htruthy]
  exact toFloat_number ofText hnumber hpos hle

/-- A confidence of zero counts as a half. -/
theorem evidenceQuality_zero (ofText : String → Option FloatVal) {incident : Dict} {v : Value}
    (hget : incident.get? "confidence" = some v) (hnumber : numberOf v = some 0) :
    ∃ x, evidenceQuality ofText incident = .ok x ∧ clampUnit x = 1 / 2 := by
  unfold evidenceQuality
  rw [hget, orElse_false ((numberOf_zero_iff hnumber).mpr rfl)]
  refine ⟨_, rfl, ?_⟩
  decide +kernel

end RiskScoring
