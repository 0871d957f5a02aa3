import Mathlib.Algebra.Order.BigOperators.Group.List
import NetworkRecovery.DecisionEngine.Scoring

/-!
# Scores in exact arithmetic

In exact arithmetic a score is a formula in a few numbers of the evidence: the weight for the
decision and against it, what of it stands in the dictionaries of components, and how many items
matter to the decision (`scoreCandidate_exact`).
-/

namespace DecisionEngine

open Python LastWriter

/-! ## The numbers -/

section Numbers

variable (candidate : CandidateDecision exact)

/-- The item matters to the candidate. -/
def Relevant (item : EvidenceItem exact) : Prop := 0 < relevance exact candidate item.evidenceId

instance (item : EvidenceItem exact) : Decidable (Relevant candidate item) :=
  inferInstanceAs (Decidable (_ < _))

/-- What the item adds to the weights. -/
def contribution (item : EvidenceItem exact) : ℚ :=
  item.weight.value * relevance exact candidate item.evidenceId

/-- The relevant items, for the decision or against it. -/
def side (supports : Bool) (evidence : List (EvidenceItem exact)) : List (EvidenceItem exact) :=
  evidence.filter fun item => decide (Relevant candidate item) && item.supportsDecision == supports

/-- The weight of a side, item by item. -/
def weightOf (supports : Bool) (evidence : List (EvidenceItem exact)) : ℚ :=
  ((side candidate supports evidence).map (contribution candidate)).sum

/-- How many items matter. -/
def matchedOf (evidence : List (EvidenceItem exact)) : Nat :=
  (evidence.filter fun item => decide (Relevant candidate item)).length

/-- What the items of a side write into their dictionary. -/
def writes (supports : Bool) (scale : ℚ) (evidence : List (EvidenceItem exact)) :
    List (String × ℚ) :=
  (side candidate supports evidence).map fun item =>
    ("evidence:" ++ item.evidenceId, contribution candidate item * scale)

/-- The sum of the risk factors. -/
def factorsOf : ℚ := (candidate.riskFactors.items.map Prod.snd).sum

/-- `support_ratio`, where nothing divided by nothing is nothing. -/
def supportRatioOf (evidence : List (EvidenceItem exact)) : ℚ :=
  weightOf candidate true evidence /
    (weightOf candidate true evidence + weightOf candidate false evidence)

/-- The confidence before it is clamped and rounded. -/
def rawConfidence (evidence : List (EvidenceItem exact)) : ℚ :=
  supportRatioOf candidate evidence *
    (1 / 2 + 1 / 2 * (matchedOf candidate evidence / evidence.length))

end Numbers

/-! ## The constants -/

@[simp] theorem exact_zero : exact.zero = 0 := by
  simp [Arithmetic.zero, exact]

@[simp] theorem exact_one : exact.one = 1 := by
  simp [Arithmetic.one, exact]

theorem weight_nonneg (item : EvidenceItem exact) : 0 ≤ item.weight.value := by
  have h : exact.zero ≤ item.weight.value := of_decide_eq_true item.weight.ge
  exact exact_zero.symm.trans_le h

theorem contribution_nonneg {candidate : CandidateDecision exact} {item : EvidenceItem exact}
    (h : Relevant candidate item) : 0 ≤ contribution candidate item :=
  mul_nonneg (weight_nonneg item) (le_of_lt h)

theorem weightOf_nonneg (candidate : CandidateDecision exact) (supports : Bool)
    (evidence : List (EvidenceItem exact)) : 0 ≤ weightOf candidate supports evidence := by
  apply List.sum_nonneg
  intro x hx
  obtain ⟨item, hitem, rfl⟩ := List.mem_map.mp hx
  have hside := (List.mem_filter.mp hitem).2
  rw [Bool.and_eq_true, decide_eq_true_iff] at hside
  exact contribution_nonneg hside.1

/-! ## The loop -/

section Loop

variable (candidate : CandidateDecision exact)

/-- What the loop has gathered when it ends. -/
def gathered (evidence : List (EvidenceItem exact)) : Tally ℚ where
  benefitParts := puts [("base_benefit", candidate.baseBenefit.value)]
    (writes candidate true 40 evidence)
  riskParts := puts [("base_risk", candidate.baseRisk.value)] (writes candidate false 35 evidence)
  supportingWeight := weightOf candidate true evidence
  totalWeight := weightOf candidate true evidence + weightOf candidate false evidence
  matchedEvidence := matchedOf candidate evidence

/-- One item, behind the others. -/
theorem side_concat (supports : Bool) (evidence : List (EvidenceItem exact))
    (item : EvidenceItem exact) :
    side candidate supports (evidence ++ [item]) = side candidate supports evidence ++
      if Relevant candidate item ∧ item.supportsDecision = supports then [item] else [] := by
  unfold side
  rw [List.filter_append]
  congr 1
  by_cases hrelevant : Relevant candidate item
  · by_cases hsupports : item.supportsDecision = supports
    · simp [hrelevant, hsupports]
    · simp [hrelevant, hsupports]
  · simp [hrelevant]

section Item

variable {candidate} {item : EvidenceItem exact} (tally : Tally ℚ)

theorem le_zero_iff :
    exact.le (relevance exact candidate item.evidenceId) exact.zero = true ↔
      ¬ Relevant candidate item := by
  have hle : exact.le (relevance exact candidate item.evidenceId) exact.zero = true ↔
      relevance exact candidate item.evidenceId ≤ exact.zero := decide_eq_true_iff
  rw [hle, exact_zero]
  exact not_lt.symm

theorem item_irrelevant (h : ¬ Relevant candidate item) :
    Tally.item exact candidate tally item = tally := by
  unfold Tally.item
  exact if_pos (le_zero_iff.mpr h)

theorem item_supporting (h : Relevant candidate item) (hsupports : item.supportsDecision = true) :
    Tally.item exact candidate tally item = { tally with
      benefitParts := put tally.benefitParts ("evidence:" ++ item.evidenceId)
        (contribution candidate item * 40)
      supportingWeight := tally.supportingWeight + contribution candidate item
      totalWeight := tally.totalWeight + contribution candidate item
      matchedEvidence := tally.matchedEvidence + 1 } := by
  have hforty : exact.lit 40 0 = 40 := by simp [exact]
  unfold Tally.item
  dsimp only
  rw [if_neg (fun hle => le_zero_iff.mp hle h), if_pos hsupports, hforty]
  rfl

theorem item_contradicting (h : Relevant candidate item)
    (hsupports : item.supportsDecision = false) :
    Tally.item exact candidate tally item = { tally with
      riskParts := put tally.riskParts ("evidence:" ++ item.evidenceId)
        (contribution candidate item * 35)
      totalWeight := tally.totalWeight + contribution candidate item
      matchedEvidence := tally.matchedEvidence + 1 } := by
  have hthirtyFive : exact.lit 35 0 = 35 := by simp [exact]
  unfold Tally.item
  dsimp only
  rw [if_neg (fun hle => le_zero_iff.mp hle h), if_neg (by rw [hsupports]; exact Bool.false_ne_true),
    hthirtyFive]
  rfl

end Item

theorem weightOf_concat (supports : Bool) (evidence : List (EvidenceItem exact))
    (item : EvidenceItem exact) :
    weightOf candidate supports (evidence ++ [item]) = weightOf candidate supports evidence +
      if Relevant candidate item ∧ item.supportsDecision = supports then
        contribution candidate item else 0 := by
  unfold weightOf
  rw [side_concat, List.map_append, List.sum_append]
  split
  · simp
  · simp

theorem writes_concat (supports : Bool) (scale : ℚ) (evidence : List (EvidenceItem exact))
    (item : EvidenceItem exact) :
    writes candidate supports scale (evidence ++ [item]) =
      writes candidate supports scale evidence ++
        if Relevant candidate item ∧ item.supportsDecision = supports then
          [("evidence:" ++ item.evidenceId, contribution candidate item * scale)] else [] := by
  unfold writes
  rw [side_concat, List.map_append]
  split
  · rfl
  · rfl

theorem matchedOf_concat (evidence : List (EvidenceItem exact)) (item : EvidenceItem exact) :
    matchedOf candidate (evidence ++ [item]) =
      matchedOf candidate evidence + if Relevant candidate item then 1 else 0 := by
  unfold matchedOf
  rw [List.filter_append, List.length_append]
  by_cases hrelevant : Relevant candidate item
  · simp [hrelevant]
  · simp [hrelevant]

/-- One item of the loop. -/
theorem gathered_concat (evidence : List (EvidenceItem exact)) (item : EvidenceItem exact) :
    gathered candidate (evidence ++ [item]) =
      Tally.item exact candidate (gathered candidate evidence) item := by
  have hputs : ∀ (d : List (String × ℚ)) (k : String) (v : ℚ), puts d [(k, v)] = put d k v :=
    fun d k v => rfl
  by_cases hrelevant : Relevant candidate item
  · cases hsupports : item.supportsDecision with
    | true =>
      rw [item_supporting _ hrelevant hsupports]
      simp [gathered, weightOf_concat, writes_concat, matchedOf_concat, hrelevant, hsupports,
        puts_append, hputs, add_right_comm]
    | false =>
      rw [item_contradicting _ hrelevant hsupports]
      simp [gathered, weightOf_concat, writes_concat, matchedOf_concat, hrelevant, hsupports,
        puts_append, hputs, add_assoc]
  · rw [item_irrelevant _ hrelevant]
    simp [gathered, weightOf_concat, writes_concat, matchedOf_concat, hrelevant]

theorem loop_eq (evidence : List (EvidenceItem exact)) :
    evidence.foldl (Tally.item exact candidate) (Tally.start exact candidate) =
      gathered candidate evidence := by
  induction evidence using List.reverseRecOn with
  | nil =>
    have hzero : exact.zero = 0 := exact_zero
    simp [gathered, Tally.start, weightOf, side, writes, matchedOf, puts]
  | append_singleton evidence item ih =>
    rw [List.foldl_append, List.foldl_cons, List.foldl_nil, ih, gathered_concat]

end Loop

/-! ## The components -/

theorem head_append {p : String} (hp : p.toList ≠ []) (x : String) :
    (p ++ x).toList.head? = p.toList.head? := by
  rw [String.toList_append, List.head?_append_of_ne_nil _ hp]

/-- Texts that begin with two characters are different. -/
theorem ne_of_head {a b : String} (h : a.toList.head? ≠ b.toList.head?) : a ≠ b :=
  fun heq => h (congrArg (fun s : String => s.toList.head?) heq)

theorem evidence_key_head (evidenceId : String) :
    ("evidence:" ++ evidenceId).toList.head? = some 'e' := head_append (by decide) evidenceId

theorem factor_key_head (name : String) :
    ("risk_factor:" ++ name).toList.head? = some 'r' := head_append (by decide) name

/-- A key determines what stands behind its first part. -/
theorem key_injective (p : String) : Function.Injective fun name : String => p ++ name :=
  fun _ _ => (String.append_right_inj p).mp

section Components

variable (candidate : CandidateDecision exact) (evidence : List (EvidenceItem exact))

/-- The sum of the benefit components. -/
def benefitSum : ℚ :=
  candidate.baseBenefit.value + total (lasting (writes candidate true 40 evidence))

/-- The sum of the risk components. -/
def riskSum : ℚ :=
  candidate.baseRisk.value + total (lasting (writes candidate false 35 evidence)) +
    factorsOf candidate

theorem writes_head (supports : Bool) (scale : ℚ) :
    ∀ w ∈ writes candidate supports scale evidence, w.1.toList.head? = some 'e' := by
  intro w hw
  obtain ⟨item, -, rfl⟩ := List.mem_map.mp hw
  exact evidence_key_head item.evidenceId

/-- A first component stays beside writes under other keys. -/
theorem total_puts_base {base : String} (value : ℚ) {ws : List (String × ℚ)}
    (h : ∀ w ∈ ws, w.1 ≠ base) : total (puts [(base, value)] ws) = value + total (lasting ws) := by
  have hkept : [(base, value)].filter (fun e => !(ws.map Prod.fst).contains e.1) =
      [(base, value)] := by
    have hfresh : base ∉ ws.map Prod.fst := by
      intro hmem
      obtain ⟨w, hw, hkey⟩ := List.mem_map.mp hmem
      exact h w hw hkey
    simpa using hfresh
  have hnodup : ([(base, value)].map Prod.fst).Nodup := List.nodup_singleton base
  rw [total_puts ws hnodup, hkept]
  congr 1
  exact add_zero value

theorem total_benefitParts :
    total (gathered candidate evidence).benefitParts = benefitSum candidate evidence := by
  apply total_puts_base
  intro w hw
  apply ne_of_head
  rw [writes_head candidate evidence true 40 w hw]
  decide

/-- What the risk factors write. -/
def factorWrites : List (String × ℚ) :=
  (sortedItems candidate.riskFactors.items).map fun factor => ("risk_factor:" ++ factor.1, factor.2)

theorem sortedItems_perm {α : Type} (items : List (String × α)) :
    (sortedItems items).Perm items := List.mergeSort_perm _ _

theorem factorWrites_nodup : ((factorWrites candidate).map Prod.fst).Nodup := by
  have hkeys : (factorWrites candidate).map Prod.fst =
      ((sortedItems candidate.riskFactors.items).map Prod.fst).map fun name =>
        "risk_factor:" ++ name := by
    unfold factorWrites
    rw [List.map_map, List.map_map]
    rfl
  have hperm := (sortedItems_perm candidate.riskFactors.items).map Prod.fst
  rw [hkeys]
  exact (hperm.nodup_iff.mpr candidate.riskFactors.nodup).map (key_injective _)

theorem total_factorWrites : total (factorWrites candidate) = factorsOf candidate := by
  have hvalues : (factorWrites candidate).map Prod.snd =
      (sortedItems candidate.riskFactors.items).map Prod.snd := by
    unfold factorWrites
    rw [List.map_map]
    rfl
  unfold total factorsOf
  rw [hvalues]
  exact ((sortedItems_perm candidate.riskFactors.items).map Prod.snd).sum_eq

theorem addRiskFactors_eq (parts : List (String × ℚ)) :
    addRiskFactors exact candidate parts = puts parts (factorWrites candidate) := by
  unfold addRiskFactors puts factorWrites
  rw [List.foldl_map]

theorem total_riskParts :
    total (addRiskFactors exact candidate (gathered candidate evidence).riskParts) =
      riskSum candidate evidence := by
  have hfactor : ∀ w ∈ factorWrites candidate, ∃ name, w.1 = "risk_factor:" ++ name := by
    intro w hw
    obtain ⟨factor, -, rfl⟩ := List.mem_map.mp hw
    exact ⟨factor.1, rfl⟩
  have happart : ∀ w ∈ writes candidate false 35 evidence,
      w.1 ∉ (factorWrites candidate).map Prod.fst := by
    intro w hw hmem
    obtain ⟨w', hw', hkey⟩ := List.mem_map.mp hmem
    obtain ⟨name, hname⟩ := hfactor w' hw'
    apply ne_of_head _ (hname.symm.trans hkey)
    rw [factor_key_head, writes_head candidate evidence false 35 w hw]
    decide
  have hbase : ∀ w ∈ writes candidate false 35 evidence ++ factorWrites candidate,
      w.1 ≠ "base_risk" := by
    intro w hw
    rcases List.mem_append.mp hw with hw | hw
    · apply ne_of_head
      rw [writes_head candidate evidence false 35 w hw]
      decide
    · obtain ⟨name, hname⟩ := hfactor w hw
      apply ne_of_head
      rw [hname, factor_key_head]
      decide
  have hparts : (gathered candidate evidence).riskParts =
      puts [("base_risk", candidate.baseRisk.value)] (writes candidate false 35 evidence) := rfl
  rw [addRiskFactors_eq, hparts, ← puts_append, total_puts_base _ hbase, lasting_append happart,
    total_append, lasting_of_nodup (factorWrites_nodup candidate), total_factorWrites, ← add_assoc]
  rfl

/-- The quotient that the code takes, which has nothing to divide where nothing is relevant. -/
theorem supportRatio_eq :
    (if exact.lt exact.zero (gathered candidate evidence).totalWeight then
        exact.div (gathered candidate evidence).supportingWeight
          (gathered candidate evidence).totalWeight
      else exact.zero) = supportRatioOf candidate evidence := by
  have hlt : exact.lt exact.zero (gathered candidate evidence).totalWeight = true ↔
      0 < weightOf candidate true evidence + weightOf candidate false evidence := by
    rw [exact_zero]
    exact decide_eq_true_iff
  unfold supportRatioOf
  by_cases hpos : 0 < weightOf candidate true evidence + weightOf candidate false evidence
  · rw [if_pos (hlt.mpr hpos)]
    rfl
  · have hsupporting := weightOf_nonneg candidate true evidence
    have hagainst := weightOf_nonneg candidate false evidence
    have hnone : weightOf candidate true evidence = 0 := by linarith
    rw [if_neg (mt hlt.mp hpos), hnone, zero_div]
    exact exact_zero

theorem coverage_eq :
    (if evidence.isEmpty then exact.zero
      else exact.ratio (gathered candidate evidence).matchedEvidence evidence.length) =
      matchedOf candidate evidence / evidence.length := by
  cases evidence with
  | nil => simp [matchedOf]
  | cons item evidence => rfl

/-- In exact arithmetic every candidate is scored, by these formulas. -/
theorem scoreCandidate_exact :
    ∃ s, scoreCandidate exact candidate evidence = .ok s ∧
      s.benefit = clampScore (roundEven (benefitSum candidate evidence)) ∧
      s.risk = clampScore (roundEven (riskSum candidate evidence)) ∧
      s.confidence = clampConfidence exact (rawConfidence candidate evidence) ∧
      s.finalScore = clampScore (roundEven (s.benefit * s.confidence - s.risk * (35 / 100))) := by
  have hbenefit : exact.sum ((gathered candidate evidence).benefitParts.map Prod.snd) =
      benefitSum candidate evidence := total_benefitParts candidate evidence
  have hrisk : exact.sum ((addRiskFactors exact candidate
      (gathered candidate evidence).riskParts).map Prod.snd) = riskSum candidate evidence :=
    total_riskParts candidate evidence
  have hclamp : ∀ x : ℚ, clampInt exact x = .ok (clampScore (roundEven x)) := fun x => rfl
  have hhalf : exact.lit 5 (-1) = 1 / 2 := by norm_num [exact]
  have hpenalty : exact.lit 35 (-2) = 35 / 100 := by norm_num [exact]
  have hraw : exact.mul
      (if exact.lt exact.zero (gathered candidate evidence).totalWeight then
        exact.div (gathered candidate evidence).supportingWeight
          (gathered candidate evidence).totalWeight
      else exact.zero)
      (exact.add (exact.lit 5 (-1)) (exact.mul (exact.lit 5 (-1))
        (if evidence.isEmpty then exact.zero
        else exact.ratio (gathered candidate evidence).matchedEvidence evidence.length))) =
      rawConfidence candidate evidence := by
    rw [supportRatio_eq, coverage_eq, hhalf]
    rfl
  unfold scoreCandidate
  rw [loop_eq]
  dsimp only
  rw [hbenefit, hrisk, hclamp, hclamp, hraw, hpenalty]
  exact ⟨_, rfl, rfl, rfl, rfl, rfl⟩

end Components

end DecisionEngine
