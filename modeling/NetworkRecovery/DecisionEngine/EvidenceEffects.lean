import Mathlib.Algebra.BigOperators.Ring.List
import Mathlib.Tactic.FieldSimp
import Mathlib.Tactic.GCongr
import Mathlib.Tactic.Positivity
import NetworkRecovery.DecisionEngine.ScoreLaws

/-!
# What evidence does to a score

An item for a decision raises its score (`supporting_never_hurts`). One against it raises the risk,
but also the share of the evidence that matters, and with it the confidence unless it outweighs
that (`contradicting_outweighed`). An item whose id comes again on its side is lost to the benefit
or the risk, and not to the confidence (`scores_account_iff`).
-/

namespace DecisionEngine

open Python LastWriter

/-! ## Repeated ids -/

/-- The items of a list whose id comes again behind them. -/
def overwritten : List (EvidenceItem exact) → List (EvidenceItem exact)
  | [] => []
  | item :: items =>
    if item.evidenceId ∈ items.map (·.evidenceId) then item :: overwritten items
    else overwritten items

section Account

variable (candidate : CandidateDecision exact) (evidence : List (EvidenceItem exact))

/-- The weight that a side loses to repeated ids. -/
def lostOf (supports : Bool) : ℚ :=
  ((overwritten (side candidate supports evidence)).map (contribution candidate)).sum

/-- The benefit and the risk are those of all relevant items. -/
def ScoresAccount : Prop :=
  ∀ s, scoreCandidate exact candidate evidence = .ok s →
    s.benefit = clampScore (roundEven
        (candidate.baseBenefit.value + 40 * weightOf candidate true evidence)) ∧
      s.risk = clampScore (roundEven (candidate.baseRisk.value +
        35 * weightOf candidate false evidence + factorsOf candidate))

theorem total_scaled (items : List (EvidenceItem exact)) (scale : ℚ) :
    total (items.map fun item => ("evidence:" ++ item.evidenceId, contribution candidate item * scale)) =
      (items.map (contribution candidate)).sum * scale := by
  unfold total
  rw [List.map_map, ← List.sum_map_mul_right]
  rfl

/-- The writes that are replaced are those of the items whose id comes again. -/
theorem replaced_map (items : List (EvidenceItem exact)) (scale : ℚ) :
    replaced (items.map fun item =>
        ("evidence:" ++ item.evidenceId, contribution candidate item * scale)) =
      (overwritten items).map fun item =>
        ("evidence:" ++ item.evidenceId, contribution candidate item * scale) := by
  induction items with
  | nil => rfl
  | cons item items ih =>
    have hkeys : "evidence:" ++ item.evidenceId ∈ (items.map fun item =>
        ("evidence:" ++ item.evidenceId, contribution candidate item * scale)).map Prod.fst ↔
          item.evidenceId ∈ items.map (·.evidenceId) := by
      rw [List.map_map]
      constructor
      · intro hmem
        obtain ⟨other, hother, hkey⟩ := List.mem_map.mp hmem
        exact List.mem_map.mpr ⟨other, hother, key_injective _ hkey⟩
      · intro hmem
        obtain ⟨other, hother, hid⟩ := List.mem_map.mp hmem
        exact List.mem_map.mpr ⟨other, hother, congrArg ("evidence:" ++ ·) hid⟩
    rw [List.map_cons, replaced, overwritten, ih]
    by_cases hlater : item.evidenceId ∈ items.map (·.evidenceId)
    · rw [if_pos (hkeys.mpr hlater), if_pos hlater, List.map_cons]
    · rw [if_neg (mt hkeys.mp hlater), if_neg hlater]

/-- What stands in a dictionary is the weight of its side without what is lost. -/
theorem total_lasting_writes (supports : Bool) (scale : ℚ) :
    total (lasting (writes candidate supports scale evidence)) =
      weightOf candidate supports evidence * scale - lostOf candidate evidence supports * scale := by
  have hreplaced : total (replaced (writes candidate supports scale evidence)) =
      lostOf candidate evidence supports * scale := by
    unfold writes
    rw [replaced_map, total_scaled]
    rfl
  have hall : total (writes candidate supports scale evidence) =
      weightOf candidate supports evidence * scale := total_scaled candidate _ scale
  rw [← hreplaced, ← hall, ← total_lasting_add_replaced (writes candidate supports scale evidence)]
  exact (add_sub_cancel_right _ _).symm

/-- The scores account for all evidence exactly when what is lost to repeated ids does not show
after rounding and clamping. -/
theorem scores_account_iff :
    ScoresAccount candidate evidence ↔
      clampScore (roundEven (candidate.baseBenefit.value + 40 * weightOf candidate true evidence -
          40 * lostOf candidate evidence true)) =
        clampScore (roundEven
          (candidate.baseBenefit.value + 40 * weightOf candidate true evidence)) ∧
      clampScore (roundEven (candidate.baseRisk.value + 35 * weightOf candidate false evidence +
          factorsOf candidate - 35 * lostOf candidate evidence false)) =
        clampScore (roundEven (candidate.baseRisk.value +
          35 * weightOf candidate false evidence + factorsOf candidate)) := by
  obtain ⟨s, hs, hbenefit, hrisk, -, -⟩ := scoreCandidate_exact candidate evidence
  have hbenefitSum : benefitSum candidate evidence = candidate.baseBenefit.value +
      40 * weightOf candidate true evidence - 40 * lostOf candidate evidence true := by
    unfold benefitSum
    rw [total_lasting_writes]
    ring
  have hriskSum : riskSum candidate evidence = candidate.baseRisk.value +
      35 * weightOf candidate false evidence + factorsOf candidate -
        35 * lostOf candidate evidence false := by
    unfold riskSum
    rw [total_lasting_writes]
    ring
  rw [← hbenefitSum, ← hriskSum, ← hbenefit, ← hrisk]
  constructor
  · intro haccount
    exact haccount s hs
  · intro haccount s' hs'
    obtain rfl := Except.ok.inj (hs.symm.trans hs')
    exact haccount

end Account

/-- A candidate that all evidence bears on. -/
def closeTunnel : CandidateDecision exact where
  decisionId := "close_tunnel"
  label := "Close the tunnel"
  baseBenefit := ⟨0, by decide +kernel, by decide +kernel⟩
  baseRisk := ⟨0, by decide +kernel, by decide +kernel⟩
  evidenceRelevance := ⟨[], List.nodup_nil⟩
  riskFactors := ⟨[], List.nodup_nil⟩

/-- Half a reason for a decision. -/
def tunnelOpen : EvidenceItem exact where
  evidenceId := "tunnel_open"
  label := "Tunnel open"
  weight := ⟨1 / 2, by decide +kernel, by decide +kernel⟩

/-- The same observation twice counts once for the benefit. -/
theorem repeated_id_lost : ¬ ScoresAccount closeTunnel [tunnelOpen, tunnelOpen] := by
  intro haccount
  have hbenefit : (scoreCandidate exact closeTunnel [tunnelOpen, tunnelOpen]).map (·.benefit) =
      .ok 20 := by decide +kernel
  have hall : clampScore (roundEven (closeTunnel.baseBenefit.value +
      40 * weightOf closeTunnel true [tunnelOpen, tunnelOpen])) = 40 := by decide +kernel
  obtain ⟨s, hs, hscore⟩ := map_ok.mp hbenefit
  have hcounted := (haccount s hs).1
  rw [hscore, hall] at hcounted
  cases hcounted

/-! ## One more item -/

section Insert

variable {candidate : CandidateDecision exact} {front back : List (EvidenceItem exact)}
  {item : EvidenceItem exact}

theorem side_insert (supports : Bool) (h : Relevant candidate item) :
    side candidate supports (front ++ item :: back) = side candidate supports front ++
      ((if item.supportsDecision = supports then [item] else []) ++
        side candidate supports back) := by
  unfold side
  rw [List.filter_append, List.filter_cons]
  by_cases hsupports : item.supportsDecision = supports
  · simp [h, hsupports]
  · simp [h, hsupports]

theorem side_append (supports : Bool) :
    side candidate supports (front ++ back) =
      side candidate supports front ++ side candidate supports back := List.filter_append ..

/-- The item adds to the weight of its side. -/
theorem weightOf_insert (h : Relevant candidate item) :
    weightOf candidate item.supportsDecision (front ++ item :: back) =
      weightOf candidate item.supportsDecision (front ++ back) + contribution candidate item := by
  unfold weightOf
  rw [side_insert _ h, side_append, if_pos rfl]
  simp only [List.map_append, List.sum_append, List.map_cons, List.map_nil, List.sum_cons,
    List.sum_nil]
  ring

/-- The other side stays as it is. -/
theorem side_insert_other (h : Relevant candidate item) {supports : Bool}
    (hother : item.supportsDecision ≠ supports) :
    side candidate supports (front ++ item :: back) = side candidate supports (front ++ back) := by
  rw [side_insert _ h, side_append, if_neg hother, List.nil_append]

theorem matchedOf_insert (h : Relevant candidate item) :
    matchedOf candidate (front ++ item :: back) = matchedOf candidate (front ++ back) + 1 := by
  unfold matchedOf
  rw [List.filter_append, List.filter_append, List.filter_cons, if_pos (by simpa using h)]
  simp only [List.length_append, List.length_cons]
  omega

theorem length_insert :
    (front ++ item :: back).length = (front ++ back).length + 1 := by
  simp only [List.length_append, List.length_cons]
  omega

/-- A new id adds a component of its own. -/
theorem total_lasting_writes_insert (h : Relevant candidate item)
    (hnew : ∀ other ∈ front ++ back, other.evidenceId ≠ item.evidenceId) (scale : ℚ) :
    total (lasting (writes candidate item.supportsDecision scale (front ++ item :: back))) =
      contribution candidate item * scale +
        total (lasting (writes candidate item.supportsDecision scale (front ++ back))) := by
  have hside : ∀ evidence, ∀ other ∈ side candidate item.supportsDecision evidence,
      other ∈ evidence := fun evidence other hother => (List.mem_filter.mp hother).1
  unfold writes
  rw [side_insert _ h, side_append, if_pos rfl]
  simp only [List.map_append, List.map_cons, List.singleton_append]
  rw [total_lasting_insert]
  intro e he
  rw [← List.map_append] at he
  obtain ⟨other, hother, rfl⟩ := List.mem_map.mp he
  have hmem : other ∈ front ++ back := by
    rcases List.mem_append.mp hother with hfront | hback
    · exact List.mem_append_left _ (hside front other hfront)
    · exact List.mem_append_right _ (hside back other hback)
  exact fun hkey => hnew other hmem (key_injective _ hkey)

end Insert

/-! ## Rounding and clamping -/

theorem clampScore_mono {m n : ℤ} (h : m ≤ n) : clampScore m ≤ clampScore n := by
  unfold clampScore
  omega

theorem clampScore_nonneg (n : ℤ) : 0 ≤ clampScore n := le_max_left _ _

/-- A benefit has been clamped. -/
theorem benefit_nonneg {s : ScoredDecision ℚ} {n : ℤ} (h : s.benefit = clampScore n) :
    (0 : ℚ) ≤ s.benefit := by
  rw [h]
  exact_mod_cast clampScore_nonneg n

theorem exact_max (x y : ℚ) : exact.max x y = max x y := by
  rw [max_def_lt]
  exact if_congr decide_eq_true_iff rfl rfl

theorem exact_min (x y : ℚ) : exact.min x y = min x y := by
  rw [min_comm, min_def_lt]
  exact if_congr decide_eq_true_iff rfl rfl

theorem clampConfidence_exact (value : ℚ) :
    clampConfidence exact value = roundEven (max 0 (min 1 value) * 10 ^ 4) / 10 ^ 4 := by
  unfold clampConfidence
  rw [exact_max, exact_min, exact_zero, exact_one]
  rfl

theorem clampConfidence_mono {x y : ℚ} (h : x ≤ y) :
    clampConfidence exact x ≤ clampConfidence exact y := by
  rw [clampConfidence_exact, clampConfidence_exact]
  have hclamp : max 0 (min 1 x) ≤ max 0 (min 1 y) := max_le_max le_rfl (min_le_min le_rfl h)
  have hround := roundEven_mono (mul_le_mul_of_nonneg_right hclamp (by norm_num : (0 : ℚ) ≤ 10 ^ 4))
  gcongr

theorem clampConfidence_nonneg (x : ℚ) : 0 ≤ clampConfidence exact x := by
  rw [clampConfidence_exact]
  have hclamp : (0 : ℚ) ≤ max 0 (min 1 x) * 10 ^ 4 := by positivity
  have hround : (0 : ℚ) ≤ roundEven (max 0 (min 1 x) * 10 ^ 4) := by
    exact_mod_cast roundEven_nonneg hclamp
  positivity

/-! ## The ratios -/

section Ratios

variable (candidate : CandidateDecision exact) (evidence : List (EvidenceItem exact))

theorem matchedOf_le : matchedOf candidate evidence ≤ evidence.length := List.length_filter_le _ _

theorem supportRatioOf_nonneg : 0 ≤ supportRatioOf candidate evidence := by
  have hsupporting := weightOf_nonneg candidate true evidence
  have hagainst := weightOf_nonneg candidate false evidence
  exact div_nonneg hsupporting (add_nonneg hsupporting hagainst)

end Ratios

/-- More of what is for it is a greater share. -/
theorem share_mono {s a c : ℚ} (hs : 0 ≤ s) (ha : 0 ≤ a) (hc : 0 ≤ c) :
    s / (s + a) ≤ (s + c) / (s + c + a) := by
  obtain hzero | hpos := (add_nonneg hs ha).eq_or_lt
  · rw [← hzero, div_zero]
    positivity
  · rw [div_le_div_iff₀ hpos (by linarith)]
    nlinarith

/-- One more that matters is a greater part of them all. -/
theorem coverage_mono {m n : ℕ} (h : m ≤ n) : (m : ℚ) / n ≤ ((m + 1 : ℕ) : ℚ) / (n + 1 : ℕ) := by
  obtain rfl | hn := Nat.eq_zero_or_pos n
  · rw [Nat.cast_zero, div_zero]
    positivity
  · have hpos : (0 : ℚ) < n := by exact_mod_cast hn
    have hle : (m : ℚ) ≤ n := by exact_mod_cast h
    rw [div_le_div_iff₀ hpos (by positivity)]
    push_cast
    nlinarith

section Supporting

variable {candidate : CandidateDecision exact} {front back : List (EvidenceItem exact)}
  {item : EvidenceItem exact}

theorem rawConfidence_supporting (h : Relevant candidate item)
    (hsupports : item.supportsDecision = true) :
    rawConfidence candidate (front ++ back) ≤ rawConfidence candidate (front ++ item :: back) := by
  have hweight : weightOf candidate true (front ++ item :: back) =
      weightOf candidate true (front ++ back) + contribution candidate item := by
    rw [← hsupports]
    exact weightOf_insert h
  have hagainst : weightOf candidate false (front ++ item :: back) =
      weightOf candidate false (front ++ back) := by
    unfold weightOf
    rw [side_insert_other h (by rw [hsupports]; exact Bool.true_eq_false_eq_False)]
  have hratio : supportRatioOf candidate (front ++ back) ≤
      supportRatioOf candidate (front ++ item :: back) := by
    have hnonneg := weightOf_nonneg candidate true (front ++ back)
    have hagainst_nonneg := weightOf_nonneg candidate false (front ++ back)
    unfold supportRatioOf
    rw [hweight, hagainst]
    exact share_mono hnonneg hagainst_nonneg (contribution_nonneg h)
  have hcoverage := coverage_mono (matchedOf_le candidate (front ++ back))
  unfold rawConfidence
  rw [matchedOf_insert h, length_insert]
  have hpart : (0 : ℚ) ≤ 1 / 2 + 1 / 2 *
      (matchedOf candidate (front ++ back) / (front ++ back).length) := by positivity
  exact mul_le_mul hratio (by linarith) hpart (supportRatioOf_nonneg candidate _)

/-- Supporting evidence never hurts: the benefit, the confidence and the final score do not fall,
and the risk stays. -/
theorem supporting_never_hurts (candidate : CandidateDecision exact)
    (front back : List (EvidenceItem exact)) (item : EvidenceItem exact)
    (hnew : ∀ other ∈ front ++ back, other.evidenceId ≠ item.evidenceId)
    (hsupports : item.supportsDecision = true)
    (hrelevant : 0 < relevance exact candidate item.evidenceId) :
    ∃ s s', scoreCandidate exact candidate (front ++ back) = .ok s ∧
      scoreCandidate exact candidate (front ++ item :: back) = .ok s' ∧
      s.benefit ≤ s'.benefit ∧ s.confidence ≤ s'.confidence ∧ s.finalScore ≤ s'.finalScore ∧
      s'.risk = s.risk := by
  obtain ⟨s, hs, hbenefit, hrisk, hconfidence, hfinal⟩ :=
    scoreCandidate_exact candidate (front ++ back)
  obtain ⟨s', hs', hbenefit', hrisk', hconfidence', hfinal'⟩ :=
    scoreCandidate_exact candidate (front ++ item :: back)
  have hbenefits : s.benefit ≤ s'.benefit := by
    rw [hbenefit, hbenefit']
    apply clampScore_mono
    apply roundEven_mono
    have hinsert := total_lasting_writes_insert hrelevant hnew 40
    rw [hsupports] at hinsert
    have hadded := contribution_nonneg hrelevant
    unfold benefitSum
    rw [hinsert]
    linarith
  have hrisks : s'.risk = s.risk := by
    rw [hrisk, hrisk']
    unfold riskSum writes
    rw [side_insert_other hrelevant (by rw [hsupports]; exact Bool.true_eq_false_eq_False)]
  have hconfidences : s.confidence ≤ s'.confidence := by
    rw [hconfidence, hconfidence']
    exact clampConfidence_mono (rawConfidence_supporting hrelevant hsupports)
  refine ⟨s, s', hs, hs', hbenefits, hconfidences, ?_, hrisks⟩
  rw [hfinal, hfinal', hrisks]
  apply clampScore_mono
  apply roundEven_mono
  have hconfidence_nonneg : 0 ≤ s.confidence := hconfidence ▸ clampConfidence_nonneg _
  have hbenefit_nonneg := benefit_nonneg hbenefit'
  have hbenefits_cast : (s.benefit : ℚ) ≤ s'.benefit := by exact_mod_cast hbenefits
  have hproduct := mul_le_mul hbenefits_cast hconfidences hconfidence_nonneg hbenefit_nonneg
  linarith

/-- The open tunnel and one more reason to close it. -/
theorem supporting_never_hurts_tunnel :
    ∃ s s', scoreCandidate exact closeTunnel ([tunnelOpen] ++ []) = .ok s ∧
      scoreCandidate exact closeTunnel
        ([tunnelOpen] ++ { tunnelOpen with evidenceId := "tunnel_owner" } :: []) = .ok s' ∧
      s.benefit ≤ s'.benefit ∧ s.confidence ≤ s'.confidence ∧ s.finalScore ≤ s'.finalScore ∧
      s'.risk = s.risk :=
  supporting_never_hurts closeTunnel [tunnelOpen] []
    { tunnelOpen with evidenceId := "tunnel_owner" } (by decide) rfl (by decide +kernel)

end Supporting

/-! ## Evidence against -/

section Contradicting

variable {candidate : CandidateDecision exact} {front back : List (EvidenceItem exact)}
  {item : EvidenceItem exact}

/-- An item against a decision does not raise its confidence and its score, and does not lower its
risk. -/
def NeverHelps (candidate : CandidateDecision exact) (front back : List (EvidenceItem exact))
    (item : EvidenceItem exact) : Prop :=
  ∀ s s', scoreCandidate exact candidate (front ++ back) = .ok s →
    scoreCandidate exact candidate (front ++ item :: back) = .ok s' →
      s'.confidence ≤ s.confidence ∧ s'.finalScore ≤ s.finalScore ∧ s.risk ≤ s'.risk

/-- What the item takes from the share of the supporting evidence outweighs what it adds to the
share of the evidence that matters. -/
def Outweighs (candidate : CandidateDecision exact) (evidence : List (EvidenceItem exact))
    (item : EvidenceItem exact) : Prop :=
  weightOf candidate true evidence = 0 ∨
    ((evidence.length : ℚ) - matchedOf candidate evidence) *
        (weightOf candidate true evidence + weightOf candidate false evidence) ≤
      (evidence.length + matchedOf candidate evidence) * (evidence.length + 1) *
        contribution candidate item

/-- The two shares, weighed against each other. -/
theorem shares_le_iff {s t c m n : ℚ} (hs : 0 < s) (ht : 0 < t) (hc : 0 ≤ c) (hn : 0 < n) :
    s / (t + c) * (1 / 2 + 1 / 2 * ((m + 1) / (n + 1))) ≤ s / t * (1 / 2 + 1 / 2 * (m / n)) ↔
      (n - m) * t ≤ (n + m) * (n + 1) * c := by
  have htc : 0 < t + c := by linarith
  have hextended : s / (t + c) * (1 / 2 + 1 / 2 * ((m + 1) / (n + 1))) =
      s * (n + m + 2) / (2 * (t + c) * (n + 1)) := by
    field_simp
    ring
  have horiginal : s / t * (1 / 2 + 1 / 2 * (m / n)) = s * (n + m) / (2 * t * n) := by
    field_simp
  rw [hextended, horiginal, div_le_div_iff₀ (by positivity) (by positivity)]
  constructor
  · intro h
    have hscaled : 2 * s * ((n - m) * t) ≤ 2 * s * ((n + m) * (n + 1) * c) := by linarith
    exact le_of_mul_le_mul_left hscaled (by positivity)
  · intro h
    have hscaled := mul_le_mul_of_nonneg_left h (by positivity : 0 ≤ 2 * s)
    linarith

theorem weightOf_contradicting (h : Relevant candidate item)
    (hagainst : item.supportsDecision = false) :
    weightOf candidate true (front ++ item :: back) = weightOf candidate true (front ++ back) ∧
      weightOf candidate false (front ++ item :: back) =
        weightOf candidate false (front ++ back) + contribution candidate item := by
  constructor
  · unfold weightOf
    rw [side_insert_other h (by rw [hagainst]; exact Bool.false_ne_true)]
  · rw [← hagainst]
    exact weightOf_insert h

/-- Before it is rounded the confidence does not rise exactly when the item outweighs what it adds
to the coverage. -/
theorem rawConfidence_contradicting (h : Relevant candidate item)
    (hagainst : item.supportsDecision = false) :
    rawConfidence candidate (front ++ item :: back) ≤ rawConfidence candidate (front ++ back) ↔
      Outweighs candidate (front ++ back) item := by
  obtain ⟨hsupporting, hcontradicting⟩ := weightOf_contradicting h hagainst
  have hs := weightOf_nonneg candidate true (front ++ back)
  have ha := weightOf_nonneg candidate false (front ++ back)
  unfold Outweighs rawConfidence supportRatioOf
  rw [hsupporting, hcontradicting, matchedOf_insert h, length_insert, ← add_assoc]
  obtain hzero | hpos := hs.eq_or_lt
  · rw [← hzero]
    simp
  · have hlength : (0 : ℚ) < (front ++ back).length := by
      have hne : front ++ back ≠ [] := by
        intro hnil
        rw [hnil] at hpos
        exact lt_irrefl _ hpos
      exact_mod_cast List.length_pos_iff.mpr hne
    push_cast
    rw [shares_le_iff hpos (by linarith) (contribution_nonneg h) hlength]
    exact (or_iff_right hpos.ne').symm

/-- Where all the evidence matters, an item adds nothing to the coverage. -/
theorem outweighs_of_relevant {evidence : List (EvidenceItem exact)}
    (hall : ∀ other ∈ evidence, Relevant candidate other) (h : Relevant candidate item) :
    Outweighs candidate evidence item := by
  have hmatched : matchedOf candidate evidence = evidence.length := by
    unfold matchedOf
    rw [List.filter_eq_self.mpr fun other hother => decide_eq_true (hall other hother)]
  right
  rw [hmatched, sub_self, zero_mul]
  have hcontribution := contribution_nonneg h
  positivity

/-- Contradicting evidence never lowers the risk; it raises neither the confidence nor the final
score if it outweighs what it adds to the coverage, which it does exactly when the confidence does
not rise before it is rounded, and always when all the evidence matters. -/
theorem contradicting_outweighed (candidate : CandidateDecision exact)
    (front back : List (EvidenceItem exact)) (item : EvidenceItem exact)
    (hnew : ∀ other ∈ front ++ back, other.evidenceId ≠ item.evidenceId)
    (hagainst : item.supportsDecision = false)
    (hrelevant : 0 < relevance exact candidate item.evidenceId) :
    (∃ s s', scoreCandidate exact candidate (front ++ back) = .ok s ∧
      scoreCandidate exact candidate (front ++ item :: back) = .ok s' ∧
      s'.benefit = s.benefit ∧ s.risk ≤ s'.risk ∧
      (Outweighs candidate (front ++ back) item →
        s'.confidence ≤ s.confidence ∧ s'.finalScore ≤ s.finalScore)) ∧
    (rawConfidence candidate (front ++ item :: back) ≤ rawConfidence candidate (front ++ back) ↔
      Outweighs candidate (front ++ back) item) ∧
    ((∀ other ∈ front ++ back, Relevant candidate other) →
      Outweighs candidate (front ++ back) item) := by
  have hraw := @rawConfidence_contradicting candidate front back item hrelevant hagainst
  refine ⟨?_, hraw, fun hall => outweighs_of_relevant hall hrelevant⟩
  obtain ⟨s, hs, hbenefit, hrisk, hconfidence, hfinal⟩ :=
    scoreCandidate_exact candidate (front ++ back)
  obtain ⟨s', hs', hbenefit', hrisk', hconfidence', hfinal'⟩ :=
    scoreCandidate_exact candidate (front ++ item :: back)
  have hbenefits : s'.benefit = s.benefit := by
    rw [hbenefit, hbenefit']
    unfold benefitSum writes
    rw [side_insert_other hrelevant (by rw [hagainst]; exact Bool.false_ne_true)]
  have hrisks : s.risk ≤ s'.risk := by
    rw [hrisk, hrisk']
    apply clampScore_mono
    apply roundEven_mono
    have hinsert := total_lasting_writes_insert hrelevant hnew 35
    rw [hagainst] at hinsert
    have hadded := contribution_nonneg hrelevant
    unfold riskSum
    rw [hinsert]
    linarith
  refine ⟨s, s', hs, hs', hbenefits, hrisks, ?_⟩
  intro houtweighs
  have hconfidences : s'.confidence ≤ s.confidence := by
    rw [hconfidence, hconfidence']
    exact clampConfidence_mono (hraw.mpr houtweighs)
  refine ⟨hconfidences, ?_⟩
  rw [hfinal, hfinal', hbenefits]
  apply clampScore_mono
  apply roundEven_mono
  have hbenefit_nonneg := benefit_nonneg hbenefit
  have hrisks_cast : (s.risk : ℚ) ≤ s'.risk := by exact_mod_cast hrisks
  have hproduct := mul_le_mul_of_nonneg_left hconfidences hbenefit_nonneg
  linarith

end Contradicting

/-- A candidate that two of the observations bear on. -/
def keepTunnel : CandidateDecision exact :=
  { closeTunnel with
    baseBenefit := ⟨50, by decide +kernel, by decide +kernel⟩
    evidenceRelevance := ⟨[("tunnel_open", 1), ("tunnel_trace", 1)], by decide⟩ }

/-- A faint trace that speaks against the decision. -/
def tunnelTrace : EvidenceItem exact where
  evidenceId := "tunnel_trace"
  label := "Tunnel trace"
  weight := ⟨1 / 100, by decide +kernel, by decide +kernel⟩
  supportsDecision := false

/-- The faint trace makes the decision more certain: more of the evidence matters. -/
theorem faint_trace_helps :
    ¬ ∀ (candidate : CandidateDecision exact) (front back : List (EvidenceItem exact))
      (item : EvidenceItem exact), (∀ other ∈ front ++ back, other.evidenceId ≠ item.evidenceId) →
        item.supportsDecision = false → 0 < relevance exact candidate item.evidenceId →
          NeverHelps candidate front back item := by
  intro h
  have hhelps := h keepTunnel [tunnelOpen, { tunnelOpen with evidenceId := "noise" }] [] tunnelTrace
    (by decide) rfl (by decide +kernel)
  have hbefore : (scoreCandidate exact keepTunnel
      ([tunnelOpen, { tunnelOpen with evidenceId := "noise" }] ++ [])).map (·.finalScore) =
        .ok 52 := by decide +kernel
  have hafter : (scoreCandidate exact keepTunnel
      ([tunnelOpen, { tunnelOpen with evidenceId := "noise" }] ++ tunnelTrace :: [])).map
        (·.finalScore) = .ok 57 := by decide +kernel
  obtain ⟨s, hs, hscore⟩ := map_ok.mp hbefore
  obtain ⟨s', hs', hscore'⟩ := map_ok.mp hafter
  have hfinal := (hhelps s s' hs hs').2.1
  rw [hscore, hscore'] at hfinal
  exact absurd hfinal (by decide)

/-- Where all the evidence matters, the trace does not raise the score. -/
theorem contradicting_outweighed_trace :
    ∃ s s', scoreCandidate exact keepTunnel ([tunnelOpen] ++ []) = .ok s ∧
      scoreCandidate exact keepTunnel ([tunnelOpen] ++ tunnelTrace :: []) = .ok s' ∧
      s'.benefit = s.benefit ∧ s.risk ≤ s'.risk ∧ s'.confidence ≤ s.confidence ∧
      s'.finalScore ≤ s.finalScore := by
  obtain ⟨⟨s, s', hs, hs', hbenefit, hrisk, hlower⟩, -, houtweighs⟩ :=
    contradicting_outweighed keepTunnel [tunnelOpen] [] tunnelTrace (by decide) rfl
      (by decide +kernel)
  have hall : ∀ other ∈ [tunnelOpen] ++ [], Relevant keepTunnel other := by decide +kernel
  exact ⟨s, s', hs, hs', hbenefit, hrisk, hlower (houtweighs hall)⟩

end DecisionEngine
