import NetworkRecovery.Reliability.DecisionLaws
import Mathlib.Tactic.Linarith
import Mathlib.Tactic.NormNum
import Mathlib.Tactic.Positivity
import Mathlib.Tactic.Ring

/-!
# The hypothesis that is accepted

`run_platform_decision` accepts the first of the ranking. Without proof, malware is held down to
0.35 and marked as rejected, and ranked again; but the alternatives begin at 0.30, so that an
external proxy alone puts the rejected hypothesis first. And what counts as proof is a flag among
the names of the signals, so that a signal may bear its name (`acceptsUnrejected_iff`).

Scores are counted in hundredths here.
-/

namespace Reliability

open Python Ranking

/-! ## Scores in hundredths -/

/-- What the flags are worth, in hundredths. -/
def points (base : Nat) (weights : List (String × Nat)) (flags : List String) : Nat :=
  base + (weights.map fun w => if w.1 ∈ flags then w.2 else 0).sum

/-- An entry whose base and weights are hundredths. -/
structure InHundredths (spec : HypothesisSpec) (base : Nat) (weights : List (String × Nat)) :
    Prop where
  base_eq : spec.base = base / 100
  signals_eq : spec.signals = weights.map fun w => (w.1, (w.2 : ℚ) / 100)
  total_le : base + (weights.map Prod.snd).sum ≤ 98

theorem sum_evidence (weights : List (String × Nat)) (flags : List String) :
    ((((weights.map fun w => (w.1, (w.2 : ℚ) / 100)).filter fun signal => signal.1 ∈ flags).map
      Prod.snd).sum : ℚ) =
      ((weights.map fun w => if w.1 ∈ flags then w.2 else 0).sum : Nat) / 100 := by
  induction weights with
  | nil => simp
  | cons w weights ih =>
    rw [List.map_cons, List.map_cons, List.sum_cons]
    by_cases hw : w.1 ∈ flags
    · rw [List.filter_cons_of_pos (by simpa using hw), List.map_cons, List.sum_cons, ih, if_pos hw]
      push_cast
      ring
    · rw [List.filter_cons_of_neg (by simpa using hw), ih, if_neg hw, Nat.zero_add]

theorem points_le (base : Nat) (weights : List (String × Nat)) (flags : List String) :
    points base weights flags ≤ base + (weights.map Prod.snd).sum := by
  refine Nat.add_le_add_left (List.sum_le_sum fun w _ => ?_) base
  split
  · exact Nat.le_refl _
  · exact Nat.zero_le _

/-- No score reaches a bound. -/
theorem InHundredths.score {spec : HypothesisSpec} {base : Nat} {weights : List (String × Nat)}
    (h : InHundredths spec base weights) (flags : List String) :
    spec.score flags = (points base weights flags : ℚ) / 100 := by
  have hpoints : (points base weights flags : ℚ) ≤ 98 := by
    exact_mod_cast (points_le base weights flags).trans h.total_le
  have hsum : spec.base + ((spec.evidence flags).map Prod.snd).sum =
      (points base weights flags : ℚ) / 100 := by
    rw [HypothesisSpec.evidence, h.signals_eq, h.base_eq, sum_evidence, points]
    push_cast
    ring
  have hnonneg : (0 : ℚ) ≤ (points base weights flags : ℚ) / 100 := by positivity
  rw [HypothesisSpec.score, hsum, max_eq_left hnonneg, min_eq_left]
  linarith

def developerToolWeights : List (String × Nat) :=
  [("localhost_proxy_detected", 12), ("wininet_proxy_enabled", 8), ("node_process", 15),
    ("ide_parent", 10), ("allowlist_match", 12)]

def securityProductWeights : List (String × Nat) :=
  [("security_tool_process", 25), ("localhost_proxy_detected", 10)]

def misconfigurationWeights : List (String × Nat) :=
  [("browser_https_failed", 15), ("wininet_proxy_enabled", 10), ("no_listener", 20),
    ("proxy_bypass_succeeded", 12)]

def potentialMalwareWeights : List (String × Nat) :=
  [("unresolved_path", 15), ("external_proxy", 25), ("proof_confirmed_unauthorized", 30)]

theorem developerTool_inHundredths : InHundredths developerToolSpec 25 developerToolWeights :=
  ⟨by norm_num [developerToolSpec], by norm_num [developerToolSpec, developerToolWeights],
    by decide⟩

theorem securityProduct_inHundredths : InHundredths securityProductSpec 20 securityProductWeights :=
  ⟨by norm_num [securityProductSpec], by norm_num [securityProductSpec, securityProductWeights],
    by decide⟩

theorem misconfiguration_inHundredths :
    InHundredths misconfigurationSpec 30 misconfigurationWeights :=
  ⟨by norm_num [misconfigurationSpec], by norm_num [misconfigurationSpec, misconfigurationWeights],
    by decide⟩

theorem potentialMalware_inHundredths :
    InHundredths potentialMalwareSpec 10 potentialMalwareWeights :=
  ⟨by norm_num [potentialMalwareSpec], by norm_num [potentialMalwareSpec, potentialMalwareWeights],
    by decide⟩

/-! ## Who comes first -/

theorem adjusted_eq_self {h : RankedHypothesis} (hcategory : h.category ≠ .potentialMalware)
    (flags : List String) : h.adjusted flags = h :=
  if_neg fun hmalware => hcategory hmalware.1

theorem confidence_adjusted_malware (flags : List String) :
    ((potentialMalwareSpec.ranked flags).adjusted flags).confidence =
      ((if "proof_confirmed" ∈ flags then points 10 potentialMalwareWeights flags
        else min (points 10 potentialMalwareWeights flags) 35 : Nat) : ℚ) / 100 := by
  have hscore := potentialMalware_inHundredths.score flags
  unfold RankedHypothesis.adjusted
  by_cases hproof : "proof_confirmed" ∈ flags
  · rw [if_neg fun h => h.2 hproof, if_pos hproof]
    exact hscore
  · rw [if_pos ⟨rfl, hproof⟩, if_neg hproof, Nat.cast_min]
    show min (potentialMalwareSpec.score flags) (35 / 100) = _
    rw [hscore, min_div_div_right (by norm_num)]
    rfl

/-- Malware is put before a rival that it outscores, if what it is held down to is no less than the
rival. -/
theorem not_prevails_malware_iff {spec : HypothesisSpec} {base : Nat}
    {weights : List (String × Nat)} (hspec : InHundredths spec base weights)
    (hcategory : spec.category ≠ .potentialMalware) (flags : List String) :
    ¬ Prevails flags (spec.ranked flags) (potentialMalwareSpec.ranked flags) ↔
      points base weights flags < points 10 potentialMalwareWeights flags ∧
        ("proof_confirmed" ∈ flags ∨ points base weights flags ≤ 35) := by
  have hrival : ((spec.ranked flags).adjusted flags).confidence =
      (points base weights flags : ℚ) / 100 := by
    rw [adjusted_eq_self hcategory]
    exact hspec.score flags
  have hle : ∀ a b : Nat, (a : ℚ) / 100 ≤ (b : ℚ) / 100 ↔ a ≤ b := by
    intro a b
    rw [div_le_div_iff_of_pos_right (by norm_num), Nat.cast_le]
  unfold Prevails Tiebreak OutscoresAdjusted Outscores
  rw [hrival, confidence_adjusted_malware,
    show (spec.ranked flags).confidence = _ from hspec.score flags,
    show (potentialMalwareSpec.ranked flags).confidence = _ from
      potentialMalware_inHundredths.score flags, hle, hle, hle]
  split
  · next hproof =>
    simp only [hproof, true_or, and_true]
    omega
  · next hproof =>
    simp only [hproof, false_or]
    omega

/-- The flags that put malware first. Where one of them is named like the proof, malware has to
outscore its rivals. Where none is, it is held down to 0.35: it takes a flag worth so much, none of
a rival worth more, and one more flag against an IDE. -/
def MalwareLeads (flags : List String) : Prop :=
  let has (flag : String) : Nat := if flag ∈ flags then 1 else 0
  if "proof_confirmed" ∈ flags then
    let malware := 10 + 15 * has "unresolved_path" + 25 * has "external_proxy" +
      30 * has "proof_confirmed_unauthorized"
    25 + 12 * has "localhost_proxy_detected" + 8 * has "wininet_proxy_enabled" +
      15 * has "node_process" + 10 * has "ide_parent" + 12 * has "allowlist_match" < malware ∧
    20 + 25 * has "security_tool_process" + 10 * has "localhost_proxy_detected" < malware ∧
    30 + 15 * has "browser_https_failed" + 10 * has "wininet_proxy_enabled" +
      20 * has "no_listener" + 12 * has "proxy_bypass_succeeded" < malware
  else
    (∀ flag ∈ ["localhost_proxy_detected", "wininet_proxy_enabled", "node_process",
      "allowlist_match", "security_tool_process", "browser_https_failed", "no_listener",
      "proxy_bypass_succeeded"], flag ∉ flags) ∧
    ("proof_confirmed_unauthorized" ∈ flags ∨
      ("external_proxy" ∈ flags ∧ ("ide_parent" ∈ flags → "unresolved_path" ∈ flags)))

/-- The condition, by the points of the four. -/
theorem malwareLeads_iff_points (flags : List String) :
    MalwareLeads flags ↔
      ∀ rival ∈ [(25, developerToolWeights), (20, securityProductWeights),
          (30, misconfigurationWeights)],
        points rival.1 rival.2 flags < points 10 potentialMalwareWeights flags ∧
          ("proof_confirmed" ∈ flags ∨ points rival.1 rival.2 flags ≤ 35) := by
  -- each flag counts 0 or 1
  obtain ⟨has, hhas⟩ : ∃ has : String → Nat, has = fun flag => if flag ∈ flags then 1 else 0 :=
    ⟨_, rfl⟩
  have hle : ∀ flag, has flag ≤ 1 := by
    intro flag
    rw [hhas]
    dsimp only
    split <;> decide
  have hmem : ∀ flag, flag ∈ flags ↔ has flag = 1 := by
    intro flag
    rw [hhas]
    by_cases hflag : flag ∈ flags <;> simp [hflag]
  have hweight : ∀ flag weight, (if has flag = 1 then weight else 0) = weight * has flag := by
    intro flag weight
    have := hle flag
    split
    · next hone => rw [hone, Nat.mul_one]
    · next hzero => rw [show has flag = 0 by omega, Nat.mul_zero]
  unfold MalwareLeads points developerToolWeights securityProductWeights misconfigurationWeights
    potentialMalwareWeights
  simp only [List.map_cons, List.map_nil, List.sum_cons, List.sum_nil, List.forall_mem_cons,
    List.not_mem_nil, false_implies, implies_true, and_true, hmem, hweight]
  have hlocalhost := hle "localhost_proxy_detected"
  have hproxy := hle "wininet_proxy_enabled"
  have hnode := hle "node_process"
  have hide := hle "ide_parent"
  have hlisted := hle "allowlist_match"
  have hsecurity := hle "security_tool_process"
  have hbrowser := hle "browser_https_failed"
  have hlistener := hle "no_listener"
  have hbypass := hle "proxy_bypass_succeeded"
  have hpath := hle "unresolved_path"
  have hexternal := hle "external_proxy"
  have hunauthorized := hle "proof_confirmed_unauthorized"
  split
  · omega
  · omega

/-- Malware is the best of the catalog exactly under those flags. -/
theorem best_eq_malware_iff (flags : List String) :
    best (Prevails flags) (hypothesisCatalog.map (·.ranked flags)) =
      some (potentialMalwareSpec.ranked flags) ↔ MalwareLeads flags := by
  have hcategory : ∀ spec ∈ [developerToolSpec, securityProductSpec, misconfigurationSpec],
      spec.category ≠ .potentialMalware := by decide
  have hne : ∀ h ∈ [developerToolSpec, securityProductSpec, misconfigurationSpec].map
      (·.ranked flags), h ≠ potentialMalwareSpec.ranked flags := by
    intro h hh heq
    obtain ⟨spec, hspec, rfl⟩ := List.mem_map.mp hh
    exact hcategory spec hspec (congrArg RankedHypothesis.category heq)
  have hcatalog : hypothesisCatalog.map (·.ranked flags) =
      [developerToolSpec, securityProductSpec, misconfigurationSpec].map (·.ranked flags) ++
        [potentialMalwareSpec.ranked flags] := rfl
  rw [hcatalog, best_append_singleton hne, malwareLeads_iff_points]
  simp only [List.map_cons, List.map_nil, List.forall_mem_cons, List.not_mem_nil, false_implies,
    implies_true, and_true]
  rw [not_prevails_malware_iff developerTool_inHundredths (by decide),
    not_prevails_malware_iff securityProduct_inHundredths (by decide),
    not_prevails_malware_iff misconfiguration_inHundredths (by decide)]

/-- The first of the ranking is an alternative to malware, and not rejected. -/
def Unrejected (ranking : List RankedHypothesis) : Prop :=
  ∃ h, ranking.head? = some h ∧ h.category ≠ .potentialMalware ∧ h.rejectedReason = none

theorem unrejected_rankFlags_iff (flags : List String) :
    Unrejected (rankFlags flags) ↔ ¬ MalwareLeads flags := by
  obtain ⟨h, hbest⟩ : ∃ h, best (Prevails flags) (hypothesisCatalog.map (·.ranked flags)) = some h :=
    ⟨_, rfl⟩
  have hhead : (rankFlags flags).head? = some (h.adjusted flags) := by
    rw [head?_rankFlags, hbest]
    rfl
  obtain ⟨spec, hspec, rfl⟩ := List.mem_map.mp (best_mem hbest)
  have hcategory : ((spec.ranked flags).adjusted flags).category = spec.category := by
    unfold RankedHypothesis.adjusted
    split <;> rfl
  rw [← best_eq_malware_iff, hbest, Option.some_inj]
  constructor
  · rintro ⟨h, hfirst, halternative, -⟩ hmalware
    obtain rfl := Option.some.inj (hhead.symm.trans hfirst)
    exact halternative (hcategory.trans (congrArg RankedHypothesis.category hmalware))
  · intro hnot
    have halternative : spec.category ≠ .potentialMalware := by
      intro hmalware
      simp only [hypothesisCatalog, List.mem_cons, List.not_mem_nil, or_false] at hspec
      rcases hspec with rfl | rfl | rfl | rfl
      · cases hmalware
      · cases hmalware
      · cases hmalware
      · exact hnot rfl
    refine ⟨_, hhead, fun hmalware => halternative (hcategory.symm.trans hmalware), ?_⟩
    rw [adjusted_eq_self halternative]
    rfl

/-- What the ranking of unproved events should be. -/
def AcceptsUnrejected (events : List NormalizedPlatformEvent) (context : Dict) : Prop :=
  (∀ e ∈ events, e.evidenceTier ≠ .causalProof) → Unrejected (rankHypotheses events context)

/-- Without proof the accepted hypothesis is one that is not rejected, exactly unless the flags put
malware first. -/
theorem acceptsUnrejected_iff (events : List NormalizedPlatformEvent) (context : Dict) :
    AcceptsUnrejected events context ↔
      ((∀ e ∈ events, e.evidenceTier ≠ .causalProof) →
        ¬ MalwareLeads (deriveSignalFlags events context)) :=
  imp_congr_right fun _ => unrejected_rankFlags_iff _

/-- An external proxy and nothing else: malware is rejected, and accepted. -/
theorem rejected_malware_accepted :
    let ranking := rankHypotheses [] [("external_proxy", .bool true)]
    ¬ AcceptsUnrejected [] [("external_proxy", .bool true)] ∧
      ranking.head?.map RankedHypothesis.category = some .potentialMalware ∧
      ranking.head?.map RankedHypothesis.rejectedReason =
        some (some "Elevated malware hypothesis requires proof-tier evidence.") := by
  have hfirst : (rankHypotheses [] [("external_proxy", .bool true)]).head?.map
      RankedHypothesis.category = some .potentialMalware := by decide +kernel
  refine ⟨fun h => ?_, hfirst, by decide +kernel⟩
  obtain ⟨h, hhead, halternative, -⟩ := h fun e he => absurd he List.not_mem_nil
  rw [hhead] at hfirst
  exact halternative (Option.some.inj hfirst)

end Reliability
