import NetworkRecovery.Reliability.Decision
import NetworkRecovery.Lib.Ranking
import Mathlib.Algebra.Order.BigOperators.Group.List

/-!
# What decides a decision

The path of the state machine depends on the signals alone, the production policy
allows nothing that is not confirmed, and the hypothesis that is accepted is the best
of the catalog by its score after adjusting, and by its score before where that leaves
a tie (`head?_rankFlags`).
-/

namespace Reliability

open Python Audit Platform Ranking

/-! ## The state of a decision -/

/-- The path depends on the signals only. -/
theorem foldl_step_path {events events' : List NormalizedPlatformEvent}
    (h : signalSet events = signalSet events') (endpointId endpointId' : String)
    (rules : List TransitionRule) :
    ∀ m m' : Machine, m.current = m'.current → m.path = m'.path →
      (rules.foldl (Machine.step events endpointId) m).path =
        (rules.foldl (Machine.step events' endpointId') m').path := by
  induction rules with
  | nil => exact fun m m' _ hpath => hpath
  | cons rule rules ih =>
    intro m m' hcurrent hpath
    rw [List.foldl_cons, List.foldl_cons]
    refine ih _ _ ?_ ?_
    · unfold Machine.step
      rw [h, hcurrent]
      split
      · rfl
      · exact hcurrent
    · unfold Machine.step
      rw [h, hcurrent, hpath]
      split
      · rfl
      · exact hpath

theorem transitionPlatformState_path {events events' : List NormalizedPlatformEvent}
    (h : signalSet events = signalSet events') (endpointId endpointId' : String)
    (initial : PlatformState) :
    (transitionPlatformState events endpointId initial).2 =
      (transitionPlatformState events' endpointId' initial).2 := by
  unfold transitionPlatformState
  dsimp only
  exact foldl_step_path h endpointId endpointId' platformTransitionRules _ _ rfl rfl

theorem decisionRecord_statePath (draw : DecisionDraw) (args : DecisionArgs)
    (events : List NormalizedPlatformEvent) :
    (decisionRecord draw args events).statePath =
      (transitionPlatformState events args.endpointId .normal).2.map PlatformState.value := by
  unfold decisionRecord
  dsimp only

/-! ## The outcome of a policy -/

/-- With the production policy nothing is allowed that is not confirmed. -/
theorem evaluatePlatformPolicy_unconfirmed (hypothesis : Option RankedHypothesis)
    (hasProof : Bool) :
    (evaluatePlatformPolicy hypothesis none ⟨none, hasProof, false⟩).1 = .preview := by
  have hrules : ∀ conf codes,
      (allowRules conf ⟨none, hasProof, false⟩ PolicyConfig.productionDefaults.rules codes).1 = none ∨
      (allowRules conf ⟨none, hasProof, false⟩ PolicyConfig.productionDefaults.rules codes).1 =
        some .preview := by
    intro conf codes
    cases hasProof <;> by_cases hconf : 85 / 100 ≤ conf <;>
      simp [PolicyConfig.productionDefaults, allowRules, hconf]
  unfold evaluatePlatformPolicy
  simp only [Option.getD_none, blockingRule]
  split
  · rfl
  · obtain hnone | hpreview := hrules _ _
    · split
      · next hsome =>
        rw [hsome] at hnone
        cases hnone
      · split
        · rfl
        · rfl
    · split
      · next hsome =>
        rw [hsome] at hpreview
        exact Option.some.inj hpreview
      · next hnone =>
        rw [hnone] at hpreview
        cases hpreview

theorem decisionRecord_policyOutcome (draw : DecisionDraw) (args : DecisionArgs)
    (events : List NormalizedPlatformEvent) :
    (decisionRecord draw args events).policyOutcome =
      (evaluatePlatformPolicy (rankHypotheses events args.context).head? args.policy
        ⟨args.requestedAction, events.any fun e => e.evidenceTier = .causalProof,
          args.explicitConfirmation⟩).1 := by
  unfold decisionRecord
  rfl

/-! ## The accepted hypothesis -/

/-- The order of the first sort. -/
def Outscores (a b : RankedHypothesis) : Prop := b.confidence ≤ a.confidence

/-- The order of the second sort. -/
def OutscoresAdjusted (flags : List String) (a b : RankedHypothesis) : Prop :=
  (b.adjusted flags).confidence ≤ (a.adjusted flags).confidence

instance : DecidableRel Outscores := fun a b => inferInstanceAs (Decidable (b.confidence ≤ a.confidence))

instance (flags : List String) : DecidableRel (OutscoresAdjusted flags) := fun a b =>
  inferInstanceAs (Decidable ((b.adjusted flags).confidence ≤ (a.adjusted flags).confidence))

theorem Outscores.trans (a b c : RankedHypothesis) (hab : Outscores a b) (hbc : Outscores b c) :
    Outscores a c :=
  le_trans hbc hab

theorem Outscores.total (a b : RankedHypothesis) : Outscores a b ∨ Outscores b a := le_total _ _

theorem OutscoresAdjusted.trans (flags : List String) (a b c : RankedHypothesis)
    (hab : OutscoresAdjusted flags a b) (hbc : OutscoresAdjusted flags b c) :
    OutscoresAdjusted flags a c :=
  le_trans hbc hab

theorem OutscoresAdjusted.total (flags : List String) (a b : RankedHypothesis) :
    OutscoresAdjusted flags a b ∨ OutscoresAdjusted flags b a := le_total _ _

/-- What decides between two hypotheses. -/
abbrev Prevails (flags : List String) : RankedHypothesis → RankedHypothesis → Prop :=
  Tiebreak Outscores (OutscoresAdjusted flags)

/-- The first of the ranking is the best of the catalog. -/
theorem head?_rankFlags (flags : List String) :
    (rankFlags flags).head? =
      (best (Prevails flags) (hypothesisCatalog.map (·.ranked flags))).map (·.adjusted flags) := by
  unfold rankFlags sortByConfidence
  rw [← List.map_insertionSort (OutscoresAdjusted flags) _ (·.adjusted flags) _
    (fun a _ b _ => Iff.rfl), List.head?_map]
  congr 1
  exact head?_insertionSort_twice Outscores.trans (OutscoresAdjusted.trans flags) Outscores.total
    (OutscoresAdjusted.total flags) _

theorem Prevails.trans {flags : List String} {a b c : RankedHypothesis} (hab : Prevails flags a b)
    (hbc : Prevails flags b c) : Prevails flags a c :=
  Tiebreak.trans Outscores.trans (OutscoresAdjusted.trans flags) hab hbc

theorem Prevails.total {flags : List String} (a b : RankedHypothesis) :
    Prevails flags a b ∨ Prevails flags b a :=
  Tiebreak.total Outscores.total (OutscoresAdjusted.total flags) a b

/-- The other entries of the catalog. -/
def rivals (flags : List String) : List RankedHypothesis :=
  [securityProductSpec.ranked flags, misconfigurationSpec.ranked flags,
    potentialMalwareSpec.ranked flags]

/-- A score of the developer tool that puts it before all its rivals: it comes first
in the catalog, so that ties before adjusting are its own. -/
def Leads (flags : List String) (confidence : ℚ) : Prop :=
  ∀ rival ∈ rivals flags, (rival.adjusted flags).confidence ≤ confidence ∧
    (confidence ≤ (rival.adjusted flags).confidence → rival.confidence ≤ confidence)

instance (flags : List String) (confidence : ℚ) : Decidable (Leads flags confidence) :=
  inferInstanceAs (Decidable (∀ rival ∈ rivals flags,
    (rival.adjusted flags).confidence ≤ confidence ∧
      (confidence ≤ (rival.adjusted flags).confidence → rival.confidence ≤ confidence)))

/-- The label of the accepted hypothesis. -/
def acceptedLabel (flags : List String) : String :=
  ((rankFlags flags).head?.map RankedHypothesis.label).getD ""

theorem decisionRecord_acceptedHypothesis (draw : DecisionDraw) (args : DecisionArgs)
    (events : List NormalizedPlatformEvent) :
    (decisionRecord draw args events).acceptedHypothesis =
      acceptedLabel (deriveSignalFlags events args.context) := by
  unfold decisionRecord acceptedLabel rankHypotheses
  rfl

theorem adjusted_label (h : RankedHypothesis) (flags : List String) :
    (h.adjusted flags).label = h.label := by
  unfold RankedHypothesis.adjusted
  split <;> rfl

theorem rival_label_ne {flags : List String} {rival : RankedHypothesis} (h : rival ∈ rivals flags) :
    developerToolSpec.label ≠ rival.label := by
  have hlabels : (rivals flags).map RankedHypothesis.label =
      [securityProductSpec.label, misconfigurationSpec.label, potentialMalwareSpec.label] := rfl
  have hmem := List.mem_map_of_mem (f := RankedHypothesis.label) h
  rw [hlabels] at hmem
  have hother : ∀ label ∈ [securityProductSpec.label, misconfigurationSpec.label,
      potentialMalwareSpec.label], developerToolSpec.label ≠ label := by decide
  exact hother _ hmem

/-- The developer tool is accepted when it leads, and else what leads among its
rivals. -/
theorem acceptedLabel_eq (flags : List String) :
    ∃ rival ∈ rivals flags, best (Prevails flags) (rivals flags) = some rival ∧
      acceptedLabel flags =
        if Leads flags (developerToolSpec.score flags) then developerToolSpec.label
        else rival.label := by
  obtain ⟨rival, hrival⟩ : ∃ rival, best (Prevails flags) (rivals flags) = some rival := by
    rw [rivals, best]
    exact ⟨_, rfl⟩
  have htrans : ∀ a b c, Prevails flags a b → Prevails flags b c → Prevails flags a c :=
    fun a b c hab hbc => hab.trans hbc
  have hbest : ∀ x ∈ rivals flags, Prevails flags rival x :=
    best_spec htrans Prevails.total hrival
  refine ⟨rival, best_mem hrival, hrival, ?_⟩
  have hleads : Leads flags (developerToolSpec.score flags) ↔
      Prevails flags (developerToolSpec.ranked flags) rival := by
    constructor
    · exact fun h => h rival (best_mem hrival)
    · exact fun h other hother => h.trans (hbest other hother)
  have hhead : (rankFlags flags).head? =
      some ((challenge (Prevails flags) (developerToolSpec.ranked flags) (some rival)).adjusted
        flags) := by
    rw [head?_rankFlags, hypothesisCatalog, List.map_cons, best]
    show Option.map _ (some (challenge _ _ (best _ (rivals flags)))) = _
    rw [hrival, Option.map_some]
  rw [acceptedLabel, hhead, Option.map_some, Option.getD_some, adjusted_label, challenge]
  simp only [hleads]
  split
  · rfl
  · rfl

/-! ## Flags that matter -/

/-- The same flags, but for the one that no hypothesis looks at. -/
def Alike (flags flags' : List String) : Prop :=
  ∀ s, s ≠ "sysmon_registry_write" → (s ∈ flags ↔ s ∈ flags')

theorem ranked_congr {spec : HypothesisSpec} {flags flags' : List String}
    (h : ∀ signal ∈ spec.signals, signal.1 ∈ flags ↔ signal.1 ∈ flags') :
    spec.ranked flags = spec.ranked flags' := by
  have hevidence : spec.evidence flags = spec.evidence flags' :=
    List.filter_congr fun signal hsignal => decide_eq_decide.mpr (h signal hsignal)
  unfold HypothesisSpec.ranked HypothesisSpec.score
  rw [hevidence]

theorem adjusted_congr {flags flags' : List String}
    (h : "proof_confirmed" ∈ flags ↔ "proof_confirmed" ∈ flags') (hypothesis : RankedHypothesis) :
    hypothesis.adjusted flags = hypothesis.adjusted flags' := by
  unfold RankedHypothesis.adjusted
  simp only [h]

theorem Alike.rankFlags_eq {flags flags' : List String} (h : Alike flags flags') :
    rankFlags flags = rankFlags flags' := by
  have hplain : ∀ spec ∈ hypothesisCatalog, ∀ signal ∈ spec.signals,
      signal.1 ≠ "sysmon_registry_write" := by decide
  have hranked : hypothesisCatalog.map (·.ranked flags) = hypothesisCatalog.map (·.ranked flags') :=
    List.map_congr_left fun spec hspec =>
      ranked_congr fun signal hsignal => h signal.1 (hplain spec hspec signal hsignal)
  unfold rankFlags
  rw [hranked]
  congr 1
  exact List.map_congr_left fun hypothesis _ => adjusted_congr (h _ (by decide)) hypothesis

theorem Alike.acceptedLabel_eq {flags flags' : List String} (h : Alike flags flags') :
    acceptedLabel flags = acceptedLabel flags' := by
  unfold acceptedLabel
  rw [h.rankFlags_eq]

/-! ## The flag of a node process -/

/-- A higher score leads as well. -/
theorem Leads.mono {flags : List String} {c c' : ℚ} (h : Leads flags c) (hle : c ≤ c') :
    Leads flags c' := by
  intro rival hrival
  obtain ⟨hadjusted, htie⟩ := h rival hrival
  refine ⟨hadjusted.trans hle, fun htie' => ?_⟩
  exact (htie (hle.trans htie')).trans hle

/-- A flag can only raise the score of the developer tool. -/
theorem score_le_score_cons (flag : String) (flags : List String) :
    developerToolSpec.score flags ≤ developerToolSpec.score (flag :: flags) := by
  have hweights : ∀ signal ∈ developerToolSpec.signals, 0 ≤ signal.2 := by decide +kernel
  have hsub : (developerToolSpec.evidence flags).Sublist
      (developerToolSpec.evidence (flag :: flags)) := by
    refine List.monotone_filter_right _ fun signal hsignal => ?_
    exact decide_eq_true (List.mem_cons_of_mem _ (of_decide_eq_true hsignal))
  have hsum := (hsub.map Prod.snd).sum_le_sum fun weight hweight => by
    obtain ⟨signal, hsignal, rfl⟩ := List.mem_map.mp hweight
    exact hweights signal (List.mem_of_mem_filter hsignal)
  unfold HypothesisSpec.score
  exact min_le_min_right _ (max_le_max_right _ (add_le_add_right hsum _))

theorem rivals_node (flags : List String) : rivals ("node_process" :: flags) = rivals flags := by
  have hother : ∀ s, s ≠ "node_process" → (s ∈ "node_process" :: flags ↔ s ∈ flags) := by
    intro s hs
    rw [List.mem_cons, or_iff_right hs]
  have hranked : ∀ spec ∈ [securityProductSpec, misconfigurationSpec, potentialMalwareSpec],
      spec.ranked ("node_process" :: flags) = spec.ranked flags := by
    intro spec hspec
    have hplain : ∀ spec ∈ [securityProductSpec, misconfigurationSpec, potentialMalwareSpec],
        ∀ signal ∈ spec.signals, signal.1 ≠ "node_process" := by decide
    exact ranked_congr fun signal hsignal => hother _ (hplain spec hspec signal hsignal)
  unfold rivals
  rw [hranked _ (by simp), hranked _ (by simp), hranked _ (by simp)]

theorem adjusted_node (flags : List String) (h : RankedHypothesis) :
    h.adjusted ("node_process" :: flags) = h.adjusted flags :=
  adjusted_congr (by rw [List.mem_cons, or_iff_right (by decide)]) h

theorem leads_node (flags : List String) (c : ℚ) :
    Leads ("node_process" :: flags) c ↔ Leads flags c := by
  unfold Leads
  simp only [rivals_node, adjusted_node]

theorem prevails_node (flags : List String) (a b : RankedHypothesis) :
    Prevails ("node_process" :: flags) a b ↔ Prevails flags a b := by
  unfold Prevails Tiebreak OutscoresAdjusted
  simp only [adjusted_node]

/-- The flag of a node process makes no difference unless it brings the developer tool
to the front. -/
theorem acceptedLabel_node_iff (flags : List String) :
    acceptedLabel ("node_process" :: flags) = acceptedLabel flags ↔
      ¬ (Leads flags (developerToolSpec.score ("node_process" :: flags)) ∧
        ¬ Leads flags (developerToolSpec.score flags)) := by
  obtain ⟨rival, hmem, hbest, hlabel⟩ := acceptedLabel_eq flags
  obtain ⟨rival', -, hbest', hlabel'⟩ := acceptedLabel_eq ("node_process" :: flags)
  have hsame : rival' = rival := by
    rw [rivals_node, best_congr (prevails_node flags), hbest] at hbest'
    exact (Option.some.inj hbest').symm
  have hne : developerToolSpec.label ≠ rival.label := rival_label_ne hmem
  have hmono : Leads flags (developerToolSpec.score flags) →
      Leads flags (developerToolSpec.score ("node_process" :: flags)) := fun h =>
    h.mono (score_le_score_cons _ _)
  rw [hlabel, hlabel', hsame]
  simp only [leads_node]
  by_cases hwith : Leads flags (developerToolSpec.score ("node_process" :: flags))
  · by_cases hwithout : Leads flags (developerToolSpec.score flags)
    · simp [hwith, hwithout]
    · simp [hwith, hwithout, hne]
  · simp [hwith, mt hmono hwith]

end Reliability
