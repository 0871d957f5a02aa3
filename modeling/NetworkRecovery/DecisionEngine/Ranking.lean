import Mathlib.Data.Prod.Lex
import NetworkRecovery.DecisionEngine.Scoring

/-!
# The ranking of decisions

`run_decision_engine` scores the candidates, ranks the rows and then looks each row up again by
the id of its decision, and finds the first row of that id. So its payload is a ranking of the
scores exactly when rows of one id hold the same (`ranking_faithful_iff`).
-/

namespace DecisionEngine

open Python

/-! ## The engine -/

/-- `scored_to_payload`, the breakdown as the data that it dumps. -/
structure Payload (α : Type) where
  decision : String
  decisionId : String
  confidence : α
  benefit : Int
  risk : Int
  finalScore : Int
  recommendation : String
  breakdown : ScoreBreakdown α

def scoredToPayload {α : Type} (scored : ScoredDecision α) : Payload α where
  decision := scored.decision
  decisionId := scored.decisionId
  confidence := scored.confidence
  benefit := scored.benefit
  risk := scored.risk
  finalScore := scored.finalScore
  recommendation := scored.recommendation
  breakdown := scored.breakdown

/-- `RankedDecision`: a payload with its rank. -/
structure RankedDecision (α : Type) where
  rank : Nat
  payload : Payload α

/-- `DecisionEngineResult`. -/
structure DecisionEngineResult (α : Type) where
  recommendation : RankedDecision α
  ranked : List (RankedDecision α)
  evidenceCount : Nat
  candidateCount : Nat
  contentDigest : String

/-- What the engine may raise. -/
inductive EngineError where
  | raised (e : PyError)
  | key (decisionId : String)
  | assertion

section Engine

variable {α : Type} (A : Arithmetic α)

/-- `(-s.final_score, -s.confidence, s.decision_id) < (-t.final_score, -t.confidence, t.decision_id)`:
the negative of a float is exact. -/
def ranksBefore (s t : ScoredDecision α) : Bool :=
  if s.finalScore ≠ t.finalScore then decide (t.finalScore < s.finalScore)
  else if A.eq s.confidence t.confidence then decide (s.decisionId < t.decisionId)
  else A.lt t.confidence s.confidence

/-- `sorted` by that key. -/
def sortRows (scored : List (ScoredDecision α)) : List (ScoredDecision α) :=
  scored.mergeSort fun s t => !ranksBefore A t s

/-- `rank_scored_decisions`. -/
def rankScoredDecisions (scored : List (ScoredDecision α)) : List (RankedDecision α) :=
  ((sortRows A scored).zipIdx 1).map fun row => ⟨row.2, scoredToPayload row.1⟩

/-- `top_ranked`. -/
def topRanked (scored : List (ScoredDecision α)) : Option (RankedDecision α) :=
  (rankScoredDecisions A scored).head?

/-- `_scored_by_id`. -/
def scoredById (scored : List (ScoredDecision α)) (decisionId : String) :
    Except EngineError (ScoredDecision α) :=
  match scored.find? (·.decisionId == decisionId) with
  | some row => .ok row
  | none => .error (.key decisionId)

/-- The payload that stands under a ranked row. -/
def rankedPayload (scored : List (ScoredDecision α)) (row : RankedDecision α) :
    Except EngineError (RankedDecision α) :=
  (scoredById scored row.payload.decisionId).map fun found => ⟨row.rank, scoredToPayload found⟩

/-- `assert x is not None`. -/
def assertSome {β : Type} : Option β → Except EngineError β
  | some x => .ok x
  | none => .error .assertion

/-- `run_decision_engine`. How a digest is taken is a parameter. -/
def runDecisionEngine (contentDigest : List (EvidenceItem A) → List (RankedDecision α) → String)
    (evidence : List (EvidenceItem A)) (candidates : List (CandidateDecision A)) :
    Except EngineError (DecisionEngineResult α) :=
  if candidates.isEmpty then .error (.raised .value)
  else do
    let scored ← (scoreCandidates A evidence candidates).mapError .raised
    let top ← assertSome (topRanked A scored)
    let ranked ← (rankScoredDecisions A scored).mapM (rankedPayload scored)
    let recommendation ← rankedPayload scored top
    return {
      recommendation := recommendation
      ranked := ranked
      evidenceCount := evidence.length
      candidateCount := candidates.length
      contentDigest := contentDigest evidence ranked }

end Engine

/-! ## Looking a row up again -/

section Lookup

variable {α : Type}

/-- The first row of the id of a row. -/
def firstOfId (scored : List (ScoredDecision α)) (row : ScoredDecision α) : ScoredDecision α :=
  (scored.find? (·.decisionId == row.decisionId)).getD row

theorem scoredById_of_mem {scored : List (ScoredDecision α)} {row : ScoredDecision α}
    (h : row ∈ scored) : scoredById scored row.decisionId = .ok (firstOfId scored row) := by
  unfold scoredById firstOfId
  cases hfind : scored.find? (·.decisionId == row.decisionId) with
  | some found => rfl
  | none =>
    have hne := List.find?_eq_none.mp hfind row h
    exact absurd (beq_self_eq_true _) hne

/-- The first row of an id is one of the rows, and of that id. -/
theorem firstOfId_mem {scored : List (ScoredDecision α)} {row : ScoredDecision α}
    (h : row ∈ scored) :
    firstOfId scored row ∈ scored ∧ (firstOfId scored row).decisionId = row.decisionId := by
  unfold firstOfId
  cases hfind : scored.find? (·.decisionId == row.decisionId) with
  | some found =>
    rw [Option.getD_some]
    refine ⟨List.mem_of_find?_eq_some hfind, ?_⟩
    simpa only [beq_iff_eq] using List.find?_some hfind
  | none => exact ⟨h, rfl⟩

/-- Rows of one id have one first row. -/
theorem firstOfId_congr {scored : List (ScoredDecision α)} {row row' : ScoredDecision α}
    (h : row ∈ scored) (hid : row'.decisionId = row.decisionId) :
    firstOfId scored row' = firstOfId scored row := by
  unfold firstOfId
  rw [hid]
  cases hfind : scored.find? (·.decisionId == row.decisionId) with
  | some found => rfl
  | none =>
    have hne := List.find?_eq_none.mp hfind row h
    exact absurd (beq_self_eq_true _) hne

/-- A row is found when it is looked up. -/
theorem rankedPayload_of_mem {scored : List (ScoredDecision α)} {row : ScoredDecision α}
    (h : row ∈ scored) (rank : Nat) :
    rankedPayload scored ⟨rank, scoredToPayload row⟩ =
      .ok ⟨rank, scoredToPayload (firstOfId scored row)⟩ := by
  have hfound : scoredById scored (scoredToPayload row).decisionId =
      .ok (firstOfId scored row) := scoredById_of_mem h
  unfold rankedPayload
  rw [hfound]
  rfl

/-- Every row is looked up, none is missed. -/
theorem mapM_rankedPayload {scored rows : List (ScoredDecision α)} (h : ∀ row ∈ rows, row ∈ scored)
    (start : Nat) :
    ((rows.zipIdx start).map fun row => (⟨row.2, scoredToPayload row.1⟩ : RankedDecision α)).mapM
        (rankedPayload scored) =
      .ok ((rows.zipIdx start).map fun row =>
        ⟨row.2, scoredToPayload (firstOfId scored row.1)⟩) := by
  induction rows generalizing start with
  | nil => rfl
  | cons row rows ih =>
    have hrow := rankedPayload_of_mem (h row List.mem_cons_self) start
    have hrows := ih (fun r hr => h r (List.mem_cons_of_mem _ hr)) (start + 1)
    rw [List.zipIdx_cons, List.map_cons, List.mapM_cons, hrows, hrow]
    rfl

end Lookup

/-! ## The order of the rows -/

/-- Where a number stands on the line. -/
def position : FloatVal → WithBot (WithTop ℚ)
  | .finite d => ((d.exact : WithTop ℚ) : WithBot (WithTop ℚ))
  | .inf true => ⊥
  | .inf false => ⊤
  | .nan => ⊥

theorem lt_iff_position {x y : FloatVal} (hx : x ≠ .nan) (hy : y ≠ .nan) :
    x.lt y = true ↔ position x < position y := by
  cases x with
  | nan => exact absurd rfl hx
  | finite d =>
    cases y with
    | nan => exact absurd rfl hy
    | finite e => simp [FloatVal.lt, position]
    | inf n =>
      cases n with
      | true => simp [FloatVal.lt, position]
      | false =>
        have hbelow : position (.finite d) < position (.inf false) :=
          WithBot.coe_lt_coe.mpr (WithTop.coe_lt_top d.exact)
        exact iff_of_true rfl hbelow
  | inf m =>
    cases y with
    | nan => exact absurd rfl hy
    | finite e => cases m <;> simp [FloatVal.lt, position]
    | inf n => cases m <;> cases n <;> simp [FloatVal.lt, position]

theorem le_iff_position {x y : FloatVal} (hx : x ≠ .nan) (hy : y ≠ .nan) :
    x.le y = true ↔ position x ≤ position y := by
  cases x with
  | nan => exact absurd rfl hx
  | finite d =>
    cases y with
    | nan => exact absurd rfl hy
    | finite e => simp [FloatVal.le, position]
    | inf n => cases n <;> simp [FloatVal.le, position]
  | inf m =>
    cases y with
    | nan => exact absurd rfl hy
    | finite e => cases m <;> simp [FloatVal.le, position]
    | inf n => cases m <;> cases n <;> simp [FloatVal.le, position]

/-- The key that the rows are sorted by. -/
def rankKey (p : Payload FloatVal) : ℤ ×ₗ (WithBot (WithTop ℚ))ᵒᵈ ×ₗ String :=
  toLex (-p.finalScore, toLex (OrderDual.toDual (position p.confidence), p.decisionId))

section Order

variable (sum : List FloatVal → FloatVal)

theorem ranksBefore_iff {s t : ScoredDecision FloatVal} (hs : s.confidence ≠ .nan)
    (ht : t.confidence ≠ .nan) : ranksBefore (binary sum) s t = true ↔
      rankKey (scoredToPayload s) < rankKey (scoredToPayload t) := by
  have heq : (binary sum).eq s.confidence t.confidence = true ↔
      position s.confidence = position t.confidence := by
    have hle : (binary sum).eq s.confidence t.confidence = true ↔
        s.confidence.le t.confidence = true ∧ t.confidence.le s.confidence = true :=
      Bool.and_eq_true_iff
    rw [hle, le_iff_position hs ht, le_iff_position ht hs]
    exact le_antisymm_iff.symm
  have hlt : (binary sum).lt t.confidence s.confidence = true ↔
      position t.confidence < position s.confidence := lt_iff_position ht hs
  unfold ranksBefore rankKey
  simp only [scoredToPayload, Prod.Lex.toLex_lt_toLex, OrderDual.toDual_lt_toDual, OrderDual.toDual_inj]
  by_cases hscore : s.finalScore = t.finalScore
  · rw [if_neg (not_not_intro hscore), hscore]
    by_cases hconfidence : position s.confidence = position t.confidence
    · rw [if_pos (heq.mpr hconfidence), hconfidence]
      simp
    · rw [if_neg (mt heq.mp hconfidence), hlt]
      simp [hconfidence]
  · rw [if_pos hscore]
    have hne : -s.finalScore ≠ -t.finalScore := fun h => hscore (neg_injective h)
    simp [hscore]

/-- Rows whose confidences are numbers are sorted by their keys. -/
theorem sortRows_eq {scored : List (ScoredDecision FloatVal)}
    (h : ∀ s ∈ scored, s.confidence ≠ .nan) :
    sortRows (binary sum) scored = scored.mergeSort fun s t =>
      decide (rankKey (scoredToPayload s) ≤ rankKey (scoredToPayload t)) := by
  have hsort := List.map_mergeSort (f := id) (l := scored)
    (r := fun s t => !ranksBefore (binary sum) t s)
    (s := fun s t => decide (rankKey (scoredToPayload s) ≤ rankKey (scoredToPayload t)))
    (by
      intro s hs t ht
      rw [Bool.eq_iff_iff, Bool.not_eq_true', decide_eq_true_iff, ← Bool.not_eq_true,
        ranksBefore_iff sum (h t ht) (h s hs)]
      exact not_lt)
  rw [List.map_id, List.map_id] at hsort
  exact hsort

theorem pairwise_sortRows {scored : List (ScoredDecision FloatVal)}
    (h : ∀ s ∈ scored, s.confidence ≠ .nan) :
    ((sortRows (binary sum) scored).map scoredToPayload).Pairwise fun p q =>
      rankKey p ≤ rankKey q := by
  rw [sortRows_eq sum h]
  have hpairwise := @List.pairwise_mergeSort (ScoredDecision FloatVal)
    (fun s t => decide (rankKey (scoredToPayload s) ≤ rankKey (scoredToPayload t)))
    (fun a b c hab hbc => by
      rw [decide_eq_true_iff] at hab hbc ⊢
      exact hab.trans hbc)
    (fun a b => by
      simpa using le_total (rankKey (scoredToPayload a)) (rankKey (scoredToPayload b))) scored
  apply List.pairwise_map.mpr
  apply hpairwise.imp
  intro s t hst
  exact of_decide_eq_true hst

end Order

/-! ## The payload -/

section Faithful

variable (sum : List FloatVal → FloatVal)
  (contentDigest : List (EvidenceItem (binary sum)) → List (RankedDecision FloatVal) → String)
  (evidence : List (EvidenceItem (binary sum)))

/-- The row is not behind the other one. -/
def NotBehind (p q : Payload FloatVal) : Prop :=
  q.finalScore < p.finalScore ∨ q.finalScore = p.finalScore ∧
    (q.confidence.lt p.confidence = true ∨
      (q.confidence.le p.confidence = true ∧ p.confidence.le q.confidence = true) ∧
        p.decisionId ≤ q.decisionId)

/-- The result is a ranking of payloads. -/
structure Ranks (payloads : List (Payload FloatVal)) (result : DecisionEngineResult FloatVal) :
    Prop where
  perm : (result.ranked.map (·.payload)).Perm payloads
  ranks : result.ranked.map (·.rank) = List.range' 1 payloads.length
  ordered : (result.ranked.map (·.payload)).Pairwise NotBehind
  recommendation : result.ranked.head? = some result.recommendation

/-- What a row is ranked by. -/
def rankedBy (row : RankedDecision FloatVal) : Int × FloatVal × String :=
  (row.payload.finalScore, row.payload.confidence, row.payload.decisionId)

/-- The engine ranks the payloads of the candidates, and in whichever order they are given. -/
def RankingFaithful (candidates : List (CandidateDecision (binary sum))) : Prop :=
  ∀ scored, scoreCandidates (binary sum) evidence candidates = .ok scored → candidates ≠ [] →
    ∃ result, runDecisionEngine (binary sum) contentDigest evidence candidates = .ok result ∧
      Ranks (scored.map scoredToPayload) result ∧
      ∀ candidates', candidates'.Perm candidates →
        ∃ result', runDecisionEngine (binary sum) contentDigest evidence candidates' = .ok result' ∧
          result'.ranked.map rankedBy = result.ranked.map rankedBy

/-- Candidates of one id have one payload. -/
def OnePayloadPerId (candidates : List (CandidateDecision (binary sum))) : Prop :=
  ∀ c ∈ candidates, ∀ c' ∈ candidates, c.decisionId = c'.decisionId →
    ∀ s s', scoreCandidate (binary sum) c evidence = .ok s →
      scoreCandidate (binary sum) c' evidence = .ok s' → scoredToPayload s = scoredToPayload s'

/-- A score keeps the id and the label of the candidate, and its confidence has been clamped. -/
theorem scoreCandidate_ok {α : Type} {A : Arithmetic α} {candidate : CandidateDecision A}
    {evidence : List (EvidenceItem A)} {s : ScoredDecision α}
    (h : scoreCandidate A candidate evidence = .ok s) :
    s.decisionId = candidate.decisionId ∧ s.decision = candidate.label ∧
      ∃ value, s.confidence = clampConfidence A value := by
  unfold scoreCandidate at h
  obtain ⟨benefit, -, h⟩ := bind_ok.mp h
  obtain ⟨risk, -, h⟩ := bind_ok.mp h
  obtain ⟨finalScore, -, h⟩ := bind_ok.mp h
  cases h
  exact ⟨rfl, rfl, _, rfl⟩

theorem clampConfidence_ne_nan (value : FloatVal) : clampConfidence (binary sum) value ≠ .nan := by
  obtain ⟨d, hd⟩ := FloatVal.clamp_finite value
  apply FloatVal.round_ne_nan
  have hclamp : (binary sum).max (binary sum).zero ((binary sum).min (binary sum).one value) =
      .finite d := hd
  rw [hclamp]
  exact FloatVal.noConfusion

variable {sum} {contentDigest} {evidence} {candidates : List (CandidateDecision (binary sum))}
  {scored : List (ScoredDecision FloatVal)}

theorem confidence_ne_nan (hscored : scoreCandidates (binary sum) evidence candidates = .ok scored) :
    ∀ s ∈ scored, s.confidence ≠ .nan := by
  intro s hs
  obtain ⟨c, -, hc⟩ := mem_of_mapM_ok hscored hs
  obtain ⟨-, -, value, hvalue⟩ := scoreCandidate_ok hc
  rw [hvalue]
  exact clampConfidence_ne_nan sum value

/-- The engine answers with the first row of the id of each row. -/
theorem runDecisionEngine_ok
    (hscored : scoreCandidates (binary sum) evidence candidates = .ok scored)
    (hne : candidates ≠ []) :
    ∃ result, runDecisionEngine (binary sum) contentDigest evidence candidates = .ok result ∧
      result.ranked = ((sortRows (binary sum) scored).zipIdx 1).map (fun row =>
        ⟨row.2, scoredToPayload (firstOfId scored row.1)⟩) ∧
      result.ranked.head? = some result.recommendation := by
  have hperm : (sortRows (binary sum) scored).Perm scored := List.mergeSort_perm _ _
  have hlookup := mapM_rankedPayload (fun row hrow => hperm.mem_iff.mp hrow) 1
  have hempty : candidates.isEmpty = false := by simpa using hne
  cases hrows : sortRows (binary sum) scored with
  | nil =>
    rw [hrows] at hperm
    have hlength := (mapM_ok_iff.mp hscored).length_eq
    rw [← hperm.length_eq] at hlength
    exact absurd (List.length_eq_zero_iff.mp hlength) hne
  | cons top rows =>
    have htop : topRanked (binary sum) scored = some ⟨1, scoredToPayload top⟩ := by
      unfold topRanked rankScoredDecisions
      rw [hrows]
      rfl
    have hmem : top ∈ scored := hperm.mem_iff.mp (hrows ▸ List.mem_cons_self)
    have hrecommended := rankedPayload_of_mem hmem 1
    have hranked : (rankScoredDecisions (binary sum) scored).mapM (rankedPayload scored) =
        .ok (((top :: rows).zipIdx 1).map fun row =>
          ⟨row.2, scoredToPayload (firstOfId scored row.1)⟩) := by
      rw [← hrows]
      exact hlookup
    have hrun : runDecisionEngine (binary sum) contentDigest evidence candidates =
        .ok {
          recommendation := ⟨1, scoredToPayload (firstOfId scored top)⟩
          ranked := ((top :: rows).zipIdx 1).map fun row =>
            ⟨row.2, scoredToPayload (firstOfId scored row.1)⟩
          evidenceCount := evidence.length
          candidateCount := candidates.length
          contentDigest := contentDigest evidence (((top :: rows).zipIdx 1).map fun row =>
            ⟨row.2, scoredToPayload (firstOfId scored row.1)⟩) } := by
      unfold runDecisionEngine
      rw [hempty, if_neg Bool.false_ne_true, hscored]
      change (assertSome (topRanked (binary sum) scored) >>= _) = _
      rw [htop]
      change ((rankScoredDecisions (binary sum) scored).mapM (rankedPayload scored) >>= _) = _
      rw [hranked]
      change (rankedPayload scored ⟨1, scoredToPayload top⟩ >>= _) = _
      rw [hrecommended]
      rfl
    exact ⟨_, hrun, rfl, rfl⟩

/-- The rows that are ranked are the ones that were scored. -/
theorem mem_of_mem_zipIdx {A : Arithmetic FloatVal} {row : ScoredDecision FloatVal × Nat}
    {start : Nat} (h : row ∈ (sortRows A scored).zipIdx start) : row.1 ∈ scored := by
  have hperm : (sortRows A scored).Perm scored := List.mergeSort_perm _ _
  apply hperm.mem_iff.mp
  rw [← List.zipIdx_map_fst start (sortRows A scored)]
  exact List.mem_map_of_mem h

/-- Where rows of one id hold the same, a row is looked up as itself. -/
theorem looked_up_eq (hone : ∀ s ∈ scored, ∀ s' ∈ scored, s.decisionId = s'.decisionId →
    scoredToPayload s = scoredToPayload s') :
    ((sortRows (binary sum) scored).zipIdx 1).map (fun row =>
        (⟨row.2, scoredToPayload (firstOfId scored row.1)⟩ : RankedDecision FloatVal)) =
      rankScoredDecisions (binary sum) scored := by
  unfold rankScoredDecisions
  apply List.map_congr_left
  intro row hrow
  have hmem := mem_of_mem_zipIdx hrow
  obtain ⟨hfirst, hid⟩ := firstOfId_mem hmem
  rw [hone _ hfirst _ hmem hid]

theorem map_payload_rank (A : Arithmetic FloatVal) (scored : List (ScoredDecision FloatVal)) :
    (rankScoredDecisions A scored).map (·.payload) = (sortRows A scored).map scoredToPayload := by
  have hrows := List.zipIdx_map_fst 1 (sortRows A scored)
  unfold rankScoredDecisions
  rw [List.map_map]
  conv_rhs => rw [← hrows]
  rw [List.map_map]
  rfl

theorem notBehind_of_rankKey {p q : Payload FloatVal} (hp : p.confidence ≠ .nan)
    (hq : q.confidence ≠ .nan) (h : rankKey p ≤ rankKey q) : NotBehind p q := by
  unfold rankKey at h
  rw [Prod.Lex.toLex_le_toLex, Prod.Lex.toLex_le_toLex, OrderDual.toDual_lt_toDual,
    OrderDual.toDual_inj] at h
  unfold NotBehind
  rw [lt_iff_position hq hp, le_iff_position hq hp, le_iff_position hp hq]
  rcases h with hscore | ⟨hscore, hconfidence | ⟨hconfidence, hid⟩⟩
  · exact .inl (neg_lt_neg_iff.mp hscore)
  · exact .inr ⟨(neg_injective hscore).symm, .inl hconfidence⟩
  · exact .inr ⟨(neg_injective hscore).symm, .inr ⟨⟨hconfidence.ge, hconfidence.le⟩, hid⟩⟩

/-- Two rankings of the same rows are the same. -/
theorem sorted_payloads_eq {scored' : List (ScoredDecision FloatVal)}
    (hone : ∀ s ∈ scored, ∀ s' ∈ scored, s.decisionId = s'.decisionId →
      scoredToPayload s = scoredToPayload s')
    (hnan : ∀ s ∈ scored, s.confidence ≠ .nan) (hperm : scored'.Perm scored) :
    (sortRows (binary sum) scored').map scoredToPayload =
      (sortRows (binary sum) scored).map scoredToPayload := by
  have hnan' : ∀ s ∈ scored', s.confidence ≠ .nan := fun s hs => hnan s (hperm.mem_iff.mp hs)
  have hrows : (sortRows (binary sum) scored).Perm scored := List.mergeSort_perm _ _
  have hrows' : (sortRows (binary sum) scored').Perm scored := (List.mergeSort_perm _ _).trans hperm
  apply @List.Perm.eq_of_pairwise _ fun p q => rankKey p ≤ rankKey q
  · intro p q hp hq hpq hqp
    obtain ⟨s, hs, rfl⟩ := List.mem_map.mp hp
    obtain ⟨t, ht, rfl⟩ := List.mem_map.mp hq
    have hkey := le_antisymm hpq hqp
    have hid : s.decisionId = t.decisionId :=
      congrArg (fun key => (ofLex (ofLex key).2).2) hkey
    exact hone s (hrows'.mem_iff.mp hs) t (hrows.mem_iff.mp ht) hid
  · exact pairwise_sortRows sum hnan'
  · exact pairwise_sortRows sum hnan
  · exact (hrows'.trans hrows.symm).map scoredToPayload

/-- Where rows of one id hold the same, the engine ranks them. -/
theorem ranks_of_one
    (hscored : scoreCandidates (binary sum) evidence candidates = .ok scored)
    (hone : ∀ s ∈ scored, ∀ s' ∈ scored, s.decisionId = s'.decisionId →
      scoredToPayload s = scoredToPayload s') (hne : candidates ≠ []) :
    ∃ result, runDecisionEngine (binary sum) contentDigest evidence candidates = .ok result ∧
      result.ranked = rankScoredDecisions (binary sum) scored ∧
      Ranks (scored.map scoredToPayload) result := by
  obtain ⟨result, hrun, hranked, hhead⟩ :=
    @runDecisionEngine_ok sum contentDigest _ _ _ hscored hne
  rw [looked_up_eq hone] at hranked
  refine ⟨result, hrun, hranked, ?_⟩
  have hnan := confidence_ne_nan hscored
  have hperm : (sortRows (binary sum) scored).Perm scored := List.mergeSort_perm _ _
  have hpayloads : result.ranked.map (·.payload) =
      (sortRows (binary sum) scored).map scoredToPayload := by
    rw [hranked, map_payload_rank]
  constructor
  · rw [hpayloads]
    exact hperm.map scoredToPayload
  · have hranks := List.zipIdx_map_snd 1 (sortRows (binary sum) scored)
    rw [hranked, rankScoredDecisions, List.map_map, List.length_map, ← hperm.length_eq]
    exact hranks
  · rw [hpayloads]
    apply (pairwise_sortRows sum hnan).imp_of_mem
    intro p q hp hq hpq
    obtain ⟨s, hs, rfl⟩ := List.mem_map.mp hp
    obtain ⟨t, ht, rfl⟩ := List.mem_map.mp hq
    exact notBehind_of_rankKey (hnan s (hperm.mem_iff.mp hs)) (hnan t (hperm.mem_iff.mp ht)) hpq
  · exact hhead

/-- A ranking of the payloads holds the same for every row of an id. -/
theorem one_of_ranks (hscored : scoreCandidates (binary sum) evidence candidates = .ok scored)
    (hne : candidates ≠ []) {result : DecisionEngineResult FloatVal}
    (hrun : runDecisionEngine (binary sum) contentDigest evidence candidates = .ok result)
    (hperm : (result.ranked.map (·.payload)).Perm (scored.map scoredToPayload)) :
    ∀ s ∈ scored, scoredToPayload (firstOfId scored s) = scoredToPayload s := by
  intro s hs
  obtain ⟨result', hrun', hranked, -⟩ :=
    @runDecisionEngine_ok sum contentDigest _ _ _ hscored hne
  obtain rfl := Except.ok.inj (hrun.symm.trans hrun')
  have hlisted : scoredToPayload s ∈ result.ranked.map (·.payload) :=
    hperm.mem_iff.mpr (List.mem_map_of_mem hs)
  rw [hranked, List.map_map] at hlisted
  obtain ⟨row, hrow, hpayload⟩ := List.mem_map.mp hlisted
  have hpayload : scoredToPayload (firstOfId scored row.1) = scoredToPayload s := hpayload
  have hmem := mem_of_mem_zipIdx hrow
  -- the row that shows the payload has the id that the payload names
  have hid : row.1.decisionId = s.decisionId :=
    (firstOfId_mem hmem).2.symm.trans (congrArg Payload.decisionId hpayload)
  rw [← firstOfId_congr hs hid]
  exact hpayload

/-- A faithful ranking has one payload for the candidates of an id. -/
theorem onePayload_of_faithful
    (hscored : scoreCandidates (binary sum) evidence candidates = .ok scored)
    (hfaithful : RankingFaithful sum contentDigest evidence candidates) :
    OnePayloadPerId sum evidence candidates := by
  intro c hc c' hc' hid s s' hs hs'
  have hne : candidates ≠ [] := List.ne_nil_of_mem hc
  obtain ⟨result, hrun, hranks, -⟩ := hfaithful scored hscored hne
  have hfirst := one_of_ranks hscored hne hrun hranks.perm
  obtain ⟨t, ht, hread⟩ := exists_of_mapM_ok hscored hc
  obtain ⟨t', ht', hread'⟩ := exists_of_mapM_ok hscored hc'
  obtain rfl := Except.ok.inj (hread.symm.trans hs)
  obtain rfl := Except.ok.inj (hread'.symm.trans hs')
  have hids : t'.decisionId = t.decisionId := by
    rw [(scoreCandidate_ok hread).1, (scoreCandidate_ok hread').1, hid]
  rw [← hfirst t ht, ← hfirst t' ht', firstOfId_congr ht hids]

/-- Rows of one id hold the same where candidates of one id have one payload, or one of them cannot
be scored. -/
theorem one_of_onePayload (hscored : scoreCandidates (binary sum) evidence candidates = .ok scored)
    (hcondition : (∃ c ∈ candidates, ∃ e, scoreCandidate (binary sum) c evidence = .error e) ∨
      OnePayloadPerId sum evidence candidates) :
    ∀ s ∈ scored, ∀ s' ∈ scored, s.decisionId = s'.decisionId →
      scoredToPayload s = scoredToPayload s' := by
  rcases hcondition with ⟨c, hc, e, he⟩ | hone
  · obtain ⟨s, -, hs⟩ := exists_of_mapM_ok hscored hc
    rw [hs] at he
    cases he
  · intro s hs s' hs' hid
    obtain ⟨c, hc, hread⟩ := mem_of_mapM_ok hscored hs
    obtain ⟨c', hc', hread'⟩ := mem_of_mapM_ok hscored hs'
    apply hone c hc c' hc' _ s s' hread hread'
    rw [← (scoreCandidate_ok hread).1, ← (scoreCandidate_ok hread').1, hid]

end Faithful

/-- The engine ranks the payloads of its candidates exactly when one of them cannot be scored, or
candidates of one id have one payload. -/
theorem ranking_faithful_iff (sum : List FloatVal → FloatVal)
    (contentDigest : List (EvidenceItem (binary sum)) → List (RankedDecision FloatVal) → String)
    (evidence : List (EvidenceItem (binary sum)))
    (candidates : List (CandidateDecision (binary sum))) :
    RankingFaithful sum contentDigest evidence candidates ↔
      (∃ c ∈ candidates, ∃ e, scoreCandidate (binary sum) c evidence = .error e) ∨
        OnePayloadPerId sum evidence candidates := by
  constructor
  · intro hfaithful
    rcases mapM_ok_or_error (fun c => scoreCandidate (binary sum) c evidence) candidates with
      ⟨scored, hscored⟩ | herror
    · exact .inr (onePayload_of_faithful hscored hfaithful)
    · exact .inl herror
  · intro hcondition scored hscored hne
    have hone := one_of_onePayload hscored hcondition
    obtain ⟨result, hrun, hranked, hranks⟩ :=
      @ranks_of_one sum contentDigest _ _ _ hscored hone hne
    refine ⟨result, hrun, hranks, ?_⟩
    intro candidates' hperm
    obtain ⟨scored', hscored', hperm'⟩ := mapM_ok_perm hperm.symm hscored
    have hone' : ∀ s ∈ scored', ∀ s' ∈ scored', s.decisionId = s'.decisionId →
        scoredToPayload s = scoredToPayload s' :=
      fun s hs s' hs' => hone s (hperm'.mem_iff.mp hs) s' (hperm'.mem_iff.mp hs')
    have hne' : candidates' ≠ [] := fun h => hne (h ▸ hperm).symm.eq_nil
    obtain ⟨result', hrun', hranked', -⟩ :=
      @ranks_of_one sum contentDigest _ _ _ hscored' hone' hne'
    refine ⟨result', hrun', ?_⟩
    have hpayloads : result'.ranked.map (·.payload) = result.ranked.map (·.payload) := by
      rw [hranked', hranked, map_payload_rank, map_payload_rank]
      exact sorted_payloads_eq hone (confidence_ne_nan hscored) hperm'
    have hrankedBy : ∀ rows : List (RankedDecision FloatVal), rows.map rankedBy =
        (rows.map (·.payload)).map fun p => (p.finalScore, p.confidence, p.decisionId) := by
      intro rows
      rw [List.map_map]
      rfl
    rw [hrankedBy, hrankedBy, hpayloads]

/-- Floats added up from the left. -/
def addUp (xs : List FloatVal) : FloatVal := xs.foldl .add .zero

/-- An item that supports a decision with all its weight. -/
def adapterDown : EvidenceItem (binary addUp) where
  evidenceId := "adapter_down"
  label := "Adapter down"
  weight := ⟨.one, by decide +kernel, by decide +kernel⟩

/-- A candidate for a restart that starts from no benefit. -/
def restartService : CandidateDecision (binary addUp) where
  decisionId := "restart"
  label := "Restart the service"
  baseBenefit := ⟨.zero, by decide +kernel, by decide +kernel⟩
  baseRisk := ⟨.zero, by decide +kernel, by decide +kernel⟩
  evidenceRelevance := ⟨[], List.nodup_nil⟩
  riskFactors := ⟨[], List.nodup_nil⟩

/-- A better one, of the same id. -/
def restartAdapter : CandidateDecision (binary addUp) :=
  { restartService with
    label := "Restart the adapter"
    baseBenefit := ⟨.ofScientific 50 0, by decide +kernel, by decide +kernel⟩ }

/-- Two candidates of one id are both shown with the payload of the first, the worse one. -/
theorem repeated_id_shown_twice : ¬ RankingFaithful addUp (fun _ _ => "") [adapterDown]
    [restartService, restartAdapter] := by
  intro hfaithful
  have hservice : ((scoreCandidate (binary addUp) restartService [adapterDown]).map
      (·.finalScore)) = .ok 40 := by decide +kernel
  have hadapter : ((scoreCandidate (binary addUp) restartAdapter [adapterDown]).map
      (·.finalScore)) = .ok 90 := by decide +kernel
  obtain ⟨s, hs, hscore⟩ := map_ok.mp hservice
  obtain ⟨t, ht, hscore'⟩ := map_ok.mp hadapter
  have hscored : scoreCandidates (binary addUp) [adapterDown] [restartService, restartAdapter] =
      .ok [s, t] := mapM_ok_iff.mpr (.cons hs (.cons ht .nil))
  have hone := onePayload_of_faithful hscored hfaithful restartService List.mem_cons_self
    restartAdapter (List.mem_cons_of_mem _ List.mem_cons_self) rfl s t hs ht
  have hsame : s.finalScore = t.finalScore := congrArg Payload.finalScore hone
  rw [hscore, hscore'] at hsame
  cases hsame

end DecisionEngine
