import Mathlib.Data.List.ReduceOption
import NetworkRecovery.Lib.LastWriter
import NetworkRecovery.Live.Gates
import NetworkRecovery.Python.Json

/-!
# Replay reports

`build_replay_report` of `audit/replay.py`: the observations of a recorded run
are read back, scored and decided again, and what comes out is held against the
hypotheses and decisions the record has. Nothing checks the record, so that one
is any dictionary here.

A record of a run is `Recorded`. Its report verifies (`report_verified`): the
snapshot that is read back differs at most in the order of the keys of its
commands, which neither scores nor decisions look at, and of the proof only the
observations are read in another form, which nothing looks at either.
-/

namespace Live

open Python

/-! ## The stored proof -/

/-- `str(d.get(k) or default)`. -/
def textOr (d : Dict) (k default : String) : String := (orElse (d.get? k) (.str default)).toText

theorem textOr_str {d : Dict} {k s : String} (h : d.get? k = some (.str s)) :
    textOr d k "" = s := by
  unfold textOr
  rw [h]
  exact orElse_toText s

/-- One round over the observations of a proof. -/
def ProofObservation.ofRow : Value → Option ProofObservation
  | .dict o => some {
      stepId := textOr o "step_id" ""
      label := textOr o "label" ""
      outcome := orElse (Dict.get? o "outcome") (.str "skipped")
      detail := textOr o "detail" "" }
  | _ => none

/-- `proof_result_from_stored`. -/
def proofResultFromStored : Option Dict → Except Failure (Option ProofResult)
  | none | some [] => return none
  | some d => do
    let observations ← getItems d "observations"
    return some {
      proofId := textOr d "proof_id" ""
      status := .ofValue (textOr d "status" "inconclusive")
      hypothesis := textOr d "hypothesis" ""
      summary := textOr d "summary" ""
      observations := observations.filterMap ProofObservation.ofRow
      evidence := match d.get? "evidence" with
        | some (.dict evidence) => evidence
        | _ => [] }

/-- The proof in a record: `localhost_blob`. -/
def localhostBlob (record : Dict) : Option Dict :=
  match record.get? "proof_engine" with
  | some (.dict proofs) => match Dict.get? proofs "localhost_proxy_https_contrast" with
    | some (.dict blob) => some blob
    | _ => none
  | _ => none

/-! ## Comparisons -/

section Comparisons

variable (ofText : String → Option FloatVal)

/-- `1e-5`. -/
def tolerance : FloatVal := .ofScientific 1 (-5)

/-- One round over the stored hypotheses: the hypothesis, where the confidences are apart. -/
def mismatchOf (ranked : List LiveHypothesisScore) : Value → Except Failure (Option String)
  | .dict row =>
    let h := textOr row "hypothesis" ""
    match LastWriter.scan (fun s => s.hypothesis.text) h ranked with
    | some s => do
      let stored ← lift ((orElse (Dict.get? row "confidence") (.float .zero)).toFloat ofText)
      return if tolerance.lt (.abs (s.confidence.sub stored)) then some h else none
    | none => return none
  | _ => return none

/-- `order_match`. -/
def orderMatch (ranked : List LiveHypothesisScore) (stored : List Value) : Bool :=
  stored.zipIdx.all fun
    | (.dict row, i) => match ranked[i]? with
      | some s => (Dict.fetch row "hypothesis").toText = s.hypothesis.text
      | none => false
    | _ => true

/-- `stored_h[0]`, where it is a dictionary. A dictionary itself has no item `0`. -/
def firstRow : Value → Except Failure (Option Dict)
  | .list (.dict row :: _) => return some row
  | .dict (_ :: _) => .error (.key "0")
  | _ => return none

/-- `rank_order_match_primary_only`: the first operand that does not count as true, or the
comparison. -/
def primaryMatch (ranked : List LiveHypothesisScore) (stored : Value) (first : Option Dict) : Value :=
  if stored.truthy then
    match first, ranked with
    | some _, [] => .list []
    | some row, s :: _ => .bool ((Dict.fetch row "hypothesis").pyEq (.str s.hypothesis.text))
    | none, _ => .bool false
  else stored

/-- `row_sig`. -/
def rowSig (x : Dict) : Except Failure (List Value) := do
  let risk ← lift ((orElse (x.get? "risk_score") (.int 0)).toFloat ofText)
  return [x.fetch "hypothesis", x.fetch "confidence", x.fetch "proof_status", x.fetch "decision",
    .float (risk.round 4)]

/-- Whether the rows agree, pair by pair. -/
def rowsAligned : List (Value × Dict) → Except Failure Bool
  | [] => return true
  | (.dict s, a) :: rest => do
    let stored ← rowSig ofText s
    let replayed ← rowSig ofText a
    if pyEqItems stored replayed then rowsAligned rest else return false
  | _ :: _ => return false

/-- `dec_aligned`. -/
def decisionsAligned (stored : Value) (decisions : List Dict) : Except Failure Bool :=
  match stored with
  | .list rows =>
    if decisions.length = rows.length then rowsAligned ofText (rows.zip decisions) else return false
  | _ => return false

/-! ## The report -/

/-- `verification`. -/
def verification (mismatches : List String) (primary : Value) (fullOrder aligned : Bool) : Dict :=
  [("confidence_numeric_replay_match", .bool mismatches.isEmpty),
    ("confidence_mismatched_hypotheses", textList mismatches),
    ("rank_order_match_primary_only", primary),
    ("full_rank_order_match", .bool fullOrder),
    ("decisions_core_fields_match", .bool aligned)]

/-- `d.get(k) if d else "n/a"`, as a text. -/
def shown (d : Option Dict) (k : String) : String :=
  match d with
  | some d => (Dict.fetch d k).toText
  | none => "n/a"

/-- `str(b)`. -/
def boolText (b : Bool) : String := (Value.bool b).toText

/-- `execution_flow_steps`. -/
def executionFlowSteps (record : Dict) (fv : FeatureVector) (first : Option Dict)
    (ranked : List LiveHypothesisScore) (storedDecisions : Value) (decisions : List Dict)
    (verified : Dict) : List String :=
  let storedDecision := match storedDecisions with
    | .list (decision :: _) => decision
    | _ => .dict []
  ["[1.observe] run_id=" ++ (Dict.fetch record "run_id").toText ++ " utc=" ++
      (Dict.fetch record "timestamp_utc").toText,
    "[2.signals] ping_ip_ok=" ++ boolText fv.pingIpOk ++ " nslookup_ok=" ++ boolText fv.nslookupOk ++
      " tcp443_ok=" ++ boolText fv.tcp443Ok ++ " browser_https_ok=" ++ boolText fv.browserHttpOk,
    "[3.rank] recomputed hypotheses from embedded observations only (no live subprocess).",
    "[4.stored_primary] hypothesis=" ++ shown first "hypothesis" ++ " confidence=" ++
      shown first "confidence",
    "[5.replay_primary] hypothesis=" ++ (ranked.head?.elim "n/a" fun s => s.hypothesis.text) ++
      " confidence=" ++ (ranked.head?.elim "n/a" fun s => (Value.float s.confidence).toText),
    "[6.proof_snapshot] proofs_requested=" ++ boolText (getBool record "proofs_requested" false) ++
      " proof_present=" ++ boolText (localhostBlob record).isSome,
    "[7.decision_primary_stored] " ++ storedDecision.toText,
    "[8.decision_primary_replay] " ++ (Value.dict (decisions.headD [])).toText,
    "[9.verify] " ++ .ofList (dumps { Style.plain with ascii := false } (.dict verified)),
    "[10.note] Proof contrast steps are archival (not re-invoked here); causal claim preserved " ++
      "in recorded proof blob."]

/-- `recomputed_hypotheses_preview`. -/
def recomputedPreview (ranked : List LiveHypothesisScore) : Value :=
  .list ((ranked.take 5).map fun s => .dict
    [("hypothesis", .str s.hypothesis.text), ("confidence", .float (s.confidence.round 6))])

/-- `str(proof_err) if proof_err is not None else None`. -/
def proofEngineError (record : Dict) : Option String :=
  match Dict.fetch record "proof_engine_error" with
  | .none => none
  | error => some error.toText

/-- What `build_replay_report` returns at its end. -/
def reportOf (record : Dict) (fv : FeatureVector) (first : Option Dict)
    (ranked : List LiveHypothesisScore) (storedDecisions : Value) (decisions : List Dict)
    (verified : Dict) : Dict :=
  [("run_id", Dict.fetch record "run_id"),
    ("schema_version", Dict.fetch record "schema_version"),
    ("execution_flow_steps", textList (executionFlowSteps record fv first ranked storedDecisions
      decisions verified)),
    ("verification", .dict verified),
    ("recomputed_hypotheses_preview", recomputedPreview ranked)]

/-- `build_replay_report`. -/
def buildReplayReport (record : Dict) : Except Failure Dict :=
  match record.get? "observations" with
  | some (.dict obs) => do
    let snap ← fromObservations obs
    let ranked ← lift (scoreLiveSnapshot snap)
    let storedH := orElse (record.get? "hypotheses_ranked") (.list [])
    let storedRows ← lift storedH.items
    let mismatches := (← storedRows.mapM (mismatchOf ofText ranked)).reduceOption
    let proofsRequested := getBool record "proofs_requested" false
    let pr ← proofResultFromStored (localhostBlob record)
    let trust := assessTrust snap pr proofsRequested (proofEngineError record)
    let decisions := buildHypothesisDecisions ranked pr proofsRequested trust
    let storedDecisions := orElse (record.get? "hypothesis_decisions") (.list [])
    let aligned ← decisionsAligned ofText storedDecisions decisions
    let first ← firstRow storedH
    let verified := verification mismatches (primaryMatch ranked storedH first)
      (orderMatch ranked storedRows && storedRows.length ≤ ranked.length) aligned
    return reportOf record snap.featureVector first ranked storedDecisions decisions verified
  | _ => return [("error", .str "record_missing_observations"),
      ("run_id", Dict.fetch record "run_id")]

end Comparisons

/-! ## Records of runs -/

/-- A row of the stored ranking holds a score. -/
structure RankedRow (row : Dict) (s : LiveHypothesisScore) : Prop where
  hypothesis : row.get? "hypothesis" = some (.str s.hypothesis.text)
  confidence : row.get? "confidence" = some (.float s.confidence)

/-- A record of a run: what the report reads of it, as the run wrote it. -/
structure Recorded (record : Dict) (snap : LiveNetworkSnapshot) (scores : List LiveHypothesisScore)
    (proof : Option ProofResult) (requested : Bool) (error : Option String) : Prop where
  observations : record.get? "observations" = some (.dict snap.toDict)
  hypotheses : ∃ rows, record.get? "hypotheses_ranked" = some (.list (rows.map .dict)) ∧
    List.Forall₂ RankedRow rows scores
  proofEngine : localhostBlob record = proof.map ProofResult.toDict
  proofsRequested : record.get? "proofs_requested" = some (.bool requested)
  proofError : Dict.fetch record "proof_engine_error" = optionalText error
  hypothesisDecisions : record.get? "hypothesis_decisions" = some (.list
    ((buildHypothesisDecisions scores proof requested
      (assessTrust snap proof requested error)).map .dict))

/-- What a run is stamped with. -/
structure RunStamp where
  runId : String
  timestampUtc : String
  scriptVersion : Value
  machine : Value

/-- `ranked_dicts`. -/
def rankedDicts (scores : List LiveHypothesisScore) : List Dict :=
  scores.zipIdx.map fun (s, i) =>
    [("rank", .int (i + 1)),
      ("hypothesis", .str s.hypothesis.text),
      ("confidence", .float s.confidence),
      ("evidence", textList s.evidence),
      ("negative_evidence", textList s.negativeEvidence)]

/-- `proof_engine_blob`. -/
def proofEngineBlob (proof : Option ProofResult) (requested : Bool) : Dict :=
  match proof with
  | some p => if requested then [("localhost_proxy_https_contrast", .dict p.toDict)] else []
  | none => []

/-- `live_run_record` of the live diagnosis. A replay reads none of the `rest`. -/
def liveRunRecord (stamp : RunStamp) (snap : LiveNetworkSnapshot)
    (scores : List LiveHypothesisScore) (proof : Option ProofResult) (requested : Bool)
    (error : Option String) (rest : Dict) : Dict :=
  [("schema_version", .str "live_run_audit_v1"),
    ("type", .str "live_run_audit"),
    ("run_id", .str stamp.runId),
    ("timestamp_utc", .str stamp.timestampUtc),
    ("script_version", stamp.scriptVersion),
    ("machine", stamp.machine),
    ("observations", .dict snap.toDict),
    ("hypotheses_ranked", .list ((rankedDicts scores).map .dict)),
    ("hypothesis_decisions", .list ((buildHypothesisDecisions scores proof requested
      (assessTrust snap proof requested error)).map .dict)),
    ("proof_engine", .dict (proofEngineBlob proof requested)),
    ("proof_engine_error", optionalText error),
    ("proofs_requested", .bool requested)] ++ rest

theorem rankedRow_rankedDicts (scores : List LiveHypothesisScore) :
    List.Forall₂ RankedRow (rankedDicts scores) scores := by
  unfold rankedDicts
  rw [List.forall₂_iff_get]
  constructor
  · rw [List.length_map, List.length_zipIdx]
  · intro i hi hi'
    have hget : (scores.zipIdx.map _).get ⟨i, hi⟩ = _ := List.getElem_map _
    rw [hget, List.getElem_zipIdx]
    exact ⟨rfl, rfl⟩

/-- What the diagnosis writes is a record. A proof is there only when one was asked for. -/
theorem recorded_liveRunRecord (stamp : RunStamp) (snap : LiveNetworkSnapshot)
    (scores : List LiveHypothesisScore) {proof : Option ProofResult} {requested : Bool}
    (error : Option String) (rest : Dict) (h : requested = false → proof = none) :
    Recorded (liveRunRecord stamp snap scores proof requested error rest) snap scores proof
      requested error where
  observations := rfl
  hypotheses := ⟨rankedDicts scores, rfl, rankedRow_rankedDicts scores⟩
  proofEngine := by
    cases requested with
    | false =>
      rw [h rfl]
      rfl
    | true =>
      cases proof with
      | none => rfl
      | some p => rfl
  proofsRequested := rfl
  proofError := rfl
  hypothesisDecisions := rfl

/-! ## The replay of a record -/

section Replay

variable (ofText : String → Option FloatVal) {record : Dict} {snap : LiveNetworkSnapshot}
  {scores : List LiveHypothesisScore} {proof : Option ProofResult} {requested : Bool}
  {error : Option String}

/-- A proof comes back but for its observations. -/
theorem proofResultFromStored_toDict (p : ProofResult) :
    ∃ observations, proofResultFromStored (some p.toDict) = .ok (some { p with observations }) := by
  have hitems : getItems p.toDict "observations" =
      .ok (p.observations.map fun o => .dict o.toDict) := getItems_list rfl
  have hid : textOr p.toDict "proof_id" "" = p.proofId := textOr_str rfl
  have hhypothesis : textOr p.toDict "hypothesis" "" = p.hypothesis := textOr_str rfl
  have hsummary : textOr p.toDict "summary" "" = p.summary := textOr_str rfl
  have hstatus : textOr p.toDict "status" "inconclusive" = p.status.value := by
    cases p with
    | mk proofId status hypothesis summary observations evidence => cases status <;> rfl
  refine ⟨(p.observations.map fun o => Value.dict o.toDict).filterMap ProofObservation.ofRow, ?_⟩
  calc proofResultFromStored (some p.toDict)
      = getItems p.toDict "observations" >>= fun observations => .ok (some {
          proofId := textOr p.toDict "proof_id" ""
          status := .ofValue (textOr p.toDict "status" "inconclusive")
          hypothesis := textOr p.toDict "hypothesis" ""
          summary := textOr p.toDict "summary" ""
          observations := observations.filterMap ProofObservation.ofRow
          evidence := p.evidence }) := rfl
    _ = _ := by rw [hitems, hid, hhypothesis, hsummary, hstatus, ProofStatus.ofValue_value, ok_bind]

/-- The decisions look at neither the commands of a snapshot nor the observations of a proof. -/
theorem decisions_of_stored (h : localhostBlob record = proof.map ProofResult.toDict)
    (snap : LiveNetworkSnapshot) (cmds : List Dict) (scores : List LiveHypothesisScore)
    (requested : Bool) (error : Option String) :
    ∃ pr, proofResultFromStored (localhostBlob record) = .ok pr ∧
      buildHypothesisDecisions scores pr requested
          (assessTrust { snap with commandsExecuted := cmds } pr requested error) =
        buildHypothesisDecisions scores proof requested
          (assessTrust snap proof requested error) := by
  rw [h]
  cases proof with
  | none => exact ⟨none, rfl, rfl⟩
  | some p =>
    obtain ⟨observations, hp⟩ := proofResultFromStored_toDict p
    exact ⟨_, hp, rfl⟩

/-- A confidence that is a number is not apart from itself. -/
theorem mismatchOf_ranked (hranking : Ranking scores) {row : Dict} {s : LiveHypothesisScore}
    (hs : s ∈ scores) (hrow : RankedRow row s) : mismatchOf ofText scores (.dict row) = .ok none := by
  obtain ⟨d, hd⟩ := hranking.finite s hs
  have hscan : LastWriter.scan (fun s => s.hypothesis.text) s.hypothesis.text scores = some s :=
    LastWriter.scan_of_nodup hranking.nodup hs
  have hstored : (orElse (Dict.get? row "confidence") (.float .zero)).toFloat ofText =
      .ok (if d.digits = 0 then .zero else .finite d) := by
    rw [hrow.confidence, hd]
    by_cases hzero : d.digits = 0
    · rw [if_pos hzero, orElse_false (by simpa [Value.truthy] using hzero)]
      rfl
    · rw [if_neg hzero, orElse_true (by simpa [Value.truthy] using hzero)]
      rfl
  unfold mismatchOf
  dsimp only
  rw [textOr_str hrow.hypothesis, hscan]
  dsimp only
  rw [hstored, hd]
  have hgap : tolerance.lt (.abs (FloatVal.sub (.finite d)
      (if d.digits = 0 then .zero else .finite d))) = false := FloatVal.gap_self d 1 (-5)
  simp only [lift, ok_bind, hgap]
  rfl

theorem mismatches_ranked (hranking : Ranking scores) {rows : List Dict}
    (hrows : List.Forall₂ RankedRow rows scores) :
    (rows.map Value.dict).mapM (mismatchOf ofText scores) = .ok (rows.map fun _ => none) := by
  have hpart : ∀ {part : List LiveHypothesisScore} {rows : List Dict},
      List.Forall₂ RankedRow rows part → part ⊆ scores →
      (rows.map Value.dict).mapM (mismatchOf ofText scores) = .ok (rows.map fun _ => none) := by
    intro part rows hrows hsub
    induction hrows with
    | nil => rfl
    | cons hrow _ ih =>
      obtain ⟨hs, hrest⟩ := List.cons_subset.mp hsub
      rw [List.map_cons, List.mapM_cons, mismatchOf_ranked ofText hranking hs hrow, ih hrest]
      rfl
  exact hpart hrows (List.Subset.refl _)

theorem orderMatch_ranked {rows : List Dict} (hrows : List.Forall₂ RankedRow rows scores) :
    orderMatch scores (rows.map .dict) = true := by
  unfold orderMatch
  rw [List.all_eq_true]
  rintro ⟨v, i⟩ hmem
  obtain ⟨hi, hv⟩ := List.mem_zipIdx' hmem
  rw [List.length_map] at hi
  have hi' : i < scores.length := hrows.length_eq ▸ hi
  have hrow : RankedRow rows[i] scores[i] := (List.forall₂_iff_get.mp hrows).2 i hi hi'
  have hname : Dict.fetch rows[i] "hypothesis" = .str scores[i].hypothesis.text := by
    unfold Dict.fetch
    rw [hrow.hypothesis]
    rfl
  rw [List.getElem_map] at hv
  rw [hv]
  dsimp only
  rw [List.getElem?_eq_getElem hi', hname]
  exact decide_eq_true rfl

/-- What a row of numbers is compared by is equal to itself. -/
theorem rowSig_comparable {row : Dict} (h : Comparable row) :
    ∃ sig, rowSig ofText row = .ok sig ∧ pyEqItems sig sig = true := by
  obtain ⟨hypothesis, hhypothesis⟩ := h.hypothesis
  obtain ⟨confidence, hconfidence, hnumber⟩ := h.confidence
  obtain ⟨status, hstatus⟩ := h.proofStatus
  obtain ⟨decision, hdecision⟩ := h.decision
  obtain ⟨risk, hrisk, hriskNumber⟩ := h.riskScore
  have hfloat : ∃ x, (orElse (some (.float risk)) (.int 0)).toFloat ofText = .ok x ∧ x ≠ .nan := by
    cases htrue : (Value.float risk).truthy with
    | true =>
      refine ⟨risk, ?_, hriskNumber⟩
      rw [orElse_true htrue]
      rfl
    | false =>
      refine ⟨.zero, ?_, FloatVal.noConfusion⟩
      rw [orElse_false htrue]
      exact FloatVal.floatOfInt_zero
  obtain ⟨x, hx, hxNumber⟩ := hfloat
  refine ⟨[.str hypothesis, .float confidence, .str status, .str decision, .float (x.round 4)],
    ?_, ?_⟩
  · unfold rowSig Dict.fetch
    rw [hhypothesis, hconfidence, hstatus, hdecision, hrisk, hx]
    rfl
  · have hround := pyEq_float_self (FloatVal.round_ne_nan hxNumber 4)
    have htext : ∀ s, (Value.str s).pyEq (.str s) = true := by
      intro s
      unfold Value.pyEq
      exact beq_self_eq_true s
    simp only [pyEqItems, pyEq_float_self hnumber, hround, htext, Bool.and_true]

theorem rowsAligned_self {rows : List Dict} (h : ∀ row ∈ rows, Comparable row) :
    rowsAligned ofText ((rows.map .dict).zip rows) = .ok true := by
  induction rows with
  | nil => rfl
  | cons row rows ih =>
    obtain ⟨hrow, hrest⟩ := List.forall_mem_cons.mp h
    obtain ⟨sig, hsig, heq⟩ := rowSig_comparable ofText hrow
    rw [List.map_cons, List.zip_cons_cons]
    unfold rowsAligned
    rw [hsig, ok_bind, ok_bind, if_pos heq]
    exact ih hrest

theorem decisionsAligned_self {rows : List Dict} (h : ∀ row ∈ rows, Comparable row) :
    decisionsAligned ofText (.list (rows.map .dict)) rows = .ok true := by
  unfold decisionsAligned
  dsimp only
  rw [List.length_map, if_pos rfl]
  exact rowsAligned_self ofText h

theorem primaryMatch_ranked {row : Dict} {s : LiveHypothesisScore} (hrow : RankedRow row s)
    (scores : List LiveHypothesisScore) (rows : List Value) :
    primaryMatch (s :: scores) (.list (.dict row :: rows)) (some row) = .bool true := by
  unfold primaryMatch Dict.fetch
  dsimp only
  rw [hrow.hypothesis]
  exact congrArg Value.bool (beq_self_eq_true s.hypothesis.text)

theorem Recorded.getBool_requested (h : Recorded record snap scores proof requested error) :
    getBool record "proofs_requested" false = requested := by
  unfold getBool
  rw [h.proofsRequested]
  rfl

theorem Recorded.proofEngineError_eq (h : Recorded record snap scores proof requested error) :
    proofEngineError record = error := by
  unfold proofEngineError
  rw [h.proofError]
  cases error <;> rfl

/-- The decisions of a ranking can be compared with themselves. -/
theorem decisions_comparable (hranking : Ranking scores) (requested : Bool)
    (trust : TrustAssessment) :
    ∀ d ∈ buildHypothesisDecisions scores proof requested trust, Comparable d := by
  intro d hd
  obtain ⟨s, hs, rfl⟩ := List.mem_map.mp hd
  exact toDict_numbers (hranking.finite s hs)

/-- The report of a record finds nothing. -/
theorem report_verified (hscores : scoreLiveSnapshot snap = .ok scores)
    (hrecord : Recorded record snap scores proof requested error) :
    ∃ report, buildReplayReport ofText record = .ok report ∧
      report.get? "verification" = some (.dict (verification [] (.bool true) true true)) := by
  have hranking := scoreLiveSnapshot_ok hscores
  obtain ⟨rows, hstored, hrows⟩ := hrecord.hypotheses
  obtain ⟨pr, hpr, hdecisions⟩ := decisions_of_stored hrecord.proofEngine snap
    (snap.commandsExecuted.map commandRow) scores requested error
  set decisions := buildHypothesisDecisions scores proof requested
    (assessTrust snap proof requested error)
  have haligned : decisionsAligned ofText (.list (decisions.map .dict)) decisions = .ok true :=
    decisionsAligned_self ofText (decisions_comparable hranking requested _)
  have hmismatches := mismatches_ranked ofText hranking hrows
  have hlength : rows.length ≤ scores.length := hrows.length_eq.le
  have horder := orderMatch_ranked hrows
  cases hrows with
  | nil => cases hranking.length
  | @cons row s rows scores hrow hrows =>
    have hprimary := primaryMatch_ranked hrow scores (rows.map .dict)
    have hstoredH : orElse (record.get? "hypotheses_ranked") (.list []) =
        .list (.dict row :: rows.map .dict) := by
      rw [hstored]
      rfl
    have hstoredDecisions : orElse (record.get? "hypothesis_decisions") (.list []) =
        .list (decisions.map .dict) := by
      rw [hrecord.hypothesisDecisions]
      rfl
    have hfirst : firstRow (.list (.dict row :: rows.map .dict)) = .ok (some row) := rfl
    have hempty : ((row :: rows).map fun _ => (none : Option String)).reduceOption = [] := by
      rw [List.map_const', List.reduceOption_replicate_none]
    have hsize : (Value.dict row :: rows.map Value.dict).length ≤ (s :: scores).length := by
      rw [List.length_cons, List.length_map]
      exact hlength
    refine ⟨reportOf record snap.featureVector (some row) (s :: scores)
      (.list (decisions.map .dict)) decisions (verification [] (.bool true) true true), ?_, rfl⟩
    unfold buildReplayReport
    rw [hrecord.observations, hstoredH, hstoredDecisions]
    dsimp only
    rw [fromObservations_toDict, ok_bind, scoreLiveSnapshot_commands, hscores]
    rw [List.map_cons] at hmismatches horder
    simp only [lift, ok_bind, Value.items, hmismatches, hrecord.getBool_requested, hpr,
      hrecord.proofEngineError_eq, hdecisions, haligned, hfirst, hempty, hprimary, horder, hsize,
      decide_true, Bool.and_true]
    rfl

/-- A snapshot that was written is read as it was, and the replay of its run finds nothing. -/
theorem replay_faithful (hcommands : ∀ r ∈ snap.commandsExecuted, CommandRow r) :
    (∃ t, fromObservations snap.toDict = .ok t ∧ t.Same snap) ∧
      ∀ {scores : List LiveHypothesisScore} {proof : Option ProofResult} {requested : Bool}
        {error : Option String} {record : Dict}, scoreLiveSnapshot snap = .ok scores →
        Recorded record snap scores proof requested error →
        ∃ report, buildReplayReport ofText record = .ok report ∧
          report.get? "verification" = some (.dict (verification [] (.bool true) true true)) := by
  refine ⟨fromObservations_same snap hcommands, ?_⟩
  intro scores proof requested error record hscores hrecord
  exact report_verified ofText hscores hrecord

end Replay

/-- A snapshot of a machine with a local proxy. -/
def proxiedSnapshot : LiveNetworkSnapshot where
  generatedAtUtc := "2025-01-01T00:00:00+00:00"
  featureVector := {
    pingIpOk := true
    pingDomainOk := true
    nslookupOk := true
    tcp443Ok := true
    browserHttpOk := false
    proxyEnabled := true
    winhttpProxyEnabled := false
    dnsServersDetected := 2
    adapterConnected := true
    gatewayReachable := some true
    tlsCertIssueDetected := false
    firewallPathSuspected := false
    timeWaitCount := 12
    establishedCount := 40 }
  proxyRegistry := ⟨.int 1, .str "127.0.0.1:8888", .none, .int 0, .none⟩
  parsedProxy := {
    raw := .str "127.0.0.1:8888"
    isMissing := false
    isMalformed := false
    isLocalhostProxy := true
    localhostHost := .str "127.0.0.1"
    localhostPort := .int 8888
    proxyMode := .manualLocalhost
    socksPort := .none
    httpLocalhostPort := .none
    httpsLocalhostPort := .none }
  portOwners := []
  localhostListenPorts := [8080]
  interestingProcesses := []
  tcpTopPorts := []
  commandsExecuted := [[("label", .str "dns"), ("cmd", .str "nslookup example.com")]]
  permissionNotes := ["limited"]

/-- The contrast of the two paths, as it is proven. -/
def contrastProof : ProofResult where
  proofId := "localhost_proxy_https_contrast"
  status := .confirmed
  hypothesis := "Local proxy breaks HTTPS"
  summary := "HTTPS fails through the proxy and succeeds without it."
  observations := [⟨"1", "https via proxy", .str "fail", "curl exit 7"⟩]
  evidence := []

theorem replay_faithful_proxied :
    ∃ scores, scoreLiveSnapshot proxiedSnapshot = .ok scores ∧
      ∃ report, buildReplayReport (fun _ => none) (liveRunRecord ⟨"r1", "", .none, .none⟩
          proxiedSnapshot scores (some contrastProof) true none []) = .ok report ∧
        report.get? "verification" = some (.dict (verification [] (.bool true) true true)) := by
  have hcommands : ∀ r ∈ proxiedSnapshot.commandsExecuted, CommandRow r := by
    intro r hr
    rw [List.mem_singleton.mp hr]
    exact ⟨"dns", "nslookup example.com", List.Perm.refl _⟩
  obtain ⟨scores, hscores⟩ : ∃ scores, scoreLiveSnapshot proxiedSnapshot = .ok scores := ⟨_, rfl⟩
  have hrecorded : Recorded (liveRunRecord ⟨"r1", "", .none, .none⟩ proxiedSnapshot scores
      (some contrastProof) true none []) proxiedSnapshot scores (some contrastProof) true none :=
    recorded_liveRunRecord _ _ _ _ _ (fun h => absurd h (by decide))
  exact ⟨scores, hscores, (replay_faithful (fun _ => none) hcommands).2 hscores hrecorded⟩

end Live
