import NetworkRecovery.Reliability.DecisionLaws

/-!
# Time travel

`time_travel.py`: a decision and its events are written to two logs
(`persist_decision`), and later the rows are read back and decided on once more, to
compare. The rows of the events are normalized as if they were observations.

The policy and the path of the states are always the same. The accepted hypothesis is
the same unless it hangs on the name of a process (`parity_iff`), which only the
observation has at hand: in a row it is one level down.
-/

namespace Reliability

open Python Audit Platform

/-! ## The logs -/

/-- `record.model_dump(mode="json")`. -/
def PlatformDecisionRecord.modelDump (r : PlatformDecisionRecord) : Dict :=
  [("decision_id", .str r.decisionId),
    ("timestamp_utc", .str r.timestampUtc),
    ("endpoint_id", .str r.endpointId),
    ("run_id", .str r.runId),
    ("state_path", textList r.statePath),
    ("accepted_hypothesis", .str r.acceptedHypothesis),
    ("hypothesis_ranking", .list (r.hypothesisRanking.map .dict)),
    ("policy_outcome", .str r.policyOutcome.text),
    ("policy_reason_codes", textList r.policyReasonCodes),
    ("event_ids", textList r.eventIds),
    ("limitations", textList r.limitations),
    ("schema_version", .str r.schemaVersion)]

/-- The strings under a key. -/
def textsField (row : Dict) (key : String) : Option (List String) :=
  match row.get? key with
  | some (.list xs) => xs.mapM fun
    | .str s => some s
    | _ => none
  | _ => none

/-- The dictionaries under a key. -/
def dictsField (row : Dict) (key : String) : Option (List Dict) :=
  match row.get? key with
  | some (.list xs) => xs.mapM fun
    | .dict entries => some entries
    | _ => none
  | _ => none

/-- `PlatformDecisionRecord(**row)`, of a row with every field in its own type, which
is how records are written: no default is ever needed. -/
def PlatformDecisionRecord.ofRow (row : Dict) : Option PlatformDecisionRecord := do
  let decisionId ← textField row "decision_id"
  let timestampUtc ← textField row "timestamp_utc"
  let endpointId ← textField row "endpoint_id"
  let runId ← textField row "run_id"
  let statePath ← textsField row "state_path"
  let acceptedHypothesis ← textField row "accepted_hypothesis"
  let hypothesisRanking ← dictsField row "hypothesis_ranking"
  let policyOutcome ← (textField row "policy_outcome").bind PolicyOutcome.ofText?
  let policyReasonCodes ← textsField row "policy_reason_codes"
  let eventIds ← textsField row "event_ids"
  let limitations ← textsField row "limitations"
  let schemaVersion ← textField row "schema_version"
  return ⟨decisionId, timestampUtc, endpointId, runId, statePath, acceptedHypothesis,
    hypothesisRanking, policyOutcome, policyReasonCodes, eventIds, limitations, schemaVersion⟩

/-- The two logs. -/
structure PlatformStore where
  events : File
  decisions : File

/-- `persist_decision`. -/
def persistDecision (sep : Linesep) (store : PlatformStore) (record : PlatformDecisionRecord)
    (events : List NormalizedPlatformEvent) : PlatformStore where
  events := events.foldl (fun file e => appendJsonl sep file e.modelDump) store.events
  decisions := appendJsonl sep store.decisions record.modelDump

/-! ## The replay -/

/-- What is compared. -/
structure Parity where
  policyOutcome : Bool
  statePath : Bool
  acceptedHypothesis : Bool
  deriving DecidableEq

def parityOf (original replayed : PlatformDecisionRecord) : Parity where
  policyOutcome := original.policyOutcome = replayed.policyOutcome
  statePath := original.statePath = replayed.statePath
  acceptedHypothesis := original.acceptedHypothesis = replayed.acceptedHypothesis

/-- `TimeTravelReplay`. -/
structure TimeTravelReplay where
  original : PlatformDecisionRecord
  replayed : PlatformDecisionRecord
  parity : Parity

/-- `str(row.get("run_id") or "")`. -/
def rowRunId (row : Dict) : String := (orElse (row.get? "run_id") (.str "")).toText

/-- The rows of the events of a record. -/
def rowsOf (record : PlatformDecisionRecord) (rows : List Dict) : List Dict :=
  rows.filter fun row => match row.get? "event_id" with
    | some (.str id) => id ∈ record.eventIds
    | _ => false

/-- `TimeTravelReplay.load_and_replay`; nothing is the `KeyError` of a run that is not
there. -/
def loadAndReplay (draw : DecisionDraw) (store : PlatformStore) (runId : String) :
    Except PyError (Option TimeTravelReplay) := do
  let decisions ← iterJsonl store.decisions
  match decisions.find? fun row => rowRunId row = runId with
  | none => return none
  | some row =>
    let original ← (PlatformDecisionRecord.ofRow row).elim (.error .value) .ok
    let rows ← iterJsonl store.events
    let replayed ← runPlatformDecision draw
      { endpointId := original.endpointId, runId := some original.runId } (rowsOf original rows)
    return some ⟨original, replayed, parityOf original replayed⟩

/-! ## Reading back -/

theorem PolicyOutcome.ofText?_text (outcome : PolicyOutcome) : ofText? outcome.text = some outcome := by
  cases outcome <;> decide

/-- What is written is read. -/
theorem PlatformDecisionRecord.ofRow_modelDump (r : PlatformDecisionRecord) :
    ofRow r.modelDump = some r := by
  have hpath : textsField r.modelDump "state_path" = some r.statePath :=
    mapM_map_of_pure fun _ => rfl
  have hranking : dictsField r.modelDump "hypothesis_ranking" = some r.hypothesisRanking :=
    mapM_map_of_pure fun _ => rfl
  have hcodes : textsField r.modelDump "policy_reason_codes" = some r.policyReasonCodes :=
    mapM_map_of_pure fun _ => rfl
  have hids : textsField r.modelDump "event_ids" = some r.eventIds :=
    mapM_map_of_pure fun _ => rfl
  have hlimitations : textsField r.modelDump "limitations" = some r.limitations :=
    mapM_map_of_pure fun _ => rfl
  have houtcome : (textField r.modelDump "policy_outcome").bind PolicyOutcome.ofText? =
      some r.policyOutcome := PolicyOutcome.ofText?_text r.policyOutcome
  unfold ofRow
  rw [hpath, hranking, hcodes, hids, hlimitations, houtcome]
  rfl

theorem rankedHypothesis_wf (h : RankedHypothesis) : (Value.dict h.modelDump).WF := by
  have hkeys : h.modelDump.keys = ["hypothesis_id", "category", "label", "confidence",
      "evidence_node_ids", "supporting_signals", "rejected_reason"] := rfl
  refine ⟨?_, trivial, trivial, trivial, trivial, trivial, textList_wf _, optionalText_wf _, trivial⟩
  rw [hkeys]
  decide

theorem decisionRecord_wf (draw : DecisionDraw) (args : DecisionArgs)
    (events : List NormalizedPlatformEvent) :
    (Value.dict (decisionRecord draw args events).modelDump).WF := by
  generalize hrecord : decisionRecord draw args events = r
  have hkeys : r.modelDump.keys = ["decision_id", "timestamp_utc", "endpoint_id", "run_id",
      "state_path", "accepted_hypothesis", "hypothesis_ranking", "policy_outcome",
      "policy_reason_codes", "event_ids", "limitations", "schema_version"] := rfl
  have hranking : (Value.list (r.hypothesisRanking.map .dict)).WF := by
    have hdumps : r.hypothesisRanking =
        (rankHypotheses events args.context).map RankedHypothesis.modelDump := by
      rw [← hrecord]
      rfl
    rw [hdumps]
    induction rankHypotheses events args.context with
    | nil => trivial
    | cons h hs ih => exact ⟨rankedHypothesis_wf h, ih⟩
  refine ⟨?_, trivial, trivial, trivial, trivial, textList_wf _, trivial, hranking, trivial,
    textList_wf _, textList_wf _, textList_wf _, trivial, trivial⟩
  rw [hkeys]
  decide

/-! ## Observations and their events -/

/-- A raw observation: a dictionary. -/
structure Observation where
  fields : Dict
  wf : (Value.dict fields).WF

theorem signalValueOf_wf {raw : Dict} (h : EntriesWF raw) : (signalValueOf raw).WF := by
  unfold signalValueOf
  cases hvalue : raw.get? "value" with
  | some v => exact h.get? hvalue
  | none =>
    cases hsignal : raw.get? "signal_value" with
    | some v => exact h.get? hsignal
    | none => trivial

/-- The event of an observation can be written. -/
theorem Normalizes.modelDump_wf {draw : EventDraw} {endpointId : String} {raw : Dict}
    {e : NormalizedPlatformEvent} (h : Normalizes draw endpointId raw e)
    (hwf : (Value.dict raw).WF) : (Value.dict e.modelDump).WF := by
  refine NormalizedPlatformEvent.modelDump_wf ?_ ?_
  · rw [h.signalValue]
    exact signalValueOf_wf hwf.2
  · rw [h.payload]
    exact ⟨hwf.1.sublist (List.filter_sublist.map Prod.fst), entriesWF_filter _ hwf.2⟩

/-- The events of observations, one by one. -/
theorem normalizes_platformEvents {draw : Nat → EventDraw} {endpointId : String} {raws : List Dict}
    {i : Nat} {events : List NormalizedPlatformEvent}
    (h : platformEvents draw endpointId i raws = .ok events) :
    List.Forall₂ (fun raw e => ∃ d, Normalizes d endpointId raw e) raws events := by
  induction raws generalizing i events with
  | nil =>
    obtain rfl := Except.ok.inj h
    exact .nil
  | cons raw raws ih =>
    obtain ⟨e, he, h⟩ := bind_ok.mp h
    obtain ⟨rest, hrest, h⟩ := bind_ok.mp h
    obtain rfl := Except.ok.inj h
    exact .cons ⟨_, normalizes_of_ok he⟩ (ih hrest)

/-- Every event is of an observation. -/
theorem exists_observation {endpointId : String} {raws : List Dict}
    {events : List NormalizedPlatformEvent}
    (h : List.Forall₂ (fun raw e => ∃ d, Normalizes d endpointId raw e) raws events)
    {e : NormalizedPlatformEvent} (he : e ∈ events) :
    ∃ raw ∈ raws, ∃ d, Normalizes d endpointId raw e := by
  induction h with
  | nil => cases he
  | @cons raw e' raws events hhead _ ih =>
    rcases List.mem_cons.mp he with rfl | he
    · exact ⟨raw, List.mem_cons_self, hhead⟩
    · obtain ⟨raw', hraw', hd⟩ := ih he
      exact ⟨raw', List.mem_cons_of_mem _ hraw', hd⟩

/-- The events of rows, one by one. -/
theorem platformEvents_modelDump (draw : Nat → EventDraw) (endpointId : String)
    {events : List NormalizedPlatformEvent} (hname : ∀ e ∈ events, e.signalName ≠ "") (i : Nat) :
    ∃ events', platformEvents draw endpointId i (events.map NormalizedPlatformEvent.modelDump) =
        .ok events' ∧
      List.Forall₂ (fun e e' => ∃ d, e' = e.renormalized d endpointId) events events' := by
  induction events generalizing i with
  | nil => exact ⟨[], rfl, .nil⟩
  | cons e events ih =>
    obtain ⟨rest, hrest, heach⟩ := ih (fun e' he' => hname e' (List.mem_cons_of_mem _ he')) (i + 1)
    have hevent := normalizeRawObservation_modelDump e (hname e (by simp)) (draw i) endpointId
    exact ⟨_, bind_ok.mpr ⟨_, hevent, bind_ok.mpr ⟨rest, hrest, rfl⟩⟩, .cons ⟨_, rfl⟩ heach⟩

/-! ## Signals and flags of a replay -/

theorem namesNode_renormalized (e : NormalizedPlatformEvent) (draw : EventDraw)
    (endpointId : String) : namesNode (e.renormalized draw endpointId).payload = false := rfl

theorem stateSignals_renormalized (e : NormalizedPlatformEvent) (draw : EventDraw)
    (endpointId : String) : stateSignals (e.renormalized draw endpointId) = stateSignals e := by
  have hkind : (e.renormalized draw endpointId).sourceKind = e.sourceKind.reread := rfl
  unfold stateSignals
  simp only [hkind, EventSourceKind.reread_eq_sysmon]
  rfl

/-- The state machine sees the same signals. -/
theorem signalSet_replayed {events events' : List NormalizedPlatformEvent} {endpointId : String}
    (h : List.Forall₂ (fun e e' => ∃ d, e' = e.renormalized d endpointId) events events') :
    signalSet events' = signalSet events := by
  induction h with
  | nil => rfl
  | cons hhead _ ih =>
    obtain ⟨draw, rfl⟩ := hhead
    unfold signalSet at ih ⊢
    rw [List.flatMap_cons, List.flatMap_cons, ih, stateSignals_renormalized]

theorem mem_ite_singleton {c : Prop} [Decidable c] {s flag : String} :
    s ∈ (if c then [flag] else []) ↔ c ∧ s = flag := by
  split
  · next h => simp [h]
  · next h => simp [h]

theorem mem_eventFlags (e : NormalizedPlatformEvent) (s : String) :
    s ∈ eventFlags e ↔ (e.evidenceTier = .causalProof ∧ s = "proof_confirmed") ∨
      (namesNode e.payload = true ∧ s = "node_process") ∨
      (e.sourceKind = .sysmon ∧ s = "sysmon_registry_write") := by
  unfold eventFlags
  rw [List.mem_append, List.mem_append, mem_ite_singleton, mem_ite_singleton, mem_ite_singleton,
    or_assoc]

/-- The flags of the replay, but for that of the writes. -/
def plainFlags (raws : List Dict) : List String :=
  raws.map signalNameOf ++
    if raws.any fun raw => tierOf raw matches .str "TIER_3_CAUSAL_PROOF" then ["proof_confirmed"]
    else []

/-- What is in the flags of a decision. -/
theorem mem_deriveSignalFlags {events : List NormalizedPlatformEvent} {s : String}
    (hs : s ≠ "sysmon_registry_write") :
    s ∈ deriveSignalFlags events [] ↔
      s ∈ events.map NormalizedPlatformEvent.signalName ∨
      ((∃ e ∈ events, e.evidenceTier = .causalProof) ∧ s = "proof_confirmed") ∨
      ((∃ e ∈ events, namesNode e.payload = true) ∧ s = "node_process") := by
  have hcontext : contextFlags [] = [] := rfl
  unfold deriveSignalFlags
  rw [hcontext, List.append_nil, List.mem_append, List.mem_flatMap]
  simp only [mem_eventFlags, hs, and_false, or_false, and_or_left, exists_or, ← and_assoc,
    exists_and_right]

theorem exists_mem_iff_of_forall₂ {α β : Type} {R : α → β → Prop} {p : α → Prop} {q : β → Prop}
    (hpq : ∀ a b, R a b → (p a ↔ q b)) {l : List α} {l' : List β} (h : List.Forall₂ R l l') :
    (∃ a ∈ l, p a) ↔ ∃ b ∈ l', q b := by
  induction h with
  | nil => simp
  | @cons a b l l' hab _ ih =>
    simp only [List.mem_cons, or_and_right, exists_or, exists_eq_left, ih, hpq a b hab]

theorem map_eq_of_forall₂ {α β γ : Type} {R : α → β → Prop} {f : α → γ} {g : β → γ}
    (hfg : ∀ a b, R a b → f a = g b) {l : List α} {l' : List β} (h : List.Forall₂ R l l') :
    l.map f = l'.map g := by
  induction h with
  | nil => rfl
  | @cons a b l l' hab _ ih => rw [List.map_cons, List.map_cons, ih, hfg a b hab]

/-- Proof is what the observation says is proof. -/
theorem Normalizes.causalProof_iff {draw : EventDraw} {endpointId : String} {raw : Dict}
    {e : NormalizedPlatformEvent} (h : Normalizes draw endpointId raw e) :
    (tierOf raw matches .str "TIER_3_CAUSAL_PROOF") = true ↔ e.evidenceTier = .causalProof := by
  have htier := h.tier
  unfold asMember at htier
  split at htier
  · next s hs =>
    rw [hs]
    cases hmember : EvidenceTier.ofText? s with
    | none =>
      rw [hmember] at htier
      cases htier
    | some tier =>
      rw [hmember] at htier
      have htext : EvidenceTier.text tier = s := text_of_ofText hmember
      rw [← htext, ← Except.ok.inj htier]
      cases tier <;> decide
  · cases htier

theorem namesNode_payload {draw : EventDraw} {endpointId : String} {raw : Dict}
    {e : NormalizedPlatformEvent} (h : Normalizes draw endpointId raw e) :
    namesNode e.payload = namesNode raw := by
  have hget : e.payload.get? "process_name" = raw.get? "process_name" := by
    rw [h.payload]
    exact Dict.get?_filter (p := fun key => decide (key ≠ "signal_name" ∧ key ≠ "value"))
      (by decide) raw
  unfold namesNode
  rw [hget]

section Flags

variable {endpointId : String} {raws : List Dict} {events events' : List NormalizedPlatformEvent}
  (hevents : List.Forall₂ (fun raw e => ∃ d, Normalizes d endpointId raw e) raws events)

include hevents

theorem names_of_observations :
    events.map NormalizedPlatformEvent.signalName = raws.map signalNameOf := by
  refine (map_eq_of_forall₂ ?_ hevents).symm
  rintro raw e ⟨draw, h⟩
  exact h.signalName.symm

theorem mem_plainFlags (s : String) :
    s ∈ plainFlags raws ↔ s ∈ events.map NormalizedPlatformEvent.signalName ∨
      ((∃ e ∈ events, e.evidenceTier = .causalProof) ∧ s = "proof_confirmed") := by
  have hproof := exists_mem_iff_of_forall₂
    (p := fun raw => (tierOf raw matches .str "TIER_3_CAUSAL_PROOF") = true)
    (q := fun e : NormalizedPlatformEvent => e.evidenceTier = .causalProof)
    (fun raw e ⟨_, h⟩ => h.causalProof_iff) hevents
  unfold plainFlags
  rw [List.mem_append, mem_ite_singleton, List.any_eq_true, names_of_observations hevents, hproof]

theorem exists_namesNode_iff :
    (∃ e ∈ events, namesNode e.payload = true) ↔ ∃ raw ∈ raws, namesNode raw = true := by
  refine (exists_mem_iff_of_forall₂ ?_ hevents).symm
  rintro raw e ⟨draw, h⟩
  rw [namesNode_payload h]

/-- The flags of a decision on observations that name a node process. -/
theorem alike_named (hnamed : ∃ raw ∈ raws, namesNode raw = true) :
    Alike (deriveSignalFlags events []) ("node_process" :: plainFlags raws) := by
  intro s hs
  have hnode := (exists_namesNode_iff hevents).mpr hnamed
  rw [mem_deriveSignalFlags hs, List.mem_cons, mem_plainFlags hevents]
  simp only [hnode, true_and]
  rw [or_comm (a := s = "node_process"), or_assoc]

/-- The flags of a decision on observations that do not. -/
theorem alike_unnamed (hnamed : ¬ ∃ raw ∈ raws, namesNode raw = true) :
    Alike (deriveSignalFlags events []) (plainFlags raws) := by
  intro s hs
  have hnode := mt (exists_namesNode_iff hevents).mp hnamed
  rw [mem_deriveSignalFlags hs, mem_plainFlags hevents]
  simp only [hnode, false_and, or_false]

/-- The flags of a replay. -/
theorem alike_replayed
    (h : List.Forall₂ (fun e e' => ∃ d, e' = e.renormalized d endpointId) events events') :
    Alike (deriveSignalFlags events' []) (plainFlags raws) := by
  intro s hs
  have hnames : events'.map NormalizedPlatformEvent.signalName =
      events.map NormalizedPlatformEvent.signalName := by
    refine (map_eq_of_forall₂ ?_ h).symm
    rintro e _ ⟨draw, rfl⟩
    rfl
  have hproof : (∃ e ∈ events, e.evidenceTier = .causalProof) ↔
      ∃ e ∈ events', e.evidenceTier = .causalProof := by
    refine exists_mem_iff_of_forall₂ ?_ h
    rintro e _ ⟨draw, rfl⟩
    exact Iff.rfl
  have hnode : ¬ ∃ e ∈ events', namesNode e.payload = true := by
    have hnone : (∃ e ∈ events, False) ↔ ∃ e ∈ events', namesNode e.payload = true := by
      refine exists_mem_iff_of_forall₂ ?_ h
      rintro e _ ⟨draw, rfl⟩
      rw [namesNode_renormalized]
      simp
    rw [← hnone]
    simp
  rw [mem_deriveSignalFlags hs, mem_plainFlags hevents, hnames, ← hproof]
  simp only [hnode, false_and, or_false]

end Flags

/-! ## Parity -/

/-- The logs before a decision is written. -/
structure Logs where
  events : JsonlFile
  decisions : JsonlFile

def Logs.store (log : Logs) : PlatformStore := ⟨log.events.file, log.decisions.file⟩

/-- Identifiers that are new to the logs. -/
structure Fresh (log : Logs) (record : PlatformDecisionRecord) : Prop where
  run : ∀ row ∈ log.decisions.rows, rowRunId row ≠ record.runId
  events : rowsOf record log.events.rows = []

theorem iterJsonl_events (sep : Linesep) {events : List NormalizedPlatformEvent}
    (hwf : ∀ e ∈ events, (Value.dict e.modelDump).WF) (log : JsonlFile) :
    iterJsonl (events.foldl (fun file e => appendJsonl sep file e.modelDump) log.file) =
      .ok (log.rows ++ events.map NormalizedPlatformEvent.modelDump) := by
  induction events generalizing log with
  | nil => rw [List.foldl_nil, log.reads, List.map_nil, List.append_nil]
  | cons e events ih =>
    have hlater := ih (fun e' he' => hwf e' (List.mem_cons_of_mem _ he'))
      (log.append sep e.modelDump (hwf e (by simp)))
    rw [List.foldl_cons, List.map_cons, List.append_cons]
    exact hlater

/-- The rows of a decision's own events. -/
theorem rowsOf_modelDump {record : PlatformDecisionRecord} {events : List NormalizedPlatformEvent}
    (h : record.eventIds = events.map NormalizedPlatformEvent.eventId) :
    rowsOf record (events.map NormalizedPlatformEvent.modelDump) =
      events.map NormalizedPlatformEvent.modelDump := by
  refine List.filter_eq_self.mpr fun row hrow => ?_
  obtain ⟨e, he, rfl⟩ := List.mem_map.mp hrow
  have hid : e.modelDump.get? "event_id" = some (.str e.eventId) := rfl
  have hmem : e.eventId ∈ record.eventIds := by
    rw [h]
    exact List.mem_map_of_mem he
  rw [hid]
  exact decide_eq_true hmem

/-- The replay of a decision that was written. -/
theorem loadAndReplay_persisted (sep : Linesep) (log : Logs) (draw draw' : DecisionDraw)
    (args : DecisionArgs) {events events' : List NormalizedPlatformEvent}
    (hwf : ∀ e ∈ events, (Value.dict e.modelDump).WF)
    (hfresh : Fresh log (decisionRecord draw args events))
    (hevents' : platformEvents draw'.events args.endpointId 0
      (events.map NormalizedPlatformEvent.modelDump) = .ok events') :
    let record := decisionRecord draw args events
    let replayed := decisionRecord draw'
      { endpointId := args.endpointId, runId := some record.runId } events'
    loadAndReplay draw' (persistDecision sep log.store record events) record.runId =
      .ok (some ⟨record, replayed, parityOf record replayed⟩) := by
  intro record replayed
  have hdecisions : iterJsonl (persistDecision sep log.store record events).decisions =
      .ok (log.decisions.rows ++ [record.modelDump]) :=
    (iterJsonl_appendJsonl sep log.decisions (decisionRecord_wf draw args events)).1
  have hrows : iterJsonl (persistDecision sep log.store record events).events =
      .ok (log.events.rows ++ events.map NormalizedPlatformEvent.modelDump) :=
    iterJsonl_events sep hwf log.events
  have hfind : (log.decisions.rows ++ [record.modelDump]).find?
      (fun row => rowRunId row = record.runId) = some record.modelDump := by
    have hold : log.decisions.rows.find? (fun row => rowRunId row = record.runId) = none :=
      List.find?_eq_none.mpr fun row hrow => by simpa using hfresh.run row hrow
    have hnew : rowRunId record.modelDump = record.runId := orElse_text record.runId
    rw [List.find?_append, hold, Option.none_or, List.find?_singleton, hnew]
    simp
  have hobservations : rowsOf record (log.events.rows ++
      events.map NormalizedPlatformEvent.modelDump) =
      events.map NormalizedPlatformEvent.modelDump := by
    have hsplit : rowsOf record (log.events.rows ++ events.map NormalizedPlatformEvent.modelDump) =
        rowsOf record log.events.rows ++
          rowsOf record (events.map NormalizedPlatformEvent.modelDump) := List.filter_append _ _
    rw [hsplit, hfresh.events, List.nil_append]
    exact rowsOf_modelDump rfl
  have hreplayed : runPlatformDecision draw'
      { endpointId := record.endpointId, runId := some record.runId }
      (events.map NormalizedPlatformEvent.modelDump) = .ok replayed :=
    bind_ok.mpr ⟨events', hevents', rfl⟩
  unfold loadAndReplay
  simp only [hdecisions, hrows, hfind, PlatformDecisionRecord.ofRow_modelDump, Option.elim_some,
    hobservations, hreplayed, bind, Except.bind, pure, Except.pure]

/-- The replay of a run reports parity for all that it compares. -/
def ReportsParity (draw : DecisionDraw) (store : PlatformStore) (runId : String) : Prop :=
  ∃ replay, loadAndReplay draw store runId = .ok (some replay) ∧ replay.parity = ⟨true, true, true⟩

/-- The first place hangs on the name of a process: one names node, and what that
flag adds to the score of the developer tool brings it to the front. -/
def NodeDecides (raws : List Dict) : Prop :=
  (∃ raw ∈ raws, namesNode raw = true) ∧
    Leads (plainFlags raws) (developerToolSpec.score ("node_process" :: plainFlags raws)) ∧
    ¬ Leads (plainFlags raws) (developerToolSpec.score (plainFlags raws))

instance (raws : List Dict) : Decidable (NodeDecides raws) := inferInstanceAs (Decidable (_ ∧ _ ∧ _))

/-- A decision on the same signals has the same path and, with the production policy
and without confirmation, the same outcome. -/
theorem decisionRecord_parity (draw draw' : DecisionDraw) (endpointId endpointId' : String)
    (runId runId' : Option String) {events events' : List NormalizedPlatformEvent}
    (h : signalSet events' = signalSet events) :
    let record := decisionRecord draw { endpointId := endpointId, runId := runId } events
    let record' := decisionRecord draw' { endpointId := endpointId', runId := runId' } events'
    record.policyOutcome = record'.policyOutcome ∧ record.statePath = record'.statePath := by
  intro record record'
  refine ⟨?_, ?_⟩
  · rw [decisionRecord_policyOutcome, decisionRecord_policyOutcome,
      evaluatePlatformPolicy_unconfirmed, evaluatePlatformPolicy_unconfirmed]
  · rw [decisionRecord_statePath, decisionRecord_statePath,
      transitionPlatformState_path h.symm endpointId endpointId']

theorem parityOf_eq_iff {original replayed : PlatformDecisionRecord}
    (houtcome : original.policyOutcome = replayed.policyOutcome)
    (hpath : original.statePath = replayed.statePath) :
    parityOf original replayed = ⟨true, true, true⟩ ↔
      original.acceptedHypothesis = replayed.acceptedHypothesis := by
  unfold parityOf
  simp only [houtcome, hpath, decide_true, Parity.mk.injEq, true_and, decide_eq_true_eq]

/-- The hypothesis of a decision, against that of plain flags. -/
theorem acceptedLabel_iff {endpointId : String} {raws : List Dict}
    {events : List NormalizedPlatformEvent}
    (hevents : List.Forall₂ (fun raw e => ∃ d, Normalizes d endpointId raw e) raws events) :
    acceptedLabel (deriveSignalFlags events []) = acceptedLabel (plainFlags raws) ↔
      ¬ NodeDecides raws := by
  by_cases hnamed : ∃ raw ∈ raws, namesNode raw = true
  · rw [(alike_named hevents hnamed).acceptedLabel_eq, acceptedLabel_node_iff, NodeDecides,
      and_iff_right hnamed]
  · have hplain := (alike_unnamed hevents hnamed).acceptedLabel_eq
    exact ⟨fun _ h => hnamed h.1, fun _ => hplain⟩

/-- A replay reports parity when it accepts the same hypothesis. -/
theorem reportsParity_iff_label (sep : Linesep) (log : Logs) (draw draw' : DecisionDraw)
    (endpointId : String) (runId : Option String) {raws : List Dict}
    (hraws : ∀ raw ∈ raws, (Value.dict raw).WF) {events : List NormalizedPlatformEvent}
    (hevents : platformEvents draw.events endpointId 0 raws = .ok events)
    (hfresh : Fresh log (decisionRecord draw { endpointId := endpointId, runId := runId } events)) :
    let record := decisionRecord draw { endpointId := endpointId, runId := runId } events
    ReportsParity draw' (persistDecision sep log.store record events) record.runId ↔
      acceptedLabel (deriveSignalFlags events []) = acceptedLabel (plainFlags raws) := by
  intro record
  have heach := normalizes_platformEvents hevents
  have hwf : ∀ e ∈ events, (Value.dict e.modelDump).WF := by
    intro e he
    obtain ⟨raw, hraw, draw, h⟩ := exists_observation heach he
    exact h.modelDump_wf (hraws raw hraw)
  have hname : ∀ e ∈ events, e.signalName ≠ "" := by
    intro e he
    obtain ⟨raw, hraw, draw, h⟩ := exists_observation heach he
    rw [h.signalName]
    exact signalNameOf_ne_empty raw
  obtain ⟨events', hevents', hrenormalized⟩ :=
    platformEvents_modelDump draw'.events endpointId hname 0
  have hreplay := loadAndReplay_persisted sep log draw draw'
    { endpointId := endpointId, runId := runId } hwf hfresh hevents'
  obtain ⟨houtcome, hpath⟩ := decisionRecord_parity draw draw' endpointId endpointId runId
    (some record.runId) (signalSet_replayed hrenormalized)
  have hparity := parityOf_eq_iff houtcome hpath
  rw [decisionRecord_acceptedHypothesis, decisionRecord_acceptedHypothesis,
    (alike_replayed heach hrenormalized).acceptedLabel_eq] at hparity
  rw [← hparity]
  constructor
  · rintro ⟨replay, hload, hall⟩
    obtain rfl := Option.some.inj (Except.ok.inj (hreplay.symm.trans hload))
    exact hall
  · exact fun hall => ⟨_, hreplay, hall⟩

/-- A decision that was written is replayed with parity if and only if no name of a
process decided it. -/
theorem parity_iff (sep : Linesep) (log : Logs) (draw draw' : DecisionDraw) (endpointId : String)
    (runId : Option String) (observations : List Observation)
    {record : PlatformDecisionRecord} {events : List NormalizedPlatformEvent}
    (hrun : runPlatformDecision draw { endpointId := endpointId, runId := runId }
      (observations.map Observation.fields) = .ok record)
    (hevents : platformEvents draw.events endpointId 0 (observations.map Observation.fields) =
      .ok events)
    (hfresh : Fresh log record) :
    ReportsParity draw' (persistDecision sep log.store record events) record.runId ↔
      ¬ NodeDecides (observations.map Observation.fields) := by
  have hwf : ∀ raw ∈ observations.map Observation.fields, (Value.dict raw).WF := by
    intro raw hraw
    obtain ⟨observation, -, rfl⟩ := List.mem_map.mp hraw
    exact observation.wf
  obtain ⟨events', hevents', hrecord⟩ := bind_ok.mp hrun
  obtain rfl := Except.ok.inj (hevents.symm.trans hevents')
  obtain rfl := Except.ok.inj hrecord
  exact (reportsParity_iff_label sep log draw draw' endpointId runId hwf hevents hfresh).trans
    (acceptedLabel_iff (normalizes_platformEvents hevents))

/-- Identifiers and times that are told apart by a letter. -/
def drawsOf (letter : String) : DecisionDraw where
  runId := "run-" ++ letter
  decisionId := "dec-" ++ letter
  timestampUtc := "2026-01-01T00:00:00+00:00"
  events := fun i => ⟨"evt-" ++ letter ++ Nat.repr i, "2026-01-01T00:00:00+00:00"⟩

/-- Logs that are not there yet. -/
def Logs.none : Logs := ⟨.absent, .absent⟩

theorem fresh_none (record : PlatformDecisionRecord) : Fresh .none record :=
  ⟨fun _ hrow => absurd hrow List.not_mem_nil, rfl⟩

/-- A proxy that is switched on. -/
def proxyEnabled : Observation where
  fields := [("signal_name", .str "wininet_proxy_enabled"), ("value", .int 1)]
  wf := ⟨by decide, trivial, trivial, trivial⟩

/-- The browser fails behind it. -/
def httpsFailed : Observation where
  fields := [("signal_name", .str "browser_https_failed")]
  wf := ⟨by decide, trivial, trivial⟩

/-- Nobody listens there any more, though a node process once did. -/
def nodeGone : Observation where
  fields := [("signal_name", .str "no_listener"), ("process_name", .str "node.exe")]
  wf := ⟨by decide, trivial, trivial, trivial⟩

/-- Three observations, one of which names node: the misconfiguration is accepted without it. -/
theorem parity_iff_nodeGone :
    ∃ record events,
      runPlatformDecision (drawsOf "a") {}
        [proxyEnabled.fields, httpsFailed.fields, nodeGone.fields] = .ok record ∧
      platformEvents (drawsOf "a").events "local" 0
        [proxyEnabled.fields, httpsFailed.fields, nodeGone.fields] = .ok events ∧
      ReportsParity (drawsOf "b") (persistDecision .lf Logs.none.store record events)
        record.runId := by
  refine ⟨_, _, rfl, rfl, ?_⟩
  exact (parity_iff .lf .none (drawsOf "a") (drawsOf "b") "local" none
    [proxyEnabled, httpsFailed, nodeGone] rfl rfl (fresh_none _)).mpr (by decide +kernel)

/-- A proxy that is seen with a node process. -/
def nodeSeen : Observation where
  fields := [("signal_name", .str "proxy_seen"), ("process_name", .str "node.exe")]
  wf := ⟨by decide, trivial, trivial, trivial⟩

/-- The developer tool is accepted for its node process, and the replay accepts a
misconfiguration. -/
theorem node_forgotten :
    ∃ record events,
      runPlatformDecision (drawsOf "a") {} [nodeSeen.fields] = .ok record ∧
      platformEvents (drawsOf "a").events "local" 0 [nodeSeen.fields] = .ok events ∧
      ¬ ReportsParity (drawsOf "b") (persistDecision .lf Logs.none.store record events)
        record.runId := by
  refine ⟨_, _, rfl, rfl, ?_⟩
  have hwf : ∀ raw ∈ [nodeSeen.fields], (Value.dict raw).WF := by
    intro raw hraw
    rw [List.mem_singleton.mp hraw]
    exact nodeSeen.wf
  intro h
  have hlabel := (reportsParity_iff_label .lf .none (drawsOf "a") (drawsOf "b") "local" none hwf
    rfl (fresh_none _)).mp h
  exact absurd hlabel (by decide +kernel)

end Reliability
