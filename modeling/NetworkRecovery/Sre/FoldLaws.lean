import NetworkRecovery.Lib.Ranking
import NetworkRecovery.Sre.Incident

/-!
# The laws of the fold

`Projector.fold` sorts the events by their numbers and applies them one by one. For events with
different numbers the order they come in makes no difference, an event with a greater number than
all others is applied last, and every event is counted.

The ids of runs and of evidence are added when they are not there. The comparison is of the value
with the strings that are there, and what is added is its text: a number is never found, and its
text is added each time. So the ids are distinct exactly as long as no value that is not a string
has the text of an earlier one (`foldLaws_iff`).
-/

namespace Sre

open Python Platform

/-! ## Ids that are added -/

/-- The run ids an event adds. -/
def recordedRunIds (event : DomainEvent) : List Value :=
  match event.eventType with
  | .incidentHypothesisRanked | .decisionRecorded =>
    (event.payload.get? "run_id").toList.filter Value.truthy
  | _ => []

/-- What `payload.get("event_ids") or []` goes through. -/
def recordedEvidenceIds (event : DomainEvent) : List Value :=
  match event.eventType with
  | .incidentHypothesisRanked =>
    match Value.toList (orElse (event.payload.get? "event_ids") (.list [])) with
    | .ok ids => ids
    | .error _ => []
  | _ => []

/-- A string. -/
def IsText (v : Value) : Prop := ∃ s, v = .str s

/-- No value that is not a string has the text of an earlier one. -/
def NoEcho (ids : List Value) : Prop :=
  ids.Pairwise fun earlier later => IsText later ∨ later.toText ≠ earlier.toText

instance : DecidablePred IsText
  | .str s => isTrue ⟨s, rfl⟩
  | .none | .bool _ | .int _ | .float _ | .list _ | .dict _ => isFalse nofun

instance (ids : List Value) : Decidable (NoEcho ids) :=
  inferInstanceAs (Decidable (ids.Pairwise _))

theorem addText_str (texts : List String) (s : String) :
    addText texts (.str s) = if s ∈ texts then texts else texts ++ [s] := rfl

theorem addText_of_not_text {v : Value} (h : ¬ IsText v) (texts : List String) :
    addText texts v = texts ++ [v.toText] := by
  cases v with
  | str s => exact absurd ⟨s, rfl⟩ h
  | _ => rfl

/-- Nothing is taken away. -/
theorem prefix_foldl_addText (ids : List Value) (texts : List String) :
    texts <+: ids.foldl addText texts := by
  induction ids generalizing texts with
  | nil => exact List.prefix_rfl
  | cons v ids ih =>
    refine List.IsPrefix.trans ?_ (ih (addText texts v))
    by_cases htext : IsText v
    · obtain ⟨s, rfl⟩ := htext
      rw [addText_str]
      split
      · exact List.prefix_rfl
      · exact List.prefix_append texts [s]
    · rw [addText_of_not_text htext]
      exact List.prefix_append texts _

/-- One id is added, and stands there by its text. -/
theorem mem_addText {texts : List String} {v : Value} {s : String} :
    s ∈ addText texts v ↔ s ∈ texts ∨ s = v.toText := by
  by_cases htext : IsText v
  · obtain ⟨t, rfl⟩ := htext
    rw [addText_str]
    split
    · next hmem =>
      refine ⟨.inl, ?_⟩
      rintro (h | rfl)
      · exact h
      · exact hmem
    · rw [List.mem_append, List.mem_singleton]
      rfl
  · rw [addText_of_not_text htext, List.mem_append, List.mem_singleton]

theorem nodup_addText {texts : List String} (h : texts.Nodup) (v : Value) :
    (addText texts v).Nodup ↔ (IsText v ∨ v.toText ∉ texts) := by
  by_cases htext : IsText v
  · refine iff_of_true ?_ (.inl htext)
    obtain ⟨s, rfl⟩ := htext
    rw [addText_str]
    split
    · exact h
    · next hnew => exact List.nodup_append.mpr ⟨h, List.nodup_singleton s, by
        intro a ha b hb
        rw [List.mem_singleton.mp hb]
        rintro rfl
        exact hnew ha⟩
  · rw [addText_of_not_text htext, or_iff_right htext]
    constructor
    · intro hnodup hmem
      exact (List.nodup_append.mp hnodup).2.2 _ hmem _ (List.mem_singleton.mpr rfl) rfl
    · intro hnew
      refine List.nodup_append.mpr ⟨h, List.nodup_singleton _, ?_⟩
      intro a ha b hb
      rw [List.mem_singleton.mp hb]
      rintro rfl
      exact hnew ha

/-- Behind distinct texts the ids stay distinct as long as none is an echo, of those texts or of an
earlier id. -/
theorem nodup_foldl_addText (ids : List Value) {texts : List String} (h : texts.Nodup) :
    (ids.foldl addText texts).Nodup ↔
      (∀ v ∈ ids, IsText v ∨ v.toText ∉ texts) ∧ NoEcho ids := by
  induction ids generalizing texts with
  | nil => exact iff_of_true h ⟨fun v hv => absurd hv List.not_mem_nil, List.Pairwise.nil⟩
  | cons v ids ih =>
    rw [List.foldl_cons, List.forall_mem_cons, NoEcho, List.pairwise_cons]
    by_cases hv : IsText v ∨ v.toText ∉ texts
    · rw [ih ((nodup_addText h v).mpr hv)]
      have hlater : (∀ w ∈ ids, IsText w ∨ w.toText ∉ addText texts v) ↔
          (∀ w ∈ ids, IsText w ∨ w.toText ∉ texts) ∧
            ∀ w ∈ ids, IsText w ∨ w.toText ≠ v.toText := by
        rw [← forall₂_and]
        refine forall₂_congr fun w _ => ?_
        rw [mem_addText, not_or, ← or_and_left]
      rw [hlater]
      exact ⟨fun ⟨⟨hold, hnew⟩, hrest⟩ => ⟨⟨hv, hold⟩, hnew, hrest⟩,
        fun ⟨⟨_, hold⟩, hnew, hrest⟩ => ⟨⟨hold, hnew⟩, hrest⟩⟩
    · refine iff_of_false (fun hnodup => hv ?_) fun hall => hv hall.1.1
      exact (nodup_addText h v).mp
        (hnodup.sublist (prefix_foldl_addText ids (addText texts v)).sublist)

/-! ## One event -/

/-- A field that `list` accepts, where it is looked at. -/
def Listable (payload : Dict) (key : String) : Prop :=
  ∀ v, payload.get? key = some v → v.truthy = true → ∃ xs, Value.toList v = .ok xs

/-- An event that can be applied. -/
def Applicable (event : DomainEvent) : Prop :=
  match event.eventType with
  | .incidentDetected => Listable event.payload "limitations"
  | .incidentHypothesisRanked =>
    Listable event.payload "state_path" ∧ Listable event.payload "event_ids"
  | _ => True

theorem toList_orElse_iff (payload : Dict) (key : String) (xs : List Value) :
    (∃ ys, Value.toList (orElse (payload.get? key) (.list xs)) = .ok ys) ↔ Listable payload key := by
  unfold Listable
  cases hget : payload.get? key with
  | none => exact iff_of_true ⟨xs, rfl⟩ nofun
  | some v =>
    cases htruthy : v.truthy with
    | true =>
      rw [orElse_true htruthy]
      refine ⟨fun h w hw _ => ?_, fun h => h v rfl htruthy⟩
      rwa [← Option.some.inj hw]
    | false =>
      rw [orElse_false htruthy]
      refine iff_of_true ⟨xs, rfl⟩ fun w hw hw' => ?_
      rw [← Option.some.inj hw, htruthy] at hw'
      cases hw'

theorem apply_ok_iff (event : DomainEvent) (state : IncidentProjection) :
    (∃ out, Projector.apply event state = .ok out) ↔ Applicable event := by
  unfold Projector.apply Applicable
  cases event.eventType with
  | incidentDetected =>
    dsimp only
    rw [← toList_orElse_iff _ _ state.limitations]
    constructor
    · rintro ⟨out, h⟩
      obtain ⟨limitations, hlimitations, -⟩ := bind_ok.mp h
      exact ⟨limitations, hlimitations⟩
    · rintro ⟨limitations, hlimitations⟩
      exact ⟨_, bind_ok.mpr ⟨limitations, hlimitations, rfl⟩⟩
  | incidentHypothesisRanked =>
    dsimp only
    rw [← toList_orElse_iff _ "state_path" state.statePath, ← toList_orElse_iff _ "event_ids" []]
    constructor
    · rintro ⟨out, h⟩
      obtain ⟨path, hpath, h⟩ := bind_ok.mp h
      obtain ⟨ids, hids, -⟩ := bind_ok.mp h
      exact ⟨⟨path, hpath⟩, ids, hids⟩
    · rintro ⟨⟨path, hpath⟩, ids, hids⟩
      exact ⟨_, bind_ok.mpr ⟨path, hpath, bind_ok.mpr ⟨ids, hids, rfl⟩⟩⟩
  | _ => exact iff_of_true ⟨_, rfl⟩ trivial

theorem addRunId_eq (runIds : List String) (payload : Dict) :
    addRunId runIds payload =
      ((payload.get? "run_id").toList.filter Value.truthy).foldl addText runIds := by
  unfold addRunId
  cases payload.get? "run_id" with
  | none => rfl
  | some v =>
    cases htruthy : v.truthy <;> simp [htruthy]

/-- What an event does to the counter and the ids. -/
structure Records (event : DomainEvent) (state out : IncidentProjection) : Prop where
  eventCount : out.eventCount = state.eventCount + 1
  decisionRunIds : out.decisionRunIds = (recordedRunIds event).foldl addText state.decisionRunIds
  evidenceEventIds :
    out.evidenceEventIds = (recordedEvidenceIds event).foldl addText state.evidenceEventIds

theorem records_of_apply {event : DomainEvent} {state out : IncidentProjection}
    (h : Projector.apply event state = .ok out) : Records event state out := by
  unfold Projector.apply at h
  cases htype : event.eventType with
  | incidentDetected =>
    rw [htype] at h
    obtain ⟨limitations, -, h⟩ := bind_ok.mp h
    obtain rfl := Except.ok.inj h
    refine ⟨rfl, ?_, ?_⟩
    · rw [recordedRunIds, htype]
      rfl
    · rw [recordedEvidenceIds, htype]
      rfl
  | incidentHypothesisRanked =>
    rw [htype] at h
    obtain ⟨path, -, h⟩ := bind_ok.mp h
    obtain ⟨ids, hids, h⟩ := bind_ok.mp h
    obtain rfl := Except.ok.inj h
    refine ⟨rfl, ?_, ?_⟩
    · rw [recordedRunIds, htype]
      exact addRunId_eq _ _
    · rw [recordedEvidenceIds, htype]
      dsimp only
      rw [hids]
  | decisionRecorded =>
    rw [htype] at h
    obtain rfl := Except.ok.inj h
    refine ⟨rfl, ?_, ?_⟩
    · rw [recordedRunIds, htype]
      exact addRunId_eq _ _
    · rw [recordedEvidenceIds, htype]
      rfl
  | _ =>
    rw [htype] at h
    obtain rfl := Except.ok.inj h
    refine ⟨rfl, ?_, ?_⟩
    · rw [recordedRunIds, htype]
      rfl
    · rw [recordedEvidenceIds, htype]
      rfl

/-! ## All events -/

/-- The run ids of events, in the order of the fold. -/
def runIdsOf (events : List DomainEvent) : List Value :=
  (sortBySequence events).flatMap recordedRunIds

/-- The evidence ids of events, in the order of the fold. -/
def evidenceIdsOf (events : List DomainEvent) : List Value :=
  (sortBySequence events).flatMap recordedEvidenceIds

theorem foldlM_ok_iff (events : List DomainEvent) (state : IncidentProjection) :
    (∃ out, events.foldlM (fun state event => Projector.apply event state) state = .ok out) ↔
      ∀ e ∈ events, Applicable e := by
  induction events generalizing state with
  | nil => exact iff_of_true ⟨state, rfl⟩ fun e he => absurd he List.not_mem_nil
  | cons e events ih =>
    rw [List.foldlM_cons, List.forall_mem_cons, ← apply_ok_iff e state]
    constructor
    · rintro ⟨out, h⟩
      obtain ⟨mid, hmid, hrest⟩ := bind_ok.mp h
      exact ⟨⟨mid, hmid⟩, (ih mid).mp ⟨out, hrest⟩⟩
    · rintro ⟨⟨mid, hmid⟩, hall⟩
      obtain ⟨out, hout⟩ := (ih mid).mpr hall
      exact ⟨out, bind_ok.mpr ⟨mid, hmid, hout⟩⟩

theorem foldlM_records {events : List DomainEvent} {state out : IncidentProjection}
    (h : events.foldlM (fun state event => Projector.apply event state) state = .ok out) :
    out.eventCount = state.eventCount + events.length ∧
      out.decisionRunIds = (events.flatMap recordedRunIds).foldl addText state.decisionRunIds ∧
      out.evidenceEventIds =
        (events.flatMap recordedEvidenceIds).foldl addText state.evidenceEventIds := by
  induction events generalizing state with
  | nil =>
    obtain rfl := Except.ok.inj h
    exact ⟨rfl, rfl, rfl⟩
  | cons e events ih =>
    rw [List.foldlM_cons] at h
    obtain ⟨mid, hmid, hrest⟩ := bind_ok.mp h
    have hone := records_of_apply hmid
    obtain ⟨hcount, hruns, hevidence⟩ := ih hrest
    rw [hone.eventCount] at hcount
    rw [hone.decisionRunIds, ← List.foldl_append] at hruns
    rw [hone.evidenceEventIds, ← List.foldl_append] at hevidence
    refine ⟨?_, hruns, hevidence⟩
    rw [hcount, List.length_cons]
    omega

theorem sortBySequence_perm (events : List DomainEvent) : (sortBySequence events).Perm events :=
  List.perm_insertionSort _ events

theorem fold_ok_iff (events : List DomainEvent) (incidentId endpointId : String) :
    (∃ proj, Projector.fold events incidentId endpointId = .ok proj) ↔
      ∀ e ∈ events, Applicable e := by
  unfold Projector.fold
  rw [foldlM_ok_iff]
  exact forall_congr' fun e => by rw [(sortBySequence_perm events).mem_iff]

/-- The order of events with different numbers makes no difference. -/
theorem fold_perm {events events' : List DomainEvent} (hperm : events'.Perm events)
    (hdistinct : (events.map DomainEvent.sequence).Nodup) (incidentId endpointId : String) :
    Projector.fold events' incidentId endpointId = Projector.fold events incidentId endpointId := by
  have hsort : sortBySequence events = sortBySequence events' :=
    Ranking.insertionSort_congr_perm hperm.symm hdistinct
  unfold Projector.fold
  rw [hsort]

/-- The event with the greatest number is applied last. -/
theorem fold_append_singleton {events : List DomainEvent} {e : DomainEvent}
    (hlast : ∀ e' ∈ events, e'.sequence < e.sequence) (incidentId endpointId : String) :
    Projector.fold (events ++ [e]) incidentId endpointId =
      Projector.fold events incidentId endpointId >>= Projector.apply e := by
  have hsort : sortBySequence (events ++ [e]) = sortBySequence events ++ [e] :=
    Ranking.insertionSort_append_singleton fun e' he' => Nat.le_of_lt (hlast e' he')
  unfold Projector.fold
  rw [hsort, List.foldlM_append]
  refine congrArg (_ >>= ·) (funext fun state => ?_)
  rw [List.foldlM_cons]
  exact bind_pure _

/-- What should hold of the projections of events. -/
structure FoldLaws (events : List DomainEvent) (incidentId endpointId : String) : Prop where
  perm : ∀ events', events'.Perm events →
    Projector.fold events' incidentId endpointId = Projector.fold events incidentId endpointId
  step : ∀ e, (∀ e' ∈ events, e'.sequence < e.sequence) →
    Projector.fold (events ++ [e]) incidentId endpointId =
      Projector.fold events incidentId endpointId >>= Projector.apply e
  count : ∀ proj, Projector.fold events incidentId endpointId = .ok proj →
    proj.eventCount = events.length
  decisionRunIds : ∀ proj, Projector.fold events incidentId endpointId = .ok proj →
    proj.decisionRunIds.Nodup
  evidenceEventIds : ∀ proj, Projector.fold events incidentId endpointId = .ok proj →
    proj.evidenceEventIds.Nodup

/-- For events with different numbers the laws hold exactly if the events cannot all be applied or
no id is the echo of an earlier one. -/
theorem foldLaws_iff {events : List DomainEvent}
    (hdistinct : (events.map DomainEvent.sequence).Nodup) (incidentId endpointId : String) :
    FoldLaws events incidentId endpointId ↔
      ((∀ e ∈ events, Applicable e) → NoEcho (runIdsOf events) ∧ NoEcho (evidenceIdsOf events)) := by
  have hnodup : ∀ ids : List Value, (ids.foldl addText []).Nodup ↔ NoEcho ids := by
    intro ids
    rw [nodup_foldl_addText ids List.nodup_nil]
    exact and_iff_right fun v _ => .inr List.not_mem_nil
  have hrecords : ∀ proj, Projector.fold events incidentId endpointId = .ok proj →
      proj.eventCount = events.length ∧
        proj.decisionRunIds = (runIdsOf events).foldl addText [] ∧
        proj.evidenceEventIds = (evidenceIdsOf events).foldl addText [] := by
    intro proj h
    obtain ⟨hcount, hids⟩ := foldlM_records h
    rw [(sortBySequence_perm events).length_eq, Nat.zero_add] at hcount
    exact ⟨hcount, hids⟩
  constructor
  · intro hlaws happlicable
    obtain ⟨proj, hproj⟩ := (fold_ok_iff events incidentId endpointId).mpr happlicable
    obtain ⟨-, hruns, hevidence⟩ := hrecords proj hproj
    rw [← hnodup, ← hnodup, ← hruns, ← hevidence]
    exact ⟨hlaws.decisionRunIds proj hproj, hlaws.evidenceEventIds proj hproj⟩
  · intro hechoes
    refine ⟨fun events' hperm => fold_perm hperm hdistinct _ _,
      fun e hlast => fold_append_singleton hlast _ _, fun proj hproj => (hrecords proj hproj).1,
      fun proj hproj => ?_, fun proj hproj => ?_⟩
    · have happlicable := (fold_ok_iff events incidentId endpointId).mp ⟨proj, hproj⟩
      rw [(hrecords proj hproj).2.1, hnodup]
      exact (hechoes happlicable).1
    · have happlicable := (fold_ok_iff events incidentId endpointId).mp ⟨proj, hproj⟩
      rw [(hrecords proj hproj).2.2, hnodup]
      exact (hechoes happlicable).2

/-- Evidence ids that are numbers. -/
def numberedEvidence : DomainEvent where
  eventId := "sre-1"
  sequence := 1
  aggregateId := "inc-1"
  eventType := .incidentHypothesisRanked
  timestampUtc := "2026-01-01T00:00:00+00:00"
  correlationId := "inc-1"
  payload := [("run_id", .str "run-1"), ("event_ids", .list [.int 5, .int 5])]

/-- Ids that are strings are added once, and the laws hold. -/
theorem foldLaws_iff_texts :
    FoldLaws [{ numberedEvidence with
      sequence := 2
      payload := [("run_id", .str "run-1"), ("event_ids", .list [.str "5", .str "5"])] },
      { numberedEvidence with payload := [("event_ids", .list [.str "5"])] }] "inc-1" "" :=
  (foldLaws_iff (by decide) "inc-1" "").mpr fun _ => ⟨by decide +kernel, by decide +kernel⟩

/-- The number 5 is not found among the strings, and its text is added twice. -/
theorem numbered_evidence_twice :
    ¬ FoldLaws [numberedEvidence] "inc-1" "" ∧
      (Projector.fold [numberedEvidence] "inc-1" "").map IncidentProjection.evidenceEventIds =
        .ok ["5", "5"] := by
  have hids : (Projector.fold [numberedEvidence] "inc-1" "").map
      IncidentProjection.evidenceEventIds = .ok ["5", "5"] := by decide +kernel
  refine ⟨fun hlaws => ?_, hids⟩
  obtain ⟨proj, hproj, htwice⟩ := map_ok.mp hids
  have hnodup := hlaws.evidenceEventIds proj hproj
  rw [htwice] at hnodup
  exact absurd hnodup (by decide)

end Sre
