import NetworkRecovery.Reliability.Event

/-!
# Normalizing what was normalized

An event of the log is normalized again under the label of its source, which is
searched for the same words as the text of a source is. Every label but one is read as
the kind it is the label of: `network_telemetry` has `etw` in it
(`renormalizes_iff`). What comes out of that is stable (`renormalized_settles`).
-/

namespace Reliability

open Python Audit Platform

/-! ## What is read as network telemetry -/

/-- The text that names the source of an observation. -/
def sourceText (raw : Dict) : List Char :=
  lower (orElse (raw.get? "source") (orElse (raw.get? "source_kind") (.str ""))).toText.toList

/-- The source is named as network telemetry, and as nothing that is looked for first. -/
structure NetworkTelemetry (raw : Dict) : Prop where
  named : contains "netstat".toList (sourceText raw) ∨ contains "tcp".toList (sourceText raw) ∨
    textField raw "source_kind" = some "network_telemetry"
  first : ∀ word ∈ ["sysmon", "procmon", "registry", "etw", "eventlog", "event_log"],
    ¬ contains word.toList (sourceText raw)

theorem ofText?_networkTelemetry (s : String) :
    (EventSourceKind.ofText? s).getD .agent = .networkTelemetry ↔ s = "network_telemetry" := by
  constructor
  · intro h
    cases hkind : EventSourceKind.ofText? s with
    | none =>
      rw [hkind] at h
      cases h
    | some kind =>
      rw [hkind] at h
      cases h
      exact (text_of_ofText hkind).symm
  · rintro rfl
    rfl

/-- The word `network` never decides: `etw` is in it, and is looked for before. -/
theorem inferSourceKind_networkTelemetry (raw : Dict) :
    inferSourceKind raw = .ok .networkTelemetry ↔ NetworkTelemetry raw := by
  have hnetwork : contains "network".toList (sourceText raw) →
      contains "etw".toList (sourceText raw) :=
    contains_of_infix (by decide)
  have hlabel : (∃ s, raw.get? "source_kind" = some (.str s) ∧ s = "network_telemetry") ↔
      textField raw "source_kind" = some "network_telemetry" := by
    unfold textField
    split <;> simp_all
  have hparts : NetworkTelemetry raw ↔ _ := ⟨fun h => And.intro h.1 h.2, fun h => ⟨h.1, h.2⟩⟩
  rw [hparts, ← hlabel]
  simp only [List.forall_mem_cons, List.not_mem_nil, false_implies, implies_true, and_true]
  unfold inferSourceKind
  rw [← sourceText]
  simp only [Bool.or_eq_true]
  split_ifs with hsysmon hregistry hetw hlog hnet
  · exact iff_of_false (by simp) fun h => h.2.1 hsysmon
  · exact iff_of_false (by simp) fun h => hregistry.elim h.2.2.1 h.2.2.2.1
  · exact iff_of_false (by simp) fun h => h.2.2.2.2.1 hetw
  · exact iff_of_false (by simp) fun h => hlog.elim h.2.2.2.2.2.1 h.2.2.2.2.2.2
  · obtain ⟨hprocmon, hregistry⟩ := not_or.mp hregistry
    obtain ⟨heventlog, hlog⟩ := not_or.mp hlog
    refine iff_of_true rfl ⟨?_, hsysmon, hprocmon, hregistry, hetw, heventlog, hlog⟩
    rcases hnet with (hnet | hnetstat) | htcp
    · exact absurd (hnetwork hnet) hetw
    · exact .inl hnetstat
    · exact .inr (.inl htcp)
  · -- no word is found, and the label is taken as it is
    obtain ⟨hprocmon, hregistry⟩ := not_or.mp hregistry
    obtain ⟨heventlog, hlog⟩ := not_or.mp hlog
    obtain ⟨hnet, htcp⟩ := not_or.mp hnet
    rw [or_iff_right (not_or.mp hnet).2, or_iff_right htcp,
      and_iff_left ⟨hsysmon, hprocmon, hregistry, hetw, heventlog, hlog⟩]
    cases hkind : raw.get? "source_kind" with
    | none => simp
    | some v => cases v <;> simp [ofText?_networkTelemetry]

/-! ## The second reading -/

/-- Two events say the same of what was observed. -/
structure SameReading (e e' : NormalizedPlatformEvent) : Prop where
  sourceKind : e'.sourceKind = e.sourceKind
  signalName : e'.signalName = e.signalName
  signalValue : e'.signalValue = e.signalValue
  severity : e'.severity = e.severity
  evidenceTier : e'.evidenceTier = e.evidenceTier

theorem EventSourceKind.reread_eq_self {kind : EventSourceKind} :
    kind.reread = kind ↔ kind ≠ .networkTelemetry := by
  cases kind <;> decide

theorem sameReading_renormalized {e : NormalizedPlatformEvent} {draw : EventDraw}
    {endpointId : String} :
    SameReading e (e.renormalized draw endpointId) ↔ e.sourceKind ≠ .networkTelemetry :=
  ⟨fun h => EventSourceKind.reread_eq_self.mp h.sourceKind,
    fun h => ⟨EventSourceKind.reread_eq_self.mpr h, rfl, rfl, rfl, rfl⟩⟩

/-- The kind of an event is the one of its observation. -/
theorem sourceKind_of_ok {draw : EventDraw} {endpointId : String} {raw : Dict}
    {e : NormalizedPlatformEvent}
    (h : normalizeRawObservation draw endpointId none raw = .ok e) :
    inferSourceKind raw = .ok e.sourceKind := (parts_of_ok h).1

theorem sourceKind_networkTelemetry {draw : EventDraw} {endpointId : String} {raw : Dict}
    {e : NormalizedPlatformEvent}
    (h : normalizeRawObservation draw endpointId none raw = .ok e) :
    e.sourceKind = .networkTelemetry ↔ NetworkTelemetry raw := by
  rw [← inferSourceKind_networkTelemetry, sourceKind_of_ok h, Except.ok.injEq]

/-- What the log holds says the same when it is normalized again, unless its observation
is read as network telemetry. -/
theorem renormalizes_iff {draw : EventDraw} {endpointId : String} {raw : Dict}
    {e : NormalizedPlatformEvent}
    (h : normalizeRawObservation draw endpointId none raw = .ok e) (draw' : EventDraw)
    (endpointId' : String) :
    (∃ e', normalizeRawObservation draw' endpointId' none e.modelDump = .ok e' ∧
      SameReading e e') ↔ ¬ NetworkTelemetry raw := by
  have hname : e.signalName ≠ "" := by
    rw [(normalizes_of_ok h).signalName]
    exact signalNameOf_ne_empty raw
  have hagain := normalizeRawObservation_modelDump e hname draw' endpointId'
  rw [← sourceKind_networkTelemetry h]
  constructor
  · rintro ⟨e', he', hsame⟩
    obtain rfl := Except.ok.inj (hagain.symm.trans he')
    exact sameReading_renormalized.mp hsame
  · intro hkind
    exact ⟨_, hagain, sameReading_renormalized.mpr hkind⟩

/-- What a trace of events reports. -/
def etwRow : Dict :=
  [("source_kind", .str "etw"), ("signal_name", .str "proxy_write"), ("value", .int 1)]

theorem renormalizes_iff_etw :
    ∃ e, normalizeRawObservation ⟨"evt_1", "2024-01-01T00:00:00Z"⟩ "local" none etwRow = .ok e ∧
      ∃ e', normalizeRawObservation ⟨"evt_2", "2024-01-01T00:00:01Z"⟩ "local" none e.modelDump =
        .ok e' ∧ SameReading e e' :=
  ⟨_, rfl, (@renormalizes_iff ⟨"evt_1", "2024-01-01T00:00:00Z"⟩ "local" etwRow _ rfl _ _).mpr
    fun h => h.first "etw" (by decide) (by decide +kernel)⟩

/-- What `netstat` reports. -/
def netstatRow : Dict := [("source", .str "netstat"), ("signal_name", .str "tcp_listener")]

/-- The event of `netstat` is network telemetry, and its row of the log an event trace. -/
theorem netstat_reread_as_etw :
    ∃ e, normalizeRawObservation ⟨"evt_1", "2024-01-01T00:00:00Z"⟩ "local" none netstatRow =
        .ok e ∧
      ¬ ∃ e', normalizeRawObservation ⟨"evt_2", "2024-01-01T00:00:01Z"⟩ "local" none e.modelDump =
        .ok e' ∧ SameReading e e' := by
  refine ⟨_, rfl, ?_⟩
  rintro ⟨e', he', hsame⟩
  obtain rfl := Except.ok.inj he'
  exact nomatch hsame.sourceKind

theorem EventSourceKind.reread_ne_networkTelemetry (kind : EventSourceKind) :
    kind.reread ≠ .networkTelemetry := by
  cases kind <;> decide

/-- A second normalization settles the reading: no third one changes it. -/
theorem renormalized_settles {e e' : NormalizedPlatformEvent} {draw draw' : EventDraw}
    {endpointId endpointId' : String} (hname : e.signalName ≠ "")
    (h : normalizeRawObservation draw endpointId none e.modelDump = .ok e') :
    ∃ e'', normalizeRawObservation draw' endpointId' none e'.modelDump = .ok e'' ∧
      SameReading e' e'' := by
  have he' : e.renormalized draw endpointId = e' :=
    Except.ok.inj ((normalizeRawObservation_modelDump e hname draw endpointId).symm.trans h)
  have hname' : e'.signalName ≠ "" := by rwa [← he']
  have hkind : e'.sourceKind ≠ .networkTelemetry := by
    rw [← he']
    exact e.sourceKind.reread_ne_networkTelemetry
  exact ⟨_, normalizeRawObservation_modelDump e' hname' draw' endpointId',
    sameReading_renormalized.mpr hkind⟩

end Reliability
