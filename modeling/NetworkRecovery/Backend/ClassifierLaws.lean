import NetworkRecovery.Backend.ClassifierWorker

/-!
# Runs of the classifier worker

A classification is idempotent when the runs after the one that commits an
incident change nothing of its event (`Idempotent`). The worker breaks this in three ways: a run
that finds the incident sets the status back to `classified`; a row of the mirror file outlives
the run that wrote it; and a run whose incident has the id of another event's commits a row of
the audit chain, and no incident.

`idempotent_iff` says that there is no other way, whatever the order of the moves. What holds of
every run is `Sound`: the incidents are those of the commits, and the ids that are about to be
committed are new.
-/

namespace Backend

open Python Audit Platform Reactive

/-! ## The rows of an event -/

/-- The rows of the audit chain for an event. -/
def auditRows (db : RiskDb) (eventId : String) : List AuditChainEntry :=
  db.chain.filter fun row => textField row.payload "event_id" = some eventId

/-- The rows of the mirror file for an event; the file reads as these rows (`JsonlFile.reads`). -/
def mirrorRows (mirror : JsonlFile) (eventId : String) : List Dict :=
  mirror.rows.filter fun row => textField row "event_id" = some eventId

theorem textField_auditPayload (job : Job) (incident : IncidentRecord) :
    textField (auditPayload job incident).1 "event_id" = some job.eventId := rfl

theorem filter_append_of_none {α : Type} {p : α → Bool} (old : List α) {new : List α}
    (h : ∀ x ∈ new, p x = false) : (old ++ new).filter p = old.filter p := by
  have hnil : new.filter p = [] := by
    apply List.filter_eq_nil_iff.mpr
    intro x hx
    rw [h x hx]
    exact Bool.false_ne_true
  rw [List.filter_append, hnil, List.append_nil]

/-- The status changes for the event that is marked, and for no other. -/
theorem statusOf_mark (table : EvidenceTable) (e e' status : String) (reasons : List String) :
    statusOf (table.mark e status reasons) e' =
      if e' = e then (statusOf table e').map fun _ => status else statusOf table e' := by
  have hkeys : (fun row : EvidenceEvent => decide (row.eventId = e')) ∘ (fun row =>
      if row.eventId = e then
        { row with classificationStatus := status, limitations := row.limitations ++ reasons }
      else row) = fun row => decide (row.eventId = e') := by
    funext row
    by_cases hrow : row.eventId = e
    · simp [hrow]
    · simp [hrow]
  unfold statusOf EvidenceTable.mark
  dsimp only
  rw [List.find?_map, hkeys]
  cases hfind : table.rows.find? fun row => row.eventId = e' with
  | none => split <;> rfl
  | some row =>
    have hrow : row.eventId = e' := by simpa using List.find?_some hfind
    split
    · next he =>
      rw [Option.map_some, Option.map_some, if_pos (hrow.trans he)]
      rfl
    · next he =>
      have hother : ¬ row.eventId = e := fun hmarked => he (hrow.symm.trans hmarked)
      rw [Option.map_some, Option.map_some, if_neg hother]
      rfl

/-! ## One commit -/

section Commit

variable {db : RiskDb} {e e' : String} {draft : Draft}

/-- The rows of a new incident, as they come to a commit: under their event, with a new id. -/
structure Inserts (db : RiskDb) (e : String) (draft : Draft) : Prop where
  own : ∀ b ∈ draft.bundle, b.incident.evidenceEventId = e
  fresh : ∀ b ∈ draft.bundle, b.incident.incidentId ∉ incidentIds db.incidents

theorem inserts_of_none (h : draft.bundle = none) : Inserts db e draft := by
  constructor
  · intro b hb
    rw [h] at hb
    cases hb
  · intro b hb
    rw [h] at hb
    cases hb

theorem incidentsOf_commit_of_ne (h : Inserts db e draft) (hne : e' ≠ e) :
    incidentsOf (db.commit e draft) e' = incidentsOf db e' := by
  apply filter_append_of_none
  intro i hi
  obtain ⟨b, hb, rfl⟩ := List.mem_map.mp hi
  rw [h.own b (Option.mem_toList.mp hb)]
  exact decide_eq_false (Ne.symm hne)

/-- The ids of an event are among all of them. -/
theorem incidentIds_incidentsOf {id : String} (h : id ∈ incidentIds (incidentsOf db e)) :
    id ∈ incidentIds db.incidents := by
  obtain ⟨i, hi, rfl⟩ := List.mem_map.mp h
  exact List.mem_map_of_mem (List.mem_of_mem_filter hi)

/-- A commit leaves the other events alone. -/
theorem footprint_commit_of_ne (h : Inserts db e draft) (hne : e' ≠ e) :
    footprint (db.commit e draft) e' = footprint db e' := by
  have hids := incidentsOf_commit_of_ne h hne
  have hnew : ∀ b ∈ draft.bundle.toList,
      decide (b.incident.incidentId ∈ incidentIds (incidentsOf db e')) = false := by
    intro b hb
    apply decide_eq_false
    intro hid
    exact h.fresh b (Option.mem_toList.mp hb) (incidentIds_incidentsOf hid)
  have hstatus : statusOf (db.commit e draft).evidence e' = statusOf db.evidence e' := by
    have hmark := statusOf_mark db.evidence e e' draft.status.value draft.reasons
    rwa [if_neg hne] at hmark
  unfold footprint
  dsimp only
  rw [hids, hstatus]
  congr 1
  · apply filter_append_of_none
    intro c hc
    obtain ⟨b, hb, hc⟩ := List.mem_flatMap.mp hc
    obtain ⟨c, -, rfl⟩ := List.mem_map.mp hc
    rw [c.2]
    exact hnew b hb
  · apply filter_append_of_none
    intro p hp
    obtain ⟨b, hb, rfl⟩ := List.mem_map.mp hp
    rw [b.policy.2]
    exact hnew b hb
  · apply filter_append_of_none
    intro r hr
    obtain ⟨b, hb, hr⟩ := List.mem_flatMap.mp hr
    obtain ⟨r, -, rfl⟩ := Option.map_eq_some_iff.mp (Option.mem_toList.mp hr)
    rw [r.2]
    exact hnew b hb

/-- A commit without an incident changes the status. -/
theorem footprint_commit_of_none (h : draft.bundle = none) :
    footprint (db.commit e draft) e =
      { footprint db e with status := (statusOf db.evidence e).map fun _ => draft.status.value } := by
  have hmark := statusOf_mark db.evidence e e draft.status.value draft.reasons
  rw [if_pos rfl] at hmark
  rw [← hmark]
  unfold footprint incidentsOf RiskDb.commit
  rw [h]
  simp only [Option.toList_none, List.map_nil, List.flatMap_nil, List.append_nil]

theorem auditRows_commit_of_ne (h : ∀ a ∈ draft.audit,
    textField a.1.payload "event_id" = some e) (hne : e' ≠ e) :
    auditRows (db.commit e draft) e' = auditRows db e' := by
  apply filter_append_of_none
  intro row hrow
  obtain ⟨a, ha, rfl⟩ := List.mem_map.mp hrow
  rw [h a (Option.mem_toList.mp ha)]
  apply decide_eq_false
  intro heq
  exact hne (Option.some.inj heq).symm

theorem audit_of_bundle {b : Bundle} (h : b ∈ draft.bundle) : draft.audit.isSome = true := by
  obtain ⟨a, ha, -⟩ := Option.bind_eq_some_iff.mp h
  exact Option.isSome_of_mem ha

/-- The event gets the row of its draft. -/
theorem length_auditRows_commit (db : RiskDb) (h : ∀ a ∈ draft.audit,
    textField a.1.payload "event_id" = some e) :
    (auditRows (db.commit e draft) e).length =
      (auditRows db e).length + draft.audit.toList.length := by
  have hrows : (draft.audit.toList.map Prod.fst).filter
      (fun row => textField row.payload "event_id" = some e) = draft.audit.toList.map Prod.fst := by
    apply List.filter_eq_self.mpr
    intro row hrow
    obtain ⟨a, ha, rfl⟩ := List.mem_map.mp hrow
    exact decide_eq_true (h a (Option.mem_toList.mp ha))
  have hall : auditRows (db.commit e draft) e =
      auditRows db e ++ draft.audit.toList.map Prod.fst := by
    unfold auditRows RiskDb.commit
    rw [List.filter_append, hrows]
  rw [hall, List.length_append, List.length_map]

theorem incidentExists_iff : incidentExistsForEvidence db e = true ↔
    ∃ i ∈ db.incidents, i.evidenceEventId = e := by
  unfold incidentExistsForEvidence incidentForEvidence
  rw [List.find?_isSome]
  simp only [decide_eq_true_eq]

/-- A commit adds the incident of its bundle. -/
theorem incidentExists_commit (h : Inserts db e draft) :
    incidentExistsForEvidence (db.commit e draft) e' = true ↔
      incidentExistsForEvidence db e' = true ∨ draft.bundle.isSome = true ∧ e' = e := by
  rw [incidentExists_iff, incidentExists_iff]
  constructor
  · rintro ⟨i, hi, rfl⟩
    rcases List.mem_append.mp hi with hi | hi
    · exact .inl ⟨i, hi, rfl⟩
    · obtain ⟨b, hb, rfl⟩ := List.mem_map.mp hi
      have hb := Option.mem_toList.mp hb
      exact .inr ⟨Option.isSome_of_mem hb, h.own b hb⟩
  · rintro (⟨i, hi, he⟩ | ⟨hsome, rfl⟩)
    · exact ⟨i, List.mem_append_left _ hi, he⟩
    · obtain ⟨b, hb⟩ := Option.isSome_iff_exists.mp hsome
      exact ⟨b.incident, List.mem_append_right _ (List.mem_map_of_mem (Option.mem_toList.mpr hb)),
        h.own b hb⟩

end Commit

/-! ## Runs -/

section Runs

variable {Pid : Type}

theorem ClassificationStatus.value_injective {status status' : ClassificationStatus}
    (h : status.value = status'.value) : status = status' := by
  cases status <;> cases status' <;> first | rfl | exact absurd h (by decide)

/-- Of every commit of an incident: the tables hold what they held after it, and the audit chain
and the mirror file one row for the event. -/
def Idempotent (s : Jobs Pid) (history : List Committed) : Prop :=
  ∀ c ∈ history, footprint s.db c.eventId = c.footprint ∧
    (auditRows s.db c.eventId).length = 1 ∧ (mirrorRows s.mirror c.eventId).length = 1

/-- A draft with an incident does not quarantine, and one without a row for the audit chain does
not ask for a review. -/
structure Settled (draft : Draft) : Prop where
  incident : ∀ b ∈ draft.bundle, draft.status ≠ .quarantined
  silent : draft.audit = none → draft.status = .classified ∨ draft.status = .quarantined

theorem settled_skipped : Settled skipped where
  incident b hb := by cases hb
  silent _ := .inl rfl

/-- A session that is about to commit: its row of the audit chain names its event, its incident is
new, and its status goes with both. -/
structure Prepared (db : RiskDb) (session : Session Pid) : Prop where
  named : ∀ draft left, session.phase = .writing draft left →
    ∀ a ∈ draft.audit, textField a.1.payload "event_id" = some session.job.eventId
  inserts : ∀ draft left, session.phase = .writing draft left →
    Inserts db session.job.eventId draft
  settled : ∀ draft left, session.phase = .writing draft left → Settled draft

/-- The incidents that two sessions are about to commit have different ids. -/
def IdsApart (x y : Session Pid) : Prop :=
  ∀ a ∈ x.bundle, ∀ b ∈ y.bundle, a.incident.incidentId ≠ b.incident.incidentId

/-- What holds of every run. -/
structure Sound (s : Jobs Pid) (history : List Committed) : Prop where
  committed : ∀ e, incidentExistsForEvidence s.db e = true ↔ ∃ c ∈ history, c.eventId = e
  prepared : ∀ x ∈ s.sessions, Prepared s.db x
  apart : ∀ x ∈ s.sessions, ∀ y ∈ s.sessions, x.pid ≠ y.pid → IdsApart x y
  /-- evidence that an incident comes from is not in quarantine -/
  settled : ∀ c ∈ history, c.footprint.status ≠ some ClassificationStatus.quarantined.value

theorem bundle_of_writing {x : Session Pid} {draft : Draft} {left : List FileWrite}
    (h : x.phase = .writing draft left) : x.bundle = draft.bundle := by
  unfold Session.bundle
  rw [h]

/-- What was prepared for one commit is prepared after another. -/
theorem Prepared.commit {db : RiskDb} {x : Session Pid} (h : Prepared db x) {e : String}
    {draft : Draft} (hapart : ∀ a ∈ draft.bundle, ∀ b ∈ x.bundle,
      a.incident.incidentId ≠ b.incident.incidentId) : Prepared (db.commit e draft) x where
  named := h.named
  inserts d left hphase := by
    have hinserts := h.inserts d left hphase
    refine ⟨hinserts.own, ?_⟩
    intro b hb hid
    obtain ⟨i, hi, heq⟩ := List.mem_map.mp hid
    rcases List.mem_append.mp hi with hi | hi
    · apply hinserts.fresh b hb
      rw [← heq]
      exact List.mem_map_of_mem hi
    · obtain ⟨a, ha, rfl⟩ := List.mem_map.mp hi
      rw [← bundle_of_writing hphase] at hb
      exact hapart a (Option.mem_toList.mp ha) b hb heq
  settled := h.settled

variable [DecidableEq Pid]

/-- A commit for an event that has an incident finds it classified, leaves it so and adds nothing. A
commit of a new incident finds no row of its event in the audit chain, and its own alone in the
mirror file. Nothing is written to the mirror file for an event that has an incident. -/
def Undisturbed (s : Jobs Pid) : WorkerMove Pid → Prop
  | .write p =>
    match s.session p with
    | some ⟨_, job, .writing _ (.mirror _ :: _)⟩ =>
      incidentExistsForEvidence s.db job.eventId = false
    | _ => True
  | .commit p =>
    match s.session p with
    | some ⟨_, job, .writing draft []⟩ =>
      if incidentExistsForEvidence s.db job.eventId then
        draft.audit = none ∧ ∀ status ∈ statusOf s.db.evidence job.eventId,
          status = "classified" ∧ draft.status = .classified
      else draft.bundle.isSome → auditRows s.db job.eventId = [] ∧
        (mirrorRows s.mirror job.eventId).length = 1
    | _ => True
  | _ => True

/-! ### Sessions -/

variable {s : Jobs Pid} {history : List Committed} {p : Pid}

theorem session_mem {session : Session Pid} (h : s.session p = some session) :
    session ∈ s.sessions ∧ session.pid = p :=
  ⟨List.mem_of_find?_eq_some h, by simpa using List.find?_some h⟩

theorem mem_others {x : Session Pid} : x ∈ s.others p ↔ x ∈ s.sessions ∧ x.pid ≠ p := by
  unfold Jobs.others
  rw [List.mem_filter, decide_eq_true_eq]

theorem Sound.close (h : Sound s history) (p : Pid) : Sound (s.close p) history where
  committed := h.committed
  prepared x hx := h.prepared x (mem_others.mp hx).1
  apart x hx y hy := h.apart x (mem_others.mp hx).1 y (mem_others.mp hy).1
  settled := h.settled

theorem Sound.put (h : Sound s history) {x : Session Pid} (hprepared : Prepared s.db x)
    (hapart : ∀ y ∈ s.others x.pid, IdsApart x y) : Sound (s.put x) history where
  committed := h.committed
  prepared y hy := by
    rcases List.mem_cons.mp hy with rfl | hy
    · exact hprepared
    · exact h.prepared y (mem_others.mp hy).1
  apart y hy z hz hne := by
    rcases List.mem_cons.mp hy with rfl | hy
    · rcases List.mem_cons.mp hz with rfl | hz
      · exact absurd rfl hne
      · exact hapart z hz
    · rcases List.mem_cons.mp hz with rfl | hz
      · intro a ha b hb heq
        exact hapart y hy b hb a ha heq.symm
      · exact h.apart y (mem_others.mp hy).1 z (mem_others.mp hz).1 hne
  settled := h.settled

/-! ### The draft of a run -/

variable {H : Digest} {ofText : String → Option FloatVal} {db : RiskDb} {job : Job}

theorem storeIncidentBundle_added {endpointId : String} {payload : JsonDict}
    {controls : List JsonDict} {policy : Dict} {b : Bundle}
    (h : storeIncidentBundle ofText db job endpointId payload controls policy = some (.added b)) :
    b.incident.evidenceEventId = job.eventId ∧
      b.incident.incidentId ∉ incidentIds db.incidents := by
  unfold storeIncidentBundle at h
  split at h
  · cases h
  · obtain ⟨incidentId, -, h⟩ := Option.bind_eq_some_iff.mp h
    split at h
    · cases h
    · next hnone =>
      obtain ⟨bundle, hbundle, h⟩ := Option.bind_eq_some_iff.mp h
      split at h
      · cases h
      · cases h
        unfold bundleRows at hbundle
        obtain ⟨signals, -, hbundle⟩ := Option.bind_eq_some_iff.mp hbundle
        obtain ⟨confidence, -, hbundle⟩ := Option.bind_eq_some_iff.mp hbundle
        obtain ⟨limitations, -, hbundle⟩ := Option.bind_eq_some_iff.mp hbundle
        obtain ⟨rows, -, hbundle⟩ := Option.bind_eq_some_iff.mp hbundle
        cases hbundle
        refine ⟨rfl, ?_⟩
        intro hid
        obtain ⟨i, hi, heq⟩ := List.mem_map.mp hid
        exact absurd heq (by simpa using List.find?_eq_none.mp hnone i hi)

theorem statusFor_ne_quarantined (primary : String) : statusFor primary ≠ .quarantined := by
  unfold statusFor
  split
  · exact fun h => by cases h
  · exact fun h => by cases h

theorem prepare_spec {row : EvidenceEvent} {draft : Draft} {left : List FileWrite}
    (h : prepare H ofText db job row = some (draft, left)) :
    (∀ a ∈ draft.audit, textField a.1.payload "event_id" = some job.eventId) ∧
      Inserts db job.eventId draft ∧ Settled draft := by
  have hnone : ∀ reasons, (∀ a ∈ (⟨.quarantined, reasons, none⟩ : Draft).audit,
      textField a.1.payload "event_id" = some job.eventId) ∧
      Inserts db job.eventId ⟨.quarantined, reasons, none⟩ ∧
      Settled ⟨.quarantined, reasons, none⟩ := by
    intro reasons
    refine ⟨fun a ha => ?_, inserts_of_none rfl, fun b hb => ?_, fun _ => .inr rfl⟩
    · cases ha
    · cases hb
  unfold prepare at h
  split at h
  · cases h
    exact hnone _
  · split at h
    · cases h
      exact hnone _
    · obtain ⟨stored, hstored, h⟩ := Option.bind_eq_some_iff.mp h
      cases h
      refine ⟨fun a ha => ?_, ⟨fun b hb => ?_, fun b hb => ?_⟩, fun b hb => ?_, fun haudit => ?_⟩
      · cases ha
        exact textField_auditPayload job stored.incident
      · cases stored with
        | existing incident => cases hb
        | added bundle =>
          cases hb
          exact (storeIncidentBundle_added hstored).1
      · cases stored with
        | existing incident => cases hb
        | added bundle =>
          cases hb
          exact (storeIncidentBundle_added hstored).2
      · exact statusFor_ne_quarantined _
      · cases haudit

/-! ### Steps -/

/-- A session that inserts nothing. -/
theorem Sound.put_of_none (h : Sound s history) {x : Session Pid} (hprepared : Prepared s.db x)
    (hnone : x.bundle = none) : Sound (s.put x) history := by
  apply h.put hprepared
  intro y _ a ha
  rw [hnone] at ha
  cases ha

theorem idsApart_of_not_waits {draft : Draft} (h : s.waits p draft = false) :
    ∀ y ∈ s.others p, ∀ a ∈ draft.bundle, ∀ b ∈ y.bundle,
      a.incident.incidentId ≠ b.incident.incidentId := by
  intro y hy a ha b hb heq
  apply List.any_eq_false.mp h y hy
  rw [Option.mem_def.mp ha, Option.bind_some, Option.mem_def.mp hb]
  exact decide_eq_true (Or.inl heq)

/-- A session goes on to its next file. -/
theorem Sound.put_next (h : Sound s history) {job : Job} {draft : Draft} {w : FileWrite}
    {left : List FileWrite} (hsession : s.session p = some ⟨p, job, .writing draft (w :: left)⟩) :
    Sound (s.put ⟨p, job, .writing draft left⟩) history := by
  obtain ⟨hmem, -⟩ := session_mem hsession
  have hprepared := h.prepared _ hmem
  apply h.put
  · constructor
    · intro d l hphase
      cases hphase
      exact hprepared.named draft (w :: left) rfl
    · intro d l hphase
      cases hphase
      exact hprepared.inserts draft (w :: left) rfl
    · intro d l hphase
      cases hphase
      exact hprepared.settled draft (w :: left) rfl
  · intro y hy a ha
    obtain ⟨hy, hne⟩ := mem_others.mp hy
    exact h.apart _ hmem y hy hne.symm a ha

variable (H ofText) in
/-- Only a session that has a file to write to writes. -/
theorem step_write_of_idle (sep : Linesep)
    (hidle : ∀ job draft w left, s.session p ≠ some ⟨p, job, .writing draft (w :: left)⟩) :
    s.step H ofText sep (.write p) = (s, []) ∧ Undisturbed s (.write p) := by
  cases hsession : s.session p with
  | none => simp only [Jobs.step, Undisturbed, hsession, and_self]
  | some x =>
    obtain ⟨q, job, phase⟩ := x
    obtain rfl : q = p := (session_mem hsession).2
    cases phase with
    | classifying row => simp only [Jobs.step, Undisturbed, hsession, and_self]
    | writing draft left =>
      cases left with
      | nil => simp only [Jobs.step, Undisturbed, hsession, and_self]
      | cons w left => exact absurd hsession (hidle job draft w left)

variable (H ofText) in
/-- Only a session that has written its files commits. -/
theorem step_commit_of_idle (sep : Linesep)
    (hidle : ∀ job draft, s.session p ≠ some ⟨p, job, .writing draft []⟩) :
    s.step H ofText sep (.commit p) = (s, []) ∧ Undisturbed s (.commit p) := by
  cases hsession : s.session p with
  | none => simp only [Jobs.step, Undisturbed, hsession, and_self]
  | some x =>
    obtain ⟨q, job, phase⟩ := x
    obtain rfl : q = p := (session_mem hsession).2
    cases phase with
    | classifying row => simp only [Jobs.step, Undisturbed, hsession, and_self]
    | writing draft left =>
      cases left with
      | nil => exact absurd hsession (hidle job draft)
      | cons w left => simp only [Jobs.step, Undisturbed, hsession, and_self]

variable (H ofText) in
/-- A session that starts has inserted nothing. -/
theorem Sound.start (sep : Linesep) (h : Sound s history) (p : Pid) (job : Job) :
    ∃ s', s.step H ofText sep (.start p job) = (s', []) ∧ s'.db = s.db ∧ s'.mirror = s.mirror ∧
      Sound s' history := by
  unfold Jobs.step
  dsimp only
  split
  · next row _ _ =>
    refine ⟨_, rfl, rfl, rfl, ?_⟩
    split
    · refine h.put_of_none ⟨?_, ?_, ?_⟩ rfl
      · intro draft left hphase a ha
        cases hphase
        cases ha
      · intro draft left hphase
        cases hphase
        exact inserts_of_none rfl
      · intro draft left hphase
        cases hphase
        exact settled_skipped
    · refine h.put_of_none ⟨?_, ?_, ?_⟩ rfl
      · intro draft left hphase
        cases hphase
      · intro draft left hphase
        cases hphase
      · intro draft left hphase
        cases hphase
  · exact ⟨s, rfl, rfl, rfl, h⟩

variable (H ofText) in
/-- What a session inserts has an id that no other session is about to commit. -/
theorem Sound.prepare (sep : Linesep) (h : Sound s history) (p : Pid) :
    ∃ s', s.step H ofText sep (.prepare p) = (s', []) ∧ s'.db = s.db ∧ s'.mirror = s.mirror ∧
      Sound s' history := by
  unfold Jobs.step
  dsimp only
  split
  · next job row hsession =>
    split
    · exact ⟨_, rfl, rfl, rfl, h.close p⟩
    · next draft left hprepare =>
      obtain ⟨hnamed, hinserts, hsettled⟩ := prepare_spec hprepare
      split
      · exact ⟨s, rfl, rfl, rfl, h⟩
      · next hwaits =>
        refine ⟨_, rfl, rfl, rfl, ?_⟩
        apply h.put
        · constructor
          · intro d l hphase
            cases hphase
            exact hnamed
          · intro d l hphase
            cases hphase
            exact hinserts
          · intro d l hphase
            cases hphase
            exact hsettled
        · intro y hy a ha
          exact idsApart_of_not_waits (Bool.eq_false_iff.mpr hwaits) y hy a ha
  · exact ⟨s, rfl, rfl, rfl, h⟩

variable (H ofText) in
/-- A move changes the sessions or the event log at most, or it writes to the mirror file, or it
commits. -/
theorem Sound.step_cases (sep : Linesep) (h : Sound s history) (m : WorkerMove Pid) :
    (∃ s', s.step H ofText sep m = (s', []) ∧ s'.db = s.db ∧ s'.mirror = s.mirror ∧
      Sound s' history ∧ Undisturbed s m) ∨
    (∃ p job draft stored left, m = .write p ∧
      s.session p = some ⟨p, job, .writing draft (.mirror stored :: left)⟩ ∧
      s.step H ofText sep m =
        (FileWrite.apply sep job (s.put ⟨p, job, .writing draft left⟩) (.mirror stored), [])) ∨
    ∃ p job draft, m = .commit p ∧ s.session p = some ⟨p, job, .writing draft []⟩ ∧
      s.step H ofText sep m = ({ s.close p with db := s.db.commit job.eventId draft },
        draft.bundle.toList.map fun _ =>
          ⟨job.eventId, footprint (s.db.commit job.eventId draft) job.eventId⟩) := by
  cases m with
  | start p job =>
    left
    obtain ⟨s', hstep, hdb, hmirror, hsound⟩ := h.start H ofText sep p job
    exact ⟨s', hstep, hdb, hmirror, hsound, trivial⟩
  | prepare p =>
    left
    obtain ⟨s', hstep, hdb, hmirror, hsound⟩ := h.prepare H ofText sep p
    exact ⟨s', hstep, hdb, hmirror, hsound, trivial⟩
  | write p =>
    by_cases hwrites : ∃ job draft w left, s.session p = some ⟨p, job, .writing draft (w :: left)⟩
    · obtain ⟨job, draft, w, left, hsession⟩ := hwrites
      cases w with
      | mirror stored =>
        right
        left
        exact ⟨p, job, draft, stored, left, rfl, hsession, by simp only [Jobs.step, hsession]⟩
      | emit call =>
        left
        have hput := h.put_next hsession
        exact ⟨FileWrite.apply sep job (s.put ⟨p, job, .writing draft left⟩) (.emit call),
          by simp only [Jobs.step, hsession], rfl, rfl,
          ⟨hput.committed, hput.prepared, hput.apart, hput.settled⟩,
          by simp only [Undisturbed, hsession]⟩
    · push Not at hwrites
      obtain ⟨hstep, hund⟩ := step_write_of_idle H ofText sep hwrites
      exact .inl ⟨s, hstep, rfl, rfl, h, hund⟩
  | commit p =>
    by_cases hcommits : ∃ job draft, s.session p = some ⟨p, job, .writing draft []⟩
    · obtain ⟨job, draft, hsession⟩ := hcommits
      right
      right
      exact ⟨p, job, draft, rfl, hsession, by simp only [Jobs.step, hsession]⟩
    · push Not at hcommits
      obtain ⟨hstep, hund⟩ := step_commit_of_idle H ofText sep hcommits
      exact .inl ⟨s, hstep, rfl, rfl, h, hund⟩
  | fail p =>
    left
    exact ⟨_, rfl, rfl, rfl, h.close p, trivial⟩

/-- The session that commits is prepared, and apart from the others. -/
theorem Sound.commit (h : Sound s history) {job : Job} {draft : Draft}
    (hsession : s.session p = some ⟨p, job, .writing draft []⟩) :
    Sound { s.close p with db := s.db.commit job.eventId draft }
      (history ++ draft.bundle.toList.map fun _ =>
        ⟨job.eventId, footprint (s.db.commit job.eventId draft) job.eventId⟩) where
  committed e := by
    have hinserts := (h.prepared _ (session_mem hsession).1).inserts draft [] rfl
    dsimp only
    rw [incidentExists_commit hinserts, h.committed e]
    constructor
    · rintro (⟨c, hc, he⟩ | ⟨hsome, rfl⟩)
      · exact ⟨c, List.mem_append_left _ hc, he⟩
      · obtain ⟨b, hb⟩ := Option.isSome_iff_exists.mp hsome
        refine ⟨_, List.mem_append_right _ (List.mem_map_of_mem (Option.mem_toList.mpr hb)), rfl⟩
    · rintro ⟨c, hc, rfl⟩
      rcases List.mem_append.mp hc with hc | hc
      · exact .inl ⟨c, hc, rfl⟩
      · obtain ⟨b, hb, rfl⟩ := List.mem_map.mp hc
        exact .inr ⟨Option.isSome_of_mem (Option.mem_toList.mp hb), rfl⟩
  prepared y hy := by
    obtain ⟨hy, hne⟩ := mem_others.mp hy
    apply (h.prepared y hy).commit
    exact h.apart _ (session_mem hsession).1 y hy hne.symm
  apart x hx y hy := h.apart x (mem_others.mp hx).1 y (mem_others.mp hy).1
  settled c hc := by
    rcases List.mem_append.mp hc with hc | hc
    · exact h.settled c hc
    · obtain ⟨b, hb, rfl⟩ := List.mem_map.mp hc
      have hsettled := (h.prepared _ (session_mem hsession).1).settled draft [] rfl
      have hmark := statusOf_mark s.db.evidence job.eventId job.eventId draft.status.value
        draft.reasons
      rw [if_pos rfl] at hmark
      intro hquarantined
      obtain ⟨-, -, hvalue⟩ := Option.map_eq_some_iff.mp (hmark.symm.trans hquarantined)
      exact hsettled.incident b (Option.mem_toList.mp hb) (ClassificationStatus.value_injective hvalue)

variable (H ofText) in
/-- What holds of every run is kept by every move. -/
theorem Sound.step (sep : Linesep) (h : Sound s history) (m : WorkerMove Pid) :
    Sound (s.step H ofText sep m).1 (history ++ (s.step H ofText sep m).2) := by
  rcases h.step_cases H ofText sep m with ⟨s', hstep, -, -, hsound, -⟩ |
    ⟨p, job, draft, stored, left, -, hsession, hstep⟩ | ⟨p, job, draft, -, hsession, hstep⟩
  · rw [hstep, List.append_nil]
    exact hsound
  · rw [hstep, List.append_nil]
    have hput := h.put_next hsession
    exact ⟨hput.committed, hput.prepared, hput.apart, hput.settled⟩
  · rw [hstep]
    exact h.commit hsession

/-- A row of the mirror file disturbs the event that has an incident, and no other. -/
theorem idempotent_mirror_iff (h : Sound s history) (hidem : Idempotent s history)
    (sep : Linesep) {job : Job} {draft : Draft} {stored : IncidentRecord} {left : List FileWrite}
    (hsession : s.session p = some ⟨p, job, .writing draft (.mirror stored :: left)⟩) :
    Idempotent (FileWrite.apply sep job (s.put ⟨p, job, .writing draft left⟩) (.mirror stored))
        history ↔ Undisturbed s (.write p) := by
  have hund : Undisturbed s (.write p) ↔ incidentExistsForEvidence s.db job.eventId = false := by
    simp only [Undisturbed, hsession]
  have hrows : ∀ e, mirrorRows (FileWrite.apply sep job (s.put ⟨p, job, .writing draft left⟩)
      (.mirror stored)).mirror e = mirrorRows s.mirror e ++
        if job.eventId = e then [(auditPayload job stored).1] else [] := by
    intro e
    have happend : (FileWrite.apply sep job (s.put ⟨p, job, .writing draft left⟩)
        (.mirror stored)).mirror.rows = s.mirror.rows ++ [(auditPayload job stored).1] := rfl
    unfold mirrorRows
    rw [happend, List.filter_append, List.filter_singleton, textField_auditPayload]
    simp only [Option.some.injEq, Bool.cond_decide]
  rw [hund]
  constructor
  · intro hafter
    rw [Bool.eq_false_iff]
    intro hexists
    obtain ⟨c, hc, he⟩ := (h.committed job.eventId).mp hexists
    obtain ⟨-, -, hbefore⟩ := hidem c hc
    obtain ⟨-, -, hlength⟩ := hafter c hc
    rw [hrows, if_pos he.symm, List.length_append, List.length_singleton] at hlength
    omega
  · intro hnone c hc
    obtain ⟨hfoot, haudit, hmirror⟩ := hidem c hc
    have hother : job.eventId ≠ c.eventId := by
      intro he
      have hexists := (h.committed job.eventId).mpr ⟨c, hc, he.symm⟩
      rw [hnone] at hexists
      cases hexists
    refine ⟨hfoot, haudit, ?_⟩
    rw [hrows, if_neg hother, List.append_nil]
    exact hmirror

omit [DecidableEq Pid] in
/-- The commit of another event's rows. -/
theorem Idempotent.commit_of_ne (hidem : Idempotent s history) {job : Job} {draft : Draft}
    (hprepared : Prepared s.db ⟨p, job, .writing draft []⟩) {c : Committed} (hc : c ∈ history)
    (hne : c.eventId ≠ job.eventId) :
    footprint (s.db.commit job.eventId draft) c.eventId = c.footprint ∧
      (auditRows (s.db.commit job.eventId draft) c.eventId).length = 1 ∧
      (mirrorRows s.mirror c.eventId).length = 1 := by
  obtain ⟨hfoot, haudit, hmirror⟩ := hidem c hc
  refine ⟨?_, ?_, hmirror⟩
  · rw [footprint_commit_of_ne (hprepared.inserts draft [] rfl) hne]
    exact hfoot
  · rw [auditRows_commit_of_ne (hprepared.named draft [] rfl) hne]
    exact haudit

omit [DecidableEq Pid] in
/-- A commit for an event that has an incident. -/
theorem idempotent_recommit_iff (hidem : Idempotent s history) {job : Job} {draft : Draft}
    (hprepared : Prepared s.db ⟨p, job, .writing draft []⟩) {c : Committed} (hc : c ∈ history)
    (hsettled : c.footprint.status ≠ some ClassificationStatus.quarantined.value)
    (he : c.eventId = job.eventId) :
    (footprint (s.db.commit job.eventId draft) c.eventId = c.footprint ∧
      (auditRows (s.db.commit job.eventId draft) c.eventId).length = 1 ∧
      (mirrorRows s.mirror c.eventId).length = 1) ↔
    draft.audit = none ∧ ∀ status ∈ statusOf s.db.evidence job.eventId,
      status = "classified" ∧ draft.status = .classified := by
  obtain ⟨hfoot, haudit, hmirror⟩ := hidem c hc
  have hlength := length_auditRows_commit s.db (hprepared.named draft [] rfl)
  rw [he] at hfoot haudit hmirror ⊢
  dsimp only at hlength
  have hnone : draft.audit = none → footprint (s.db.commit job.eventId draft) job.eventId =
      { c.footprint with status :=
          (statusOf s.db.evidence job.eventId).map fun _ => draft.status.value } := by
    intro haudits
    have hbundle : draft.bundle = none := by
      unfold Draft.bundle
      rw [haudits]
      rfl
    rw [footprint_commit_of_none hbundle, hfoot]
  have hstatus : c.footprint.status = statusOf s.db.evidence job.eventId := by
    rw [← hfoot]
    rfl
  constructor
  · rintro ⟨hafter, hcount, -⟩
    have haudits : draft.audit = none := by
      cases haudits : draft.audit with
      | none => rfl
      | some a =>
        rw [hlength, haudits, Option.toList_some, List.length_singleton] at hcount
        omega
    refine ⟨haudits, ?_⟩
    intro status hmem
    have hsame := congrArg Footprint.status ((hnone haudits).symm.trans hafter)
    dsimp only at hsame
    rcases (hprepared.settled draft [] rfl).silent haudits with hclassified | hquarantined
    · rw [hstatus, Option.mem_def.mp hmem, hclassified] at hsame
      exact ⟨(Option.some.inj hsame).symm, hclassified⟩
    · rw [Option.mem_def.mp hmem, hquarantined] at hsame
      exact absurd hsame.symm hsettled
  · rintro ⟨haudits, hkept⟩
    refine ⟨?_, ?_, hmirror⟩
    · have hmap : (statusOf s.db.evidence job.eventId).map (fun _ => draft.status.value) =
          c.footprint.status := by
        rw [hstatus]
        cases hcase : statusOf s.db.evidence job.eventId with
        | none => rfl
        | some status =>
          obtain ⟨rfl, hclassified⟩ := hkept status hcase
          rw [Option.map_some, hclassified]
          rfl
      rw [hnone haudits, hmap]
    · rw [hlength, haudits]
      exact haudit

/-- A commit for an event that has an incident must not write, and must find it classified. -/
theorem idempotent_commit_again_iff (h : Sound s history) (hidem : Idempotent s history)
    {job : Job} {draft : Draft} (hsession : s.session p = some ⟨p, job, .writing draft []⟩)
    (hexists : incidentExistsForEvidence s.db job.eventId = true) :
    Idempotent { s.close p with db := s.db.commit job.eventId draft }
        (history ++ draft.bundle.toList.map fun _ =>
          ⟨job.eventId, footprint (s.db.commit job.eventId draft) job.eventId⟩) ↔
      draft.audit = none ∧ ∀ status ∈ statusOf s.db.evidence job.eventId,
        status = "classified" ∧ draft.status = .classified := by
  have hprepared := h.prepared _ (session_mem hsession).1
  obtain ⟨c, hc, he⟩ := (h.committed job.eventId).mp hexists
  constructor
  · intro hafter
    exact (idempotent_recommit_iff hidem hprepared hc (h.settled c hc) he).mp
      (hafter c (List.mem_append_left _ hc))
  · intro hkept d hd
    rcases List.mem_append.mp hd with hd | hd
    · by_cases hde : d.eventId = job.eventId
      · exact (idempotent_recommit_iff hidem hprepared hd (h.settled d hd) hde).mpr hkept
      · exact hidem.commit_of_ne hprepared hd hde
    · obtain ⟨b, hb, -⟩ := List.mem_map.mp hd
      obtain ⟨a, ha⟩ := Option.isSome_iff_exists.mp (audit_of_bundle (Option.mem_toList.mp hb))
      rw [hkept.1] at ha
      cases ha

/-- The commit of an incident must be the first to write of its event. -/
theorem idempotent_commit_new_iff (h : Sound s history) (hidem : Idempotent s history)
    {job : Job} {draft : Draft} (hsession : s.session p = some ⟨p, job, .writing draft []⟩)
    (hnew : ¬ incidentExistsForEvidence s.db job.eventId = true) :
    Idempotent { s.close p with db := s.db.commit job.eventId draft }
        (history ++ draft.bundle.toList.map fun _ =>
          ⟨job.eventId, footprint (s.db.commit job.eventId draft) job.eventId⟩) ↔
      (draft.bundle.isSome → auditRows s.db job.eventId = [] ∧
        (mirrorRows s.mirror job.eventId).length = 1) := by
  have hprepared := h.prepared _ (session_mem hsession).1
  have hother : ∀ d ∈ history, d.eventId ≠ job.eventId := by
    intro d hd he
    exact hnew ((h.committed job.eventId).mpr ⟨d, hd, he⟩)
  have hlength := length_auditRows_commit s.db (hprepared.named draft [] rfl)
  dsimp only at hlength
  constructor
  · intro hafter hsome
    obtain ⟨b, hb⟩ := Option.isSome_iff_exists.mp hsome
    obtain ⟨a, ha⟩ := Option.isSome_iff_exists.mp (audit_of_bundle hb)
    obtain ⟨-, hcount, hrow⟩ := hafter _
      (List.mem_append_right _ (List.mem_map_of_mem (Option.mem_toList.mpr hb)))
    dsimp only at hcount hrow
    rw [hlength, ha, Option.toList_some, List.length_singleton] at hcount
    refine ⟨List.length_eq_zero_iff.mp ?_, hrow⟩
    omega
  · intro hclean d hd
    rcases List.mem_append.mp hd with hd | hd
    · exact hidem.commit_of_ne hprepared hd (hother d hd)
    · obtain ⟨b, hb, rfl⟩ := List.mem_map.mp hd
      have hb := Option.mem_toList.mp hb
      obtain ⟨a, ha⟩ := Option.isSome_iff_exists.mp (audit_of_bundle hb)
      obtain ⟨hnone, hrow⟩ := hclean (Option.isSome_of_mem hb)
      refine ⟨rfl, ?_, hrow⟩
      dsimp only
      rw [hlength, ha, hnone]
      rfl

/-- The step: what was idempotent stays so exactly when the move disturbs nothing. -/
theorem step_idempotent_iff (H : Digest) (ofText : String → Option FloatVal) (sep : Linesep)
    (h : Sound s history) (hidem : Idempotent s history) (m : WorkerMove Pid) :
    Idempotent (s.step H ofText sep m).1 (history ++ (s.step H ofText sep m).2) ↔
      Undisturbed s m := by
  rcases h.step_cases H ofText sep m with ⟨s', hstep, hdb, hmirror, -, hund⟩ |
    ⟨p, job, draft, stored, left, rfl, hsession, hstep⟩ | ⟨p, job, draft, rfl, hsession, hstep⟩
  · rw [hstep, List.append_nil]
    refine iff_of_true ?_ hund
    intro c hc
    rw [hdb, hmirror]
    exact hidem c hc
  · rw [hstep, List.append_nil]
    exact idempotent_mirror_iff h hidem sep hsession
  · rw [hstep]
    simp only [Undisturbed, hsession]
    split
    · next hexists => exact idempotent_commit_again_iff h hidem hsession hexists
    · next hnew => exact idempotent_commit_new_iff h hidem hsession hnew

omit [DecidableEq Pid] in
/-- Before the first run there is no incident. -/
theorem sound_init (evidence : EvidenceTable) (chain : List AuditChainEntry) (mirror : JsonlFile)
    (events : List TriskDomainEvent) : Sound (Jobs.init evidence chain mirror events : Jobs Pid) []
    where
  committed e := by
    rw [incidentExists_iff]
    constructor
    · rintro ⟨i, hi, -⟩
      exact absurd hi List.not_mem_nil
    · rintro ⟨c, hc, -⟩
      exact absurd hc List.not_mem_nil
  prepared x hx := absurd hx List.not_mem_nil
  apart x hx := absurd hx List.not_mem_nil
  settled c hc := absurd hc List.not_mem_nil

/-- What `idempotent_iff` is proven by: both at once. -/
structure Kept (s : Jobs Pid) (history : List Committed) : Prop where
  sound : Sound s history
  idempotent : Idempotent s history

theorem kept_step_iff (H : Digest) (ofText : String → Option FloatVal) (sep : Linesep)
    (s : Jobs Pid) (history : List Committed) (m : WorkerMove Pid) (h : Kept s history) :
    Kept (s.step H ofText sep m).1 (history ++ (s.step H ofText sep m).2) ↔ Undisturbed s m := by
  rw [← step_idempotent_iff H ofText sep h.sound h.idempotent m]
  constructor
  · intro hafter
    exact hafter.idempotent
  · intro hafter
    exact ⟨h.sound.step H ofText sep m, hafter⟩

/-- Whatever the runs and their order: what a commit of an incident leaves is left alone, all
along, exactly when no move disturbs it. -/
theorem idempotent_iff (H : Digest) (ofText : String → Option FloatVal) (sep : Linesep)
    (evidence : EvidenceTable) (chain : List AuditChainEntry) (mirror : JsonlFile)
    (events : List TriskDomainEvent) (moves : List (WorkerMove Pid)) :
    (∀ pre, pre <+: moves →
      Idempotent (run (Jobs.step H ofText sep) (Jobs.init evidence chain mirror events) pre).1
        (run (Jobs.step H ofText sep) (Jobs.init evidence chain mirror events) pre).2) ↔
      Admitted (Jobs.step H ofText sep) Undisturbed (Jobs.init evidence chain mirror events)
        moves := by
  have hinit : Kept (Jobs.init evidence chain mirror events : Jobs Pid) [] :=
    ⟨sound_init evidence chain mirror events, fun c hc => absurd hc List.not_mem_nil⟩
  have hsound : ∀ (s : Jobs Pid) (history : List Committed) (m : WorkerMove Pid),
      Sound s history → Sound (s.step H ofText sep m).1 (history ++ (s.step H ofText sep m).2) :=
    fun s history m h => h.step H ofText sep m
  rw [← prefixes_iff_admitted (kept_step_iff H ofText sep) hinit]
  constructor
  · intro h pre hpre
    exact ⟨run_inv hsound pre hinit.sound, h pre hpre⟩
  · intro h pre hpre
    exact (h pre hpre).idempotent

end Runs

/-! ## A review that is forgotten -/

/-- A proxy of the local machine, and nothing known of who listens. -/
def localProxyRow : EvidenceEvent where
  eventId := "e1"
  sourceEventId := none
  contentHash := "c1"
  endpointId := "host-1"
  evidenceType := "proxy_state"
  evidenceTier := "T1_STATE_EVIDENCE"
  rawSnapshot := [("timestamp_utc", .str "2026-01-01T00:00:00Z"), ("endpoint_id", .str "host-1"),
    ("wininet_proxy_enabled", .bool true), ("wininet_proxy_server", .str "127.0.0.1:8888")]
  normalizedFields := []
  limitations := []
  classificationStatus := "pending"
  tenantId := none
  createdAt := 0

def testResult (controlId result : String) : JsonDict :=
  ⟨[("control_id", .str controlId), ("test_result", .str result)], by simp [Dict.keys], trivial,
    trivial, trivial⟩

/-- What the pipeline makes of it; of the texts only those that decide anything. -/
def localProxyAnalytics : Analytics where
  incidents := [⟨[("incident_id", .str "INC-6c1509f92ceaf1c0"),
    ("incident_class", .str "UNKNOWN_LOCAL_PROXY"), ("confidence", .float (.ofScientific 55 (-2)))],
    by simp [Dict.keys], trivial, trivial, trivial, trivial⟩]
  controlTests := [testResult "WININET_LOCALHOST_PROXY_HEALTH" "NOT_TESTED",
    testResult "WININET_PROXY_OWNER_VERIFICATION" "PARTIAL",
    testResult "PROXY_REVERTER_DETECTION" "PASS",
    testResult "DIRECT_VS_PROXY_PATH_COMPARISON" "NOT_TESTED",
    testResult "SAFE_REMEDIATION_POLICY" "PASS", testResult "WININET_WINHTTP_ALIGNMENT" "PASS"]
  policyDecisions := []

def localProxyJob (timestamp : String) : Job where
  eventId := "e1"
  pipeline := fun _ => .ok localProxyAnalytics
  newIncidentId := "INC-000000000000"
  reviewId := "HR-000000000000"
  timestamp

/-- The job runs, with its nine writes, and runs again. -/
def classifiedTwice : List (WorkerMove Unit) :=
  [WorkerMove.start () (localProxyJob "2026-01-01T00:00:01Z"), .prepare ()] ++
    List.replicate 9 (WorkerMove.write ()) ++
    [WorkerMove.commit (), .start () (localProxyJob "2026-01-01T00:00:02Z"), .commit ()]

def noJobs : Jobs Unit :=
  .init ⟨[localProxyRow], List.pairwise_singleton _ _⟩ [] .absent []

/-- The incident is up for review, and its evidence no longer. -/
theorem classifiedTwice_status :
    ((run (Jobs.step sha256 (fun _ => none) .lf) noJobs classifiedTwice).2.map fun c =>
        (c.eventId, c.footprint.status)) = [("e1", some "review_required")] ∧
      statusOf (run (Jobs.step sha256 (fun _ => none) .lf) noJobs classifiedTwice).1.db.evidence
        "e1" = some "classified" := by
  constructor
  · decide +kernel
  · decide +kernel

theorem review_forgotten :
    ¬ ∀ pre, pre <+: classifiedTwice →
      Idempotent (run (Jobs.step sha256 (fun _ => none) .lf) noJobs pre).1
        (run (Jobs.step sha256 (fun _ => none) .lf) noJobs pre).2 := by
  intro h
  obtain ⟨hcommits, hstatus⟩ := classifiedTwice_status
  have hmem : ("e1", some "review_required") ∈
      (run (Jobs.step sha256 (fun _ => none) .lf) noJobs classifiedTwice).2.map fun c =>
        (c.eventId, c.footprint.status) := by
    rw [hcommits]
    exact List.mem_singleton_self _
  obtain ⟨c, hc, heq⟩ := List.mem_map.mp hmem
  obtain ⟨hevent, hreview⟩ := Prod.mk.inj heq
  obtain ⟨hfoot, -, -⟩ := h classifiedTwice List.prefix_rfl c hc
  have hkept := congrArg Footprint.status hfoot
  dsimp only [footprint] at hkept
  rw [hevent, hstatus, hreview] at hkept
  exact absurd (Option.some.inj hkept) (by decide)

end Backend
