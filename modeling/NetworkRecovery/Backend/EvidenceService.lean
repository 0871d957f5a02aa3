import NetworkRecovery.Audit.Record
import NetworkRecovery.Lib.Ranking
import NetworkRecovery.Lib.Reactive

/-!
# Evidence of several tenants

`EvidenceService` of `evidence_service.py` over `upsert_evidence` of
`repositories.py`. A snapshot that is already stored is not stored again: the
row that has its content hash, or its endpoint and source id, comes back. Both
are looked up in the rows of ALL tenants, and the service stamps its own tenant
on whatever comes back; the reads filter by that stamp.

`tenants_isolated_iff`: no call touches, hides or hands over what another
tenant ingested exactly when every lookup finds nothing or a row of the caller,
a call that stores a row has a tenant to stamp on it, and the new row pushes no
row of another tenant off the page that the listing is cut to BEFORE it is
filtered.
-/

namespace Backend

open Python Audit Reactive

/-! ## Tables -/

/-- `EvidenceEvent`; times are microseconds. -/
structure EvidenceEvent where
  eventId : String
  sourceEventId : Option String
  contentHash : String
  endpointId : String
  evidenceType : String
  evidenceTier : String
  rawSnapshot : Dict
  normalizedFields : Dict
  limitations : List String
  classificationStatus : String
  tenantId : Option String
  createdAt : Nat

/-- The UNIQUE constraints: `event_id`, and `endpoint_id` with `source_event_id`,
where NULL is no value. -/
def EvidenceEvent.Conflicts (a b : EvidenceEvent) : Prop :=
  a.eventId = b.eventId ∨
    (a.endpointId = b.endpointId ∧ a.sourceEventId ≠ none ∧ a.sourceEventId = b.sourceEventId)

instance (a b : EvidenceEvent) : Decidable (a.Conflicts b) :=
  inferInstanceAs (Decidable (_ ∨ _))

/-- The table, in the order of the primary keys. -/
structure EvidenceTable where
  rows : List EvidenceEvent
  distinct : rows.Pairwise fun a b => ¬ a.Conflicts b

structure Endpoint where
  endpointId : String
  hostname : String

structure ObservationRecord where
  observationId : String
  tenantId : String
  rawObservation : Dict

structure Db where
  endpoints : List Endpoint
  observations : List ObservationRecord
  evidence : EvidenceTable

/-- The insert, or the `IntegrityError`. -/
def EvidenceTable.insert (table : EvidenceTable) (row : EvidenceEvent) : Option EvidenceTable :=
  if h : ∀ r ∈ table.rows, ¬ r.Conflicts row then
    some ⟨table.rows ++ [row], List.pairwise_append.mpr
      ⟨table.distinct, List.pairwise_singleton _ _, fun r hr s hs => by
        rw [List.mem_singleton.mp hs]
        exact h r hr⟩⟩
  else none

/-- `row.tenant_id = tenant`. -/
def EvidenceEvent.stamp (tenantId : String) (row : EvidenceEvent) : EvidenceEvent :=
  { row with tenantId := some tenantId }

/-- The stamped row, in its place in the table. -/
def EvidenceTable.stamp (table : EvidenceTable) (eventId tenantId : String) : EvidenceTable where
  rows := table.rows.map fun row => if row.eventId = eventId then row.stamp tenantId else row
  distinct := by
    refine List.pairwise_map.mpr (table.distinct.imp fun {a b} h => ?_)
    split <;> split <;> exact h

/-! ## Ingest -/

/-- `STANDARD_LIMITATIONS`. -/
def standardLimitations : List String :=
  ["Listener ownership is correlation, not registry writer proof.",
    "Registry writer attribution requires Sysmon, Procmon, ETW, or EventLog evidence.",
    "Successful proxy probe does not prove the proxy is safe or intended.",
    "Risk classification is a triage signal, not a malware verdict.",
    "Evidence tier does not grant execution authority; policy and human approval remain separate."]

/-- The arguments of `ingest_evidence` with the tenant of the service, and what the
clock says: as text when the id is made, in microseconds when the row is. -/
structure IngestCall where
  tenantId : String
  endpointId : String
  evidenceType : String
  rawSnapshot : Dict
  sourceEventId : Option String
  evidenceTier : String
  normalizedFields : Dict
  /-- empty for `None` -/
  limitations : List String
  observationId : Option String
  timestampUtc : String
  now : Nat

/-- `content_hash`. -/
def contentHash (H : Digest) (endpointId : String) (sourceEventId : Option String) (raw : Dict) :
    String :=
  H.hexdigest (encode (dumpsSorted (.dict
    [("endpoint_id", .str endpointId),
      ("source_event_id", (sourceEventId.map Value.str).getD .none),
      ("raw", .dict raw)])))

/-- `make_event_id`. -/
def makeEventId (H : Digest) (timestampUtc evidenceType : String) (stable : Dict) : String :=
  .ofList ((H.hexdigest (encode (dumpsSorted (.dict
    [("timestamp_utc", .str timestampUtc),
      ("evidence_type", .str evidenceType),
      ("stable", .dict stable)])))).toList.take 24)

/-- The row `upsert_evidence` would insert. The id is never empty, and so its
random stand-in is never used. -/
def IngestCall.row (H : Digest) (call : IngestCall) : EvidenceEvent where
  eventId := makeEventId H call.timestampUtc call.evidenceType
    [("endpoint_id", .str call.endpointId),
      ("source_event_id", .str (call.sourceEventId.getD ""))]
  sourceEventId := call.sourceEventId
  contentHash := contentHash H call.endpointId call.sourceEventId call.rawSnapshot
  endpointId := call.endpointId
  evidenceType := call.evidenceType
  evidenceTier := call.evidenceTier
  rawSnapshot := call.rawSnapshot
  normalizedFields := call.normalizedFields
  limitations := if call.limitations = [] then standardLimitations else call.limitations
  classificationStatus := "pending"
  tenantId := none
  createdAt := call.now

/-- The two selects of `upsert_evidence`. -/
def findExisting (rows : List EvidenceEvent) (row : EvidenceEvent) : Option EvidenceEvent :=
  match rows.find? fun r => r.contentHash = row.contentHash with
  | some existing => some existing
  | none =>
    match row.sourceEventId with
    | none => none
    | some source =>
      if source = "" then none
      else rows.find? fun r => r.endpointId = row.endpointId ∧ r.sourceEventId = some source

/-- `upsert_evidence`: the row, whether it is new, and the table. -/
def upsertEvidence (table : EvidenceTable) (row : EvidenceEvent) :
    Option ((EvidenceEvent × Bool) × EvidenceTable) :=
  match findExisting table.rows row with
  | some existing => some ((existing, false), table)
  | none => (table.insert row).map fun table => ((row, true), table)

/-- `ensure_endpoint`. -/
def ensureEndpoint (endpoints : List Endpoint) (endpointId : String) : List Endpoint :=
  if endpoints.any fun e => e.endpointId = endpointId then endpoints
  else endpoints ++ [⟨endpointId, endpointId⟩]

/-- The observation of that id, which is unique, learns the id of the evidence if it
is the tenant's. -/
def linkObservation (observations : List ObservationRecord) (tenantId observationId eventId : String) :
    List ObservationRecord :=
  if observationId = "" then observations
  else observations.map fun o =>
    if o.observationId = observationId ∧ o.tenantId = tenantId then
      { o with rawObservation := o.rawObservation.set "linked_evidence_id" (.str eventId) }
    else o

/-- `EvidenceService.ingest_evidence`, in a transaction of its own: an
`IntegrityError` rolls it back. -/
def ingestEvidence (H : Digest) (db : Db) (call : IngestCall) : Option (EvidenceEvent × Bool) × Db :=
  match upsertEvidence db.evidence (call.row H) with
  | none => (none, db)
  | some ((row, created), table) =>
    (some (row.stamp call.tenantId, created),
      { endpoints := ensureEndpoint db.endpoints call.endpointId
        observations := linkObservation db.observations call.tenantId (call.observationId.getD "")
          row.eventId
        evidence := table.stamp row.eventId call.tenantId })

/-! ## Reads -/

/-- `EvidenceService.get_evidence`. -/
def getEvidence (table : EvidenceTable) (tenantId eventId : String) : Option EvidenceEvent :=
  match table.rows.find? fun row => row.eventId = eventId with
  | none => none
  | some row =>
    match row.tenantId with
    | none => some row
    | some owner => if owner ≠ "" ∧ owner ≠ tenantId then none else some row

/-- `ORDER BY created_at DESC`; rows of one time come in the order of their keys. -/
def newestFirst (rows : List EvidenceEvent) : List EvidenceEvent :=
  rows.reverse.insertionSort fun a b => b.createdAt < a.createdAt

/-- `not r.tenant_id or r.tenant_id == tenant`. -/
def EvidenceEvent.VisibleTo (row : EvidenceEvent) (tenantId : String) : Prop :=
  row.tenantId = none ∨ row.tenantId = some "" ∨ row.tenantId = some tenantId

instance (row : EvidenceEvent) (tenantId : String) : Decidable (row.VisibleTo tenantId) :=
  inferInstanceAs (Decidable (_ ∨ _))

/-- `EvidenceService.list_evidence`: the limit comes before the filter. -/
def listEvidence (table : EvidenceTable) (tenantId : String) (limit : Nat) : List EvidenceEvent :=
  ((newestFirst table.rows).take limit).filter fun row => row.VisibleTo tenantId

/-! ## What the operations do -/

theorem mem_newestFirst {rows : List EvidenceEvent} {row : EvidenceEvent} :
    row ∈ newestFirst rows ↔ row ∈ rows := by
  unfold newestFirst
  rw [List.mem_insertionSort, List.mem_reverse]

theorem newestFirst_concat (rows : List EvidenceEvent) (row : EvidenceEvent) :
    newestFirst (rows ++ [row]) =
      (newestFirst rows).orderedInsert (fun a b => b.createdAt < a.createdAt) row := by
  unfold newestFirst
  rw [List.reverse_append, List.reverse_singleton, List.singleton_append, List.insertionSort_cons]

theorem newestFirst_sorted (rows : List EvidenceEvent) :
    (newestFirst rows).Pairwise fun a b => b.createdAt ≤ a.createdAt := by
  induction rows using List.reverseRecOn with
  | nil => exact List.Pairwise.nil
  | append_singleton rows row ih =>
    rw [newestFirst_concat]
    exact Ranking.pairwise_orderedInsert row ih

namespace EvidenceTable

variable {table : EvidenceTable}

/-- The id says which row. -/
theorem eq_of_eventId {a b : EvidenceEvent} (ha : a ∈ table.rows) (hb : b ∈ table.rows)
    (hid : a.eventId = b.eventId) : a = b := by
  have hids : (table.rows.map EvidenceEvent.eventId).Nodup :=
    List.pairwise_map.mpr (table.distinct.imp fun h hid => h (.inl hid))
  exact List.inj_on_of_nodup_map hids ha hb hid

theorem find?_eventId {row : EvidenceEvent} (h : row ∈ table.rows) :
    (table.rows.find? fun r => r.eventId = row.eventId) = some row := by
  cases hfind : table.rows.find? fun r => r.eventId = row.eventId with
  | none => exact absurd (List.find?_eq_none.mp hfind row h) (by simp)
  | some r =>
    have hid : r.eventId = row.eventId := by simpa using List.find?_some hfind
    rw [eq_of_eventId (List.mem_of_find?_eq_some hfind) h hid]

theorem newestFirst_nodup (table : EvidenceTable) : (newestFirst table.rows).Nodup := by
  have hrows : table.rows.Nodup := table.distinct.imp fun h heq => h (.inl (congrArg _ heq))
  exact (List.perm_insertionSort _ _).nodup_iff.mpr (List.nodup_reverse.mpr hrows)

theorem insert_eq_some {row : EvidenceEvent} {table' : EvidenceTable}
    (h : table.insert row = some table') :
    (∀ r ∈ table.rows, ¬ r.Conflicts row) ∧ table'.rows = table.rows ++ [row] := by
  unfold insert at h
  split at h
  · next hfree =>
    obtain rfl := Option.some.inj h
    exact ⟨hfree, rfl⟩
  · cases h

theorem insert_eq_none {row : EvidenceEvent} (h : table.insert row = none) :
    ∃ r ∈ table.rows, r.Conflicts row := by
  unfold insert at h
  split at h
  · cases h
  · next hfree =>
    by_contra hnone
    exact hfree fun r hr hconflict => hnone ⟨r, hr, hconflict⟩

end EvidenceTable

theorem findExisting_mem {rows : List EvidenceEvent} {row existing : EvidenceEvent}
    (h : findExisting rows row = some existing) : existing ∈ rows := by
  unfold findExisting at h
  split at h
  · next r hfind =>
    obtain rfl := Option.some.inj h
    exact List.mem_of_find?_eq_some hfind
  · split at h
    · cases h
    · split at h
      · cases h
      · exact List.mem_of_find?_eq_some h

/-- A call is refused, or hands an existing row over to its tenant, or stores its own
row. -/
theorem ingestEvidence_cases (H : Digest) (db : Db) (call : IngestCall) :
    (findExisting db.evidence.rows (call.row H) = none ∧
      (∃ r ∈ db.evidence.rows, r.Conflicts (call.row H)) ∧
      ingestEvidence H db call = (none, db)) ∨
    (∃ row, findExisting db.evidence.rows (call.row H) = some row ∧
      (ingestEvidence H db call).1 = some (row.stamp call.tenantId, false) ∧
      (ingestEvidence H db call).2.evidence =
        db.evidence.stamp row.eventId call.tenantId) ∨
    (findExisting db.evidence.rows (call.row H) = none ∧
      (∀ r ∈ db.evidence.rows, ¬ r.Conflicts (call.row H)) ∧
      (ingestEvidence H db call).1 = some ((call.row H).stamp call.tenantId, true) ∧
      (ingestEvidence H db call).2.evidence.rows =
        db.evidence.rows ++ [(call.row H).stamp call.tenantId]) := by
  unfold ingestEvidence upsertEvidence
  cases hfind : findExisting db.evidence.rows (call.row H) with
  | some row => exact .inr (.inl ⟨row, rfl, rfl, rfl⟩)
  | none =>
    cases hinsert : db.evidence.insert (call.row H) with
    | none => exact .inl ⟨rfl, EvidenceTable.insert_eq_none hinsert, by simp⟩
    | some table =>
      obtain ⟨hfree, hrows⟩ := EvidenceTable.insert_eq_some hinsert
      refine .inr (.inr ⟨rfl, hfree, by simp, ?_⟩)
      have hothers : (db.evidence.rows.map fun r =>
          if r.eventId = (call.row H).eventId then r.stamp call.tenantId else r) =
          db.evidence.rows := by
        refine (List.map_congr_left fun r hr => ?_).trans (List.map_id _)
        exact if_neg fun hid => hfree r hr (.inl hid)
      simp only [Option.map_some, EvidenceTable.stamp, hrows, List.map_append, hothers,
        List.map_cons, if_true, List.map_nil]

/-! ## Reads of a table whose rows have owners -/

/-- Every row bears the name of a tenant. -/
def Owned (rows : List EvidenceEvent) : Prop :=
  ∀ row ∈ rows, ∃ owner, row.tenantId = some owner ∧ owner ≠ ""

/-- No tenant reads what is not its own. -/
def ReadsOwn (table : EvidenceTable) (limit : Nat) : Prop :=
  ∀ tenantId, (∀ eventId row, getEvidence table tenantId eventId = some row →
    row.tenantId = some tenantId) ∧
    ∀ row ∈ listEvidence table tenantId limit, row.tenantId = some tenantId

theorem VisibleTo.owner {row : EvidenceEvent} {tenantId owner : String}
    (h : row.VisibleTo tenantId) (howner : row.tenantId = some owner) (hne : owner ≠ "") :
    row.tenantId = some tenantId := by
  rcases h with h | h | h
  · rw [howner] at h
    cases h
  · rw [howner] at h
    exact absurd (Option.some.inj h) hne
  · exact h

theorem getEvidence_of_mem {table : EvidenceTable} {row : EvidenceEvent} (h : row ∈ table.rows)
    (tenantId : String) :
    getEvidence table tenantId row.eventId = if row.VisibleTo tenantId then some row else none := by
  unfold getEvidence EvidenceEvent.VisibleTo
  rw [EvidenceTable.find?_eventId h]
  dsimp only
  split
  · next howner => simp [howner]
  · next owner howner =>
    by_cases hblank : owner = ""
    · simp [howner, hblank]
    · by_cases hown : owner = tenantId <;> simp [howner, hblank, hown]

theorem getEvidence_mem {table : EvidenceTable} {tenantId eventId : String} {row : EvidenceEvent}
    (h : getEvidence table tenantId eventId = some row) :
    row ∈ table.rows ∧ row.eventId = eventId ∧ row.VisibleTo tenantId := by
  have hmem : row ∈ table.rows ∧ row.eventId = eventId := by
    unfold getEvidence at h
    split at h
    · cases h
    · next r hfind =>
      have hid : r.eventId = eventId := by simpa using List.find?_some hfind
      split at h
      · obtain rfl := Option.some.inj h
        exact ⟨List.mem_of_find?_eq_some hfind, hid⟩
      · split at h
        · cases h
        · obtain rfl := Option.some.inj h
          exact ⟨List.mem_of_find?_eq_some hfind, hid⟩
  obtain ⟨hrow, rfl⟩ := hmem
  rw [getEvidence_of_mem hrow] at h
  refine ⟨hrow, rfl, ?_⟩
  by_contra hhidden
  rw [if_neg hhidden] at h
  cases h

theorem mem_listEvidence {table : EvidenceTable} {tenantId : String} {limit : Nat}
    {row : EvidenceEvent} :
    row ∈ listEvidence table tenantId limit ↔
      row ∈ (newestFirst table.rows).take limit ∧ row.VisibleTo tenantId := by
  unfold listEvidence
  rw [List.mem_filter, decide_eq_true_iff]

/-- The reads keep to the owner exactly when there is one. -/
theorem readsOwn_iff {table : EvidenceTable} {limit : Nat} :
    ReadsOwn table limit ↔ Owned table.rows := by
  constructor
  · intro h row hrow
    -- A row without an owner is read by "a" and by "b".
    have hread : ∀ tenantId, row.VisibleTo tenantId → row.tenantId = some tenantId :=
      fun tenantId hvisible => (h tenantId).1 row.eventId row (by
        rw [getEvidence_of_mem hrow, if_pos hvisible])
    cases howner : row.tenantId with
    | none => exact absurd (hread "a" (.inl howner)) (by rw [howner]; simp)
    | some owner =>
      refine ⟨owner, rfl, ?_⟩
      rintro rfl
      exact absurd (hread "a" (.inr (.inl howner))) (by rw [howner]; simp)
  · intro h tenantId
    constructor
    · intro eventId row hget
      obtain ⟨hrow, -, hvisible⟩ := getEvidence_mem hget
      obtain ⟨owner, howner, hne⟩ := h row hrow
      exact VisibleTo.owner hvisible howner hne
    · intro row hlist
      obtain ⟨hpage, hvisible⟩ := mem_listEvidence.mp hlist
      obtain ⟨owner, howner, hne⟩ := h row (mem_newestFirst.mp (List.mem_of_mem_take hpage))
      exact VisibleTo.owner hvisible howner hne

/-! ## Isolation -/

/-- A call in a run. -/
structure Ingest where
  before : EvidenceTable
  call : IngestCall
  result : Option (EvidenceEvent × Bool)
  after : EvidenceTable

/-- The step of a run. -/
def ingest (H : Digest) (db : Db) (call : IngestCall) : Db × List Ingest :=
  let done := ingestEvidence H db call
  (done.2, [⟨db.evidence, call, done.1, done.2.evidence⟩])

/-- The call leaves the rows of the other tenants alone, and what they and anybody
else can read of them, and does not hand one of them over. -/
structure Ingest.Isolated (limit : Nat) (e : Ingest) : Prop where
  kept : ∀ row ∈ e.before.rows, row.tenantId ≠ some e.call.tenantId → row ∈ e.after.rows
  get : ∀ row ∈ e.before.rows, row.tenantId ≠ some e.call.tenantId → ∀ reader,
    getEvidence e.after reader row.eventId = getEvidence e.before reader row.eventId
  list : ∀ row ∈ e.before.rows, row.tenantId ≠ some e.call.tenantId → ∀ reader,
    (row ∈ listEvidence e.after reader limit ↔ row ∈ listEvidence e.before reader limit)
  handed : ∀ row created, e.result = some (row, created) →
    ∀ old ∈ e.before.rows, old.eventId = row.eventId → old.tenantId = some e.call.tenantId

/-- Tenant isolation, after some calls: each of them was isolated, nobody reads what
is not his own, and what a tenant ingested is there for it to read. -/
structure TenantsIsolated (limit : Nat) (db : Db) (history : List Ingest) : Prop where
  reads : ReadsOwn db.evidence limit
  calls : ∀ e ∈ history, e.Isolated limit
  returned : ∀ e ∈ history, ∀ row created, e.result = some (row, created) →
    getEvidence db.evidence e.call.tenantId row.eventId = some row

/-- The call keeps away from other tenants: what it finds is the caller's own, and
what it stores bears a name and pushes no row of another tenant off the page. -/
def Apart (H : Digest) (limit : Nat) (db : Db) (call : IngestCall) : Prop :=
  match findExisting db.evidence.rows (call.row H) with
  | some row => row.tenantId = some call.tenantId
  | none =>
    (∃ row ∈ db.evidence.rows, row.Conflicts (call.row H)) ∨
      (call.tenantId ≠ "" ∧ ∀ k last, limit = k + 1 →
        (newestFirst db.evidence.rows)[k]? = some last →
          last.tenantId ≠ some call.tenantId → call.now ≤ last.createdAt)

/-- The row is stamped with the name it bears. -/
theorem EvidenceTable.stamp_own {table : EvidenceTable} {row : EvidenceEvent} {tenantId : String}
    (hrow : row ∈ table.rows) (hown : row.tenantId = some tenantId) :
    table.stamp row.eventId tenantId = table := by
  have hrows : (table.rows.map fun r => if r.eventId = row.eventId then r.stamp tenantId else r) =
      table.rows := by
    refine (List.map_congr_left fun r hr => ?_).trans (List.map_id _)
    split
    · next hid =>
      rw [table.eq_of_eventId hr hrow hid]
      unfold EvidenceEvent.stamp
      rw [← hown]
      rfl
    · rfl
  obtain ⟨rows, hdistinct⟩ := table
  simp only [EvidenceTable.stamp] at hrows ⊢
  simp only [hrows]

theorem stamp_own_row {row : EvidenceEvent} {tenantId : String} (h : row.tenantId = some tenantId) :
    row.stamp tenantId = row := by
  unfold EvidenceEvent.stamp
  rw [← h]

section Steps

variable {H : Digest} {limit : Nat} {db : Db} {call : IngestCall}

/-- A call that leaves the table as it is and hands over a row of its own. -/
theorem Ingest.Isolated.unchanged {table : EvidenceTable} {result : Option (EvidenceEvent × Bool)}
    (h : ∀ row created, result = some (row, created) →
      ∀ old ∈ table.rows, old.eventId = row.eventId → old.tenantId = some call.tenantId) :
    (⟨table, call, result, table⟩ : Ingest).Isolated limit where
  kept := fun _ hrow _ => hrow
  get := fun _ _ _ _ => rfl
  list := fun _ _ _ _ => Iff.rfl
  handed := h

/-- A stored row conflicts with no row before it. -/
theorem not_conflicts_new {table table' : EvidenceTable} {new row : EvidenceEvent}
    (hrows : table'.rows = table.rows ++ [new]) (hrow : row ∈ table.rows) :
    ¬ row.Conflicts new := by
  have hpair := table'.distinct
  rw [hrows] at hpair
  exact (List.pairwise_append.mp hpair).2.2 row hrow new (List.mem_singleton.mpr rfl)

/-- What a new row changes for an old one: nothing, or its place on the page. -/
theorem reads_concat {table table' : EvidenceTable} {new : EvidenceEvent}
    (hrows : table'.rows = table.rows ++ [new]) {row : EvidenceEvent} (hrow : row ∈ table.rows)
    (reader : String) :
    getEvidence table' reader row.eventId = getEvidence table reader row.eventId ∧
      ∀ k, row ∈ listEvidence table' reader (k + 1) ↔ row ∈ listEvidence table reader (k + 1) ∧
        ¬ ((newestFirst table.rows)[k]? = some row ∧ row.createdAt < new.createdAt) := by
  have hrow' : row ∈ table'.rows := by
    rw [hrows]
    exact List.mem_append_left _ hrow
  have hne : row ≠ new := fun heq => not_conflicts_new hrows hrow (.inl (congrArg _ heq))
  refine ⟨by rw [getEvidence_of_mem hrow', getEvidence_of_mem hrow], fun k => ?_⟩
  have hpage := Ranking.mem_take_orderedInsert_iff hne (newestFirst_sorted table.rows)
    table.newestFirst_nodup k
  rw [mem_listEvidence, mem_listEvidence, hrows, newestFirst_concat, hpage]
  tauto

theorem exists_visibleTo (row : EvidenceEvent) : ∃ reader, row.VisibleTo reader := by
  cases howner : row.tenantId with
  | none => exact ⟨"", .inl howner⟩
  | some owner => exact ⟨owner, .inr (.inr howner)⟩

/-- A new row is in nobody's way exactly when it pushes no row of another tenant off
the page. -/
theorem isolated_concat_iff {table table' : EvidenceTable} {new : EvidenceEvent} {created : Bool}
    (hrows : table'.rows = table.rows ++ [new]) :
    (⟨table, call, some (new, created), table'⟩ : Ingest).Isolated limit ↔
      ∀ k last, limit = k + 1 → (newestFirst table.rows)[k]? = some last →
        last.tenantId ≠ some call.tenantId → new.createdAt ≤ last.createdAt := by
  constructor
  · rintro h k last rfl hlast hother
    have hmem : last ∈ table.rows := mem_newestFirst.mp (List.mem_of_getElem? hlast)
    obtain ⟨reader, hreader⟩ := exists_visibleTo last
    have hbefore : last ∈ listEvidence table reader (k + 1) := by
      refine mem_listEvidence.mpr ⟨?_, hreader⟩
      rw [List.take_add_one, hlast]
      simp
    have hstays := (((reads_concat hrows hmem reader).2 k).mp
      ((h.list last hmem hother reader).mpr hbefore)).2
    by_contra hlt
    exact hstays ⟨hlast, by omega⟩
  · intro h
    refine ⟨fun row hrow _ => ?_, fun row hrow _ reader => (reads_concat hrows hrow reader).1, ?_, ?_⟩
    · rw [hrows]
      exact List.mem_append_left _ hrow
    · intro row hrow hother reader
      cases limit with
      | zero => simp [mem_listEvidence]
      | succ k =>
        refine ((reads_concat hrows hrow reader).2 k).trans (and_iff_left ?_)
        rintro ⟨hlast, hlt⟩
        have := h k row rfl hlast hother
        omega
    · intro row created' hres old hold hid
      obtain ⟨rfl, -⟩ := Prod.mk.inj (Option.some.inj hres)
      exact absurd (.inl hid) (not_conflicts_new hrows hold)

/-- One more call, when what could be read before can be read after it. -/
theorem TenantsIsolated.concat_iff {history : List Ingest} {db' : Db} {e : Ingest}
    (h : TenantsIsolated limit db history)
    (hreads : ∀ reader eventId row, getEvidence db.evidence reader eventId = some row →
      getEvidence db'.evidence reader eventId = some row) :
    TenantsIsolated limit db' (history ++ [e]) ↔ Owned db'.evidence.rows ∧ e.Isolated limit ∧
      ∀ row created, e.result = some (row, created) →
        getEvidence db'.evidence e.call.tenantId row.eventId = some row := by
  have hlast : e ∈ history ++ [e] := List.mem_append_right _ (List.mem_singleton.mpr rfl)
  constructor
  · intro h'
    exact ⟨readsOwn_iff.mp h'.reads, h'.calls e hlast, h'.returned e hlast⟩
  · rintro ⟨howned, hcall, hreturned⟩
    refine ⟨readsOwn_iff.mpr howned, fun d hd => ?_, fun d hd row created hres => ?_⟩
    · rcases List.mem_append.mp hd with hd | hd
      · exact h.calls d hd
      · rw [List.mem_singleton.mp hd]
        exact hcall
    · rcases List.mem_append.mp hd with hd | hd
      · exact hreads _ _ _ (h.returned d hd row created hres)
      · rw [List.mem_singleton.mp hd] at hres ⊢
        exact hreturned row created hres

/-- The step: what was isolated stays so exactly when the call keeps away. -/
theorem ingest_isolated_iff {history : List Ingest} (h : TenantsIsolated limit db history) :
    TenantsIsolated limit (ingest H db call).1 (history ++ (ingest H db call).2) ↔
      Apart H limit db call := by
  have howned := readsOwn_iff.mp h.reads
  unfold Apart ingest
  rcases ingestEvidence_cases H db call with ⟨hnone, hconflict, hsame⟩ |
    ⟨row, hfound, hresult, hafter⟩ | ⟨hnone, hfree, hresult, hafter⟩
  · -- The transaction is rolled back.
    rw [hnone, hsame]
    simp only [hconflict, true_or, iff_true]
    refine (h.concat_iff fun _ _ _ hget => hget).mpr ⟨howned, .unchanged ?_, ?_⟩
    · exact fun row created hres => absurd hres (by simp)
    · exact fun row created hres => absurd hres (by simp)
  · rw [hfound]
    dsimp only
    have hrow := findExisting_mem hfound
    constructor
    · intro hafterwards
      have hcall := hafterwards.calls _ (List.mem_append_right _ (List.mem_singleton.mpr rfl))
      exact hcall.handed _ false hresult row hrow rfl
    · intro hown
      -- The stamp is there already.
      rw [EvidenceTable.stamp_own hrow hown] at hafter
      rw [stamp_own_row hown] at hresult
      have hread : getEvidence db.evidence call.tenantId row.eventId = some row := by
        rw [getEvidence_of_mem hrow, if_pos (.inr (.inr hown))]
      refine (h.concat_iff fun _ _ _ hget => by rwa [hafter]).mpr ⟨by rwa [hafter], ?_, ?_⟩
      · rw [hafter, hresult]
        refine .unchanged fun r created hres old hold hid => ?_
        obtain ⟨rfl, -⟩ := Prod.mk.inj (Option.some.inj hres)
        rwa [db.evidence.eq_of_eventId hold hrow hid]
      · intro r created hres
        obtain ⟨rfl, -⟩ := Prod.mk.inj (Option.some.inj (hresult.symm.trans hres))
        rwa [hafter]
  · rw [hnone]
    have hstamp : ((call.row H).stamp call.tenantId).tenantId = some call.tenantId := rfl
    have hconflict : ¬ ∃ row ∈ db.evidence.rows, row.Conflicts (call.row H) :=
      fun ⟨row, hrow, h⟩ => hfree row hrow h
    simp only [hconflict, false_or]
    have hreads : ∀ reader eventId row, getEvidence db.evidence reader eventId = some row →
        getEvidence (ingestEvidence H db call).2.evidence reader eventId = some row := by
      intro reader eventId row hget
      obtain ⟨hrow, rfl, -⟩ := getEvidence_mem hget
      rwa [(reads_concat hafter hrow reader).1]
    rw [h.concat_iff hreads, hresult, isolated_concat_iff hafter, hafter]
    have hmem : (call.row H).stamp call.tenantId ∈ (ingestEvidence H db call).2.evidence.rows := by
      rw [hafter]
      exact List.mem_append_right _ (List.mem_singleton.mpr rfl)
    constructor
    · rintro ⟨hallowned, hpage, -⟩
      obtain ⟨owner, howner, hne⟩ := hallowned _ (List.mem_append_right _ (List.mem_singleton.mpr rfl))
      obtain rfl := Option.some.inj (hstamp.symm.trans howner)
      exact ⟨hne, hpage⟩
    · rintro ⟨hne, hpage⟩
      refine ⟨fun row hrow => ?_, hpage, fun row created hres => ?_⟩
      · rcases List.mem_append.mp hrow with hrow | hrow
        · exact howned row hrow
        · rw [List.mem_singleton.mp hrow]
          exact ⟨call.tenantId, rfl, hne⟩
      · obtain ⟨rfl, -⟩ := Prod.mk.inj (Option.some.inj hres)
        rw [getEvidence_of_mem hmem, if_pos (.inr (.inr hstamp))]

/-- Whatever the calls: the tenants are isolated all along the run exactly when every
call keeps away from the others. -/
theorem tenants_isolated_iff (H : Digest) (limit : Nat) (endpoints : List Endpoint)
    (observations : List ObservationRecord) (calls : List IngestCall) :
    (∀ pre, pre <+: calls →
      TenantsIsolated limit (run (ingest H) ⟨endpoints, observations, ⟨[], .nil⟩⟩ pre).1
        (run (ingest H) ⟨endpoints, observations, ⟨[], .nil⟩⟩ pre).2) ↔
      Admitted (ingest H) (Apart H limit) ⟨endpoints, observations, ⟨[], .nil⟩⟩ calls := by
  have hinit : TenantsIsolated limit ⟨endpoints, observations, ⟨[], .nil⟩⟩ [] :=
    ⟨readsOwn_iff.mpr fun row hrow => absurd hrow List.not_mem_nil,
      fun e he => absurd he List.not_mem_nil, fun e he => absurd he List.not_mem_nil⟩
  simpa using prefixes_iff_admitted (C := Apart H limit)
    (fun db history call h => ingest_isolated_iff h) hinit

end Steps

/-- The observation of one endpoint, reported for a tenant at a second of the day. -/
def reportFor (tenantId timestampUtc : String) (now : Nat) : IngestCall where
  tenantId := tenantId
  endpointId := "host-1"
  evidenceType := "proxy_state"
  rawSnapshot := [("proxy_enable", .int 1)]
  sourceEventId := none
  evidenceTier := "T1_STATE_EVIDENCE"
  normalizedFields := []
  limitations := []
  observationId := none
  timestampUtc := timestampUtc
  now := now

theorem contentHash_reportFor (H : Digest) (tenantId tenantId' ts ts' : String) (now now' : Nat) :
    ((reportFor tenantId ts now).row H).contentHash =
      ((reportFor tenantId' ts' now').row H).contentHash := rfl

/-- The first report is stored. -/
theorem ingestEvidence_first (H : Digest) (call : IngestCall) :
    (ingestEvidence H ⟨[], [], ⟨[], .nil⟩⟩ call).2.evidence.rows =
      [(call.row H).stamp call.tenantId] := by
  rcases ingestEvidence_cases H ⟨[], [], ⟨[], .nil⟩⟩ call with ⟨-, ⟨row, hrow, -⟩, -⟩ |
    ⟨row, hfound, -⟩ | ⟨-, -, -, hafter⟩
  · exact absurd hrow List.not_mem_nil
  · exact absurd (findExisting_mem hfound) List.not_mem_nil
  · exact hafter

/-- The only row, under its content hash. -/
theorem findExisting_only {row new : EvidenceEvent} (h : row.contentHash = new.contentHash) :
    findExisting [row] new = some row := by
  simp [findExisting, h]

/-- Whatever the digest, the second report takes the row of the first. -/
theorem reportFor_loses_row (H : Digest) :
    let afterAcme := (run (ingest H) ⟨[], [], ⟨[], .nil⟩⟩
      [reportFor "acme" "2026-01-01T00:00:00Z" 0]).1
    let afterBoth := (run (ingest H) ⟨[], [], ⟨[], .nil⟩⟩
      [reportFor "acme" "2026-01-01T00:00:00Z" 0, reportFor "globex" "2026-01-01T00:00:01Z" 1]).1
    ∃ row, getEvidence afterAcme.evidence "acme" row.eventId = some row ∧
      getEvidence afterBoth.evidence "acme" row.eventId = none := by
  intro afterAcme afterBoth
  generalize hacme : (reportFor "acme" "2026-01-01T00:00:00Z" 0).row H = acme
  have hfirst : afterAcme.evidence.rows = [acme.stamp "acme"] := by
    rw [← hacme]
    exact ingestEvidence_first H (reportFor "acme" "2026-01-01T00:00:00Z" 0)
  have hlast : afterBoth =
      (ingest H afterAcme (reportFor "globex" "2026-01-01T00:00:01Z" 1)).1 :=
    run_concat (ingest H) ⟨[], [], ⟨[], .nil⟩⟩ [reportFor "acme" "2026-01-01T00:00:00Z" 0]
      (reportFor "globex" "2026-01-01T00:00:01Z" 1)
  clear_value afterAcme afterBoth
  have hmem : acme.stamp "acme" ∈ afterAcme.evidence.rows := by simp [hfirst]
  have hread : getEvidence afterAcme.evidence "acme" acme.eventId = some (acme.stamp "acme") :=
    (getEvidence_of_mem hmem "acme").trans (if_pos (.inr (.inr rfl)))
  have hfound : findExisting afterAcme.evidence.rows
      ((reportFor "globex" "2026-01-01T00:00:01Z" 1).row H) = some (acme.stamp "acme") := by
    rw [hfirst]
    apply findExisting_only
    rw [← hacme]
    exact contentHash_reportFor H "acme" "globex" "2026-01-01T00:00:00Z" "2026-01-01T00:00:01Z" 0 1
  have hlost : getEvidence afterBoth.evidence "acme" acme.eventId = none := by
    rcases ingestEvidence_cases H afterAcme (reportFor "globex" "2026-01-01T00:00:01Z" 1) with
      ⟨hnone, -⟩ | ⟨row, hrow, -, hafter⟩ | ⟨hnone, -⟩
    · exact absurd (hfound.symm.trans hnone) (by simp)
    · obtain rfl := Option.some.inj (hfound.symm.trans hrow)
      have hboth : afterBoth.evidence.rows = [(acme.stamp "acme").stamp "globex"] := by
        rw [hlast, ingest, hafter]
        simp only [EvidenceTable.stamp, hfirst, List.map_cons, if_true, List.map_nil]
        rfl
      have hnow : (acme.stamp "acme").stamp "globex" ∈ afterBoth.evidence.rows := by simp [hboth]
      have hid : acme.eventId = ((acme.stamp "acme").stamp "globex").eventId := rfl
      rw [hid, getEvidence_of_mem hnow, if_neg]
      rintro (h | h | h)
      · cases h
      · exact absurd (Option.some.inj h) (by decide)
      · exact absurd (Option.some.inj h) (by decide)
    · exact absurd (hfound.symm.trans hnone) (by simp)
  exact ⟨acme.stamp "acme", hread, hlost⟩

/-- Two tenants report the same observation, and the first one loses its row. -/
theorem tenant_loses_row :
    let afterAcme := (run (ingest sha256) ⟨[], [], ⟨[], .nil⟩⟩
      [reportFor "acme" "2026-01-01T00:00:00Z" 0]).1
    let afterBoth := (run (ingest sha256) ⟨[], [], ⟨[], .nil⟩⟩
      [reportFor "acme" "2026-01-01T00:00:00Z" 0, reportFor "globex" "2026-01-01T00:00:01Z" 1]).1
    ∃ row, getEvidence afterAcme.evidence "acme" row.eventId = some row ∧
      getEvidence afterBoth.evidence "acme" row.eventId = none :=
  reportFor_loses_row sha256

end Backend
