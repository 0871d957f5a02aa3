import NetworkRecovery.Audit.Record
import NetworkRecovery.Lib.Reactive

/-!
# The audit chain in the database

`AuditService` of `audit_service.py`: a hash chain for each tenant in one table,
the rows of all tenants sharing one sequence of ids. `append` reads the tenant's
last hash and inserts a row; these are two statements, and nothing in the
schema keeps another session from inserting between them.

Sessions move one statement at a time, in any order. Each tenant's chain
verifies in every state of a run exactly when every insert found the tip its
session had read still in place (`chains_verify_iff`): no lock is missing for
the chains of DIFFERENT tenants, and one is for those of one tenant.
-/

namespace Backend

open Python Audit Reactive

/-! ## Rows -/

/-- The arguments of an `append`, with the tenant and the actor of its service. -/
structure AppendCall where
  tenantId : String
  actor : String
  eventType : String
  resourceType : String
  resourceId : String
  payload : Dict
  correlationId : String
  /-- a Python dictionary holds no key twice -/
  wf : (Value.dict payload).WF

/-- `AuditLogRecord`. The payload is a JSON column: text in the table. -/
structure AuditLogRecord where
  id : Nat
  logId : String
  tenantId : String
  correlationId : String
  eventType : String
  actor : String
  resourceType : String
  resourceId : String
  payload : List Char
  prevHash : String
  rowHash : String

/-- The body that is hashed. -/
def auditBody (tenantId eventType actor resourceType resourceId : String) (payload : Value)
    (correlationId : String) : Dict :=
  [("tenant_id", .str tenantId),
    ("event_type", .str eventType),
    ("actor", .str actor),
    ("resource_type", .str resourceType),
    ("resource_id", .str resourceId),
    ("payload", payload),
    ("correlation_id", .str correlationId)]

/-- `chain_hash(prev, json.dumps(body, sort_keys=True, …))`: the body is a TEXT
here, which `chain_hash` dumps once more. -/
def rowHash (H : Digest) (prev : String) (body : Dict) : String :=
  H.hexdigest (encode (prev.toList ++
    '|' :: dumpsSorted (.str (.ofList (dumpsSorted (.dict body))))))

def AppendCall.body (call : AppendCall) : Dict :=
  auditBody call.tenantId call.eventType call.actor call.resourceType call.resourceId
    (.dict call.payload) call.correlationId

/-- The row an `append` inserts. -/
def AppendCall.row (H : Digest) (call : AppendCall) (prev : String) (id : Nat) (logId : String) :
    AuditLogRecord where
  id := id
  logId := logId
  tenantId := call.tenantId
  correlationId := call.correlationId
  eventType := call.eventType
  actor := call.actor
  resourceType := call.resourceType
  resourceId := call.resourceId
  payload := dumps .plain (.dict call.payload)
  prevHash := prev
  rowHash := rowHash H prev call.body

/-- The body of a row that is read back. -/
def AuditLogRecord.body (row : AuditLogRecord) : Dict :=
  auditBody row.tenantId row.eventType row.actor row.resourceType row.resourceId
    ((loads row.payload).getD .none) row.correlationId

/-- The payload comes back out of its column. -/
theorem body_row (H : Digest) (call : AppendCall) (prev : String) (id : Nat) (logId : String) :
    (call.row H prev id logId).body = call.body := by
  have hpayload : loads (dumps .plain (.dict call.payload)) = some (.dict call.payload) :=
    loads_dumps .plain call.wf fun h => absurd h (by decide)
  unfold AuditLogRecord.body AppendCall.row AppendCall.body
  dsimp only
  rw [hpayload]
  rfl

/-! ## Reading the table -/

/-- The rows of a tenant, in the order of their ids. -/
def tenantRows (rows : List AuditLogRecord) (tenantId : String) : List AuditLogRecord :=
  rows.filter fun row => row.tenantId = tenantId

/-- `AuditService._last_hash`. -/
def lastHash (rows : List AuditLogRecord) (tenantId : String) : String :=
  ((tenantRows rows tenantId).getLast?.map AuditLogRecord.rowHash).getD "genesis"

/-- The dict `verify_chain` returns. -/
inductive ChainReport where
  | verified (rows : Nat) (tenantId : String)
  | failed (failedAt : String) (rows : Nat)
  deriving DecidableEq

/-- The loop of `verify_chain`: the first row that does not fit. -/
def firstMisfit (H : Digest) : String → List AuditLogRecord → Option String
  | _, [] => none
  | prev, row :: rest =>
    if rowHash H prev row.body ≠ row.rowHash ∨ row.prevHash ≠ prev then some row.logId
    else firstMisfit H row.rowHash rest

/-- `AuditService.verify_chain`. -/
def verifyChain (H : Digest) (rows : List AuditLogRecord) (tenantId : String) : ChainReport :=
  let rows := tenantRows rows tenantId
  match firstMisfit H "genesis" rows with
  | some logId => .failed logId rows.length
  | none => .verified rows.length tenantId

/-- The hash of the last row, or what stands before the first. -/
def tipFrom (prev : String) (rows : List AuditLogRecord) : String :=
  (rows.getLast?.map AuditLogRecord.rowHash).getD prev

theorem tipFrom_cons (prev : String) (first : AuditLogRecord) (rest : List AuditLogRecord) :
    tipFrom prev (first :: rest) = tipFrom first.rowHash rest := by
  cases rest with
  | nil => rfl
  | cons second rest =>
    unfold tipFrom
    rw [List.getLast?_cons_cons]
    cases hlast : (second :: rest).getLast? with
    | none => exact absurd (List.getLast?_eq_none_iff.mp hlast) (by simp)
    | some last => rfl

/-- One more row fits exactly when all before it do and it stands on the last of
them. -/
theorem firstMisfit_concat (H : Digest) (prev : String) (rows : List AuditLogRecord)
    (row : AuditLogRecord) :
    firstMisfit H prev (rows ++ [row]) = none ↔ firstMisfit H prev rows = none ∧
      row.prevHash = tipFrom prev rows ∧ row.rowHash = rowHash H (tipFrom prev rows) row.body := by
  induction rows generalizing prev with
  | nil =>
    by_cases hmisfit : rowHash H prev row.body ≠ row.rowHash ∨ row.prevHash ≠ prev
    · simp only [List.nil_append, firstMisfit, if_pos hmisfit, reduceCtorEq, false_iff, true_and]
      rintro ⟨hprev, hhash⟩
      exact hmisfit.elim (fun h => h hhash.symm) fun h => h hprev
    · simp only [List.nil_append, firstMisfit, if_neg hmisfit, true_and, true_iff]
      obtain ⟨hhash, hprev⟩ := not_or.mp hmisfit
      exact ⟨not_not.mp hprev, (not_not.mp hhash).symm⟩
  | cons first rest ih =>
    rw [tipFrom_cons]
    by_cases hmisfit : rowHash H prev first.body ≠ first.rowHash ∨ first.prevHash ≠ prev
    · simp [firstMisfit, hmisfit]
    · simp only [List.cons_append, firstMisfit, if_neg hmisfit]
      exact ih first.rowHash

/-! ## Sessions -/

/-- The table: rows come in the order of their ids. -/
structure AuditLog where
  rows : List AuditLogRecord
  ascending : rows.Pairwise fun a b => a.id < b.id

def AuditLog.nextId (log : AuditLog) : Nat :=
  (log.rows.getLast?.map AuditLogRecord.id).getD 0 + 1

theorem AuditLog.lt_nextId {log : AuditLog} {row : AuditLogRecord} (h : row ∈ log.rows) :
    row.id < log.nextId := by
  obtain ⟨rows, hasc⟩ := log
  dsimp only at h
  unfold nextId
  dsimp only
  cases List.eq_nil_or_concat rows with
  | inl hnil => exact absurd (hnil ▸ h) List.not_mem_nil
  | inr hconcat =>
    obtain ⟨before, last, rfl⟩ := hconcat
    rw [List.concat_eq_append] at h hasc ⊢
    rw [List.getLast?_append_of_ne_nil _ (by simp)]
    obtain ⟨-, -, hbefore⟩ := List.pairwise_append.mp hasc
    rcases List.mem_append.mp h with hmem | hmem
    · have := hbefore row hmem last (by simp)
      simp only [List.getLast?_singleton, Option.map_some, Option.getD_some]
      omega
    · rw [List.mem_singleton.mp hmem]
      simp

/-- The insert: the next id goes to the new row. -/
def AuditLog.add (log : AuditLog) (row : AuditLogRecord) (hid : row.id = log.nextId) :
    AuditLog where
  rows := log.rows ++ [row]
  ascending := by
    refine List.pairwise_append.mpr ⟨log.ascending, List.pairwise_singleton _ _, ?_⟩
    intro a ha b hb
    rw [List.mem_singleton.mp hb, hid]
    exact log.lt_nextId ha

/-- Where a session is in `append`. -/
inductive Phase where
  | idle
  /-- `_last_hash` has answered -/
  | tipRead (call : AppendCall) (prev : String)

structure Sessions (Pid : Type) where
  log : AuditLog
  phase : Pid → Phase

/-- Nobody has written anything yet. -/
def Sessions.init (Pid : Type) : Sessions Pid := ⟨⟨[], .nil⟩, fun _ => .idle⟩

/-- One statement of one session. -/
inductive Move (Pid : Type) where
  | read (p : Pid) (call : AppendCall)
  /-- the insert; `log_id` is random -/
  | insert (p : Pid) (logId : String)
  /-- the session ends without its insert: a `log_id` that exists, a lost connection -/
  | fail (p : Pid)

section Runs

variable {Pid : Type} [DecidableEq Pid] (H : Digest)

def Sessions.at (s : Sessions Pid) (p : Pid) (phase : Phase) : Pid → Phase :=
  Function.update s.phase p phase

/-- A move and the append it completes. -/
def Sessions.step (s : Sessions Pid) : Move Pid → Sessions Pid × List AppendCall
  | .read p call =>
    match s.phase p with
    | .idle => (⟨s.log, s.at p (.tipRead call (lastHash s.log.rows call.tenantId))⟩, [])
    | .tipRead _ _ => (s, [])
  | .insert p logId =>
    match s.phase p with
    | .idle => (s, [])
    | .tipRead call prev =>
      (⟨s.log.add (call.row H prev s.log.nextId logId) rfl, s.at p .idle⟩, [call])
  | .fail p => (⟨s.log, s.at p .idle⟩, [])

/-- An insert stands on the tip of its tenant as it is then. -/
def Fresh (s : Sessions Pid) : Move Pid → Prop
  | .insert p _ =>
    match s.phase p with
    | .idle => True
    | .tipRead call prev => prev = lastHash s.log.rows call.tenantId
  | _ => True

/-- Every tenant's chain verifies, with as many rows as the tenant has completed
appends. -/
def ChainsVerify (s : Sessions Pid) (completed : List AppendCall) : Prop :=
  ∀ tenantId, verifyChain H s.log.rows tenantId =
    .verified (completed.filter fun call => call.tenantId = tenantId).length tenantId

variable {H}

theorem verifyChain_eq_verified {rows : List AuditLogRecord} {tenantId : String} {n : Nat} :
    verifyChain H rows tenantId = .verified n tenantId ↔
      firstMisfit H "genesis" (tenantRows rows tenantId) = none ∧
        (tenantRows rows tenantId).length = n := by
  unfold verifyChain
  dsimp only
  split
  · rename_i logId hmisfit
    simp [hmisfit]
  · rename_i hmisfit
    simp [hmisfit]

theorem tenantRows_concat (rows : List AuditLogRecord) (row : AuditLogRecord) (tenantId : String) :
    tenantRows (rows ++ [row]) tenantId =
      if row.tenantId = tenantId then tenantRows rows tenantId ++ [row]
      else tenantRows rows tenantId := by
  unfold tenantRows
  rw [List.filter_append]
  by_cases h : row.tenantId = tenantId <;> simp [h]

/-- One more row changes the report of its own tenant only. -/
theorem verifyChain_add_iff (call : AppendCall) (prev : String) (id : Nat) (logId : String)
    {rows : List AuditLogRecord} {tenantId : String} {n : Nat}
    (h : verifyChain H rows tenantId = .verified n tenantId) :
    verifyChain H (rows ++ [call.row H prev id logId]) tenantId =
        .verified (n + if call.tenantId = tenantId then 1 else 0) tenantId ↔
      (call.tenantId = tenantId → prev = lastHash rows tenantId) := by
  obtain ⟨hfits, hlength⟩ := verifyChain_eq_verified.mp h
  rw [verifyChain_eq_verified, tenantRows_concat]
  by_cases howner : call.tenantId = tenantId
  · have hrow : (call.row H prev id logId).tenantId = tenantId := howner
    rw [if_pos hrow, if_pos howner, firstMisfit_concat, body_row, List.length_append, hlength]
    simp only [hfits, true_and, List.length_singleton, and_true, howner, forall_const]
    constructor
    · rintro ⟨hprev, -⟩
      exact hprev
    · intro hprev
      have hprev' : prev = tipFrom "genesis" (tenantRows rows tenantId) := hprev
      exact ⟨hprev', by rw [← hprev']; rfl⟩
  · have hrow : (call.row H prev id logId).tenantId ≠ tenantId := howner
    rw [if_neg hrow, if_neg howner]
    simp [hfits, hlength, howner]

theorem filter_concat_length (completed : List AppendCall) (call : AppendCall) (tenantId : String) :
    ((completed ++ [call]).filter fun c => c.tenantId = tenantId).length =
      (completed.filter fun c => c.tenantId = tenantId).length +
        if call.tenantId = tenantId then 1 else 0 := by
  rw [List.filter_append, List.length_append]
  by_cases h : call.tenantId = tenantId <;> simp [h]

/-- The step: good chains stay good exactly when the move is fresh. -/
theorem step_verifies_iff (s : Sessions Pid) (completed : List AppendCall) (m : Move Pid)
    (h : ChainsVerify H s completed) :
    ChainsVerify H (s.step H m).1 (completed ++ (s.step H m).2) ↔ Fresh s m := by
  cases m with
  | read p call =>
    simp only [Sessions.step, Fresh, iff_true]
    cases s.phase p <;> simpa [ChainsVerify] using h
  | fail p =>
    simp only [Sessions.step, Fresh, iff_true, List.append_nil]
    exact h
  | insert p logId =>
    cases hphase : s.phase p with
    | idle =>
      simp only [Sessions.step, Fresh, hphase, iff_true, List.append_nil]
      exact h
    | tipRead call prev =>
      simp only [Sessions.step, Fresh, hphase, ChainsVerify]
      constructor
      · intro hafter
        have hown := hafter call.tenantId
        rw [filter_concat_length] at hown
        exact (verifyChain_add_iff call prev _ logId (h call.tenantId)).mp hown rfl
      · intro hfresh tenantId
        rw [filter_concat_length]
        refine (verifyChain_add_iff call prev _ logId (h tenantId)).mpr ?_
        rintro rfl
        exact hfresh

/-- Whatever the sessions and their order: every tenant's chain verifies, all
along the run, exactly when no insert comes too late. -/
theorem chains_verify_iff (H : Digest) (moves : List (Move Pid)) :
    (∀ pre, pre <+: moves →
      ChainsVerify H (run (Sessions.step H) (Sessions.init Pid) pre).1
        (run (Sessions.step H) (Sessions.init Pid) pre).2) ↔
      Admitted (Sessions.step H) Fresh (Sessions.init Pid) moves := by
  have hinit : ChainsVerify H (Sessions.init Pid) [] := fun tenantId => rfl
  simpa using prefixes_iff_admitted
    (fun s completed m => step_verifies_iff s completed m) hinit

end Runs

/-- A call of the tenant "acme". -/
def acmeCall (eventType : String) : AppendCall where
  tenantId := "acme"
  actor := "system"
  eventType := eventType
  resourceType := "decision"
  resourceId := "d-1"
  payload := []
  correlationId := ""
  wf := emptyDict_wf

/-- Two sessions read the same tip, and both insert. -/
def lateInsert : List (Move Bool) :=
  [.read false (acmeCall "opened"), .read true (acmeCall "closed"), .insert false "alog-1",
    .insert true "alog-2"]

theorem rowHash_ne_genesis (H : Digest) (prev : String) (body : Dict) :
    rowHash H prev body ≠ "genesis" := by
  intro h
  have hlong := H.long (encode (prev.toList ++
    '|' :: dumpsSorted (.str (.ofList (dumpsSorted (.dict body))))))
  have hshort : (rowHash H prev body).toList.length = 7 := by rw [h]; rfl
  unfold rowHash at hshort
  omega

/-- The second row stands where the first one stands. -/
theorem firstMisfit_siblings (H : Digest) (first second : AppendCall) (log₁ log₂ : String) :
    firstMisfit H "genesis" [first.row H "genesis" 1 log₁, second.row H "genesis" 2 log₂] =
      some log₂ := by
  have hfirst : ¬ (rowHash H "genesis" (first.row H "genesis" 1 log₁).body ≠
      (first.row H "genesis" 1 log₁).rowHash ∨
      (first.row H "genesis" 1 log₁).prevHash ≠ "genesis") := by
    rw [body_row]
    rintro (h | h) <;> exact h rfl
  rw [firstMisfit, if_neg hfirst, firstMisfit, if_pos]
  · rfl
  · exact .inr fun h => rowHash_ne_genesis H _ _ h.symm

/-- Whatever the digest, the chain of the two inserts does not verify. -/
theorem verifyChain_lateInsert (H : Digest) :
    verifyChain H (run (Sessions.step H) (Sessions.init Bool) lateInsert).1.log.rows "acme" =
      .failed "alog-2" 2 := by
  have hrows : tenantRows (run (Sessions.step H) (Sessions.init Bool) lateInsert).1.log.rows
      "acme" = [(acmeCall "opened").row H "genesis" 1 "alog-1",
        (acmeCall "closed").row H "genesis" 2 "alog-2"] := rfl
  unfold verifyChain
  rw [hrows]
  dsimp only
  rw [firstMisfit_siblings]
  rfl

/-- No append failed, and the chain does not verify. -/
theorem lateInsert_fails :
    verifyChain sha256 (run (Sessions.step sha256) (Sessions.init Bool) lateInsert).1.log.rows
      "acme" = .failed "alog-2" 2 :=
  verifyChain_lateInsert sha256

end Backend
