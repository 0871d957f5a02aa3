import NetworkRecovery.Lib.Transactions

/-!
# Usage metering

`try_increment_usage_with_limit` of `legacy_sqlite.py`: look the month's count
of an organization up, refuse at the limit, add one, read the new count back.
`BEGIN IMMEDIATE` takes SQLite's write lock before the first of these
statements, so that the call is an exclusive transaction; a call that fails on
the way rolls back, and one that cannot get the lock changes nothing.

Any number of clients call it for any organizations and months. Whatever the
interleaving, the stored count is the number of calls that were let through,
and they were told 1, 2, 3 and so on in the order they committed
(`usage_metered`).
-/

namespace Backend

open Interaction Transactions Relation

/-! ## The table -/

/-- A row of `usage`. -/
structure UsageRow where
  orgId : String
  month : String
  diagnosisCount : Int
  deriving DecidableEq

/-- `SELECT diagnosis_count FROM usage WHERE org_id = ? AND month = ?`. -/
def selectCount (rows : List UsageRow) (orgId month : String) : Option Int :=
  (rows.find? fun row => row.orgId = orgId ∧ row.month = month).map UsageRow.diagnosisCount

/-- `INSERT INTO usage … VALUES (?, ?, 1) ON CONFLICT(org_id, month) DO UPDATE SET
diagnosis_count = diagnosis_count + 1`. -/
def upsertCount : List UsageRow → String → String → List UsageRow
  | [], orgId, month => [⟨orgId, month, 1⟩]
  | row :: rest, orgId, month =>
    if row.orgId = orgId ∧ row.month = month then
      { row with diagnosisCount := row.diagnosisCount + 1 } :: rest
    else row :: upsertCount rest orgId month

/-- The count of a pair goes up by one, from none to one. -/
theorem selectCount_upsertCount (rows : List UsageRow) (orgId month : String) :
    selectCount (upsertCount rows orgId month) orgId month =
      some ((selectCount rows orgId month).getD 0 + 1) := by
  induction rows with
  | nil => simp [selectCount, upsertCount]
  | cons row rest ih =>
    unfold selectCount at ih ⊢
    unfold upsertCount
    by_cases hrow : row.orgId = orgId ∧ row.month = month
    · simp [hrow]
    · rw [if_neg hrow, List.find?_cons_of_neg (by simpa using hrow),
        List.find?_cons_of_neg (by simpa using hrow), ih]

/-- The other pairs are not touched. -/
theorem selectCount_upsertCount_of_ne (rows : List UsageRow) {orgId month orgId' month' : String}
    (hne : ¬ (orgId' = orgId ∧ month' = month)) :
    selectCount (upsertCount rows orgId month) orgId' month' = selectCount rows orgId' month' := by
  induction rows with
  | nil =>
    have hother : ¬ (orgId = orgId' ∧ month = month') := fun h => hne ⟨h.1.symm, h.2.symm⟩
    simp [selectCount, upsertCount, hother]
  | cons row rest ih =>
    unfold selectCount at ih ⊢
    unfold upsertCount
    by_cases hrow : row.orgId = orgId ∧ row.month = month
    · have hother : ¬ (row.orgId = orgId' ∧ row.month = month') :=
        fun h => hne ⟨h.1.symm.trans hrow.1, h.2.symm.trans hrow.2⟩
      rw [if_pos hrow, List.find?_cons_of_neg (by simpa using hother),
        List.find?_cons_of_neg (by simpa using hother)]
    · rw [if_neg hrow, List.find?_cons, List.find?_cons]
      split
      · rfl
      · exact ih

/-! ## The call -/

inductive UsageRequest where
  | select (orgId month : String)
  | upsert (orgId month : String)

abbrev UsageAnswer : UsageRequest → Type
  | .select _ _ => Option Int
  | .upsert _ _ => Unit

def answerUsage (rows : List UsageRow) : (r : UsageRequest) → UsageAnswer r × List UsageRow
  | .select orgId month => (selectCount rows orgId month, rows)
  | .upsert orgId month => ((), upsertCount rows orgId month)

/-- One statement on the connection. -/
def execute (r : UsageRequest) : Prog UsageAnswer (UsageAnswer r) := request r

/-- `try_increment_usage_with_limit`, from `BEGIN IMMEDIATE` on. -/
def tryIncrementUsageWithLimit (orgId : String) (limit : Int) (month : String) :
    Prog UsageAnswer (Verdict (Option Int)) := do
  let row ← execute (.select orgId month)
  let current := row.getD 0
  if limit ≠ -1 ∧ limit ≤ current then return ⟨false, none⟩
  else
    execute (.upsert orgId month)
    let row2 ← execute (.select orgId month)
    return ⟨true, row2⟩

structure UsageCall where
  orgId : String
  month : String
  deriving DecidableEq

/-- The call under the limits of the organizations. -/
def UsageCall.body (limits : String → Int) (call : UsageCall) :
    Prog UsageAnswer (Verdict (Option Int)) :=
  tryIncrementUsageWithLimit call.orgId (limits call.orgId) call.month

/-- The clients, on an empty table at first. -/
abbrev UsageSystem (Pid : Type) := System UsageAnswer (List UsageRow) UsageCall (Option Int) Pid

/-- What the call does, in one go. -/
theorem perform_usage (limits : String → Int) (rows : List UsageRow) (call : UsageCall) :
    perform answerUsage (UsageCall.body limits) rows call =
      let current := (selectCount rows call.orgId call.month).getD 0
      if limits call.orgId ≠ -1 ∧ limits call.orgId ≤ current then (rows, none)
      else (upsertCount rows call.orgId call.month, some (current + 1)) := by
  set current := (selectCount rows call.orgId call.month).getD 0 with hcurrent
  have hrun : exec answerUsage (UsageCall.body limits call) rows =
      let rest := exec answerUsage
        (if limits call.orgId ≠ -1 ∧ limits call.orgId ≤ current then pure ⟨false, none⟩
        else do
          execute (.upsert call.orgId call.month)
          let row2 ← execute (.select call.orgId call.month)
          return ⟨true, row2⟩) rows
      ⟨rest.value, rest.state, ⟨.select call.orgId call.month,
        selectCount rows call.orgId call.month⟩ :: rest.trace⟩ := rfl
  unfold perform
  rw [hrun]
  dsimp only
  split
  · rfl
  · have hrow2 := selectCount_upsertCount rows call.orgId call.month
    rw [← hcurrent] at hrow2
    rw [← hrow2]
    rfl

/-- The call is refused and changes nothing, or it is let through and counts. -/
theorem perform_usage_cases (limits : String → Int) (rows : List UsageRow) (call : UsageCall) :
    perform answerUsage (UsageCall.body limits) rows call = (rows, none) ∨
      perform answerUsage (UsageCall.body limits) rows call =
        (upsertCount rows call.orgId call.month,
          some ((selectCount rows call.orgId call.month).getD 0 + 1)) ∧
      (limits call.orgId ≠ -1 →
        (selectCount rows call.orgId call.month).getD 0 < limits call.orgId) := by
  rw [perform_usage]
  dsimp only
  split
  · exact .inl rfl
  · next hopen =>
    refine .inr ⟨rfl, fun hne => ?_⟩
    by_contra hle
    exact hopen ⟨hne, by omega⟩

/-! ## Every interleaving -/

/-- What the calls of a pair that were let through returned, in order. -/
def returned (ended : List (UsageCall × Option Int)) (orgId month : String) : List Int :=
  ended.filterMap fun (call, result) =>
    if call.orgId = orgId ∧ call.month = month then result else none

theorem returned_concat (ended : List (UsageCall × Option Int)) (call : UsageCall)
    (result : Option Int) (orgId month : String) :
    returned (ended ++ [(call, result)]) orgId month = returned ended orgId month ++
      if call.orgId = orgId ∧ call.month = month then result.toList else [] := by
  unfold returned
  rw [List.filterMap_append]
  congr 1
  cases result with
  | none => simp
  | some n =>
    by_cases h : call.orgId = orgId ∧ call.month = month
    · simp [h]
    · simp [h]

/-- The numbers 1 to `n`. -/
def upTo (n : Nat) : List Int := (List.range' 1 n).map Int.ofNat

theorem upTo_succ (n : Nat) : upTo (n + 1) = upTo n ++ [(n : Int) + 1] := by
  unfold upTo
  rw [List.range'_concat, List.map_append]
  simp [Int.add_comm]

/-- The table accounts for the calls that ended. -/
def Metered (limits : String → Int) (ended : List (UsageCall × Option Int))
    (rows : List UsageRow) : Prop :=
  ∀ orgId month, ∃ n : Nat, (selectCount rows orgId month).getD 0 = n ∧
    returned ended orgId month = upTo n ∧ (limits orgId ≠ -1 → (n : Int) ≤ limits orgId)

theorem Metered.perform {limits : String → Int} {ended : List (UsageCall × Option Int)}
    {rows : List UsageRow} (h : Metered limits ended rows) (call : UsageCall) :
    Metered limits
      (ended ++ [(call, (perform answerUsage (UsageCall.body limits) rows call).2)])
      (perform answerUsage (UsageCall.body limits) rows call).1 := by
  intro orgId month
  obtain ⟨n, hcount, hreturned, hlimit⟩ := h orgId month
  rw [returned_concat, hreturned]
  rcases perform_usage_cases limits rows call with hrefused | ⟨hcounted, hbelow⟩
  · rw [hrefused]
    exact ⟨n, hcount, by simp, hlimit⟩
  · rw [hcounted]
    by_cases hcall : call.orgId = orgId ∧ call.month = month
    · obtain ⟨rfl, rfl⟩ := hcall
      rw [if_pos ⟨rfl, rfl⟩]
      rw [hcount] at hbelow
      refine ⟨n + 1, ?_, ?_, fun hne => hbelow hne⟩
      · rw [selectCount_upsertCount, hcount]
        rfl
      · rw [upTo_succ, hcount]
        rfl
    · rw [if_neg hcall, List.append_nil]
      refine ⟨n, ?_, rfl, hlimit⟩
      rw [selectCount_upsertCount_of_ne _ fun heq => hcall ⟨heq.1.symm, heq.2.symm⟩, hcount]

/-- Whatever the clients do: each stored count is the number of calls that were
let through, they returned 1, 2, …, n in the order they committed, and n stays
within the limit. And each step leaves the table as it is, or ends one call:
one that returns `None` changes nothing, and one that counts, one pair. -/
theorem usage_metered {Pid : Type} (limits : String → Int)
    (hlimits : ∀ orgId, limits orgId = -1 ∨ 0 ≤ limits orgId) {sys : UsageSystem Pid}
    (hreach : ReflTransGen (Step answerUsage (UsageCall.body limits)) (System.init []) sys) :
    Metered limits sys.ended sys.stored ∧
      ∀ sys', Step answerUsage (UsageCall.body limits) sys sys' →
        (sys'.stored = sys.stored ∧ sys'.ended = sys.ended) ∨
          ∃ call result, sys'.ended = sys.ended ++ [(call, result)] ∧
            (result = none → sys'.stored = sys.stored) ∧
            ∀ orgId month, ¬ (orgId = call.orgId ∧ month = call.month) →
              selectCount sys'.stored orgId month = selectCount sys.stored orgId month := by
  have hserial := reachable_serial hreach
  refine ⟨?_, fun sys' hstep => ?_⟩
  · refine hserial.replays.rule (fun orgId month => ⟨0, rfl, rfl, fun hne => ?_⟩) fun ended rows call h =>
      h.perform call
    exact (hlimits orgId).resolve_left hne
  · rcases hserial.step_cases hstep with hsame | ⟨call, hstored, hended⟩
    · exact .inl hsame
    · refine .inr ⟨call, _, hended, ?_⟩
      rw [hstored]
      rcases perform_usage_cases limits sys.stored call with hrefused | ⟨hcounted, -⟩
      · rw [hrefused]
        exact ⟨fun _ => rfl, fun _ _ _ => rfl⟩
      · rw [hcounted]
        refine ⟨fun h => absurd h (by simp), fun orgId month hne => ?_⟩
        exact selectCount_upsertCount_of_ne sys.stored hne

/-- Two clients of an organization with a limit of one: the first call is counted, the second one
is refused. -/
theorem usage_metered_twoClients :
    Metered (fun _ => 1) [(⟨"acme", "2026-01"⟩, some 1), (⟨"acme", "2026-01"⟩, none)]
      [⟨"acme", "2026-01", 1⟩] := by
  let acme : UsageCall := ⟨"acme", "2026-01"⟩
  have hcounted : ReflTransGen (Step answerUsage (UsageCall.body fun _ => 1))
      (System.init [] : UsageSystem Bool) ⟨[⟨"acme", "2026-01", 1⟩], none, [(acme, some 1)]⟩ :=
    reaches_perform false acme rfl
  have hrefused : ReflTransGen (Step answerUsage (UsageCall.body fun _ => 1))
      (⟨[⟨"acme", "2026-01", 1⟩], none, [(acme, some 1)]⟩ : UsageSystem Bool)
      ⟨[⟨"acme", "2026-01", 1⟩], none, [(acme, some 1), (acme, none)]⟩ :=
    reaches_perform true acme rfl
  exact (usage_metered (fun _ => 1) (fun _ => .inr (by decide)) (hcounted.trans hrefused)).1

end Backend
