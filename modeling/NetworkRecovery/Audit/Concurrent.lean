import Mathlib.Logic.Relation
import Mathlib.Logic.Function.Basic
import NetworkRecovery.Audit.Tamper

/-!
# Concurrent appenders

Any number of processes, each running `append_audit` on one path again and
again. A call goes through the phases of the code: it waits in
`jsonl_file_lock`, takes the lock, reads the tip, writes its row, counts the
lines, writes the anchor, releases the lock and returns. A `Step` is one such
move of one process; the lock is taken only when it is free, which is the
mutual exclusion the operating system is trusted with. Waiting may end in
`TimeoutError`, reading in `UnicodeDecodeError` or `AttributeError`, and then
the `finally` releases the lock.

`Invariant` says what the process inside the lock has done so far. It makes
the tip it read still the tip when it writes, which is why the chain cannot
fork (`lockFree_sound`). The calls are restricted to those without separators:
a row that `splitlines` cuts breaks the log with one process just as well.
-/

namespace Audit

open Python Relation

/-- Where a process stands in `append_audit`. -/
inductive Phase where
  /-- between calls -/
  | idle
  /-- trying to take the lock -/
  | waiting (call : Call) (stamp : Stamp)
  /-- inside the lock -/
  | locked (call : Call) (stamp : Stamp)
  | tipRead (call : Call) (stamp : Stamp) (prevHash : String)
  | rowWritten (call : Call) (stamp : Stamp) (record : AuditRecord)
  | counted (call : Call) (stamp : Stamp) (record : AuditRecord) (count : Nat)
  | anchored (call : Call) (record : AuditRecord)

/-- The processes, the lock, the two files, and the calls that have returned a
record, in the order they returned. -/
structure System (Pid : Type) where
  store : Store
  owner : Option Pid
  phase : Pid → Phase
  completed : List (Call × AuditRecord)

def System.init (Pid : Type) : System Pid := ⟨⟨none, none⟩, none, fun _ => .idle, []⟩

/-- The records of the completed calls. -/
def System.records {Pid : Type} (sys : System Pid) : List AuditRecord :=
  sys.completed.map Prod.snd

section Steps

variable {Pid : Type} [DecidableEq Pid]

/-- One process moves to a phase. -/
def System.move (sys : System Pid) (p : Pid) (phase : Phase) : System Pid :=
  { sys with phase := Function.update sys.phase p phase }

/-- An exception inside the lock: the lock is released and the call ends. -/
def System.abort (sys : System Pid) (p : Pid) : System Pid :=
  { sys.move p .idle with owner := none }

/-- One move of one process. Only calls that `admits` lets in are made. -/
inductive Step (H : Digest) (host : Host) (admits : Call → Prop) :
    System Pid → System Pid → Prop where
  | call {sys} (p : Pid) (call : Call) (stamp : Stamp) : sys.phase p = .idle → admits call →
      Step H host admits sys (sys.move p (.waiting call stamp))
  | timeout {sys} (p : Pid) {call stamp} : sys.phase p = .waiting call stamp →
      Step H host admits sys (sys.move p .idle)
  | acquire {sys} (p : Pid) {call stamp} : sys.phase p = .waiting call stamp → sys.owner = none →
      Step H host admits sys { sys.move p (.locked call stamp) with owner := some p }
  | readTip {sys} (p : Pid) {call stamp prevHash} : sys.phase p = .locked call stamp →
      readChainTip sys.store.log = .ok prevHash →
      Step H host admits sys (sys.move p (.tipRead call stamp prevHash))
  | readTipFails {sys} (p : Pid) {call stamp error} : sys.phase p = .locked call stamp →
      readChainTip sys.store.log = .error error → Step H host admits sys (sys.abort p)
  | writeRow {sys} (p : Pid) {call stamp prevHash} : sys.phase p = .tipRead call stamp prevHash →
      Step H host admits sys
        { sys.move p (.rowWritten call stamp (newRecord H call stamp prevHash)) with
          store := ⟨appendRow host sys.store.log (newRecord H call stamp prevHash),
            sys.store.tip⟩ }
  | count {sys} (p : Pid) {call stamp record n} : sys.phase p = .rowWritten call stamp record →
      countRecords sys.store.log = .ok n →
      Step H host admits sys (sys.move p (.counted call stamp record n))
  | countFails {sys} (p : Pid) {call stamp record error} :
      sys.phase p = .rowWritten call stamp record →
      countRecords sys.store.log = .error error → Step H host admits sys (sys.abort p)
  | writeAnchor {sys} (p : Pid) {call stamp record n} : sys.phase p = .counted call stamp record n →
      Step H host admits sys
        { sys.move p (.anchored call record) with
          store := ⟨sys.store.log,
            writeTipAnchor host stamp.anchoredAtUtc.1 record.currentHash n⟩ }
  | release {sys} (p : Pid) {call record} : sys.phase p = .anchored call record →
      Step H host admits sys
        { sys.abort p with completed := sys.completed ++ [(call, record)] }

end Steps

/-! ## The invariant -/

/-- A linked list stays linked when a record that repeats its last hash is
added. -/
theorem Linked.concat {R : List Dict} {r : Dict} (h : Linked R)
    (hr : Dict.get? r "previous_hash" =
      some (.str ((R.getLast?.map currentHashOf).getD "genesis"))) :
    Linked (R ++ [r]) := by
  intro i hi
  have htake : predecessorHash (R ++ [r]) i = predecessorHash R i := by
    have hle : i ≤ R.length := by
      rw [List.length_append, List.length_singleton] at hi
      omega
    unfold predecessorHash
    rw [List.take_append_of_le_length hle]
  rw [htake]
  rcases Nat.lt_or_ge i R.length with hlt | hge
  · rw [List.getElem_append_left hlt]
    exact h i hlt
  · have hlast : i = R.length := by
      rw [List.length_append, List.length_singleton] at hi
      omega
    subst hlast
    rw [List.getElem_concat_length rfl, hr]
    simp [predecessorHash]

/-- The log holds exactly these records, as clean rows of one chain. -/
structure LogHolds (H : Digest) (records : List AuditRecord) (log : File) : Prop where
  rows : ∃ rows, Clean H rows log ∧ rows.map Row.record = records.map AuditRecord.modelDump
  linked : Linked (records.map AuditRecord.modelDump)

/-- The anchor of these records: none before the first of them. -/
def AnchorHolds (host : Host) (records : List AuditRecord) (tip : File) : Prop :=
  records = [] ∧ tip = none ∨
    records ≠ [] ∧ ∃ anchoredAt, tip = writeTipAnchor host anchoredAt
      (actualTip (records.map AuditRecord.modelDump)) records.length

/-- What the process inside the lock has done to the store, and knows. -/
def PhaseHolds (H : Digest) (host : Host) (records : List AuditRecord) (s : Store) : Phase → Prop
  | .idle | .waiting _ _ => False
  | .locked _ _ => LogHolds H records s.log ∧ AnchorHolds host records s.tip
  | .tipRead _ _ prevHash => LogHolds H records s.log ∧ AnchorHolds host records s.tip ∧
      prevHash = actualTip (records.map AuditRecord.modelDump)
  | .rowWritten _ _ record => LogHolds H (records ++ [record]) s.log
  | .counted _ _ record n => LogHolds H (records ++ [record]) s.log ∧ n = records.length + 1
  | .anchored _ record => LogHolds H (records ++ [record]) s.log ∧
      AnchorHolds host (records ++ [record]) s.tip

/-- The call a phase is busy with, and the record it has made. -/
def Phase.MadeFrom (H : Digest) : Phase → Prop
  | .idle => True
  | .waiting call _ | .locked call _ | .tipRead call _ _ => call.SeparatorFree
  | .rowWritten call stamp record | .counted call stamp record _ =>
    call.SeparatorFree ∧ ∃ prevHash, record = newRecord H call stamp prevHash
  | .anchored call record =>
    call.SeparatorFree ∧ ∃ stamp prevHash, record = newRecord H call stamp prevHash

/-- What holds between any two steps. -/
structure Invariant (H : Digest) (host : Host) {Pid : Type} (sys : System Pid) : Prop where
  /-- whoever is not the owner is outside the lock -/
  outside : ∀ p, sys.owner ≠ some p → sys.phase p = .idle ∨
    ∃ call stamp, sys.phase p = .waiting call stamp
  made : ∀ p, (sys.phase p).MadeFrom H
  completed : ∀ c ∈ sys.completed, ∃ stamp prevHash, c.2 = newRecord H c.1 stamp prevHash
  free : sys.owner = none →
    LogHolds H sys.records sys.store.log ∧ AnchorHolds host sys.records sys.store.tip
  busy : ∀ p, sys.owner = some p → PhaseHolds H host sys.records sys.store (sys.phase p)

section Preservation

variable {H : Digest} {host : Host} {Pid : Type} {sys : System Pid}

theorem invariant_init : Invariant H host (System.init Pid) where
  outside := fun _ _ => .inl rfl
  made := fun _ => trivial
  completed := fun _ hc => absurd hc List.not_mem_nil
  free := fun _ => ⟨⟨⟨[], clean_nil H, rfl⟩, fun i hi => absurd hi (Nat.not_lt_zero i)⟩,
    .inl ⟨rfl, rfl⟩⟩
  busy := fun _ h => absurd h (by simp [System.init])

/-- A phase behind the lock belongs to its owner, and holds what it says. -/
theorem Invariant.inside (hi : Invariant H host sys) {p : Pid} {ph : Phase}
    (hp : sys.phase p = ph) (hidle : ph ≠ .idle) (hwait : ∀ call stamp, ph ≠ .waiting call stamp) :
    sys.owner = some p ∧ PhaseHolds H host sys.records sys.store ph ∧ ph.MadeFrom H := by
  have howner : sys.owner = some p := by
    by_contra hne
    rcases hi.outside p hne with h | ⟨call, stamp, h⟩
    · exact hidle (hp.symm.trans h)
    · exact hwait call stamp (hp.symm.trans h)
  have hbusy := hi.busy p howner
  have hmade := hi.made p
  rw [hp] at hbusy hmade
  exact ⟨howner, hbusy, hmade⟩

/-- A phase before the lock belongs to somebody else. -/
theorem Invariant.owner_ne (hi : Invariant H host sys) {p : Pid} {ph : Phase}
    (hp : sys.phase p = ph) (hfalse : ¬ PhaseHolds H host sys.records sys.store ph) :
    sys.owner ≠ some p := by
  intro h
  have hbusy := hi.busy p h
  rw [hp] at hbusy
  exact hfalse hbusy

variable [DecidableEq Pid]

theorem Invariant.made_move (hi : Invariant H host sys) (p : Pid) {ph : Phase}
    (hmade : ph.MadeFrom H) (q : Pid) : ((sys.move p ph).phase q).MadeFrom H := by
  by_cases hqp : q = p
  · subst hqp
    simpa [System.move] using hmade
  · simpa [System.move, Function.update_of_ne hqp] using hi.made q

/-- Whoever was outside the lock still is when another process has moved. -/
theorem Invariant.outside_move (hi : Invariant H host sys) {p q : Pid} (ph : Phase)
    (hqp : q ≠ p) (hq : sys.owner ≠ some q) : (sys.move p ph).phase q = .idle ∨
      ∃ call stamp, (sys.move p ph).phase q = .waiting call stamp := by
  simpa [System.move, Function.update_of_ne hqp] using hi.outside q hq

/-- A move outside the lock. -/
theorem Invariant.move_outside (hi : Invariant H host sys) {p : Pid} {ph : Phase}
    (hp : sys.owner ≠ some p) (hph : ph = .idle ∨ ∃ call stamp, ph = .waiting call stamp)
    (hmade : ph.MadeFrom H) : Invariant H host (sys.move p ph) where
  outside := by
    intro q hq
    by_cases hqp : q = p
    · subst hqp
      simpa [System.move] using hph
    · exact hi.outside_move ph hqp hq
  made := hi.made_move p hmade
  completed := hi.completed
  free := hi.free
  busy := by
    intro q hq
    have hqp : q ≠ p := by
      rintro rfl
      exact hp hq
    simpa [System.move, System.records, Function.update_of_ne hqp] using hi.busy q hq

/-- A move inside the lock, with what it does to the store. -/
theorem Invariant.move_inside (hi : Invariant H host sys) {p : Pid} {ph : Phase} {store : Store}
    (hp : sys.owner = some p) (hmade : ph.MadeFrom H)
    (hph : PhaseHolds H host sys.records store ph) :
    Invariant H host { sys.move p ph with store := store } where
  outside := by
    intro q hq
    have hqp : q ≠ p := by
      rintro rfl
      exact hq hp
    exact hi.outside_move ph hqp hq
  made := hi.made_move p hmade
  completed := hi.completed
  free := fun h => absurd (hp.symm.trans h) (by simp)
  busy := by
    intro q hq
    obtain rfl : p = q := Option.some.inj (hp.symm.trans hq)
    simpa [System.move, System.records] using hph

/-- Taking the free lock. -/
theorem Invariant.enter (hi : Invariant H host sys) {p : Pid} {call : Call} {stamp : Stamp}
    (hcall : call.SeparatorFree) (hfree : sys.owner = none) :
    Invariant H host { sys.move p (.locked call stamp) with owner := some p } where
  outside := by
    intro q hq
    have hqp : q ≠ p := by
      rintro rfl
      exact hq rfl
    exact hi.outside_move _ hqp (by simp [hfree])
  made := hi.made_move p hcall
  completed := hi.completed
  free := fun h => absurd h (by simp)
  busy := by
    intro q hq
    obtain rfl : p = q := Option.some.inj hq
    simpa [System.move, PhaseHolds, System.records] using hi.free hfree

/-- Leaving the lock with a record that is in the log and under the anchor. -/
theorem Invariant.leave (hi : Invariant H host sys) {p : Pid} {call : Call}
    {record : AuditRecord} (howner : sys.owner = some p)
    (hmade : ∃ stamp prevHash, record = newRecord H call stamp prevHash)
    (hlog : LogHolds H (sys.records ++ [record]) sys.store.log)
    (htip : AnchorHolds host (sys.records ++ [record]) sys.store.tip) :
    Invariant H host { sys.abort p with completed := sys.completed ++ [(call, record)] } where
  outside := by
    intro q _
    by_cases hqp : q = p
    · subst hqp
      exact .inl (by simp [System.abort, System.move])
    · have hne : sys.owner ≠ some q := by
        rw [howner]
        exact fun h => hqp (Option.some.inj h).symm
      exact hi.outside_move _ hqp hne
  made := hi.made_move p trivial
  completed := by
    intro c hc
    rcases List.mem_append.mp hc with hc | hc
    · exact hi.completed c hc
    · rw [List.mem_singleton.mp hc]
      exact hmade
  free := by
    intro _
    have hrecords : List.map Prod.snd (sys.completed ++ [(call, record)]) =
        sys.records ++ [record] := by
      rw [List.map_append]
      rfl
    show LogHolds H (List.map Prod.snd (sys.completed ++ [(call, record)])) sys.store.log ∧
      AnchorHolds host (List.map Prod.snd (sys.completed ++ [(call, record)])) sys.store.tip
    rw [hrecords]
    exact ⟨hlog, htip⟩
  busy := fun q hq => absurd hq (by simp [System.abort])

theorem LogHolds.readChainTip_eq {records : List AuditRecord} {log : File}
    (h : LogHolds H records log) :
    readChainTip log = .ok (actualTip (records.map AuditRecord.modelDump)) := by
  obtain ⟨rows, hclean, hrows⟩ := h.rows
  rw [← hrows]
  exact hclean.readChainTip_eq

theorem LogHolds.countRecords_eq {records : List AuditRecord} {log : File}
    (h : LogHolds H records log) : countRecords log = .ok records.length := by
  obtain ⟨rows, hclean, hrows⟩ := h.rows
  have hlen : rows.length = records.length := by simpa using congrArg List.length hrows
  rw [hclean.countRecords_eq, hlen]

/-- The row of the tip that was read extends the chain. -/
theorem LogHolds.append {records : List AuditRecord} {log : File} (h : LogHolds H records log)
    (host : Host) {call : Call} (stamp : Stamp) (hcall : call.SeparatorFree) :
    LogHolds H (records ++ [newRecord H call stamp (actualTip (records.map AuditRecord.modelDump))])
      (appendRow host log
        (newRecord H call stamp (actualTip (records.map AuditRecord.modelDump)))) := by
  obtain ⟨rows, hclean, hrows⟩ := h.rows
  obtain ⟨row, hrow, hclean'⟩ := hclean.append host stamp hcall
  rw [hrows] at hrow hclean'
  refine ⟨⟨rows ++ [row], hclean', ?_⟩, ?_⟩
  · rw [List.map_append, List.map_append, hrows, List.map_cons, List.map_nil, hrow]
    rfl
  · have hchain := hclean.chain
    rw [hrows] at hchain
    rw [List.map_append, List.map_cons, List.map_nil]
    refine h.linked.concat ?_
    rw [← (Audit.actualTip_eq hchain).1]
    rfl

/-- The tip of the records is the hash of the last. -/
theorem LogHolds.actualTip_eq {records : List AuditRecord} {log : File}
    (h : LogHolds H records log) :
    (verifyChain H (records.map AuditRecord.modelDump)).1 = true ∧
      actualTip (records.map AuditRecord.modelDump) =
        (records.getLast?.map AuditRecord.currentHash).getD "genesis" := by
  obtain ⟨rows, hclean, hrows⟩ := h.rows
  have hchain := hclean.chain
  rw [hrows] at hchain
  refine ⟨hchain, ?_⟩
  rw [(Audit.actualTip_eq hchain).1, List.getLast?_map, Option.map_map]
  rfl

/-- Every step keeps the invariant. -/
theorem step_invariant {sys' : System Pid} (h : Step H host Call.SeparatorFree sys sys')
    (hi : Invariant H host sys) : Invariant H host sys' := by
  cases h with
  | call p call stamp hp hadmits =>
    exact hi.move_outside (hi.owner_ne hp id) (.inr ⟨call, stamp, rfl⟩) hadmits
  | timeout p hp => exact hi.move_outside (hi.owner_ne hp id) (.inl rfl) trivial
  | @acquire p call stamp hp hfree =>
    have hcall : call.SeparatorFree := by simpa [hp, Phase.MadeFrom] using hi.made p
    exact hi.enter hcall hfree
  | @readTip p call stamp prevHash hp hread =>
    obtain ⟨howner, hbusy, hcall⟩ := hi.inside hp (by simp) (by simp)
    refine hi.move_inside howner hcall ⟨hbusy.1, hbusy.2, ?_⟩
    exact (Except.ok.inj (hbusy.1.readChainTip_eq.symm.trans hread)).symm
  | @readTipFails p call stamp error hp hread =>
    obtain ⟨-, hbusy, -⟩ := hi.inside hp (by simp) (by simp)
    exact absurd (hbusy.1.readChainTip_eq.symm.trans hread) (by simp)
  | @writeRow p call stamp prevHash hp =>
    obtain ⟨howner, ⟨hlog, -, rfl⟩, hcall⟩ := hi.inside hp (by simp) (by simp)
    exact hi.move_inside howner ⟨hcall, _, rfl⟩ (hlog.append host stamp hcall)
  | @count p call stamp record n hp hcount =>
    obtain ⟨howner, hbusy, hmade⟩ := hi.inside hp (by simp) (by simp)
    refine hi.move_inside howner hmade ⟨hbusy, ?_⟩
    have hn := Except.ok.inj ((LogHolds.countRecords_eq hbusy).symm.trans hcount)
    simpa using hn.symm
  | @countFails p call stamp record error hp hcount =>
    obtain ⟨-, hbusy, -⟩ := hi.inside hp (by simp) (by simp)
    exact absurd ((LogHolds.countRecords_eq hbusy).symm.trans hcount) (by simp)
  | @writeAnchor p call stamp record n hp =>
    obtain ⟨howner, ⟨hlog, rfl⟩, hcall, hmade⟩ := hi.inside hp (by simp) (by simp)
    refine hi.move_inside howner ⟨hcall, stamp, hmade⟩ ⟨hlog, .inr ⟨by simp, ?_⟩⟩
    refine ⟨stamp.anchoredAtUtc.1, ?_⟩
    rw [hlog.actualTip_eq.2]
    simp
  | @release p call record hp =>
    obtain ⟨howner, ⟨hlog, htip⟩, -, hmade⟩ := hi.inside hp (by simp) (by simp)
    exact hi.leave howner hmade hlog htip

/-- Every reachable state satisfies the invariant. -/
theorem reachable_invariant
    (h : ReflTransGen (Step H host Call.SeparatorFree) (System.init Pid) sys) :
    Invariant H host sys := by
  induction h with
  | refl => exact invariant_init
  | tail _ hstep ih => exact step_invariant hstep ih

/-- The system with one process in a phase, and the rest as it was. -/
def System.turn (sys : System Pid) (p : Pid) (phase : Phase) (owner : Option Pid) (store : Store) :
    System Pid :=
  ⟨store, owner, Function.update sys.phase p phase, sys.completed⟩

theorem System.turn_phase (sys : System Pid) (p : Pid) (phase : Phase) (owner : Option Pid)
    (store : Store) : (sys.turn p phase owner store).phase p = phase :=
  Function.update_self ..

theorem System.turn_move (sys : System Pid) (p : Pid) (phase phase' : Phase) (owner : Option Pid)
    (store : Store) :
    (sys.turn p phase owner store).move p phase' = sys.turn p phase' owner store :=
  congrArg (System.mk store owner · sys.completed) (Function.update_idem ..)

/-- A waiting process is served when the lock is free: it goes from there to its return, and
nobody else moves. -/
theorem Invariant.served (hi : Invariant H host sys) {p : Pid} {call : Call} {stamp : Stamp}
    (hfree : sys.owner = none) (hp : sys.phase p = .waiting call stamp) :
    ∃ sys' record, ReflTransGen (Step H host Call.SeparatorFree) sys sys' ∧ sys'.owner = none ∧
      sys'.phase = Function.update sys.phase p .idle ∧
      sys'.completed = sys.completed ++ [(call, record)] := by
  have hcall : call.SeparatorFree := by
    have hmade := hi.made p
    rwa [hp] at hmade
  -- the log holds the records, so that neither of the two readings fails
  obtain ⟨hlog, -⟩ := hi.free hfree
  let prev := actualTip (sys.records.map AuditRecord.modelDump)
  let record := newRecord H call stamp prev
  let n := (sys.records ++ [record]).length
  let log := appendRow host sys.store.log record
  let written : Store := ⟨log, sys.store.tip⟩
  let done : Store := ⟨log, writeTipAnchor host stamp.anchoredAtUtc.1 record.currentHash n⟩
  have hread : readChainTip sys.store.log = .ok prev := hlog.readChainTip_eq
  have hcount : countRecords log = .ok n := (hlog.append host stamp hcall).countRecords_eq
  have locked : Step H host Call.SeparatorFree sys
      (sys.turn p (.locked call stamp) (some p) sys.store) := .acquire p hp hfree
  have tipRead : Step H host Call.SeparatorFree (sys.turn p (.locked call stamp) (some p) sys.store)
      (sys.turn p (.tipRead call stamp prev) (some p) sys.store) := by
    rw [← sys.turn_move p (.locked call stamp) (.tipRead call stamp prev)]
    exact .readTip p (sys.turn_phase ..) hread
  have rowWritten : Step H host Call.SeparatorFree
      (sys.turn p (.tipRead call stamp prev) (some p) sys.store)
      (sys.turn p (.rowWritten call stamp record) (some p) written) := by
    rw [← sys.turn_move p (.tipRead call stamp prev) (.rowWritten call stamp record)]
    exact .writeRow p (sys.turn_phase ..)
  have counted : Step H host Call.SeparatorFree
      (sys.turn p (.rowWritten call stamp record) (some p) written)
      (sys.turn p (.counted call stamp record n) (some p) written) := by
    rw [← sys.turn_move p (.rowWritten call stamp record) (.counted call stamp record n)]
    exact .count p (sys.turn_phase ..) hcount
  have anchored : Step H host Call.SeparatorFree
      (sys.turn p (.counted call stamp record n) (some p) written)
      (sys.turn p (.anchored call record) (some p) done) := by
    rw [← sys.turn_move p (.counted call stamp record n) (.anchored call record)]
    exact .writeAnchor p (sys.turn_phase ..)
  have released : Step H host Call.SeparatorFree (sys.turn p (.anchored call record) (some p) done)
      _ := .release p (sys.turn_phase ..)
  refine ⟨_, record, .trans (.single locked) (.trans (.single tipRead) (.trans (.single rowWritten)
    (.trans (.single counted) (.trans (.single anchored) (.single released))))), rfl, ?_, rfl⟩
  exact congrArg System.phase (sys.turn_move p (.anchored call record) .idle (some p) done)

end Preservation

/-! ## Lock-free states -/

/-- The file is one linear chain with exactly one record per completed call, and
the anchor holds its last hash and its length. -/
structure Sound (H : Digest) {Pid : Type} (sys : System Pid) : Prop where
  records : readAuditRecords sys.store.log = .ok (sys.records.map AuditRecord.modelDump)
  chain : verifyChain H (sys.records.map AuditRecord.modelDump) = (true, "ok")
  linked : Linked (sys.records.map AuditRecord.modelDump)
  calls : ∀ c ∈ sys.completed, ∃ stamp prevHash, c.2 = newRecord H c.1 stamp prevHash
  anchor : sys.completed = [] ∧ sys.store.tip = none ∨
    ∃ tip, loadTipAnchor sys.store.tip = .ok (some tip) ∧
      tip.get? "tip_hash" = some (.str ((sys.records.getLast?.map AuditRecord.currentHash).getD
        "genesis")) ∧
      tip.get? "record_count" = some (.int sys.records.length)

theorem LogHolds.readAuditRecords_eq {H : Digest} {records : List AuditRecord} {log : File}
    (h : LogHolds H records log) :
    readAuditRecords log = .ok (records.map AuditRecord.modelDump) := by
  obtain ⟨rows, hclean, hrows⟩ := h.rows
  have hread := auditRecords_logText rows []
  rw [List.append_nil] at hread
  rw [Audit.readAuditRecords_eq hclean.text, hread, hrows]
  simp [auditRecords, splitLines]

/-! ## One process alone -/

/-- A system of one process. -/
def solo (s : Store) (owner : Option Unit) (phase : Phase)
    (completed : List (Call × AuditRecord)) : System Unit :=
  ⟨s, owner, fun _ => phase, completed⟩

/-- A process that nobody disturbs goes from call to return with the record and
the store that `appendAudit` computes. -/
theorem solo_reaches {H : Digest} {host : Host} {admits : Call → Prop} {call : Call}
    (stamp : Stamp) {s s' : Store} (completed : List (Call × AuditRecord)) {r : AuditRecord}
    (hadmits : admits call) (h : appendAudit H host call stamp s = .ok (r, s')) :
    ReflTransGen (Step H host admits) (solo s none .idle completed)
      (solo s' none .idle (completed ++ [(call, r)])) := by
  obtain ⟨text, prev, htext, hprev, hr, rfl⟩ := appendAudit_inv h
  have hread : readChainTip s.log = .ok prev := by
    rw [readChainTip_eq, htext]
    exact hprev
  have hcount := countRecords_eq (fileText_appendRow host htext r)
  subst hr
  let r := newRecord H call stamp prev
  let n := countNonBlank (text ++ r.modelDumpJson ++ ['\n'])
  let written : Store := ⟨appendRow host s.log r, s.tip⟩
  have waiting : Step H host admits (solo s none .idle completed)
      (solo s none (.waiting call stamp) completed) := .call () call stamp rfl hadmits
  have locked : Step H host admits (solo s none (.waiting call stamp) completed)
      (solo s (some ()) (.locked call stamp) completed) := .acquire () rfl rfl
  have tipRead : Step H host admits (solo s (some ()) (.locked call stamp) completed)
      (solo s (some ()) (.tipRead call stamp prev) completed) := .readTip () rfl hread
  have rowWritten : Step H host admits (solo s (some ()) (.tipRead call stamp prev) completed)
      (solo written (some ()) (.rowWritten call stamp r) completed) := .writeRow () rfl
  have counted : Step H host admits (solo written (some ()) (.rowWritten call stamp r) completed)
      (solo written (some ()) (.counted call stamp r n) completed) := .count () rfl hcount
  have anchored : Step H host admits (solo written (some ()) (.counted call stamp r n) completed)
      (solo (appended host stamp s text r) (some ()) (.anchored call r) completed) :=
    .writeAnchor () rfl
  have released : Step H host admits
      (solo (appended host stamp s text r) (some ()) (.anchored call r) completed)
      (solo (appended host stamp s text r) none .idle (completed ++ [(call, r)])) :=
    .release () rfl
  exact ReflTransGen.single waiting |>.tail locked |>.tail tipRead |>.tail rowWritten
    |>.tail counted |>.tail anchored |>.tail released

/-! ## The theorem -/

/-- Whenever the lock is free, in every interleaving of any number of processes
whose calls hold no separator, the files are sound. -/
theorem lockFree_sound {H : Digest} {host : Host} {Pid : Type} [DecidableEq Pid]
    {sys : System Pid}
    (hreach : ReflTransGen (Step H host Call.SeparatorFree) (System.init Pid) sys)
    (hfree : sys.owner = none) : Sound H sys := by
  have hi := reachable_invariant hreach
  obtain ⟨hlog, htip⟩ := hi.free hfree
  obtain ⟨hchain, hlast⟩ := hlog.actualTip_eq
  refine ⟨hlog.readAuditRecords_eq, verifyChainFrom_message hchain, hlog.linked, hi.completed, ?_⟩
  rcases htip with ⟨hnil, htip⟩ | ⟨-, anchoredAt, htip⟩
  · exact .inl ⟨List.map_eq_nil_iff.mp hnil, htip⟩
  · right
    refine ⟨_, htip ▸ loadTipAnchor_write host anchoredAt _ _, ?_, rfl⟩
    rw [← hlast]
    rfl

/-- Two processes call; the one that called last takes the lock first, and the other one waits
until it is free. -/
theorem lockFree_sound_twoProcesses :
    ∃ sys : System Bool, sys.owner = none ∧ sys.completed.map (fun c => c.1.actionType) =
      [.evidenceAttached, .eventReceived] ∧ Sound sha256 sys := by
  let host : Host := ⟨.lf, "custody.jsonl"⟩
  let received : Call := { actionType := .eventReceived }
  let attached : Call := { actionType := .evidenceAttached }
  let start := System.init Bool
  let one := start.move false (.waiting received sampleStamp)
  let both := one.move true (.waiting attached sampleStamp)
  have hone : Step sha256 host Call.SeparatorFree start one :=
    .call false received sampleStamp rfl (by decide)
  have hboth : Step sha256 host Call.SeparatorFree one both :=
    .call true attached sampleStamp rfl (by decide)
  have hreach := (ReflTransGen.single hone).tail hboth
  obtain ⟨sys₁, record₁, hrun₁, hfree₁, hphase₁, hdone₁⟩ :=
    (reachable_invariant hreach).served (p := true) rfl rfl
  have hwaits : sys₁.phase false = .waiting received sampleStamp := by
    rw [hphase₁]
    rfl
  have hreach₁ := hreach.trans hrun₁
  obtain ⟨sys₂, record₂, hrun₂, hfree₂, -, hdone₂⟩ :=
    (reachable_invariant hreach₁).served hfree₁ hwaits
  refine ⟨sys₂, hfree₂, ?_, lockFree_sound (hreach₁.trans hrun₂) hfree₂⟩
  rw [hdone₂, hdone₁]
  rfl

/-- One process that makes one call with a separator leaves, the lock being
free, an anchor that counts two records. -/
theorem lockFree_not_sound_lineSeparator :
    ∃ sys : System Unit,
      ReflTransGen (Step sha256 ⟨.lf, "custody.jsonl"⟩ fun _ => True) (System.init Unit) sys ∧
        sys.owner = none ∧ ¬ Sound sha256 sys := by
  have htext : fileText none = some [] := rfl
  have happend := appendAudit_eq sha256 ⟨.lf, "custody.jsonl"⟩ separatorCall sampleStamp
    (s := ⟨none, none⟩) htext rfl
  refine ⟨_, solo_reaches sampleStamp [] trivial happend, rfl, fun hsound => ?_⟩
  rcases hsound.anchor with ⟨hnil, -⟩ | ⟨tip, htip, -, hcount⟩
  · exact absurd hnil (by simp [solo])
  · have hloaded := loadTipAnchor_write ⟨.lf, "custody.jsonl"⟩ sampleStamp.anchoredAtUtc.1
      (newRecord sha256 separatorCall sampleStamp "genesis").currentHash
      (countNonBlank ((newRecord sha256 separatorCall sampleStamp "genesis").modelDumpJson ++ ['\n']))
    obtain rfl := Option.some.inj (Except.ok.inj (htip.symm.trans hloaded))
    have hone := Int.ofNat.inj (Value.int.inj (Option.some.inj hcount))
    have htwo := (countNonBlank_row (newRecord sha256 separatorCall sampleStamp "genesis") []).2
      fun hfree => absurd (separatorFree_of_newRecord hfree) (by decide)
    exact absurd (htwo.trans (Nat.le_of_eq hone)) (by decide)

end Audit
