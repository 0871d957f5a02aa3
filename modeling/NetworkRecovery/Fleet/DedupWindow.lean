import NetworkRecovery.Fleet.Gateway
import Mathlib.Algebra.Order.Ring.Rat
import Mathlib.Tactic.Linarith

/-!
# How long a key is remembered

`InMemoryIdempotencyStore` of `platform_core/fleet/deduplication.py`, over any
time. The store forgets a key some time after it was INSERTED, a retry in between
notwithstanding, and only when another keyed envelope is checked. What it answers
is nevertheless a matter of the answers before it alone (`answers_spec`): an
envelope is accepted just when its key was not accepted within the time to live,
and otherwise it is compared with the event that was.

The lock of the store makes the checks follow one another, each with its two
readings of the clock, so that a list of checks is what any threads do.
-/

namespace Fleet

open Python Reactive

/-! ## Checks -/

/-- What a check has answered. -/
structure Answer where
  envelope : FleetEventEnvelope
  clock : Clock
  decision : DedupDecision

/-- The envelope was accepted under the key. -/
def Answer.accepts (key : DedupKey) (a : Answer) : Bool :=
  a.decision.outcome = .accepted && a.envelope.dedupKey = key

/-- One `check_and_record`. -/
def checkStep (store : IdempotencyStore) (check : FleetEventEnvelope × Clock) :
    IdempotencyStore × List Answer :=
  let out := store.checkAndRecord check.1 check.2
  (out.2, [⟨check.1, check.2, out.1⟩])

/-- What a new store answers. -/
def answers (ttl : ℚ) (checks : List (FleetEventEnvelope × Clock)) : List Answer :=
  (run checkStep { ttlSeconds := ttl } checks).2

/-- The clock does not run backwards. -/
def SteadyClock (checks : List (FleetEventEnvelope × Clock)) : Prop :=
  (checks.flatMap fun check => [check.2.now, check.2.inserted]).Pairwise (· ≤ ·)

instance (checks : List (FleetEventEnvelope × Clock)) : Decidable (SteadyClock checks) :=
  inferInstanceAs (Decidable (List.Pairwise _ _))

/-! ## What an answer should be -/

/-- Accepted under the key, and not longer ago than the time to live. -/
def liveAccept? (ttl : ℚ) (history : List Answer) (key : DedupKey) (now : ℚ) : Option Answer :=
  history.find? fun a => a.accepts key && ¬ now - a.clock.inserted > ttl

/-- The answer to an envelope, from the answers before it. -/
def expected (ttl : ℚ) (history : List Answer) (envelope : FleetEventEnvelope) (now : ℚ) :
    DedupDecision :=
  if envelope.idempotencyKey.isEmpty then
    { outcome := .conflict, eventId := envelope.eventId, reason := "missing_idempotency_key" }
  else
    match liveAccept? ttl history envelope.dedupKey now with
    | none => { outcome := .accepted, eventId := envelope.eventId }
    | some first =>
      { outcome := if first.envelope.eventId = envelope.eventId then .duplicate else .conflict
        eventId := envelope.eventId
        reason := if first.envelope.eventId = envelope.eventId then "retry_same_event_id"
          else "idempotency_key_reuse_different_payload"
        existingEventId := some first.envelope.eventId }

/-! ## What the store holds -/

/-- The record of an envelope that was accepted. -/
def Answer.record (a : Answer) : IdempotencyRecord :=
  ⟨a.envelope.dedupKey, a.envelope.eventId, a.clock.utc, a.clock.inserted⟩

/-- The envelopes accepted and not expired at a reading of the clock. -/
def live (ttl : ℚ) (history : List Answer) (now : ℚ) : List Answer :=
  history.filter fun a => a.decision.outcome = .accepted && ¬ now - a.clock.inserted > ttl

/-- From a reading of the clock on: once it has forgotten what has expired, the
store holds the envelopes accepted and not expired. -/
structure Remembers (ttl now : ℚ) (store : IdempotencyStore) (history : List Answer) : Prop where
  ttl_eq : store.ttlSeconds = ttl
  records : ∀ later, now ≤ later →
    (store.purgeExpired later).records = (live ttl history later).map Answer.record

theorem remembers_new (ttl now : ℚ) : Remembers ttl now { ttlSeconds := ttl } [] :=
  ⟨rfl, fun _ _ => rfl⟩

/-- What has expired is forgotten by every later time. -/
theorem purgeExpired_purgeExpired (store : IdempotencyStore) {now later : ℚ} (h : now ≤ later) :
    (store.purgeExpired now).purgeExpired later = store.purgeExpired later := by
  unfold IdempotencyStore.purgeExpired
  dsimp only
  rw [List.filter_filter]
  congr 1
  refine List.filter_congr fun r _ => ?_
  by_cases hlater : later - r.insertedAt > store.ttlSeconds
  · simp [hlater]
  · have hnow : ¬ now - r.insertedAt > store.ttlSeconds := by linarith
    simp [hlater, hnow]

variable {ttl now : ℚ} {store : IdempotencyStore} {history : List Answer}

theorem Remembers.later {next : ℚ} (h : Remembers ttl now store history) (hle : now ≤ next) :
    Remembers ttl next store history :=
  ⟨h.ttl_eq, fun later hlater => h.records later (hle.trans hlater)⟩

theorem live_snoc (history : List Answer) (a : Answer) (at_ : ℚ) :
    live ttl (history ++ [a]) at_ = live ttl history at_ ++ live ttl [a] at_ :=
  List.filter_append ..

/-- Finding a key in the store is finding the envelope accepted under it. -/
theorem Remembers.getByKey (h : Remembers ttl now store history) (key : DedupKey) :
    (store.purgeExpired now).getByKey key =
      (liveAccept? ttl history key now).map Answer.record := by
  unfold IdempotencyStore.getByKey liveAccept?
  rw [h.records now le_rfl, List.find?_map, live, List.find?_filter]
  congr 2
  funext a
  by_cases houtcome : a.decision.outcome = .accepted <;>
    by_cases hkey : a.envelope.dedupKey = key <;>
      simp [Answer.accepts, Answer.record, houtcome, hkey]

/-- The store answers as it should. -/
theorem Remembers.decision (h : Remembers ttl now store history) (envelope : FleetEventEnvelope)
    {clock : Clock} (hnow : now ≤ clock.now) :
    (store.checkAndRecord envelope clock).1 = expected ttl history envelope clock.now := by
  have hfound := (h.later hnow).getByKey envelope.dedupKey
  unfold IdempotencyStore.checkAndRecord expected
  by_cases hempty : envelope.idempotencyKey.isEmpty = true
  · rw [if_pos hempty, if_pos hempty]
  · rw [if_neg hempty, if_neg hempty]
    dsimp only
    rw [hfound]
    cases liveAccept? ttl history envelope.dedupKey clock.now with
    | none => rfl
    | some first =>
      dsimp only [Option.map_some, Answer.record]
      split <;> rfl

/-- An answer that is no acceptance adds nothing to what is live. -/
theorem Remembers.idle {a : Answer} (h : Remembers ttl now store history)
    (hle : now ≤ a.clock.inserted) (hnot : a.decision.outcome ≠ .accepted) :
    Remembers ttl a.clock.inserted store (history ++ [a]) := by
  refine ⟨h.ttl_eq, fun later hlater => ?_⟩
  have hnone : live ttl [a] later = [] := by simp [live, hnot]
  rw [live_snoc, hnone, List.append_nil]
  exact h.records later (hle.trans hlater)

theorem Remembers.purge (h : Remembers ttl now store history) :
    Remembers ttl now (store.purgeExpired now) history :=
  ⟨h.ttl_eq, fun later hlater => by
    rw [purgeExpired_purgeExpired store hlater]
    exact h.records later hlater⟩

/-- An envelope that is accepted is inserted. -/
theorem Remembers.insert {a : Answer} (h : Remembers ttl now store history)
    (hle : now ≤ a.clock.inserted) (haccepted : a.decision.outcome = .accepted) :
    Remembers ttl a.clock.inserted { store with records := store.records ++ [a.record] }
      (history ++ [a]) := by
  refine ⟨h.ttl_eq, fun later hlater => ?_⟩
  have hold := h.records later (hle.trans hlater)
  rw [live_snoc, List.map_append, ← hold]
  unfold IdempotencyStore.purgeExpired live
  rw [List.filter_append, h.ttl_eq]
  by_cases hfresh : later ≤ ttl + a.clock.inserted
  · simp [Answer.record, hfresh, haccepted]
  · simp [Answer.record, hfresh]

/-- The store remembers what it has answered. -/
theorem Remembers.checkAndRecord (h : Remembers ttl now store history)
    (envelope : FleetEventEnvelope) {clock : Clock} (hnow : now ≤ clock.now)
    (hinserted : clock.now ≤ clock.inserted) :
    Remembers ttl clock.inserted (store.checkAndRecord envelope clock).2
      (history ++ [⟨envelope, clock, expected ttl history envelope clock.now⟩]) := by
  have hnow' := h.later hnow
  have hfound := hnow'.getByKey envelope.dedupKey
  unfold IdempotencyStore.checkAndRecord expected
  by_cases hempty : envelope.idempotencyKey.isEmpty = true
  · rw [if_pos hempty, if_pos hempty]
    exact hnow'.idle (a := ⟨envelope, clock, _⟩) hinserted (by simp)
  · rw [if_neg hempty, if_neg hempty]
    dsimp only
    rw [hfound]
    cases liveAccept? ttl history envelope.dedupKey clock.now with
    | none => exact hnow'.purge.insert (a := ⟨envelope, clock, _⟩) hinserted rfl
    | some first =>
      dsimp only [Option.map_some, Answer.record]
      split
      · exact hnow'.purge.idle (a := ⟨envelope, clock, _⟩) hinserted (by simp)
      · exact hnow'.purge.idle (a := ⟨envelope, clock, _⟩) hinserted (by simp)

/-! ## Runs -/

/-- The checks of a run answer as they should, one after the other. -/
theorem Remembers.run {checks : List (FleetEventEnvelope × Clock)}
    (h : Remembers ttl now store history)
    (hclock : (now :: checks.flatMap fun check => [check.2.now, check.2.inserted]).Pairwise
      (· ≤ ·)) :
    Each (fun before a => a.decision = expected ttl before a.envelope a.clock.now) history
      (run checkStep store checks).2 := by
  induction checks generalizing now store history with
  | nil => exact Each.nil _ _
  | cons check checks ih =>
    obtain ⟨hstart, hrest⟩ := List.pairwise_cons.mp hclock
    have hnow : now ≤ check.2.now := hstart _ (by simp)
    obtain ⟨hfirst, hlater⟩ := List.pairwise_cons.mp hrest
    have hinserted : check.2.now ≤ check.2.inserted := hfirst _ (by simp)
    have hdecision := h.decision check.1 hnow
    have hafter := h.checkAndRecord check.1 hnow hinserted
    rw [← hdecision] at hafter
    exact Each.cons hdecision (ih hafter hlater)

theorem answers_expected {checks : List (FleetEventEnvelope × Clock)} (h : SteadyClock checks) :
    Each (fun before a => a.decision = expected ttl before a.envelope a.clock.now) []
      (answers ttl checks) := by
  cases checks with
  | nil => exact Each.nil _ _
  | cons check checks =>
    refine (remembers_new ttl check.2.now).run (List.pairwise_cons.mpr ⟨fun t ht => ?_, h⟩)
    rcases List.mem_cons.mp ht with rfl | ht
    · exact le_rfl
    · exact (List.pairwise_cons.mp h).1 t ht

/-- Two envelopes accepted under one key are further apart than the time to live. -/
def Apart (ttl : ℚ) (a b : Answer) : Prop :=
  a.decision.outcome = .accepted → b.decision.outcome = .accepted →
    a.envelope.dedupKey = b.envelope.dedupKey → ttl < b.clock.now - a.clock.inserted

/-- What answers as it should accepts a key again only after the time to live. -/
theorem pairwise_apart {all : List Answer}
    (h : Each (fun before a => a.decision = expected ttl before a.envelope a.clock.now) [] all) :
    all.Pairwise (Apart ttl) := by
  induction all using List.reverseRecOn with
  | nil => exact List.Pairwise.nil
  | append_singleton all b ih =>
    obtain ⟨hall, hb⟩ := each_snoc_iff.mp h
    rw [List.nil_append] at hb
    refine List.pairwise_append.mpr ⟨ih hall, List.pairwise_singleton _ _, fun a ha c hc => ?_⟩
    obtain rfl := List.mem_singleton.mp hc
    intro haccepted hagain hkey
    by_contra hsoon
    -- the first acceptance is still live
    have hlive : liveAccept? ttl all c.envelope.dedupKey c.clock.now ≠ none := by
      unfold liveAccept?
      rw [ne_eq, List.find?_eq_none, not_forall]
      refine ⟨a, fun hnone => hnone ha ?_⟩
      simp only [Answer.accepts, haccepted, hkey, decide_true, Bool.and_self, Bool.true_and,
        decide_eq_true_eq, gt_iff_lt]
      exact hsoon
    rw [hb] at hagain
    unfold expected at hagain
    split at hagain
    · cases hagain
    · cases hfirst : liveAccept? ttl all c.envelope.dedupKey c.clock.now with
      | none => exact hlive hfirst
      | some first =>
        rw [hfirst] at hagain
        dsimp only at hagain
        split at hagain <;> cases hagain

/-- Whatever is checked, and in whatever order the threads come: an envelope gets
the answer that the answers before it call for, and a key is accepted again only
after the time to live. -/
theorem answers_spec {checks : List (FleetEventEnvelope × Clock)} (h : SteadyClock checks) :
    (∀ pre a post, answers ttl checks = pre ++ a :: post →
      a.decision = expected ttl pre a.envelope a.clock.now) ∧
    (answers ttl checks).Pairwise (Apart ttl) :=
  ⟨answers_expected h, pairwise_apart (answers_expected h)⟩

/-- An envelope, its retry within the time to live, and one long after it. -/
theorem answers_spec_retry :
    let checks := [(heartbeat, ⟨0, 0, ""⟩), (heartbeat, ⟨5, 5, ""⟩), (heartbeat, ⟨61, 61, ""⟩)]
    (∀ pre a post, answers 60 checks = pre ++ a :: post →
      a.decision = expected 60 pre a.envelope a.clock.now) ∧
    (answers 60 checks).Pairwise (Apart 60) :=
  answers_spec (by decide +kernel)

example : (answers 60 [(heartbeat, ⟨0, 0, ""⟩), (heartbeat, ⟨5, 5, ""⟩),
    (heartbeat, ⟨61, 61, ""⟩)]).map (·.decision.outcome) = [.accepted, .duplicate, .accepted] := by
  decide +kernel

/-! ## Batches -/

/-- `ingest_batch`; `none` when a publisher raises, which leaves the rest of the
batch undone. -/
def Gateway.ingestBatch (env : Environment) (sep : Linesep) :
    Gateway → List Call → Option (List IngestResult) × Gateway
  | gateway, [] => (some [], gateway)
  | gateway, call :: calls =>
    match gateway.ingestOne env sep call with
    | (none, gateway) => (none, gateway)
    | (some result, gateway) =>
      let later := gateway.ingestBatch env sep calls
      (later.1.map (result :: ·), later.2)

/-- What a call has checked. -/
def Call.check (call : Call) : FleetEventEnvelope × Clock := (call.envelope.finalize, call.clock)

variable (env : Environment) (sep : Linesep)

/-- A call checks its envelope, reports the answer, and publishes what is accepted
alone. -/
theorem ingestOne_check (gateway : Gateway) (call : Call) :
    (gateway.ingestOne env sep call).2.store = (checkStep gateway.store call.check).1 ∧
      ∀ result, (gateway.ingestOne env sep call).1 = some result →
        [result.dedup] = (checkStep gateway.store call.check).2.map (·.decision) ∧
          (result.published = true → result.dedup.outcome = .accepted) := by
  unfold Gateway.ingestOne checkStep Call.check
  dsimp only
  cases houtcome :
      (gateway.store.checkAndRecord call.envelope.finalize call.clock).1.outcome with
  | conflict =>
    refine ⟨rfl, fun result hresult => ?_⟩
    obtain rfl := Option.some.inj hresult
    exact ⟨rfl, fun hpublished => absurd hpublished (by simp)⟩
  | duplicate =>
    refine ⟨rfl, fun result hresult => ?_⟩
    obtain rfl := Option.some.inj hresult
    exact ⟨rfl, fun hpublished => absurd hpublished (by simp)⟩
  | accepted =>
    dsimp only
    refine ⟨?_, fun result hresult => ?_⟩
    · unfold Gateway.publish
      split
      · rfl
      · cases call.publisher <;> rfl
    · obtain ⟨published, -, rfl⟩ := Option.map_eq_some_iff.mp hresult
      exact ⟨rfl, fun _ => houtcome⟩

/-- A batch that comes to its end has checked its envelopes in order. -/
theorem ingestBatch_dedup (gateway : Gateway) (calls : List Call) {results : List IngestResult}
    (h : (gateway.ingestBatch env sep calls).1 = some results) :
    results.map (·.dedup) =
        (run checkStep gateway.store (calls.map Call.check)).2.map (·.decision) ∧
      ∀ result ∈ results, result.published = true → result.dedup.outcome = .accepted := by
  induction calls generalizing gateway results with
  | nil =>
    obtain rfl := Option.some.inj h
    exact ⟨rfl, fun _ hr => absurd hr List.not_mem_nil⟩
  | cons call calls ih =>
    obtain ⟨hstore, hanswer⟩ := ingestOne_check env sep gateway call
    unfold Gateway.ingestBatch at h
    match hone : gateway.ingestOne env sep call with
    | (none, next) =>
      rw [hone] at h
      cases h
    | (some result, next) =>
      rw [hone] at h hstore hanswer
      obtain ⟨rest, hrest, rfl⟩ := Option.map_eq_some_iff.mp h
      obtain ⟨hdedup, hpublished⟩ := hanswer result rfl
      obtain ⟨hlater, hall⟩ := ih next hrest
      dsimp only at hstore
      refine ⟨?_, fun r hr => ?_⟩
      · rw [List.map_cons, List.map_cons, run, List.map_append, ← hdedup, ← hstore, ← hlater]
        rfl
      · rcases List.mem_cons.mp hr with rfl | hr
        · exact hpublished
        · exact hall r hr

end Fleet
