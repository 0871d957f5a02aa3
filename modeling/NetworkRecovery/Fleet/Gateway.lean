import NetworkRecovery.Fleet.Envelope
import NetworkRecovery.Lib.Reactive
import Mathlib.Data.List.Nodup
import Mathlib.Data.Rat.Defs

/-!
# The ingest gateway

`platform_core/fleet/ingestion.py` and `deduplication.py`. A call records the
idempotency key of an envelope and then publishes the envelope; a call under a
key that is recorded publishes nothing and is accepted all the same.

The key is recorded BEFORE the publication, so that an envelope whose publication
fails is lost: its retries are taken for duplicates. Which runs lose nothing and
publish nothing twice is a matter of the calls that are the first under their
key (`acceptedOnce_iff`).
-/

namespace Fleet

open Python Reactive

/-! ## Idempotency keys -/

/-- `(tenant_id, producer_id, idempotency_key)`. -/
structure DedupKey where
  tenantId : String
  producerId : String
  idempotencyKey : String
  deriving DecidableEq

def FleetEventEnvelope.dedupKey (envelope : FleetEventEnvelope) : DedupKey :=
  ⟨envelope.tenant.tenantId, envelope.producerId, envelope.idempotencyKey⟩

/-- `IdempotencyRecord`, under its key, with the time it was inserted. The two
dictionaries of the store have the same keys at all times. -/
structure IdempotencyRecord where
  key : DedupKey
  eventId : String
  firstSeenUtc : String
  insertedAt : ℚ

/-- `InMemoryIdempotencyStore`. -/
structure IdempotencyStore where
  ttlSeconds : ℚ := 72 * 3600
  records : List IdempotencyRecord := []

/-- `DedupOutcome`. -/
inductive DedupOutcome where
  | accepted
  | duplicate
  | conflict
  deriving DecidableEq

/-- `DedupDecision`. -/
structure DedupDecision where
  outcome : DedupOutcome
  eventId : String
  reason : String := ""
  existingEventId : Option String := none

/-- What the clocks say during a call. -/
structure Clock where
  /-- when the expired keys are purged -/
  now : ℚ
  /-- when a new key is inserted -/
  inserted : ℚ
  utc : String

/-- `_purge_expired`. -/
def IdempotencyStore.purgeExpired (store : IdempotencyStore) (now : ℚ) : IdempotencyStore :=
  { store with records := store.records.filter fun r => ¬ now - r.insertedAt > store.ttlSeconds }

def IdempotencyStore.getByKey (store : IdempotencyStore) (key : DedupKey) :
    Option IdempotencyRecord :=
  store.records.find? (·.key = key)

/-- `check_and_record`. -/
def IdempotencyStore.checkAndRecord (store : IdempotencyStore) (envelope : FleetEventEnvelope)
    (clock : Clock) : DedupDecision × IdempotencyStore :=
  if envelope.idempotencyKey.isEmpty then
    ({ outcome := .conflict, eventId := envelope.eventId, reason := "missing_idempotency_key" },
      store)
  else
    let store := store.purgeExpired clock.now
    match store.getByKey envelope.dedupKey with
    | some existing =>
      if existing.eventId = envelope.eventId then
        ({ outcome := .duplicate
           eventId := envelope.eventId
           reason := "retry_same_event_id"
           existingEventId := some existing.eventId }, store)
      else
        ({ outcome := .conflict
           eventId := envelope.eventId
           reason := "idempotency_key_reuse_different_payload"
           existingEventId := some existing.eventId }, store)
    | none =>
      let record := ⟨envelope.dedupKey, envelope.eventId, clock.utc, clock.inserted⟩
      ({ outcome := .accepted, eventId := envelope.eventId },
        { store with records := store.records ++ [record] })

/-! ## The gateway -/

/-- The headers of a message. -/
structure Headers where
  tenantId : String
  eventId : String
  partitionId : String
  schemaVersion : String

/-- The arguments of a successful `publish`. -/
structure Message where
  topic : String
  key : String
  value : ByteArray
  headers : Headers

/-- The gateway, with its write-ahead log and what has been published. -/
structure Gateway where
  store : IdempotencyStore := {}
  wal : Audit.File := none
  published : List Message := []

/-- What the publisher of the gateway does at a call. -/
inductive Publisher where
  | absent
  | raises
  | succeeds
  deriving DecidableEq

/-- `IngestResult`. -/
structure IngestResult where
  accepted : Bool
  eventId : String
  partitionId : Int
  topic : String
  dedup : DedupDecision
  published : Bool := false

/-- One `ingest_one`: the envelope, the publisher it finds and the clocks. -/
structure Call where
  envelope : FleetEventEnvelope
  publisher : Publisher
  clock : Clock

/-- What `publish` is given. -/
def message (envelope : FleetEventEnvelope) (topic : String) (partitionId : Nat) : Message where
  topic := topic
  key := envelope.partitionKey
  value := (String.ofList (dumps .plain (.dict envelope.modelDump))).toUTF8
  headers := ⟨envelope.tenant.tenantId, envelope.eventId, toString partitionId,
    envelope.schemaVersion⟩

/-- `_publish`; `none` when the publisher raises. -/
def Gateway.publish (env : Environment) (sep : Linesep) (gateway : Gateway)
    (publisher : Publisher) (envelope : FleetEventEnvelope) (topic : String) (partitionId : Nat) :
    Option Bool × Gateway :=
  if env.fleetMode = "local" then
    (some true, { gateway with wal := Platform.appendJsonl sep gateway.wal envelope.modelDump })
  else
    match publisher with
    | .absent => (some false, gateway)
    | .raises => (none, gateway)
    | .succeeds =>
      (some true, { gateway with
        published := gateway.published ++ [message envelope topic partitionId] })

/-- `ingest_one`; `none` when the publisher raises. -/
def Gateway.ingestOne (env : Environment) (sep : Linesep) (gateway : Gateway) (call : Call) :
    Option IngestResult × Gateway :=
  let finalized := call.envelope.finalize
  let (dedup, store) := gateway.store.checkAndRecord finalized call.clock
  let gateway := { gateway with store := store }
  let partitionId := assignPartition env finalized.tenant.tenantId finalized.endpointIdHash
  let topic := topicForStream env finalized.stream finalized.tenant.tier
  match dedup.outcome with
  | .conflict =>
    (some { accepted := false, eventId := finalized.eventId, partitionId := -1, topic := "",
            dedup := dedup }, gateway)
  | .duplicate =>
    (some { accepted := true, eventId := finalized.eventId, partitionId := partitionId,
            topic := topic, dedup := dedup }, gateway)
  | .accepted =>
    let (published, gateway) :=
      gateway.publish env sep call.publisher finalized topic partitionId
    (published.map fun published =>
      { accepted := true, eventId := finalized.eventId, partitionId := partitionId,
        topic := topic, dedup := dedup, published := published }, gateway)

/-! ## What the calls of a run amount to -/

/-- An envelope with an idempotency key. -/
def Call.keyed (call : Call) : Bool := !call.envelope.idempotencyKey.isEmpty

/-- The call that used a key first. -/
def firstUse? (calls : List Call) (key : DedupKey) : Option Call :=
  calls.find? (·.envelope.dedupKey = key)

/-- The first call under its key, with a publisher that succeeds. -/
def Delivers (earlier : List Call) (call : Call) : Prop :=
  call.keyed = true ∧ firstUse? earlier call.envelope.dedupKey = none ∧ call.publisher = .succeeds

instance (earlier : List Call) (call : Call) : Decidable (Delivers earlier call) :=
  inferInstanceAs (Decidable (_ ∧ _ ∧ _))

/-- The events of the calls that deliver, in order. -/
def deliveredFrom (earlier : List Call) : List Call → List String
  | [] => []
  | call :: calls =>
    (if Delivers earlier call then [call.envelope.eventId] else []) ++
      deliveredFrom (earlier ++ [call]) calls

def delivered (calls : List Call) : List String := deliveredFrom [] calls

/-- A call that loses nothing and repeats nothing. A retry is sound when its
event is delivered. A first call under a key is sound when it delivers an event
that is not delivered yet, and without a publisher when it need not; a publisher
that raises is the business of the retries. -/
def Sound (earlier : List Call) (call : Call) : Prop :=
  call.keyed = true →
    match firstUse? earlier call.envelope.dedupKey with
    | some first =>
      first.envelope.eventId = call.envelope.eventId → call.envelope.eventId ∈ delivered earlier
    | none =>
      match call.publisher with
      | .absent => call.envelope.eventId ∈ delivered earlier
      | .raises => True
      | .succeeds => call.envelope.eventId ∉ delivered earlier

theorem deliveredFrom_append (earlier calls rest : List Call) :
    deliveredFrom earlier (calls ++ rest) =
      deliveredFrom earlier calls ++ deliveredFrom (earlier ++ calls) rest := by
  induction calls generalizing earlier with
  | nil => simp [deliveredFrom]
  | cons call calls ih =>
    rw [List.cons_append, deliveredFrom, deliveredFrom, ih, List.append_assoc, List.append_assoc,
      List.singleton_append]

theorem delivered_snoc (calls : List Call) (call : Call) :
    delivered (calls ++ [call]) =
      delivered calls ++ if Delivers calls call then [call.envelope.eventId] else [] := by
  unfold delivered
  rw [deliveredFrom_append]
  simp [deliveredFrom]

/-- Sound calls deliver no event twice. -/
theorem nodup_delivered {calls : List Call} (h : Each Sound [] calls) : (delivered calls).Nodup := by
  induction calls using List.reverseRecOn with
  | nil => exact List.nodup_nil
  | append_singleton calls call ih =>
    obtain ⟨hcalls, hcall⟩ := each_snoc_iff.mp h
    rw [List.nil_append] at hcall
    rw [delivered_snoc]
    by_cases hdelivers : Delivers calls call
    · obtain ⟨hkeyed, hfirst, hpublisher⟩ := hdelivers
      have hnew := hcall hkeyed
      rw [hfirst, hpublisher] at hnew
      rw [if_pos ⟨hkeyed, hfirst, hpublisher⟩, ← List.concat_eq_append, List.nodup_concat]
      exact ⟨hnew, ih hcalls⟩
    · rw [if_neg hdelivers, List.append_nil]
      exact ih hcalls

/-! ## One call -/

/-- The calls of a run are within the time to live of the store. -/
def WithinTtl (ttl : ℚ) (calls : List Call) : Prop :=
  ∀ a ∈ calls, ∀ b ∈ calls, b.clock.now - a.clock.inserted ≤ ttl

/-- What a gateway holds after the calls. -/
structure Tracks (ttl : ℚ) (calls : List Call) (gateway : Gateway) : Prop where
  ttl : gateway.store.ttlSeconds = ttl
  recorded : ∀ key : DedupKey, key.idempotencyKey.isEmpty = false →
    (gateway.store.getByKey key).map (·.eventId) =
      (firstUse? calls key).map (·.envelope.eventId)
  inserted : ∀ r ∈ gateway.store.records, ∃ c ∈ calls, r.insertedAt = c.clock.inserted
  published : gateway.published.map (·.headers.eventId) = delivered calls

/-- Nothing expires. -/
theorem Tracks.purgeExpired_eq {ttl : ℚ} {calls : List Call} {gateway : Gateway}
    (h : Tracks ttl calls gateway) {now : ℚ} (hnow : ∀ c ∈ calls, now - c.clock.inserted ≤ ttl) :
    gateway.store.purgeExpired now = gateway.store := by
  have hall : gateway.store.records.filter
      (fun r => ¬ now - r.insertedAt > gateway.store.ttlSeconds) = gateway.store.records := by
    refine List.filter_eq_self.mpr fun r hr => ?_
    obtain ⟨c, hc, hinserted⟩ := h.inserted r hr
    rw [hinserted, h.ttl]
    simpa using hnow c hc
  unfold IdempotencyStore.purgeExpired
  rw [hall]

/-- Whether a call is accepted, from the calls before it; `none` when it raises. -/
def verdict (earlier : List Call) (call : Call) : Option Bool :=
  if call.keyed then
    match firstUse? earlier call.envelope.dedupKey with
    | some first => some (first.envelope.eventId = call.envelope.eventId)
    | none => if call.publisher = .raises then none else some true
  else some false

theorem firstUse?_snoc (calls : List Call) (call : Call) (key : DedupKey) :
    firstUse? (calls ++ [call]) key =
      (firstUse? calls key).or (if call.envelope.dedupKey = key then some call else none) := by
  unfold firstUse?
  rw [List.find?_append]
  by_cases h : call.envelope.dedupKey = key
  · simp [h]
  · simp [h]

/-- A call that stores and publishes nothing. -/
theorem Tracks.idle {ttl : ℚ} {calls : List Call} {gateway : Gateway}
    (h : Tracks ttl calls gateway) {call : Call}
    (hused : call.keyed = true → (firstUse? calls call.envelope.dedupKey).isSome) :
    Tracks ttl (calls ++ [call]) gateway where
  ttl := h.ttl
  recorded := by
    intro key hkey
    rw [h.recorded key hkey, firstUse?_snoc]
    by_cases hsame : call.envelope.dedupKey = key
    · subst hsame
      have hkeyed : call.keyed = true := by simpa [Call.keyed, FleetEventEnvelope.dedupKey] using hkey
      rw [Option.or_of_isSome (hused hkeyed)]
    · rw [if_neg hsame, Option.or_none]
  inserted := by
    intro r hr
    obtain ⟨c, hc, hinserted⟩ := h.inserted r hr
    exact ⟨c, List.mem_append_left _ hc, hinserted⟩
  published := by
    rw [h.published, delivered_snoc, if_neg, List.append_nil]
    rintro ⟨hkeyed, hfirst, -⟩
    have := hused hkeyed
    rw [hfirst] at this
    cases this

/-- The first call under a key, which records it. -/
theorem Tracks.record {ttl : ℚ} {calls : List Call} {gateway : Gateway}
    (h : Tracks ttl calls gateway) {call : Call} {next : Gateway}
    (hfirst : firstUse? calls call.envelope.dedupKey = none)
    (hstore : next.store = { gateway.store with records := gateway.store.records ++
      [⟨call.envelope.dedupKey, call.envelope.eventId, call.clock.utc, call.clock.inserted⟩] })
    (hpublished : next.published.map (·.headers.eventId) = delivered (calls ++ [call])) :
    Tracks ttl (calls ++ [call]) next where
  ttl := by
    rw [hstore]
    exact h.ttl
  recorded := by
    intro key hkey
    have hold := h.recorded key hkey
    unfold IdempotencyStore.getByKey at hold ⊢
    rw [hstore, List.find?_append, firstUse?_snoc]
    by_cases hsame : call.envelope.dedupKey = key
    · subst hsame
      rw [hfirst, Option.map_none, Option.map_eq_none_iff] at hold
      simp [hold, hfirst]
    · rw [if_neg hsame, Option.or_none, ← hold]
      simp [hsame]
  inserted := by
    intro r hr
    rw [hstore] at hr
    rcases List.mem_append.mp hr with hr | hr
    · obtain ⟨c, hc, hinserted⟩ := h.inserted r hr
      exact ⟨c, List.mem_append_left _ hc, hinserted⟩
    · rw [List.mem_singleton.mp hr]
      exact ⟨call, by simp, rfl⟩
  published := hpublished

section Run

variable (env : Environment) (sep : Linesep) {ttl : ℚ} {calls : List Call} {gateway : Gateway}
  {call : Call}

variable (call) in
/-- What a call returns, and what the gateway holds after it. -/
theorem ingestOne_spec (hmode : env.fleetMode ≠ "local") (h : Tracks ttl calls gateway)
    (hnow : ∀ c ∈ calls, call.clock.now - c.clock.inserted ≤ ttl) :
    (gateway.ingestOne env sep call).1.map (fun r => (r.accepted, r.eventId)) =
        (verdict calls call).map (fun accepted => (accepted, call.envelope.eventId)) ∧
      Tracks ttl (calls ++ [call]) (gateway.ingestOne env sep call).2 := by
  have hkey : call.envelope.finalize.dedupKey = call.envelope.dedupKey := rfl
  have hevent : call.envelope.finalize.eventId = call.envelope.eventId := rfl
  have hname : call.envelope.finalize.idempotencyKey = call.envelope.idempotencyKey := rfl
  by_cases hempty : call.envelope.idempotencyKey.isEmpty = true
  · have hkeyed : call.keyed = false := by simp [Call.keyed, hempty]
    simp only [Gateway.ingestOne, IdempotencyStore.checkAndRecord, hname, hempty, if_true, verdict,
      hkeyed]
    exact ⟨rfl, h.idle fun hk => absurd (hkeyed.symm.trans hk) (by decide)⟩
  · have hkeyed : call.keyed = true := by simpa [Call.keyed] using hempty
    have hrecorded := h.recorded call.envelope.dedupKey (Bool.eq_false_iff.mpr hempty)
    simp only [Gateway.ingestOne, IdempotencyStore.checkAndRecord, hname, hempty,
      Bool.false_eq_true, if_false, verdict, hkeyed, if_true, h.purgeExpired_eq hnow, hkey, hevent]
    cases hfirst : firstUse? calls call.envelope.dedupKey with
    | some first =>
      rw [hfirst, Option.map_some, Option.map_eq_some_iff] at hrecorded
      obtain ⟨existing, hexisting, hsame⟩ := hrecorded
      have hidle : Tracks ttl (calls ++ [call]) gateway := by
        refine h.idle fun _ => ?_
        rw [hfirst]
        rfl
      rw [hexisting]
      by_cases heq : existing.eventId = call.envelope.eventId
      · simp only [heq, if_true, ← hsame, decide_true]
        exact ⟨rfl, hidle⟩
      · simp only [heq, if_false, ← hsame, decide_false]
        exact ⟨rfl, hidle⟩
    | none =>
      rw [hfirst, Option.map_none, Option.map_eq_none_iff] at hrecorded
      rw [hrecorded]
      simp only [Gateway.publish, hmode, if_false]
      have hsilent (hpublisher : call.publisher ≠ .succeeds) :
          gateway.published.map (·.headers.eventId) = delivered (calls ++ [call]) := by
        rw [delivered_snoc, if_neg fun hd => hpublisher hd.2.2, List.append_nil]
        exact h.published
      cases hpublisher : call.publisher with
      | absent => exact ⟨rfl, h.record hfirst rfl (hsilent (by simp [hpublisher]))⟩
      | raises => exact ⟨rfl, h.record hfirst rfl (hsilent (by simp [hpublisher]))⟩
      | succeeds =>
        refine ⟨rfl, h.record hfirst rfl ?_⟩
        rw [delivered_snoc, if_pos ⟨hkeyed, hfirst, hpublisher⟩, ← h.published, List.map_append]
        rfl

/-- The gateway after the calls. -/
def gatewayAfter (ttl : ℚ) (calls : List Call) : Gateway :=
  calls.foldl (fun gateway call => (gateway.ingestOne env sep call).2)
    { store := { ttlSeconds := ttl } }

/-- How often an event has been published. -/
def copies (gateway : Gateway) (eventId : String) : Nat :=
  (gateway.published.filter (·.headers.eventId = eventId)).length

/-- A call that is accepted leaves its event published exactly once. -/
def LeavesOnce (ttl : ℚ) (earlier : List Call) (call : Call) : Prop :=
  ∀ result, ((gatewayAfter env sep ttl earlier).ingestOne env sep call).1 = some result →
    result.accepted = true →
    copies ((gatewayAfter env sep ttl earlier).ingestOne env sep call).2 result.eventId = 1

/-- Every call of a run that is accepted does. -/
def AcceptedOnce (ttl : ℚ) (calls : List Call) : Prop := Each (LeavesOnce env sep ttl) [] calls

theorem gatewayAfter_tracks (hmode : env.fleetMode ≠ "local") (hwithin : WithinTtl ttl calls) :
    Tracks ttl calls (gatewayAfter env sep ttl calls) := by
  induction calls using List.reverseRecOn with
  | nil => exact ⟨rfl, fun _ _ => rfl, fun r hr => absurd hr (by simp [gatewayAfter]), rfl⟩
  | append_singleton calls call ih =>
    have hcalls : WithinTtl ttl calls := fun a ha b hb =>
      hwithin a (List.mem_append_left _ ha) b (List.mem_append_left _ hb)
    have hspec := ingestOne_spec env sep call hmode (ih hcalls) fun c hc =>
      hwithin c (List.mem_append_left _ hc) call (by simp)
    unfold gatewayAfter
    rw [List.foldl_append]
    exact hspec.2

theorem Tracks.copies_eq (h : Tracks ttl calls gateway) (eventId : String) :
    copies gateway eventId = (delivered calls).count eventId := by
  unfold copies
  rw [← h.published, List.count_eq_length_filter, List.filter_map, List.length_map]
  rfl

/-- A call is sound exactly when its acceptance leaves its event published once,
given that the calls before it have published no event twice. -/
theorem sound_iff (hnodup : (delivered calls).Nodup) :
    Sound calls call ↔ (verdict calls call = some true →
      (delivered (calls ++ [call])).count call.envelope.eventId = 1) := by
  have hold : (delivered calls).count call.envelope.eventId = 1 ↔
      call.envelope.eventId ∈ delivered calls := by
    rw [hnodup.count]
    simp
  unfold Sound verdict
  rw [delivered_snoc]
  cases hkeyed : call.keyed with
  | false => simp
  | true =>
    cases hfirst : firstUse? calls call.envelope.dedupKey with
    | some first => simp [Delivers, hfirst, hold]
    | none =>
      cases hpublisher : call.publisher with
      | absent => simp [Delivers, hpublisher, hold]
      | raises => simp
      | succeeds => simp [Delivers, hfirst, hpublisher, hkeyed, List.count_append, List.count_eq_zero]

theorem leavesOnce_iff (hmode : env.fleetMode ≠ "local") (h : WithinTtl ttl (calls ++ [call])) :
    LeavesOnce env sep ttl calls call ↔ (verdict calls call = some true →
      (delivered (calls ++ [call])).count call.envelope.eventId = 1) := by
  have htracks := gatewayAfter_tracks env sep hmode fun a ha b hb =>
    h a (List.mem_append_left [call] ha) b (List.mem_append_left [call] hb)
  obtain ⟨hresult, hnext⟩ := ingestOne_spec env sep call hmode htracks fun c hc =>
    h c (List.mem_append_left _ hc) call (by simp)
  unfold LeavesOnce
  simp only [hnext.copies_eq]
  constructor
  · intro hall hverdict
    rw [hverdict, Option.map_some, Option.map_eq_some_iff] at hresult
    obtain ⟨result, hsome, hpair⟩ := hresult
    obtain ⟨haccepted, hid⟩ := Prod.mk.inj hpair
    rw [← hid]
    exact hall result hsome haccepted
  · intro hcount result hsome haccepted
    rw [hsome, Option.map_some, eq_comm, Option.map_eq_some_iff] at hresult
    obtain ⟨accepted, hverdict, hpair⟩ := hresult
    obtain ⟨rfl, hid⟩ := Prod.mk.inj hpair
    rw [← hid]
    exact hcount (by rw [hverdict, haccepted])

/-- In publish mode and within the time to live, every accepted call leaves its
event published exactly once if and only if every call is sound after the calls
before it. -/
theorem acceptedOnce_iff (hmode : env.fleetMode ≠ "local") (hwithin : WithinTtl ttl calls) :
    AcceptedOnce env sep ttl calls ↔ Each Sound [] calls := by
  unfold AcceptedOnce
  induction calls using List.reverseRecOn with
  | nil => exact ⟨fun _ => Each.nil _ _, fun _ => Each.nil _ _⟩
  | append_singleton calls call ih =>
    have hcalls : WithinTtl ttl calls := fun a ha b hb =>
      hwithin a (List.mem_append_left _ ha) b (List.mem_append_left _ hb)
    rw [each_snoc_iff, each_snoc_iff, ih hcalls, List.nil_append]
    refine and_congr_right fun hsound => ?_
    rw [leavesOnce_iff env sep hmode hwithin, sound_iff (nodup_delivered hsound)]

end Run

/-- An envelope of one event. -/
def heartbeat : FleetEventEnvelope where
  eventId := "evt-1"
  idempotencyKey := "batch-1"
  tenant := { tenantId := "acme" }
  producerId := "agent-7"
  endpointIdHash := "0123456789abcdef0123456789abcdef"
  timestampUtc := "2026-01-01T00:00:00+00:00"

/-- The environment of a gateway that publishes. -/
def streaming : Environment := { fleetMode := "stream" }

/-- A call with the envelope, a few seconds after the first one. -/
def heartbeatAt (seconds : ℚ) (publisher : Publisher) : Call :=
  ⟨heartbeat, publisher, ⟨seconds, seconds, "2026-01-01T00:00:00+00:00"⟩⟩

theorem withinTtl_pair (publisher : Publisher) :
    WithinTtl (72 * 3600) [heartbeatAt 0 publisher, heartbeatAt 5 .succeeds] := by
  unfold WithinTtl
  cases publisher <;> decide +kernel

/-- The envelope is published and sent again. -/
theorem acceptedOnce_retry :
    AcceptedOnce streaming .lf (72 * 3600) [heartbeatAt 0 .succeeds, heartbeatAt 5 .succeeds] := by
  refine (acceptedOnce_iff streaming .lf (by decide) (withinTtl_pair .succeeds)).mpr ?_
  refine each_cons_iff.mpr ⟨fun _ => ?_, each_cons_iff.mpr ⟨fun _ _ => ?_, Each.nil _ _⟩⟩
  · show "evt-1" ∉ delivered []
    decide
  · show "evt-1" ∈ delivered [heartbeatAt 0 .succeeds]
    decide

/-- The publisher raises at first; the retry is accepted and published nowhere. -/
theorem retry_lost :
    ¬ ∀ (env : Environment) (sep : Linesep) (ttl : ℚ) (calls : List Call),
      env.fleetMode ≠ "local" → WithinTtl ttl calls → AcceptedOnce env sep ttl calls := by
  intro h
  have hcalls := h streaming .lf (72 * 3600) [heartbeatAt 0 .raises, heartbeatAt 5 .succeeds]
    (by decide) (withinTtl_pair .raises)
  have hretry := hcalls [heartbeatAt 0 .raises] (heartbeatAt 5 .succeeds) [] rfl
  rw [List.nil_append] at hretry
  have hcount := (leavesOnce_iff streaming .lf (by decide) (withinTtl_pair .raises)).mp hretry
    (by decide)
  exact absurd hcount (by decide)

end Fleet
