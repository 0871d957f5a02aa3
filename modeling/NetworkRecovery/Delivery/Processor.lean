import Mathlib.Data.List.Nodup
import Mathlib.Data.List.Perm.Basic

/-!
# Delivery contracts

`distributed_delivery.py`: an envelope is processed by running its side effect, unless
the effect of its idempotency key is already done. A transient failure puts the next
attempt into a bounded retry queue; the last attempt and a permanent failure go to the
dead letters; a full queue pushes back; any other exception leaves `process` as it came.

The processor is what its history says (`delivery_accounts`): the ledger holds the keys
of the effects that completed, no key twice, the dead letters are the calls that ended
there, and the retry queue, behind what was taken out of it, holds the next attempts of
the calls that were to be retried.
-/

namespace Delivery

variable {τ : Type}

/-- `DeliveryDisposition`. -/
inductive DeliveryDisposition where
  | ack
  | retry
  | deadLetter
  | duplicate
  | backpressure
  deriving DecidableEq, Repr

structure DeliveryEnvelope (τ : Type) where
  eventId : String
  idempotencyKey : String
  payload : τ
  attempt : Nat := 1
  deriving DecidableEq

/-- `next_attempt`. -/
def DeliveryEnvelope.nextAttempt (e : DeliveryEnvelope τ) : DeliveryEnvelope τ :=
  { e with attempt := e.attempt + 1 }

structure RetryPolicy where
  maxAttempts : Nat := 3
  pos : 1 ≤ maxAttempts := by decide

/-- `BoundedDeliveryQueue`, the oldest envelope first. -/
structure BoundedDeliveryQueue (τ : Type) where
  capacity : Nat
  pos : 1 ≤ capacity
  items : List (DeliveryEnvelope τ) := []

/-- `try_put`. -/
def BoundedDeliveryQueue.tryPut (q : BoundedDeliveryQueue τ) (item : DeliveryEnvelope τ) :
    BoundedDeliveryQueue τ × DeliveryDisposition :=
  if q.capacity ≤ q.items.length then (q, .backpressure)
  else ({ q with items := q.items ++ [item] }, .ack)

/-- `get`. -/
def BoundedDeliveryQueue.get (q : BoundedDeliveryQueue τ) :
    BoundedDeliveryQueue τ × Option (DeliveryEnvelope τ) :=
  match q.items with
  | [] => (q, none)
  | item :: items => ({ q with items := items }, some item)

structure DeliveryOutcome (τ : Type) where
  disposition : DeliveryDisposition
  envelope : DeliveryEnvelope τ
  error : Option String := none

/-- What comes of a side effect: it completes, or raises, with the text of the exception. -/
inductive EffectResult where
  | completes
  | transientDeliveryError (text : String)
  | permanentDeliveryError (text : String)
  | otherError (text : String)
  deriving DecidableEq

/-- `DeliveryProcessor`; the ledger is its completed keys. -/
structure DeliveryProcessor (τ : Type) where
  retryPolicy : RetryPolicy := {}
  completedKeys : List String := []
  retryQueue : BoundedDeliveryQueue τ := ⟨100, by decide, []⟩
  deadLetterQueue : List (DeliveryEnvelope τ) := []

/-- `DeliveryProcessor.process`: the processor afterwards, and the outcome, or nothing when
the exception of the side effect comes out. -/
def DeliveryProcessor.process (p : DeliveryProcessor τ) (envelope : DeliveryEnvelope τ)
    (sideEffect : τ → EffectResult) : DeliveryProcessor τ × Option (DeliveryOutcome τ) :=
  if envelope.idempotencyKey ∈ p.completedKeys then (p, some ⟨.duplicate, envelope, none⟩)
  else match sideEffect envelope.payload with
    | .permanentDeliveryError text =>
      ({ p with deadLetterQueue := p.deadLetterQueue ++ [envelope] },
        some ⟨.deadLetter, envelope, some text⟩)
    | .transientDeliveryError text =>
      if p.retryPolicy.maxAttempts ≤ envelope.attempt then
        ({ p with deadLetterQueue := p.deadLetterQueue ++ [envelope] },
          some ⟨.deadLetter, envelope, some text⟩)
      else
        let put := p.retryQueue.tryPut envelope.nextAttempt
        if put.2 = .backpressure then
          ({ p with retryQueue := put.1 }, some ⟨.backpressure, envelope, some text⟩)
        else
          ({ p with retryQueue := put.1 }, some ⟨.retry, envelope.nextAttempt, some text⟩)
    | .otherError _ => (p, none)
    | .completes =>
      ({ p with completedKeys := p.completedKeys ++ [envelope.idempotencyKey] },
        some ⟨.ack, envelope, none⟩)

/-! ## Runs -/

/-- A call of `process`: what was handed in, what the side effect did if it was run at all,
and how the call ended, with nothing for an exception. -/
structure Handled (τ : Type) where
  envelope : DeliveryEnvelope τ
  effect : Option EffectResult
  disposition : Option DeliveryDisposition

/-- A processor in use: with all envelopes that were ever taken from its retry queue, and
all calls. -/
structure Deliveries (τ : Type) where
  processor : DeliveryProcessor τ
  taken : List (DeliveryEnvelope τ) := []
  history : List (Handled τ) := []

/-- Hand an envelope in. -/
def Deliveries.handIn (s : Deliveries τ) (envelope : DeliveryEnvelope τ)
    (sideEffect : τ → EffectResult) : Deliveries τ :=
  let called := s.processor.process envelope sideEffect
  { s with
    processor := called.1
    history := s.history ++ [{
      envelope
      effect :=
        if envelope.idempotencyKey ∈ s.processor.completedKeys then none
        else some (sideEffect envelope.payload)
      disposition := called.2.map (·.disposition) }] }

/-- What a client does: hand in a new envelope, take one from the retry queue, or hand in
one that was taken from it, now or before. -/
inductive Action (τ : Type) where
  | fresh (eventId idempotencyKey : String) (payload : τ) (sideEffect : τ → EffectResult)
  | take
  | again (i : Nat) (sideEffect : τ → EffectResult)

def Deliveries.step (s : Deliveries τ) : Action τ → Deliveries τ
  | .fresh eventId idempotencyKey payload sideEffect =>
    s.handIn { eventId, idempotencyKey, payload } sideEffect
  | .take =>
    let got := s.processor.retryQueue.get
    { s with
      processor := { s.processor with retryQueue := got.1 }
      taken := s.taken ++ got.2.toList }
  | .again i sideEffect =>
    match s.taken[i]? with
    | none => s
    | some envelope => s.handIn envelope sideEffect

/-- How a call can end: the processor afterwards, what the side effect did, and the
disposition. -/
inductive Ends (p : DeliveryProcessor τ) (e : DeliveryEnvelope τ) :
    DeliveryProcessor τ → Option EffectResult → Option DeliveryDisposition → Prop where
  | duplicate (h : e.idempotencyKey ∈ p.completedKeys) : Ends p e p none (some .duplicate)
  | ack (h : e.idempotencyKey ∉ p.completedKeys) :
    Ends p e { p with completedKeys := p.completedKeys ++ [e.idempotencyKey] }
      (some .completes) (some .ack)
  | deadLetter {result : EffectResult} (h : result ≠ .completes) :
    Ends p e { p with deadLetterQueue := p.deadLetterQueue ++ [e] } (some result)
      (some .deadLetter)
  | retry {text : String} (hattempt : e.attempt < p.retryPolicy.maxAttempts)
    (hroom : p.retryQueue.items.length < p.retryQueue.capacity) :
    Ends p e
      { p with retryQueue :=
        { p.retryQueue with items := p.retryQueue.items ++ [e.nextAttempt] } }
      (some (.transientDeliveryError text)) (some .retry)
  | backpressure {text : String} :
    Ends p e p (some (.transientDeliveryError text)) (some .backpressure)
  | raises {text : String} : Ends p e p (some (.otherError text)) none

/-- `process` ends in one of these ways. -/
theorem process_ends (p : DeliveryProcessor τ) (e : DeliveryEnvelope τ)
    (sideEffect : τ → EffectResult) :
    Ends p e (p.process e sideEffect).1
      (if e.idempotencyKey ∈ p.completedKeys then none else some (sideEffect e.payload))
      ((p.process e sideEffect).2.map (·.disposition)) := by
  unfold DeliveryProcessor.process
  by_cases hkey : e.idempotencyKey ∈ p.completedKeys
  · rw [if_pos hkey, if_pos hkey]
    exact .duplicate hkey
  · rw [if_neg hkey, if_neg hkey]
    cases sideEffect e.payload with
    | completes => exact .ack hkey
    | permanentDeliveryError text => exact .deadLetter (by simp)
    | otherError text => exact .raises
    | transientDeliveryError text =>
      dsimp only
      by_cases hattempt : p.retryPolicy.maxAttempts ≤ e.attempt
      · rw [if_pos hattempt]
        exact .deadLetter (by simp)
      · rw [if_neg hattempt]
        unfold BoundedDeliveryQueue.tryPut
        by_cases hfull : p.retryQueue.capacity ≤ p.retryQueue.items.length
        · rw [if_pos hfull, if_pos rfl]
          exact .backpressure
        · rw [if_neg hfull, if_neg (by simp)]
          exact .retry (Nat.lt_of_not_le hattempt) (Nat.lt_of_not_le hfull)

/-! ## The books -/

/-- The envelopes of the calls that ended in a disposition. -/
def Deliveries.ended (s : Deliveries τ) (d : DeliveryDisposition) : List (DeliveryEnvelope τ) :=
  (s.history.filter (·.disposition = some d)).map (·.envelope)

/-- The envelopes of the calls that returned. -/
def Deliveries.returned (s : Deliveries τ) : List (DeliveryEnvelope τ) :=
  (s.history.filter (·.disposition.isSome)).map (·.envelope)

/-- The idempotency keys of the side effects that completed. -/
def Deliveries.completions (s : Deliveries τ) : List String :=
  (s.history.filter (·.effect = some .completes)).map (·.envelope.idempotencyKey)

/-- What the processor holds, against its history. -/
structure Accounts (s : Deliveries τ) : Prop where
  ledger : s.processor.completedKeys = s.completions
  completedOnce : s.completions.Nodup
  bounded : s.processor.retryQueue.items.length ≤ s.processor.retryQueue.capacity
  attempts : ∀ e ∈ s.processor.retryQueue.items, e.attempt ≤ s.processor.retryPolicy.maxAttempts
  settled : ∀ e ∈ s.ended .ack ++ s.ended .duplicate,
    e.idempotencyKey ∈ s.processor.completedKeys
  dead : s.processor.deadLetterQueue = s.ended .deadLetter
  retried : s.taken ++ s.processor.retryQueue.items =
    (s.ended .retry).map DeliveryEnvelope.nextAttempt

section Record

variable {s : Deliveries τ} {p' : DeliveryProcessor τ} {e : DeliveryEnvelope τ}
variable {effect : Option EffectResult} {disposition : Option DeliveryDisposition}

/-- The books after one more call. -/
def Deliveries.record (s : Deliveries τ) (p' : DeliveryProcessor τ) (call : Handled τ) :
    Deliveries τ :=
  { s with processor := p', history := s.history ++ [call] }

theorem ended_record (d : DeliveryDisposition) :
    (s.record p' ⟨e, effect, disposition⟩).ended d =
      s.ended d ++ if disposition = some d then [e] else [] := by
  unfold Deliveries.ended Deliveries.record
  by_cases hd : disposition = some d <;> simp [hd]

theorem completions_record :
    (s.record p' ⟨e, effect, disposition⟩).completions =
      s.completions ++ if effect = some .completes then [e.idempotencyKey] else [] := by
  unfold Deliveries.completions Deliveries.record
  by_cases heffect : effect = some .completes <;> simp [heffect]

@[simp] theorem record_processor (call : Handled τ) : (s.record p' call).processor = p' := rfl

@[simp] theorem record_taken (call : Handled τ) : (s.record p' call).taken = s.taken := rfl

/-- A call forgets no key. -/
theorem Ends.keys_subset (hends : Ends s.processor e p' effect disposition) :
    s.processor.completedKeys ⊆ p'.completedKeys := by
  cases hends with
  | ack _ => exact List.subset_append_left _ _
  | _ => exact List.Subset.refl _

/-- A call that settles its envelope leaves the key in the ledger. -/
theorem Ends.settles (hends : Ends s.processor e p' effect disposition)
    (hsettled : disposition = some .ack ∨ disposition = some .duplicate) :
    e.idempotencyKey ∈ p'.completedKeys := by
  cases hends with
  | duplicate hkey => exact hkey
  | ack _ => exact List.mem_append_right _ (List.mem_singleton_self _)
  | _ => simp at hsettled

theorem Accounts.record_settled (h : Accounts s)
    (hends : Ends s.processor e p' effect disposition) :
    ∀ e' ∈ (s.record p' ⟨e, effect, disposition⟩).ended .ack ++
        (s.record p' ⟨e, effect, disposition⟩).ended .duplicate,
      e'.idempotencyKey ∈ p'.completedKeys := by
  intro e' he'
  rw [ended_record, ended_record] at he'
  have hold : e' ∈ s.ended .ack ++ s.ended .duplicate → e'.idempotencyKey ∈ p'.completedKeys :=
    fun hmem => hends.keys_subset (h.settled e' hmem)
  rcases List.mem_append.mp he' with hmem | hmem <;> rcases List.mem_append.mp hmem with hmem | hmem
  · exact hold (List.mem_append_left _ hmem)
  · split at hmem
    · next hack =>
      rw [List.mem_singleton.mp hmem]
      exact hends.settles (.inl hack)
    · exact absurd hmem List.not_mem_nil
  · exact hold (List.mem_append_right _ hmem)
  · split at hmem
    · next hduplicate =>
      rw [List.mem_singleton.mp hmem]
      exact hends.settles (.inr hduplicate)
    · exact absurd hmem List.not_mem_nil

/-- A call keeps the books. -/
theorem Accounts.record (h : Accounts s) (hends : Ends s.processor e p' effect disposition) :
    Accounts (s.record p' ⟨e, effect, disposition⟩) where
  ledger := by
    rw [completions_record, ← h.ledger, record_processor]
    cases hends <;> simp_all
  completedOnce := by
    rw [completions_record]
    cases hends with
    | ack hkey =>
      rw [h.ledger] at hkey
      rw [if_pos rfl]
      exact List.Nodup.append h.completedOnce (List.nodup_singleton _)
        (List.disjoint_singleton.mpr hkey)
    | deadLetter hresult =>
      rw [if_neg (by simpa using hresult), List.append_nil]
      exact h.completedOnce
    | _ => simpa using h.completedOnce
  bounded := by
    cases hends with
    | retry _ hroom =>
      show (_ ++ [_]).length ≤ _
      rw [List.length_append]
      exact hroom
    | _ => exact h.bounded
  attempts := by
    intro e' he'
    cases hends with
    | retry hattempt _ =>
      rcases List.mem_append.mp he' with hmem | hmem
      · exact h.attempts e' hmem
      · rw [List.mem_singleton.mp hmem]
        exact hattempt
    | _ => exact h.attempts e' he'
  settled := h.record_settled hends
  dead := by
    rw [ended_record, ← h.dead, record_processor]
    cases hends <;> simp
  retried := by
    rw [ended_record, List.map_append, ← h.retried, record_processor, record_taken]
    cases hends <;> simp

end Record

theorem step_again_none {s : Deliveries τ} {i : Nat} {sideEffect : τ → EffectResult}
    (h : s.taken[i]? = none) : s.step (.again i sideEffect) = s := by
  simp only [Deliveries.step, h]

theorem step_again_some {s : Deliveries τ} {i : Nat} {sideEffect : τ → EffectResult}
    {e : DeliveryEnvelope τ} (h : s.taken[i]? = some e) :
    s.step (.again i sideEffect) = s.handIn e sideEffect := by
  simp only [Deliveries.step, h]

/-- Taking an envelope keeps the books. -/
theorem Accounts.take {s : Deliveries τ} (h : Accounts s) : Accounts (s.step .take) := by
  unfold Deliveries.step BoundedDeliveryQueue.get
  cases hitems : s.processor.retryQueue.items with
  | nil =>
    refine ⟨h.ledger, h.completedOnce, h.bounded, h.attempts, h.settled, h.dead, ?_⟩
    simpa using h.retried
  | cons item items =>
    have hbounded := h.bounded
    have hattempts := h.attempts
    have hretried := h.retried
    rw [hitems] at hbounded hattempts hretried
    refine ⟨h.ledger, h.completedOnce, Nat.le_of_succ_le hbounded,
      fun e he => hattempts e (List.mem_cons_of_mem _ he), h.settled, h.dead, ?_⟩
    show s.taken ++ [item] ++ items = _
    rw [List.append_assoc]
    exact hretried

theorem Accounts.step {s : Deliveries τ} (h : Accounts s) (action : Action τ) :
    Accounts (s.step action) := by
  cases action with
  | fresh eventId key payload sideEffect => exact h.record (process_ends _ _ _)
  | take => exact h.take
  | again i sideEffect =>
    cases htaken : s.taken[i]? with
    | none =>
      rw [step_again_none htaken]
      exact h
    | some e =>
      rw [step_again_some htaken]
      exact h.record (process_ends _ _ _)

theorem Ends.settings {p p' : DeliveryProcessor τ} {e : DeliveryEnvelope τ}
    {effect : Option EffectResult} {disposition : Option DeliveryDisposition}
    (hends : Ends p e p' effect disposition) :
    p'.retryPolicy = p.retryPolicy ∧ p'.retryQueue.capacity = p.retryQueue.capacity := by
  cases hends <;> exact ⟨rfl, rfl⟩

end Delivery
