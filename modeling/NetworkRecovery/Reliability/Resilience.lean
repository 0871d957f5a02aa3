import NetworkRecovery.Lib.BoundedQueue
import NetworkRecovery.Lib.Reactive
import NetworkRecovery.Lib.SlidingWindow
import NetworkRecovery.Python.Builtins
import Mathlib.Algebra.Order.Ring.Rat
import Mathlib.Tactic.Linarith
import Mathlib.Tactic.Ring

/-!
# Circuit breaker, retries and backpressure

`platform_core/reliability/resilience.py`.

The breaker counts failures and forgets them only when a probe succeeds after
the recovery timeout: a success while it is closed takes nothing back. Still no
stretch of time as long as the timeout ever holds more failures than the
threshold (`failures_per_timeout`), however the calls fall and however often the
breaker has opened before. `Guarded` is the invariant: what the breaker counts,
against the times of ALL failures.
-/

namespace Reliability

open Python Reactive SlidingWindow

/-! ## The circuit breaker -/

inductive BreakerState where
  | closed
  | opened
  | halfOpen
  deriving DecidableEq

def BreakerState.text : BreakerState → String
  | .closed => "closed"
  | .opened => "open"
  | .halfOpen => "half_open"

structure CircuitBreaker where
  failureThreshold : Int := 5
  recoveryTimeoutSeconds : ℚ := 30
  failures : Int := 0
  openedAt : Option ℚ := none
  state : BreakerState := .closed

/-- One `call`: what the function does, and what the clock says when the breaker
is asked and when the function has raised. -/
structure BreakerCall (α : Type) where
  /-- `none` when the function raises -/
  result : Option α
  fallback : Option α := none
  asked : ℚ
  raised : ℚ

/-- What became of a call. -/
inductive Attempt where
  | refused (asked : ℚ)
  | succeeded (asked : ℚ)
  | failed (raised : ℚ)
  deriving DecidableEq

namespace CircuitBreaker

variable {α : Type}

/-- The timeout is over. An opening at 0.0 is taken for none. -/
def recovered (breaker : CircuitBreaker) (now : ℚ) : Bool :=
  match breaker.openedAt with
  | none => false
  | some t => t ≠ 0 && now - t > breaker.recoveryTimeoutSeconds

/-- The breaker after the check of its state; `none` when it does not let the
call through. -/
def pass (breaker : CircuitBreaker) (now : ℚ) : Option CircuitBreaker :=
  if breaker.state = .opened then
    if breaker.recovered now then some { breaker with state := .halfOpen } else none
  else some breaker

def onSuccess (breaker : CircuitBreaker) : CircuitBreaker :=
  if breaker.state = .halfOpen then { breaker with state := .closed, failures := 0 } else breaker

def onFailure (breaker : CircuitBreaker) (now : ℚ) : CircuitBreaker :=
  let breaker := { breaker with failures := breaker.failures + 1 }
  if breaker.failures ≥ breaker.failureThreshold then
    { breaker with state := .opened, openedAt := some now }
  else breaker

/-- `call`, with what became of it. -/
def call (breaker : CircuitBreaker) (c : BreakerCall α) :
    Option α × CircuitBreaker × Attempt :=
  match breaker.pass c.asked with
  | none => (c.fallback, breaker, .refused c.asked)
  | some breaker =>
    match c.result with
    | some result => (some result, breaker.onSuccess, .succeeded c.asked)
    | none => (c.fallback, breaker.onFailure c.raised, .failed c.raised)

/-! ### Runs -/

/-- The breaker, and the last reading of the clock. -/
structure Timed where
  breaker : CircuitBreaker
  clock : ℚ

def step (s : Timed) (c : BreakerCall α) : Timed × List Attempt :=
  let out := s.breaker.call c
  (⟨out.2.1, c.raised⟩, [out.2.2])

/-- What becomes of the calls, one after the other. -/
def attempts (breaker : CircuitBreaker) (start : ℚ) (calls : List (BreakerCall α)) :
    List Attempt :=
  (run step ⟨breaker, start⟩ calls).2

/-- The clock does not run backwards. A call has two instants, whether or not the
clock is read there. -/
def NonDecreasingClock (start : ℚ) (calls : List (BreakerCall α)) : Prop :=
  (start :: calls.flatMap fun c => [c.asked, c.raised]).Pairwise (· ≤ ·)

instance (start : ℚ) (calls : List (BreakerCall α)) : Decidable (NonDecreasingClock start calls) :=
  inferInstanceAs (Decidable (List.Pairwise _ _))

/-- The times at which the function has raised. -/
def failureTimes (history : List Attempt) : List ℚ :=
  history.filterMap fun
    | .failed raised => some raised
    | _ => none

theorem failureTimes_append (first second : List Attempt) :
    failureTimes (first ++ second) = failureTimes first ++ failureTimes second :=
  List.filterMap_append

theorem admitted_of_clock {calls : List (BreakerCall α)} {s : Timed}
    (h : NonDecreasingClock s.clock calls) :
    Admitted step (fun s c => s.clock ≤ c.asked ∧ c.asked ≤ c.raised) s calls := by
  induction calls generalizing s with
  | nil => trivial
  | cons c calls ih =>
    obtain ⟨hstart, hrest⟩ := List.pairwise_cons.mp h
    have hasked : s.clock ≤ c.asked := hstart _ (by simp)
    rw [List.flatMap_cons, List.cons_append, List.singleton_append] at hrest
    obtain ⟨hnow, hlater⟩ := List.pairwise_cons.mp hrest
    exact ⟨⟨hasked, hnow _ (by simp)⟩, ih hlater⟩

/-! ### The invariant -/

/-- What a breaker counts, against the times of all failures up to a reading of
the clock. -/
structure Guarded (threshold : Int) (timeout now : ℚ) (breaker : CircuitBreaker)
    (times : List ℚ) : Prop where
  threshold_eq : breaker.failureThreshold = threshold
  timeout_eq : breaker.recoveryTimeoutSeconds = timeout
  past : ∀ t ∈ times, t ≤ now
  bound : ∀ a, (within a timeout times).length ≤ max 1 threshold.toNat
  /-- A stretch that reaches the clock holds no failure that is forgotten. -/
  closed : breaker.state = .closed → (breaker.failures = 0 ∨ breaker.failures < threshold) ∧
    ∀ a, now ≤ a + timeout → ((within a timeout times).length : Int) ≤ breaker.failures
  opened : breaker.state = .opened → threshold ≤ breaker.failures ∧
    ∃ t, breaker.openedAt = some t ∧ t ∈ times ∧ ∀ s ∈ times, s ≤ t
  settled : breaker.state ≠ .halfOpen

variable {threshold : Int} {timeout now : ℚ} {breaker : CircuitBreaker} {times : List ℚ}

theorem guarded_new (threshold : Int) (timeout now : ℚ) :
    Guarded threshold timeout now
      { failureThreshold := threshold, recoveryTimeoutSeconds := timeout } [] where
  threshold_eq := rfl
  timeout_eq := rfl
  past := fun _ ht => absurd ht List.not_mem_nil
  bound := fun _ => Nat.zero_le _
  closed := fun _ => ⟨.inl rfl, fun _ _ => le_rfl⟩
  opened := fun h => absurd h (by simp)
  settled := by simp

theorem Guarded.later {next : ℚ} (h : Guarded threshold timeout now breaker times)
    (hle : now ≤ next) : Guarded threshold timeout next breaker times :=
  { h with
    past := fun t ht => (h.past t ht).trans hle
    closed := fun hclosed =>
      ⟨(h.closed hclosed).1, fun a ha => (h.closed hclosed).2 a (hle.trans ha)⟩ }

/-- How a call is let through. -/
theorem pass_cases {asked : ℚ} {admitted : CircuitBreaker}
    (h : breaker.pass asked = some admitted) :
    (breaker.state ≠ .opened ∧ admitted = breaker) ∨
      (breaker.state = .opened ∧ admitted = { breaker with state := .halfOpen } ∧
        ∃ t, breaker.openedAt = some t ∧ breaker.recoveryTimeoutSeconds < asked - t) := by
  unfold pass at h
  split at h
  · rename_i hopen
    split at h
    · rename_i hover
      obtain rfl := Option.some.inj h
      refine .inr ⟨hopen, rfl, ?_⟩
      unfold recovered at hover
      cases hat : breaker.openedAt with
      | none => simp [hat] at hover
      | some t =>
        rw [hat] at hover
        exact ⟨t, rfl, by simpa using (Bool.and_eq_true_iff.mp hover).2⟩
    · cases h
  · exact .inl ⟨‹_›, (Option.some.inj h).symm⟩

/-- What a failure does: it is counted, and opens the breaker that has had enough. -/
theorem onFailure_cases (breaker : CircuitBreaker) (raised : ℚ) :
    (breaker.failureThreshold ≤ breaker.failures + 1 ∧ breaker.onFailure raised =
        { breaker with failures := breaker.failures + 1, state := .opened,
                       openedAt := some raised }) ∨
      (breaker.failures + 1 < breaker.failureThreshold ∧ breaker.onFailure raised =
        { breaker with failures := breaker.failures + 1 }) := by
  by_cases h : breaker.failureThreshold ≤ breaker.failures + 1
  · exact .inl ⟨h, if_pos h⟩
  · exact .inr ⟨not_le.mp h, if_neg h⟩

/-- A stretch that begins after all failures holds none. -/
theorem within_eq_nil {a : ℚ} (h : ∀ t ∈ times, t < a) : within a timeout times = [] :=
  List.filter_eq_nil_iff.mpr fun t ht hin =>
    absurd (by simpa using hin : a ≤ t ∧ t ≤ a + timeout).1 (not_le.mpr (h t ht))

/-- One failure more. -/
theorem length_within_snoc (a t : ℚ) :
    (within a timeout (times ++ [t])).length ≤ (within a timeout times).length + 1 := by
  unfold within
  rw [List.filter_append, List.length_append]
  exact Nat.add_le_add_left (List.length_filter_le _ [t]) _

theorem within_snoc_of_lt {a t : ℚ} (h : a + timeout < t) :
    within a timeout (times ++ [t]) = within a timeout times := by
  unfold within
  rw [List.filter_append, List.filter_cons_of_neg (by simp [h]), List.filter_nil, List.append_nil]

/-- Letting a call through. The breaker is closed with what it has counted, or
half open, and then all failures have left every stretch that reaches the clock. -/
theorem Guarded.pass {asked : ℚ} {admitted : CircuitBreaker}
    (h : Guarded threshold timeout now breaker times) (hle : now ≤ asked)
    (hpass : breaker.pass asked = some admitted) :
    (admitted.state = .closed ∧ Guarded threshold timeout asked admitted times) ∨
      (admitted.state = .halfOpen ∧ admitted.failureThreshold = threshold ∧
        admitted.recoveryTimeoutSeconds = timeout ∧ threshold ≤ admitted.failures ∧
        ∀ t ∈ times, t + timeout < asked) := by
  rcases pass_cases hpass with ⟨hnot, rfl⟩ | ⟨hopen, rfl, t, hat, hover⟩
  · refine .inl ⟨?_, h.later hle⟩
    cases hstate : admitted.state with
    | closed => rfl
    | opened => exact absurd hstate hnot
    | halfOpen => exact absurd hstate h.settled
  · obtain ⟨hmany, t', hat', -, hlast⟩ := h.opened hopen
    obtain rfl : t = t' := Option.some.inj (hat.symm.trans hat')
    refine .inr ⟨rfl, h.threshold_eq, h.timeout_eq, hmany, fun s hs => ?_⟩
    have hbefore := hlast s hs
    rw [h.timeout_eq] at hover
    linarith

/-- A success, also one that closes the breaker again, keeps the invariant. -/
theorem Guarded.onSuccess {asked : ℚ} {admitted : CircuitBreaker}
    (h : Guarded threshold timeout now breaker times) (hle : now ≤ asked)
    (hpass : breaker.pass asked = some admitted) :
    Guarded threshold timeout asked admitted.onSuccess times := by
  rcases h.pass hle hpass with ⟨hclosed, hguarded⟩ | ⟨hhalf, hthreshold, htimeout, -, hgone⟩
  · have hsame : admitted.onSuccess = admitted := if_neg (by rw [hclosed]; decide)
    rwa [hsame]
  · have hreset : admitted.onSuccess = { admitted with state := .closed, failures := 0 } :=
      if_pos hhalf
    rw [hreset]
    refine ⟨hthreshold, htimeout, fun t ht => (h.past t ht).trans hle, h.bound,
      fun _ => ⟨.inl rfl, fun a ha => ?_⟩, fun hopen => absurd hopen (by simp), by simp⟩
    rw [within_eq_nil fun t ht => by have := hgone t ht; linarith]
    exact le_rfl

/-- A failure that is counted keeps the invariant. -/
theorem Guarded.onFailure {asked raised : ℚ} {admitted : CircuitBreaker}
    (h : Guarded threshold timeout now breaker times) (hle : now ≤ asked) (hraised : asked ≤ raised)
    (hpass : breaker.pass asked = some admitted) :
    Guarded threshold timeout raised (admitted.onFailure raised) (times ++ [raised]) := by
  have hpast : ∀ t ∈ times ++ [raised], t ≤ raised := by
    intro t ht
    rcases List.mem_append.mp ht with ht | ht
    · exact (h.past t ht).trans (hle.trans hraised)
    · exact (List.mem_singleton.mp ht).le
  -- what is known of the admitted breaker, closed or half open
  obtain ⟨hthreshold, htimeout, hstate, hroom, hkept⟩ :
      admitted.failureThreshold = threshold ∧ admitted.recoveryTimeoutSeconds = timeout ∧
      (admitted.state = .closed ∨ threshold ≤ admitted.failures) ∧
      (∀ a, raised ≤ a + timeout →
        (within a timeout times).length + 1 ≤ max 1 threshold.toNat) ∧
      (admitted.failures + 1 < threshold → ∀ a, raised ≤ a + timeout →
        ((within a timeout times).length : Int) ≤ admitted.failures) := by
    rcases h.pass hle hpass with ⟨hclosed, hguarded⟩ | ⟨-, hthreshold, htimeout, hmany, hgone⟩
    · obtain ⟨hfew, hcount⟩ := hguarded.closed hclosed
      refine ⟨hguarded.threshold_eq, hguarded.timeout_eq, .inl hclosed, fun a ha => ?_,
        fun _ a ha => hcount a (hraised.trans ha)⟩
      have := hcount a (hraised.trans ha)
      omega
    · refine ⟨hthreshold, htimeout, .inr hmany, fun a ha => ?_, fun hfew => by omega⟩
      rw [within_eq_nil fun t ht => by have := hgone t ht; linarith]
      exact le_max_left 1 _
  have hbound : ∀ a, (within a timeout (times ++ [raised])).length ≤ max 1 threshold.toNat := by
    intro a
    by_cases ha : raised ≤ a + timeout
    · exact (length_within_snoc a raised).trans (hroom a ha)
    · rw [within_snoc_of_lt (not_le.mp ha)]
      exact h.bound a
  rcases onFailure_cases admitted raised with ⟨hmany, heq⟩ | ⟨hfew, heq⟩
  · rw [heq]
    exact ⟨hthreshold, htimeout, hpast, hbound, fun hclosed => absurd hclosed (by simp),
      fun _ => ⟨hthreshold ▸ hmany, raised, rfl, by simp, hpast⟩, by simp⟩
  · rw [heq]
    rw [hthreshold] at hfew
    have hclosed : admitted.state = .closed := hstate.resolve_right (by omega)
    refine ⟨hthreshold, htimeout, hpast, hbound, fun _ => ⟨.inr hfew, fun a ha => ?_⟩,
      fun hopen => absurd (hclosed.symm.trans hopen) (by decide),
      fun hhalf => absurd (hclosed.symm.trans hhalf) (by decide)⟩
    have hone : (within a timeout (times ++ [raised])).length ≤ (within a timeout times).length + 1 :=
      length_within_snoc a raised
    have hold := hkept hfew a ha
    dsimp only
    omega

/-- A refusal is owed to a failure that is no further back than the timeout, or
to one at 0.0, which the breaker never gets over. -/
def Owed (timeout : ℚ) (history : List Attempt) : Attempt → Prop
  | .refused asked => ∃ t ∈ failureTimes history, asked ≤ t + timeout ∨ t = 0
  | _ => True

/-- One call. -/
theorem Guarded.step {s : Timed} {history : List Attempt} {c : BreakerCall α}
    (h : Guarded threshold timeout s.clock s.breaker (failureTimes history))
    (hasked : s.clock ≤ c.asked) (hraised : c.asked ≤ c.raised) :
    Guarded threshold timeout (step s c).1.clock (step s c).1.breaker
        (failureTimes (history ++ (step s c).2)) ∧
      Each (Owed timeout) history (step s c).2 := by
  rw [failureTimes_append]
  unfold CircuitBreaker.step call
  cases hpass : s.breaker.pass c.asked with
  | none =>
    refine ⟨?_, Each.cons ?_ (Each.nil _ _)⟩
    · exact (List.append_nil (failureTimes history)).symm ▸ h.later (hasked.trans hraised)
    · have hopen : s.breaker.state = .opened := by
        by_contra hnot
        rw [CircuitBreaker.pass, if_neg hnot] at hpass
        cases hpass
      obtain ⟨-, t, hat, hmem, -⟩ := h.opened hopen
      refine ⟨t, hmem, ?_⟩
      have hnot : s.breaker.recovered c.asked = false := by
        rw [CircuitBreaker.pass, if_pos hopen] at hpass
        by_contra hover
        rw [if_pos (Bool.not_eq_false _ ▸ hover)] at hpass
        cases hpass
      by_cases hzero : t = 0
      · exact .inr hzero
      · simp only [recovered, hat, ne_eq, hzero, not_false_eq_true, decide_true, gt_iff_lt,
          Bool.true_and, decide_eq_false_iff_not, not_lt, h.timeout_eq] at hnot
        exact .inl (by linarith)
  | some admitted =>
    cases c.result with
    | some result =>
      refine ⟨?_, Each.cons trivial (Each.nil _ _)⟩
      exact (List.append_nil (failureTimes history)).symm ▸ (h.onSuccess hasked hpass).later hraised
    | none =>
      exact ⟨h.onFailure hasked hraised hpass, Each.cons trivial (Each.nil _ _)⟩

/-- However the calls fall, no stretch of time as long as the recovery timeout
holds more failures than the threshold (or one, where the threshold is lower),
and a call is refused only within the timeout after a failure. -/
theorem failures_per_timeout (threshold : Int) (timeout start : ℚ) (calls : List (BreakerCall α))
    (h : NonDecreasingClock start calls) :
    let history := attempts { failureThreshold := threshold, recoveryTimeoutSeconds := timeout }
      start calls
    (∀ a, (within a timeout (failureTimes history)).length ≤ max 1 threshold.toNat) ∧
      ∀ pre asked post, history = pre ++ .refused asked :: post →
        ∃ t ∈ failureTimes pre, asked ≤ t + timeout ∨ t = 0 := by
  intro history
  have hstep : ∀ (s : Timed) (past : List Attempt) (c : BreakerCall α),
      Guarded threshold timeout s.clock s.breaker (failureTimes past) →
      s.clock ≤ c.asked ∧ c.asked ≤ c.raised →
      Guarded threshold timeout (step s c).1.clock (step s c).1.breaker
          (failureTimes (past ++ (step s c).2)) ∧
        Each (Owed timeout) past (step s c).2 :=
    fun s past c hinv hclock => hinv.step hclock.1 hclock.2
  have hnew : Guarded threshold timeout start _ (failureTimes []) :=
    guarded_new threshold timeout start
  obtain ⟨hend, heach⟩ := run_each hstep hnew (admitted_of_clock (s := ⟨_, start⟩) h)
  exact ⟨hend.bound, fun pre asked post hsplit => heach pre _ post hsplit⟩

/-- Two failures in a row, a refusal, and one more failure after the timeout. -/
theorem failures_per_timeout_two :
    let history := attempts { failureThreshold := 2, recoveryTimeoutSeconds := 30 } 1
      [⟨(none : Option Unit), none, 1, 1⟩, ⟨none, none, 2, 2⟩, ⟨none, none, 32, 32⟩,
        ⟨none, none, 33, 33⟩]
    (∀ a, (within a 30 (failureTimes history)).length ≤ max 1 2) ∧
      ∀ pre asked post, history = pre ++ .refused asked :: post →
        ∃ t ∈ failureTimes pre, asked ≤ t + 30 ∨ t = 0 :=
  failures_per_timeout 2 30 1 _ (by decide)

end CircuitBreaker

/-! ## Retries -/

/-- `time.sleep`, with the delay it has slept. It takes the delay in nanoseconds, which have to
fit into 64 bits. -/
def sleep (delay : ℚ) : Except PyError ℚ :=
  if delay * 10 ^ 9 < -2 ^ 63 ∨ 2 ^ 63 ≤ delay * 10 ^ 9 then .error .overflow
  else if delay < 0 then .error .value
  else .ok delay

/-- The pause after an attempt. -/
def pause (baseDelay : ℚ) (attempt : Nat) : Except PyError ℚ :=
  -- `2**attempt` has to become a float first
  if 1024 ≤ attempt then .error .overflow else sleep (baseDelay * 2 ^ attempt)

/-- What `retry_with_backoff` raises: the last exception of the function, that of a pause, or the
assertion that there is one. -/
inductive RetryError (ε : Type) where
  | assertion
  | raised (exception : ε)
  | paused (error : PyError)
  deriving DecidableEq

section Retry

variable {ε α : Type}

/-- The attempts from one on, as many as are left, with the delays slept. -/
def retryFrom (fn : Nat → Except ε α) (baseDelay : ℚ) (attempt : Nat) (lastExc : RetryError ε) :
    Nat → Except (RetryError ε) α × List ℚ
  | 0 => (.error lastExc, [])
  | left + 1 =>
    match fn attempt with
    | .ok value => (.ok value, [])
    | .error exc =>
      -- `attempt < max_attempts - 1`: there is one more to come
      if left = 0 then retryFrom fn baseDelay (attempt + 1) (.raised exc) left
      else
        match pause baseDelay attempt with
        | .error error => (.error (.paused error), [])
        | .ok delay =>
          let later := retryFrom fn baseDelay (attempt + 1) (.raised exc) left
          (later.1, delay :: later.2)

/-- `retry_with_backoff`, of a function that does `fn i` at its i-th attempt, with
the delays slept. -/
def retryWithBackoff (fn : Nat → Except ε α) (maxAttempts : Int) (baseDelay : ℚ) :
    Except (RetryError ε) α × List ℚ :=
  retryFrom fn baseDelay 0 .assertion maxAttempts.toNat

/-- The delays after so many attempts, from one on. -/
def delaysFrom (baseDelay : ℚ) (attempt count : Nat) : List ℚ :=
  (List.range' attempt count).map (baseDelay * 2 ^ ·)

theorem sum_delaysFrom (baseDelay : ℚ) (attempt count : Nat) :
    (delaysFrom baseDelay attempt count).sum = baseDelay * (2 ^ (attempt + count) - 2 ^ attempt) := by
  unfold delaysFrom
  induction count generalizing attempt with
  | zero => simp
  | succ n ih =>
    rw [List.range'_succ, List.map_cons, List.sum_cons, ih, show attempt + 1 + n =
      attempt + (n + 1) by omega]
    ring

/-- A pause that is over took its delay. -/
theorem pause_ok {baseDelay delay : ℚ} {attempt : Nat} (h : pause baseDelay attempt = .ok delay) :
    delay = baseDelay * 2 ^ attempt := by
  unfold pause sleep at h
  split at h
  · cases h
  · split at h
    · cases h
    · split at h
      · cases h
      · exact (Except.ok.inj h).symm

/-- How the attempts end with one of them: it succeeds, or it fails and is the last one, or the
pause behind it raises. -/
inductive Ends (fn : Nat → Except ε α) (baseDelay : ℚ) (attempt : Nat) (last : Prop) :
    Except (RetryError ε) α → Prop where
  | succeeded {value : α} (h : fn attempt = .ok value) : Ends fn baseDelay attempt last (.ok value)
  | failed {exc : ε} (h : fn attempt = .error exc) (hlast : last) :
      Ends fn baseDelay attempt last (.error (.raised exc))
  | paused {exc : ε} {error : PyError} (h : fn attempt = .error exc) (hmore : ¬ last)
      (hpause : pause baseDelay attempt = .error error) :
      Ends fn baseDelay attempt last (.error (.paused error))

/-- Attempts fail, and the pauses behind them are over, up to the one that the attempts end
with. -/
theorem retryFrom_spec (fn : Nat → Except ε α) (baseDelay : ℚ) (attempt : Nat)
    (lastExc : RetryError ε) (left : Nat) :
    ∃ k ≤ left,
      (∀ i < k, (fn (attempt + i)).isOk = false ∧ (pause baseDelay (attempt + i)).isOk = true) ∧
      Ends fn baseDelay (attempt + k) (k = left)
        (retryFrom fn baseDelay attempt lastExc (left + 1)).1 ∧
      (retryFrom fn baseDelay attempt lastExc (left + 1)).2 = delaysFrom baseDelay attempt k := by
  have hnone : ∀ i < 0, (fn (attempt + i)).isOk = false ∧
      (pause baseDelay (attempt + i)).isOk = true := fun i hi => absurd hi (Nat.not_lt_zero i)
  induction left generalizing attempt lastExc with
  | zero =>
    refine ⟨0, le_rfl, hnone, ?_⟩
    cases hnow : fn attempt with
    | ok value =>
      rw [retryFrom, hnow]
      exact ⟨.succeeded hnow, rfl⟩
    | error exc =>
      rw [retryFrom, hnow]
      exact ⟨.failed hnow rfl, rfl⟩
  | succ left ih =>
    cases hnow : fn attempt with
    | ok value =>
      rw [retryFrom, hnow]
      exact ⟨0, Nat.zero_le _, hnone, .succeeded hnow, rfl⟩
    | error exc =>
      rw [retryFrom, hnow]
      dsimp only
      rw [if_neg (Nat.succ_ne_zero left)]
      cases hpause : pause baseDelay attempt with
      | error error =>
        exact ⟨0, Nat.zero_le _, hnone, .paused hnow (Nat.succ_ne_zero left).symm hpause, rfl⟩
      | ok delay =>
        obtain ⟨k, hk, hbefore, hends, hslept⟩ := ih (attempt + 1) (.raised exc)
          fun i hi => absurd hi (Nat.not_lt_zero i)
        -- what holds from the next attempt on holds from this one
        refine ⟨k + 1, Nat.succ_le_succ hk, ?_, ?_, ?_⟩
        · intro i hi
          cases i with
          | zero =>
            rw [Nat.add_zero, hnow, hpause]
            exact ⟨rfl, rfl⟩
          | succ i =>
            rw [Nat.add_comm i 1, ← Nat.add_assoc]
            exact hbefore i (Nat.lt_of_succ_lt_succ hi)
        · rw [Nat.add_comm k 1, ← Nat.add_assoc, Nat.add_comm 1 k, Nat.succ_inj]
          exact hends
        · dsimp only
          rw [hslept, pause_ok hpause, delaysFrom, delaysFrom, List.range'_succ, List.map_cons]

/-- `retry_with_backoff` does what the attempt it ends with does: the first success, the last
attempt there is, or one whose pause raises. All before it have failed, and between them it has
slept `base_delay * (2 ** k - 1)` in all. -/
theorem retryWithBackoff_spec (fn : Nat → Except ε α) (maxAttempts : Int) (baseDelay : ℚ) :
    (maxAttempts ≤ 0 → retryWithBackoff fn maxAttempts baseDelay = (.error .assertion, [])) ∧
      (0 < maxAttempts → ∃ k : Nat, k < maxAttempts ∧
        (∀ i < k, (fn i).isOk = false ∧ (pause baseDelay i).isOk = true) ∧
        Ends fn baseDelay k ((k : Int) + 1 = maxAttempts)
          (retryWithBackoff fn maxAttempts baseDelay).1 ∧
        (retryWithBackoff fn maxAttempts baseDelay).2.sum = baseDelay * (2 ^ k - 1)) := by
  unfold retryWithBackoff
  constructor
  · intro hnone
    rw [Int.toNat_of_nonpos hnone]
    rfl
  · intro hsome
    obtain ⟨left, rfl⟩ : ∃ left : Nat, maxAttempts = (left + 1 : Nat) :=
      ⟨(maxAttempts - 1).toNat, by omega⟩
    obtain ⟨k, hk, hbefore, hends, hslept⟩ := retryFrom_spec fn baseDelay 0 .assertion left
    simp only [Nat.zero_add] at hbefore hends
    have hlast : ((k : Int) + 1 = (left + 1 : Nat)) = (k = left) := by
      apply propext
      omega
    rw [Int.toNat_natCast]
    refine ⟨k, by omega, hbefore, hlast ▸ hends, ?_⟩
    rw [hslept, sum_delaysFrom, Nat.zero_add, pow_zero]

end Retry

/-! ## The bounded queue -/

structure BackpressureQueue (α : Type) where
  maxSize : Int := 10000
  dropped : Nat := 0
  items : List α := []

namespace BackpressureQueue

variable {α : Type}

/-- `push`; `none` when there is nothing to drop (IndexError). -/
def push (queue : BackpressureQueue α) (item : α) : Option (BackpressureQueue α) :=
  if (queue.items.length : Int) ≥ queue.maxSize then
    match queue.items with
    | [] => none
    | _ :: rest => some { queue with items := rest ++ [item], dropped := queue.dropped + 1 }
  else some { queue with items := queue.items ++ [item] }

/-- The queue holds the last items pushed, as many as it has room for, and has
counted the others. -/
structure Holds (capacity : Nat) (queue : BackpressureQueue α) (pushed : List α) : Prop where
  room : queue.maxSize = capacity
  items : queue.items = pushed.rtake capacity
  dropped : queue.dropped + queue.items.length = pushed.length

theorem Holds.push {capacity : Nat} {queue : BackpressureQueue α} {pushed : List α}
    (h : Holds capacity queue pushed) (hpos : 0 < capacity) (item : α) :
    ∃ after, queue.push item = some after ∧ Holds capacity after (pushed ++ [item]) := by
  have hnext : (pushed ++ [item]).rtake capacity = (queue.items ++ [item]).rtake capacity := by
    rw [h.items, BoundedQueue.rtake_rtake_append]
  have hcount := h.dropped
  have hlength : (pushed ++ [item]).length = pushed.length + 1 := List.length_append
  unfold BackpressureQueue.push
  rw [h.room]
  by_cases hfull : (queue.items.length : Int) ≥ capacity
  · have hle : queue.items.length ≤ capacity := h.items ▸ BoundedQueue.length_rtake_le pushed capacity
    rw [if_pos hfull]
    cases hitems : queue.items with
    | nil =>
      rw [hitems] at hfull
      simp at hfull
      omega
    | cons oldest rest =>
      rw [hitems, List.length_cons] at hcount hle hfull
      refine ⟨_, rfl, rfl, ?_, ?_⟩
      · rw [hnext, hitems, List.rtake, List.cons_append, List.length_cons, List.length_append,
          List.length_singleton, show rest.length + 1 + 1 - capacity = 1 by omega]
        rfl
      · rw [hlength]
        simp only [List.length_append, List.length_singleton]
        omega
  · rw [if_neg hfull]
    refine ⟨_, rfl, rfl, ?_, ?_⟩
    · rw [hnext, List.rtake, List.length_append, List.length_singleton,
        show queue.items.length + 1 - capacity = 0 by omega]
      rfl
    · rw [hlength]
      simp only [List.length_append, List.length_singleton]
      omega

/-- The pushes of a run. -/
def pushAll (queue : BackpressureQueue α) (pushed : List α) : Option (BackpressureQueue α) :=
  pushed.foldlM push queue

/-- Whatever is pushed, the queue ends with the last items and the number of those
it has dropped. -/
theorem pushAll_holds {capacity : Nat} (hpos : 0 < capacity) (pushed : List α) :
    ∃ after, pushAll { maxSize := capacity } pushed = some after ∧ Holds capacity after pushed := by
  induction pushed using List.reverseRecOn with
  | nil => exact ⟨_, rfl, rfl, (List.rtake_nil (α := α) capacity).symm, rfl⟩
  | append_singleton pushed item ih =>
    obtain ⟨queue, hrun, hholds⟩ := ih
    obtain ⟨after, hpush, hafter⟩ := hholds.push hpos item
    refine ⟨after, ?_, hafter⟩
    rw [pushAll, List.foldlM_append, ← pushAll, hrun]
    simpa using hpush

end BackpressureQueue

end Reliability
