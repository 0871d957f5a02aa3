import NetworkRecovery.Lib.Streaks
import NetworkRecovery.Reliability.Resilience
import NetworkRecovery.Sre.EventStore

/-!
# Failure domains

`platform_core/sre/failure_domains.py`. Each domain has a breaker of its own,
and work in one domain may call work in another, or in the same one again.

What a breaker does is a matter of the domain's OWN calls alone: it opens with
five failures in a row, where a `DomainDegradedError` that passes through counts
neither for nor against, and from then on nothing enters the domain
(`bulkhead`). The recovery timeout plays no part: `execute_in_domain` never asks
for it, so that a breaker that has opened stays open.
-/

namespace Sre

open Python Platform Reliability Reactive Streaks

/-! ## Domains -/

/-- An exception, as `execute_in_domain` tells them apart. -/
inductive Raised where
  /-- `DomainDegradedError` -/
  | degraded (domain : FailureDomain) (message : String)
  /-- any other, by its text -/
  | other (text : String)
  deriving DecidableEq

structure DomainHealth where
  domain : FailureDomain
  state : BreakerState := .closed
  failureCount : Nat := 0
  lastFailureAt : Option ℚ := none
  degraded : Bool := false
  message : String := ""

/-- `_BREAKERS` and `_DOMAIN_HEALTH`, with the log of domain events. -/
structure Domains where
  breaker : FailureDomain → CircuitBreaker := fun _ =>
    { failureThreshold := 5, recoveryTimeoutSeconds := 60 }
  health : FailureDomain → DomainHealth := fun domain => { domain := domain }
  log : JsonlFile := .absent

def Domains.setBreaker (s : Domains) (domain : FailureDomain) (breaker : CircuitBreaker) : Domains :=
  { s with breaker := fun d => if d = domain then breaker else s.breaker d }

def Domains.setHealth (s : Domains) (domain : FailureDomain) (health : DomainHealth) : Domains :=
  { s with health := fun d => if d = domain then health else s.health d }

/-- `get_domain_health`. -/
def Domains.getDomainHealth (s : Domains) : List DomainHealth :=
  [FailureDomain.telemetryIngest, .stateMachine, .hypothesisEngine, .policyEngine, .remediation,
    .audit, .investigation].map fun domain =>
      { s.health domain with
        state := (s.breaker domain).state
        degraded := (s.breaker domain).state = .opened }

/-- The arguments of `execute_in_domain` beyond the function, and what the clock
and the event of an opening would draw. -/
structure DomainCall (α : Type) where
  domain : FailureDomain
  correlationId : String := "system"
  fallback : Option α := none
  allowDegradedReturn : Bool := false
  failedAt : ℚ := 0
  openedAt : ℚ := 0
  eventId : String := ""
  timestampUtc : String := ""

variable {α : Type}

theorem circuitPayload_wf (reason domain : String) :
    (Value.dict [("reason", .str reason), ("domain", .str domain)]).WF :=
  ⟨by simp [Dict.keys], trivial, trivial, trivial⟩

/-- What `_audit_circuit_transition` appends when a circuit opens. -/
def DomainCall.circuitOpened (call : DomainCall α) (reason : String) : AppendCall where
  aggregateId := "domain:" ++ call.domain.text
  aggregateType := .audit
  eventType := .domainCircuitOpened
  correlationId := call.correlationId
  failureDomain := some call.domain
  payload := [("reason", .str reason), ("domain", .str call.domain.text)]
  payloadWF := circuitPayload_wf reason call.domain.text
  eventId := call.eventId
  timestampUtc := call.timestampUtc

/-- The fallback where it may be returned, else the exception. -/
def DomainCall.answer (call : DomainCall α) (raised : Raised) : Except Raised α :=
  match call.allowDegradedReturn, call.fallback with
  | true, some value => .ok value
  | _, _ => .error raised

/-! ## Work -/

/-- What a function does: it returns or raises, or runs a function of its own in
a domain and goes on with what comes of it. -/
inductive Work (α : Type) where
  | finish (result : Except Raised α)
  | call (call : DomainCall α) (fn : Work α) (next : Except Raised α → Work α)

/-- What happens in a domain. -/
inductive DomainStep where
  | refused (domain : FailureDomain)
  | entered (domain : FailureDomain)
  | succeeded (domain : FailureDomain)
  | failed (domain : FailureDomain)
  /-- a `DomainDegradedError` goes through -/
  | passed (domain : FailureDomain)
  deriving DecidableEq

/-- What comes of a piece of work. -/
structure WorkOutcome (α : Type) where
  result : Except Raised α
  state : Domains
  trace : List DomainStep

/-- The circuit is open: nothing is run. -/
def refuse (call : DomainCall α) (s : Domains) : WorkOutcome α :=
  let message := "circuit open for " ++ call.domain.text
  { result := call.answer (.degraded call.domain message)
    state := s.setHealth call.domain
      { s.health call.domain with degraded := true, message := message }
    trace := [.refused call.domain] }

/-- The function has returned. -/
def Domains.succeed (s : Domains) (domain : FailureDomain) : Domains :=
  let breaker : CircuitBreaker := { s.breaker domain with failures := 0 }
  (s.setBreaker domain
      (if breaker.state = .halfOpen then { breaker with state := .closed } else breaker)).setHealth
    domain { s.health domain with failureCount := 0, degraded := false, message := "" }

/-- The function has raised, and no `DomainDegradedError`. What goes wrong with
the event of an opening is swallowed. -/
def Domains.fail (sep : Linesep) (s : Domains) (call : DomainCall α) (text : String) : Domains :=
  let health : DomainHealth := { s.health call.domain with
    failureCount := (s.health call.domain).failureCount + 1
    lastFailureAt := some call.failedAt }
  let breaker : CircuitBreaker :=
    { s.breaker call.domain with failures := (s.breaker call.domain).failures + 1 }
  if breaker.failures ≥ breaker.failureThreshold then
    let message := text.take 200 |>.toString
    let s := (s.setBreaker call.domain
      { breaker with state := .opened, openedAt := some call.openedAt }).setHealth call.domain
        { health with degraded := true, message := message }
    { s with log := (appendDomainEvent sep ⟨s.log, none⟩ (call.circuitOpened message)).2.log }
  else (s.setBreaker call.domain breaker).setHealth call.domain health

/-- What becomes of what the function has done. -/
def settle (sep : Linesep) (call : DomainCall α) (result : Except Raised α) (s : Domains) :
    WorkOutcome α :=
  match result with
  | .ok value => ⟨.ok value, s.succeed call.domain, [.succeeded call.domain]⟩
  | .error (.degraded domain message) =>
    ⟨.error (.degraded domain message), s, [.passed call.domain]⟩
  | .error (.other text) =>
    ⟨call.answer (.other text), s.fail sep call text, [.failed call.domain]⟩

/-- `execute_in_domain`, of work that calls it in turn. -/
def exec (sep : Linesep) : Work α → Domains → WorkOutcome α
  | .finish result, s => ⟨result, s, []⟩
  | .call call fn next, s =>
    if (s.breaker call.domain).state = .opened then
      let now := refuse call s
      let later := exec sep (next now.result) now.state
      ⟨later.result, later.state, now.trace ++ later.trace⟩
    else
      let inner := exec sep fn s
      let now := settle sep call inner.result inner.state
      let later := exec sep (next now.result) now.state
      ⟨later.result, later.state,
        .entered call.domain :: (inner.trace ++ (now.trace ++ later.trace))⟩

/-- The rule of runs: what a refusal, an entry and the end of a call keep, any
work keeps; and so for what they do. -/
theorem exec_keeps {sep : Linesep} {I : Domains → List DomainStep → Prop}
    {P : List DomainStep → DomainStep → Prop}
    (hrefuse : ∀ {s history} {call : DomainCall α}, I s history →
      (s.breaker call.domain).state = .opened →
      I (refuse call s).state (history ++ (refuse call s).trace) ∧
        Each P history (refuse call s).trace)
    (henter : ∀ {s history domain}, I s history → (s.breaker domain).state ≠ .opened →
      I s (history ++ [DomainStep.entered domain]) ∧ Each P history [.entered domain])
    (hsettle : ∀ {s history}, I s history → ∀ (call : DomainCall α) result,
      I (settle sep call result s).state (history ++ (settle sep call result s).trace) ∧
        Each P history (settle sep call result s).trace)
    (w : Work α) {s : Domains} {history : List DomainStep} (h : I s history) :
    I (exec sep w s).state (history ++ (exec sep w s).trace) ∧
      Each P history (exec sep w s).trace := by
  induction w generalizing s history with
  | finish result => exact ⟨(List.append_nil history).symm ▸ h, Each.nil _ _⟩
  | call call fn next ihfn ihnext =>
    by_cases hopen : (s.breaker call.domain).state = .opened
    · obtain ⟨hnow, heach⟩ := hrefuse h hopen
      obtain ⟨hend, hlater⟩ := ihnext (refuse call s).result hnow
      rw [exec, if_pos hopen]
      refine ⟨?_, heach.append hlater⟩
      rwa [List.append_assoc] at hend
    · obtain ⟨hin, heach⟩ := henter h hopen
      obtain ⟨hinner, heachInner⟩ := ihfn hin
      obtain ⟨hnow, heachNow⟩ := hsettle hinner call (exec sep fn s).result
      obtain ⟨hend, hlater⟩ := ihnext _ hnow
      rw [exec, if_neg hopen]
      refine ⟨?_, heach.append (heachInner.append (heachNow.append hlater))⟩
      simpa only [List.append_assoc, List.cons_append, List.nil_append] using hend

/-! ## What a breaker knows -/

/-- The calls of a domain that have come to an end: whether they succeeded, in
order. -/
def completions (domain : FailureDomain) (history : List DomainStep) : List Bool :=
  history.filterMap fun
    | .succeeded d => if d = domain then some true else none
    | .failed d => if d = domain then some false else none
    | _ => none

/-- Five failures in a row. -/
def Tripped (domain : FailureDomain) (history : List DomainStep) : Prop :=
  List.replicate 5 false <:+: completions domain history

instance (domain : FailureDomain) (history : List DomainStep) :
    Decidable (Tripped domain history) :=
  inferInstanceAs (Decidable (_ <:+: _))

/-- The breakers have counted the history. -/
structure Counted (s : Domains) (history : List DomainStep) : Prop where
  threshold : ∀ d, (s.breaker d).failureThreshold = 5
  failures : ∀ d, (s.breaker d).failures = streak false (completions d history)
  state : ∀ d, (s.breaker d).state = if Tripped d history then .opened else .closed

theorem completions_append (d : FailureDomain) (first second : List DomainStep) :
    completions d (first ++ second) = completions d first ++ completions d second :=
  List.filterMap_append

theorem completions_succeeded (d e : FailureDomain) (history : List DomainStep) :
    completions d (history ++ [DomainStep.succeeded e]) =
      if e = d then completions d history ++ [true] else completions d history := by
  rw [completions_append]
  by_cases h : e = d
  · simp [completions, h]
  · simp [completions, h]

theorem completions_failed (d e : FailureDomain) (history : List DomainStep) :
    completions d (history ++ [DomainStep.failed e]) =
      if e = d then completions d history ++ [false] else completions d history := by
  rw [completions_append]
  by_cases h : e = d
  · simp [completions, h]
  · simp [completions, h]

theorem counted_reset (log : JsonlFile) : Counted { log := log } [] where
  threshold := fun _ => rfl
  failures := fun _ => rfl
  state := fun d => by
    rw [if_neg]
    simp [Tripped, completions]

/-- What brings no call to an end leaves the count as it is. -/
theorem Counted.idle {s s' : Domains} {history : List DomainStep} {e : DomainStep}
    (h : Counted s history) (hbreaker : s'.breaker = s.breaker)
    (hidle : ∀ d, completions d [e] = []) : Counted s' (history ++ [e]) := by
  have hsame : ∀ d, completions d (history ++ [e]) = completions d history := fun d => by
    rw [completions_append, hidle d, List.append_nil]
  refine ⟨fun d => hbreaker ▸ h.threshold d, fun d => ?_, fun d => ?_⟩
  · rw [hbreaker, hsame d, h.failures d]
  · simp only [hbreaker, Tripped, hsame d]
    exact h.state d

/-- A success: the count of its domain starts again, and its state stays. -/
theorem Counted.succeed {s : Domains} {history : List DomainStep} (h : Counted s history)
    (domain : FailureDomain) :
    Counted (s.succeed domain) (history ++ [DomainStep.succeeded domain]) := by
  have hnot : (s.breaker domain).state ≠ .halfOpen := by
    rw [h.state domain]
    split <;> decide
  have hbreaker : ∀ d, (s.succeed domain).breaker d =
      if d = domain then { s.breaker domain with failures := 0 } else s.breaker d := fun d => by
    simp only [Domains.succeed, Domains.setHealth, Domains.setBreaker, if_neg hnot]
  refine ⟨fun d => ?_, fun d => ?_, fun d => ?_⟩
  · rw [hbreaker]
    split
    · exact h.threshold domain
    · exact h.threshold d
  · rw [hbreaker, completions_succeeded]
    by_cases hd : d = domain
    · rw [if_pos hd, if_pos hd.symm, streak_concat_of_ne _ (by decide)]
      rfl
    · rw [if_neg hd, if_neg (Ne.symm hd), h.failures d]
  · have htripped : Tripped d (history ++ [DomainStep.succeeded domain]) ↔ Tripped d history := by
      unfold Tripped
      rw [completions_succeeded]
      split
      · rw [replicate_infix_concat, streak_concat_of_ne _ (by decide)]
        simp
      · exact Iff.rfl
    simp only [htripped, hbreaker]
    split
    · rename_i hd
      rw [hd]
      exact h.state domain
    · exact h.state d

theorem breaker_fail (s : Domains) (sep : Linesep) (call : DomainCall α) (text : String)
    (d : FailureDomain) :
    (s.fail sep call text).breaker d =
      if d = call.domain then (s.breaker d).onFailure call.openedAt else s.breaker d := by
  unfold Domains.fail CircuitBreaker.onFailure Domains.setHealth Domains.setBreaker
  by_cases hd : d = call.domain
  · subst hd
    dsimp only
    split <;> simp
  · dsimp only
    split <;> simp [hd]

/-- A failure is counted, and the fifth in a row opens the breaker. -/
theorem Counted.fail {s : Domains} {history : List DomainStep} (h : Counted s history)
    (sep : Linesep) (call : DomainCall α) (text : String) :
    Counted (s.fail sep call text) (history ++ [DomainStep.failed call.domain]) := by
  -- another domain's failure changes nothing
  have hother : ∀ d, d ≠ call.domain →
      (s.fail sep call text).breaker d = s.breaker d ∧
        completions d (history ++ [DomainStep.failed call.domain]) = completions d history := by
    intro d hd
    rw [breaker_fail, completions_failed, if_neg hd, if_neg (Ne.symm hd)]
    exact ⟨rfl, rfl⟩
  have hown : (s.fail sep call text).breaker call.domain =
      (s.breaker call.domain).onFailure call.openedAt := by
    rw [breaker_fail, if_pos rfl]
  have hmore : completions call.domain (history ++ [DomainStep.failed call.domain]) =
      completions call.domain history ++ [false] := by
    rw [completions_failed, if_pos rfl]
  have hthreshold := h.threshold call.domain
  have hfailures := h.failures call.domain
  have htripped : Tripped call.domain (history ++ [DomainStep.failed call.domain]) ↔
      Tripped call.domain history ∨ 5 ≤ streak false (completions call.domain history) + 1 := by
    unfold Tripped
    rw [hmore, replicate_infix_concat, streak_concat_self]
  refine ⟨fun d => ?_, fun d => ?_, fun d => ?_⟩
  · by_cases hd : d = call.domain
    · subst hd
      rw [hown]
      rcases CircuitBreaker.onFailure_cases (s.breaker call.domain) call.openedAt with
        ⟨-, heq⟩ | ⟨-, heq⟩ <;> rw [heq] <;> exact hthreshold
    · rw [(hother d hd).1]
      exact h.threshold d
  · by_cases hd : d = call.domain
    · subst hd
      rw [hown, hmore, streak_concat_self, Nat.cast_succ, ← hfailures]
      rcases CircuitBreaker.onFailure_cases (s.breaker call.domain) call.openedAt with
        ⟨-, heq⟩ | ⟨-, heq⟩ <;> rw [heq]
    · rw [(hother d hd).1, (hother d hd).2]
      exact h.failures d
  · by_cases hd : d = call.domain
    · subst hd
      rw [hown]
      rcases CircuitBreaker.onFailure_cases (s.breaker call.domain) call.openedAt with
        ⟨hmany, heq⟩ | ⟨hfew, heq⟩
      · rw [heq, if_pos (htripped.mpr (.inr (by omega)))]
      · have hsame : Tripped call.domain (history ++ [DomainStep.failed call.domain]) ↔
            Tripped call.domain history := by
          rw [htripped, or_iff_left (by omega)]
        rw [heq]
        simp only [hsame]
        exact h.state call.domain
    · have hsame : Tripped d (history ++ [DomainStep.failed call.domain]) ↔ Tripped d history := by
        unfold Tripped
        rw [(hother d hd).2]
      rw [(hother d hd).1]
      simp only [hsame]
      exact h.state d

/-- Work enters a domain that has not tripped, and is refused where it has. -/
def Gated (history : List DomainStep) : DomainStep → Prop
  | .refused d => Tripped d history
  | .entered d => ¬ Tripped d history
  | _ => True

/-- What becomes of a call that was let in. -/
theorem Counted.settle {s : Domains} {history : List DomainStep} (h : Counted s history)
    (sep : Linesep) (call : DomainCall α) (result : Except Raised α) :
    Counted (settle sep call result s).state (history ++ (settle sep call result s).trace) ∧
      Each Gated history (settle sep call result s).trace := by
  unfold Sre.settle
  match result with
  | .ok value => exact ⟨h.succeed call.domain, Each.cons trivial (Each.nil _ _)⟩
  | .error (.degraded domain message) =>
    exact ⟨h.idle rfl fun _ => rfl, Each.cons trivial (Each.nil _ _)⟩
  | .error (.other text) => exact ⟨h.fail sep call text, Each.cons trivial (Each.nil _ _)⟩

/-- A call that is refused. -/
theorem Counted.refuse {s : Domains} {history : List DomainStep} (h : Counted s history)
    {call : DomainCall α} (hopen : (s.breaker call.domain).state = .opened) :
    Counted (refuse call s).state (history ++ (refuse call s).trace) ∧
      Each Gated history (refuse call s).trace := by
  have htripped : Tripped call.domain history := by
    have hstate := h.state call.domain
    by_contra hnot
    rw [hopen, if_neg hnot] at hstate
    cases hstate
  exact ⟨h.idle rfl fun _ => rfl, Each.cons htripped (Each.nil _ _)⟩

/-- A call that is let in. -/
theorem Counted.enter {s : Domains} {history : List DomainStep} (h : Counted s history)
    {domain : FailureDomain} (hclosed : (s.breaker domain).state ≠ .opened) :
    Counted s (history ++ [DomainStep.entered domain]) ∧ Each Gated history [.entered domain] :=
  ⟨h.idle rfl fun _ => rfl, Each.cons (fun htripped => hclosed
    ((h.state domain).trans (if_pos htripped))) (Each.nil _ _)⟩

/-- The run of any work: the breakers keep count, and what enters is gated. -/
theorem Counted.exec {sep : Linesep} (w : Work α) {s : Domains} {history : List DomainStep}
    (h : Counted s history) :
    Counted (exec sep w s).state (history ++ (exec sep w s).trace) ∧
      Each Gated history (exec sep w s).trace :=
  exec_keeps (fun hinv hopen => hinv.refuse hopen) (fun hinv hclosed => hinv.enter hclosed)
    (fun hinv call result => hinv.settle sep call result) w h

/-! ## What is written -/

/-- The log has grown by openings of domains that have tripped, and by nothing
else. -/
def Logged (old : List DomainEvent) (s : Domains) (history : List DomainStep) : Prop :=
  ∃ new, Stores s.log (old ++ new) ∧ ∀ e ∈ new, e.eventType = .domainCircuitOpened ∧
    ∃ d, e.aggregateId = "domain:" ++ d.text ∧ Tripped d history

theorem Tripped.append {d : FailureDomain} {history : List DomainStep} (h : Tripped d history)
    (later : List DomainStep) : Tripped d (history ++ later) := by
  unfold Tripped
  rw [completions_append]
  exact h.trans (List.prefix_append _ _).isInfix

variable {old : List DomainEvent}

theorem Logged.idle {s s' : Domains} {history : List DomainStep} (h : Logged old s history)
    (hlog : s'.log = s.log) (later : List DomainStep) : Logged old s' (history ++ later) := by
  obtain ⟨new, hstores, hnew⟩ := h
  refine ⟨new, hlog ▸ hstores, fun e he => ?_⟩
  obtain ⟨htype, d, haggregate, htripped⟩ := hnew e he
  exact ⟨htype, d, haggregate, htripped.append later⟩

theorem Logged.fail {s : Domains} {history : List DomainStep} (h : Logged old s history)
    (hcounted : Counted s history) (sep : Linesep) (call : DomainCall α) (text : String) :
    Logged old (s.fail sep call text) (history ++ [DomainStep.failed call.domain]) := by
  have hafter := hcounted.fail sep call text
  by_cases hmany : (s.breaker call.domain).failures + 1 ≥ (s.breaker call.domain).failureThreshold
  · -- the circuit opens, and its event is stored unless its id is taken
    have htripped : Tripped call.domain (history ++ [DomainStep.failed call.domain]) := by
      by_contra hnot
      have hstate := hafter.state call.domain
      rw [if_neg hnot, breaker_fail, if_pos rfl, CircuitBreaker.onFailure, if_pos hmany] at hstate
      cases hstate
    have hlog : (s.fail sep call text).log = (appendDomainEvent sep ⟨s.log, none⟩
        (call.circuitOpened (text.take 200).toString)).2.log := by
      unfold Domains.fail
      rw [if_pos hmany]
      rfl
    obtain ⟨new, hstores, hnew⟩ : Logged old s (history ++ [DomainStep.failed call.domain]) :=
      h.idle rfl _
    rcases appendDomainEvent_spec sep ⟨s.log, none⟩ hstores
      (call.circuitOpened (text.take 200).toString) with ⟨-, happend⟩ | ⟨-, log, hlogged, happend⟩
    · refine ⟨new, ?_, hnew⟩
      rw [hlog, happend]
      exact hstores
    · refine ⟨new ++ [_], by rw [hlog, happend, ← List.append_assoc]; exact hlogged, fun e he => ?_⟩
      rcases List.mem_append.mp he with he | he
      · exact hnew e he
      · rw [List.mem_singleton.mp he]
        exact ⟨rfl, call.domain, rfl, htripped⟩
  · refine h.idle ?_ _
    unfold Domains.fail
    rw [if_neg hmany]
    rfl

theorem Logged.settle {s : Domains} {history : List DomainStep} (h : Logged old s history)
    (hcounted : Counted s history) (sep : Linesep) (call : DomainCall α)
    (result : Except Raised α) :
    Logged old (settle sep call result s).state (history ++ (settle sep call result s).trace) := by
  unfold Sre.settle
  match result with
  | .ok value => exact h.idle rfl _
  | .error (.degraded domain message) => exact h.idle rfl _
  | .error (.other text) => exact h.fail hcounted sep call text

/-- A run writes the openings of domains that have tripped, and nothing else. -/
theorem Logged.exec {sep : Linesep} (w : Work α) {s : Domains} {history : List DomainStep}
    (h : Logged old s history) (hcounted : Counted s history) :
    Logged old (exec sep w s).state (history ++ (exec sep w s).trace) := by
  have hkeeps : (Counted (Sre.exec sep w s).state (history ++ (Sre.exec sep w s).trace) ∧
      Logged old (Sre.exec sep w s).state (history ++ (Sre.exec sep w s).trace)) ∧
      Each Gated history (Sre.exec sep w s).trace := exec_keeps (P := Gated)
    (I := fun s history => Counted s history ∧ Logged old s history)
    (fun hinv hopen => ⟨⟨(hinv.1.refuse hopen).1, hinv.2.idle rfl _⟩, (hinv.1.refuse hopen).2⟩)
    (fun hinv hclosed => ⟨⟨(hinv.1.enter hclosed).1, hinv.2.idle rfl _⟩, (hinv.1.enter hclosed).2⟩)
    (fun hinv call result => ⟨⟨(hinv.1.settle sep call result).1,
      hinv.2.settle hinv.1 sep call result⟩, (hinv.1.settle sep call result).2⟩) w
    ⟨hcounted, h⟩
  exact hkeeps.1.2

/-- Whatever work is run, with whatever calls inside it and however late: a
domain's breaker is open just when five of the domain's own calls in a row have
failed, a call is refused just when they have before it, and the log grows by
openings of such domains alone. -/
theorem bulkhead (sep : Linesep) {log : JsonlFile} {events : List DomainEvent}
    (hlog : Stores log events) (w : Work α) :
    let out := exec sep w { log := log }
    (∀ d, ((out.state.breaker d).state = .opened ↔ Tripped d out.trace) ∧
      ∀ pre post, (out.trace = pre ++ .refused d :: post → Tripped d pre) ∧
        (out.trace = pre ++ .entered d :: post → ¬ Tripped d pre)) ∧
    Logged events out.state out.trace := by
  intro out
  have hreset := counted_reset log
  obtain ⟨hend, heach⟩ : Counted out.state ([] ++ out.trace) ∧ Each Gated [] out.trace :=
    hreset.exec w
  refine ⟨fun d => ⟨?_, fun pre post => ⟨fun h => heach pre _ post h, fun h => heach pre _ post h⟩⟩,
    ?_⟩
  · rw [show (out.state.breaker d).state = _ from hend.state d, List.nil_append]
    by_cases htripped : Tripped d out.trace
    · simp [out, htripped]
    · simp [out, htripped]
  · have hempty : Logged events { log := log } [] := ⟨[], by rwa [List.append_nil], by simp⟩
    exact hempty.exec w hreset

/-- Work in one domain that fails in another, on an empty log. -/
theorem bulkhead_nested :
    let w : Work Unit := .call { domain := .investigation }
      (.call { domain := .audit } (.finish (.error (.other "disk full"))) .finish) .finish
    let out := exec .lf w { log := .absent }
    (∀ d, ((out.state.breaker d).state = .opened ↔ Tripped d out.trace) ∧
      ∀ pre post, (out.trace = pre ++ .refused d :: post → Tripped d pre) ∧
        (out.trace = pre ++ .entered d :: post → ¬ Tripped d pre)) ∧
    Logged [] out.state out.trace :=
  bulkhead .lf (show Stores .absent [] from ⟨rfl, fun _ he => absurd he List.not_mem_nil⟩) _

end Sre
