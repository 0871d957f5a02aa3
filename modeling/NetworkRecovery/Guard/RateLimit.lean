import NetworkRecovery.Guard.Round
import NetworkRecovery.Lib.SlidingWindow
import Mathlib.Data.List.Chain
import Mathlib.Tactic.Linarith

/-!
# How often the guard rolls back

The limiter is asked before a rollback and told after it, each time with a
reading of the clock. It forgets the times that have left its window when it is
asked, and what it is told comes later than what it was asked; still no closed
interval of the window's width ever holds more rollbacks than the limit, and
no two of them are closer than the cooldown (`rollbacks_limited`).

`Limited` is the invariant: what the limiter holds, against ALL the times it was
told of.
-/

namespace ProxyGuard

open Reactive SlidingWindow

/-- The clock does not run backwards. A round has two instants, whether or not
the clock is read there. -/
def NonDecreasingClock (polls : List ChangePoll) : Prop :=
  (polls.flatMap fun poll => [poll.evaluateClock, poll.recordClock]).Pairwise (· ≤ ·)

instance (polls : List ChangePoll) : Decidable (NonDecreasingClock polls) :=
  inferInstanceAs (Decidable (List.Pairwise _ _))

/-- The times the limiter is told of. -/
def recordedTimes (actions : List GuardAction) : List ℚ :=
  actions.filterMap fun
    | .recorded now => some now
    | _ => none

theorem recordedTimes_append (first second : List GuardAction) :
    recordedTimes (first ++ second) = recordedTimes first ++ recordedTimes second :=
  List.filterMap_append

/-! ## The limiter -/

/-- The window of the limiter. -/
def RollbackLimitSettings.window (settings : RollbackLimitSettings) : ℚ :=
  max 1 settings.windowSeconds

/-- What the limiter holds at a reading of the clock, against all it was told. -/
structure Limited (settings : RollbackLimitSettings) (now : ℚ) (limiter : RollbackLimiter)
    (times : List ℚ) : Prop where
  keeps : Keeps settings.window now times limiter.rollbackTimes
  cooldown : limiter.cooldownUntil = times.getLast?.map (· + max 0 settings.cooldownSeconds)
  bound : ∀ a, (within a settings.window times).length ≤ settings.maxRollbacksPerWindow.toNat
  apart : times.IsChain fun earlier later => earlier + settings.cooldownSeconds ≤ later

theorem limited_nil (settings : RollbackLimitSettings) (now : ℚ) : Limited settings now {} [] where
  keeps := keeps_nil settings.window now
  cooldown := rfl
  bound := fun _ => Nat.zero_le _
  apart := List.IsChain.nil

variable {settings : RollbackLimitSettings} {now next : ℚ} {limiter : RollbackLimiter}
  {times : List ℚ}

theorem Limited.later (h : Limited settings now limiter times) (hle : now ≤ next) :
    Limited settings next limiter times :=
  { h with keeps := h.keeps.later hle }

/-- Asking the limiter: it holds what it held, and if it does not refuse there
is room in the window and the cooldown is over. -/
theorem Limited.evaluate (h : Limited settings now limiter times) :
    Limited settings now (limiter.evaluate settings now).2 times ∧
      ((limiter.evaluate settings now).1 = none →
        (times.filter (now - settings.window ≤ ·)).length < settings.maxRollbacksPerWindow.toNat ∧
        ∀ last, times.getLast? = some last → last + max 0 settings.cooldownSeconds ≤ now) := by
  unfold RollbackLimiter.evaluate
  split
  · exact ⟨h, fun hnone => absurd hnone (by simp)⟩
  · rename_i hover
    have hcool : ∀ last, times.getLast? = some last →
        last + max 0 settings.cooldownSeconds ≤ now := by
      intro last hlast
      rw [h.cooldown, hlast, Option.map_some, Option.filter_eq_none_iff] at hover
      simpa using hover
    have hpruned : limiter.rollbackTimes.filter (now - max 1 settings.windowSeconds ≤ ·) =
        times.filter (now - settings.window ≤ ·) := h.keeps.prune
    have hstate : Limited settings now
        { limiter with rollbackTimes :=
            limiter.rollbackTimes.filter (now - max 1 settings.windowSeconds ≤ ·) } times :=
      { h with keeps := h.keeps.pruned }
    dsimp only
    split
    · exact ⟨hstate, fun hnone => absurd hnone (by simp)⟩
    · rename_i hroom
      refine ⟨hstate, fun _ => ⟨?_, hcool⟩⟩
      rw [hpruned] at hroom
      omega

/-- Telling the limiter, after it did not refuse. -/
theorem Limited.record (h : Limited settings now limiter times) (hle : now ≤ next)
    (hroom : (times.filter (now - settings.window ≤ ·)).length <
      settings.maxRollbacksPerWindow.toNat)
    (hcool : ∀ last, times.getLast? = some last → last + max 0 settings.cooldownSeconds ≤ now) :
    Limited settings next (limiter.record settings next) (times ++ [next]) where
  keeps := by
    have hwidth : 0 ≤ settings.window := zero_le_one.trans (le_max_left _ _)
    exact (h.keeps.later hle).record hwidth
  cooldown := by
    rw [List.getLast?_concat]
    rfl
  bound := within_concat_le hle h.bound hroom
  apart := by
    refine h.apart.append (List.IsChain.singleton _) fun last hlast t ht => ?_
    obtain rfl : next = t := by simpa using ht
    have hover := hcool last hlast
    have hmax := le_max_right 0 settings.cooldownSeconds
    linarith

/-! ## A round -/

section Loop

variable {lower : List Char → List Char} {cfg : GuardConfig}

variable (lower cfg) in
/-- Everything a round can do. -/
theorem guardRound_cases (st : GuardState) (poll : ChangePoll) :
    ((guardRound lower cfg st poll).2 = [] ∧
        (guardRound lower cfg st poll).1.limiter = st.limiter) ∨
      (∃ reason, (guardRound lower cfg st poll).2 = [.evaluated poll.evaluateClock (some reason)] ∧
        (guardRound lower cfg st poll).1.limiter =
          (st.limiter.evaluate cfg.rollbackLimits poll.evaluateClock).2) ∨
      (st.limiter.evaluate cfg.rollbackLimits poll.evaluateClock).1 = none ∧ ∃ target dryRun exec,
        (((guardRound lower cfg st poll).2 = [.evaluated poll.evaluateClock none,
              .executed target dryRun exec, .recorded poll.recordClock, .reread poll.reread] ∧
            (GuardAction.executed target dryRun exec).Live ∧
            (guardRound lower cfg st poll).1.limiter =
              (st.limiter.evaluate cfg.rollbackLimits poll.evaluateClock).2.record
                cfg.rollbackLimits poll.recordClock) ∨
          ((guardRound lower cfg st poll).2 = [.evaluated poll.evaluateClock none,
              .executed target dryRun exec, .reread poll.reread] ∧
            ¬ (GuardAction.executed target dryRun exec).Live ∧
            (guardRound lower cfg st poll).1.limiter =
              (st.limiter.evaluate cfg.rollbackLimits poll.evaluateClock).2)) := by
  unfold guardRound
  cases hprior : st.prior with
  | none => exact .inl ⟨rfl, rfl⟩
  | some prior =>
    dsimp only
    split
    · exact .inl ⟨rfl, rfl⟩
    · unfold changeRound
      dsimp only
      split
      · cases hanswer : st.limiter.evaluate cfg.rollbackLimits poll.evaluateClock with
        | mk refusal limiter =>
          cases refusal with
          | some reason => exact .inr (.inl ⟨reason, rfl, rfl⟩)
          | none =>
            refine .inr (.inr ⟨rfl, cfg.restoreTarget prior, !cfg.liveRollbackGate,
              poll.execute lower cfg prior, ?_⟩)
            by_cases hlive : (cfg.liveRollbackGate && !(poll.execute lower cfg prior).skipped) = true
            · refine .inl ⟨by simp [hlive], ?_, by simp [hlive]⟩
              simpa [GuardAction.Live] using hlive
            · refine .inr ⟨by simp [hlive], ?_, by simp [hlive]⟩
              simpa [GuardAction.Live] using hlive
      · exact .inl ⟨rfl, rfl⟩

variable (lower) in
/-- A round keeps what the limiter holds in step with the times it is told of. -/
theorem guardRound_limited {st : GuardState} {poll : ChangePoll}
    (h : Limited cfg.rollbackLimits now st.limiter times) (hevaluate : now ≤ poll.evaluateClock)
    (hrecord : poll.evaluateClock ≤ poll.recordClock) :
    Limited cfg.rollbackLimits poll.recordClock (guardRound lower cfg st poll).1.limiter
      (times ++ recordedTimes (guardRound lower cfg st poll).2) := by
  obtain ⟨hasked, hroom⟩ := (h.later hevaluate).evaluate
  rcases guardRound_cases lower cfg st poll with
    ⟨hactions, hlimiter⟩ | ⟨reason, hactions, hlimiter⟩ |
    ⟨hok, target, dryRun, exec, ⟨hactions, -, hlimiter⟩ | ⟨hactions, -, hlimiter⟩⟩
  · rw [hactions, hlimiter]
    simpa [recordedTimes] using h.later (hevaluate.trans hrecord)
  · rw [hactions, hlimiter]
    simpa [recordedTimes] using hasked.later hrecord
  · rw [hactions, hlimiter]
    exact hasked.record hrecord (hroom hok).1 (hroom hok).2
  · rw [hactions, hlimiter]
    simpa [recordedTimes] using hasked.later hrecord

variable (lower) in
/-- A whole run keeps it, from any reading of the clock on. -/
theorem run_limited {st : GuardState} {polls : List ChangePoll}
    (h : Limited cfg.rollbackLimits now st.limiter times)
    (hclock : (now :: polls.flatMap fun poll => [poll.evaluateClock, poll.recordClock]).Pairwise
      (· ≤ ·)) :
    ∃ stop, Limited cfg.rollbackLimits stop (run (guardRound lower cfg) st polls).1.limiter
      (times ++ recordedTimes (run (guardRound lower cfg) st polls).2) := by
  induction polls generalizing now st times with
  | nil => exact ⟨now, by simpa [run, recordedTimes] using h⟩
  | cons poll polls ih =>
    simp only [List.flatMap_cons, List.cons_append, List.nil_append] at hclock
    obtain ⟨hnow, hrest⟩ := List.pairwise_cons.mp hclock
    obtain ⟨hevaluate, hlater⟩ := List.pairwise_cons.mp hrest
    have hround := guardRound_limited lower h (hnow _ (by simp)) (hevaluate _ (by simp))
    obtain ⟨stop, hstop⟩ := ih hround hlater
    refine ⟨stop, ?_⟩
    rw [List.append_assoc, ← recordedTimes_append] at hstop
    exact hstop

/-! ## The limit -/

/-- A live rollback stands right behind an answer that admits it and right
before its record; and a record stands right behind a live rollback. -/
def AskedAndTold (pre : List GuardAction) (action : GuardAction) (post : List GuardAction) : Prop :=
  (action.Live → (∃ rest now, pre = rest ++ [.evaluated now none]) ∧
    ∃ now rest, post = .recorded now :: rest) ∧
  (∀ now, action = .recorded now → ∃ rest live, pre = rest ++ [live] ∧ live.Live)

theorem askedAndTold_mono (left pre : List GuardAction) (action : GuardAction)
    (post right : List GuardAction) (h : AskedAndTold pre action post) :
    AskedAndTold (left ++ pre) action (post ++ right) := by
  refine ⟨fun hlive => ?_, fun now hrecorded => ?_⟩
  · obtain ⟨⟨rest, now, rfl⟩, now', rest', rfl⟩ := h.1 hlive
    exact ⟨⟨left ++ rest, now, by rw [List.append_assoc]⟩, now', rest' ++ right, rfl⟩
  · obtain ⟨rest, live, rfl, hlive⟩ := h.2 now hrecorded
    exact ⟨left ++ rest, live, by rw [List.append_assoc], hlive⟩

/-- An action that is neither a live rollback nor a record. -/
theorem askedAndTold_of_other {pre post : List GuardAction} {action : GuardAction}
    (hrecorded : ∀ now, action ≠ .recorded now) (hlive : ¬ action.Live) :
    AskedAndTold pre action post :=
  ⟨fun h => absurd h hlive, fun now h => absurd h (hrecorded now)⟩

theorem guardRound_askedAndTold (st : GuardState) (poll : ChangePoll) :
    Around AskedAndTold (guardRound lower cfg st poll).2 := by
  intro pre action post hsplit
  rcases guardRound_cases lower cfg st poll with
    ⟨hactions, -⟩ | ⟨reason, hactions, -⟩ |
    ⟨-, target, dryRun, exec, ⟨hactions, hlive, -⟩ | ⟨hactions, hlive, -⟩⟩
  · rw [hactions] at hsplit
    exact absurd hsplit (by simp)
  · rw [hactions, List.cons_eq_append_iff] at hsplit
    rcases hsplit with ⟨-, hsplit⟩ | ⟨pre, -, hsplit⟩
    · obtain ⟨rfl, -⟩ := List.cons.inj hsplit
      exact askedAndTold_of_other (fun _ => by simp) (by simp [GuardAction.Live])
    · exact absurd hsplit (by simp)
  · rw [hactions, List.cons_eq_append_iff] at hsplit
    rcases hsplit with ⟨rfl, hsplit⟩ | ⟨pre, rfl, hsplit⟩
    · obtain ⟨rfl, -⟩ := List.cons.inj hsplit
      exact askedAndTold_of_other (fun _ => by simp) (by simp [GuardAction.Live])
    rw [List.cons_eq_append_iff] at hsplit
    rcases hsplit with ⟨rfl, hsplit⟩ | ⟨pre, rfl, hsplit⟩
    · obtain ⟨rfl, rfl⟩ := List.cons.inj hsplit
      refine ⟨fun _ => ⟨⟨[], poll.evaluateClock, rfl⟩, poll.recordClock, [.reread poll.reread], rfl⟩,
        fun now h => absurd h (by simp)⟩
    rw [List.cons_eq_append_iff] at hsplit
    rcases hsplit with ⟨rfl, hsplit⟩ | ⟨pre, rfl, hsplit⟩
    · obtain ⟨rfl, rfl⟩ := List.cons.inj hsplit
      exact ⟨fun h => absurd h (by simp [GuardAction.Live]),
        fun _ _ => ⟨[.evaluated poll.evaluateClock none], .executed target dryRun exec, rfl, hlive⟩⟩
    rw [List.cons_eq_append_iff] at hsplit
    rcases hsplit with ⟨rfl, hsplit⟩ | ⟨pre, rfl, hsplit⟩
    · obtain ⟨rfl, -⟩ := List.cons.inj hsplit
      exact askedAndTold_of_other (fun _ => by simp) (by simp [GuardAction.Live])
    · exact absurd hsplit (by simp)
  · rw [hactions] at hsplit
    have hmem : action ∈ [.evaluated poll.evaluateClock none, .executed target dryRun exec,
        .reread poll.reread] := by rw [hsplit]; simp
    simp only [List.mem_cons, List.not_mem_nil, or_false] at hmem
    rcases hmem with rfl | rfl | rfl
    · exact askedAndTold_of_other (fun _ => by simp) (by simp [GuardAction.Live])
    · exact askedAndTold_of_other (fun _ => by simp) hlive
    · exact askedAndTold_of_other (fun _ => by simp) (by simp [GuardAction.Live])

/-- In every run under a clock that does not run backwards: a live rollback
stands right behind an answer of the limiter that admits it and is recorded
once, right after it; no closed interval of the window's width holds more
records than the limit, of which a negative one admits none; and consecutive
ones are a cooldown apart. -/
theorem rollbacks_limited (lower : List Char → List Char) (cfg : GuardConfig)
    (polls : List ChangePoll) (hclock : NonDecreasingClock polls) :
    Around AskedAndTold (run (guardRound lower cfg) {} polls).2 ∧
      (∀ a : ℚ, ((within a (max 1 cfg.rollbackLimits.windowSeconds)
          (recordedTimes (run (guardRound lower cfg) {} polls).2)).length : Int) ≤
        max 0 cfg.rollbackLimits.maxRollbacksPerWindow) ∧
      (recordedTimes (run (guardRound lower cfg) {} polls).2).IsChain fun earlier later =>
        earlier + cfg.rollbackLimits.cooldownSeconds ≤ later := by
  refine ⟨run_around askedAndTold_mono guardRound_askedAndTold {} polls, ?_⟩
  have hstart : ∃ start : ℚ, (start :: polls.flatMap fun poll =>
      [poll.evaluateClock, poll.recordClock]).Pairwise (· ≤ ·) := by
    cases hpolls : polls.flatMap fun poll => [poll.evaluateClock, poll.recordClock] with
    | nil => exact ⟨0, List.pairwise_singleton _ _⟩
    | cons first rest =>
      rw [NonDecreasingClock, hpolls] at hclock
      refine ⟨first, List.pairwise_cons.mpr ⟨fun t ht => ?_, hclock⟩⟩
      rcases List.mem_cons.mp ht with rfl | ht
      · exact le_rfl
      · exact (List.pairwise_cons.mp hclock).1 t ht
  obtain ⟨start, hstart⟩ := hstart
  have hinit : Limited cfg.rollbackLimits start ({} : GuardState).limiter [] :=
    limited_nil cfg.rollbackLimits start
  obtain ⟨stop, hlimited⟩ := run_limited lower hinit hstart
  rw [List.nil_append] at hlimited
  refine ⟨fun a => ?_, hlimited.apart⟩
  have hbound := hlimited.bound a
  rw [RollbackLimitSettings.window] at hbound
  omega

end Loop

/-- Two PAC files, the second one when the cooldown is over. -/
def twoRollbacks : List ChangePoll :=
  [{ samplePoll {} {} 0 with }, { samplePoll (pacSnapshot "http://one.example/p.pac") {} 10 with },
    { samplePoll (pacSnapshot "http://two.example/p.pac") {} 70 with }]

/-- Both are rolled back, sixty seconds apart. -/
theorem rollbacks_limited_twice :
    recordedTimes (run (guardRound Python.lower { autoRollback := true }) {} twoRollbacks).2 =
        [10, 70] ∧
      (recordedTimes (run (guardRound Python.lower { autoRollback := true }) {} twoRollbacks).2).IsChain
        fun earlier later => earlier + 60 ≤ later := by
  refine ⟨by decide +kernel, ?_⟩
  exact (rollbacks_limited Python.lower { autoRollback := true } twoRollbacks
    (by decide +kernel)).2.2

end ProxyGuard
