import NetworkRecovery.Sre.EventStore
import NetworkRecovery.Lib.Reactive

/-!
# Several stores on one log

Each process has a `DomainEventStore` of its own on the same file. A step is one
whole call of `append_domain_event` by one of them, and a run any interleaving
of such calls.

The history keeps who called, for which aggregate, and whether an event was
stored. From it one can read what a store knows of an aggregate (`known`): what
was there when it made its first call, and what it stored itself since. The
numbers stay 1, 2, 3, … exactly as long as whoever stores an event knows of all
before it (`sequenceIntegrity_iff`).
-/

namespace Sre

open Python Platform Reactive

/-- The log, and the caches of the stores. -/
structure Writers (I : Type) where
  log : JsonlFile := .absent
  caches : I → Option Cache := fun _ => none

/-- A call, as the history keeps it. -/
structure CallRecord (I : Type) where
  caller : I
  aggregate : String
  stored : Bool
  deriving DecidableEq

section Run

variable {I : Type} [DecidableEq I]

/-- One call of `append_domain_event` by one of the stores. -/
def writersStep (sep : Linesep) (w : Writers I) (call : I × AppendCall) :
    Writers I × List (CallRecord I) :=
  let out := appendDomainEvent sep ⟨w.log, w.caches call.1⟩ call.2
  ({ log := out.2.log
     caches := fun i => if i = call.1 then out.2.cache else w.caches i },
    [⟨call.1, call.2.aggregateId, out.1.isOk⟩])

/-- Every aggregate's events carry 1, 2, …, n in the order of the file. -/
def SequenceIntegrity (events : List DomainEvent) : Prop :=
  ∀ a, sequencesOf events a = List.range' 1 (sequencesOf events a).length

/-! ## What a store knows -/

/-- An event of the aggregate was stored. -/
def CallRecord.storesFor (a : String) (r : CallRecord I) : Bool := r.stored && r.aggregate == a

/-- The calls before the store's first one. -/
def beforeFirst (history : List (CallRecord I)) (i : I) : List (CallRecord I) :=
  history.takeWhile (·.caller ≠ i)

/-- The calls from the store's first one on. -/
def sinceFirst (history : List (CallRecord I)) (i : I) : List (CallRecord I) :=
  history.dropWhile (·.caller ≠ i)

/-- How many events of an aggregate were stored. -/
def total (history : List (CallRecord I)) (a : String) : Nat := history.countP (·.storesFor a)

/-- How many of them the store knows of: those it found when it loaded, where the
empty aggregate is not counted, and its own. -/
def known (history : List (CallRecord I)) (i : I) (a : String) : Nat :=
  (if a = "" then 0 else total (beforeFirst history i) a) +
    (sinceFirst history i).countP fun r => r.storesFor a && decide (r.caller = i)

/-- The store knows of all events of the aggregate: since its first call no other
store has stored one; and of the empty aggregate, none before it either. -/
def Aware (history : List (CallRecord I)) (i : I) (a : String) : Prop :=
  (∀ r ∈ sinceFirst history i, r.storesFor a = true → r.caller = i) ∧
    (a = "" → ∀ r ∈ beforeFirst history i, r.storesFor a = false)

theorem total_eq_split (history : List (CallRecord I)) (i : I) (a : String) :
    total history a = total (beforeFirst history i) a + total (sinceFirst history i) a := by
  unfold total beforeFirst sinceFirst
  rw [← List.countP_append, List.takeWhile_append_dropWhile]

/-- Knowing of all is knowing as many as there are. -/
theorem aware_iff (history : List (CallRecord I)) (i : I) (a : String) :
    Aware history i a ↔ known history i a = total history a := by
  have hown : ((sinceFirst history i).countP fun r => r.storesFor a && decide (r.caller = i)) ≤
      total (sinceFirst history i) a := by
    refine List.countP_mono_left fun r _ hr => ?_
    exact (Bool.and_eq_true_iff.mp hr).1
  -- all that were stored are its own when they are as many
  have hall : (∀ r ∈ sinceFirst history i, r.storesFor a = true → r.caller = i) ↔
      ((sinceFirst history i).countP fun r => r.storesFor a && decide (r.caller = i)) =
        total (sinceFirst history i) a := by
    have hfilter : ((sinceFirst history i).countP fun r => r.storesFor a && decide (r.caller = i)) =
        (((sinceFirst history i).filter (·.storesFor a)).filter (·.caller = i)).length := by
      rw [List.countP_eq_length_filter, List.filter_filter]
      congr 1
      exact List.filter_congr fun r _ => Bool.and_comm _ _
    rw [hfilter, total, List.countP_eq_length_filter]
    constructor
    · intro h
      rw [List.filter_eq_self.mpr]
      intro r hr
      obtain ⟨hmem, hstores⟩ := List.mem_filter.mp hr
      exact decide_eq_true (h r hmem hstores)
    · intro h r hr hstores
      have hself := List.filter_sublist.eq_of_length h
      exact of_decide_eq_true (List.filter_eq_self.mp hself r (List.mem_filter.mpr ⟨hr, hstores⟩))
  have hsplit := total_eq_split history i a
  unfold Aware known
  by_cases ha : a = ""
  · have hnone : (∀ r ∈ beforeFirst history i, r.storesFor a = false) ↔
        total (beforeFirst history i) a = 0 := by
      unfold total
      rw [List.countP_eq_zero]
      exact forall₂_congr fun r _ => by simp
    rw [if_pos ha, hall]
    constructor
    · intro h
      have hzero := hnone.mp (h.2 ha)
      omega
    · intro h
      exact ⟨by omega, fun _ => hnone.mpr (by omega)⟩
  · rw [if_neg ha, hall]
    constructor
    · intro h
      omega
    · exact fun h => ⟨by omega, fun hempty => absurd hempty ha⟩

/-! ## One more call -/

theorem span_of_called {history : List (CallRecord I)} {i : I}
    (h : ∃ r ∈ history, r.caller = i) (later : List (CallRecord I)) :
    beforeFirst (history ++ later) i = beforeFirst history i ∧
      sinceFirst (history ++ later) i = sinceFirst history i ++ later := by
  unfold beforeFirst sinceFirst
  induction history with
  | nil => exact absurd h (by simp)
  | cons r rest ih =>
    by_cases hr : r.caller = i
    · simp [hr]
    · have hrest : ∃ r ∈ rest, r.caller = i := by
        obtain ⟨r', hr', hi⟩ := h
        rcases List.mem_cons.mp hr' with rfl | hr'
        · exact absurd hi hr
        · exact ⟨r', hr', hi⟩
      simpa [hr] using ih hrest

theorem span_of_not_called {history : List (CallRecord I)} {i : I}
    (h : ∀ r ∈ history, r.caller ≠ i) :
    beforeFirst history i = history ∧ sinceFirst history i = [] := by
  unfold beforeFirst sinceFirst
  constructor
  · exact List.takeWhile_eq_self_iff.mpr fun r hr => decide_eq_true (h r hr)
  · exact List.dropWhile_eq_nil_iff.mpr fun r hr => decide_eq_true (h r hr)

/-- A store that has made no call knows what it would find. -/
theorem known_of_not_called {history : List (CallRecord I)} {i : I}
    (h : ∀ r ∈ history, r.caller ≠ i) (a : String) :
    known history i a = if a = "" then 0 else total history a := by
  obtain ⟨hbefore, hsince⟩ := span_of_not_called h
  rw [known, hbefore, hsince, List.countP_nil, Nat.add_zero]

/-- A call of one's own adds what it stores. -/
theorem known_concat_own (history : List (CallRecord I)) (r : CallRecord I) (a : String) :
    known (history ++ [r]) r.caller a =
      known history r.caller a + if r.storesFor a then 1 else 0 := by
  by_cases h : ∃ r' ∈ history, r'.caller = r.caller
  · obtain ⟨hbefore, hsince⟩ := span_of_called h [r]
    unfold known
    rw [hbefore, hsince, List.countP_append, List.countP_singleton]
    simp [Nat.add_assoc]
  · push Not at h
    have hfirst : beforeFirst (history ++ [r]) r.caller = history ∧
        sinceFirst (history ++ [r]) r.caller = [r] := by
      unfold beforeFirst sinceFirst
      have hall : ∀ r' ∈ history, decide (r'.caller ≠ r.caller) = true :=
        fun r' hr' => decide_eq_true (h r' hr')
      rw [List.takeWhile_append_of_pos hall, List.dropWhile_append_of_pos hall]
      simp
    rw [known_of_not_called h, known, hfirst.1, hfirst.2, List.countP_singleton]
    simp

/-- A call of another store tells nothing. -/
theorem known_concat_other {history : List (CallRecord I)} {i : I}
    (hcalled : ∃ r ∈ history, r.caller = i) {r : CallRecord I} (hother : r.caller ≠ i)
    (a : String) : known (history ++ [r]) i a = known history i a := by
  obtain ⟨hbefore, hsince⟩ := span_of_called hcalled [r]
  unfold known
  rw [hbefore, hsince, List.countP_append, List.countP_singleton]
  simp [hother]

omit [DecidableEq I] in
theorem total_concat (history : List (CallRecord I)) (r : CallRecord I) (a : String) :
    total (history ++ [r]) a = total history a + if r.storesFor a then 1 else 0 := by
  rw [total, total, List.countP_append, List.countP_singleton]

/-! ## Numbers in order -/

theorem foldl_max_range' (n : Nat) : (List.range' 1 n).foldl max 0 = n := by
  induction n with
  | zero => rfl
  | succ n ih =>
    rw [List.range'_concat, List.foldl_append, ih]
    simp
    omega

theorem SequenceIntegrity.of_append {events more : List DomainEvent}
    (h : SequenceIntegrity (events ++ more)) : SequenceIntegrity events := by
  intro a
  have hall := h a
  have hsplit : sequencesOf (events ++ more) a = sequencesOf events a ++ sequencesOf more a := by
    unfold sequencesOf
    rw [List.filter_append, List.map_append]
  rw [hsplit, List.length_append, ← List.range'_append_1] at hall
  exact (List.append_inj hall (by simp)).1

/-- One more event keeps the numbers in order exactly when it carries the next
one. -/
theorem sequenceIntegrity_concat {events : List DomainEvent} (h : SequenceIntegrity events)
    (e : DomainEvent) :
    SequenceIntegrity (events ++ [e]) ↔
      e.sequence = (sequencesOf events e.aggregateId).length + 1 := by
  constructor
  · intro hall
    have hlast := hall e.aggregateId
    rw [sequencesOf_append, if_pos rfl, List.length_append, List.length_singleton,
      List.range'_concat] at hlast
    have hend := (List.append_inj' hlast rfl).2
    simp only [List.cons.injEq, and_true] at hend
    omega
  · intro hnext a
    rw [sequencesOf_append]
    by_cases ha : e.aggregateId = a
    · subst ha
      rw [if_pos rfl, List.length_append, List.length_singleton, List.range'_concat, ← h]
      simp [hnext, Nat.add_comm]
    · rw [if_neg ha, List.append_nil]
      exact h a

/-! ## Runs -/

/-- The log and the caches, against the history, as long as the numbers are in
order. -/
structure Tracks (w : Writers I) (history : List (CallRecord I)) (events : List DomainEvent) :
    Prop where
  stores : Stores w.log events
  counted : ∀ a, (sequencesOf events a).length = total history a
  integrity : SequenceIntegrity events
  unloaded : ∀ i, w.caches i = none → ∀ r ∈ history, r.caller ≠ i
  loaded : ∀ i cache, w.caches i = some cache →
    (∃ r ∈ history, r.caller = i) ∧ ∀ a, cache a = known history i a

theorem tracks_init : Tracks (I := I) {} [] [] where
  stores := ⟨rfl, fun e he => absurd he (by simp)⟩
  counted := fun _ => rfl
  integrity := fun _ => rfl
  unloaded := fun _ _ r hr => absurd hr (by simp)
  loaded := fun _ _ h => absurd h (by simp)

/-- What a store counts from is what it knows. -/
theorem Tracks.cache_eq {w : Writers I} {history : List (CallRecord I)} {events : List DomainEvent}
    (h : Tracks w history events) (i : I) (a : String) :
    ((w.caches i).getD (loadedCache events)) a = known history i a := by
  cases hcache : w.caches i with
  | some cache => exact (h.loaded i cache hcache).2 a
  | none =>
    rw [known_of_not_called (h.unloaded i hcache), Option.getD_none, loadedCache, h.integrity a,
      foldl_max_range', h.counted]

/-- A call leaves the history and the caches in step, if what it stores carries
the next number. -/
theorem Tracks.concat {w : Writers I} {history : List (CallRecord I)} {events : List DomainEvent}
    (h : Tracks w history events) {i : I} {a : String} {stored : Bool} {log : JsonlFile}
    {after : List DomainEvent} {cache : Cache} (hstores : Stores log after)
    (hcounted : ∀ b, (sequencesOf after b).length = total (history ++ [⟨i, a, stored⟩]) b)
    (hintegrity : SequenceIntegrity after)
    (hcache : ∀ b, cache b = known (history ++ [⟨i, a, stored⟩]) i b) :
    Tracks ⟨log, fun j => if j = i then some cache else w.caches j⟩ (history ++ [⟨i, a, stored⟩])
      after where
  stores := hstores
  counted := hcounted
  integrity := hintegrity
  unloaded := by
    intro j hnone r hr
    by_cases hj : j = i
    · simp [hj] at hnone
    · simp only [if_neg hj] at hnone
      rcases List.mem_append.mp hr with hr | hr
      · exact h.unloaded j hnone r hr
      · rw [List.mem_singleton.mp hr]
        exact Ne.symm hj
  loaded := by
    intro j c hsome
    by_cases hj : j = i
    · subst hj
      simp only [if_pos, Option.some.injEq] at hsome
      subst hsome
      exact ⟨⟨⟨j, a, stored⟩, by simp, rfl⟩, hcache⟩
    · simp only [if_neg hj] at hsome
      obtain ⟨hcalled, hknown⟩ := h.loaded j c hsome
      refine ⟨?_, fun b => ?_⟩
      · obtain ⟨r, hr, hcaller⟩ := hcalled
        exact ⟨r, List.mem_append_left _ hr, hcaller⟩
      · rw [known_concat_other hcalled (Ne.symm hj), hknown b]

/-- One call: nothing is stored and all stays in step; or an event is stored, and
its number is the next one exactly when the store knows of all before it. -/
theorem writersStep_spec (sep : Linesep) {w : Writers I} {history : List (CallRecord I)}
    {events : List DomainEvent} (h : Tracks w history events) (call : I × AppendCall) :
    (∃ w', writersStep sep w call = (w', [⟨call.1, call.2.aggregateId, false⟩]) ∧
        Tracks w' (history ++ [⟨call.1, call.2.aggregateId, false⟩]) events) ∨
      ∃ w' e, writersStep sep w call = (w', [⟨call.1, call.2.aggregateId, true⟩]) ∧
        Stores w'.log (events ++ [e]) ∧
        (SequenceIntegrity (events ++ [e]) ↔ Aware history call.1 call.2.aggregateId) ∧
        (SequenceIntegrity (events ++ [e]) →
          Tracks w' (history ++ [⟨call.1, call.2.aggregateId, true⟩]) (events ++ [e])) := by
  obtain ⟨i, call⟩ := call
  have hcache := h.cache_eq i
  have hspec := appendDomainEvent_spec sep ⟨w.log, w.caches i⟩ h.stores call
  dsimp only at hspec
  generalize (w.caches i).getD (loadedCache events) = cache at hspec hcache
  rcases hspec with ⟨-, hout⟩ | ⟨-, log, hstores, hout⟩
  · refine .inl ⟨⟨w.log, fun j => if j = i then some cache else w.caches j⟩, ?_, ?_⟩
    · rw [writersStep, hout]
      rfl
    · refine h.concat h.stores (fun b => ?_) h.integrity fun b => ?_
      · rw [total_concat, h.counted]
        rfl
      · rw [known_concat_own history ⟨i, call.aggregateId, false⟩, hcache]
        rfl
  · refine .inr ⟨⟨log, fun j =>
      if j = i then some (cache.set call.aggregateId (cache call.aggregateId + 1)) else w.caches j⟩,
      call.event (cache call.aggregateId + 1), ?_, hstores, ?_, fun hintegrity => ?_⟩
    · rw [writersStep, hout]
      rfl
    · rw [sequenceIntegrity_concat h.integrity, aware_iff, ← hcache]
      have hcount := h.counted call.aggregateId
      simp only [AppendCall.event]
      omega
    · have hother : ∀ b, CallRecord.storesFor b ⟨i, call.aggregateId, true⟩ =
          decide (call.aggregateId = b) := fun b => by
        simp [CallRecord.storesFor, beq_eq_decide]
      refine h.concat hstores (fun b => ?_) hintegrity fun b => ?_
      · rw [sequencesOf_append, List.length_append, h.counted, total_concat, hother]
        by_cases hb : call.aggregateId = b
        · simp [AppendCall.event, hb]
        · simp [AppendCall.event, hb]
      · rw [known_concat_own history ⟨i, call.aggregateId, true⟩, hother, ← hcache]
        unfold Cache.set
        by_cases hb : b = call.aggregateId
        · simp [hb]
        · simp [hb, Ne.symm hb]

/-- The log only grows. -/
theorem run_stores (sep : Linesep) {w : Writers I} {events : List DomainEvent}
    (h : Stores w.log events) (calls : List (I × AppendCall)) :
    ∃ more, Stores (run (writersStep sep) w calls).1.log (events ++ more) := by
  induction calls generalizing w events with
  | nil => exact ⟨[], by simpa [run] using h⟩
  | cons call calls ih =>
    have hstep : ∃ more, Stores (writersStep sep w call).1.log (events ++ more) := by
      rcases appendDomainEvent_spec sep ⟨w.log, w.caches call.1⟩ h call.2 with
        ⟨-, hout⟩ | ⟨-, log, hstores, hout⟩
      · refine ⟨[], ?_⟩
        rw [List.append_nil, writersStep, hout]
        exact h
      · have hlog : (writersStep sep w call).1.log = log := by rw [writersStep, hout]
        rw [← hlog] at hstores
        exact ⟨_, hstores⟩
    obtain ⟨more, hmore⟩ := hstep
    obtain ⟨later, hlater⟩ := ih hmore
    rw [List.append_assoc] at hlater
    exact ⟨more ++ later, hlater⟩

/-- Whoever stores an event knows of all before it. -/
def StoresAware (history : List (CallRecord I)) (r : CallRecord I) : Prop :=
  r.stored = true → Aware history r.caller r.aggregate

/-- From a state that is in step: the numbers stay in order exactly when every
event that is stored is stored by a store that knows of all before it. -/
theorem run_integrity_iff (sep : Linesep) {w : Writers I} {history : List (CallRecord I)}
    {events : List DomainEvent} (h : Tracks w history events) (calls : List (I × AppendCall)) :
    SequenceIntegrity (storedEvents (run (writersStep sep) w calls).1.log) ↔
      Each StoresAware history (run (writersStep sep) w calls).2 := by
  induction calls generalizing w history events with
  | nil =>
    refine ⟨fun _ => Each.nil _ _, fun _ => ?_⟩
    show SequenceIntegrity (storedEvents w.log)
    rw [h.stores.storedEvents_eq]
    exact h.integrity
  | cons call calls ih =>
    show SequenceIntegrity (storedEvents (run (writersStep sep) (writersStep sep w call).1 calls).1.log)
      ↔ Each StoresAware history
        ((writersStep sep w call).2 ++ (run (writersStep sep) (writersStep sep w call).1 calls).2)
    rcases writersStep_spec sep h call with
      ⟨w', hstep, htracks⟩ | ⟨w', e, hstep, hstores, haware, htracks⟩
    · rw [hstep, List.singleton_append, each_cons_iff, ih htracks]
      exact ⟨fun hrest => ⟨fun hstored => absurd hstored (by simp), hrest⟩, fun hboth => hboth.2⟩
    · rw [hstep, List.singleton_append, each_cons_iff]
      by_cases hnext : SequenceIntegrity (events ++ [e])
      · rw [ih (htracks hnext)]
        exact ⟨fun hrest => ⟨fun _ => haware.mp hnext, hrest⟩, fun hboth => hboth.2⟩
      · -- an order once lost is not regained
        constructor
        · intro hfinal
          obtain ⟨more, hmore⟩ := run_stores sep hstores calls
          rw [hmore.storedEvents_eq] at hfinal
          exact absurd hfinal.of_append hnext
        · exact fun hboth => absurd (haware.mpr (hboth.1 rfl)) hnext

/-- For any number of stores on one log and any interleaving of their calls: the
events of every aggregate carry 1, 2, …, n in the order of the file exactly
when no event is stored by a store behind whose back another one has stored an
event of the same aggregate. -/
theorem sequenceIntegrity_iff (sep : Linesep) (calls : List (I × AppendCall)) :
    SequenceIntegrity (storedEvents (run (writersStep sep) {} calls).1.log) ↔
      ∀ earlier r later, (run (writersStep sep) {} calls).2 = earlier ++ r :: later →
        r.stored = true → Aware earlier r.caller r.aggregate := by
  rw [run_integrity_iff sep tracks_init calls]
  constructor
  · intro h earlier r later hsplit hstored
    have := h earlier r later hsplit hstored
    rwa [List.nil_append] at this
  · intro h earlier r later hsplit hstored
    rw [List.nil_append]
    exact h earlier r later hsplit hstored

end Run

/-- Two stores append to one incident by turns. -/
def byTurns : List (Bool × AppendCall) :=
  [(false, { aggregateId := "inc", eventType := .incidentDetected, eventId := "devt-1" }),
    (true, { aggregateId := "inc", eventType := .incidentAcknowledged, eventId := "devt-2" }),
    (false, { aggregateId := "inc", eventType := .incidentResolved, eventId := "devt-3" })]

/-- The numbers are 1, 2 and 2. -/
theorem byTurns_duplicate :
    ¬ ∀ (I : Type) (_ : DecidableEq I) (sep : Linesep) (calls : List (I × AppendCall)),
      SequenceIntegrity (storedEvents (run (writersStep sep) {} calls).1.log) := by
  intro h
  have heach := (run_integrity_iff .lf tracks_init byTurns).mp (h Bool inferInstance .lf byTurns)
  have hrun : (run (writersStep .lf) {} byTurns).2 =
      [⟨false, "inc", true⟩, ⟨true, "inc", true⟩, ⟨false, "inc", true⟩] := by decide +kernel
  have haware := heach [⟨false, "inc", true⟩, ⟨true, "inc", true⟩] ⟨false, "inc", true⟩ [] hrun rfl
  exact absurd (haware.1 ⟨true, "inc", true⟩ (by decide) (by decide)) (by decide)

end Sre
