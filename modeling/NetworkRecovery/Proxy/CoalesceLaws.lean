import NetworkRecovery.Proxy.Coalesce

/-!
# What coalescing keeps

Two laws of `coalesce_proxy_events`. The buffer, fed with events in the order of
their times, puts out what the function makes of all of them at once
(`stream_eq_coalesceProxyEvents`): what it holds is always a batch, and a batch is
cut into itself. And the output conserves the input
(`coalesceProxyEvents_conserves`): the batches are the sorted events in order, the
counts add up, and a chain of states stays one.
-/

namespace StateMachine

open Python Batching

variable (fromIso : String → Option ℚ)

/-! ## Along the way -/

theorem timestampText_of_time {ev : Dict} {t : ℚ} (h : eventTime fromIso ev = some t) :
    timestampText ev ≠ "" := by
  intro hempty
  unfold eventTime parseTs at h
  rw [hempty] at h
  cases h

/-- An event with a time says when it was. -/
theorem orElse_timestamp {ev : Dict} {t : ℚ} (h : eventTime fromIso ev = some t) (v : Value) :
    (orElse (ev.get? "timestamp_utc") v).toText = timestampText ev := by
  have hne := timestampText_of_time fromIso h
  unfold timestampText orElse at hne ⊢
  cases hget : ev.get? "timestamp_utc" with
  | none => exact absurd (by rw [hget]; rfl) hne
  | some w =>
    rw [hget] at hne
    dsimp only at hne ⊢
    split
    · rfl
    · next hfalsy => exact absurd (by rw [if_neg hfalsy]; rfl) hne

/-- A batch whose last event has a time does not read the clock. -/
theorem emitBatch_clock (coalesceWindowMs : Int) {batch : List Dict} {last : Dict} {t : ℚ}
    (hlast : batch.getLast? = some last) (ht : eventTime fromIso last = some t) (utc utc' : String) :
    emitBatch utc coalesceWindowMs batch = emitBatch utc' coalesceWindowMs batch := by
  have hlastD : batch.getLastD [] = last := by rw [List.getLastD_eq_getLast?, hlast]; rfl
  have hempty : (timestampText last).isEmpty = false := by
    simpa using timestampText_of_time fromIso ht
  unfold emitBatch
  split
  · rfl
  · simp only [mergedArgs, hlastD, orElse_timestamp fromIso ht, buildProxyEvidenceEvent, hempty,
      Bool.false_eq_true, if_false]

theorem emitAll_clock (coalesceWindowMs : Int) {bs : List (List Dict)}
    (h : ∀ b ∈ bs, ∃ last t, b.getLast? = some last ∧ eventTime fromIso last = some t)
    (utc utc' : Nat → String) (i j : Nat) :
    emitAll utc coalesceWindowMs i bs = emitAll utc' coalesceWindowMs j bs := by
  induction bs generalizing i j with
  | nil => rfl
  | cons b bs ih =>
    obtain ⟨last, t, hlast, ht⟩ := h b (by simp)
    unfold emitAll
    rw [emitBatch_clock fromIso coalesceWindowMs hlast ht (utc i) (utc' j),
      ih (fun b' hb' => h b' (List.mem_cons_of_mem _ hb')) (i + 1) (j + 1)]

/-- Events in the order of their times, each of which is there and not zero. -/
structure InOrder (events : List Dict) : Prop where
  timed : ∀ ev ∈ events, ∃ t, eventTime fromIso ev = some t ∧ t ≠ 0
  sorted : events.Pairwise fun a b => sortKey fromIso a ≤ sortKey fromIso b

variable {fromIso}

theorem InOrder.sublist {events events' : List Dict} (h : InOrder fromIso events)
    (hsub : events'.Sublist events) : InOrder fromIso events' :=
  ⟨fun ev hev => h.timed ev (hsub.subset hev), h.sorted.sublist hsub⟩

/-- In order, `coalesce_proxy_events` need not sort. -/
theorem InOrder.coalesceProxyEvents_eq {events : List Dict} (h : InOrder fromIso events)
    (coalesceWindowMs : Int) (utc : Nat → String) :
    coalesceProxyEvents fromIso utc events coalesceWindowMs =
      emitAll utc coalesceWindowMs 0 (batches (near fromIso coalesceWindowMs) events) := by
  unfold coalesceProxyEvents sortByTime
  rw [h.sorted.insertionSort_eq, cutBatches_eq]

theorem InOrder.timeOrNow_eq {events : List Dict} (h : InOrder fromIso events) {ev : Dict}
    (hev : ev ∈ events) (now : ℚ) : some (timeOrNow fromIso ev now) = eventTime fromIso ev := by
  obtain ⟨t, ht, hne⟩ := h.timed ev hev
  unfold timeOrNow
  rw [ht]
  simp [hne]

/-- Every batch ends with an event that has a time. -/
theorem InOrder.stamped (bs : List (List Dict)) (h : InOrder fromIso bs.flatten)
    (hne : ∀ b ∈ bs, b ≠ []) :
    ∀ b ∈ bs, ∃ last t, b.getLast? = some last ∧ eventTime fromIso last = some t := by
  intro b hb
  have hlast := List.getLast?_eq_some_getLast (hne b hb)
  obtain ⟨t, ht, -⟩ := h.timed (b.getLast (hne b hb))
    (List.mem_flatten.mpr ⟨b, hb, List.getLast_mem _⟩)
  exact ⟨_, t, hlast, ht⟩

/-- A batch is cut into itself. -/
theorem coalesceProxyEvents_batch {first : Dict} {rest : List Dict} {coalesceWindowMs : Int}
    (hnear : ∀ ev ∈ rest, near fromIso coalesceWindowMs first ev = true)
    (horder : InOrder fromIso (first :: rest)) (utc utc' : Nat → String) :
    coalesceProxyEvents fromIso utc (first :: rest) coalesceWindowMs =
      (emitBatch (utc' 0) coalesceWindowMs (first :: rest)).map ([·]) := by
  have hanchored : Anchored (near fromIso coalesceWindowMs) [first :: rest] := by
    refine ⟨fun b hb => ⟨first, rest, List.mem_singleton.mp hb, hnear⟩, List.isChain_singleton _⟩
  have hcut := batches_flatten hanchored
  rw [List.flatten_singleton] at hcut
  obtain ⟨last, t, hlast, ht⟩ := InOrder.stamped [first :: rest] (by simpa using horder)
    (by simp) (first :: rest) (by simp)
  rw [horder.coalesceProxyEvents_eq, hcut, emitAll, emitAll,
    emitBatch_clock fromIso coalesceWindowMs hlast ht (utc 0) (utc' 0)]
  cases emitBatch (utc' 0) coalesceWindowMs (first :: rest) with
  | error e => rfl
  | ok ev => rfl

/-- In order, what is put out from an event on does not depend on the clock. -/
theorem InOrder.emitAll_batchesFrom {event : Dict} {events : List Dict}
    (h : InOrder fromIso (event :: events)) (coalesceWindowMs : Int) (utc : Nat → String)
    (i j : Nat) :
    emitAll utc coalesceWindowMs i
        (batchesFrom (near fromIso coalesceWindowMs) event [event] events) =
      emitAll utc coalesceWindowMs j
        (batchesFrom (near fromIso coalesceWindowMs) event [event] events) := by
  have hanchored : Anchored (near fromIso coalesceWindowMs)
      (batchesFrom (near fromIso coalesceWindowMs) event [event] events) :=
    anchored_batchesFrom event (fun ev hev => absurd hev List.not_mem_nil) events
  have hstamped := InOrder.stamped
    (batchesFrom (near fromIso coalesceWindowMs) event [event] events)
    (by rwa [flatten_batchesFrom]) fun b hb => (hanchored.batch b hb).ne_nil
  exact emitAll_clock fromIso coalesceWindowMs hstamped utc utc i j

section

variable {coalesceWindowMs : Int} {first event : Dict} {rest : List Dict} {reading : Reading}
variable {events : List (Dict × Reading)} {utc : Nat → String}

/-- An event within the window joins the batch. -/
theorem stream_joins (hin : near fromIso coalesceWindowMs first event = true)
    (htime : some (timeOrNow fromIso event reading.now) = eventTime fromIso event) :
    CoalescingBuffer.stream fromIso ⟨coalesceWindowMs, first :: rest, eventTime fromIso first⟩ utc
        ((event, reading) :: events) =
      CoalescingBuffer.stream fromIso
        ⟨coalesceWindowMs, first :: (rest ++ [event]), eventTime fromIso first⟩ utc events := by
  have hin' : inWindow coalesceWindowMs (eventTime fromIso first) (eventTime fromIso event) = true :=
    hin
  rw [CoalescingBuffer.stream, CoalescingBuffer.add]
  simp only [List.isEmpty_cons, Bool.false_eq_true, if_false, htime]
  rw [if_pos hin']
  simp only [bind, Except.bind, List.nil_append, List.cons_append]
  cases CoalescingBuffer.stream fromIso
    ⟨coalesceWindowMs, first :: (rest ++ [event]), eventTime fromIso first⟩ utc events with
  | error e => rfl
  | ok evs => rfl

/-- An event outside the window puts the batch out and opens the next one. -/
theorem stream_cuts (hin : near fromIso coalesceWindowMs first event = false)
    (htime : some (timeOrNow fromIso event reading.now) = eventTime fromIso event)
    {out : Except PyError Dict}
    (hout : coalesceProxyEvents fromIso reading.utc (first :: rest) coalesceWindowMs =
      out.map ([·])) :
    CoalescingBuffer.stream fromIso ⟨coalesceWindowMs, first :: rest, eventTime fromIso first⟩ utc
        ((event, reading) :: events) = do
      let ev ← out
      let evs ← CoalescingBuffer.stream fromIso
        ⟨coalesceWindowMs, [event], eventTime fromIso event⟩ utc events
      return ev :: evs := by
  have hin' : ¬ inWindow coalesceWindowMs (eventTime fromIso first) (eventTime fromIso event) =
      true := by
    rw [Bool.not_eq_true]
    exact hin
  rw [CoalescingBuffer.stream, CoalescingBuffer.add]
  simp only [List.isEmpty_cons, Bool.false_eq_true, if_false, htime]
  rw [if_neg hin', hout]
  cases out with
  | error e => rfl
  | ok ev => rfl

end

/-- The buffer from inside a batch: it puts out the batch it holds and the
batches that follow. -/
theorem stream_eq_emitAll (utc utc' : Nat → String) (coalesceWindowMs : Int)
    (events : List (Dict × Reading)) :
    ∀ (first : Dict) (rest : List Dict),
      (∀ ev ∈ rest, near fromIso coalesceWindowMs first ev = true) →
      InOrder fromIso ((first :: rest) ++ events.map Prod.fst) →
      CoalescingBuffer.stream fromIso
          ⟨coalesceWindowMs, first :: rest, eventTime fromIso first⟩ utc events =
        emitAll utc' coalesceWindowMs 0 (batchesFrom (near fromIso coalesceWindowMs) first
          (first :: rest) (events.map Prod.fst)) := by
  induction events with
  | nil =>
    intro first rest hnear horder
    rw [List.map_nil, List.append_nil] at horder
    rw [CoalescingBuffer.stream, CoalescingBuffer.flush, if_neg (by simp),
      coalesceProxyEvents_batch hnear horder utc utc', List.map_nil, batchesFrom, emitAll, emitAll]
    cases emitBatch (utc' 0) coalesceWindowMs (first :: rest) with
    | error e => rfl
    | ok ev => rfl
  | cons entry events ih =>
    intro first rest hnear horder
    obtain ⟨event, reading⟩ := entry
    have htime : some (timeOrNow fromIso event reading.now) = eventTime fromIso event :=
      horder.timeOrNow_eq (by simp) _
    rw [List.map_cons, batchesFrom]
    cases hin : near fromIso coalesceWindowMs first event with
    | true =>
      have hnear' : ∀ ev ∈ rest ++ [event], near fromIso coalesceWindowMs first ev = true := by
        intro ev hev
        rcases List.mem_append.mp hev with hev | hev
        · exact hnear ev hev
        · rwa [List.mem_singleton.mp hev]
      rw [stream_joins hin htime, if_pos rfl, List.cons_append]
      exact ih first (rest ++ [event]) hnear' (by simpa using horder)
    | false =>
      have hbatch : InOrder fromIso (first :: rest) := horder.sublist (List.sublist_append_left _ _)
      have hopened : InOrder fromIso (event :: events.map Prod.fst) :=
        horder.sublist (List.sublist_append_right _ _)
      have hout := coalesceProxyEvents_batch hnear hbatch reading.utc utc'
      rw [stream_cuts hin htime hout, if_neg (by decide), emitAll,
        ih event [] (fun ev hev => absurd hev (by simp)) hopened,
        hopened.emitAll_batchesFrom coalesceWindowMs utc' 0 (0 + 1)]

/-- The buffer, fed with events in the order of their times and flushed, puts out
what `coalesce_proxy_events` makes of all of them. -/
theorem stream_eq_coalesceProxyEvents (coalesceWindowMs : Int) (events : List (Dict × Reading))
    (h : InOrder fromIso (events.map Prod.fst)) (utc utc' : Nat → String) :
    CoalescingBuffer.stream fromIso { coalesceWindowMs := coalesceWindowMs } utc events =
      coalesceProxyEvents fromIso utc' (events.map Prod.fst) coalesceWindowMs := by
  rw [h.coalesceProxyEvents_eq]
  cases events with
  | nil => rfl
  | cons entry events =>
    obtain ⟨event, reading⟩ := entry
    have htime : some (timeOrNow fromIso event reading.now) = eventTime fromIso event :=
      h.timeOrNow_eq (by simp) _
    have hrest := stream_eq_emitAll utc utc' coalesceWindowMs events event []
      (fun ev hev => absurd hev (by simp)) h
    rw [CoalescingBuffer.stream, CoalescingBuffer.add, List.map_cons, batches, ← hrest]
    simp only [List.isEmpty_nil, if_true, htime, bind, Except.bind, List.nil_append]
    cases CoalescingBuffer.stream fromIso ⟨coalesceWindowMs, [event], eventTime fromIso event⟩ utc
      events with
    | error e => rfl
    | ok evs => rfl

/-- The times of the first seconds of a year. -/
def newYear (iso : String) : Option ℚ :=
  if iso.toList.take 17 = "2026-01-01T00:00:".toList ∧ iso.toList.drop 19 = "+00:00".toList then
    match iso.toList.drop 17 with
    | a :: b :: _ => some (1767225600 + (10 * (a.toNat - '0'.toNat) + (b.toNat - '0'.toNat) : Nat))
    | _ => none
  else none

/-- A change at a given time, from one server to another. -/
def changeAt (stamp before after : String) : Dict :=
  [("timestamp_utc", .str stamp), ("before", .dict [("ProxyServer", .str before)]),
    ("after", .dict [("ProxyServer", .str after)])]

/-- Two changes within a second of each other, and one later. -/
def threeChanges : List Dict :=
  [changeAt "2026-01-01T00:00:00Z" "a" "b", changeAt "2026-01-01T00:00:01Z" "b" "c",
    changeAt "2026-01-01T00:00:03Z" "c" "d"]

theorem threeChanges_inOrder : InOrder newYear threeChanges where
  timed := by
    have hall : ∀ ev ∈ threeChanges, (eventTime newYear ev).any (· ≠ 0) = true := by decide +kernel
    intro ev hev
    obtain ⟨t, ht, hne⟩ := (Option.any_eq_true _ _).mp (hall ev hev)
    exact ⟨t, ht, of_decide_eq_true hne⟩
  sorted := by decide +kernel

theorem stream_eq_coalesceProxyEvents_threeChanges :
    CoalescingBuffer.stream newYear { coalesceWindowMs := 1000 } (fun _ => "")
        (threeChanges.map fun ev => (ev, ⟨0, fun _ => ""⟩)) =
      coalesceProxyEvents newYear (fun _ => "") threeChanges 1000 :=
  stream_eq_coalesceProxyEvents 1000 (threeChanges.map fun ev => (ev, ⟨0, fun _ => ""⟩))
    threeChanges_inOrder _ _

/-! ## Conservation -/

/-- `raw_sub_event_count`. -/
def rawSubEventCount (ev : Dict) : Int :=
  match ev.get? "raw_sub_event_count" with
  | some (.int n) => n
  | _ => 0

/-- What an output event says was before: a merged one under `before`, a single
one as any event does. -/
def readBefore (ev : Dict) : Value :=
  if 1 < rawSubEventCount ev then (ev.get? "before").getD .none else beforeOf ev

/-- What an output event says was after. -/
def readAfter (ev : Dict) : Value :=
  if 1 < rawSubEventCount ev then (ev.get? "after").getD .none else afterOf ev

/-- The output event of a batch. -/
structure Represents (batch : List Dict) (ev : Dict) : Prop where
  count : rawSubEventCount ev = batch.length
  before : ∀ first ∈ batch.head?, readBefore ev = beforeOf first
  after : ∀ last ∈ batch.getLast?, readAfter ev = afterOf last

theorem get?_setDefault_of_ne {d : Dict} {k k' : String} (v : Value) (h : k ≠ k') :
    (setDefault d k v).get? k' = d.get? k' := by
  unfold setDefault
  split
  · rfl
  · exact Dict.get?_set_of_ne v h

theorem emitSingle_get? {ev : Dict} (coalesceWindowMs : Int) {key : String}
    (h : key ∉ ["coalesced", "coalesce_window_ms", "raw_sub_event_count"]) :
    (emitSingle coalesceWindowMs ev).get? key = ev.get? key := by
  simp only [List.mem_cons, List.not_mem_nil, or_false, not_or] at h
  unfold emitSingle
  rw [get?_setDefault_of_ne _ (Ne.symm h.2.2), get?_setDefault_of_ne _ (Ne.symm h.2.1),
    get?_setDefault_of_ne _ (Ne.symm h.1)]

theorem represents_emitSingle (coalesceWindowMs : Int) {ev : Dict}
    (hraw : ev.get? "raw_sub_event_count" = none) :
    Represents [ev] (emitSingle coalesceWindowMs ev) := by
  have hcount : (emitSingle coalesceWindowMs ev).get? "raw_sub_event_count" = some (.int 1) := by
    have hnone : (setDefault (setDefault ev "coalesced" (.bool false)) "coalesce_window_ms"
        (.int coalesceWindowMs)).get? "raw_sub_event_count" = none := by
      rw [get?_setDefault_of_ne _ (by decide), get?_setDefault_of_ne _ (by decide), hraw]
    unfold emitSingle
    generalize setDefault (setDefault ev "coalesced" (.bool false)) "coalesce_window_ms"
      (.int coalesceWindowMs) = d at hnone
    unfold setDefault
    rw [hnone]
    exact Dict.get?_set_self _ _ _
  have hone : rawSubEventCount (emitSingle coalesceWindowMs ev) = 1 := by
    unfold rawSubEventCount
    rw [hcount]
  refine ⟨hone, fun first hfirst => ?_, fun last hlast => ?_⟩
  · obtain rfl := Option.some.inj hfirst
    unfold readBefore beforeOf
    rw [hone, if_neg (by decide), emitSingle_get? _ (by decide), emitSingle_get? _ (by decide),
      emitSingle_get? _ (by decide)]
  · rw [List.getLast?_singleton] at hlast
    obtain rfl := Option.some.inj hlast
    unfold readAfter afterOf
    rw [hone, if_neg (by decide), emitSingle_get? _ (by decide), emitSingle_get? _ (by decide),
      emitSingle_get? _ (by decide)]

theorem eq_dict_of_dictOf {v : Value} {entries : Dict} (h : dictOf v = .ok entries) :
    v = .dict entries := by
  unfold dictOf at h
  split at h
  · rw [Except.ok.inj h]
  · cases h
  · cases h

/-- The count that the metadata of an evidence event gives. -/
theorem evidenceEvent_count {args : EvidenceArgs} {coalesced window count : Value}
    (hmeta : args.coalesceMeta = [("coalesced", coalesced), ("coalesce_window_ms", window),
      ("raw_sub_event_count", count)]) (ts : String) (before after : ProxyWininetState)
    (transition : TransitionClass) (listener : Option Dict) (explanation : Explanation) :
    (evidenceEvent args ts before after transition listener explanation).get?
      "raw_sub_event_count" = some count := by
  unfold evidenceEvent updateDict
  rw [hmeta]
  simp only [List.foldl_cons, List.foldl_nil]
  split
  · exact Dict.get?_set_self _ _ _
  · rw [Dict.get?_set_of_ne _ (by decide)]
    exact Dict.get?_set_self _ _ _

/-- What the builder returns is an evidence event. -/
theorem eq_evidenceEvent {utc : String} {args : EvidenceArgs} {ev : Dict}
    (h : buildProxyEvidenceEvent utc args = .ok ev) :
    ∃ ts before after transition listener explanation,
      ev = evidenceEvent args ts before after transition listener explanation := by
  unfold buildProxyEvidenceEvent at h
  obtain ⟨before, -, h⟩ := bind_ok.mp h
  obtain ⟨after, -, h⟩ := bind_ok.mp h
  obtain ⟨transition, -, h⟩ := bind_ok.mp h
  obtain ⟨listener, -, h⟩ := bind_ok.mp h
  obtain ⟨explanation, -, h⟩ := bind_ok.mp h
  exact ⟨_, before, after, transition, listener, explanation, (Except.ok.inj h).symm⟩

theorem represents_merged {utc : String} {coalesceWindowMs : Int} {first second : Dict}
    {rest : List Dict} {ev : Dict}
    (h : emitBatch utc coalesceWindowMs (first :: second :: rest) = .ok ev) :
    Represents (first :: second :: rest) ev := by
  unfold emitBatch mergeCoalescedStates at h
  obtain ⟨⟨before, after, rawSub⟩, hmerge, h⟩ := bind_ok.mp h
  obtain ⟨before, hbefore, hmerge⟩ := bind_ok.mp hmerge
  obtain ⟨after, hafter, hmerge⟩ := bind_ok.mp hmerge
  obtain ⟨rfl, rfl, rfl⟩ := Prod.mk.inj (Except.ok.inj hmerge)
  obtain ⟨merged, hmerged, h⟩ := bind_ok.mp h
  obtain rfl := Except.ok.inj h
  have hmeta : merged.get? "raw_sub_event_count" =
      some (.int (first :: second :: rest).length) := by
    obtain ⟨ts, st, st', transition, listener, explanation, rfl⟩ := eq_evidenceEvent hmerged
    exact evidenceEvent_count rfl ts st st' transition listener explanation
  have hcount : rawSubEventCount ((merged.set "before" (.dict before)).set "after" (.dict after)) =
      (first :: second :: rest).length := by
    unfold rawSubEventCount
    rw [Dict.get?_set_of_ne _ (by decide), Dict.get?_set_of_ne _ (by decide), hmeta]
  have hmany : 1 < rawSubEventCount ((merged.set "before" (.dict before)).set "after"
      (.dict after)) := by
    rw [hcount, List.length_cons, List.length_cons]
    omega
  refine ⟨hcount, fun a ha => ?_, fun a ha => ?_⟩
  · obtain rfl := Option.some.inj ha
    unfold readBefore
    rw [if_pos hmany, Dict.get?_set_of_ne _ (by decide), Dict.get?_set_self]
    exact (eq_dict_of_dictOf hbefore).symm
  · rw [List.getLast?_eq_some_getLast (List.cons_ne_nil _ _)] at ha
    obtain rfl := Option.some.inj ha
    unfold readAfter
    rw [if_pos hmany, Dict.get?_set_self]
    exact (eq_dict_of_dictOf hafter).symm

/-- The output has one event for each batch. -/
theorem represents_of_emitAll {utc : Nat → String} {coalesceWindowMs : Int} {bs : List (List Dict)}
    {i : Nat} {out : List Dict} (hne : ∀ b ∈ bs, b ≠ [])
    (hraw : ∀ b ∈ bs, ∀ ev ∈ b, ev.get? "raw_sub_event_count" = none)
    (h : emitAll utc coalesceWindowMs i bs = .ok out) : List.Forall₂ Represents bs out := by
  induction bs generalizing i out with
  | nil =>
    obtain rfl := Except.ok.inj h
    exact .nil
  | cons b bs ih =>
    unfold emitAll at h
    obtain ⟨ev, hev, h⟩ := bind_ok.mp h
    obtain ⟨evs, hevs, h⟩ := bind_ok.mp h
    obtain rfl := Except.ok.inj h
    refine .cons ?_ (ih (fun b' hb' => hne b' (List.mem_cons_of_mem _ hb'))
      (fun b' hb' => hraw b' (List.mem_cons_of_mem _ hb')) hevs)
    match b, hev with
    | [], _ => exact absurd rfl (hne [] (by simp))
    | [first], hev =>
      obtain rfl := Except.ok.inj hev
      exact represents_emitSingle coalesceWindowMs (hraw [first] (by simp) first (by simp))
    | first :: second :: rest, hev => exact represents_merged hev

theorem counts_of_represents {bs : List (List Dict)} {out : List Dict}
    (h : List.Forall₂ Represents bs out) :
    out.map rawSubEventCount = bs.map fun b => (b.length : Int) := by
  induction h with
  | nil => rfl
  | cons hb _ ih => rw [List.map_cons, List.map_cons, hb.count, ih]

/-- The counts add up. -/
theorem sum_count_of_represents {bs : List (List Dict)} {out : List Dict}
    (h : List.Forall₂ Represents bs out) : (out.map rawSubEventCount).sum = bs.flatten.length := by
  induction h with
  | nil => rfl
  | cons hb _ ih =>
    rw [List.map_cons, List.sum_cons, ih, hb.count, List.flatten_cons, List.length_append]
    exact (Int.natCast_add _ _).symm

/-- An event that goes on from another. -/
def Follows (a b : Dict) : Prop := (beforeOf b).truthy = true ∧ beforeOf b = afterOf a

/-- An output event that goes on from another. -/
def ReadsOn (a b : Dict) : Prop := (readBefore b).truthy = true ∧ readBefore b = readAfter a

/-- A chain of events gives a chain of output events. -/
theorem isChain_of_represents {bs : List (List Dict)} {out : List Dict}
    (h : List.Forall₂ Represents bs out) (hne : ∀ b ∈ bs, b ≠ [])
    (hchain : bs.IsChain fun b b' => ∀ x ∈ b.getLast?, ∀ y ∈ b'.head?, Follows x y) :
    out.IsChain ReadsOn := by
  induction h with
  | nil => exact List.isChain_nil
  | cons hb hbs ih =>
    have htail := ih (fun b' hb' => hne b' (List.mem_cons_of_mem _ hb')) hchain.tail
    cases hbs with
    | nil => exact List.isChain_singleton _
    | cons hb' hbs =>
      refine List.isChain_cons_cons.mpr ⟨?_, htail⟩
      rename_i b ev b' ev' bs evs
      have hlast := List.getLast?_eq_some_getLast (hne b (by simp))
      have hhead := List.head?_eq_some_head (hne b' (by simp))
      obtain ⟨htruthy, hsame⟩ := (List.isChain_cons_cons.mp hchain).1 _ hlast _ hhead
      refine ⟨?_, ?_⟩
      · rwa [hb'.before _ hhead]
      · rw [hb'.before _ hhead, hb.after _ hlast, hsame]

theorem head?_of_represents {bs : List (List Dict)} {out : List Dict}
    (h : List.Forall₂ Represents bs out) (hne : ∀ b ∈ bs, b ≠ []) :
    out.head?.map readBefore = bs.flatten.head?.map beforeOf := by
  cases h with
  | nil => rfl
  | cons hb hbs =>
    rename_i b ev bs evs
    have hhead := List.head?_eq_some_head (hne b (by simp))
    rw [List.flatten_cons, List.head?_append, hhead, List.head?_cons, Option.map_some,
      hb.before _ hhead]
    rfl

theorem getLast?_of_represents {bs : List (List Dict)} {out : List Dict}
    (h : List.Forall₂ Represents bs out) (hne : ∀ b ∈ bs, b ≠ []) :
    out.getLast?.map readAfter = bs.flatten.getLast?.map afterOf := by
  induction h with
  | nil => rfl
  | cons hb hbs ih =>
    rename_i b ev bs evs
    have hrest := ih fun b' hb' => hne b' (List.mem_cons_of_mem _ hb')
    rw [List.flatten_cons, List.getLast?_append, List.getLast?_cons]
    cases hevs : evs.getLast? with
    | some last =>
      rw [hevs, Option.map_some, eq_comm, Option.map_eq_some_iff] at hrest
      obtain ⟨x, hx, hafter⟩ := hrest
      rw [hx]
      exact congrArg some hafter.symm
    | none =>
      rw [hevs, Option.map_none, eq_comm, Option.map_eq_none_iff] at hrest
      have hlast := List.getLast?_eq_some_getLast (hne b (by simp))
      rw [hrest, hlast]
      exact congrArg some (hb.after _ hlast)

/-- What coalescing conserves: `out` is the output, `batches` what it is merged
from. -/
structure Conserved (fromIso : String → Option ℚ) (coalesceWindowMs : Int) (events out : List Dict)
    (batches : List (List Dict)) : Prop where
  /-- the batches are the sorted events, in order -/
  partition : batches.flatten = sortByTime fromIso events
  nonempty : ∀ b ∈ batches, b ≠ []
  /-- one event for each batch, with its size -/
  counts : out.map rawSubEventCount = batches.map fun b => (b.length : Int)
  total : (out.map rawSubEventCount).sum = events.length
  /-- more than one event only within the window of the first -/
  within : ∀ b ∈ batches, 1 < b.length → ∀ first ∈ b.head?, ∃ start,
    eventTime fromIso first = some start ∧ ∀ ev ∈ b, ∃ t, eventTime fromIso ev = some t ∧
      start ≤ t ∧ t ≤ start + windowSeconds coalesceWindowMs
  /-- the next event is outside, if both have a time at all -/
  outside : batches.IsChain fun b b' => ∀ first ∈ b.head?, ∀ next ∈ b'.head?, ∀ start t,
    eventTime fromIso first = some start → eventTime fromIso next = some t →
      start + windowSeconds coalesceWindowMs < t
  /-- a chain of states stays one, between the same ends -/
  chain : (sortByTime fromIso events).IsChain Follows →
    out.IsChain ReadsOn ∧
      out.head?.map readBefore = (sortByTime fromIso events).head?.map beforeOf ∧
      out.getLast?.map readAfter = (sortByTime fromIso events).getLast?.map afterOf

/-- An event whose states and listener are what they should be. -/
structure Readable (ev : Dict) : Prop where
  before : ∃ entries, beforeOf ev = .dict entries ∧ Normalizes entries
  after : ∃ entries, afterOf ev = .dict entries ∧ Normalizes entries
  listener : ∃ listener,
    listenerDict (orElse (ev.get? "owner") ((ev.get? "listener").getD .none)) = .ok listener

theorem inWindow_iff {coalesceWindowMs : Int} {start ts : Option ℚ} :
    inWindow coalesceWindowMs start ts = true ↔
      ∃ s t, start = some s ∧ ts = some t ∧ t ≤ s + windowSeconds coalesceWindowMs := by
  unfold inWindow
  split
  · simp [add_comm]
  · next h =>
    refine ⟨fun hf => absurd hf (by decide), ?_⟩
    rintro ⟨s, t, rfl, rfl, -⟩
    exact absurd rfl (h t s rfl)

theorem windowSeconds_nonneg (coalesceWindowMs : Int) : 0 ≤ windowSeconds coalesceWindowMs :=
  le_trans (by decide +kernel) (le_max_left (1 / 5) _)

/-- A batch of the sorted events lies in the window of its first one. -/
theorem within_of_isBatch {coalesceWindowMs : Int} {events b : List Dict}
    (hsub : b.Sublist (sortByTime fromIso events))
    (hbatch : IsBatch (near fromIso coalesceWindowMs) b) (hmany : 1 < b.length) {first : Dict}
    (hfirst : first ∈ b.head?) :
    ∃ start, eventTime fromIso first = some start ∧ ∀ ev ∈ b, ∃ t,
      eventTime fromIso ev = some t ∧ start ≤ t ∧ t ≤ start + windowSeconds coalesceWindowMs := by
  obtain ⟨anchor, rest, rfl, hnear⟩ := hbatch
  obtain rfl := Option.some.inj hfirst
  have hsorted : (anchor :: rest).Pairwise fun a b => sortKey fromIso a ≤ sortKey fromIso b :=
    (List.pairwise_insertionSort _ events).sublist hsub
  obtain ⟨second, hsecond⟩ : ∃ second, second ∈ rest := by
    cases rest with
    | nil => exact absurd hmany (by simp)
    | cons second rest => exact ⟨second, by simp⟩
  obtain ⟨start, -, hstart, -, -⟩ := inWindow_iff.mp (hnear second hsecond)
  refine ⟨start, hstart, fun ev hev => ?_⟩
  rcases List.mem_cons.mp hev with rfl | hev
  · exact ⟨start, hstart, le_refl _, le_add_of_nonneg_right (windowSeconds_nonneg _)⟩
  · obtain ⟨s, t, hs, ht, hle⟩ := inWindow_iff.mp (hnear ev hev)
    obtain rfl := Option.some.inj (hstart.symm.trans hs)
    have horder := (List.pairwise_cons.mp hsorted).1 ev hev
    simp only [sortKey, hstart, ht, Option.getD_some] at horder
    exact ⟨t, ht, horder, hle⟩

theorem outside_of_apart {coalesceWindowMs : Int} {b b' : List Dict}
    (h : Apart (near fromIso coalesceWindowMs) b b') :
    ∀ first ∈ b.head?, ∀ next ∈ b'.head?, ∀ start t, eventTime fromIso first = some start →
      eventTime fromIso next = some t → start + windowSeconds coalesceWindowMs < t := by
  intro first hfirst next hnext start t hstart ht
  refine lt_of_not_ge fun hle => ?_
  have hnear : near fromIso coalesceWindowMs first next = true :=
    inWindow_iff.mpr ⟨start, t, hstart, ht, hle⟩
  exact absurd (hnear.symm.trans (h first hfirst next hnext)) (by decide)

/-- Readable events are coalesced without an error. -/
theorem emitBatch_ok (utc : String) (coalesceWindowMs : Int) {b : List Dict} (hne : b ≠ [])
    (h : ∀ ev ∈ b, Readable ev) : ∃ out, emitBatch utc coalesceWindowMs b = .ok out := by
  match b, hne with
  | [ev], _ => exact ⟨_, rfl⟩
  | first :: second :: rest, hne =>
    have hlast := List.getLast?_eq_some_getLast hne
    have hmem := List.getLast_mem hne
    obtain ⟨before, hbefore, st, hst⟩ := (h first (by simp)).before
    obtain ⟨after, hafter, st', hst'⟩ := (h _ hmem).after
    obtain ⟨listener, hlistener⟩ := (h _ hmem).listener
    obtain ⟨args, ts, transition, explanation, -, -, hout⟩ := emitBatch_many utc coalesceWindowMs
      (by simp) rfl hlast hbefore hafter hst hst' hlistener
    exact ⟨_, hout⟩

theorem emitAll_ok (utc : Nat → String) (coalesceWindowMs : Int) {bs : List (List Dict)}
    (hne : ∀ b ∈ bs, b ≠ []) (h : ∀ b ∈ bs, ∀ ev ∈ b, Readable ev) (i : Nat) :
    ∃ out, emitAll utc coalesceWindowMs i bs = .ok out := by
  induction bs generalizing i with
  | nil => exact ⟨[], rfl⟩
  | cons b bs ih =>
    obtain ⟨ev, hev⟩ := emitBatch_ok (utc i) coalesceWindowMs (hne b (by simp)) (h b (by simp))
    obtain ⟨evs, hevs⟩ := ih (fun b' hb' => hne b' (List.mem_cons_of_mem _ hb'))
      (fun b' hb' => h b' (List.mem_cons_of_mem _ hb')) (i + 1)
    refine ⟨ev :: evs, ?_⟩
    rw [emitAll, hev, hevs]
    rfl

theorem conserved_of_represents {coalesceWindowMs : Int} {events out : List Dict}
    {bs : List (List Dict)} (hanchored : Anchored (near fromIso coalesceWindowMs) bs)
    (hflatten : bs.flatten = sortByTime fromIso events) (hrep : List.Forall₂ Represents bs out) :
    Conserved fromIso coalesceWindowMs events out bs := by
  have hne : ∀ b ∈ bs, b ≠ [] := fun b hb => (hanchored.batch b hb).ne_nil
  refine ⟨hflatten, hne, ?_, ?_, fun b hb hmany first hfirst => ?_, ?_, fun hchain => ?_⟩
  · exact counts_of_represents hrep
  · rw [sum_count_of_represents hrep, hflatten, sortByTime, List.length_insertionSort]
  · have hsub : b.Sublist (sortByTime fromIso events) :=
      hflatten ▸ List.sublist_flatten_of_mem hb
    exact within_of_isBatch hsub (hanchored.batch b hb) hmany hfirst
  · exact hanchored.apart.imp fun b b' h => outside_of_apart h
  · rw [← hflatten] at hchain ⊢
    refine ⟨?_, head?_of_represents hrep hne, getLast?_of_represents hrep hne⟩
    exact isChain_of_represents hrep hne
      ((List.isChain_flatten fun h => hne [] h rfl).mp hchain).2

/-- Raw events are conserved whenever coalescing returns, and it returns for events
whose states are dictionaries that normalize and whose listener is one or nothing. -/
theorem coalesceProxyEvents_conserves (utc : Nat → String) (coalesceWindowMs : Int)
    (events : List Dict) (hraw : ∀ ev ∈ events, ev.get? "raw_sub_event_count" = none) :
    (∀ out, coalesceProxyEvents fromIso utc events coalesceWindowMs = .ok out →
        ∃ batches, Conserved fromIso coalesceWindowMs events out batches) ∧
      ((∀ ev ∈ events, Readable ev) →
        ∃ out, coalesceProxyEvents fromIso utc events coalesceWindowMs = .ok out) := by
  have hperm : (sortByTime fromIso events).Perm events := List.perm_insertionSort _ _
  have hflatten := cutBatches_flatten fromIso coalesceWindowMs (sortByTime fromIso events)
  have hanchored := cutBatches_anchored fromIso coalesceWindowMs (sortByTime fromIso events)
  have hne : ∀ b ∈ cutBatches fromIso coalesceWindowMs (sortByTime fromIso events), b ≠ [] :=
    fun b hb => (hanchored.batch b hb).ne_nil
  have hmem : ∀ b ∈ cutBatches fromIso coalesceWindowMs (sortByTime fromIso events),
      ∀ ev ∈ b, ev ∈ events := by
    intro b hb ev hev
    rw [← hperm.mem_iff, ← hflatten]
    exact List.mem_flatten.mpr ⟨b, hb, hev⟩
  refine ⟨fun out hout => ⟨cutBatches fromIso coalesceWindowMs (sortByTime fromIso events), ?_⟩,
    fun hread => ?_⟩
  · exact conserved_of_represents hanchored hflatten
      (represents_of_emitAll hne (fun b hb ev hev => hraw ev (hmem b hb ev hev)) hout)
  · exact emitAll_ok utc coalesceWindowMs hne (fun b hb ev hev => hread ev (hmem b hb ev hev)) 0

/-- The three changes: two merged, and one alone. -/
theorem coalesceProxyEvents_conserves_threeChanges :
    (∀ out, coalesceProxyEvents newYear (fun _ => "") threeChanges 1000 = .ok out →
        ∃ batches, Conserved newYear 1000 threeChanges out batches) ∧
      ((∀ ev ∈ threeChanges, Readable ev) →
        ∃ out, coalesceProxyEvents newYear (fun _ => "") threeChanges 1000 = .ok out) :=
  coalesceProxyEvents_conserves (fun _ => "") 1000 threeChanges (by decide)

end StateMachine
