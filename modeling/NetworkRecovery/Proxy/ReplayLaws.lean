import NetworkRecovery.Proxy.WatchRuns
import NetworkRecovery.Proxy.Replay

/-!
# Replay against the watch

The rows of a watch are coalesced once more when they are replayed, over the time of
the LAST change of each, and a loop is marked on the last event only. So the replay
shows the rows as they were written when rows are further apart than the window and
no loop was found before the last row, and on a clock that does not go back in no
other case (`replayAgrees_when`).
-/

namespace StateMachine

open Python ProxyGuard Batching

/-! ## Rows as the replay reads them -/

/-- The time of a row: that of the last change of its batch. -/
def rowTime (fromIso : String → Option ℚ) (batch : List Change) : Option ℚ :=
  batch.getLast?.bind fun c => parseTs fromIso c.poll.now

/-- What the detector of loops sees of a row. -/
def rowInput (batch : List Change) : LoopInput where
  ts := (batch.getLast?.map fun c => c.poll.now).getD ""
  before := .dict ((batch.head?.map fun c => c.before.normalized.toDict).getD [])
  after := .dict ((batch.getLast?.map fun c => c.after.normalized.toDict).getD [])

/-- Rows that have a time each, and more than the window between neighbours. -/
structure Spaced (fromIso : String → Option ℚ) (coalesceMs : Int) (bs : List (List Change)) :
    Prop where
  timed : ∀ b ∈ bs, (rowTime fromIso b).isSome
  apart : bs.IsChain fun b b' =>
    ∀ t ∈ rowTime fromIso b, ∀ t' ∈ rowTime fromIso b', windowSeconds coalesceMs < t' - t

/-- No loop before the last row. -/
def Quiet (fromIso : String → Option ℚ) (bs : List (List Change)) : Prop :=
  ∀ n < bs.length, detectReverterLoop fromIso ((bs.take n).map rowInput) = .ok false

theorem parseTs_empty (fromIso : String → Option ℚ) : parseTs fromIso "" = none := rfl

/-- What stands behind an entry that has a time. -/
theorem timed_entry {fromIso : String → Option ℚ} {e : Entry}
    (hrecords : Records e.batch e.loop e.row e.evidence)
    (htimed : (rowTime fromIso e.batch).isSome) :
    ∃ first last, e.batch.head? = some first ∧ e.batch.getLast? = some last ∧
      rowTime fromIso e.batch = parseTs fromIso last.poll.now ∧ last.poll.now ≠ "" ∧
      e.row.get? "timestamp_utc" = some (.str last.poll.now) ∧
      Evidences first.before last.after last.poll.now e.loop e.evidence ∧
      e.row.get? "old_state" = some (.dict first.before.toDict) ∧
      e.row.get? "new_state" = some (.dict last.after.toDict) := by
  cases hbatch : e.batch with
  | nil =>
    rw [hbatch] at htimed
    cases htimed
  | cons first rest =>
    have hlast := List.getLast?_eq_some_getLast (List.cons_ne_nil first rest)
    generalize (first :: rest).getLast (List.cons_ne_nil first rest) = last at hlast
    have htime : rowTime fromIso (first :: rest) = parseTs fromIso last.poll.now := by
      rw [rowTime, hlast]
      rfl
    have hnow : last.poll.now ≠ "" := by
      intro hempty
      rw [hbatch, htime, hempty, parseTs_empty] at htimed
      cases htimed
    rw [hbatch] at hrecords
    obtain ⟨hold, hnew, hstamp, hevidence⟩ := hrecords.ends first rfl last hlast
    exact ⟨first, last, rfl, hlast, htime, hnow, hstamp hnow, hevidence, hold, hnew⟩

/-- The evidence of a row with a time, as the detector of loops sees it. -/
theorem loopInput_eq_rowInput {batch : List Change} {first last : Change}
    (hfirst : batch.head? = some first) (hlast : batch.getLast? = some last) {loop : Bool}
    {evidence : Dict} (hevidence : Evidences first.before last.after last.poll.now loop evidence)
    (hnow : last.poll.now ≠ "") : loopInput evidence = rowInput batch := by
  obtain ⟨hbefore, hafter, hts⟩ := hevidence.loopInput_eq
  have heta : loopInput evidence = ⟨(loopInput evidence).ts, (loopInput evidence).before,
    (loopInput evidence).after⟩ := rfl
  rw [heta, hbefore, hafter, hts hnow, rowInput, hfirst, hlast]
  rfl

/-- The transition of a row is in time where the row is. -/
theorem eventTime_changeTransition {fromIso : String → Option ℚ} {e : Entry}
    (hrecords : Records e.batch e.loop e.row e.evidence)
    (htimed : (rowTime fromIso e.batch).isSome) :
    eventTime fromIso (changeTransition e.row) = rowTime fromIso e.batch := by
  obtain ⟨first, last, -, -, htime, hnow, hstamp, -⟩ := timed_entry hrecords htimed
  have hget : (changeTransition e.row).get? "timestamp_utc" =
      some ((e.row.get? "timestamp_utc").getD .none) := rfl
  unfold eventTime timestampText
  rw [hget, hstamp, Option.getD_some, orElse_str hnow, htime]
  rfl

/-- The evidence that a replay builds for a row that it does not merge. -/
def Rebuilds (e : Entry) (ev : Dict) : Prop :=
  ∃ first last, e.batch.head? = some first ∧ e.batch.getLast? = some last ∧
    last.poll.now ≠ "" ∧ Evidences first.before last.after last.poll.now false ev

theorem rebuilds_classifyItem {fromIso : String → Option ℚ} {e : Entry}
    (hrecords : Records e.batch e.loop e.row e.evidence)
    (htimed : (rowTime fromIso e.batch).isSome) (nowUtc : String) (coalesceMs : Int) :
    ∃ ev, classifyItem nowUtc coalesceMs (emitSingle coalesceMs (changeTransition e.row)) = .ok ev ∧
      Rebuilds e ev := by
  obtain ⟨first, last, hfirst, hlast, -, hnow, hstamp, -, hold, hnew⟩ :=
    timed_entry hrecords htimed
  obtain ⟨listener, hlistener⟩ := hrecords.owner
  generalize howner : (e.row.get? "owner").getD .none = owner at hlistener
  have htransition : changeTransition e.row =
      [("timestamp_utc", .str last.poll.now), ("before", .dict first.before.toDict),
        ("after", .dict last.after.toDict), ("owner", owner), ("listener", owner)] := by
    unfold changeTransition
    dsimp only
    rw [hstamp, hold, hnew, howner]
    rfl
  rw [htransition]
  generalize hitem : emitSingle coalesceMs
    [("timestamp_utc", .str last.poll.now), ("before", .dict first.before.toDict),
      ("after", .dict last.after.toDict), ("owner", owner), ("listener", owner)] = item
  have hclassify : classifyItem nowUtc coalesceMs item = buildProxyEvidenceEvent nowUtc
      (itemArgs item coalesceMs first.before.toDict last.after.toDict []) := by
    rw [← hitem]
    rfl
  have hargs : (itemArgs item coalesceMs first.before.toDict last.after.toDict []).timestampUtc =
      (orElse (some (.str last.poll.now)) (.str "")).toText := by
    rw [← hitem]
    rfl
  have hlistener' : (itemArgs item coalesceMs first.before.toDict last.after.toDict []).listener =
      owner := by
    have hget : (itemArgs item coalesceMs first.before.toDict last.after.toDict []).listener =
        orElse (some owner) owner := by
      rw [← hitem]
      rfl
    exact hget.trans (ite_self owner)
  obtain ⟨ev, hbuild, hevidence⟩ := evidences_of_build nowUtc
    (itemArgs item coalesceMs first.before.toDict last.after.toDict []) rfl rfl
    (fun hnow => by rw [hargs, orElse_str hnow]; rfl) rfl rfl rfl
    (by rw [hlistener', hlistener])
  exact ⟨ev, hclassify.trans hbuild, first, last, hfirst, hlast, hnow, hevidence⟩

/-! ## Lengths -/

theorem length_emitAll {utc : Nat → String} {coalesceWindowMs : Int} {bs : List (List Dict)}
    {i : Nat} {out : List Dict} (h : emitAll utc coalesceWindowMs i bs = .ok out) :
    out.length = bs.length := by
  induction bs generalizing i out with
  | nil =>
    obtain rfl := Except.ok.inj h
    rfl
  | cons b bs ih =>
    obtain ⟨ev, -, hrest⟩ := bind_ok.mp h
    obtain ⟨evs, hevs, hout⟩ := bind_ok.mp hrest
    obtain rfl := Except.ok.inj hout
    rw [List.length_cons, List.length_cons, ih hevs]

theorem length_classifyAll {clock : Nat → String} {coalesceMs : Int} {items : List Dict}
    {i : Nat} {out : List Dict} (h : classifyAll clock coalesceMs i items = .ok out) :
    out.length = items.length := by
  induction items generalizing i out with
  | nil =>
    obtain rfl := Except.ok.inj h
    rfl
  | cons item items ih =>
    obtain ⟨ev, -, hrest⟩ := bind_ok.mp h
    obtain ⟨evs, hevs, hout⟩ := bind_ok.mp hrest
    obtain rfl := Except.ok.inj hout
    rw [List.length_cons, List.length_cons, ih hevs]

theorem length_markLast (events : List Dict) : (markLast events).length = events.length := by
  induction events using markLast.induct with
  | case1 => rfl
  | case2 last => rfl
  | case3 ev next rest ih => rw [markLast, List.length_cons, ih, List.length_cons (a := ev)]

/-! ## A replay of rows -/

/-- Every row is read back. -/
theorem extractTransitionRows_rows {fromIso : String → Option ℚ} {es : List Entry}
    (hwritten : Written fromIso [] es) :
    extractTransitionRows (es.map Entry.row) = es.map fun e => changeTransition e.row := by
  have heach : ∀ e ∈ es, e.row.get? "event" = some (.str "proxy_change") := fun e he =>
    (hwritten.records e he).event
  unfold extractTransitionRows
  rw [List.filterMap_map, ← List.filterMap_eq_map]
  refine List.filterMap_congr fun e he => ?_
  simp only [Function.comp_apply, heach e he, if_pos]

/-- A replay of rows, step by step. -/
theorem replayProxyEvents_rows {fromIso : String → Option ℚ} {es : List Entry}
    (hwritten : Written fromIso [] es) (clock : ReplayClock) (coalesceMs : Int) (r : Replayed) :
    replayProxyEvents fromIso clock (es.map Entry.row) coalesceMs = .ok r ↔
      ∃ coalesced classified loop,
        coalesceProxyEvents fromIso clock.coalescing (es.map fun e => changeTransition e.row)
          coalesceMs = .ok coalesced ∧
        classifyAll clock.classifying coalesceMs 0 coalesced = .ok classified ∧
        detectReverterLoop fromIso (classified.map loopInput) = .ok loop ∧
        r = ⟨es.length, es.length, classified.length, coalesceMs, loop,
          if loop then markLast classified else classified⟩ := by
  have htransitions : (if (extractTransitionRows (es.map Entry.row)).isEmpty &&
      !(es.map Entry.row).isEmpty then es.map Entry.row
      else extractTransitionRows (es.map Entry.row)) = es.map fun e => changeTransition e.row := by
    rw [extractTransitionRows_rows hwritten]
    cases es with
    | nil => rfl
    | cons e es => rfl
  unfold replayProxyEvents
  simp only [htransitions, bind_ok, List.length_map]
  constructor
  · rintro ⟨coalesced, hcoalesced, classified, hclassified, loop, hloop, hr⟩
    exact ⟨coalesced, classified, loop, hcoalesced, hclassified, hloop, (Except.ok.inj hr).symm⟩
  · rintro ⟨coalesced, classified, loop, hcoalesced, hclassified, hloop, rfl⟩
    exact ⟨coalesced, hcoalesced, classified, hclassified, loop, hloop, rfl⟩

/-- Rows in the order of their times are cut as they stand. -/
theorem cut_rows {fromIso : String → Option ℚ} {es : List Entry}
    (hsorted : (es.map fun e => changeTransition e.row).Pairwise
      fun a b => sortKey fromIso a ≤ sortKey fromIso b) (utc : Nat → String) (coalesceMs : Int) :
    coalesceProxyEvents fromIso utc (es.map fun e => changeTransition e.row) coalesceMs =
      emitAll utc coalesceMs 0
        (batches (near fromIso coalesceMs) (es.map fun e => changeTransition e.row)) := by
  unfold coalesceProxyEvents sortByTime
  rw [hsorted.insertionSort_eq, cutBatches_eq]

theorem emitAll_singletons (utc : Nat → String) (coalesceWindowMs : Int) (events : List Dict)
    (i : Nat) :
    emitAll utc coalesceWindowMs i (events.map fun ev => [ev]) =
      .ok (events.map (emitSingle coalesceWindowMs)) := by
  induction events generalizing i with
  | nil => rfl
  | cons ev events ih =>
    rw [List.map_cons, emitAll, ih]
    rfl

theorem classifyAll_rebuilds {fromIso : String → Option ℚ} {es : List Entry}
    (hrecords : ∀ e ∈ es, Records e.batch e.loop e.row e.evidence)
    (htimed : ∀ e ∈ es, (rowTime fromIso e.batch).isSome) (clock : Nat → String) (coalesceMs : Int)
    (i : Nat) :
    ∃ evs, classifyAll clock coalesceMs i
        ((es.map fun e => changeTransition e.row).map (emitSingle coalesceMs)) = .ok evs ∧
      List.Forall₂ Rebuilds es evs := by
  induction es generalizing i with
  | nil => exact ⟨[], rfl, .nil⟩
  | cons e es ih =>
    obtain ⟨ev, hev, hrebuilds⟩ := rebuilds_classifyItem (hrecords e (by simp))
      (htimed e (by simp)) (clock i) coalesceMs
    obtain ⟨evs, hevs, hrest⟩ := ih (fun e' he' => hrecords e' (List.mem_cons_of_mem _ he'))
      (fun e' he' => htimed e' (List.mem_cons_of_mem _ he')) (i + 1)
    refine ⟨ev :: evs, ?_, .cons hrebuilds hrest⟩
    exact bind_ok.mpr ⟨ev, hev, bind_ok.mpr ⟨evs, hevs, rfl⟩⟩

/-- The neighbours of rows that are apart, as the replay sees them. -/
theorem apart_transitions {fromIso : String → Option ℚ} {coalesceMs : Int} {e e' : Entry}
    (hrecords : Records e.batch e.loop e.row e.evidence)
    (hrecords' : Records e'.batch e'.loop e'.row e'.evidence)
    (htimed : (rowTime fromIso e.batch).isSome) (htimed' : (rowTime fromIso e'.batch).isSome) :
    near fromIso coalesceMs (changeTransition e.row) (changeTransition e'.row) = false ↔
      ∀ t ∈ rowTime fromIso e.batch, ∀ t' ∈ rowTime fromIso e'.batch,
        windowSeconds coalesceMs < t' - t := by
  obtain ⟨t, ht⟩ := Option.isSome_iff_exists.mp htimed
  obtain ⟨t', ht'⟩ := Option.isSome_iff_exists.mp htimed'
  unfold near
  rw [eventTime_changeTransition hrecords htimed, eventTime_changeTransition hrecords' htimed', ht,
    ht', inWindow, decide_eq_false_iff_not, not_le]
  constructor
  · intro h a ha b hb
    obtain rfl := Option.some.inj ha
    obtain rfl := Option.some.inj hb
    exact h
  · exact fun h => h t rfl t' rfl

theorem sortKey_changeTransition {fromIso : String → Option ℚ} {e : Entry}
    (hrecords : Records e.batch e.loop e.row e.evidence)
    (htimed : (rowTime fromIso e.batch).isSome) :
    sortKey fromIso (changeTransition e.row) = (rowTime fromIso e.batch).getD 0 := by
  rw [sortKey, eventTime_changeTransition hrecords htimed]

/-- Rows in the order of their times are so for the replay. -/
theorem sorted_transitions {fromIso : String → Option ℚ} {es : List Entry}
    (hrecords : ∀ e ∈ es, Records e.batch e.loop e.row e.evidence)
    (htimed : ∀ e ∈ es, (rowTime fromIso e.batch).isSome)
    (hsorted : (es.map Entry.batch).Pairwise fun b b' =>
      (rowTime fromIso b).getD 0 ≤ (rowTime fromIso b').getD 0) :
    (es.map fun e => changeTransition e.row).Pairwise
      fun a b => sortKey fromIso a ≤ sortKey fromIso b := by
  rw [List.pairwise_map]
  refine (List.pairwise_map.mp hsorted).imp_of_mem fun he he' hle => ?_
  rwa [sortKey_changeTransition (hrecords _ he) (htimed _ he),
    sortKey_changeTransition (hrecords _ he') (htimed _ he')]

/-- Rows that are spaced are in the order of their times. -/
theorem Spaced.sorted {fromIso : String → Option ℚ} {coalesceMs : Int} {bs : List (List Change)}
    (h : Spaced fromIso coalesceMs bs) :
    bs.Pairwise fun b b' => (rowTime fromIso b).getD 0 ≤ (rowTime fromIso b').getD 0 := by
  have hchain : bs.IsChain fun b b' =>
      (rowTime fromIso b).getD 0 ≤ (rowTime fromIso b').getD 0 := by
    refine h.apart.imp_of_mem_imp fun b b' hb hb' hapart => ?_
    obtain ⟨t, ht⟩ := Option.isSome_iff_exists.mp (h.timed b hb)
    obtain ⟨t', ht'⟩ := Option.isSome_iff_exists.mp (h.timed b' hb')
    have hpos := windowSeconds_nonneg coalesceMs
    have hlt := hapart t ht t' ht'
    rw [ht, ht', Option.getD_some, Option.getD_some]
    exact sub_nonneg.mp (hpos.trans hlt.le)
  have htimes : (bs.map fun b => (rowTime fromIso b).getD 0).IsChain (· ≤ ·) :=
    (List.isChain_map _).mpr hchain
  exact List.pairwise_map.mp htimes.pairwise

/-- Spaced rows are each classified anew. -/
theorem replay_spaced {fromIso : String → Option ℚ} {coalesceMs : Int} {es : List Entry}
    (hwritten : Written fromIso [] es) (hspaced : Spaced fromIso coalesceMs (es.map Entry.batch))
    (clock : ReplayClock) :
    ∃ evs, List.Forall₂ Rebuilds es evs ∧
      ∀ loop, detectReverterLoop fromIso (evs.map loopInput) = .ok loop →
        replayProxyEvents fromIso clock (es.map Entry.row) coalesceMs =
          .ok ⟨es.length, es.length, evs.length, coalesceMs, loop,
            if loop then markLast evs else evs⟩ := by
  have htimed : ∀ e ∈ es, (rowTime fromIso e.batch).isSome := fun e he =>
    hspaced.timed e.batch (List.mem_map_of_mem he)
  have hsorted := sorted_transitions hwritten.records htimed hspaced.sorted
  have hapart : (es.map fun e => changeTransition e.row).IsChain
      fun a b => near fromIso coalesceMs a b = false := by
    rw [List.isChain_map]
    refine ((List.isChain_map _).mp hspaced.apart).imp_of_mem_imp fun e e' he he' h => ?_
    exact (apart_transitions (hwritten.records e he) (hwritten.records e' he') (htimed e he)
      (htimed e' he')).mpr h
  obtain ⟨evs, hevs, hrebuilds⟩ := classifyAll_rebuilds hwritten.records htimed clock.classifying
    coalesceMs 0
  refine ⟨evs, hrebuilds, fun loop hloop => ?_⟩
  refine (replayProxyEvents_rows hwritten clock coalesceMs _).mpr
    ⟨_, evs, loop, ?_, hevs, hloop, rfl⟩
  rw [cut_rows hsorted, batches_of_apart hapart, emitAll_singletons]

/-- On a clock that does not go back, a replay of as many events as rows has rows
that are spaced. -/
theorem spaced_of_replay {fromIso : String → Option ℚ} {coalesceMs : Int} {es : List Entry}
    (hwritten : Written fromIso [] es) (htimed : ∀ e ∈ es, (rowTime fromIso e.batch).isSome)
    (hsorted : (es.map Entry.batch).Pairwise fun b b' =>
      (rowTime fromIso b).getD 0 ≤ (rowTime fromIso b').getD 0)
    {clock : ReplayClock} {r : Replayed}
    (hreplay : replayProxyEvents fromIso clock (es.map Entry.row) coalesceMs = .ok r)
    (hlength : r.events.length = es.length) : Spaced fromIso coalesceMs (es.map Entry.batch) := by
  obtain ⟨coalesced, classified, loop, hcoalesced, hclassified, -, rfl⟩ :=
    (replayProxyEvents_rows hwritten clock coalesceMs r).mp hreplay
  have hkeys := sorted_transitions hwritten.records htimed hsorted
  have hmarked : (if loop then markLast classified else classified).length =
      classified.length := by
    cases loop with
    | false => rfl
    | true => exact length_markLast classified
  rw [cut_rows hkeys] at hcoalesced
  have hcount : (batches (near fromIso coalesceMs)
      (es.map fun e => changeTransition e.row)).length =
      (es.map fun e => changeTransition e.row).length := by
    rw [← length_emitAll hcoalesced, ← length_classifyAll hclassified, ← hmarked,
      List.length_map]
    exact hlength
  have hapart := (List.isChain_map _).mp (apart_of_length_batches hcount)
  refine ⟨?_, ?_⟩
  · intro b hb
    obtain ⟨e, he, rfl⟩ := List.mem_map.mp hb
    exact htimed e he
  · rw [List.isChain_map]
    refine hapart.imp_of_mem_imp fun e e' he he' h => ?_
    exact (apart_transitions (hwritten.records e he) (hwritten.records e' he') (htimed e he)
      (htimed e' he')).mp h

/-! ## Loops -/

/-- Each row was marked when a loop showed in the rows up to it. -/
theorem Written.loop_at {fromIso : String → Option ℚ} {es : List Entry} {old : List Dict}
    (h : Written fromIso old es) {n : Nat} (hn : n < es.length) :
    detectReverterLoop fromIso ((old ++ (es.take (n + 1)).map Entry.evidence).map loopInput) =
      .ok es[n].loop := by
  induction es generalizing old n with
  | nil => exact absurd hn (Nat.not_lt_zero n)
  | cons e es ih =>
    obtain ⟨-, hloop, hrest⟩ := h
    cases n with
    | zero => exact hloop
    | succ n =>
      have := ih hrest (Nat.lt_of_succ_lt_succ hn)
      rwa [List.append_assoc, List.singleton_append] at this

theorem map_loopInput_evidence {fromIso : String → Option ℚ} {es : List Entry}
    (hrecords : ∀ e ∈ es, Records e.batch e.loop e.row e.evidence)
    (htimed : ∀ e ∈ es, (rowTime fromIso e.batch).isSome) :
    (es.map Entry.evidence).map loopInput = (es.map Entry.batch).map rowInput := by
  rw [List.map_map, List.map_map]
  refine List.map_congr_left fun e he => ?_
  obtain ⟨first, last, hfirst, hlast, -, hnow, -, hevidence, -⟩ :=
    timed_entry (hrecords e he) (htimed e he)
  exact loopInput_eq_rowInput hfirst hlast hevidence hnow

theorem map_loopInput_rebuilds {es : List Entry} {evs : List Dict}
    (h : List.Forall₂ Rebuilds es evs) :
    evs.map loopInput = (es.map Entry.batch).map rowInput := by
  induction h with
  | nil => rfl
  | cons hev _ ih =>
    obtain ⟨first, last, hfirst, hlast, hnow, hevidence⟩ := hev
    rw [List.map_cons, List.map_cons, List.map_cons, ih,
      loopInput_eq_rowInput hfirst hlast hevidence hnow]

/-- What is looked at for a loop up to a row. -/
theorem detect_take {fromIso : String → Option ℚ} {es : List Entry}
    (hwritten : Written fromIso [] es) (htimed : ∀ e ∈ es, (rowTime fromIso e.batch).isSome)
    {n : Nat} (hn : n < es.length) :
    detectReverterLoop fromIso (((es.map Entry.batch).take (n + 1)).map rowInput) =
      .ok es[n].loop := by
  have hloop := hwritten.loop_at hn
  rwa [List.nil_append, map_loopInput_evidence
    (fun e he => hwritten.records e (List.mem_of_mem_take he))
    (fun e he => htimed e (List.mem_of_mem_take he)), List.map_take] at hloop

/-- The last row was marked when a loop showed in all of them. -/
theorem detect_all {fromIso : String → Option ℚ} {es : List Entry}
    (hwritten : Written fromIso [] es) (htimed : ∀ e ∈ es, (rowTime fromIso e.batch).isSome) :
    ∃ loop, detectReverterLoop fromIso ((es.map Entry.batch).map rowInput) = .ok loop ∧
      ∀ e ∈ es.getLast?, e.loop = loop := by
  by_cases hempty : es = []
  · subst hempty
    exact ⟨false, rfl, fun e he => by cases he⟩
  · have hpos := List.length_pos_of_ne_nil hempty
    have hloop := detect_take hwritten htimed (by omega : es.length - 1 < es.length)
    rw [Nat.sub_add_cancel hpos, List.take_of_length_le (by rw [List.length_map])] at hloop
    refine ⟨_, hloop, fun e he => ?_⟩
    rw [List.getLast?_eq_getElem?] at he
    obtain ⟨-, rfl⟩ := List.getElem?_eq_some_iff.mp he
    rfl

/-- No row but the last is marked. -/
theorem quiet_iff {fromIso : String → Option ℚ} {es : List Entry}
    (hwritten : Written fromIso [] es) (htimed : ∀ e ∈ es, (rowTime fromIso e.batch).isSome) :
    Quiet fromIso (es.map Entry.batch) ↔ ∀ e ∈ es.dropLast, e.loop = false := by
  unfold Quiet
  rw [List.length_map]
  constructor
  · intro h e he
    obtain ⟨n, hn, rfl⟩ := List.mem_iff_getElem.mp he
    rw [List.length_dropLast] at hn
    have hloop := detect_take hwritten htimed (by omega : n < es.length)
    rw [h (n + 1) (by omega)] at hloop
    rw [List.getElem_dropLast]
    exact (Except.ok.inj hloop).symm
  · intro h n hn
    cases n with
    | zero => rfl
    | succ n =>
      have hlast : n < es.dropLast.length := by
        rw [List.length_dropLast]
        omega
      have hloop := h es.dropLast[n] (List.getElem_mem hlast)
      rw [List.getElem_dropLast] at hloop
      rw [detect_take hwritten htimed (by omega : n < es.length), hloop]

/-! ## Agreement -/

/-- A row and an event of the replay that show the same transition. -/
def SameTransition (row ev : Dict) : Prop :=
  ∃ evidence, row.get? "transition_evidence" = some (.dict evidence) ∧
    ev.get? "before_state" = Dict.get? evidence "before_state" ∧
    ev.get? "after_state" = Dict.get? evidence "after_state" ∧
    ev.get? "transition_class" = Dict.get? evidence "transition_class"

/-- The classifier does not look for loops. -/
theorem classifyStates_ne_reverter (before after : ProxyWininetState) (mismatch : Option Bool) :
    (classifyStates before after mismatch).value ≠
      TransitionClass.reverterSuspectedLocalhostProxyLoop.value := by
  let plain (transition : TransitionClass) : Prop :=
    transition.value ≠ TransitionClass.reverterSuspectedLocalhostProxyLoop.value
  unfold classifyStates
  dsimp only
  -- One rung of the ladder after another.
  iterate 16 refine iteInduction (motive := plain) (fun _ => by decide) fun _ => ?_
  decide

theorem markReplayed_get? {evidence : Dict} {key : String}
    (h : key ∉ ["transition_class", "recommended_action", "limitations", "risk",
      "policy_decision"]) : (markReplayed evidence).get? key = evidence.get? key :=
  Dict.get?_foldl_set [("transition_class", _), ("recommended_action", _), ("limitations", _),
    ("risk", _), ("policy_decision", _)] h

theorem markReplayed_transition (evidence : Dict) :
    (markReplayed evidence).get? "transition_class" =
      some (.str TransitionClass.reverterSuspectedLocalhostProxyLoop.value) := by
  have hother : "transition_class" ∉
      ["recommended_action", "limitations", "risk", "policy_decision"] := by
    decide
  exact (Dict.get?_foldl_set
    [("recommended_action", _), ("limitations", _), ("risk", _), ("policy_decision", _)] hother).trans
    (Dict.get?_set_self _ _ _)

/-- An event of the replay, marked or not, for a row that was marked or not. -/
theorem sameTransition_iff {e : Entry} (hrecords : Records e.batch e.loop e.row e.evidence)
    {ev : Dict} (hev : Rebuilds e ev) (loop : Bool) :
    SameTransition e.row (if loop then markReplayed ev else ev) ↔ e.loop = loop := by
  obtain ⟨first, last, hfirst, hlast, -, hrebuilt⟩ := hev
  obtain ⟨-, -, -, hwritten⟩ := hrecords.ends first hfirst last hlast
  have hbefore : (if loop then markReplayed ev else ev).get? "before_state" =
      e.evidence.get? "before_state" := by
    rw [hwritten.beforeState, ← hrebuilt.beforeState]
    cases loop with
    | false => rfl
    | true => exact markReplayed_get? (by decide)
  have hafter : (if loop then markReplayed ev else ev).get? "after_state" =
      e.evidence.get? "after_state" := by
    rw [hwritten.afterState, ← hrebuilt.afterState]
    cases loop with
    | false => rfl
    | true => exact markReplayed_get? (by decide)
  have hne := classifyStates_ne_reverter first.before.normalized last.after.normalized none
  have hclass : (if loop then markReplayed ev else ev).get? "transition_class" =
      e.evidence.get? "transition_class" ↔ e.loop = loop := by
    rw [hwritten.transitionClass]
    cases loop with
    | false =>
      rw [if_neg (by decide), hrebuilt.transitionClass, if_neg (by decide)]
      cases e.loop with
      | false => simp
      | true => simpa using hne
    | true =>
      rw [if_pos rfl, markReplayed_transition]
      cases e.loop with
      | false => simpa using hne.symm
      | true => simp
  unfold SameTransition
  constructor
  · rintro ⟨evidence, hevidence, -, -, hsame⟩
    obtain rfl := Value.dict.inj (Option.some.inj (hrecords.evident.symm.trans hevidence))
    exact hclass.mp hsame
  · exact fun h => ⟨e.evidence, hrecords.evident, hbefore, hafter, hclass.mpr h⟩

/-- The last event agrees with its row, and the others do when their rows were not
marked. -/
theorem agree_iff {es : List Entry} {evs : List Dict} (h : List.Forall₂ Rebuilds es evs)
    (hrecords : ∀ e ∈ es, Records e.batch e.loop e.row e.evidence) {loop : Bool}
    (hlast : ∀ e ∈ es.getLast?, e.loop = loop) :
    List.Forall₂ SameTransition (es.map Entry.row) (if loop then markLast evs else evs) ↔
      ∀ e ∈ es.dropLast, e.loop = false := by
  induction h with
  | nil => cases loop <;> simp [markLast]
  | @cons e ev es evs hev hrest ih =>
    have hsame := sameTransition_iff (hrecords e (by simp)) hev
    cases hrest with
    | nil =>
      have hone : (if loop then markLast [ev] else [ev]) =
          [if loop then markReplayed ev else ev] := by
        cases loop <;> rfl
      rw [hone, List.map_singleton, List.forall₂_cons, hsame loop]
      simpa using hlast e rfl
    | @cons e' ev' es evs hev' hrest =>
      have hmore : (if loop then markLast (ev :: ev' :: evs) else ev :: ev' :: evs) =
          ev :: if loop then markLast (ev' :: evs) else ev' :: evs := by
        cases loop <;> rfl
      rw [hmore, List.map_cons, List.forall₂_cons, List.dropLast_cons_cons, List.forall_mem_cons,
        ih (fun e'' he'' => hrecords e'' (List.mem_cons_of_mem _ he''))
          (by rwa [List.getLast?_cons_cons] at hlast)]
      exact and_congr_left fun _ => hsame false

/-! ## Clocks -/

/-- A clock whose stamps can be read and that does not go back. -/
structure Steady (fromIso : String → Option ℚ) (polls : List Poll) : Prop where
  timed : ∀ p ∈ polls, (parseTs fromIso p.now).isSome
  sorted : polls.Pairwise fun p q =>
    (parseTs fromIso p.now).getD 0 ≤ (parseTs fromIso q.now).getD 0

theorem sortKey_event (fromIso : String → Option ℚ) (c : Change) :
    sortKey fromIso c.event = (parseTs fromIso c.poll.now).getD 0 := by
  have htext : timestampText c.event = (orElse (some (.str c.poll.now)) (.str "")).toText := rfl
  have hstamp : timestampText c.event = c.poll.now := by
    rw [htext]
    by_cases hempty : c.poll.now = ""
    · rw [hempty]
      rfl
    · rw [orElse_str hempty]
      rfl
  rw [sortKey, eventTime, hstamp]

theorem changesFrom_sublist (prior : ProxyState) (polls : List Poll) :
    ((changesFrom prior polls).map Change.poll).Sublist polls := by
  induction polls generalizing prior with
  | nil => exact List.Sublist.slnil
  | cons p polls ih =>
    unfold changesFrom
    split
    · exact (ih p.state).cons_cons p
    · exact (ih p.state).cons p

theorem changes_sublist (polls : List Poll) :
    ((changes polls).map Change.poll).Sublist polls := by
  cases polls with
  | nil => exact List.Sublist.slnil
  | cons p polls => exact (changesFrom_sublist p.state polls).cons p

/-- Changes in the order of their times come out of the buffer in that order. -/
theorem flatten_flushes_of_sorted {fromIso : String → Option ℚ} {cs : List Change}
    (coalesceWindowMs : Int) :
    ∀ {pending : List Change} (firstTs : Option ℚ),
      (pending ++ cs).Pairwise (fun a b => sortKey fromIso a.event ≤ sortKey fromIso b.event) →
      (flushes fromIso coalesceWindowMs pending firstTs cs).flatten = pending ++ cs := by
  have hcut : ∀ {pending : List Change},
      pending.Pairwise (fun a b => sortKey fromIso a.event ≤ sortKey fromIso b.event) →
      (cutChanges fromIso coalesceWindowMs pending).flatten = pending := by
    intro pending h
    rw [cutChanges, flatten_batches, h.insertionSort_eq]
  induction cs with
  | nil =>
    intro pending firstTs h
    rw [List.append_nil] at h ⊢
    exact hcut h
  | cons c cs ih =>
    intro pending firstTs h
    have hright : ([c] ++ cs).Pairwise
        (fun a b => sortKey fromIso a.event ≤ sortKey fromIso b.event) :=
      h.sublist (List.sublist_append_right _ _)
    unfold flushes
    dsimp only
    split
    · next hempty =>
      rw [List.isEmpty_iff.mp hempty]
      exact ih _ hright
    · split
      · rw [ih firstTs (by rwa [List.append_assoc]), List.append_assoc]
        rfl
      · rw [List.flatten_append, hcut (h.sublist (List.sublist_append_left _ _)), ih _ hright]
        rfl

theorem Steady.flatten_watchBatches {fromIso : String → Option ℚ} {polls : List Poll}
    (h : Steady fromIso polls) (coalesceMs : Int) :
    (watchBatches fromIso coalesceMs polls).flatten = changes polls := by
  have hsorted : (changes polls).Pairwise
      (fun a b => sortKey fromIso a.event ≤ sortKey fromIso b.event) := by
    refine (List.pairwise_map.mp (h.sorted.sublist (changes_sublist polls))).imp ?_
    intro a b hab
    rwa [sortKey_event, sortKey_event]
  exact flatten_flushes_of_sorted _ none hsorted

/-- On a steady clock every row has a time. -/
theorem Steady.timed_rows {fromIso : String → Option ℚ} {polls : List Poll}
    (h : Steady fromIso polls) {coalesceMs : Int} {b : List Change} (hne : b ≠ [])
    (hb : b ∈ watchBatches fromIso coalesceMs polls) : (rowTime fromIso b).isSome := by
  have hlast := List.getLast?_eq_some_getLast hne
  have hmem : b.getLast hne ∈ changes polls := by
    rw [← h.flatten_watchBatches coalesceMs]
    exact List.mem_flatten.mpr ⟨b, hb, List.getLast_mem hne⟩
  rw [rowTime, hlast]
  exact h.timed _ ((changes_sublist polls).subset (List.mem_map_of_mem hmem))

/-- On a steady clock rows are in the order of their times. -/
theorem Steady.sorted_rows {fromIso : String → Option ℚ} {polls : List Poll}
    (h : Steady fromIso polls) {coalesceMs : Int}
    (hne : ∀ b ∈ watchBatches fromIso coalesceMs polls, b ≠ []) :
    (watchBatches fromIso coalesceMs polls).Pairwise fun b b' =>
      (rowTime fromIso b).getD 0 ≤ (rowTime fromIso b').getD 0 := by
  have hsorted := List.pairwise_map.mp (h.sorted.sublist (changes_sublist polls))
  rw [← h.flatten_watchBatches coalesceMs, List.pairwise_flatten] at hsorted
  refine hsorted.2.imp_of_mem fun {b b'} hb hb' hle => ?_
  have hlast := List.getLast?_eq_some_getLast (hne b hb)
  have hlast' := List.getLast?_eq_some_getLast (hne b' hb')
  rw [rowTime, rowTime, hlast, hlast']
  exact hle _ (List.getLast_mem _) _ (List.getLast_mem _)

/-! ## The replay of a watch -/

/-- The replay of the rows of a watch, over the same window, has an event for every
row in order, with the states and the class of its evidence. -/
def ReplayAgrees (fromIso : String → Option ℚ) (coalesceMs : Int) (polls : List Poll)
    (ending : Ending) (clock : ReplayClock) : Prop :=
  ∃ w r, runProxyWatch fromIso coalesceMs polls ending = .ok w ∧
    replayProxyEvents fromIso clock (changeRows w.log) coalesceMs = .ok r ∧
    List.Forall₂ SameTransition (changeRows w.log) r.events

theorem Spaced.replayAgrees_iff {fromIso : String → Option ℚ} {coalesceMs : Int}
    {polls : List Poll} (h : Spaced fromIso coalesceMs (watchBatches fromIso coalesceMs polls))
    (ending : Ending) (clock : ReplayClock) :
    ReplayAgrees fromIso coalesceMs polls ending clock ↔
      Quiet fromIso (watchBatches fromIso coalesceMs polls) := by
  obtain ⟨w, es, hrun, hrows, hwritten, -, hbatches⟩ :=
    runProxyWatch_entries fromIso coalesceMs polls ending
  change es.map Entry.batch = watchBatches fromIso coalesceMs polls at hbatches
  rw [← hbatches] at h ⊢
  have htimed : ∀ e ∈ es, (rowTime fromIso e.batch).isSome := fun e he =>
    h.timed e.batch (List.mem_map_of_mem he)
  obtain ⟨evs, hrebuilds, hreplay⟩ := replay_spaced hwritten h clock
  obtain ⟨loop, hloop, hlast⟩ := detect_all hwritten htimed
  rw [← map_loopInput_rebuilds hrebuilds] at hloop
  have hreplay := hreplay loop hloop
  rw [← hrows] at hreplay
  rw [quiet_iff hwritten htimed, ← agree_iff hrebuilds hwritten.records hlast]
  constructor
  · rintro ⟨w', r, hrun', hreplay', hagree⟩
    obtain rfl := Except.ok.inj (hrun.symm.trans hrun')
    obtain rfl := Except.ok.inj (hreplay.symm.trans hreplay')
    rwa [hrows] at hagree
  · intro hagree
    rw [← hrows] at hagree
    exact ⟨w, _, hrun, hreplay, hagree⟩

/-- On a steady clock, only the rows of spaced changes are replayed one by one. -/
theorem ReplayAgrees.spaced {fromIso : String → Option ℚ} {coalesceMs : Int} {polls : List Poll}
    {ending : Ending} {clock : ReplayClock}
    (h : ReplayAgrees fromIso coalesceMs polls ending clock) (hsteady : Steady fromIso polls) :
    Spaced fromIso coalesceMs (watchBatches fromIso coalesceMs polls) := by
  obtain ⟨w, es, hrun, hrows, hwritten, hne, hbatches⟩ :=
    runProxyWatch_entries fromIso coalesceMs polls ending
  change es.map Entry.batch = watchBatches fromIso coalesceMs polls at hbatches
  obtain ⟨w', r, hrun', hreplay, hagree⟩ := h
  obtain rfl := Except.ok.inj (hrun.symm.trans hrun')
  have hlength : r.events.length = es.length := by
    rw [← hagree.length_eq, hrows, List.length_map]
  have htimed : ∀ e ∈ es, (rowTime fromIso e.batch).isSome := fun e he =>
    hsteady.timed_rows (hne e he) (hbatches ▸ List.mem_map_of_mem he)
  have hsorted : (es.map Entry.batch).Pairwise fun b b' =>
      (rowTime fromIso b).getD 0 ≤ (rowTime fromIso b').getD 0 := by
    rw [hbatches]
    refine hsteady.sorted_rows fun b hb => ?_
    rw [← hbatches] at hb
    obtain ⟨e, he, rfl⟩ := List.mem_map.mp hb
    exact hne e he
  rw [hrows] at hreplay
  rw [← hbatches]
  exact spaced_of_replay hwritten htimed hsorted hreplay hlength

/-- The replay agrees with the watch when the rows are further apart than the window
and no loop shows before the last of them, and on a steady clock only then. -/
theorem replayAgrees_when (fromIso : String → Option ℚ) (coalesceMs : Int) (polls : List Poll)
    (ending : Ending) (clock : ReplayClock) :
    (Spaced fromIso coalesceMs (watchBatches fromIso coalesceMs polls) ∧
        Quiet fromIso (watchBatches fromIso coalesceMs polls) →
      ReplayAgrees fromIso coalesceMs polls ending clock) ∧
    (Steady fromIso polls → ReplayAgrees fromIso coalesceMs polls ending clock →
      Spaced fromIso coalesceMs (watchBatches fromIso coalesceMs polls) ∧
        Quiet fromIso (watchBatches fromIso coalesceMs polls)) := by
  constructor
  · rintro ⟨hspaced, hquiet⟩
    exact (hspaced.replayAgrees_iff ending clock).mpr hquiet
  · intro hsteady hagrees
    have hspaced := hagrees.spaced hsteady
    exact ⟨hspaced, (hspaced.replayAgrees_iff ending clock).mp hagrees⟩

instance (fromIso : String → Option ℚ) (coalesceMs : Int) (bs : List (List Change)) :
    Decidable (Spaced fromIso coalesceMs bs) :=
  decidable_of_iff ((∀ b ∈ bs, (rowTime fromIso b).isSome) ∧ bs.IsChain fun b b' =>
      ∀ t ∈ rowTime fromIso b, ∀ t' ∈ rowTime fromIso b', windowSeconds coalesceMs < t' - t)
    ⟨fun h => ⟨h.1, h.2⟩, fun h => ⟨h.timed, h.apart⟩⟩

/-- The clock of a replay at a given time. -/
def replayAt (stamp : String) : ReplayClock := ⟨fun _ => stamp, fun _ => stamp⟩

/-- Two changes that are two seconds apart are replayed as they were written. -/
theorem replayAgrees_when_twoChanges :
    ReplayAgrees newYear 1000 [pollAt 0 "a:1" "", pollAt 2 "b:1" "", pollAt 4 "c:1" ""] (endAt 6)
      (replayAt "2026-01-02T00:00:00Z") :=
  (replayAgrees_when newYear 1000 _ _ _).1 ⟨by decide +kernel, fun n hn => by
    have hlength : (watchBatches newYear 1000
        [pollAt 0 "a:1" "", pollAt 2 "b:1" "", pollAt 4 "c:1" ""]).length = 2 := by decide +kernel
    rw [detectReverterLoop, if_pos]
    rw [List.length_map, List.length_take]
    omega⟩

/-- Changes a second apart: the first two are one row, the third is another, and the
replay makes one event of both. -/
theorem rows_recoalesced :
    ¬ ReplayAgrees newYear 1000
      [pollAt 0 "a:1" "", pollAt 1 "b:1" "", pollAt 2 "c:1" "", pollAt 3 "d:1" ""] (endAt 4)
      (replayAt "2026-01-02T00:00:00Z") := by
  intro h
  have hspaced := h.spaced ⟨by decide +kernel, by decide +kernel⟩
  exact absurd hspaced (by decide +kernel)

end StateMachine
