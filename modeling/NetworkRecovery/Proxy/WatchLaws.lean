import NetworkRecovery.Proxy.Normalized
import NetworkRecovery.Proxy.Watch

/-!
# The rows of a watch

Each step of the watch always goes through on states of polls: they normalize,
batches of them merge, and loops can be looked for. A row shows the changes of one
batch (`Records`), and the watch keeps what it has written and what it holds
(`Tracking`).
-/

namespace StateMachine

open Python ProxyGuard Batching

/-! ## States of polls -/

/-- The state of a poll, normalized. -/
def ProxyState.normalized (s : ProxyState) : ProxyWininetState :=
  stateOf s.toDict s.wininetProxyEnabled none
    (((parseProxyServer (serverOfRaw s.toDict)).localhostPort).or s.localhostPort)

theorem normalizeProxyState_toDict (s : ProxyState) :
    normalizeProxyState (some s.toDict) = .ok s.normalized := by
  have henable : firstKey s.toDict ["proxy_enable", "ProxyEnable", "wininet_proxy_enabled"] =
      .bool s.wininetProxyEnabled := rfl
  have hdetect : firstKey s.toDict ["auto_detect", "AutoDetect"] = .none := rfl
  have hport : resolvePort s.toDict (parseProxyServer (serverOfRaw s.toDict)) =
      .ok (((parseProxyServer (serverOfRaw s.toDict)).localhostPort).or s.localhostPort) := by
    unfold resolvePort
    cases (parseProxyServer (serverOfRaw s.toDict)).localhostPort with
    | some port => rfl
    | none =>
      have hraw : firstKey s.toDict ["localhost_port"] = optionalInt s.localhostPort := rfl
      rw [hraw]
      cases s.localhostPort with
      | none => rfl
      | some port => rfl
  unfold normalizeProxyState
  simp only [Option.getD_some, henable, hdetect, flagOf, hport, bind, Except.bind, pure, Except.pure]
  rfl

/-! ## Loops are always looked for -/

/-- An item of the evidence that the detector of loops can read. -/
def LoopReadable (item : LoopInput) : Prop :=
  (∃ st, normalizeValue item.before = .ok st) ∧ ∃ st, normalizeValue item.after = .ok st

theorem loopStep_ok (fromIso : String → Option ℚ) {item : LoopInput} (h : LoopReadable item)
    (timeline : List LoopPoint) : ∃ next, loopStep fromIso timeline item = .ok next := by
  obtain ⟨⟨st, hst⟩, ⟨st', hst'⟩⟩ := h
  unfold loopStep
  cases parseTs fromIso item.ts with
  | none => exact ⟨timeline, rfl⟩
  | some ts =>
    dsimp only
    rw [hst, hst']
    cases timeline with
    | nil => exact ⟨_, rfl⟩
    | cons point timeline => exact ⟨_, rfl⟩

theorem loopTimeline_ok (fromIso : String → Option ℚ) {items : List LoopInput}
    (h : ∀ item ∈ items, LoopReadable item) (start : List LoopPoint) :
    ∃ timeline, items.foldlM (loopStep fromIso) start = .ok timeline := by
  induction items generalizing start with
  | nil => exact ⟨start, rfl⟩
  | cons item items ih =>
    obtain ⟨next, hnext⟩ := loopStep_ok fromIso (h item (by simp)) start
    rw [List.foldlM_cons, hnext]
    exact ih (fun item' hitem' => h item' (List.mem_cons_of_mem _ hitem')) next

theorem detectReverterLoop_ok (fromIso : String → Option ℚ) {items : List LoopInput}
    (h : ∀ item ∈ items, LoopReadable item) : ∃ loop, detectReverterLoop fromIso items = .ok loop := by
  unfold detectReverterLoop
  split
  · exact ⟨false, rfl⟩
  · obtain ⟨timeline, htimeline⟩ := loopTimeline_ok fromIso h []
    rw [loopTimeline, htimeline]
    exact ⟨_, rfl⟩

/-! ## Changes -/

/-- A change: two consecutive states, and the poll that found the second. -/
structure Change where
  before : ProxyState
  after : ProxyState
  poll : Poll

def Change.event (c : Change) : Dict := rawChange c.before c.after c.poll

/-- The states of a change. -/
def Change.step (c : Change) : Value × Value := (.dict c.before.toDict, .dict c.after.toDict)

/-- The cut that `coalesce_proxy_events` makes of changes. -/
def cutChanges (fromIso : String → Option ℚ) (coalesceWindowMs : Int) (changes : List Change) :
    List (List Change) :=
  batches (fun a b => near fromIso coalesceWindowMs a.event b.event)
    (changes.insertionSort fun a b => sortKey fromIso a.event ≤ sortKey fromIso b.event)

theorem coalesceProxyEvents_changes (fromIso : String → Option ℚ) (utc : Nat → String)
    (coalesceWindowMs : Int) (changes : List Change) :
    coalesceProxyEvents fromIso utc (changes.map Change.event) coalesceWindowMs =
      emitAll utc coalesceWindowMs 0
        ((cutChanges fromIso coalesceWindowMs changes).map (List.map Change.event)) := by
  have hsort : (changes.insertionSort fun a b =>
      sortKey fromIso a.event ≤ sortKey fromIso b.event).map Change.event =
      sortByTime fromIso (changes.map Change.event) :=
    List.map_insertionSort _ _ _ _ fun a _ b _ => Iff.rfl
  unfold coalesceProxyEvents cutChanges
  rw [cutBatches_eq, ← batches_map, hsort]

theorem flatten_cutChanges (fromIso : String → Option ℚ) (coalesceWindowMs : Int)
    (changes : List Change) : (cutChanges fromIso coalesceWindowMs changes).flatten.Perm changes := by
  unfold cutChanges
  rw [flatten_batches]
  exact List.perm_insertionSort _ _

theorem cutChanges_ne_nil {fromIso : String → Option ℚ} {coalesceWindowMs : Int}
    {changes b : List Change} (h : b ∈ cutChanges fromIso coalesceWindowMs changes) : b ≠ [] :=
  ((anchored_batches _).batch b h).ne_nil

/-- What a merged event shows of the changes it is merged from. -/
structure Shows (batch : List Change) (ev : Dict) : Prop where
  before : ∀ first ∈ batch.head?, ev.get? "before" = some (.dict first.before.toDict)
  after : ∀ last ∈ batch.getLast?, ev.get? "after" = some (.dict last.after.toDict)
  stamp : ∀ last ∈ batch.getLast?, last.poll.now ≠ "" →
    ev.get? "timestamp_utc" = some (.str last.poll.now)
  subs : rawSubEvents ev =
    if batch.length = 1 then [] else batch.map fun c => rawSummary c.event

theorem beforeOf_event (c : Change) : beforeOf c.event = .dict c.before.toDict := rfl

theorem afterOf_event (c : Change) : afterOf c.event = .dict c.after.toDict := rfl

theorem shows_emitSingle (coalesceWindowMs : Int) (c : Change) :
    Shows [c] (emitSingle coalesceWindowMs c.event) := by
  refine ⟨fun first hfirst => ?_, fun last hlast => ?_, fun last hlast _ => ?_, ?_⟩
  · obtain rfl := Option.some.inj hfirst
    rw [emitSingle_get? _ (by decide)]
    rfl
  · rw [List.getLast?_singleton] at hlast
    obtain rfl := Option.some.inj hlast
    rw [emitSingle_get? _ (by decide)]
    rfl
  · rw [List.getLast?_singleton] at hlast
    obtain rfl := Option.some.inj hlast
    rw [emitSingle_get? _ (by decide)]
    rfl
  · unfold rawSubEvents
    rw [emitSingle_get? _ (by decide)]
    rfl

/-- A merged event over its evidence: the states go on top, and the rest is the
evidence's. -/
theorem shows_merged {batch : List Change} {first last : Change} (hmany : batch.length ≠ 1)
    (hfirst : batch.head? = some first) (hlast : batch.getLast? = some last) {evidence : Dict}
    (hstamp : last.poll.now ≠ "" → evidence.get? "timestamp_utc" = some (.str last.poll.now))
    (hsubs : evidence.get? "raw_sub_events" = some (.list (batch.map fun c => rawSummary c.event))) :
    Shows batch ((evidence.set "before" (.dict first.before.toDict)).set "after"
      (.dict last.after.toDict)) := by
  refine ⟨fun a ha => ?_, fun b hb => ?_, fun b hb hne => ?_, ?_⟩
  · obtain rfl := Option.some.inj (hfirst.symm.trans ha)
    rw [Dict.get?_set_of_ne _ (by decide), Dict.get?_set_self]
  · obtain rfl := Option.some.inj (hlast.symm.trans hb)
    rw [Dict.get?_set_self]
  · obtain rfl := Option.some.inj (hlast.symm.trans hb)
    rw [Dict.get?_set_of_ne _ (by decide), Dict.get?_set_of_ne _ (by decide), hstamp hne]
  · unfold rawSubEvents
    rw [Dict.get?_set_of_ne _ (by decide), Dict.get?_set_of_ne _ (by decide), hsubs, if_neg hmany]

/-- Every batch of changes is merged, and the merged event shows it. -/
theorem emitBatch_changes (utc : String) (coalesceWindowMs : Int) {batch : List Change}
    (hne : batch ≠ []) :
    ∃ ev, emitBatch utc coalesceWindowMs (batch.map Change.event) = .ok ev ∧ Shows batch ev := by
  match batch, hne with
  | [c], _ => exact ⟨_, rfl, shows_emitSingle coalesceWindowMs c⟩
  | first :: second :: rest, hne =>
    have hlast := List.getLast?_eq_some_getLast hne
    generalize (first :: second :: rest).getLast hne = last at hlast
    have hlastEvent : ((first :: second :: rest).map Change.event).getLast? = some last.event := by
      rw [List.getLast?_map, hlast]
      rfl
    have hmany : ((first :: second :: rest).map Change.event).length ≠ 1 := by simp
    have hlistener : listenerDict (orElse (last.event.get? "owner")
        ((last.event.get? "listener").getD .none)) = .ok none := rfl
    obtain ⟨args, ts, transition, explanation, hargs, hts, hout⟩ :=
      emitBatch_many utc coalesceWindowMs hmany rfl hlastEvent (beforeOf_event first)
        (afterOf_event last) (normalizeProxyState_toDict first.before)
        (normalizeProxyState_toDict last.after) hlistener
    have hmeta : args.coalesceMeta.keys =
        ["coalesced", "coalesce_window_ms", "raw_sub_event_count"] := by
      rw [hargs]
      rfl
    refine ⟨_, hout, shows_merged (by simp) rfl hlast (fun hne => ?_) ?_⟩
    · have hstamp : args.timestampUtc = last.poll.now := by
        have hget : last.event.get? "timestamp_utc" = some (.str last.poll.now) := rfl
        rw [hargs, mergedArgs, getLastD_of_getLast? hlastEvent, hget, orElse_str hne]
        rfl
      rw [evidenceEvent_get? (by rw [hmeta]; decide) (by decide), hts, hstamp,
        if_neg (by simpa using hne)]
      rfl
    · have hsubs : args.rawSubEvents = (first :: second :: rest).map fun c => rawSummary c.event := by
        rw [hargs, mergedArgs, List.map_map]
        rfl
      unfold evidenceEvent
      rw [hsubs, if_neg (by simp), Dict.get?_set_self]

theorem emitAll_changes (utc : Nat → String) (coalesceWindowMs : Int) {bs : List (List Change)}
    (hne : ∀ b ∈ bs, b ≠ []) (i : Nat) :
    ∃ out, emitAll utc coalesceWindowMs i (bs.map (List.map Change.event)) = .ok out ∧
      List.Forall₂ Shows bs out := by
  induction bs generalizing i with
  | nil => exact ⟨[], rfl, .nil⟩
  | cons b bs ih =>
    obtain ⟨ev, hev, hshows⟩ := emitBatch_changes (utc i) coalesceWindowMs (hne b (by simp))
    obtain ⟨out, hout, hrest⟩ := ih (fun b' hb' => hne b' (List.mem_cons_of_mem _ hb')) (i + 1)
    refine ⟨ev :: out, ?_, .cons hshows hrest⟩
    rw [List.map_cons, emitAll, hev, hout]
    rfl

/-- What the buffer puts out shows the changes it held. -/
theorem coalesceProxyEvents_shows (fromIso : String → Option ℚ) (utc : Nat → String)
    (coalesceWindowMs : Int) (changes : List Change) :
    ∃ out, coalesceProxyEvents fromIso utc (changes.map Change.event) coalesceWindowMs = .ok out ∧
      List.Forall₂ Shows (cutChanges fromIso coalesceWindowMs changes) out := by
  rw [coalesceProxyEvents_changes]
  exact emitAll_changes utc coalesceWindowMs (fun b hb => cutChanges_ne_nil hb) 0

/-! ## Rows -/

/-- The evidence of a change between two states. -/
structure Evidences (before after : ProxyState) (stamp : String) (loop : Bool) (evidence : Dict) :
    Prop where
  stamped : stamp ≠ "" → evidence.get? "timestamp_utc" = some (.str stamp)
  beforeState : evidence.get? "before_state" = some (.dict before.normalized.toDict)
  afterState : evidence.get? "after_state" = some (.dict after.normalized.toDict)
  transitionClass : evidence.get? "transition_class" = some (.str (if loop then
    TransitionClass.reverterSuspectedLocalhostProxyLoop.value
    else (classifyStates before.normalized after.normalized none).value))

/-- The row of a batch of changes. -/
structure Records (batch : List Change) (loop : Bool) (row evidence : Dict) : Prop where
  event : row.get? "event" = some (.str "proxy_change")
  evident : row.get? "transition_evidence" = some (.dict evidence)
  owner : ∃ listener, listenerDict ((row.get? "owner").getD .none) = .ok listener
  subs : rawSubEvents row =
    if batch.length = 1 then [] else batch.map fun c => rawSummary c.event
  ends : ∀ first ∈ batch.head?, ∀ last ∈ batch.getLast?,
    row.get? "old_state" = some (.dict first.before.toDict) ∧
      row.get? "new_state" = some (.dict last.after.toDict) ∧
      (last.poll.now ≠ "" → row.get? "timestamp_utc" = some (.str last.poll.now)) ∧
      Evidences first.before last.after last.poll.now loop evidence

/-- The override that the watch computes is what the classifier finds by itself. -/
theorem classifyStates_mismatch (before : ProxyWininetState) (s : ProxyState) :
    classifyStates before s.normalized
        (some (truthyKey s.toDict "wininet_proxy_enabled" &&
          truthyKey s.toDict "winhttp_direct_access")) =
      classifyStates before s.normalized none := by
  have henabled : truthyKey s.toDict "wininet_proxy_enabled" = s.normalized.proxyEnable := rfl
  have hdirect : s.normalized.winhttpDirectAccess =
      some (truthyKey s.toDict "winhttp_direct_access") := rfl
  unfold classifyStates
  rw [hdirect, henabled]
  rfl

theorem markReverter_get? {limitations : List String} {evidence : Dict} {key : String}
    (h : key ∉ ["transition_class", "risk", "recommended_action", "limitations",
      "policy_decision"]) : (markReverter limitations evidence).get? key = evidence.get? key :=
  Dict.get?_foldl_set [("transition_class", _), ("risk", _), ("recommended_action", _),
    ("limitations", _), ("policy_decision", _)] h

theorem markReverter_transition (limitations : List String) (evidence : Dict) :
    (markReverter limitations evidence).get? "transition_class" =
      some (.str TransitionClass.reverterSuspectedLocalhostProxyLoop.value) := by
  have hother : "transition_class" ∉
      ["risk", "recommended_action", "limitations", "policy_decision"] := by
    decide
  exact (Dict.get?_foldl_set
    [("risk", _), ("recommended_action", _), ("limitations", _), ("policy_decision", _)] hother).trans
    (Dict.get?_set_self _ _ _)

/-- Marking does not change what the detector of loops looks at. -/
theorem loopInput_markReverter (limitations : List String) (evidence : Dict) :
    loopInput (markReverter limitations evidence) = loopInput evidence := by
  unfold loopInput timestampText
  simp only [markReverter_get? (by decide : "timestamp_utc" ∉ _),
    markReverter_get? (by decide : "before_state" ∉ _), markReverter_get? (by decide : "before" ∉ _),
    markReverter_get? (by decide : "old_state" ∉ _),
    markReverter_get? (by decide : "after_state" ∉ _), markReverter_get? (by decide : "after" ∉ _),
    markReverter_get? (by decide : "new_state" ∉ _)]

/-- Evidence as the detector of loops sees it. -/
theorem Evidences.loopInput_eq {before after : ProxyState} {stamp : String} {loop : Bool}
    {evidence : Dict} (h : Evidences before after stamp loop evidence) :
    (loopInput evidence).before = .dict before.normalized.toDict ∧
      (loopInput evidence).after = .dict after.normalized.toDict ∧
      (stamp ≠ "" → (loopInput evidence).ts = stamp) := by
  refine ⟨?_, ?_, fun hne => ?_⟩
  · unfold loopInput
    rw [h.beforeState]
    rfl
  · unfold loopInput
    rw [h.afterState]
    rfl
  · unfold loopInput timestampText
    rw [h.stamped hne, orElse_str hne]
    rfl

theorem Evidences.loopReadable {before after : ProxyState} {stamp : String} {loop : Bool}
    {evidence : Dict} (h : Evidences before after stamp loop evidence) :
    LoopReadable (loopInput evidence) := by
  obtain ⟨hbefore, hafter, -⟩ := h.loopInput_eq
  unfold LoopReadable
  rw [hbefore, hafter]
  exact ⟨⟨_, normalizeProxyState_reread _⟩, _, normalizeProxyState_reread _⟩

/-- Evidence that is marked when a loop is found. -/
theorem Evidences.mark {before after : ProxyState} {stamp : String} {evidence : Dict}
    (h : Evidences before after stamp false evidence) (loop : Bool) :
    Evidences before after stamp loop
      (if loop then markReverter reverterLimitations evidence else evidence) := by
  cases loop with
  | false => exact h
  | true =>
    refine ⟨fun hne => ?_, ?_, ?_, markReverter_transition _ _⟩
    · rw [if_pos rfl, markReverter_get? (by decide), h.stamped hne]
    · rw [if_pos rfl, markReverter_get? (by decide), h.beforeState]
    · rw [if_pos rfl, markReverter_get? (by decide), h.afterState]

/-- The evidence that is built for two states of polls. -/
theorem evidences_of_build (now : String) (args : EvidenceArgs) {before after : ProxyState}
    {stamp : String} (hbefore : args.beforeRaw = before.toDict) (hafter : args.afterRaw = after.toDict)
    (hstamp : stamp ≠ "" → args.timestampUtc = stamp)
    (hmeta : args.coalesceMeta.keys = ["coalesced", "coalesce_window_ms", "raw_sub_event_count"])
    (hoverride : args.transitionOverride = none)
    (hmismatch : classifyStates before.normalized after.normalized args.winhttpMismatch =
      classifyStates before.normalized after.normalized none)
    {listener : Option Dict} (hlistener : listenerDict args.listener = .ok listener) :
    ∃ evidence, buildProxyEvidenceEvent now args = .ok evidence ∧
      Evidences before after stamp false evidence := by
  have hst : normalizeProxyState (some args.beforeRaw) = .ok before.normalized := by
    rw [hbefore, normalizeProxyState_toDict]
  have hst' : normalizeProxyState (some args.afterRaw) = .ok after.normalized := by
    rw [hafter, normalizeProxyState_toDict]
  refine ⟨_, buildProxyEvidenceEvent_ok now args hst hst' hlistener, fun hne => ?_, ?_, ?_, ?_⟩
  · rw [evidenceEvent_get? (by rw [hmeta]; decide) (by decide), hstamp hne,
      if_neg (by simpa using hne)]
    rfl
  · rw [evidenceEvent_get? (by rw [hmeta]; decide) (by decide)]
    rfl
  · rw [evidenceEvent_get? (by rw [hmeta]; decide) (by decide)]
    rfl
  · rw [evidenceEvent_get? (by rw [hmeta]; decide) (by decide), hoverride, Option.getD_none,
      hmismatch]
    rfl

theorem get?_append (d d' : Dict) (key : String) :
    Dict.get? (d ++ d') key = (d.get? key).or (d'.get? key) :=
  List.lookup_append

theorem ownerEntry_get? (owner : Value) {key : String} (h : key ≠ "owner") :
    (ownerEntry owner).get? key = none := by
  have hne : (key == "owner") = false := beq_eq_false_iff_ne.mpr h
  unfold ownerEntry
  split
  · rfl
  · rw [Dict.get?, List.lookup_cons, hne]
    rfl

theorem rawSubEvents_changeRow (ev : Dict) (coalesceMs : Int) (now : String) (owner : Value)
    (before after evidence : Dict) (loop : Bool) :
    rawSubEvents (changeRow ev coalesceMs now owner before after evidence loop) =
      rawSubEvents ev := by
  have hkey : (changeRow ev coalesceMs now owner before after evidence loop).get?
      "raw_sub_events" =
      if (rawSubEvents ev).isEmpty then none else some (.list (rawSubEvents ev)) := by
    unfold changeRow
    rw [get?_append, get?_append, get?_append, get?_append, ownerEntry_get? _ (by decide)]
    cases (rawSubEvents ev).isEmpty <;> cases loop <;> rfl
  generalize rawSubEvents ev = subs at hkey
  unfold rawSubEvents
  rw [hkey]
  cases subs with
  | nil => rfl
  | cons sub subs => rfl

theorem changeRow_evidence (ev : Dict) (coalesceMs : Int) (now : String) (owner : Value)
    (before after evidence : Dict) (loop : Bool) :
    (changeRow ev coalesceMs now owner before after evidence loop).get? "transition_evidence" =
      some (.dict evidence) := by
  unfold changeRow
  rw [get?_append, get?_append, get?_append, get?_append, ownerEntry_get? _ (by decide)]
  cases (rawSubEvents ev).isEmpty <;> cases loop <;> rfl

theorem changeRow_owner (ev : Dict) (coalesceMs : Int) (now : String) (owner : Value)
    (before after evidence : Dict) (loop : Bool) :
    ((changeRow ev coalesceMs now owner before after evidence loop).get? "owner").getD .none =
      owner := by
  unfold changeRow
  rw [get?_append, get?_append, get?_append, get?_append]
  cases (rawSubEvents ev).isEmpty <;> cases loop <;> cases owner <;> rfl

/-- The row that is written for a merged event. -/
theorem records_changeRow {batch : List Change} {ev : Dict} (hshows : Shows batch ev)
    {first last : Change} (hfirst : batch.head? = some first) (hlast : batch.getLast? = some last)
    (coalesceMs : Int) (now : String) {owner : Value} {listener : Option Dict}
    (hlistener : listenerDict owner = .ok listener) {evidence : Dict} {loop : Bool}
    (hevidence : Evidences first.before last.after last.poll.now loop evidence) :
    Records batch loop (changeRow ev coalesceMs now owner first.before.toDict last.after.toDict
      evidence loop) evidence := by
  refine ⟨rfl, changeRow_evidence _ _ _ _ _ _ _ _, ⟨listener, ?_⟩, ?_, ?_⟩
  · rw [changeRow_owner, hlistener]
  · rw [rawSubEvents_changeRow, hshows.subs]
  · intro a ha b hb
    obtain rfl := Option.some.inj (hfirst.symm.trans ha)
    obtain rfl := Option.some.inj (hlast.symm.trans hb)
    refine ⟨rfl, rfl, fun hne => ?_, hevidence⟩
    have hstamp : (changeRow ev coalesceMs now owner first.before.toDict last.after.toDict evidence
        loop).get? "timestamp_utc" = some (orElse (ev.get? "timestamp_utc") (.str now)) := rfl
    rw [hstamp, hshows.stamp last hlast hne, orElse_str hne]

/-- `_finalize_coalesced` writes a row and keeps its evidence. -/
theorem finalizeCoalesced_spec (fromIso : String → Option ℚ) (now : String)
    (detectProxyOwner : Dict → Dict) (w : Watch) {batch : List Change} (hne : batch ≠ []) {ev : Dict}
    (hshows : Shows batch ev)
    (hlog : ∀ e ∈ w.transitionEvidenceLog, LoopReadable (loopInput e)) :
    ∃ row evidence loop,
      finalizeCoalesced fromIso now detectProxyOwner w ev =
        .ok { w with
          transitionEvidenceLog := w.transitionEvidenceLog ++ [evidence]
          log := w.log ++ [row] } ∧
      detectReverterLoop fromIso ((w.transitionEvidenceLog ++ [evidence]).map loopInput) =
        .ok loop ∧
      Records batch loop row evidence := by
  have hfirst := List.head?_eq_some_head hne
  have hlast := List.getLast?_eq_some_getLast hne
  generalize batch.head hne = first at hfirst
  generalize batch.getLast hne = last at hlast
  have hbefore : stateDict (orElse (ev.get? "before")
      (orElse (ev.get? "before_state") (.dict []))) = .ok first.before.toDict := by
    rw [hshows.before first hfirst]
    rfl
  have hafter : stateDict (orElse (ev.get? "after")
      (orElse (ev.get? "after_state") (.dict []))) = .ok last.after.toDict := by
    rw [hshows.after last hlast]
    rfl
  generalize howner : (if isLocalhostTransition last.after.toDict then
    Value.dict (detectProxyOwner last.after.toDict) else .none) = owner
  have hlistener : ∃ listener, listenerDict owner = .ok listener := by
    rw [← howner]
    split
    · exact ⟨_, rfl⟩
    · exact ⟨none, rfl⟩
  obtain ⟨listener, hlistener⟩ := hlistener
  obtain ⟨evidence, hbuild, hevidence⟩ := evidences_of_build now
    (rowArgs ev w.buffer.coalesceWindowMs now owner first.before.toDict last.after.toDict)
    rfl rfl
    (fun hne => by rw [rowArgs, hshows.stamp last hlast hne, orElse_str hne]; rfl)
    rfl rfl (classifyStates_mismatch _ _) hlistener
  have hreadable : ∀ item ∈ (w.transitionEvidenceLog ++ [evidence]).map loopInput,
      LoopReadable item := by
    intro item hitem
    obtain ⟨e, he, rfl⟩ := List.mem_map.mp hitem
    rcases List.mem_append.mp he with he | he
    · exact hlog e he
    · rw [List.mem_singleton.mp he]
      exact hevidence.loopReadable
  obtain ⟨loop, hloop⟩ := detectReverterLoop_ok fromIso hreadable
  refine ⟨_, _, loop, ?_, ?_, records_changeRow hshows hfirst hlast w.buffer.coalesceWindowMs now
    hlistener (hevidence.mark loop)⟩
  · unfold finalizeCoalesced
    simp only [hbefore, hafter, howner, hbuild, hloop, bind, Except.bind, pure, Except.pure]
  · have hsame : loopInput (if loop then markReverter reverterLimitations evidence else evidence) =
        loopInput evidence := by
      cases loop with
      | false => rfl
      | true => exact loopInput_markReverter _ _
    rw [List.map_append, List.map_singleton, hsame]
    rwa [List.map_append, List.map_singleton] at hloop

/-- A row of the log, with what it stands for. -/
structure Entry where
  batch : List Change
  row : Dict
  evidence : Dict
  loop : Bool

/-- Rows that were written one after another, over the evidence that was there. -/
def Written (fromIso : String → Option ℚ) : List Dict → List Entry → Prop
  | _, [] => True
  | old, e :: es =>
    Records e.batch e.loop e.row e.evidence ∧
      detectReverterLoop fromIso ((old ++ [e.evidence]).map loopInput) = .ok e.loop ∧
      Written fromIso (old ++ [e.evidence]) es

theorem Written.append {fromIso : String → Option ℚ} {es es' : List Entry} {old : List Dict}
    (h : Written fromIso old es) (h' : Written fromIso (old ++ es.map Entry.evidence) es') :
    Written fromIso old (es ++ es') := by
  induction es generalizing old with
  | nil => rwa [List.map_nil, List.append_nil] at h'
  | cons e es ih =>
    obtain ⟨hrecords, hloop, hrest⟩ := h
    refine ⟨hrecords, hloop, ih hrest ?_⟩
    rwa [List.map_cons, List.append_cons] at h'

theorem Written.records {fromIso : String → Option ℚ} {es : List Entry} {old : List Dict}
    (h : Written fromIso old es) : ∀ e ∈ es, Records e.batch e.loop e.row e.evidence := by
  induction es generalizing old with
  | nil => exact fun e he => absurd he (by simp)
  | cons e es ih =>
    intro e' he'
    rcases List.mem_cons.mp he' with rfl | he'
    · exact h.1
    · exact ih h.2.2 e' he'

/-- The evidence of rows of changes can be read for loops. -/
theorem Written.loopReadable {fromIso : String → Option ℚ} {es : List Entry} {old : List Dict}
    (h : Written fromIso old es) (hne : ∀ e ∈ es, e.batch ≠ []) :
    ∀ ev ∈ es.map Entry.evidence, LoopReadable (loopInput ev) := by
  intro ev hev
  obtain ⟨e, he, rfl⟩ := List.mem_map.mp hev
  obtain ⟨-, -, -, hevidence⟩ := (h.records e he).ends _ (List.head?_eq_some_head (hne e he)) _
    (List.getLast?_eq_some_getLast (hne e he))
  exact hevidence.loopReadable

/-- A watch that has written these rows and holds these changes. -/
structure Tracking (fromIso : String → Option ℚ) (coalesceWindowMs : Int) (w : Watch)
    (es : List Entry) (pending : List Change) : Prop where
  window : w.buffer.coalesceWindowMs = coalesceWindowMs
  held : w.buffer.pending = pending.map Change.event
  evidence : w.transitionEvidenceLog = es.map Entry.evidence
  rows : changeRows w.log = es.map Entry.row
  written : Written fromIso [] es
  nonempty : ∀ e ∈ es, e.batch ≠ []

theorem changeRows_append (log : List Dict) {row : Dict}
    (h : row.get? "event" = some (.str "proxy_change")) :
    changeRows (log ++ [row]) = changeRows log ++ [row] := by
  unfold changeRows
  rw [List.filter_append, List.filter_singleton, h]
  rfl

/-- What the buffer puts out is written. -/
theorem finalize_all {fromIso : String → Option ℚ} {coalesceWindowMs : Int} (now : String)
    (detectProxyOwner : Dict → Dict) {bs : List (List Change)} {out : List Dict}
    (hshows : List.Forall₂ Shows bs out) (hne : ∀ b ∈ bs, b ≠ []) :
    ∀ {w : Watch} {es : List Entry} {pending : List Change},
      Tracking fromIso coalesceWindowMs w es pending →
      ∃ w' es', out.foldlM (finalizeCoalesced fromIso now detectProxyOwner) w = .ok w' ∧
        es'.map Entry.batch = bs ∧ w'.prior = w.prior ∧ w'.buffer = w.buffer ∧
        Tracking fromIso coalesceWindowMs w' (es ++ es') pending := by
  induction hshows with
  | nil =>
    intro w es pending h
    refine ⟨w, [], rfl, rfl, rfl, rfl, ?_⟩
    rwa [List.append_nil]
  | @cons b ev bs out hb hrest ih =>
    intro w es pending h
    have hlog : ∀ e ∈ w.transitionEvidenceLog, LoopReadable (loopInput e) := by
      rw [h.evidence]
      exact h.written.loopReadable h.nonempty
    obtain ⟨row, evidence, loop, hfinal, hloop, hrecords⟩ :=
      finalizeCoalesced_spec fromIso now detectProxyOwner w (hne b (by simp)) hb hlog
    have hnext : Tracking fromIso coalesceWindowMs
        { w with
          transitionEvidenceLog := w.transitionEvidenceLog ++ [evidence]
          log := w.log ++ [row] } (es ++ [⟨b, row, evidence, loop⟩]) pending := by
      refine ⟨h.window, h.held, ?_, ?_, h.written.append ?_, ?_⟩
      · rw [h.evidence, List.map_append]
        rfl
      · rw [changeRows_append _ hrecords.event, h.rows, List.map_append]
        rfl
      · rw [List.nil_append, ← h.evidence]
        exact ⟨hrecords, hloop, trivial⟩
      · intro e he
        rcases List.mem_append.mp he with he | he
        · exact h.nonempty e he
        · rw [List.mem_singleton.mp he]
          exact hne b (by simp)
    obtain ⟨w', es', hfold, hbatches, hprior, hbuffer, htrack⟩ :=
      ih (fun b' hb' => hne b' (List.mem_cons_of_mem _ hb')) hnext
    refine ⟨w', ⟨b, row, evidence, loop⟩ :: es', ?_, ?_, hprior, hbuffer, ?_⟩
    · rw [List.foldlM_cons, hfinal]
      exact hfold
    · rw [List.map_cons, hbatches]
    · rwa [List.append_assoc] at htrack

end StateMachine
