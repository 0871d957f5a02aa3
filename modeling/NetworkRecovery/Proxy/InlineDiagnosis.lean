import NetworkRecovery.Proxy.WatchRuns
import NetworkRecovery.Proxy.WatchDiagnosis

/-!
# The diagnosis of every change

The watch analyses each change as soon as it is there: `_enrich_change` hands the records of the
changes before it to `analyze_proxy_watch_history`, and the event itself. The event has its states
under `old_state` and `new_state`, and only the record that is kept of it has them under `before`
and `after`, so the analysis takes the newest change for one that left the proxy off.

The diagnosis agrees with the records as long as that is what it did (`diagnosis_agrees_when`).
-/

namespace StateMachine

open Python ProxyGuard

/-! ## The watch with its diagnoses -/

/-- A poll, and what the probe of a listener says of a state. -/
structure ProbedPoll extends Poll where
  checkHealth : Dict → Dict → Dict

structure ProbedEnding extends Ending where
  checkHealth : Dict → Dict → Dict

/-- The watch with `change_events`, and the diagnosis of each `proxy_change` event so far. -/
structure DiagnosedWatch where
  watch : Watch
  changeEvents : List Dict := []
  diagnoses : List ReverterDiagnosis := []

def optionalDict : Option Dict → Value
  | none => .none
  | some d => .dict d

/-- The event as it is analysed: with the listener and its health for a local proxy. -/
def proxyChange (merged : Dict) (coalesceMs : Int) (now : String) (before after : Dict)
    (probed : Option (Dict × Dict)) : Dict :=
  [("timestamp_utc", orElse (merged.get? "timestamp_utc") (.str now)),
    ("event", .str "proxy_change"),
    ("old_state", .dict before),
    ("new_state", .dict after),
    ("coalesced", (merged.get? "coalesced").getD (.bool false)),
    ("coalesce_window_ms", (merged.get? "coalesce_window_ms").getD (.int coalesceMs)),
    ("raw_sub_event_count", (merged.get? "raw_sub_event_count").getD (.int 1))] ++
  (if (rawSubEvents merged).isEmpty then [] else
    [("raw_sub_events", Value.list (rawSubEvents merged))]) ++
  match probed with
  | none => []
  | some (owner, health) => [("owner", Value.dict owner), ("health", .dict health)]

/-- The record that is kept of it. -/
def changeRecord (merged : Dict) (now : String) (before after : Dict)
    (probed : Option (Dict × Dict)) : Dict :=
  [("timestamp_utc", orElse (merged.get? "timestamp_utc") (.str now)),
    ("before", .dict before),
    ("after", .dict after),
    ("owner", optionalDict (probed.map Prod.fst)),
    ("health", optionalDict (probed.map Prod.snd))]

section Run

variable (fromIso : String → Option ℚ)

/-- `_finalize_coalesced` with `_enrich_change`. -/
def finalizeDiagnosed (now : String) (detectProxyOwner : Dict → Dict)
    (checkHealth : Dict → Dict → Dict) (d : DiagnosedWatch) (merged : Dict) :
    Except PyError DiagnosedWatch := do
  let before ← stateDict
    (orElse (merged.get? "before") (orElse (merged.get? "before_state") (.dict [])))
  let after ← stateDict
    (orElse (merged.get? "after") (orElse (merged.get? "after_state") (.dict [])))
  let probed := if isLocalhostTransition after then
    some (detectProxyOwner after, checkHealth after (detectProxyOwner after)) else none
  let diagnosis ← analyzeProxyWatchHistory (d.changeEvents ++
    [proxyChange merged d.watch.buffer.coalesceWindowMs now before after probed])
  let watch ← finalizeCoalesced fromIso now detectProxyOwner d.watch merged
  return { watch := watch
           changeEvents := d.changeEvents ++ [changeRecord merged now before after probed]
           diagnoses := d.diagnoses ++ [diagnosis] }

/-- `_poll`. -/
def DiagnosedWatch.poll (d : DiagnosedWatch) (p : ProbedPoll) : Except PyError DiagnosedWatch :=
  match d.watch.prior with
  | none => (d.watch.poll fromIso p.toPoll).map fun watch => { d with watch := watch }
  | some prior =>
    if stateKey prior.toDict ≠ stateKey p.state.toDict then do
      let (flushed, buffer) ← d.watch.buffer.add fromIso (rawChange prior p.state p.toPoll) p.reading
      let d ← flushed.foldlM (finalizeDiagnosed fromIso p.now p.detectProxyOwner p.checkHealth)
        { d with watch := { d.watch with buffer := buffer } }
      return { d with watch := { d.watch with prior := some p.state } }
    else .ok { d with watch := { d.watch with prior := some p.state } }

/-- `run_proxy_watch`, with what it attaches to its events. -/
def runDiagnosedWatch (coalesceMs : Int) (polls : List ProbedPoll) (ending : ProbedEnding) :
    Except PyError DiagnosedWatch := do
  let d ← polls.foldlM (DiagnosedWatch.poll fromIso)
    { watch := { buffer := { coalesceWindowMs := max 200 (min coalesceMs 5000) } } }
  let (flushed, buffer) ← d.watch.buffer.flush fromIso ending.utc
  flushed.foldlM
    (finalizeDiagnosed fromIso ending.now ending.detectProxyOwner ending.checkHealth)
    { d with watch := { d.watch with buffer := buffer } }

end Run

/-! ## It is the watch -/

section Erased

variable {fromIso : String → Option ℚ}

theorem finalizeDiagnosed_watch {now : String} {detectProxyOwner : Dict → Dict}
    {checkHealth : Dict → Dict → Dict} {d d' : DiagnosedWatch} {merged : Dict}
    (h : finalizeDiagnosed fromIso now detectProxyOwner checkHealth d merged = .ok d') :
    finalizeCoalesced fromIso now detectProxyOwner d.watch merged = .ok d'.watch := by
  obtain ⟨before, -, h⟩ := bind_ok.mp h
  obtain ⟨after, -, h⟩ := bind_ok.mp h
  obtain ⟨diagnosis, -, h⟩ := bind_ok.mp h
  obtain ⟨watch, hwatch, h⟩ := bind_ok.mp h
  obtain rfl := Except.ok.inj h
  exact hwatch

theorem DiagnosedWatch.poll_watch {d d' : DiagnosedWatch} {p : ProbedPoll}
    (h : d.poll fromIso p = .ok d') : d.watch.poll fromIso p.toPoll = .ok d'.watch := by
  unfold DiagnosedWatch.poll at h
  split at h
  · obtain ⟨watch, hpoll, rfl⟩ := map_ok.mp h
    exact hpoll
  · next prior hprior =>
    unfold Watch.poll
    rw [hprior]
    dsimp only
    split at h
    · next hkey =>
      obtain ⟨⟨flushed, buffer⟩, hadd, h⟩ := bind_ok.mp h
      obtain ⟨d'', hfold, h⟩ := bind_ok.mp h
      obtain rfl := Except.ok.inj h
      have hwatch := foldlM_ok_map DiagnosedWatch.watch finalizeDiagnosed_watch hfold
      dsimp only at hwatch
      rw [hprior] at hwatch
      rw [if_pos hkey]
      exact bind_ok.mpr ⟨_, hadd, bind_ok.mpr ⟨_, hwatch, rfl⟩⟩
    · next hkey =>
      obtain rfl := Except.ok.inj h
      rw [if_neg hkey]

/-- Without the diagnoses it is the watch. -/
theorem runDiagnosedWatch_watch {coalesceMs : Int} {polls : List ProbedPoll} {ending : ProbedEnding}
    {d : DiagnosedWatch} (h : runDiagnosedWatch fromIso coalesceMs polls ending = .ok d) :
    runProxyWatch fromIso coalesceMs (polls.map ProbedPoll.toPoll) ending.toEnding =
      .ok d.watch := by
  obtain ⟨d', hpolls, h⟩ := bind_ok.mp h
  obtain ⟨⟨flushed, buffer⟩, hflush, h⟩ := bind_ok.mp h
  have hwatch : (polls.map ProbedPoll.toPoll).foldlM (Watch.poll fromIso)
      { buffer := { coalesceWindowMs := max 200 (min coalesceMs 5000) } } = .ok d'.watch := by
    rw [List.foldlM_map]
    exact foldlM_ok_map DiagnosedWatch.watch DiagnosedWatch.poll_watch hpolls
  exact bind_ok.mpr ⟨_, hwatch, bind_ok.mpr ⟨_, hflush,
    foldlM_ok_map DiagnosedWatch.watch finalizeDiagnosed_watch h⟩⟩

end Erased

/-! ## The event and its record -/

/-- An event and a record with the same listener and the same health. The event has no states where
the analysis looks for them. -/
structure SameButStates (event record : Dict) : Prop where
  noBefore : event.get? "before" = none
  noAfter : event.get? "after" = none
  owner : orEmpty event "owner" = orEmpty record "owner"
  health : orEmpty event "health" = orEmpty record "health"

theorem sameButStates (merged : Dict) (coalesceMs : Int) (now : String) (before after : Dict)
    (probed : Option (Dict × Dict)) :
    SameButStates (proxyChange merged coalesceMs now before after probed)
      (changeRecord merged now before after probed) := by
  have hget : ∀ key : String, key ∉ ["timestamp_utc", "event", "old_state", "new_state",
      "coalesced", "coalesce_window_ms", "raw_sub_event_count", "raw_sub_events"] →
      (proxyChange merged coalesceMs now before after probed).get? key =
        Dict.get? (match probed with
          | none => []
          | some (owner, health) => [("owner", .dict owner), ("health", .dict health)]) key := by
    intro key hkey
    refine Dict.get?_append_of_not_mem (fun hmem => hkey ?_) _
    simp only [Dict.keys, List.map_append, List.mem_append] at hmem
    rcases hmem with hmem | hmem
    · exact List.mem_of_mem_dropLast hmem
    · split at hmem
      · cases hmem
      · rw [List.mem_singleton.mp hmem]
        simp
  cases probed with
  | none =>
    refine ⟨hget "before" (by decide), hget "after" (by decide), ?_, ?_⟩
    · rw [orEmpty, hget "owner" (by decide)]
      rfl
    · rw [orEmpty, hget "health" (by decide)]
      rfl
  | some probed =>
    refine ⟨hget "before" (by decide), hget "after" (by decide), ?_, ?_⟩
    · rw [orEmpty, hget "owner" (by decide)]
      rfl
    · rw [orEmpty, hget "health" (by decide)]
      rfl

/-- A change that leaves the proxy off and without a port. -/
def LeavesOff (record : Dict) : Prop :=
  ∃ after, record.get? "after" = some (.dict after) ∧ enabledOf after = .ok 0 ∧
    portOf after = .ok none

/-- A change from a state without a port. -/
def NoPortBefore (record : Dict) : Prop :=
  ∃ before enabled, record.get? "before" = some (.dict before) ∧ enabledOf before = .ok enabled ∧
    portOf before = .ok none

theorem orEmpty_dict {ev state : Dict} {key : String} (h : ev.get? key = some (.dict state)) :
    orEmpty ev key = .dict state := by
  rw [orEmpty, h]
  cases state with
  | nil => rfl
  | cons entry state => rfl

theorem orEmpty_none {ev : Dict} {key : String} (h : ev.get? key = none) :
    orEmpty ev key = .dict [] := by
  rw [orEmpty, h]
  rfl

/-- A state that is off and without a port is as good as none. -/
theorem Seen.state_off (seen : Seen) {state : Dict} (henabled : enabledOf state = .ok 0)
    (hport : portOf state = .ok none) : seen.state (.dict state) = seen.state (.dict []) := by
  unfold Seen.state stateDict
  simp only [bind, Except.bind, henabled, hport]
  rfl

/-- The listener is seen apart from the switch. -/
theorem Seen.owner_enableVals (seen : Seen) (vals : List Int) (owner : Value) :
    ({ seen with enableVals := vals } : Seen).owner owner =
      (seen.owner owner).map fun s => { s with enableVals := vals } := by
  unfold Seen.owner
  cases stateDict owner with
  | error e => rfl
  | ok owner =>
    simp only [bind, Except.bind]
    cases cmdHash _ with
    | error e => rfl
    | ok hash => rfl

theorem Seen.owner_ports {seen seen' : Seen} {owner : Value} (h : seen.owner owner = .ok seen') :
    seen'.ports = seen.ports := by
  obtain ⟨owner', -, h⟩ := bind_ok.mp h
  obtain ⟨hash, -, h⟩ := bind_ok.mp h
  obtain rfl := Except.ok.inj h
  rfl

section Same

variable {event record : Dict}

theorem SameButStates.seen (h : SameButStates event record) (hoff : LeavesOff record)
    (seen : Seen) : Seen.event false seen event = Seen.event false seen record := by
  obtain ⟨after, hafter, henabled, hport⟩ := hoff
  have hstart : ∀ before, seen.start false before = .ok seen := fun _ => rfl
  unfold Seen.event
  rw [hstart, hstart, orEmpty_none h.noAfter, orEmpty_dict hafter, h.owner]
  simp only [bind, Except.bind, seen.state_off henabled hport]

theorem SameButStates.isStale (h : SameButStates event record) (hoff : LeavesOff record) :
    isStale event = isStale record := by
  obtain ⟨after, hafter, henabled, -⟩ := hoff
  have hsame : (stateDict (.dict []) >>= enabledOf) = (stateDict (.dict after) >>= enabledOf) :=
    henabled.symm
  unfold StateMachine.isStale
  rw [h.owner, h.health, orEmpty_none h.noAfter, orEmpty_dict hafter]
  simp only [stateDict, bind, Except.bind] at hsame ⊢
  simp only [hsame]

/-- What is seen of the first change, and of its record: the switch before it. -/
theorem SameButStates.seen_first (h : SameButStates event record) (hoff : LeavesOff record)
    (hbefore : NoPortBefore record) :
    ∃ (vals : List Int) (read : Except PyError Seen), vals.length ≤ 1 ∧
      (∀ seen, read = .ok seen → seen.ports = []) ∧
      Seen.event true {} event = read.map (fun seen => { seen with enableVals := [0] }) ∧
      Seen.event true {} record =
        read.map fun seen => { seen with enableVals := vals ++ [0] } := by
  obtain ⟨after, hafter, henabled, hport⟩ := hoff
  obtain ⟨before, enabled, hstate, hbeforeEnabled, hbeforePort⟩ := hbefore
  refine ⟨if (Value.dict before).truthy then [enabled] else [],
    Seen.owner {} (orEmpty record "owner"), ?_, fun seen => Seen.owner_ports, ?_, ?_⟩
  · split <;> simp
  · unfold Seen.event
    rw [orEmpty_none h.noBefore, orEmpty_none h.noAfter, h.owner]
    exact Seen.owner_enableVals {} [0] _
  · unfold Seen.event
    rw [orEmpty_dict hstate, orEmpty_dict hafter]
    unfold Seen.start
    rw [Bool.true_and]
    have hoffState : ∀ vals : List Int, Seen.state { enableVals := vals } (.dict after) =
        .ok { enableVals := vals ++ [0] } := by
      intro vals
      rw [Seen.state_off _ henabled hport]
      rfl
    split
    · have hfirst : Seen.state {} (.dict before) = .ok { enableVals := [enabled] } := by
        unfold Seen.state stateDict
        simp only [bind, Except.bind, hbeforeEnabled, hbeforePort]
        rfl
      simp only [hfirst, bind, Except.bind, hoffState]
      exact Seen.owner_enableVals {} _ _
    · simp only [bind, Except.bind, hoffState]
      exact Seen.owner_enableVals {} _ _

/-- Before a single change, the switch does not matter. -/
theorem conclude_first (seen : Seen) {vals : List Int} (hvals : vals.length ≤ 1)
    (hports : seen.ports = []) (stale : Bool) (status : Value) :
    conclude 1 { seen with enableVals := vals ++ [0] } stale status =
      conclude 1 { seen with enableVals := [0] } stale status := by
  have hverdict : verdict 1 (vals ++ [0]) [] = verdict 1 [0] [] := by
    match vals, hvals with
    | [], _ => rfl
    | [a], _ => rfl
  have hcycles : enableCycles (vals ++ [0]) = enableCycles [0] := by
    match vals, hvals with
    | [], _ => rfl
    | [a], _ => rfl
  have hlast : (vals ++ [0]).getLast? = [(0 : Int)].getLast? := by simp
  unfold conclude
  simp only [hports, hverdict, hcycles, hlast]

theorem analyze_concat (history : List Dict) (ev : Dict) :
    analyzeProxyWatchHistory (history ++ [ev]) = do
      let seen ← collect (history ++ [ev])
      let stale ← (ev :: history.reverse).anyM isStale
      let health ← stateDict (orEmpty ev "health")
      return conclude (history.length + 1) seen stale
        ((health.get? "proxy_status").getD .none) := by
  unfold analyzeProxyWatchHistory
  rw [List.getLast?_concat, List.reverse_concat, List.length_append]
  rfl

theorem SameButStates.stale (h : SameButStates event record) (hoff : LeavesOff record)
    (history : List Dict) :
    (event :: history).anyM StateMachine.isStale = (record :: history).anyM StateMachine.isStale := by
  rw [List.anyM, List.anyM, h.isStale hoff]

/-- The event is analysed as its record is, if it leaves the proxy off and without a port. -/
theorem analyze_same {history : List Dict} (h : SameButStates event record)
    (hoff : LeavesOff record) (hfirst : history = [] → NoPortBefore record) :
    analyzeProxyWatchHistory (history ++ [event]) =
      analyzeProxyWatchHistory (history ++ [record]) := by
  rw [analyze_concat, analyze_concat, h.stale hoff, h.health]
  cases history with
  | nil =>
    obtain ⟨vals, read, hvals, hports, hevent, hrecord⟩ := h.seen_first hoff (hfirst rfl)
    have hcollect : ∀ ev : Dict, collect ([] ++ [ev]) = Seen.event true {} ev := by
      intro ev
      rw [List.nil_append, collect]
      cases Seen.event true {} ev with
      | error e => rfl
      | ok seen => rfl
    rw [hcollect, hcollect, hevent, hrecord]
    cases read with
    | error e => rfl
    | ok seen =>
      simp only [Except.map, bind, Except.bind, List.length_nil, Nat.zero_add,
        conclude_first seen hvals (hports seen rfl)]
  | cons head history =>
    have hcollect : ∀ ev : Dict, collect (head :: history ++ [ev]) =
        collect (head :: history) >>= fun seen => Seen.event false seen ev := by
      intro ev
      rw [List.cons_append, collect, collect]
      cases Seen.event true {} head with
      | error e => rfl
      | ok seen =>
        simp only [bind, Except.bind]
        rw [List.foldlM_append]
        simp only [List.foldlM_cons, List.foldlM_nil, bind_pure]
        rfl
    rw [hcollect, hcollect]
    simp only [h.seen hoff, List.length_cons]

end Same

/-! ## Runs -/

/-- Each diagnosis is that of the records up to and including its own, after some that are there
already. -/
def Agrees : List Dict → List Dict → List ReverterDiagnosis → Prop
  | _, [], [] => True
  | old, record :: records, diagnosis :: diagnoses =>
    analyzeProxyWatchHistory (old ++ [record]) = .ok diagnosis ∧
      Agrees (old ++ [record]) records diagnoses
  | _, _, _ => False

theorem Agrees.concat {old records : List Dict} {diagnoses : List ReverterDiagnosis}
    (h : Agrees old records diagnoses) {record : Dict} {diagnosis : ReverterDiagnosis}
    (hlast : analyzeProxyWatchHistory (old ++ records ++ [record]) = .ok diagnosis) :
    Agrees old (records ++ [record]) (diagnoses ++ [diagnosis]) := by
  induction records generalizing old diagnoses with
  | nil =>
    cases diagnoses with
    | nil =>
      rw [List.append_nil] at hlast
      exact ⟨hlast, trivial⟩
    | cons diagnosis diagnoses => exact h.elim
  | cons record' records ih =>
    cases diagnoses with
    | nil => exact h.elim
    | cons diagnosis' diagnoses =>
      refine ⟨h.1, ih h.2 ?_⟩
      rwa [List.append_cons old record' records] at hlast

/-- All changes leave the proxy off and without a port, and there was none before the first. -/
structure AllOff (records : List Dict) : Prop where
  leavesOff : ∀ record ∈ records, LeavesOff record
  started : ∀ record ∈ records.head?, NoPortBefore record

theorem AllOff.initial {records later : List Dict} (h : AllOff (records ++ later)) :
    AllOff records := by
  refine ⟨fun record hrecord => h.leavesOff record (List.mem_append_left _ hrecord), ?_⟩
  intro record hrecord
  refine h.started record ?_
  cases records with
  | nil => cases hrecord
  | cons head records => exact hrecord

/-- One watch goes on as another: it keeps the records, and the diagnoses agree with the records as
long as these are off. -/
structure GoesOn (d d' : DiagnosedWatch) : Prop where
  keeps : ∃ later, d'.changeEvents = d.changeEvents ++ later
  agrees : AllOff d'.changeEvents → Agrees [] d.changeEvents d.diagnoses →
    Agrees [] d'.changeEvents d'.diagnoses

theorem GoesOn.refl (d : DiagnosedWatch) : GoesOn d d :=
  ⟨⟨[], (List.append_nil _).symm⟩, fun _ h => h⟩

theorem GoesOn.trans {d d' d'' : DiagnosedWatch} (h : GoesOn d d') (h' : GoesOn d' d'') :
    GoesOn d d'' := by
  obtain ⟨later, hlater⟩ := h.keeps
  obtain ⟨later', hlater'⟩ := h'.keeps
  refine ⟨⟨later ++ later', ?_⟩, fun hoff hagrees => h'.agrees hoff (h.agrees ?_ hagrees)⟩
  · rw [hlater', hlater, List.append_assoc]
  · rw [hlater'] at hoff
    exact hoff.initial

/-- Steps that go on do so together. -/
theorem foldlM_goesOn {α : Type} {f : DiagnosedWatch → α → Except PyError DiagnosedWatch}
    (hstep : ∀ {d d' a}, f d a = .ok d' → GoesOn d d') {l : List α} {d d' : DiagnosedWatch}
    (h : l.foldlM f d = .ok d') : GoesOn d d' :=
  foldlM_ok_invariant (GoesOn d) (fun hd hnext => hd.trans (hstep hnext)) (.refl d) h

section Runs

variable {fromIso : String → Option ℚ}

theorem finalizeDiagnosed_goesOn {now : String} {detectProxyOwner : Dict → Dict}
    {checkHealth : Dict → Dict → Dict} {d d' : DiagnosedWatch} {merged : Dict}
    (h : finalizeDiagnosed fromIso now detectProxyOwner checkHealth d merged = .ok d') :
    GoesOn d d' := by
  obtain ⟨before, -, h⟩ := bind_ok.mp h
  obtain ⟨after, -, h⟩ := bind_ok.mp h
  obtain ⟨diagnosis, hdiagnosis, h⟩ := bind_ok.mp h
  obtain ⟨watch, -, h⟩ := bind_ok.mp h
  obtain rfl := Except.ok.inj h
  refine ⟨⟨_, rfl⟩, fun hoff hagrees => hagrees.concat ?_⟩
  rw [List.nil_append, ← hdiagnosis]
  refine (analyze_same (sameButStates ..) (hoff.leavesOff _ (by simp)) fun hnil => ?_).symm
  refine hoff.started _ ?_
  dsimp only
  rw [hnil]
  rfl

theorem DiagnosedWatch.poll_goesOn {d d' : DiagnosedWatch} {p : ProbedPoll}
    (h : d.poll fromIso p = .ok d') : GoesOn d d' := by
  unfold DiagnosedWatch.poll at h
  split at h
  · obtain ⟨watch, -, rfl⟩ := map_ok.mp h
    exact ⟨(GoesOn.refl d).keeps, (GoesOn.refl d).agrees⟩
  · split at h
    · obtain ⟨⟨flushed, buffer⟩, -, h⟩ := bind_ok.mp h
      obtain ⟨d'', hfold, h⟩ := bind_ok.mp h
      obtain rfl := Except.ok.inj h
      have hgoesOn := foldlM_goesOn finalizeDiagnosed_goesOn hfold
      exact ⟨hgoesOn.keeps, hgoesOn.agrees⟩
    · obtain rfl := Except.ok.inj h
      exact ⟨(GoesOn.refl d).keeps, (GoesOn.refl d).agrees⟩

/-- Every diagnosis of a run agrees with the records, if these are off. -/
theorem runDiagnosedWatch_agrees {coalesceMs : Int} {polls : List ProbedPoll} {ending : ProbedEnding}
    {d : DiagnosedWatch} (h : runDiagnosedWatch fromIso coalesceMs polls ending = .ok d)
    (hoff : AllOff d.changeEvents) : Agrees [] d.changeEvents d.diagnoses := by
  obtain ⟨d', hpolls, h⟩ := bind_ok.mp h
  obtain ⟨⟨flushed, buffer⟩, -, h⟩ := bind_ok.mp h
  have hpolled := foldlM_goesOn DiagnosedWatch.poll_goesOn hpolls
  have hflushed := foldlM_goesOn finalizeDiagnosed_goesOn h
  have hlast : GoesOn d' d := ⟨hflushed.keeps, hflushed.agrees⟩
  have hrun := hpolled.trans hlast
  exact hrun.agrees hoff trivial

/-! ## Records and rows -/

/-- A record has the states of a row. -/
structure SameStates (record row : Dict) : Prop where
  before : record.get? "before" = row.get? "old_state"
  after : record.get? "after" = row.get? "new_state"

/-- The records are those of the rows. -/
def Recorded (d : DiagnosedWatch) : Prop :=
  List.Forall₂ SameStates d.changeEvents (changeRows d.watch.log)

theorem finalizeDiagnosed_recorded {now : String} {detectProxyOwner : Dict → Dict}
    {checkHealth : Dict → Dict → Dict} {d d' : DiagnosedWatch} {merged : Dict}
    (hd : Recorded d)
    (h : finalizeDiagnosed fromIso now detectProxyOwner checkHealth d merged = .ok d') :
    Recorded d' := by
  obtain ⟨before, hbefore, h⟩ := bind_ok.mp h
  obtain ⟨after, hafter, h⟩ := bind_ok.mp h
  obtain ⟨diagnosis, -, h⟩ := bind_ok.mp h
  obtain ⟨watch, hwatch, h⟩ := bind_ok.mp h
  obtain rfl := Except.ok.inj h
  obtain ⟨before', hbefore', hwatch⟩ := bind_ok.mp hwatch
  obtain ⟨after', hafter', hwatch⟩ := bind_ok.mp hwatch
  obtain ⟨evidence, -, hwatch⟩ := bind_ok.mp hwatch
  obtain ⟨loop, -, hwatch⟩ := bind_ok.mp hwatch
  obtain rfl := Except.ok.inj hwatch
  obtain rfl := Except.ok.inj (hbefore.symm.trans hbefore')
  obtain rfl := Except.ok.inj (hafter.symm.trans hafter')
  unfold Recorded
  dsimp only
  rw [changeRows_append _ rfl]
  exact List.rel_append hd (.cons ⟨rfl, rfl⟩ .nil)

theorem DiagnosedWatch.poll_recorded {d d' : DiagnosedWatch} {p : ProbedPoll} (hd : Recorded d)
    (h : d.poll fromIso p = .ok d') : Recorded d' := by
  unfold DiagnosedWatch.poll at h
  split at h
  · next hprior =>
    obtain ⟨watch, hpoll, rfl⟩ := map_ok.mp h
    unfold Watch.poll at hpoll
    rw [hprior] at hpoll
    obtain rfl := Except.ok.inj hpoll
    unfold Recorded changeRows
    dsimp only
    rw [List.filter_append]
    exact (List.append_nil _).symm ▸ hd
  · split at h
    · obtain ⟨⟨flushed, buffer⟩, -, h⟩ := bind_ok.mp h
      obtain ⟨d'', hfold, h⟩ := bind_ok.mp h
      obtain rfl := Except.ok.inj h
      have hbuffer : Recorded { d with watch := { d.watch with buffer := buffer } } := hd
      have hflushed : Recorded d'' :=
        foldlM_ok_invariant Recorded finalizeDiagnosed_recorded hbuffer hfold
      exact hflushed
    · obtain rfl := Except.ok.inj h
      exact hd

theorem runDiagnosedWatch_recorded {coalesceMs : Int} {polls : List ProbedPoll}
    {ending : ProbedEnding} {d : DiagnosedWatch}
    (h : runDiagnosedWatch fromIso coalesceMs polls ending = .ok d) : Recorded d := by
  obtain ⟨d', hpolls, h⟩ := bind_ok.mp h
  obtain ⟨⟨flushed, buffer⟩, -, h⟩ := bind_ok.mp h
  have hstart : Recorded
      { watch := { buffer := { coalesceWindowMs := max 200 (min coalesceMs 5000) } } } := .nil
  have hpolled : Recorded d' :=
    foldlM_ok_invariant Recorded DiagnosedWatch.poll_recorded hstart hpolls
  have hbuffer : Recorded { d' with watch := { d'.watch with buffer := buffer } } := hpolled
  exact foldlM_ok_invariant Recorded finalizeDiagnosed_recorded hbuffer h

/-! ## The condition -/

/-- The changes of a watch, batch by batch: each batch leaves the proxy off and without a port, and
there was no port before the first. -/
structure StaysOff (bs : List (List Change)) : Prop where
  leavesOff : ∀ b ∈ bs, ∀ last ∈ b.getLast?,
    last.after.wininetProxyEnabled = false ∧ last.after.localhostPort = none
  started : ∀ b ∈ bs.head?, ∀ c ∈ b.head?, c.before.localhostPort = none

instance (bs : List (List Change)) : Decidable (StaysOff bs) :=
  decidable_of_iff ((∀ b ∈ bs, ∀ last ∈ b.getLast?,
      last.after.wininetProxyEnabled = false ∧ last.after.localhostPort = none) ∧
      ∀ b ∈ bs.head?, ∀ c ∈ b.head?, c.before.localhostPort = none)
    ⟨fun h => ⟨h.1, h.2⟩, fun h => ⟨h.leavesOff, h.started⟩⟩

theorem portOf_toDict {s : ProxyState} (h : s.localhostPort = none) : portOf s.toDict = .ok none := by
  have hget : s.toDict.get? "localhost_port" = some (optionalInt s.localhostPort) := rfl
  rw [portOf, hget, h]
  rfl

theorem enabledOf_toDict (s : ProxyState) :
    enabledOf s.toDict = .ok (if s.wininetProxyEnabled then 1 else 0) := by
  have hget : s.toDict.get? "wininet_proxy_enabled" = some (.bool s.wininetProxyEnabled) := rfl
  rw [enabledOf, hget]
  cases s.wininetProxyEnabled with
  | false => rfl
  | true => rfl

theorem Records.leavesOff {b : List Change} {loop : Bool} {row evidence record : Dict}
    (h : Records b loop row evidence) (hne : b ≠ []) (hrecord : SameStates record row)
    (hoff : ∀ last ∈ b.getLast?,
      last.after.wininetProxyEnabled = false ∧ last.after.localhostPort = none) :
    LeavesOff record := by
  have hlast := List.getLast?_eq_some_getLast hne
  obtain ⟨-, hnew, -⟩ := h.ends _ (List.head?_eq_some_head hne) _ hlast
  obtain ⟨henabled, hport⟩ := hoff _ hlast
  refine ⟨_, hrecord.after.trans hnew, ?_, portOf_toDict hport⟩
  rw [enabledOf_toDict, henabled]
  rfl

theorem Records.noPortBefore {b : List Change} {loop : Bool} {row evidence record : Dict}
    (h : Records b loop row evidence) (hne : b ≠ []) (hrecord : SameStates record row)
    (hoff : ∀ c ∈ b.head?, c.before.localhostPort = none) : NoPortBefore record := by
  have hhead := List.head?_eq_some_head hne
  obtain ⟨hold, -⟩ := h.ends _ hhead _ (List.getLast?_eq_some_getLast hne)
  exact ⟨_, _, hrecord.before.trans hold, enabledOf_toDict _, portOf_toDict (hoff _ hhead)⟩

theorem StaysOff.allOff {es : List Entry} {records : List Dict}
    (h : StaysOff (es.map Entry.batch)) (hwritten : Written fromIso [] es)
    (hne : ∀ e ∈ es, e.batch ≠ [])
    (hrecords : List.Forall₂ SameStates records (es.map Entry.row)) : AllOff records := by
  rw [List.forall₂_map_right_iff] at hrecords
  constructor
  · intro record hrecord
    obtain ⟨i, hi, rfl⟩ := List.getElem_of_mem hrecord
    have hi' : i < es.length := hrecords.length_eq ▸ hi
    have hsame : SameStates records[i] es[i].row := (List.forall₂_iff_get.mp hrecords).2 i hi hi'
    have he : es[i] ∈ es := List.getElem_mem hi'
    exact (hwritten.records _ he).leavesOff (hne _ he) hsame
      (h.leavesOff _ (List.mem_map_of_mem he))
  · intro record hrecord
    cases hrecords with
    | nil => cases hrecord
    | @cons head e records es hsame hrest =>
      obtain rfl := Option.some.inj hrecord
      exact (hwritten.records e (by simp)).noPortBefore (hne e (by simp)) hsame
        (h.started _ rfl)

end Runs

/-- Every diagnosis of every run is that of the records up to and including its own. -/
def InlineAgrees (fromIso : String → Option ℚ) (coalesceMs : Int) (polls : List ProbedPoll)
    (ending : ProbedEnding) : Prop :=
  ∀ d, runDiagnosedWatch fromIso coalesceMs polls ending = .ok d →
    Agrees [] d.changeEvents d.diagnoses

/-- The diagnoses agree with the records in a watch whose batches of changes leave the proxy off
and without a port. -/
theorem diagnosis_agrees_when (fromIso : String → Option ℚ) (coalesceMs : Int)
    (polls : List ProbedPoll) (ending : ProbedEnding)
    (hoff : StaysOff (watchBatches fromIso coalesceMs (polls.map ProbedPoll.toPoll))) :
    InlineAgrees fromIso coalesceMs polls ending := by
  intro d hrun
  obtain ⟨w, es, hwatch, hrows, hwritten, hne, hbatches⟩ :=
    runProxyWatch_entries fromIso coalesceMs (polls.map ProbedPoll.toPoll) ending.toEnding
  obtain rfl := Except.ok.inj (hwatch.symm.trans (runDiagnosedWatch_watch hrun))
  have hrecorded : Recorded d := runDiagnosedWatch_recorded hrun
  rw [Recorded, hrows] at hrecorded
  rw [watchBatches, ← hbatches] at hoff
  exact runDiagnosedWatch_agrees hrun (hoff.allOff hwritten hne hrecorded)

instance Agrees.instDecidable : ∀ (old records : List Dict) (diagnoses : List ReverterDiagnosis),
    Decidable (Agrees old records diagnoses)
  | _, [], [] => .isTrue trivial
  | _, [], _ :: _ => .isFalse id
  | _, _ :: _, [] => .isFalse id
  | old, record :: records, diagnosis :: diagnoses =>
    have := Agrees.instDecidable (old ++ [record]) records diagnoses
    inferInstanceAs (Decidable (analyzeProxyWatchHistory (old ++ [record]) = .ok diagnosis ∧
      Agrees (old ++ [record]) records diagnoses))

instance (fromIso : String → Option ℚ) (coalesceMs : Int) (polls : List ProbedPoll)
    (ending : ProbedEnding) : Decidable (InlineAgrees fromIso coalesceMs polls ending) :=
  match hrun : runDiagnosedWatch fromIso coalesceMs polls ending with
  | .error _ => .isTrue fun _ h => nomatch hrun.symm.trans h
  | .ok d => decidable_of_iff (Agrees [] d.changeEvents d.diagnoses)
    ⟨fun hagrees _ h => Except.ok.inj (hrun.symm.trans h) ▸ hagrees, fun h => h d hrun⟩

/-- A poll of a proxy that is off, with a PAC URL. -/
def pacAt (second : Nat) (url : String) : ProbedPoll :=
  let poll := pollAt second "" ""
  { poll with
    state := { poll.state with wininetProxyEnabled := false, wininetAutoConfigUrl := url }
    checkHealth := fun _ _ => [] }

/-- A poll of a proxy on a port of this machine, on which nothing listens. -/
def localAt (second : Nat) (port : Nat) : ProbedPoll :=
  let poll := pollAt second ("127.0.0.1:" ++ Nat.repr port) ""
  { poll with
    state := { poll.state with localhostPort := some (Int.ofNat port) }
    checkHealth := fun _ _ => [] }

def probedEnd (second : Nat) : ProbedEnding := { endAt second with checkHealth := fun _ _ => [] }

/-- A PAC URL comes and goes while the proxy is off. -/
theorem diagnosis_agrees_when_off :
    ((runDiagnosedWatch newYear 1000 [pacAt 0 "", pacAt 2 "http://pac.corp", pacAt 4 ""]
      (probedEnd 6)).toOption.map fun d => d.diagnoses.length) = some 2 ∧
    InlineAgrees newYear 1000 [pacAt 0 "", pacAt 2 "http://pac.corp", pacAt 4 ""] (probedEnd 6) :=
  ⟨by decide +kernel, diagnosis_agrees_when newYear 1000 _ _ (by decide +kernel)⟩

/-- A local proxy is switched on: its port is in the record, and not in the diagnosis. -/
theorem new_port_missed :
    ¬ InlineAgrees newYear 1000 [pacAt 0 "", localAt 2 8080] (probedEnd 4) := by
  decide +kernel

end StateMachine
