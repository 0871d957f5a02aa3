import NetworkRecovery.Proxy.WatchLaws

/-!
# What the watch records

A change goes into the buffer when the key of the state is a new one, and it is
in exactly one row when the watch ends, alone or as a sub-event
(`runProxyWatch_steps`). So the watch misses nothing as long as states that differ
have different keys (`missesNothing_iff`). The key is the switch, the server and
the PAC URL, joined by colons: it leaves out the override, and a colon may stand
in what it joins.
-/

namespace StateMachine

open Python ProxyGuard Batching

/-! ## Runs -/

/-- The changes that the polls after a state find. -/
def changesFrom : ProxyState → List Poll → List Change
  | _, [] => []
  | prior, p :: polls =>
    if stateKey prior.toDict ≠ stateKey p.state.toDict then
      ⟨prior, p.state, p⟩ :: changesFrom p.state polls
    else changesFrom p.state polls

/-- The changes that the polls of a watch find: the first state is none. -/
def changes : List Poll → List Change
  | [] => []
  | p :: polls => changesFrom p.state polls

/-- The batches that the buffer puts out, from the changes that it holds on. -/
def flushes (fromIso : String → Option ℚ) (coalesceWindowMs : Int) :
    List Change → Option ℚ → List Change → List (List Change)
  | pending, _, [] => cutChanges fromIso coalesceWindowMs pending
  | pending, firstTs, c :: cs =>
    let ts := timeOrNow fromIso c.event c.poll.reading.now
    if pending.isEmpty then flushes fromIso coalesceWindowMs [c] (some ts) cs
    else if inWindow coalesceWindowMs firstTs (some ts) then
      flushes fromIso coalesceWindowMs (pending ++ [c]) firstTs cs
    else cutChanges fromIso coalesceWindowMs pending ++
      flushes fromIso coalesceWindowMs [c] (some ts) cs

/-- The batches of changes behind the rows of a watch. -/
def watchBatches (fromIso : String → Option ℚ) (coalesceMs : Int) (polls : List Poll) :
    List (List Change) :=
  flushes fromIso (max 200 (min coalesceMs 5000)) [] none (changes polls)

/-- What a call of the buffer puts out, and what it holds then. -/
structure Puts (buffer : CoalescingBuffer) (result : Except PyError (List Dict × CoalescingBuffer))
    (bs : List (List Change)) (pending : List Change) (firstTs : Option ℚ) : Prop where
  call : ∃ out, result = .ok (out, { buffer with
    pending := pending.map Change.event, firstTs := firstTs }) ∧ List.Forall₂ Shows bs out
  nonempty : ∀ b ∈ bs, b ≠ []

/-- `add` puts out what the batches say. -/
theorem puts_add (fromIso : String → Option ℚ) {buffer : CoalescingBuffer} {pending : List Change}
    (hheld : buffer.pending = pending.map Change.event) (c : Change) :
    ∃ bs pending' firstTs,
      Puts buffer (buffer.add fromIso c.event c.poll.reading) bs pending' firstTs ∧
      ∀ cs, flushes fromIso buffer.coalesceWindowMs pending buffer.firstTs (c :: cs) =
        bs ++ flushes fromIso buffer.coalesceWindowMs pending' firstTs cs := by
  unfold CoalescingBuffer.add
  simp only [flushes, hheld, List.isEmpty_map]
  split
  · exact ⟨[], [c], _, ⟨⟨[], rfl, .nil⟩, by simp⟩, fun cs => rfl⟩
  · split
    · refine ⟨[], pending ++ [c], buffer.firstTs, ⟨⟨[], ?_, .nil⟩, by simp⟩, fun cs => rfl⟩
      rw [List.map_append]
      rfl
    · obtain ⟨out, hout, hshows⟩ := coalesceProxyEvents_shows fromIso c.poll.reading.utc
        buffer.coalesceWindowMs pending
      refine ⟨_, [c], _, ⟨⟨out, ?_, hshows⟩, fun b hb => cutChanges_ne_nil hb⟩, fun cs => rfl⟩
      rw [hout]
      rfl

/-- `flush` puts out the rest. -/
theorem puts_flush (fromIso : String → Option ℚ) {buffer : CoalescingBuffer}
    {pending : List Change} (hheld : buffer.pending = pending.map Change.event)
    (utc : Nat → String) :
    ∃ firstTs, Puts buffer (buffer.flush fromIso utc)
      (flushes fromIso buffer.coalesceWindowMs pending buffer.firstTs []) [] firstTs := by
  unfold CoalescingBuffer.flush
  rw [hheld, List.isEmpty_map, flushes]
  cases pending with
  | nil =>
    refine ⟨buffer.firstTs, ⟨[], ?_, .nil⟩, fun b hb => absurd hb (by simp [cutChanges, batches])⟩
    rw [List.isEmpty_nil, if_pos rfl]
    exact congrArg (fun held => Except.ok (([] : List Dict), { buffer with pending := held })) hheld
  | cons c cs =>
    obtain ⟨out, hout, hshows⟩ := coalesceProxyEvents_shows fromIso utc buffer.coalesceWindowMs
      (c :: cs)
    refine ⟨none, ⟨out, ?_, hshows⟩, fun b hb => cutChanges_ne_nil hb⟩
    rw [List.isEmpty_cons, if_neg (by decide), hout]
    rfl

/-- A call of the buffer, and the rows of what it puts out. -/
theorem Tracking.put {fromIso : String → Option ℚ} {coalesceWindowMs : Int} {w : Watch}
    {es : List Entry} {pending pending' : List Change} {bs : List (List Change)}
    {firstTs : Option ℚ} {result : Except PyError (List Dict × CoalescingBuffer)}
    (h : Tracking fromIso coalesceWindowMs w es pending)
    (hputs : Puts w.buffer result bs pending' firstTs) (now : String)
    (detectProxyOwner : Dict → Dict) :
    ∃ w' es',
      (result >>= fun r => r.1.foldlM (finalizeCoalesced fromIso now detectProxyOwner)
        { w with buffer := r.2 }) = .ok w' ∧
      es'.map Entry.batch = bs ∧ w'.buffer.firstTs = firstTs ∧
      Tracking fromIso coalesceWindowMs w' (es ++ es') pending' := by
  obtain ⟨out, rfl, hshows⟩ := hputs.call
  have hnext : Tracking fromIso coalesceWindowMs
      { w with buffer := { w.buffer with
        pending := pending'.map Change.event, firstTs := firstTs } } es pending' :=
    ⟨h.window, rfl, h.evidence, h.rows, h.written, h.nonempty⟩
  obtain ⟨w', es', hfold, hbatches, -, hbuffer, htrack⟩ :=
    finalize_all now detectProxyOwner hshows hputs.nonempty hnext
  exact ⟨w', es', hfold, hbatches, by rw [hbuffer], htrack⟩

/-- One more poll. -/
theorem Tracking.poll {fromIso : String → Option ℚ} {coalesceWindowMs : Int} {w : Watch}
    {es : List Entry} {pending : List Change} (h : Tracking fromIso coalesceWindowMs w es pending)
    {prior : ProxyState} (hprior : w.prior = some prior) (p : Poll) :
    ∃ w' es' pending', w.poll fromIso p = .ok w' ∧ w'.prior = some p.state ∧
      Tracking fromIso coalesceWindowMs w' (es ++ es') pending' ∧
      ∀ polls, flushes fromIso coalesceWindowMs pending w.buffer.firstTs
          (changesFrom prior (p :: polls)) =
        es'.map Entry.batch ++
          flushes fromIso coalesceWindowMs pending' w'.buffer.firstTs
            (changesFrom p.state polls) := by
  unfold Watch.poll
  rw [hprior]
  dsimp only
  by_cases hkey : stateKey prior.toDict ≠ stateKey p.state.toDict
  · obtain ⟨bs, pending', firstTs, hputs, hflushes⟩ := puts_add fromIso h.held ⟨prior, p.state, p⟩
    obtain ⟨w', es', hcall, hbatches, hfirst, htrack⟩ := h.put hputs p.now p.detectProxyOwner
    refine ⟨{ w' with prior := some p.state }, es', pending', ?_, rfl,
      ⟨htrack.window, htrack.held, htrack.evidence, htrack.rows, htrack.written,
        htrack.nonempty⟩, fun polls => ?_⟩
    · rw [if_pos hkey]
      obtain ⟨r, hr, hw'⟩ := bind_ok.mp hcall
      rw [hprior] at hw'
      exact bind_ok.mpr ⟨r, hr, bind_ok.mpr ⟨w', hw', rfl⟩⟩
    · rw [changesFrom, if_pos hkey, ← h.window, hflushes, hbatches, hfirst]
  · refine ⟨{ w with prior := some p.state }, [], pending, if_neg hkey, rfl, ?_, fun polls => ?_⟩
    · rw [List.append_nil]
      exact ⟨h.window, h.held, h.evidence, h.rows, h.written, h.nonempty⟩
    · rw [changesFrom, if_neg hkey]
      rfl

/-- The polls after the first. -/
theorem Tracking.polls {fromIso : String → Option ℚ} {coalesceWindowMs : Int} {w : Watch}
    {es : List Entry} {pending : List Change} (h : Tracking fromIso coalesceWindowMs w es pending)
    (polls : List Poll) {prior : ProxyState} (hprior : w.prior = some prior) :
    ∃ w' es' pending', polls.foldlM (Watch.poll fromIso) w = .ok w' ∧
      Tracking fromIso coalesceWindowMs w' (es ++ es') pending' ∧
      flushes fromIso coalesceWindowMs pending w.buffer.firstTs (changesFrom prior polls) =
        es'.map Entry.batch ++ flushes fromIso coalesceWindowMs pending' w'.buffer.firstTs [] := by
  induction polls generalizing w es pending prior with
  | nil =>
    refine ⟨w, [], pending, rfl, ?_, rfl⟩
    rwa [List.append_nil]
  | cons p polls ih =>
    obtain ⟨w', es', pending', hpoll, hprior', htrack, hflushes⟩ := h.poll hprior p
    obtain ⟨w'', es'', pending'', hpolls, htrack', hflushes'⟩ := ih htrack hprior'
    refine ⟨w'', es' ++ es'', pending'', ?_, ?_, ?_⟩
    · rw [List.foldlM_cons, hpoll]
      exact hpolls
    · rwa [List.append_assoc] at htrack'
    · rw [hflushes, hflushes', List.map_append, List.append_assoc]

/-- A watch runs to its end, and its rows are of the batches that the buffer puts
out. -/
theorem runProxyWatch_entries (fromIso : String → Option ℚ) (coalesceMs : Int) (polls : List Poll)
    (ending : Ending) :
    ∃ w es, runProxyWatch fromIso coalesceMs polls ending = .ok w ∧
      changeRows w.log = es.map Entry.row ∧ Written fromIso [] es ∧
      (∀ e ∈ es, e.batch ≠ []) ∧
      es.map Entry.batch =
        flushes fromIso (max 200 (min coalesceMs 5000)) [] none (changes polls) := by
  generalize hwindow : max 200 (min coalesceMs 5000) = window
  -- The polls, from the watch of the first on.
  have hpolls : ∃ w es pending,
      polls.foldlM (Watch.poll fromIso) { buffer := { coalesceWindowMs := window } } = .ok w ∧
      Tracking fromIso window w es pending ∧
      flushes fromIso window [] none (changes polls) =
        es.map Entry.batch ++ flushes fromIso window pending w.buffer.firstTs [] := by
    cases polls with
    | nil => exact ⟨_, [], [], rfl, ⟨rfl, rfl, rfl, rfl, trivial, by simp⟩, rfl⟩
    | cons p polls =>
      have hfirst : Tracking fromIso window
          { prior := some p.state
            buffer := { coalesceWindowMs := window }
            log := [[("timestamp_utc", .str p.now), ("event", .str "initial_poll"),
              ("state", .dict p.state.toDict)]] } [] [] :=
        ⟨rfl, rfl, rfl, rfl, trivial, by simp⟩
      obtain ⟨w, es, pending, hfold, htrack, hflushes⟩ := hfirst.polls polls rfl
      exact ⟨w, es, pending, hfold, htrack, hflushes⟩
  obtain ⟨w, es, pending, hfold, htrack, hflushes⟩ := hpolls
  obtain ⟨firstTs, hputs⟩ := puts_flush fromIso htrack.held ending.utc
  obtain ⟨w', es', hcall, hbatches, -, htrack'⟩ :=
    htrack.put hputs ending.now ending.detectProxyOwner
  refine ⟨w', es ++ es', ?_, htrack'.rows, htrack'.written, htrack'.nonempty, ?_⟩
  · unfold runProxyWatch
    rw [hwindow]
    exact bind_ok.mpr ⟨w, hfold, hcall⟩
  · rw [hflushes, List.map_append, hbatches, htrack.window]

/-! ## Steps -/

/-- The states of a sub-event. -/
def subStep : Value → Value × Value
  | .dict sub => ((Dict.get? sub "before").getD .none, (Dict.get? sub "after").getD .none)
  | _ => (.none, .none)

/-- The steps that a row covers: those of its sub-events, or the one of its own. -/
def rowSteps (row : Dict) : List (Value × Value) :=
  match rawSubEvents row with
  | [] => [((row.get? "old_state").getD .none, (row.get? "new_state").getD .none)]
  | subs => subs.map subStep

theorem subStep_rawSummary (c : Change) : subStep (rawSummary c.event) = c.step := rfl

/-- The row of a batch covers the steps of its changes. -/
theorem Records.rowSteps_eq {batch : List Change} {loop : Bool} {row evidence : Dict}
    (h : Records batch loop row evidence) (hne : batch ≠ []) :
    rowSteps row = batch.map Change.step := by
  unfold rowSteps
  rw [h.subs]
  match batch, hne with
  | [c], _ =>
    obtain ⟨hold, hnew, -⟩ := h.ends c rfl c rfl
    rw [hold, hnew]
    rfl
  | first :: second :: rest, _ =>
    rw [if_neg (by simp)]
    show ((first :: second :: rest).map fun c => rawSummary c.event).map subStep = _
    rw [List.map_map]
    exact List.map_congr_left fun c _ => subStep_rawSummary c

/-- The buffer puts out every change that goes in, once. -/
theorem flatten_flushes (fromIso : String → Option ℚ) (coalesceWindowMs : Int) (cs : List Change) :
    ∀ (pending : List Change) (firstTs : Option ℚ),
      (flushes fromIso coalesceWindowMs pending firstTs cs).flatten.Perm (pending ++ cs) := by
  induction cs with
  | nil =>
    intro pending firstTs
    rw [flushes, List.append_nil]
    exact flatten_cutChanges fromIso coalesceWindowMs pending
  | cons c cs ih =>
    intro pending firstTs
    unfold flushes
    dsimp only
    split
    · next hempty =>
      rw [List.isEmpty_iff.mp hempty]
      exact ih [c] _
    · split
      · have := ih (pending ++ [c]) firstTs
        rwa [List.append_assoc] at this
      · rw [List.flatten_append]
        exact (flatten_cutChanges fromIso coalesceWindowMs pending).append (ih [c] _)

theorem flatMap_rowSteps {fromIso : String → Option ℚ} {es : List Entry}
    (hwritten : Written fromIso [] es) (hne : ∀ e ∈ es, e.batch ≠ []) :
    (es.map Entry.row).flatMap rowSteps = (es.map Entry.batch).flatten.map Change.step := by
  have heach : ∀ e ∈ es, rowSteps e.row = e.batch.map Change.step := fun e he =>
    (hwritten.records e he).rowSteps_eq (hne e he)
  rw [List.flatMap_map, List.flatMap_congr heach, List.map_flatten, List.map_map]
  rfl

/-- The steps that the rows of a watch cover are the changes, each once. -/
theorem runProxyWatch_steps (fromIso : String → Option ℚ) (coalesceMs : Int) (polls : List Poll)
    (ending : Ending) :
    ∃ w, runProxyWatch fromIso coalesceMs polls ending = .ok w ∧
      ((changeRows w.log).flatMap rowSteps).Perm ((changes polls).map Change.step) := by
  obtain ⟨w, es, hrun, hrows, hwritten, hne, hbatches⟩ :=
    runProxyWatch_entries fromIso coalesceMs polls ending
  refine ⟨w, hrun, ?_⟩
  rw [hrows, flatMap_rowSteps hwritten hne, hbatches]
  exact (flatten_flushes fromIso _ (changes polls) [] none).map Change.step

/-- The steps of a watch: each state with the next. -/
def steps (polls : List Poll) : List (ProxyState × ProxyState) :=
  (polls.zip polls.tail).map fun p => (p.1.state, p.2.state)

/-- The two states, as rows show them. -/
def stepDicts (s : ProxyState × ProxyState) : Value × Value := (.dict s.1.toDict, .dict s.2.toDict)

/-- A step that has a different key after it. -/
def Telling (s : ProxyState × ProxyState) : Prop :=
  s.1.wininetProxyEnabled ≠ s.2.wininetProxyEnabled ∨
    s.1.wininetProxyServer ++ ":" ++ s.1.wininetAutoConfigUrl ≠
      s.2.wininetProxyServer ++ ":" ++ s.2.wininetAutoConfigUrl

instance (s : ProxyState × ProxyState) : Decidable (Telling s) :=
  inferInstanceAs (Decidable (_ ∨ _))

theorem stateKey_toDict (s : ProxyState) :
    stateKey s.toDict = (if s.wininetProxyEnabled then "True" else "False") ++
      (":" ++ (s.wininetProxyServer ++ ":" ++ s.wininetAutoConfigUrl)) := by
  have henabled : (Value.bool s.wininetProxyEnabled).toText =
      if s.wininetProxyEnabled then "True" else "False" := by
    cases s.wininetProxyEnabled <;> rfl
  have hkey : stateKey s.toDict = (Value.bool s.wininetProxyEnabled).toText ++ ":" ++
      s.wininetProxyServer ++ ":" ++ s.wininetAutoConfigUrl := rfl
  rw [hkey, henabled]
  simp only [String.append_assoc]

/-- The key tells a step apart unless the switch stays and the text after it does. -/
theorem stateKey_ne_iff (s : ProxyState × ProxyState) :
    stateKey s.1.toDict ≠ stateKey s.2.toDict ↔ Telling s := by
  have hkey : stateKey s.1.toDict = stateKey s.2.toDict ↔
      s.1.wininetProxyEnabled = s.2.wininetProxyEnabled ∧
        s.1.wininetProxyServer ++ ":" ++ s.1.wininetAutoConfigUrl =
          s.2.wininetProxyServer ++ ":" ++ s.2.wininetAutoConfigUrl := by
    rw [stateKey_toDict, stateKey_toDict]
    generalize s.1.wininetProxyServer ++ ":" ++ s.1.wininetAutoConfigUrl = rest
    generalize s.2.wininetProxyServer ++ ":" ++ s.2.wininetAutoConfigUrl = rest'
    simp only [← String.toList_inj, String.toList_append]
    cases s.1.wininetProxyEnabled <;> cases s.2.wininetProxyEnabled <;> simp
  unfold Telling
  rw [Ne, hkey, not_and_or]

theorem map_step_changesFrom (polls : List Poll) (p : Poll) :
    (changesFrom p.state polls).map Change.step =
      ((steps (p :: polls)).filter fun s => decide (Telling s)).map stepDicts := by
  induction polls generalizing p with
  | nil => rfl
  | cons q polls ih =>
    have hsteps : steps (p :: q :: polls) = (p.state, q.state) :: steps (q :: polls) := rfl
    rw [changesFrom, hsteps, List.filter_cons]
    by_cases htelling : Telling (p.state, q.state)
    · rw [if_pos ((stateKey_ne_iff _).mpr htelling), if_pos (decide_eq_true htelling),
        List.map_cons, List.map_cons, ih q]
      rfl
    · rw [if_neg (mt (stateKey_ne_iff _).mp htelling), if_neg (by simpa using htelling), ih q]

/-- The changes are the steps with different keys. -/
theorem map_step_changes (polls : List Poll) :
    (changes polls).map Change.step =
      ((steps polls).filter fun s => decide (Telling s)).map stepDicts := by
  cases polls with
  | nil => rfl
  | cons p polls => exact map_step_changesFrom polls p

/-! ## Nothing is missed -/

/-- Two states that differ under `states_equal` after `normalize_proxy_state`. -/
def differs (s : ProxyState × ProxyState) : Bool :=
  match normalizeProxyState (some s.1.toDict), normalizeProxyState (some s.2.toDict) with
  | .ok before, .ok after => !statesEqual before after
  | _, _ => false

/-- Every step between states that differ is covered by a row, as often as it is
made. -/
def MissesNothing (fromIso : String → Option ℚ) (coalesceMs : Int) (polls : List Poll)
    (ending : Ending) : Prop :=
  ∃ w, runProxyWatch fromIso coalesceMs polls ending = .ok w ∧
    (((steps polls).filter differs).map stepDicts).Subperm ((changeRows w.log).flatMap rowSteps)

/-- The rows cover the steps whose key changes, each once. -/
theorem runProxyWatch_telling (fromIso : String → Option ℚ) (coalesceMs : Int) (polls : List Poll)
    (ending : Ending) : ∃ w, runProxyWatch fromIso coalesceMs polls ending = .ok w ∧
      ((changeRows w.log).flatMap rowSteps).Perm
        (((steps polls).filter fun s => decide (Telling s)).map stepDicts) := by
  obtain ⟨w, hrun, hperm⟩ := runProxyWatch_steps fromIso coalesceMs polls ending
  rw [map_step_changes] at hperm
  exact ⟨w, hrun, hperm⟩

/-- The states of a step are told apart as the dictionaries are. -/
theorem telling_of_mem {ss : List (ProxyState × ProxyState)} {s : ProxyState × ProxyState}
    (h : stepDicts s ∈ (ss.filter fun s => decide (Telling s)).map stepDicts) : Telling s := by
  obtain ⟨s', hs', hsame⟩ := List.mem_map.mp h
  have htelling : Telling s' := of_decide_eq_true (List.mem_filter.mp hs').2
  have hbefore : s'.1.toDict = s.1.toDict := Value.dict.inj (Prod.mk.inj hsame).1
  have hafter : s'.2.toDict = s.2.toDict := Value.dict.inj (Prod.mk.inj hsame).2
  rw [← stateKey_ne_iff] at htelling ⊢
  rwa [hbefore, hafter] at htelling

theorem MissesNothing.telling {fromIso : String → Option ℚ} {coalesceMs : Int} {polls : List Poll}
    {ending : Ending} (h : MissesNothing fromIso coalesceMs polls ending)
    {s : ProxyState × ProxyState} (hs : s ∈ steps polls) (hdiffers : differs s = true) :
    Telling s := by
  obtain ⟨w, hrun, hperm⟩ := runProxyWatch_telling fromIso coalesceMs polls ending
  obtain ⟨w', hrun', hsub⟩ := h
  obtain rfl := Except.ok.inj (hrun.symm.trans hrun')
  have hmem := hsub.subset (List.mem_map_of_mem (List.mem_filter.mpr ⟨hs, hdiffers⟩))
  exact telling_of_mem (hperm.subset hmem)

/-- The watch misses nothing if and only if no step between states that differ
keeps the switch and the server and PAC URL joined by a colon. -/
theorem missesNothing_iff (fromIso : String → Option ℚ) (coalesceMs : Int) (polls : List Poll)
    (ending : Ending) :
    MissesNothing fromIso coalesceMs polls ending ↔
      ∀ s ∈ steps polls, differs s = true → Telling s := by
  refine ⟨fun h s hs hdiffers => h.telling hs hdiffers, fun h => ?_⟩
  obtain ⟨w, hrun, hperm⟩ := runProxyWatch_telling fromIso coalesceMs polls ending
  have hfilter : (steps polls).filter differs =
      ((steps polls).filter fun s => decide (Telling s)).filter differs := by
    rw [List.filter_filter]
    refine List.filter_congr fun s hs => ?_
    cases hdiffers : differs s with
    | false => rfl
    | true => rw [Bool.true_and, decide_eq_true (h s hs hdiffers)]
  refine ⟨w, hrun, ?_⟩
  rw [hfilter]
  exact ((List.filter_sublist.map stepDicts).subperm).trans hperm.symm.subperm

/-- A poll so many seconds into the year, which finds a proxy switched on. -/
def pollAt (second : Nat) (server override : String) : Poll :=
  let stamp := "2026-01-01T00:00:0" ++ Nat.repr second ++ "Z"
  { state :=
      { timestampUtc := stamp
        wininetProxyEnabled := true
        wininetProxyServer := server
        wininetProxyOverride := override
        wininetAutoConfigUrl := ""
        winhttpDirectAccess := false
        winhttpRawExcerpt := ""
        localhostPort := none }
    now := stamp
    reading := ⟨1767225600 + second, fun _ => stamp⟩
    elapsedSeconds := .ofParts false second 0
    detectProxyOwner := fun _ => [] }

/-- The end of a watch that finds no owners. -/
def endAt (second : Nat) : Ending :=
  let stamp := "2026-01-01T00:00:0" ++ Nat.repr second ++ "Z"
  ⟨stamp, fun _ => stamp, fun _ => []⟩

/-- An override that is set between two polls leaves no row. -/
theorem override_missed :
    ¬ MissesNothing newYear 1000
      [pollAt 0 "proxy.corp:8080" "", pollAt 2 "proxy.corp:8080" "<local>"] (endAt 4) := by
  intro h
  have htelling := h.telling List.mem_cons_self (by decide +kernel)
  exact absurd htelling (by decide)

end StateMachine
