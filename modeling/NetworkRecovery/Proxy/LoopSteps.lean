import NetworkRecovery.Proxy.ReverterLoop

/-!
# The steps on a timeline

What the detector of loops counts, read off neighbours on the timeline. A state that is put between
two others changes the steps between these two only (`enableFromDisabled_insert`). So the order of
the listed events does not matter when the earlier state of an event adds nothing to a window that
leaves an older event out, and the same as any other to the whole timeline
(`order_insensitive_iff`). And a loop that is reported is one of local switches when the steps that
no event stands for are no more than the events that make no step (`loop_sound_iff`).
-/

namespace StateMachine

open Python ProxyGuard Ranking

/-! ## Steps and ports -/

/-- On at the port, behind an entry that is off. -/
def TurnsOn (port : Int) (a b : LoopPoint) : Prop :=
  a.enabled = false ∧ b.enabled = true ∧ b.port = some port

instance (port : Int) (a b : LoopPoint) : Decidable (TurnsOn port a b) :=
  inferInstanceAs (Decidable (_ ∧ _ ∧ _))

/-- The step from one part of a timeline to the next one, if there is one. -/
def joint (port : Int) (earlier later : List LoopPoint) : Nat :=
  match earlier.getLast?, later.head? with
  | some a, some b => if TurnsOn port a b then 1 else 0
  | _, _ => 0

/-- How many steps more there are with the entry between two parts of a timeline. -/
def stepsAdded (port : Int) (earlier : List LoopPoint) (entry : LoopPoint)
    (later : List LoopPoint) : Int :=
  joint port earlier [entry] + joint port [entry] later - joint port earlier later

/-- The entries have one port, and it is this one. -/
structure OnlyPort (port : Int) (window : List LoopPoint) : Prop where
  has : ∃ e ∈ window, e.port = some port
  only : ∀ e ∈ window, ∀ other, e.port = some other → other = port

theorem enableFromDisabled_cons (port : Int) (a b : LoopPoint) (rest : List LoopPoint) :
    enableFromDisabled port (a :: b :: rest) =
      (if TurnsOn port a b then 1 else 0) + enableFromDisabled port (b :: rest) := by
  have hstep : (!a.enabled && b.enabled && b.port == some port) = true ↔ TurnsOn port a b := by
    simp [TurnsOn, and_assoc]
  rw [enableFromDisabled]
  simp only [hstep]

theorem enableFromDisabled_append (port : Int) (earlier later : List LoopPoint) :
    enableFromDisabled port (earlier ++ later) =
      enableFromDisabled port earlier + joint port earlier later +
        enableFromDisabled port later := by
  induction earlier with
  | nil => simp [joint, enableFromDisabled]
  | cons a earlier ih =>
    cases earlier with
    | nil =>
      cases later with
      | nil => simp [joint, enableFromDisabled]
      | cons b later =>
        have hnone : enableFromDisabled port [a] = 0 := rfl
        have hjoint : joint port [a] (b :: later) = if TurnsOn port a b then 1 else 0 := rfl
        rw [List.singleton_append, enableFromDisabled_cons, hnone, hjoint, Nat.zero_add]
    | cons b earlier =>
      have hjoint : joint port (a :: b :: earlier) later = joint port (b :: earlier) later := rfl
      rw [List.cons_append] at ih ⊢
      rw [List.cons_append, enableFromDisabled_cons, ih, enableFromDisabled_cons, hjoint]
      omega

/-- An entry changes the steps between its neighbours only. -/
theorem enableFromDisabled_insert (port : Int) (earlier : List LoopPoint) (entry : LoopPoint)
    (later : List LoopPoint) :
    (enableFromDisabled port (earlier ++ entry :: later) : Int) =
      enableFromDisabled port (earlier ++ later) + stepsAdded port earlier entry later := by
  have hfront : joint port earlier (entry :: later) = joint port earlier [entry] := rfl
  have hback := enableFromDisabled_append port [entry] later
  have hnone : enableFromDisabled port [entry] = 0 := rfl
  rw [List.singleton_append, hnone] at hback
  rw [enableFromDisabled_append, enableFromDisabled_append, hfront, hback]
  unfold stepsAdded
  omega

theorem eraseDups_eq_singleton {ports : List Int} {port : Int} :
    ports.eraseDups = [port] ↔ port ∈ ports ∧ ∀ other ∈ ports, other = port := by
  constructor
  · intro h
    constructor
    · rw [← List.mem_eraseDups, h]
      exact List.mem_singleton_self _
    · intro other hother
      rw [← List.mem_eraseDups, h] at hother
      exact List.mem_singleton.mp hother
  · rintro ⟨hmem, honly⟩
    obtain ⟨first, rest, rfl⟩ := List.exists_cons_of_ne_nil (List.ne_nil_of_mem hmem)
    obtain rfl := honly first List.mem_cons_self
    have hrest : rest.filter (fun other => !other == first) = [] := by
      rw [List.filter_eq_nil_iff]
      intro other hother
      simp [honly other (List.mem_cons_of_mem _ hother)]
    rw [List.eraseDups_cons, hrest]
    rfl

theorem onlyPort_iff {port : Int} {window : List LoopPoint} :
    (window.filterMap (·.port)).eraseDups = [port] ↔ OnlyPort port window := by
  rw [eraseDups_eq_singleton]
  simp only [List.mem_filterMap]
  constructor
  · rintro ⟨hhas, honly⟩
    exact ⟨hhas, fun e he other hother => honly other ⟨e, he, hother⟩⟩
  · intro h
    refine ⟨h.has, ?_⟩
    rintro other ⟨e, he, hother⟩
    exact h.only e he other hother

theorem switchOns_iff {window : List LoopPoint} {n : Nat} :
    switchOns window = some n ↔
      ∃ port, OnlyPort port window ∧ enableFromDisabled port window = n := by
  simp only [switchOns_eq_some, onlyPort_iff]

/-- The port matters, not the order. -/
theorem OnlyPort.congr {port : Int} {window window' : List LoopPoint}
    (h : ∀ e, e ∈ window ↔ e ∈ window') : OnlyPort port window ↔ OnlyPort port window' := by
  constructor
  · rintro ⟨⟨e, he, hport⟩, honly⟩
    exact ⟨⟨e, (h e).mp he, hport⟩, fun e he => honly e ((h e).mpr he)⟩
  · rintro ⟨⟨e, he, hport⟩, honly⟩
    exact ⟨⟨e, (h e).mpr he, hport⟩, fun e he => honly e ((h e).mp he)⟩

/-- No step is counted at a port that no entry has. -/
theorem enableFromDisabled_eq_zero {port : Int} {window : List LoopPoint}
    (h : ∀ e ∈ window, e.port ≠ some port) : enableFromDisabled port window = 0 := by
  induction window with
  | nil => rfl
  | cons a window ih =>
    have hrest := ih fun e he => h e (List.mem_cons_of_mem _ he)
    cases window with
    | nil => rfl
    | cons b window =>
      have hno : ¬ TurnsOn port a b :=
        fun hturns => h b (List.mem_cons_of_mem _ List.mem_cons_self) hturns.2.2
      rw [enableFromDisabled_cons, if_neg hno, hrest]

/-! ## An earlier state among the later ones -/

theorem sortPoints_pairwise (points : List LoopPoint) :
    (sortPoints points).Pairwise fun a b => a.ts ≤ b.ts := by
  have : IsTrans LoopPoint fun a b => a.ts ≤ b.ts := ⟨fun _ _ _ => le_trans⟩
  have : Std.Total fun a b : LoopPoint => a.ts ≤ b.ts := ⟨fun a b => le_total a.ts b.ts⟩
  exact List.pairwise_insertionSort _ _

/-- The entries of a window before a time, and those from then on. -/
def olderThan (ts : ℚ) (window : List LoopPoint) : List LoopPoint := window.filter (·.ts < ts)

def fromTime (ts : ℚ) (window : List LoopPoint) : List LoopPoint := window.filter (ts ≤ ·.ts)

theorem olderThan_cons (ts : ℚ) (e : LoopPoint) (window : List LoopPoint) :
    olderThan ts (e :: window) =
      if e.ts < ts then e :: olderThan ts window else olderThan ts window := by
  simp [olderThan, List.filter_cons]

theorem fromTime_cons (ts : ℚ) (e : LoopPoint) (window : List LoopPoint) :
    fromTime ts (e :: window) =
      if ts ≤ e.ts then e :: fromTime ts window else fromTime ts window := by
  simp [fromTime, List.filter_cons]

/-- Behind an entry that is not older, none is. -/
theorem notOlder_of_head {ts : ℚ} {e : LoopPoint} {window : List LoopPoint}
    (hsorted : (e :: window).Pairwise fun a b => a.ts ≤ b.ts) (hts : ts ≤ e.ts) :
    olderThan ts (e :: window) = [] ∧ fromTime ts (e :: window) = e :: window := by
  have hall : ∀ e' ∈ e :: window, ts ≤ e'.ts := by
    intro e' he'
    rcases List.mem_cons.mp he' with rfl | he'
    · exact hts
    · exact hts.trans ((List.pairwise_cons.mp hsorted).1 e' he')
  constructor
  · refine List.filter_eq_nil_iff.mpr fun e' he' => ?_
    simpa using hall e' he'
  · exact List.filter_eq_self.mpr fun e' he' => decide_eq_true (hall e' he')

theorem olderThan_append_fromTime {window : List LoopPoint}
    (hsorted : window.Pairwise fun a b => a.ts ≤ b.ts) (ts : ℚ) :
    olderThan ts window ++ fromTime ts window = window := by
  induction window with
  | nil => rfl
  | cons e window ih =>
    by_cases hts : ts ≤ e.ts
    · obtain ⟨holder, hfrom⟩ := notOlder_of_head hsorted hts
      rw [holder, hfrom, List.nil_append]
    · rw [olderThan_cons, if_pos (not_le.mp hts), fromTime_cons, if_neg hts, List.cons_append,
        ih (List.pairwise_cons.mp hsorted).2]

/-- An entry goes right in front of those that are not older. -/
theorem orderedInsert_eq {window : List LoopPoint}
    (hsorted : window.Pairwise fun a b => a.ts ≤ b.ts) (seed : LoopPoint) :
    window.orderedInsert (fun a b => a.ts ≤ b.ts) seed =
      olderThan seed.ts window ++ seed :: fromTime seed.ts window := by
  induction window with
  | nil => rfl
  | cons e window ih =>
    rw [List.orderedInsert_cons]
    by_cases hts : seed.ts ≤ e.ts
    · obtain ⟨holder, hfrom⟩ := notOlder_of_head hsorted hts
      rw [if_pos hts, holder, hfrom, List.nil_append]
    · rw [if_neg hts, olderThan_cons, if_pos (not_le.mp hts), fromTime_cons, if_neg hts,
        List.cons_append, ih (List.pairwise_cons.mp hsorted).2]

theorem sortPoints_seed (seed : LoopPoint) (points : List LoopPoint) :
    sortPoints (seed :: points) =
      olderThan seed.ts (sortPoints points) ++ seed :: fromTime seed.ts (sortPoints points) :=
  orderedInsert_eq (sortPoints_pairwise points) seed

/-- The time of the newest entry. -/
def newestTs (points : List LoopPoint) : ℚ := ((sortPoints points).getLast?.map (·.ts)).getD 0

/-- The later states of a window, in order of time. -/
def laterStates (windowSeconds : ℚ) (points : List LoopPoint) : List LoopPoint :=
  windowOf windowSeconds (newestTs points) (sortPoints points)

theorem laterStates_pairwise (windowSeconds : ℚ) (points : List LoopPoint) :
    (laterStates windowSeconds points).Pairwise fun a b => a.ts ≤ b.ts :=
  (sortPoints_pairwise points).filter _

theorem newestTs_seed {seed : LoopPoint} {points : List LoopPoint}
    (hseed : seed.ts ∈ points.map (·.ts)) : newestTs (seed :: points) = newestTs points := by
  obtain ⟨e, he, hts⟩ := List.mem_map.mp hseed
  have hfrom : fromTime seed.ts (sortPoints points) ≠ [] := by
    have hmem : e ∈ fromTime seed.ts (sortPoints points) :=
      List.mem_filter.mpr ⟨(List.mem_insertionSort _).mpr he, decide_eq_true hts.ge⟩
    exact List.ne_nil_of_mem hmem
  have hlast : (sortPoints (seed :: points)).getLast? = (sortPoints points).getLast? := by
    rw [sortPoints_seed, List.getLast?_append_of_ne_nil _ (List.cons_ne_nil _ _),
      ← List.singleton_append, List.getLast?_append_of_ne_nil _ hfrom]
    conv_rhs => rw [← olderThan_append_fromTime (sortPoints_pairwise points) seed.ts]
    rw [List.getLast?_append_of_ne_nil _ hfrom]
  unfold newestTs
  rw [hlast]

/-- The window with the earlier state of an event in it, or without it. -/
theorem seededWindow_eq {seed : LoopPoint} {points : List LoopPoint}
    (hseed : seed.ts ∈ points.map (·.ts)) (windowSeconds : ℚ) :
    seededWindow windowSeconds seed points =
      if newestTs points - seed.ts ≤ windowSeconds then
        olderThan seed.ts (laterStates windowSeconds points) ++
          seed :: fromTime seed.ts (laterStates windowSeconds points)
      else laterStates windowSeconds points := by
  have hnewest := newestTs_seed hseed
  have hwindow : seededWindow windowSeconds seed points =
      windowOf windowSeconds (newestTs points) (sortPoints (seed :: points)) := by
    unfold seededWindow
    dsimp only
    rw [← hnewest]
    rfl
  have hcomm : ∀ p q : LoopPoint → Bool, ((sortPoints points).filter p).filter q =
      ((sortPoints points).filter q).filter p := by
    intro p q
    rw [List.filter_filter, List.filter_filter]
    exact List.filter_congr fun e _ => Bool.and_comm _ _
  have hsplit := olderThan_append_fromTime (laterStates_pairwise windowSeconds points) seed.ts
  rw [hwindow, sortPoints_seed]
  unfold laterStates windowOf olderThan fromTime at hsplit ⊢
  rw [List.filter_append, List.filter_cons]
  split
  next hin =>
    rw [if_pos (of_decide_eq_true hin), hcomm, hcomm (fun e => decide (seed.ts ≤ e.ts))]
  next hout =>
    rw [if_neg fun hin => hout (decide_eq_true hin), hcomm,
      hcomm (fun e => decide (seed.ts ≤ e.ts)), hsplit]

/-! ## The order of the list -/

/-- An earlier state that brings no other port into a window, and no step. -/
structure Unnoticed (window : List LoopPoint) (seed : LoopPoint) : Prop where
  port : ∀ port, OnlyPort port (seed :: window) ↔ OnlyPort port window
  steps : ∀ port, OnlyPort port window →
    stepsAdded port (olderThan seed.ts window) seed (fromTime seed.ts window) = 0

/-- With the earlier state a window has one port, and so many steps more at it. -/
def AddsSteps (window : List LoopPoint) (seed : LoopPoint) (n : Int) : Prop :=
  ∃ port, OnlyPort port (seed :: window) ∧
    stepsAdded port (olderThan seed.ts window) seed (fromTime seed.ts window) = n

section Seeds

variable {window : List LoopPoint} {seed seed' : LoopPoint}

/-- A window with an earlier state in it. -/
def withSeed (seed : LoopPoint) (window : List LoopPoint) : List LoopPoint :=
  olderThan seed.ts window ++ seed :: fromTime seed.ts window

theorem onlyPort_withSeed (hsorted : window.Pairwise fun a b => a.ts ≤ b.ts) {port : Int} :
    OnlyPort port (withSeed seed window) ↔ OnlyPort port (seed :: window) := by
  refine OnlyPort.congr fun e => ?_
  conv_rhs => rw [← olderThan_append_fromTime hsorted seed.ts]
  unfold withSeed
  simp only [List.mem_append, List.mem_cons]
  exact or_left_comm

theorem count_withSeed (hsorted : window.Pairwise fun a b => a.ts ≤ b.ts) (seed : LoopPoint)
    (port : Int) :
    (enableFromDisabled port (withSeed seed window) : Int) = enableFromDisabled port window +
      stepsAdded port (olderThan seed.ts window) seed (fromTime seed.ts window) := by
  have hcount := enableFromDisabled_insert port (olderThan seed.ts window) seed
    (fromTime seed.ts window)
  rw [olderThan_append_fromTime hsorted] at hcount
  exact hcount

theorem OnlyPort.eq_of_cons {port port' : Int} (h : OnlyPort port window)
    (h' : OnlyPort port' (seed :: window)) : port = port' := by
  obtain ⟨e, he, hhas⟩ := h.has
  exact h'.only e (List.mem_cons_of_mem _ he) port hhas

theorem OnlyPort.eq {port port' : Int} (h : OnlyPort port window) (h' : OnlyPort port' window) :
    port = port' := by
  obtain ⟨e, he, hhas⟩ := h.has
  exact h'.only e he port hhas

/-- What is counted does not depend on the earlier state exactly when it is not noticed. -/
theorem unnoticed_iff (hsorted : window.Pairwise fun a b => a.ts ≤ b.ts) :
    Unnoticed window seed ↔ switchOns (withSeed seed window) = switchOns window := by
  constructor
  · intro h
    refine Option.ext fun n => ?_
    rw [switchOns_iff, switchOns_iff]
    refine exists_congr fun port => ?_
    rw [onlyPort_withSeed hsorted, h.port]
    refine and_congr_right fun hport => ?_
    have hcount := count_withSeed hsorted seed port
    rw [h.steps port hport, Int.add_zero, Int.natCast_inj] at hcount
    rw [hcount]
  · intro h
    have hboth : ∀ port, OnlyPort port window → OnlyPort port (seed :: window) ∧
        enableFromDisabled port (withSeed seed window) = enableFromDisabled port window := by
      intro port hport
      have hcount := h.trans (switchOns_iff.mpr ⟨port, hport, rfl⟩)
      obtain ⟨port', hport', hsame⟩ := switchOns_iff.mp hcount
      rw [onlyPort_withSeed hsorted] at hport'
      obtain rfl := hport.eq_of_cons hport'
      exact ⟨hport', hsame⟩
    constructor
    · intro port
      constructor
      · intro hport
        have hcount := switchOns_iff.mpr ⟨port, (onlyPort_withSeed hsorted).mpr hport, rfl⟩
        obtain ⟨port', hport', -⟩ := switchOns_iff.mp (h.symm.trans hcount)
        obtain rfl := hport'.eq_of_cons hport
        exact hport'
      · exact fun hport => (hboth port hport).1
    · intro port hport
      have hcount := count_withSeed hsorted seed port
      rw [(hboth port hport).2] at hcount
      omega

/-- The steps between the later states are the same at the ports of any two earlier ones. -/
theorem OnlyPort.count_eq {port port' : Int} (h : OnlyPort port (seed :: window))
    (h' : OnlyPort port' (seed' :: window)) :
    enableFromDisabled port window = enableFromDisabled port' window := by
  by_cases hhas : ∃ e ∈ window, ∃ p, e.port = some p
  · obtain ⟨e, he, p, hp⟩ := hhas
    rw [← h.only e (List.mem_cons_of_mem _ he) p hp, ← h'.only e (List.mem_cons_of_mem _ he) p hp]
  · have hnone : ∀ p, ∀ e ∈ window, e.port ≠ some p := fun p e he hp => hhas ⟨e, he, p, hp⟩
    rw [enableFromDisabled_eq_zero (hnone port), enableFromDisabled_eq_zero (hnone port')]

/-- Two earlier states that add the same steps are counted in the same way, and conversely. -/
theorem addsSteps_iff (hsorted : window.Pairwise fun a b => a.ts ≤ b.ts) :
    (∀ n, AddsSteps window seed n ↔ AddsSteps window seed' n) ↔
      switchOns (withSeed seed window) = switchOns (withSeed seed' window) := by
  have hcounted : ∀ {seed seed' : LoopPoint} {n : Nat},
      (∀ n, AddsSteps window seed n → AddsSteps window seed' n) →
      switchOns (withSeed seed window) = some n → switchOns (withSeed seed' window) = some n := by
    intro seed seed' n hadds hcount
    obtain ⟨port, hport, rfl⟩ := switchOns_iff.mp hcount
    rw [onlyPort_withSeed hsorted] at hport
    obtain ⟨port', hport', hsteps⟩ := hadds _ ⟨port, hport, rfl⟩
    refine switchOns_iff.mpr ⟨port', (onlyPort_withSeed hsorted).mpr hport', ?_⟩
    have hleft := count_withSeed hsorted seed port
    have hright := count_withSeed hsorted seed' port'
    rw [hsteps, ← hport.count_eq hport', ← hleft] at hright
    exact Int.natCast_inj.mp hright
  have hadded : ∀ {seed seed' : LoopPoint} {n : Int},
      switchOns (withSeed seed window) = switchOns (withSeed seed' window) →
      AddsSteps window seed n → AddsSteps window seed' n := by
    rintro seed seed' n hcount ⟨port, hport, rfl⟩
    have hsome := switchOns_iff.mpr ⟨port, (onlyPort_withSeed hsorted).mpr hport, rfl⟩
    obtain ⟨port', hport', hsame⟩ := switchOns_iff.mp (hcount.symm.trans hsome)
    rw [onlyPort_withSeed hsorted] at hport'
    refine ⟨port', hport', ?_⟩
    have hleft := count_withSeed hsorted seed port
    have hright := count_withSeed hsorted seed' port'
    rw [hsame, hleft, hport.count_eq hport'] at hright
    omega
  constructor
  · intro h
    refine Option.ext fun n => ?_
    exact ⟨hcounted fun n => (h n).mp, hcounted fun n => (h n).mpr⟩
  · intro h n
    exact ⟨hadded h, hadded h.symm⟩

end Seeds

section Order

variable (fromIso : String → Option ℚ)

/-- What the earlier states of the events are among their later ones: all of them normalize or
none does; in a window that leaves an older event out none is noticed; in the whole timeline they
all add the same steps. -/
structure SeedsAlike (events : List Dict) (points : List LoopPoint) : Prop where
  normalize : ∀ ev ∈ events, ∀ ev' ∈ events,
    (∃ seed, beforePoint fromIso ev = .ok seed) → ∃ seed, beforePoint fromIso ev' = .ok seed
  part : ∀ windowSeconds, ∀ old ∈ events,
    windowSeconds < newestTs points - sortKey fromIso old →
    ∀ ev ∈ events, newestTs points - sortKey fromIso ev ≤ windowSeconds →
    ∀ seed, beforePoint fromIso ev = .ok seed → Unnoticed (laterStates windowSeconds points) seed
  whole : ∀ ev ∈ events, ∀ ev' ∈ events, ∀ seed seed', beforePoint fromIso ev = .ok seed →
    beforePoint fromIso ev' = .ok seed' →
    ∀ n, AddsSteps (sortPoints points) seed n ↔ AddsSteps (sortPoints points) seed' n

variable {fromIso}

theorem beforePoint_ts {ev : Dict} {seed : LoopPoint} (h : beforePoint fromIso ev = .ok seed) :
    seed.ts = sortKey fromIso ev := by
  obtain ⟨st, -, rfl⟩ := map_ok.mp h
  rfl

theorem seededCount_of_ok {ev : Dict} {seed : LoopPoint} (h : beforePoint fromIso ev = .ok seed)
    (windowSeconds : ℚ) (points : List LoopPoint) :
    seededCount fromIso windowSeconds points ev =
      some (switchOns (seededWindow windowSeconds seed points)) := by
  unfold seededCount
  rw [h]
  rfl

/-- Some window leaves nothing out. -/
theorem exists_window (age : Dict → ℚ) (events : List Dict) :
    ∃ windowSeconds, ∀ ev ∈ events, age ev ≤ windowSeconds := by
  induction events with
  | nil => exact ⟨0, fun ev hev => absurd hev List.not_mem_nil⟩
  | cons ev events ih =>
    obtain ⟨windowSeconds, hall⟩ := ih
    refine ⟨max (age ev) windowSeconds, ?_⟩
    rw [List.forall_mem_cons]
    exact ⟨le_max_left _ _, fun ev' hev' => (hall ev' hev').trans (le_max_right _ _)⟩

/-- An earlier state has the time of a later one, that of its event. -/
theorem beforePoint_ts_mem {events : List Dict} {points : List LoopPoint} {ev : Dict}
    {seed : LoopPoint} (hpoints : events.mapM (afterPoint fromIso) = .ok points) (hev : ev ∈ events)
    (hseed : beforePoint fromIso ev = .ok seed) : seed.ts ∈ points.map (·.ts) := by
  rw [beforePoint_ts hseed, afterPoints_ts hpoints]
  exact List.mem_map_of_mem hev

/-- An earlier state in the window is counted with it. -/
theorem seededCount_inside {events : List Dict} {points : List LoopPoint} {ev : Dict}
    {seed : LoopPoint} {windowSeconds : ℚ}
    (hpoints : events.mapM (afterPoint fromIso) = .ok points) (hev : ev ∈ events)
    (hseed : beforePoint fromIso ev = .ok seed)
    (hin : newestTs points - sortKey fromIso ev ≤ windowSeconds) :
    seededCount fromIso windowSeconds points ev =
      some (switchOns (withSeed seed (laterStates windowSeconds points))) := by
  rw [seededCount_of_ok hseed, seededWindow_eq (beforePoint_ts_mem hpoints hev hseed),
    if_pos (by rwa [beforePoint_ts hseed])]
  rfl

/-- An earlier state behind the window is left out. -/
theorem seededCount_outside {events : List Dict} {points : List LoopPoint} {ev : Dict}
    {seed : LoopPoint} {windowSeconds : ℚ}
    (hpoints : events.mapM (afterPoint fromIso) = .ok points) (hev : ev ∈ events)
    (hseed : beforePoint fromIso ev = .ok seed)
    (hout : windowSeconds < newestTs points - sortKey fromIso ev) :
    seededCount fromIso windowSeconds points ev =
      some (switchOns (laterStates windowSeconds points)) := by
  rw [← beforePoint_ts hseed] at hout
  rw [seededCount_of_ok hseed, seededWindow_eq (beforePoint_ts_mem hpoints hev hseed),
    if_neg (not_le.mpr hout)]

/-- A state that does not normalize shows no count. -/
theorem seededCount_none {ev : Dict} (hno : ¬ ∃ seed, beforePoint fromIso ev = .ok seed)
    (windowSeconds : ℚ) (points : List LoopPoint) :
    seededCount fromIso windowSeconds points ev = none := by
  unfold seededCount
  cases hbefore : beforePoint fromIso ev with
  | error e => rfl
  | ok seed => exact absurd ⟨seed, hbefore⟩ hno

/-- A window that leaves no event out is the whole timeline. -/
theorem laterStates_whole {events : List Dict} {points : List LoopPoint} {windowSeconds : ℚ}
    (hpoints : events.mapM (afterPoint fromIso) = .ok points)
    (hall : ∀ ev ∈ events, newestTs points - sortKey fromIso ev ≤ windowSeconds) :
    laterStates windowSeconds points = sortPoints points := by
  refine List.filter_eq_self.mpr fun e he => decide_eq_true ?_
  have hts : e.ts ∈ events.map (sortKey fromIso) := by
    rw [← afterPoints_ts hpoints]
    exact List.mem_map_of_mem ((List.mem_insertionSort _).mp he)
  obtain ⟨ev, hev, hts⟩ := List.mem_map.mp hts
  rw [← hts]
  exact hall ev hev

theorem SeedsAlike.of_agree {events : List Dict} {points : List LoopPoint}
    (hpoints : events.mapM (afterPoint fromIso) = .ok points)
    (h : ∀ windowSeconds, ∀ ev ∈ events, ∀ ev' ∈ events,
      seededCount fromIso windowSeconds points ev = seededCount fromIso windowSeconds points ev') :
    SeedsAlike fromIso events points := by
  have hnormalize : ∀ ev ∈ events, ∀ ev' ∈ events,
      (∃ seed, beforePoint fromIso ev = .ok seed) → ∃ seed, beforePoint fromIso ev' = .ok seed := by
    rintro ev hev ev' hev' ⟨seed, hseed⟩
    by_contra hno
    have hcount := h 0 ev hev ev' hev'
    rw [seededCount_of_ok hseed, seededCount_none hno] at hcount
    cases hcount
  refine ⟨hnormalize, ?_, ?_⟩
  · intro windowSeconds old hold hout ev hev hin seed hseed
    obtain ⟨seed', hseed'⟩ := hnormalize ev hev old hold ⟨seed, hseed⟩
    have hcount := h windowSeconds ev hev old hold
    rw [seededCount_inside hpoints hev hseed hin,
      seededCount_outside hpoints hold hseed' hout] at hcount
    exact (unnoticed_iff (laterStates_pairwise _ _)).mpr (Option.some.inj hcount)
  · intro ev hev ev' hev' seed seed' hseed hseed'
    obtain ⟨windowSeconds, hall⟩ :=
      exists_window (fun ev => newestTs points - sortKey fromIso ev) events
    have hcount := h windowSeconds ev hev ev' hev'
    rw [seededCount_inside hpoints hev hseed (hall ev hev),
      seededCount_inside hpoints hev' hseed' (hall ev' hev'),
      laterStates_whole hpoints hall] at hcount
    exact (addsSteps_iff (sortPoints_pairwise points)).mpr (Option.some.inj hcount)

/-- In a window that leaves an older event out, the later states alone are counted. -/
theorem SeedsAlike.count_part {events : List Dict} {points : List LoopPoint} {ev old : Dict}
    {seed : LoopPoint} {windowSeconds : ℚ} (h : SeedsAlike fromIso events points)
    (hpoints : events.mapM (afterPoint fromIso) = .ok points) (hold : old ∈ events)
    (hout : windowSeconds < newestTs points - sortKey fromIso old) (hev : ev ∈ events)
    (hseed : beforePoint fromIso ev = .ok seed) :
    seededCount fromIso windowSeconds points ev =
      some (switchOns (laterStates windowSeconds points)) := by
  by_cases hin : newestTs points - sortKey fromIso ev ≤ windowSeconds
  · have hunnoticed := h.part windowSeconds old hold hout ev hev hin seed hseed
    rw [seededCount_inside hpoints hev hseed hin,
      (unnoticed_iff (laterStates_pairwise _ _)).mp hunnoticed]
  · exact seededCount_outside hpoints hev hseed (not_le.mp hin)

theorem SeedsAlike.agree {events : List Dict} {points : List LoopPoint}
    (h : SeedsAlike fromIso events points)
    (hpoints : events.mapM (afterPoint fromIso) = .ok points) (windowSeconds : ℚ) {ev ev' : Dict}
    (hev : ev ∈ events) (hev' : ev' ∈ events) :
    seededCount fromIso windowSeconds points ev = seededCount fromIso windowSeconds points ev' := by
  by_cases hseed : ∃ seed, beforePoint fromIso ev = .ok seed
  · obtain ⟨seed', hseed'⟩ := h.normalize ev hev ev' hev' hseed
    obtain ⟨seed, hseed⟩ := hseed
    by_cases hall : ∀ ev ∈ events, newestTs points - sortKey fromIso ev ≤ windowSeconds
    · have hsame := h.whole ev hev ev' hev' seed seed' hseed hseed'
      rw [seededCount_inside hpoints hev hseed (hall ev hev),
        seededCount_inside hpoints hev' hseed' (hall ev' hev'), laterStates_whole hpoints hall,
        (addsSteps_iff (sortPoints_pairwise points)).mp hsame]
    · push Not at hall
      obtain ⟨old, hold, hout⟩ := hall
      rw [h.count_part hpoints hold hout hev hseed, h.count_part hpoints hold hout hev' hseed']
  · have hseed' : ¬ ∃ seed, beforePoint fromIso ev' = .ok seed :=
      fun h' => hseed (h.normalize ev' hev' ev hev h')
    rw [seededCount_none hseed, seededCount_none hseed']

/-- The earlier states count the same exactly when they are alike. -/
theorem seedsAgree_iff {events : List Dict} :
    SeedsAgree fromIso events ↔
      ∀ points, events.mapM (afterPoint fromIso) = .ok points → SeedsAlike fromIso events points := by
  refine forall_congr' fun points => forall_congr' fun hpoints => ?_
  constructor
  · exact SeedsAlike.of_agree hpoints
  · intro h windowSeconds ev hev ev' hev'
    exact h.agree hpoints windowSeconds hev hev'

/-- The order does not matter exactly when the later states do not normalize, or the earlier states
are alike among them. -/
theorem order_insensitive_iff {events : List Dict} (htimed : Timed fromIso events)
    (hdistinct : (events.map (sortKey fromIso)).Nodup) :
    OrderInsensitive fromIso events ↔
      ∀ points, events.mapM (afterPoint fromIso) = .ok points → SeedsAlike fromIso events points := by
  rw [orderInsensitive_iff_seedsAgree htimed hdistinct, seedsAgree_iff]

/-- The state of an entry itself, put in front of it, adds no step. -/
theorem stepsAdded_self {window : List LoopPoint}
    (hsorted : window.Pairwise fun a b => a.ts ≤ b.ts) (hkeys : (window.map (·.ts)).Nodup)
    {e : LoopPoint} (he : e ∈ window) (port : Int) :
    stepsAdded port (olderThan e.ts window) e (fromTime e.ts window) = 0 := by
  have hfirst : ∃ rest, fromTime e.ts window = e :: rest := by
    have hmem : e ∈ fromTime e.ts window := List.mem_filter.mpr ⟨he, decide_eq_true (le_refl _)⟩
    have hfrom : (fromTime e.ts window).Pairwise fun a b => a.ts ≤ b.ts := hsorted.filter _
    cases hentries : fromTime e.ts window with
    | nil =>
      rw [hentries] at hmem
      cases hmem
    | cons b rest =>
      rw [hentries] at hmem hfrom
      have hb : b ∈ fromTime e.ts window := hentries ▸ List.mem_cons_self
      obtain ⟨hbmem, hle⟩ := List.mem_filter.mp hb
      have hge : b.ts ≤ e.ts := by
        rcases List.mem_cons.mp hmem with rfl | hlater
        · exact le_refl _
        · exact (List.pairwise_cons.mp hfrom).1 e hlater
      have hsame := le_antisymm hge (of_decide_eq_true hle)
      obtain rfl := List.inj_on_of_nodup_map hkeys hbmem he hsame
      exact ⟨rest, rfl⟩
  obtain ⟨rest, hrest⟩ := hfirst
  have hno : ¬ TurnsOn port e e := by
    rintro ⟨hoff, hon, -⟩
    rw [hoff] at hon
    cases hon
  have hback : joint port [e] (e :: rest) = 0 := if_neg hno
  have hfront : joint port (olderThan e.ts window) (e :: rest) =
      joint port (olderThan e.ts window) [e] := rfl
  rw [hrest]
  unfold stepsAdded
  rw [hback, hfront]
  omega

/-- Events that leave the switch and the port as they were can be listed in any order. -/
theorem SeedsAlike.of_unchanged {events : List Dict} {points : List LoopPoint}
    (hdistinct : (events.map (sortKey fromIso)).Nodup)
    (hpoints : events.mapM (afterPoint fromIso) = .ok points)
    (hsame : ∀ ev ∈ events, beforePoint fromIso ev = afterPoint fromIso ev) :
    SeedsAlike fromIso events points := by
  have hkeys : ((sortPoints points).map (·.ts)).Nodup := by
    have hperm : (sortPoints points).Perm points := List.perm_insertionSort _ _
    rw [(hperm.map _).nodup_iff, afterPoints_ts hpoints]
    exact hdistinct
  have hmem : ∀ {ev seed}, ev ∈ events → beforePoint fromIso ev = .ok seed →
      seed ∈ sortPoints points := by
    intro ev seed hev hseed
    obtain ⟨point, hpoint, hread⟩ := exists_of_mapM_ok hpoints hev
    rw [hsame ev hev, hread] at hseed
    exact (List.mem_insertionSort _).mpr (Except.ok.inj hseed ▸ hpoint)
  have hnoticed : ∀ {window seed}, seed ∈ window →
      ∀ port, OnlyPort port (seed :: window) ↔ OnlyPort port window := by
    intro window seed hseed port
    refine OnlyPort.congr fun e => ⟨fun he => ?_, List.mem_cons_of_mem _⟩
    rcases List.mem_cons.mp he with rfl | he
    · exact hseed
    · exact he
  refine ⟨?_, ?_, ?_⟩
  · intro ev hev ev' hev' _
    obtain ⟨point, -, hread⟩ := exists_of_mapM_ok hpoints hev'
    exact ⟨point, (hsame ev' hev').trans hread⟩
  · intro windowSeconds old hold hout ev hev hin seed hseed
    have hwindow : seed ∈ laterStates windowSeconds points :=
      List.mem_filter.mpr ⟨hmem hev hseed, decide_eq_true (by rwa [beforePoint_ts hseed])⟩
    have hsub : ((laterStates windowSeconds points).map (·.ts)).Nodup :=
      hkeys.sublist (List.filter_sublist.map _)
    exact ⟨hnoticed hwindow,
      fun port _ => stepsAdded_self (laterStates_pairwise _ _) hsub hwindow port⟩
  · intro ev hev ev' hev' seed seed' hseed hseed' n
    have hall := hmem hev hseed
    have hall' := hmem hev' hseed'
    unfold AddsSteps
    refine exists_congr fun port => ?_
    rw [hnoticed hall, hnoticed hall', stepsAdded_self (sortPoints_pairwise _) hkeys hall,
      stepsAdded_self (sortPoints_pairwise _) hkeys hall']

end Order

/-- Two states of a switch that goes on and off at a server, and the time between them. -/
def switchEvent (second : Nat) (server : String) (before after : Int) : Dict :=
  let state (enable : Int) : Value :=
    .dict [("ProxyEnable", .int enable), ("ProxyServer", .str server)]
  [("timestamp_utc", .str ("2026-01-01T00:00:0" ++ Nat.repr second ++ "Z")),
    ("before_state", state before), ("after_state", state after)]

theorem eventTime_switchEvent {second : Nat} (h : second ∈ [1, 2, 3, 4, 5, 6]) (server : String)
    (before after : Int) :
    eventTime newYear (switchEvent second server before after) = some (1767225600 + second) := by
  have hread : ∀ n ∈ [1, 2, 3, 4, 5, 6],
      parseTs newYear ("2026-01-01T00:00:0" ++ Nat.repr n ++ "Z") = some (1767225600 + n) := by
    decide +kernel
  exact hread second h

/-- Off and on again, and at last on. -/
def flapping (server : String) : List Dict :=
  [switchEvent 1 server 0 1, switchEvent 2 server 1 0, switchEvent 3 server 0 1,
    switchEvent 4 server 1 0, switchEvent 5 server 0 1]

theorem flapping_times (server : String) : (flapping server).map (eventTime newYear) =
    [1767225601, 1767225602, 1767225603, 1767225604, 1767225605].map some := by
  simp only [flapping, List.map_cons, List.map_nil]
  rw [eventTime_switchEvent (by decide), eventTime_switchEvent (by decide),
    eventTime_switchEvent (by decide), eventTime_switchEvent (by decide),
    eventTime_switchEvent (by decide)]
  norm_num

/-- Events have their times, and different ones, as the list of the times says. -/
theorem timed_of_times {fromIso : String → Option ℚ} {events : List Dict} {times : List ℚ}
    (h : events.map (eventTime fromIso) = times.map some) (hnodup : times.Nodup) :
    Timed fromIso events ∧ (events.map (sortKey fromIso)).Nodup := by
  constructor
  · intro ev hev
    have hmem : eventTime fromIso ev ∈ times.map some := h ▸ List.mem_map_of_mem hev
    obtain ⟨ts, -, hts⟩ := List.mem_map.mp hmem
    rw [← hts]
    rfl
  · have hkeys : events.map (sortKey fromIso) = times := by
      have hmap := congrArg (List.map fun ts => ts.getD 0) h
      rw [List.map_map, List.map_map] at hmap
      exact hmap.trans (List.map_id _)
    rw [hkeys]
    exact hnodup

/-- Events that change nothing, between which the proxy goes off and on. -/
def unchanged (server : String) : List Dict :=
  [switchEvent 1 server 0 0, switchEvent 2 server 1 1, switchEvent 3 server 0 0,
    switchEvent 4 server 1 1, switchEvent 5 server 0 0, switchEvent 6 server 1 1]

/-- In any order they show the same cycles. -/
theorem order_insensitive_iff_unchanged : OrderInsensitive newYear (unchanged "127.0.0.1:8080") := by
  have htimes : (unchanged "127.0.0.1:8080").map (eventTime newYear) =
      [1767225601, 1767225602, 1767225603, 1767225604, 1767225605, 1767225606].map some := by
    simp only [unchanged, List.map_cons, List.map_nil]
    rw [eventTime_switchEvent (by decide), eventTime_switchEvent (by decide),
      eventTime_switchEvent (by decide), eventTime_switchEvent (by decide),
      eventTime_switchEvent (by decide), eventTime_switchEvent (by decide)]
    norm_num
  obtain ⟨htimed, hdistinct⟩ := timed_of_times htimes (by decide)
  refine (order_insensitive_iff htimed hdistinct).mpr fun points hpoints => ?_
  refine SeedsAlike.of_unchanged hdistinct hpoints fun ev hev => ?_
  have hstates : (loopInput ev).before = (loopInput ev).after := by
    simp only [unchanged, List.mem_cons, List.not_mem_nil, or_false] at hev
    rcases hev with rfl | rfl | rfl | rfl | rfl | rfl
    all_goals rfl
  unfold beforePoint afterPoint
  rw [hstates]

/-- Listed from the newest on, the same events show one cycle less. -/
theorem newest_first_missed : Timed newYear (flapping "127.0.0.1:8080") ∧
    ((flapping "127.0.0.1:8080").map (sortKey newYear)).Nodup ∧
    ¬ OrderInsensitive newYear (flapping "127.0.0.1:8080") := by
  obtain ⟨htimed, hdistinct⟩ := timed_of_times (flapping_times "127.0.0.1:8080") (by decide)
  refine ⟨htimed, hdistinct, fun h => ?_⟩
  have hsame := h (flapping "127.0.0.1:8080").reverse (List.reverse_perm _) 300 3
  exact absurd hsame (by decide +kernel)

/-! ## What is counted -/

section Soundness

variable (fromIso : String → Option ℚ)

/-- The port of a local proxy that an event switches on, from off. -/
def switchPort (ev : Dict) : Option Int :=
  match normalizeValue (loopInput ev).before, normalizeValue (loopInput ev).after with
  | .ok before, .ok after =>
    if !before.proxyEnable && after.proxyEnable &&
        (parseProxyServer after.proxyServer).isLocalhostProxy then after.parsedPort
    else none
  | _, _ => none

/-- An event with a time that no other one leaves behind by more than the window. -/
def inLoopWindow (events : List Dict) (windowSeconds : ℚ) (ev : Dict) : Bool :=
  (eventTime fromIso ev).any fun ts =>
    events.all fun ev' => (eventTime fromIso ev').all fun ts' => ts' - ts ≤ windowSeconds

/-- How many events of the window switch a local proxy on at the port. -/
def localSwitchOns (events : List Dict) (windowSeconds : ℚ) (port : Int) : Nat :=
  events.countP fun ev => inLoopWindow fromIso events windowSeconds ev && switchPort ev == some port

/-- A loop that is reported is one of so many events that switch a local proxy on, at one port. -/
def LoopSound (events : List Dict) (windowSeconds : ℚ) : Prop :=
  ∀ minCycles, detectReverterLoopPattern fromIso events windowSeconds minCycles = .ok true →
    ∃ port, minCycles ≤ localSwitchOns fromIso events windowSeconds port

/-- An entry of the timeline, and whether its event itself switches a local proxy on there: its own
earlier state is off, and the server of its later state is local. -/
structure LoopEntry where
  point : LoopPoint
  switches : Bool

/-- The earlier state of an event is off, and the server of its later state is local. -/
def switchesLocal (ev : Dict) : Bool :=
  match normalizeValue (loopInput ev).before, normalizeValue (loopInput ev).after with
  | .ok before, .ok after =>
    !before.proxyEnable && (parseProxyServer after.proxyServer).isLocalhostProxy
  | _, _ => false

def afterEntry (ev : Dict) : Except PyError LoopEntry :=
  (afterPoint fromIso ev).map fun point => ⟨point, switchesLocal ev⟩

/-- The timeline of the events that have a time: the earlier state of the first one, which is no
switch, and the later states of all. -/
def loopEntries (events : List Dict) : Except PyError (List LoopEntry) :=
  match events.filter fun ev => (eventTime fromIso ev).isSome with
  | [] => .ok []
  | ev :: rest => do
    let seed ← beforePoint fromIso ev
    let entries ← (ev :: rest).mapM (afterEntry fromIso)
    return ⟨seed, false⟩ :: entries

/-- The window of a timeline, in order of time. -/
def entryWindow (windowSeconds : ℚ) (entries : List LoopEntry) : List LoopEntry :=
  let sorted := entries.insertionSort fun a b => a.point.ts ≤ b.point.ts
  sorted.filter fun e => (sorted.getLast?.map (·.point.ts)).getD 0 - e.point.ts ≤ windowSeconds

/-- On, and at the port. -/
def LoopEntry.onAt (port : Int) (e : LoopEntry) : Bool := e.point.enabled && e.point.port == some port

/-- The entries that are on at the port right behind one that is off, although their event does not
switch a local proxy on. -/
def falseSteps (port : Int) (offBefore : Bool) : List LoopEntry → Nat
  | [] => 0
  | e :: rest => (if offBefore && e.onAt port && !e.switches then 1 else 0) +
      falseSteps port (!e.point.enabled) rest

/-- The entries whose event switches a local proxy on at the port, although none that is off stands
right before them. -/
def missedSwitches (port : Int) (offBefore : Bool) : List LoopEntry → Nat
  | [] => 0
  | e :: rest => (if !offBefore && e.onAt port && e.switches then 1 else 0) +
      missedSwitches port (!e.point.enabled) rest

variable {fromIso}

/-- Steps that no event stands for and events that make no step are the difference between the
steps and the events. -/
theorem steps_add_missed (port : Int) (entries : List LoopEntry) :
    enableFromDisabled port (entries.map (·.point)) + missedSwitches port false entries =
      falseSteps port false entries + entries.countP fun e => e.onAt port && e.switches := by
  have hbehind : ∀ (entries : List LoopEntry) (a : LoopPoint),
      enableFromDisabled port (a :: entries.map (·.point)) +
          missedSwitches port (!a.enabled) entries =
        falseSteps port (!a.enabled) entries +
          entries.countP fun e => e.onAt port && e.switches := by
    intro entries
    induction entries with
    | nil => intro a; rfl
    | cons e entries ih =>
      intro a
      have hrest := ih e.point
      have hturns : TurnsOn port a e.point ↔ (!a.enabled && e.onAt port) = true := by
        simp [TurnsOn, LoopEntry.onAt]
      rw [List.map_cons, enableFromDisabled_cons, missedSwitches, falseSteps, List.countP_cons]
      simp only [hturns]
      cases (!a.enabled) <;> cases e.onAt port <;> cases e.switches <;>
        simp only [Bool.and_true, Bool.and_false, Bool.not_true, Bool.not_false, if_true, if_false,
          Bool.false_eq_true] <;> omega
  cases entries with
  | nil => rfl
  | cons e entries =>
    have hrest := hbehind entries e.point
    rw [List.map_cons, missedSwitches, falseSteps, List.countP_cons]
    cases e.onAt port <;> cases e.switches <;>
      simp only [Bool.and_true, Bool.and_false, Bool.not_true, Bool.not_false, if_true, if_false,
        Bool.false_eq_true] <;> omega

theorem loopSteps_timed (events : List Dict) (timeline : List LoopPoint) :
    (events.map loopInput).foldlM (loopStep fromIso) timeline =
      ((events.filter fun ev => (eventTime fromIso ev).isSome).map loopInput).foldlM
        (loopStep fromIso) timeline := by
  induction events generalizing timeline with
  | nil => rfl
  | cons ev events ih =>
    cases hts : eventTime fromIso ev with
    | none =>
      have hskip : loopStep fromIso timeline (loopInput ev) = .ok timeline := by
        have hparse : parseTs fromIso (loopInput ev).ts = none := hts
        unfold loopStep
        rw [hparse]
      rw [List.filter_cons_of_neg (by simp [hts]), List.map_cons, List.foldlM_cons, hskip]
      exact ih timeline
    | some ts =>
      rw [List.filter_cons_of_pos (by simp [hts]), List.map_cons, List.map_cons, List.foldlM_cons,
        List.foldlM_cons]
      exact congrArg _ (funext ih)

theorem mapM_afterEntry (events : List Dict) :
    (events.mapM (afterEntry fromIso)).map (·.map (·.point)) =
      events.mapM (afterPoint fromIso) := by
  induction events with
  | nil => rfl
  | cons ev events ih =>
    have hhead : afterEntry fromIso ev =
        (afterPoint fromIso ev).map fun point => ⟨point, switchesLocal ev⟩ := rfl
    rw [List.mapM_cons, List.mapM_cons, ← ih, hhead]
    cases afterPoint fromIso ev with
    | error e => rfl
    | ok point =>
      cases events.mapM (afterEntry fromIso) with
      | error e => rfl
      | ok entries => rfl

/-- The entries are those of the timeline of the detector. -/
theorem loopTimeline_eq (events : List Dict) :
    loopTimeline fromIso (events.map loopInput) =
      (loopEntries fromIso events).map (·.map (·.point)) := by
  unfold loopEntries
  rw [loopTimeline, loopSteps_timed]
  cases htimed : events.filter fun ev => (eventTime fromIso ev).isSome with
  | nil => rfl
  | cons ev rest =>
    have hall : Timed fromIso (ev :: rest) := by
      intro ev' hev'
      rw [← htimed] at hev'
      exact (List.mem_filter.mp hev').2
    have hcons := loopTimeline_cons hall
    unfold loopTimeline at hcons
    rw [hcons, ← mapM_afterEntry]
    dsimp only
    cases beforePoint fromIso ev with
    | error e => rfl
    | ok seed =>
      cases (ev :: rest).mapM (afterEntry fromIso) with
      | error e => rfl
      | ok entries => rfl

/-- A loop is reported exactly when so many steps are in the window, at its only port. -/
theorem detect_iff_steps {events : List Dict} {windowSeconds : ℚ} {minCycles : Int} :
    detectReverterLoopPattern fromIso events windowSeconds minCycles = .ok true ↔
      ∃ entries, loopEntries fromIso events = .ok entries ∧
        ∃ port, OnlyPort port ((entryWindow windowSeconds entries).map (·.point)) ∧
          minCycles ≤
            enableFromDisabled port ((entryWindow windowSeconds entries).map (·.point)) := by
  have hcount : ∀ entries, loopEntries fromIso events = .ok entries →
      loopCount fromIso events windowSeconds =
        switchOns ((entryWindow windowSeconds entries).map (·.point)) := by
    intro entries hentries
    have hsorted : sortPoints (entries.map (·.point)) =
        (entries.insertionSort fun a b => a.point.ts ≤ b.point.ts).map (·.point) :=
      (List.map_insertionSort (fun a b : LoopEntry => a.point.ts ≤ b.point.ts)
        (fun a b : LoopPoint => a.ts ≤ b.ts) (·.point) entries fun _ _ _ _ => Iff.rfl).symm
    unfold loopCount entryWindow
    rw [loopTimeline_eq, hentries]
    dsimp only [Except.map, Except.toOption]
    rw [Option.bind_some, hsorted, List.getLast?_map]
    cases hlast : (entries.insertionSort fun a b => a.point.ts ≤ b.point.ts).getLast? with
    | none =>
      rw [List.getLast?_eq_none_iff.mp hlast]
      rfl
    | some newest =>
      rw [Option.map_some, Option.bind_some, Option.map_some, Option.getD_some]
      unfold windowOf
      rw [List.filter_map]
      rfl
  rw [detect_eq_true_iff]
  constructor
  · intro h
    obtain ⟨n, hn, hreach⟩ := (Option.any_eq_true _ _).mp h
    cases hentries : loopEntries fromIso events with
    | error e =>
      unfold loopCount at hn
      rw [loopTimeline_eq, hentries] at hn
      cases hn
    | ok entries =>
      rw [hcount entries hentries] at hn
      obtain ⟨port, hport, rfl⟩ := switchOns_iff.mp hn
      exact ⟨entries, rfl, port, hport, of_decide_eq_true hreach⟩
  · rintro ⟨entries, hentries, port, hport, hmin⟩
    rw [hcount entries hentries, switchOns_iff.mpr ⟨port, hport, rfl⟩]
    exact decide_eq_true hmin

/-- The newest entry is not older by more than the window when none is. -/
theorem newest_sub_le_iff {entries : List LoopEntry} (hne : entries ≠ []) (ts windowSeconds : ℚ) :
    ((entries.insertionSort fun a b => a.point.ts ≤ b.point.ts).getLast?.map (·.point.ts)).getD 0 -
        ts ≤ windowSeconds ↔ ∀ e ∈ entries, e.point.ts - ts ≤ windowSeconds := by
  have hsorted : (entries.insertionSort fun a b => a.point.ts ≤ b.point.ts).Pairwise
      fun a b => a.point.ts ≤ b.point.ts := by
    have : IsTrans LoopEntry fun a b => a.point.ts ≤ b.point.ts := ⟨fun _ _ _ => le_trans⟩
    have : Std.Total fun a b : LoopEntry => a.point.ts ≤ b.point.ts :=
      ⟨fun a b => le_total a.point.ts b.point.ts⟩
    exact List.pairwise_insertionSort _ _
  have hmem : ∀ e, e ∈ entries.insertionSort (fun a b => a.point.ts ≤ b.point.ts) ↔ e ∈ entries :=
    fun e => List.mem_insertionSort _
  generalize entries.insertionSort (fun a b => a.point.ts ≤ b.point.ts) = sorted at hsorted hmem
  rcases List.eq_nil_or_concat' sorted with rfl | ⟨front, newest, rfl⟩
  · obtain ⟨e, he⟩ := List.exists_mem_of_ne_nil entries hne
    exact absurd ((hmem e).mpr he) List.not_mem_nil
  · rw [List.getLast?_concat, Option.map_some, Option.getD_some]
    constructor
    · intro h e he
      rcases List.mem_append.mp ((hmem e).mpr he) with hfront | hlast
      · have hle := (List.pairwise_append.mp hsorted).2.2 e hfront newest
          (List.mem_singleton_self _)
        exact (sub_le_sub_right hle ts).trans h
      · obtain rfl := List.mem_singleton.mp hlast
        exact h
    · intro h
      exact h newest ((hmem newest).mp (List.mem_append_right _ (List.mem_singleton_self _)))

theorem sortKey_of_time {ev : Dict} {ts : ℚ} (h : eventTime fromIso ev = some ts) :
    sortKey fromIso ev = ts := by
  rw [sortKey, h, Option.getD_some]

theorem afterEntry_ts {ev : Dict} {e : LoopEntry} (h : afterEntry fromIso ev = .ok e) :
    e.point.ts = sortKey fromIso ev := by
  obtain ⟨point, hpoint, rfl⟩ := map_ok.mp h
  obtain ⟨st, -, rfl⟩ := map_ok.mp hpoint
  rfl

/-- An entry is that of a switch at the port exactly when its event is one. -/
theorem afterEntry_switch {ev : Dict} {e : LoopEntry} (h : afterEntry fromIso ev = .ok e)
    (port : Int) : (e.onAt port && e.switches) = (switchPort ev == some port) := by
  obtain ⟨point, hpoint, rfl⟩ := map_ok.mp h
  obtain ⟨st, hst, rfl⟩ := map_ok.mp hpoint
  unfold LoopEntry.onAt switchesLocal switchPort
  rw [hst]
  cases normalizeValue (loopInput ev).before with
  | error e => simp
  | ok before =>
    dsimp only
    split
    next hswitch =>
      simp only [Bool.and_eq_true] at hswitch
      simp [hswitch]
    next hno =>
      cases hoff : before.proxyEnable <;> cases hon : st.proxyEnable <;>
        cases hlocal : (parseProxyServer st.proxyServer).isLocalhostProxy <;> simp_all

/-- What the timeline of a list is made of. -/
theorem loopEntries_ok {events : List Dict} {entries : List LoopEntry}
    (h : loopEntries fromIso events = .ok entries) :
    (events.filter (fun ev => (eventTime fromIso ev).isSome) = [] ∧ entries = []) ∨
      ∃ first ∈ events.filter fun ev => (eventTime fromIso ev).isSome, ∃ seed later,
        beforePoint fromIso first = .ok seed ∧
        (events.filter fun ev => (eventTime fromIso ev).isSome).mapM (afterEntry fromIso) =
          .ok later ∧
        entries = ⟨seed, false⟩ :: later := by
  unfold loopEntries at h
  split at h
  next hnil => exact .inl ⟨hnil, (Except.ok.inj h).symm⟩
  next first rest hcons =>
    obtain ⟨seed, hseed, h⟩ := bind_ok.mp h
    obtain ⟨later, hlater, h⟩ := bind_ok.mp h
    rw [hcons]
    exact .inr ⟨first, List.mem_cons_self, seed, later, hseed, hlater, (Except.ok.inj h).symm⟩

/-- The entries of a timeline have the times of the events that have one. -/
theorem loopEntries_ts {events : List Dict} {entries : List LoopEntry}
    (h : loopEntries fromIso events = .ok entries) (ts : ℚ) :
    (∃ e ∈ entries, e.point.ts = ts) ↔ ∃ ev ∈ events, eventTime fromIso ev = some ts := by
  have htimed : ∀ {ev}, ev ∈ events.filter (fun ev => (eventTime fromIso ev).isSome) →
      ev ∈ events ∧ eventTime fromIso ev = some (sortKey fromIso ev) := by
    intro ev hev
    obtain ⟨hmem, hsome⟩ := List.mem_filter.mp hev
    obtain ⟨ts, hts⟩ := Option.isSome_iff_exists.mp hsome
    exact ⟨hmem, by rw [sortKey_of_time hts, hts]⟩
  rcases loopEntries_ok h with ⟨hnil, rfl⟩ | ⟨first, hfirst, seed, later, hseed, hlater, rfl⟩
  · refine iff_of_false (by simp) ?_
    rintro ⟨ev, hev, hts⟩
    have hmem : ev ∈ events.filter fun ev => (eventTime fromIso ev).isSome :=
      List.mem_filter.mpr ⟨hev, by simp [hts]⟩
    rw [hnil] at hmem
    cases hmem
  · constructor
    · rintro ⟨e, he, rfl⟩
      rcases List.mem_cons.mp he with rfl | he
      · obtain ⟨hmem, hts⟩ := htimed hfirst
        exact ⟨first, hmem, by rw [hts, ← beforePoint_ts hseed]⟩
      · obtain ⟨ev, hev, hread⟩ := mem_of_mapM_ok hlater he
        obtain ⟨hmem, hts⟩ := htimed hev
        exact ⟨ev, hmem, by rw [hts, afterEntry_ts hread]⟩
    · rintro ⟨ev, hev, hts⟩
      have hmem : ev ∈ events.filter fun ev => (eventTime fromIso ev).isSome :=
        List.mem_filter.mpr ⟨hev, by simp [hts]⟩
      obtain ⟨e, he, hread⟩ := exists_of_mapM_ok hlater hmem
      exact ⟨e, List.mem_cons_of_mem _ he, by rw [afterEntry_ts hread, sortKey_of_time hts]⟩

theorem countP_of_mapM {p : Dict → Bool} {q : LoopEntry → Bool} {events : List Dict}
    {entries : List LoopEntry} (h : events.mapM (afterEntry fromIso) = .ok entries)
    (hsame : ∀ ev ∈ events, ∀ e, afterEntry fromIso ev = .ok e → q e = p ev) :
    entries.countP q = events.countP p := by
  have hrel := mapM_ok_iff.mp h
  induction hrel with
  | nil => rfl
  | @cons ev e events entries hread hrest ih =>
    obtain ⟨hfirst, hlater⟩ := List.forall_mem_cons.mp hsame
    rw [List.countP_cons, List.countP_cons, ih (mapM_ok_iff.mpr hrest) hlater, hfirst e hread]

theorem inLoopWindow_time {events : List Dict} {windowSeconds : ℚ} {ev : Dict}
    (h : inLoopWindow fromIso events windowSeconds ev = true) :
    (eventTime fromIso ev).isSome = true := by
  obtain ⟨ts, hts, -⟩ := (Option.any_eq_true _ _).mp h
  rw [hts]
  rfl

/-- An event is in the window when no entry leaves it behind. -/
theorem inLoopWindow_iff {events : List Dict} {entries : List LoopEntry} {windowSeconds ts : ℚ}
    {ev : Dict} (h : loopEntries fromIso events = .ok entries)
    (hts : eventTime fromIso ev = some ts) :
    inLoopWindow fromIso events windowSeconds ev = true ↔
      ∀ e ∈ entries, e.point.ts - ts ≤ windowSeconds := by
  unfold inLoopWindow
  rw [hts, Option.any_some, List.all_eq_true]
  constructor
  · intro hall e he
    obtain ⟨ev', hev', hts'⟩ := (loopEntries_ts h e.point.ts).mp ⟨e, he, rfl⟩
    have hle := hall ev' hev'
    rw [hts', Option.all_some] at hle
    exact of_decide_eq_true hle
  · intro hall ev' hev'
    cases hts' : eventTime fromIso ev' with
    | none => rfl
    | some ts' =>
      obtain ⟨e, he, rfl⟩ := (loopEntries_ts h ts').mpr ⟨ev', hev', hts'⟩
      exact decide_eq_true (hall e he)

/-- An entry of the window is that of a switch exactly when its event is one of the window. -/
theorem afterEntry_inWindow {events : List Dict} {entries : List LoopEntry} {windowSeconds : ℚ}
    {ev : Dict} {e : LoopEntry} (h : loopEntries fromIso events = .ok entries)
    (hne : entries ≠ []) (htime : (eventTime fromIso ev).isSome = true)
    (he : afterEntry fromIso ev = .ok e) (port : Int) :
    (e.onAt port && e.switches && decide
      (((entries.insertionSort fun a b => a.point.ts ≤ b.point.ts).getLast?.map
        (·.point.ts)).getD 0 - e.point.ts ≤ windowSeconds)) =
      (inLoopWindow fromIso events windowSeconds ev && switchPort ev == some port) := by
  obtain ⟨ts, hts⟩ := Option.isSome_iff_exists.mp htime
  have hin : decide (((entries.insertionSort fun a b => a.point.ts ≤ b.point.ts).getLast?.map
      (·.point.ts)).getD 0 - e.point.ts ≤ windowSeconds) =
      inLoopWindow fromIso events windowSeconds ev := by
    rw [Bool.eq_iff_iff, decide_eq_true_eq, newest_sub_le_iff hne, inLoopWindow_iff h hts,
      afterEntry_ts he, sortKey_of_time hts]
  rw [hin, afterEntry_switch he, Bool.and_comm]

/-- Only events with a time are counted. -/
theorem localSwitchOns_timed (events : List Dict) (windowSeconds : ℚ) (port : Int) :
    localSwitchOns fromIso events windowSeconds port =
      (events.filter fun ev => (eventTime fromIso ev).isSome).countP fun ev =>
        inLoopWindow fromIso events windowSeconds ev && switchPort ev == some port := by
  unfold localSwitchOns
  rw [List.countP_filter]
  refine List.countP_congr fun ev _ => ?_
  simp only [Bool.and_eq_true]
  exact ⟨fun hswitch => ⟨hswitch, inLoopWindow_time hswitch.1⟩, And.left⟩

/-- How many entries of the window are those of a switch, by their events. -/
theorem countP_entryWindow {events : List Dict} {entries : List LoopEntry}
    (h : loopEntries fromIso events = .ok entries) (windowSeconds : ℚ) (port : Int) :
    (entryWindow windowSeconds entries).countP (fun e => e.onAt port && e.switches) =
      localSwitchOns fromIso events windowSeconds port := by
  have hperm := List.perm_insertionSort (fun a b : LoopEntry => a.point.ts ≤ b.point.ts) entries
  rw [localSwitchOns_timed]
  unfold entryWindow
  dsimp only
  rw [List.countP_filter, hperm.countP_eq]
  rcases loopEntries_ok h with ⟨hnil, hnone⟩ | ⟨first, hfirst, seed, later, hseed, hlater, hcons⟩
  · rw [hnone, hnil]
    rfl
  · have hne : entries ≠ [] := by
      rw [hcons]
      exact List.cons_ne_nil _ _
    rw [← countP_of_mapM hlater fun ev hev e he =>
      afterEntry_inWindow h hne (List.mem_filter.mp hev).2 he port]
    -- the state in front of the first event is no switch
    have hseeded : ∀ q : LoopEntry → Bool, q ⟨seed, false⟩ = false →
        entries.countP q = later.countP q := by
      intro q hq
      rw [hcons, List.countP_cons, hq]
      rfl
    exact hseeded _ (by simp)

/-- A loop is sound exactly when, at the only port of its window, the steps that no event stands for
are no more than the events that make no step. -/
theorem loop_sound_iff (events : List Dict) (windowSeconds : ℚ) :
    LoopSound fromIso events windowSeconds ↔
      ∀ entries, loopEntries fromIso events = .ok entries → ∀ port,
        OnlyPort port ((entryWindow windowSeconds entries).map (·.point)) →
        falseSteps port false (entryWindow windowSeconds entries) ≤
          missedSwitches port false (entryWindow windowSeconds entries) := by
  unfold LoopSound
  simp only [detect_iff_steps]
  constructor
  · intro hsound entries hentries port hport
    have hsum := steps_add_missed port (entryWindow windowSeconds entries)
    obtain ⟨port', hmin⟩ := hsound _ ⟨entries, hentries, port, hport, le_refl _⟩
    rw [← countP_entryWindow hentries] at hmin
    by_cases hnone : (entryWindow windowSeconds entries).countP
        (fun e => e.onAt port' && e.switches) = 0
    · rw [hnone] at hmin
      omega
    · -- An event that switches a proxy on in the window has the port of the window.
      obtain ⟨e, he, hswitch⟩ := List.countP_pos_iff.mp (Nat.pos_of_ne_zero hnone)
      have hat : e.point.port = some port' := by
        have hon := (Bool.and_eq_true_iff.mp hswitch).1
        exact beq_iff_eq.mp (Bool.and_eq_true_iff.mp hon).2
      obtain rfl := hport.only e.point (List.mem_map_of_mem he) port' hat
      omega
  · rintro h minCycles ⟨entries, hentries, port, hport, hmin⟩
    have hsum := steps_add_missed port (entryWindow windowSeconds entries)
    have hle := h entries hentries port hport
    refine ⟨port, ?_⟩
    rw [← countP_entryWindow hentries]
    omega

end Soundness

/-- A remote proxy has a port as well. -/
theorem remote_loop_reported : ¬ LoopSound newYear (flapping "10.0.0.5:8080") 300 := by
  intro hsound
  obtain ⟨port, hport⟩ := hsound 3 (by decide +kernel)
  have hnone : ∀ ev ∈ flapping "10.0.0.5:8080", switchPort ev = none := by decide +kernel
  have hzero : localSwitchOns newYear (flapping "10.0.0.5:8080") 300 port = 0 := by
    unfold localSwitchOns
    rw [List.countP_eq_zero]
    intro ev hev
    rw [hnone ev hev]
    simp
  rw [hzero] at hport
  cases hport

end StateMachine
