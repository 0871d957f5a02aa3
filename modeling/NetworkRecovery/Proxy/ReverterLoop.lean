import NetworkRecovery.Lib.Ranking
import NetworkRecovery.Proxy.WatchLaws

/-!
# Loops of a reverter

`detect_reverter_loop_pattern` with any window and any number of cycles. It lays the states on a
timeline, sorts it, and counts in the newest part how often the proxy goes from off to on at the only
port there; a full cycle is one such step and more, so that they never decide (`showsCycles_eq`).

The first LISTED event puts its earlier state on the timeline too, and all others do not. What the
detector says therefore depends on the order of the list: on the earlier state that counts in front
of the others (`orderInsensitive_iff_seedsAgree`). `LoopSteps` says when it does not matter.
-/

namespace StateMachine

open Python ProxyGuard Ranking

/-! ## The detector -/

/-- What the detector raises: what the normalizer does, and `IndexError` for the last entry of an
empty timeline. -/
inductive LoopError where
  | normalize (e : PyError)
  | index
  deriving DecidableEq

def sortPoints (timeline : List LoopPoint) : List LoopPoint :=
  timeline.insertionSort fun a b => a.ts ≤ b.ts

theorem length_sortPoints (timeline : List LoopPoint) :
    (sortPoints timeline).length = timeline.length := List.length_insertionSort _ _

/-- The part of a sorted timeline that is not older than the window. -/
def windowOf (windowSeconds newest : ℚ) (sorted : List LoopPoint) : List LoopPoint :=
  sorted.filter fun e => newest - e.ts ≤ windowSeconds

/-- Whether a window shows so many cycles, at the only port in it. -/
def showsCycles (minCycles : Int) (windowed : List LoopPoint) : Bool :=
  if (windowed.length : Int) < minCycles + 1 then false
  else match (windowed.filterMap (·.port)).eraseDups with
    | [port] =>
      minCycles ≤ fullCycles port windowed || minCycles ≤ enableFromDisabled port windowed
    | _ => false

section Detector

variable (fromIso : String → Option ℚ)

/-- `detect_reverter_loop_pattern(...) is not None`. -/
def detectReverterLoopPattern (transitions : List Dict) (windowSeconds : ℚ) (minCycles : Int) :
    Except LoopError Bool :=
  if (transitions.length : Int) < minCycles then .ok false
  else match loopTimeline fromIso (transitions.map loopInput) with
    | .error e => .error (.normalize e)
    | .ok timeline =>
      if (timeline.length : Int) < minCycles + 1 then .ok false
      else match (sortPoints timeline).getLast? with
        | none => .error .index
        | some newest =>
          .ok (showsCycles minCycles (windowOf windowSeconds newest.ts (sortPoints timeline)))

/-- The watch asks for three cycles in five minutes. -/
theorem detectReverterLoopPattern_default (transitions : List Dict) :
    detectReverterLoopPattern fromIso transitions 300 3 =
      (detectReverterLoop fromIso (transitions.map loopInput)).mapError LoopError.normalize := by
  unfold detectReverterLoopPattern detectReverterLoop
  rw [List.length_map]
  by_cases hfew : transitions.length < 3
  · rw [if_pos (by omega), if_pos hfew]
    rfl
  · rw [if_neg (by omega), if_neg hfew]
    cases loopTimeline fromIso (transitions.map loopInput) with
    | error e => rfl
    | ok timeline =>
      simp only [Except.map, Except.mapError]
      unfold showsLoop
      by_cases hshort : timeline.length < 4
      · rw [if_pos (by omega), if_pos (by simp [hshort])]
      · rw [if_neg (by omega)]
        cases hlast : (sortPoints timeline).getLast? with
        | none =>
          have hnil : sortPoints timeline = [] := List.getLast?_eq_none_iff.mp hlast
          have hlength := congrArg List.length hnil
          rw [sortPoints, List.length_insertionSort] at hlength
          exact absurd hlength (by simp only [List.length_nil]; omega)
        | some newest =>
          have hlast' : (timeline.insertionSort fun a b => a.ts ≤ b.ts).getLast? = some newest := hlast
          simp only [hlast', Option.map_some, Option.getD_some]
          rw [decide_eq_false hshort, Bool.false_or]
          unfold showsCycles windowOf sortPoints
          refine congrArg Except.ok (if_congr ?_ rfl ?_)
          · simp only [decide_eq_true_eq]
            omega
          · generalize (List.filterMap (fun e : LoopPoint => e.port) _).eraseDups = ports
            rcases ports with - | ⟨port, - | ⟨other, ports⟩⟩
            · rfl
            · simp only [Nat.ofNat_le_cast]
            · rfl

end Detector

/-! ## Counting -/

/-- How often a window is switched on at the only port in it; nothing if there is no such port. -/
def switchOns (windowed : List LoopPoint) : Option Nat :=
  match (windowed.filterMap (·.port)).eraseDups with
  | [port] => some (enableFromDisabled port windowed)
  | _ => none

/-- A count, if there is one, of so many cycles. -/
def reaches (minCycles : Int) (count : Option Nat) : Bool :=
  count.any fun n : Nat => minCycles ≤ (n : Int)

theorem fullCycles_le (port : Int) (windowed : List LoopPoint) :
    fullCycles port windowed ≤ enableFromDisabled port windowed := by
  induction windowed using fullCycles.induct with
  | case1 a b c rest ih =>
    unfold fullCycles enableFromDisabled
    split_ifs with hcycle hstep
    · omega
    · simp_all
    · omega
    · omega
  | case2 windowed hshort =>
    unfold fullCycles
    split
    · next a b c rest => exact absurd rfl (hshort a b c rest)
    · exact Nat.zero_le _

/-- A step needs two states. -/
theorem enableFromDisabled_lt (port : Int) {windowed : List LoopPoint} (h : windowed ≠ []) :
    enableFromDisabled port windowed < windowed.length := by
  induction windowed using enableFromDisabled.induct with
  | case1 a b rest ih =>
    have hrest := ih (List.cons_ne_nil _ _)
    unfold enableFromDisabled
    simp only [List.length_cons] at hrest ⊢
    split_ifs <;> omega
  | case2 windowed hshort =>
    cases windowed with
    | nil => exact absurd rfl h
    | cons a rest =>
      cases rest with
      | nil => simp [enableFromDisabled]
      | cons b rest => exact absurd rfl (hshort a b rest)

theorem switchOns_lt {windowed : List LoopPoint} {n : Nat} (h : switchOns windowed = some n) :
    n < windowed.length := by
  unfold switchOns at h
  split at h
  · next port hport =>
    obtain rfl := Option.some.inj h
    refine enableFromDisabled_lt port ?_
    rintro rfl
    cases hport
  · cases h

/-- The steps decide alone. -/
theorem showsCycles_eq (minCycles : Int) (windowed : List LoopPoint) :
    showsCycles minCycles windowed = reaches minCycles (switchOns windowed) := by
  unfold showsCycles reaches
  by_cases hshort : (windowed.length : Int) < minCycles + 1
  · rw [if_pos hshort]
    cases hcount : switchOns windowed with
    | none => rfl
    | some n =>
      have hlength := switchOns_lt hcount
      have hfew : ¬ minCycles ≤ n := by omega
      simp [hfew]
  · rw [if_neg hshort]
    unfold switchOns
    split
    · next port hport =>
      have hle := fullCycles_le port windowed
      rw [Option.any_some, Bool.or_eq_right_iff_imp]
      intro hfull
      have hcycles : minCycles ≤ fullCycles port windowed := of_decide_eq_true hfull
      exact decide_eq_true (by omega)
    · rfl

/-! ## The timeline of a list -/

section Timeline

variable (fromIso : String → Option ℚ)

def beforePoint (ev : Dict) : Except PyError LoopPoint :=
  (normalizeValue (loopInput ev).before).map fun st =>
    ⟨sortKey fromIso ev, st.proxyEnable, st.parsedPort⟩

def afterPoint (ev : Dict) : Except PyError LoopPoint :=
  (normalizeValue (loopInput ev).after).map fun st =>
    ⟨sortKey fromIso ev, st.proxyEnable, st.parsedPort⟩

/-- Every event has a time that can be read. -/
def Timed (events : List Dict) : Prop := ∀ ev ∈ events, (eventTime fromIso ev).isSome = true

variable {fromIso}

theorem loopStep_later {ev : Dict} (htimed : (eventTime fromIso ev).isSome = true)
    {timeline : List LoopPoint} (hstarted : timeline ≠ []) :
    loopStep fromIso timeline (loopInput ev) =
      (afterPoint fromIso ev).map fun point => timeline ++ [point] := by
  obtain ⟨ts, hts⟩ := Option.isSome_iff_exists.mp htimed
  have hparse : parseTs fromIso (loopInput ev).ts = some ts := hts
  have hkey : sortKey fromIso ev = ts := by rw [sortKey, hts, Option.getD_some]
  have hnotEmpty : timeline.isEmpty = false := by simpa using hstarted
  unfold loopStep afterPoint
  rw [hparse, hnotEmpty, hkey]
  cases normalizeValue (loopInput ev).after with
  | error e => rfl
  | ok st => simp [bind, Except.bind, Except.map, pure, Except.pure]

theorem loopSteps_later {events : List Dict} (htimed : Timed fromIso events)
    {timeline : List LoopPoint} (hstarted : timeline ≠ []) :
    (events.map loopInput).foldlM (loopStep fromIso) timeline =
      (events.mapM (afterPoint fromIso)).map fun points => timeline ++ points := by
  induction events generalizing timeline with
  | nil => simp [Except.map, pure, Except.pure]
  | cons ev events ih =>
    obtain ⟨hev, hevents⟩ := List.forall_mem_cons.mp htimed
    rw [List.map_cons, List.foldlM_cons, loopStep_later hev hstarted, List.mapM_cons]
    cases hpoint : afterPoint fromIso ev with
    | error e => rfl
    | ok point =>
      simp only [Except.map, bind, Except.bind,
        ih hevents (List.append_ne_nil_of_left_ne_nil hstarted [point])]
      cases events.mapM (afterPoint fromIso) with
      | error e => rfl
      | ok points => simp [pure, Except.pure]

/-- The first listed event puts both its states on the timeline. -/
theorem loopTimeline_cons {ev : Dict} {events : List Dict} (htimed : Timed fromIso (ev :: events)) :
    loopTimeline fromIso ((ev :: events).map loopInput) = do
      let seed ← beforePoint fromIso ev
      let points ← (ev :: events).mapM (afterPoint fromIso)
      return seed :: points := by
  obtain ⟨hev, hevents⟩ := List.forall_mem_cons.mp htimed
  obtain ⟨ts, hts⟩ := Option.isSome_iff_exists.mp hev
  have hparse : parseTs fromIso (loopInput ev).ts = some ts := hts
  have hkey : sortKey fromIso ev = ts := by rw [sortKey, hts, Option.getD_some]
  have hstep : loopStep fromIso [] (loopInput ev) = do
      let seed ← beforePoint fromIso ev
      let point ← afterPoint fromIso ev
      return [seed, point] := by
    unfold loopStep beforePoint afterPoint
    rw [hparse, hkey]
    cases normalizeValue (loopInput ev).before with
    | error e => rfl
    | ok st =>
      cases normalizeValue (loopInput ev).after with
      | error e => rfl
      | ok st' => rfl
  rw [loopTimeline, List.map_cons, List.foldlM_cons, hstep, List.mapM_cons]
  cases beforePoint fromIso ev with
  | error e => rfl
  | ok seed =>
    cases afterPoint fromIso ev with
    | error e => rfl
    | ok point =>
      simp only [bind, Except.bind, pure, Except.pure,
        loopSteps_later hevents (List.cons_ne_nil seed [point])]
      cases events.mapM (afterPoint fromIso) with
      | error e => rfl
      | ok points => rfl

theorem afterPoints_ts {events : List Dict} {points : List LoopPoint}
    (hpoints : events.mapM (afterPoint fromIso) = .ok points) :
    points.map (·.ts) = events.map (sortKey fromIso) := by
  have hread := mapM_ok_iff.mp hpoints
  induction hread with
  | nil => rfl
  | @cons ev point events points hev hrest ih =>
    rw [List.map_cons, List.map_cons, ih (mapM_ok_iff.mpr hrest)]
    congr 1
    obtain ⟨st, -, rfl⟩ := map_ok.mp hev
    rfl

/-- The window of a timeline that starts from the seed. -/
def seededWindow (windowSeconds : ℚ) (seed : LoopPoint) (points : List LoopPoint) : List LoopPoint :=
  let sorted := sortPoints (seed :: points)
  windowOf windowSeconds ((sorted.getLast?.map (·.ts)).getD 0) sorted

/-- What is counted when the event is listed first, nothing if that raises. -/
def seededCount (fromIso : String → Option ℚ) (windowSeconds : ℚ) (points : List LoopPoint)
    (ev : Dict) : Option (Option Nat) :=
  (beforePoint fromIso ev).toOption.map fun seed => switchOns (seededWindow windowSeconds seed points)

theorem windowOf_length_le (windowSeconds newest : ℚ) (sorted : List LoopPoint) :
    (windowOf windowSeconds newest sorted).length ≤ sorted.length := List.length_filter_le _ _

theorem detectReverterLoopPattern_cons {ev : Dict} {events : List Dict} {points : List LoopPoint}
    (htimed : Timed fromIso (ev :: events))
    (hpoints : (ev :: events).mapM (afterPoint fromIso) = .ok points) (windowSeconds : ℚ)
    (minCycles : Int) :
    (detectReverterLoopPattern fromIso (ev :: events) windowSeconds minCycles).toOption =
      if ((ev :: events).length : Int) < minCycles then some false
      else (seededCount fromIso windowSeconds points ev).map (reaches minCycles) := by
  have hlength : (ev :: events).length = points.length := (mapM_ok_iff.mp hpoints).length_eq
  unfold detectReverterLoopPattern seededCount
  split
  · rfl
  · next hmany =>
    rw [loopTimeline_cons htimed, hpoints]
    cases beforePoint fromIso ev with
    | error e => rfl
    | ok seed =>
      have hsorted : (sortPoints (seed :: points)).length = points.length + 1 := length_sortPoints _
      simp only [bind, Except.bind, pure, Except.pure]
      rw [if_neg (by rw [List.length_cons]; omega)]
      cases hlast : (sortPoints (seed :: points)).getLast? with
      | none =>
        rw [List.getLast?_eq_none_iff.mp hlast] at hsorted
        cases hsorted
      | some newest =>
        simp only [Except.toOption, Option.map_some, showsCycles_eq, seededWindow, hlast,
          Option.getD_some]

/-- Which event is listed first matters, the order of the others does not. -/
theorem seededCount_perm {points points' : List LoopPoint} (hperm : points.Perm points')
    (hkeys : (points.map (·.ts)).Nodup) (windowSeconds : ℚ) (ev : Dict) :
    seededCount fromIso windowSeconds points ev = seededCount fromIso windowSeconds points' ev := by
  have hsorted : ∀ seed : LoopPoint, sortPoints (seed :: points) = sortPoints (seed :: points') := by
    intro seed
    unfold sortPoints
    rw [List.insertionSort_cons, List.insertionSort_cons, insertionSort_congr_perm hperm hkeys]
  unfold seededCount seededWindow
  simp only [hsorted]

end Timeline

/-! ## The order of the list -/

section Order

variable (fromIso : String → Option ℚ)

/-- Every order of the events gives the same result. -/
def OrderInsensitive (events : List Dict) : Prop :=
  ∀ events', events'.Perm events → ∀ windowSeconds minCycles,
    (detectReverterLoopPattern fromIso events' windowSeconds minCycles).toOption =
      (detectReverterLoopPattern fromIso events windowSeconds minCycles).toOption

/-- Whichever event's earlier state is put in front of it, the same is counted in every window. -/
def SeedsAgree (events : List Dict) : Prop :=
  ∀ points, events.mapM (afterPoint fromIso) = .ok points → ∀ windowSeconds,
    ∀ ev ∈ events, ∀ ev' ∈ events,
      seededCount fromIso windowSeconds points ev = seededCount fromIso windowSeconds points ev'

variable {fromIso}

/-- Counts that reach the same numbers of cycles are the same. -/
theorem count_ext {count count' : Option Nat}
    (h : ∀ minCycles, reaches minCycles count = reaches minCycles count') : count = count' := by
  have hle : ∀ {a b : Option Nat}, (∀ m, reaches m a = reaches m b) → ∀ n, a = some n →
      ∃ n', b = some n' ∧ n ≤ n' := by
    rintro a b hab n rfl
    have hreach : reaches n b = true := by
      rw [← hab n]
      simp [reaches]
    obtain ⟨n', rfl, hn'⟩ := (Option.any_eq_true _ _).mp hreach
    exact ⟨n', rfl, by simpa using hn'⟩
  cases count with
  | none =>
    cases count' with
    | none => rfl
    | some n' =>
      obtain ⟨n, hn, -⟩ := hle (fun m => (h m).symm) n' rfl
      cases hn
  | some n =>
    obtain ⟨n', rfl, hn⟩ := hle h n rfl
    obtain ⟨n'', hn'', hn'⟩ := hle (fun m => (h m).symm) n' rfl
    obtain rfl := Option.some.inj hn''
    rw [le_antisymm hn hn']

theorem seededCount_le {points : List LoopPoint} {windowSeconds : ℚ} {ev : Dict} {n : Nat}
    (h : seededCount fromIso windowSeconds points ev = some (some n)) : n ≤ points.length := by
  obtain ⟨seed, -, hcount⟩ := Option.map_eq_some_iff.mp h
  have hlt := switchOns_lt hcount
  have hle := windowOf_length_le windowSeconds
    (((sortPoints (seed :: points)).getLast?.map (·.ts)).getD 0) (sortPoints (seed :: points))
  have hlength : (sortPoints (seed :: points)).length = points.length + 1 := length_sortPoints _
  unfold seededWindow at hlt
  dsimp only at hlt
  omega

theorem reaches_eq_false {points : List LoopPoint} {windowSeconds : ℚ} {ev : Dict}
    {minCycles : Int} {count : Option Nat} (hmany : points.length < minCycles)
    (h : seededCount fromIso windowSeconds points ev = some count) :
    reaches minCycles count = false := by
  cases count with
  | none => rfl
  | some n =>
    have hle := seededCount_le h
    simp only [reaches, Option.any_some, decide_eq_false_iff_not]
    omega

/-- The result of a list with the event in front, by what is counted for it. -/
theorem detect_listed {events rest : List Dict} {ev : Dict} {points : List LoopPoint}
    (htimed : Timed fromIso events) (hdistinct : (events.map (sortKey fromIso)).Nodup)
    (hpoints : events.mapM (afterPoint fromIso) = .ok points) (hperm : (ev :: rest).Perm events)
    (windowSeconds : ℚ) (minCycles : Int) :
    (detectReverterLoopPattern fromIso (ev :: rest) windowSeconds minCycles).toOption =
      if (events.length : Int) < minCycles then some false
      else (seededCount fromIso windowSeconds points ev).map (reaches minCycles) := by
  obtain ⟨points', hpoints', hpermPoints⟩ := mapM_ok_perm hperm.symm hpoints
  have htimed' : Timed fromIso (ev :: rest) := fun ev' hev' => htimed ev' (hperm.mem_iff.mp hev')
  have hkeys : (points'.map (·.ts)).Nodup := by
    rw [afterPoints_ts hpoints']
    exact (hperm.map _).nodup_iff.mpr hdistinct
  rw [detectReverterLoopPattern_cons htimed' hpoints', seededCount_perm hpermPoints hkeys,
    hperm.length_eq]

/-- It raises with any event in front, if a later state cannot be normalized. -/
theorem detect_raises {events rest : List Dict} {ev : Dict} (htimed : Timed fromIso events)
    (hpoints : ∀ points, events.mapM (afterPoint fromIso) ≠ .ok points)
    (hperm : (ev :: rest).Perm events) (windowSeconds : ℚ) (minCycles : Int) :
    (detectReverterLoopPattern fromIso (ev :: rest) windowSeconds minCycles).toOption =
      if (events.length : Int) < minCycles then some false else none := by
  have htimed' : Timed fromIso (ev :: rest) := fun ev' hev' => htimed ev' (hperm.mem_iff.mp hev')
  unfold detectReverterLoopPattern
  rw [hperm.length_eq, loopTimeline_cons htimed']
  split
  · rfl
  · cases hread : (ev :: rest).mapM (afterPoint fromIso) with
    | ok points =>
      obtain ⟨points', hpoints', -⟩ := mapM_ok_perm hperm hread
      exact absurd hpoints' (hpoints points')
    | error e =>
      cases beforePoint fromIso ev with
      | error e' => rfl
      | ok seed => rfl

theorem exists_listed_first {events : List Dict} {ev : Dict} (hev : ev ∈ events) :
    ∃ rest, (ev :: rest).Perm events := by
  obtain ⟨front, back, rfl⟩ := List.append_of_mem hev
  exact ⟨front ++ back, List.perm_middle.symm⟩

/-- Counts that are reached by the same numbers, as far as there are points, are the same. -/
theorem seededCount_ext {points : List LoopPoint} {windowSeconds : ℚ} {ev ev' : Dict}
    (h : ∀ minCycles : Int, minCycles ≤ points.length →
      (seededCount fromIso windowSeconds points ev).map (reaches minCycles) =
        (seededCount fromIso windowSeconds points ev').map (reaches minCycles)) :
    seededCount fromIso windowSeconds points ev = seededCount fromIso windowSeconds points ev' := by
  have hzero := h 0 (by omega)
  cases hcount : seededCount fromIso windowSeconds points ev with
  | none =>
    rw [hcount, Option.map_none] at hzero
    exact (Option.map_eq_none_iff.mp hzero.symm).symm
  | some count =>
    cases hcount' : seededCount fromIso windowSeconds points ev' with
    | none =>
      rw [hcount, hcount'] at hzero
      cases hzero
    | some count' =>
      refine congrArg some (count_ext fun minCycles => ?_)
      by_cases hmin : minCycles ≤ points.length
      · have hreach := h minCycles hmin
        rw [hcount, hcount'] at hreach
        exact Option.some.inj hreach
      · rw [reaches_eq_false (by omega) hcount, reaches_eq_false (by omega) hcount']

theorem OrderInsensitive.seedsAgree {events : List Dict} (h : OrderInsensitive fromIso events)
    (htimed : Timed fromIso events) (hdistinct : (events.map (sortKey fromIso)).Nodup) :
    SeedsAgree fromIso events := by
  intro points hpoints windowSeconds ev hev ev' hev'
  obtain ⟨rest, hperm⟩ := exists_listed_first hev
  obtain ⟨rest', hperm'⟩ := exists_listed_first hev'
  have hlength : events.length = points.length := (mapM_ok_iff.mp hpoints).length_eq
  refine seededCount_ext fun minCycles hmin => ?_
  have hresult := (h _ hperm windowSeconds minCycles).trans
    (h _ hperm' windowSeconds minCycles).symm
  rwa [detect_listed htimed hdistinct hpoints hperm, detect_listed htimed hdistinct hpoints hperm',
    if_neg (by omega), if_neg (by omega)] at hresult

theorem SeedsAgree.orderInsensitive {events : List Dict} (h : SeedsAgree fromIso events)
    (htimed : Timed fromIso events) (hdistinct : (events.map (sortKey fromIso)).Nodup) :
    OrderInsensitive fromIso events := by
  intro events' hperm windowSeconds minCycles
  cases events' with
  | nil =>
    obtain rfl := List.nil_perm.mp hperm
    rfl
  | cons ev rest =>
    cases events with
    | nil => exact absurd hperm.length_eq (by simp)
    | cons ev' rest' =>
      have hev : ev ∈ ev' :: rest' := hperm.mem_iff.mp List.mem_cons_self
      cases hread : (ev' :: rest').mapM (afterPoint fromIso) with
      | error e =>
        have hraises : ∀ points, (ev' :: rest').mapM (afterPoint fromIso) ≠ .ok points := by
          intro points hpoints
          rw [hread] at hpoints
          cases hpoints
        rw [detect_raises htimed hraises hperm, detect_raises htimed hraises (List.Perm.refl _)]
      | ok points =>
        rw [detect_listed htimed hdistinct hread hperm,
          detect_listed htimed hdistinct hread (List.Perm.refl _),
          h points hread windowSeconds ev hev ev' List.mem_cons_self]

/-- The order does not matter exactly when all earlier states count the same. -/
theorem orderInsensitive_iff_seedsAgree {events : List Dict} (htimed : Timed fromIso events)
    (hdistinct : (events.map (sortKey fromIso)).Nodup) :
    OrderInsensitive fromIso events ↔ SeedsAgree fromIso events :=
  ⟨fun h => h.seedsAgree htimed hdistinct, fun h => h.orderInsensitive htimed hdistinct⟩

end Order

/-! ## What is counted -/

section Count

variable (fromIso : String → Option ℚ)

/-- What is counted of a list of events, nothing if there is nothing to count in. -/
def loopCount (events : List Dict) (windowSeconds : ℚ) : Option Nat :=
  (loopTimeline fromIso (events.map loopInput)).toOption.bind fun timeline =>
    (sortPoints timeline).getLast?.bind fun newest =>
      switchOns (windowOf windowSeconds newest.ts (sortPoints timeline))

/-- The newest part of the timeline of a list of events, if it has one. -/
def loopWindow (events : List Dict) (windowSeconds : ℚ) : Option (List LoopPoint) :=
  (loopTimeline fromIso (events.map loopInput)).toOption.bind fun timeline =>
    (sortPoints timeline).getLast?.map fun newest =>
      windowOf windowSeconds newest.ts (sortPoints timeline)

theorem loopCount_eq (events : List Dict) (windowSeconds : ℚ) :
    loopCount fromIso events windowSeconds =
      (loopWindow fromIso events windowSeconds).bind switchOns := by
  unfold loopCount loopWindow
  cases (loopTimeline fromIso (events.map loopInput)).toOption with
  | none => rfl
  | some timeline =>
    rw [Option.bind_some, Option.bind_some, Option.bind_map]
    rfl

variable {fromIso}

/-- An event adds one point, the first one two. -/
theorem loopStep_length {timeline timeline' : List LoopPoint} {item : LoopInput}
    (h : loopStep fromIso timeline item = .ok timeline') :
    max 1 timeline'.length ≤ max 1 timeline.length + 1 := by
  unfold loopStep at h
  split at h
  · obtain rfl := Except.ok.inj h
    exact Nat.le_succ _
  · next ts hts =>
    cases timeline with
    | nil =>
      rw [List.isEmpty_nil, if_pos rfl] at h
      obtain ⟨before, hbefore, h⟩ := bind_ok.mp h
      obtain ⟨after, -, h⟩ := bind_ok.mp h
      obtain rfl := Except.ok.inj h
      have hone : before.length = 1 := by
        obtain ⟨st, -, rfl⟩ := map_ok.mp hbefore
        rfl
      simp [hone]
    | cons point timeline =>
      rw [List.isEmpty_cons, if_neg Bool.false_ne_true] at h
      obtain ⟨before, hbefore, h⟩ := bind_ok.mp h
      obtain ⟨after, -, h⟩ := bind_ok.mp h
      obtain rfl := Except.ok.inj hbefore
      obtain rfl := Except.ok.inj h
      simp

theorem loopTimeline_length {events : List Dict} {timeline : List LoopPoint}
    (h : loopTimeline fromIso (events.map loopInput) = .ok timeline) :
    timeline.length ≤ events.length + 1 := by
  have hsteps : ∀ (items : List LoopInput) (start : List LoopPoint),
      items.foldlM (loopStep fromIso) start = .ok timeline →
      max 1 timeline.length ≤ max 1 start.length + items.length := by
    intro items
    induction items with
    | nil =>
      intro start hstart
      obtain rfl := Except.ok.inj hstart
      exact Nat.le_refl _
    | cons item items ih =>
      intro start hstart
      rw [List.foldlM_cons] at hstart
      obtain ⟨next, hnext, hrest⟩ := bind_ok.mp hstart
      have hstep := loopStep_length hnext
      have hlater := ih next hrest
      rw [List.length_cons]
      omega
  have hall := hsteps _ [] h
  rw [List.length_map, List.length_nil] at hall
  omega

/-- A loop is reported exactly when so many steps are counted. -/
theorem detect_eq_true_iff {events : List Dict} {windowSeconds : ℚ} {minCycles : Int} :
    detectReverterLoopPattern fromIso events windowSeconds minCycles = .ok true ↔
      reaches minCycles (loopCount fromIso events windowSeconds) = true := by
  unfold detectReverterLoopPattern loopCount
  cases htimeline : loopTimeline fromIso (events.map loopInput) with
  | error e =>
    constructor
    · intro h
      split at h <;> cases h
    · intro h
      cases h
  | ok timeline =>
    have hlength := loopTimeline_length htimeline
    cases hlast : (sortPoints timeline).getLast? with
    | none =>
      constructor
      · intro h
        dsimp only at h
        rw [hlast] at h
        split_ifs at h <;> cases h
      · intro h
        simp [Except.toOption, hlast, reaches] at h
    | some newest =>
      simp only [Except.toOption, Option.bind_some, hlast, showsCycles_eq]
      constructor
      · intro h
        split_ifs at h with hfew hshort
        · cases h
        · cases h
        · exact Except.ok.inj h
      · intro h
        obtain ⟨n, hn, hreach⟩ := (Option.any_eq_true _ _).mp h
        have hmin : minCycles ≤ n := of_decide_eq_true hreach
        have hlt := switchOns_lt hn
        have hle := windowOf_length_le windowSeconds newest.ts (sortPoints timeline)
        rw [length_sortPoints] at hle
        rw [if_neg (by omega), if_neg (by omega), h]

theorem switchOns_eq_some {windowed : List LoopPoint} {n : Nat} :
    switchOns windowed = some n ↔
      ∃ port, (windowed.filterMap (·.port)).eraseDups = [port] ∧
        enableFromDisabled port windowed = n := by
  unfold switchOns
  constructor
  · intro h
    split at h
    · next port hport => exact ⟨port, hport, Option.some.inj h⟩
    · cases h
  · intro h
    obtain ⟨port, hport, hcount⟩ := h
    rw [hport]
    exact congrArg some hcount

/-- There are no more full cycles than steps from off to on, so that a loop is reported exactly when
there are so many steps, at the only port of the window. -/
theorem cycles_add_nothing (fromIso : String → Option ℚ) :
    (∀ (port : Int) (windowed : List LoopPoint),
      fullCycles port windowed ≤ enableFromDisabled port windowed) ∧
    ∀ (events : List Dict) (windowSeconds : ℚ) (minCycles : Int),
      detectReverterLoopPattern fromIso events windowSeconds minCycles = .ok true ↔
        ∃ windowed, loopWindow fromIso events windowSeconds = some windowed ∧
          ∃ port, (windowed.filterMap (·.port)).eraseDups = [port] ∧
            minCycles ≤ enableFromDisabled port windowed := by
  refine ⟨fullCycles_le, fun events windowSeconds minCycles => ?_⟩
  rw [detect_eq_true_iff, loopCount_eq]
  constructor
  · intro h
    obtain ⟨n, hn, hreach⟩ := (Option.any_eq_true _ _).mp h
    obtain ⟨windowed, hwindow, hcount⟩ := Option.bind_eq_some_iff.mp hn
    obtain ⟨port, hport, rfl⟩ := switchOns_eq_some.mp hcount
    exact ⟨windowed, hwindow, port, hport, of_decide_eq_true hreach⟩
  · intro h
    obtain ⟨windowed, hwindow, port, hport, hmin⟩ := h
    have hcount := switchOns_eq_some.mpr ⟨port, hport, rfl⟩
    rw [hwindow, Option.bind_some, hcount]
    exact decide_eq_true hmin

end Count

end StateMachine
