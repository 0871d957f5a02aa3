import Mathlib.Data.List.ReduceOption
import NetworkRecovery.Python.Text
import NetworkRecovery.Timing.Calendar
import NetworkRecovery.Timing.EvaluatorLaws

/-!
# An active reverter

`flip_flop.py`: whether the rows of a watch log show that the proxy was switched on and
off again and again. The rows of either schema are read as transitions, and those from
the cutoff on are counted. Nothing asks whether a transition comes after the reference,
and the bounds of the window are the first and the last transition as the log has them
(`detectActiveReverter_iff`).
-/

namespace FlipFlop

open Python Timing

/-- What the detector raises: what the reading of a row does, or `IndexError`. -/
inductive DetectError where
  | python (e : PyError)
  | index
  deriving DecidableEq

/-- A change of `ProxyEnable`. -/
structure Transition where
  ts : Int
  oldEnable : Int
  newEnable : Int
  deriving DecidableEq

/-! ## Rows -/

section Rows

variable (fromIsoformat : FromIsoformat)

/-- `_parse_ts`. -/
def parseTs : Value → Except PyError (Option Int)
  | .none => .ok none
  | value =>
    let text := strip value.toText.toList
    if text = [] then .ok none
    else
      let text := if text.getLast? = some 'Z' then text.dropLast ++ "+00:00".toList else text
      match fromIsoformat.read (.ofList text) with
      | .ok dt => (datetime (dt.wall - dt.offset.getD 0)).map some
      | .error .value => .ok none
      | .error e => .error e

/-- `normalize_watch_record`. -/
def normalizeWatchRecord (raw : Dict) : Dict :=
  if (raw.fetch "event").pyEq (.str "proxy_state_change") ||
      (raw.fetch "schema_version").pyEq (.int 1) then
    let before : Dict := [("proxy_enable", raw.fetch "old_enable"),
      ("proxy_server", raw.fetch "old_server_masked")]
    let after : Dict := [("proxy_enable", raw.fetch "new_enable"),
      ("proxy_server", raw.fetch "new_server_masked")]
    ((((raw.set "schema_version" ((raw.get? "schema_version").getD (.int 1))).set
      "event" ((raw.get? "event").getD (.str "proxy_state_change"))).set
      "timestamp" (orElse (raw.get? "timestamp_utc") (raw.fetch "timestamp"))).set
      "before_snapshot" (.dict before)).set "after_snapshot" (.dict after)
  else raw

/-- `int((record.get(key) or {}).get("proxy_enable"))`. -/
def snapshotEnable (record : Dict) (key : String) : Except PyError Int :=
  match orElse (record.get? key) (.dict []) with
  | .dict snapshot => (Dict.fetch snapshot "proxy_enable").toInt
  | _ => .error .attribute

/-- The two states of a row. -/
def rowEnables (record : Dict) : Except PyError (Int × Int) := do
  let oldEnable ← snapshotEnable record "before_snapshot"
  let newEnable ← snapshotEnable record "after_snapshot"
  return (oldEnable, newEnable)

/-- One row of `iter_enable_transitions`: a row without a time or without the two states
is passed over. -/
def rowTransition (raw : Dict) : Except PyError (Option Transition) := do
  let record := normalizeWatchRecord raw
  match ← parseTs fromIsoformat (orElse (record.get? "timestamp") (record.fetch "timestamp_utc")) with
  | none => return none
  | some ts =>
    match rowEnables record with
    | .ok (oldEnable, newEnable) =>
      return if oldEnable ≠ newEnable then some ⟨ts, oldEnable, newEnable⟩ else none
    | .error .type | .error .value => return none
    | .error e => throw e

/-- `iter_enable_transitions`. -/
def iterEnableTransitions (records : List Dict) : Except PyError (List Transition) := do
  let rows ← records.mapM (rowTransition fromIsoformat)
  return rows.reduceOption

end Rows

/-! ## The detector -/

/-- `ActiveReverterResult`. -/
structure ActiveReverterResult where
  incidentClass : String
  toggleCount : Nat
  windowMinutes : Int
  firstSeenUtc : String
  lastSeenUtc : String

/-- `timedelta(minutes=minutes)`. -/
def timedeltaMinutes (minutes : Int) : Except PyError Int :=
  let micros := minutes * 60 * second
  if -999999999 ≤ micros / day ∧ micros / day ≤ 999999999 then .ok micros else .error .overflow

/-- The instant that the window ends with. -/
def referenceOf (referenceUtc : Option Int) (utcNow : Int) (transitions : List Transition) : Int :=
  referenceUtc.getD ((transitions.getLast?.map Transition.ts).getD utcNow)

/-- `ref - timedelta(minutes=window_minutes)`. -/
def cutoffOf (ref windowMinutes : Int) : Except PyError Int := do
  let window ← timedeltaMinutes windowMinutes
  datetime (ref - window)

/-- The answer on the transitions from the cutoff on. -/
def resultOf (windowMinutes : Int) (recent : List Transition) :
    Except DetectError (Option ActiveReverterResult) :=
  match recent.head?, recent.getLast? with
  | some first, some last =>
    .ok (some ⟨"ACTIVE_REVERTER", recent.length, windowMinutes, isoformatUtc first.ts,
      isoformatUtc last.ts⟩)
  | _, _ => .error .index

/-- `detect_active_reverter`; `utcNow` is the present. -/
def detectActiveReverter (fromIsoformat : FromIsoformat) (utcNow : Int) (records : List Dict)
    (windowMinutes minToggles : Int) (referenceUtc : Option Int) :
    Except DetectError (Option ActiveReverterResult) :=
  match iterEnableTransitions fromIsoformat records with
  | .error e => .error (.python e)
  | .ok transitions =>
    if (transitions.length : Int) < minToggles then .ok none
    else
      match cutoffOf (referenceOf referenceUtc utcNow transitions) windowMinutes with
      | .error e => .error (.python e)
      | .ok cutoff =>
        let recent := transitions.filter fun t => cutoff ≤ t.ts
        if (recent.length : Int) < minToggles then .ok none else resultOf windowMinutes recent

/-! ## What is read -/

section Reads

variable {fromIsoformat : FromIsoformat}

/-- The transitions of the rows that are read. -/
def transitionsOf (fromIsoformat : FromIsoformat) (records : List Dict) : List Transition :=
  records.filterMap fun raw => (rowTransition fromIsoformat raw).toOption.join

theorem parseTs_inTime {value : Value} {ts : Int} (h : parseTs fromIsoformat value = .ok (some ts)) :
    InTime ts := by
  unfold parseTs at h
  split at h
  next => cases h
  next =>
    dsimp only at h
    split at h
    next => cases h
    next =>
      split at h
      next dt hdt =>
        obtain ⟨t, ht, hts⟩ := map_ok.mp h
        obtain ⟨rfl, hrange⟩ := datetime_ok.mp ht
        obtain rfl := Option.some.inj hts
        exact hrange
      next => cases h
      next => cases h

/-- A transition is at an instant of the calendar. -/
theorem rowTransition_inTime {raw : Dict} {t : Transition}
    (h : rowTransition fromIsoformat raw = .ok (some t)) : InTime t.ts := by
  unfold rowTransition at h
  obtain ⟨ts, hts, h⟩ := bind_ok.mp h
  cases ts with
  | none => cases h
  | some ts =>
    dsimp only at h
    split at h
    next enables _ =>
      split at h
      next =>
        obtain rfl := Option.some.inj (Except.ok.inj h)
        exact parseTs_inTime hts
      next => cases h
    next => cases h
    next => cases h
    next => cases h

theorem transitionsOf_inTime {records : List Dict} {t : Transition}
    (h : t ∈ transitionsOf fromIsoformat records) : InTime t.ts := by
  obtain ⟨raw, -, hraw⟩ := List.mem_filterMap.mp h
  cases hrow : rowTransition fromIsoformat raw with
  | error e =>
    rw [hrow] at hraw
    cases hraw
  | ok transition =>
    rw [hrow] at hraw
    change transition = some t at hraw
    rw [hraw] at hrow
    exact rowTransition_inTime hrow

/-- Every row of the log is read. -/
def RowsRead (fromIsoformat : FromIsoformat) (records : List Dict) : Prop :=
  ∀ raw ∈ records, ∃ t, rowTransition fromIsoformat raw = .ok t

theorem mapM_rowTransition {records : List Dict} {rows : List (Option Transition)}
    (h : List.Forall₂ (fun raw t => rowTransition fromIsoformat raw = .ok t) records rows) :
    RowsRead fromIsoformat records ∧ rows.reduceOption = transitionsOf fromIsoformat records := by
  induction h with
  | nil => exact ⟨nofun, rfl⟩
  | @cons raw t records rows hraw _ ih =>
    refine ⟨List.forall_mem_cons.mpr ⟨⟨t, hraw⟩, ih.1⟩, ?_⟩
    unfold transitionsOf at ih ⊢
    rw [List.filterMap_cons, hraw]
    cases t with
    | none => exact (List.reduceOption_cons_of_none rows).trans ih.2
    | some t =>
      rw [List.reduceOption_cons_of_some, ih.2]
      rfl

/-- The transitions are those of the rows, where no row raises. -/
theorem iterEnableTransitions_ok {records : List Dict} {transitions : List Transition} :
    iterEnableTransitions fromIsoformat records = .ok transitions ↔
      RowsRead fromIsoformat records ∧ transitions = transitionsOf fromIsoformat records := by
  constructor
  · intro h
    obtain ⟨rows, hrows, h⟩ := bind_ok.mp h
    obtain rfl := Except.ok.inj h
    exact mapM_rowTransition (mapM_ok_iff.mp hrows)
  · rintro ⟨hread, rfl⟩
    have hrows : ∃ rows, List.Forall₂ (fun raw t => rowTransition fromIsoformat raw = .ok t)
        records rows := by
      induction records with
      | nil => exact ⟨[], .nil⟩
      | cons raw records ih =>
        obtain ⟨⟨t, ht⟩, hrest⟩ := List.forall_mem_cons.mp hread
        obtain ⟨rows, hrows⟩ := ih hrest
        exact ⟨t :: rows, .cons ht hrows⟩
    obtain ⟨rows, hrows⟩ := hrows
    exact bind_ok.mpr ⟨rows, mapM_ok_iff.mpr hrows, congrArg Except.ok (mapM_rowTransition hrows).2⟩

end Reads

/-! ## What the detector says -/

/-- A call of `detect_active_reverter`. -/
structure Call where
  fromIsoformat : FromIsoformat
  utcNow : Int
  records : List Dict
  windowMinutes : Int
  minToggles : Int
  referenceUtc : Option Int

namespace Call

variable (call : Call)

def run : Except DetectError (Option ActiveReverterResult) :=
  detectActiveReverter call.fromIsoformat call.utcNow call.records call.windowMinutes
    call.minToggles call.referenceUtc

def transitions : List Transition := transitionsOf call.fromIsoformat call.records

/-- What is given, or the last transition of the log, or the present. -/
def reference : Int := referenceOf call.referenceUtc call.utcNow call.transitions

/-- Where the window begins, whether or not there is such a `datetime`. -/
def begins : Int := call.reference - call.windowMinutes * 60 * second

/-- The transitions that do not come before the window. -/
def recent : List Transition := call.transitions.filter fun t => call.begins ≤ t.ts

/-- The transitions in the window. -/
def inWindow : List Transition :=
  call.transitions.filter fun t => call.begins ≤ t.ts ∧ t.ts ≤ call.reference

/-- The instants of the transitions in the window. -/
def instants : Set Int := {ts | ∃ t ∈ call.inWindow, t.ts = ts}

/-- The detector answers with the transitions in the window: where there are enough, and
with their number, the earliest and the latest. -/
structure Detects : Prop where
  found : (∃ r, call.run = .ok (some r)) ↔ call.minToggles ≤ call.inWindow.length
  toggleCount : ∀ r, call.run = .ok (some r) → r.toggleCount = call.inWindow.length
  firstSeenUtc : ∀ r, call.run = .ok (some r) →
    ∃ t, IsLeast call.instants t ∧ r.firstSeenUtc = isoformatUtc t
  lastSeenUtc : ∀ r, call.run = .ok (some r) →
    ∃ t, IsGreatest call.instants t ∧ r.lastSeenUtc = isoformatUtc t

/-- Something is raised: by a row, or because the window does not begin in the years 1 to
9999. -/
def Raises : Prop :=
  ¬ RowsRead call.fromIsoformat call.records ∨
    ∃ e, cutoffOf call.reference call.windowMinutes = .error e

/-- No transition comes after the reference, and those from the cutoff on have the
earliest first and the latest last. -/
structure Bounded : Prop where
  before : ∀ t ∈ call.recent, t.ts ≤ call.reference
  first : ∀ first ∈ call.recent.head?, ∀ t ∈ call.recent, first.ts ≤ t.ts
  last : ∀ last ∈ call.recent.getLast?, ∀ t ∈ call.recent, t.ts ≤ last.ts

variable {call}

theorem cutoffOf_ok {ref windowMinutes cutoff : Int} (h : cutoffOf ref windowMinutes = .ok cutoff) :
    cutoff = ref - windowMinutes * 60 * second := by
  obtain ⟨window, hwindow, h⟩ := bind_ok.mp h
  obtain ⟨rfl, -⟩ := datetime_ok.mp h
  unfold timedeltaMinutes at hwindow
  dsimp only at hwindow
  split at hwindow
  next => rw [Except.ok.inj hwindow]
  next => cases hwindow

theorem inWindow_eq_filter :
    call.inWindow = call.recent.filter fun t => t.ts ≤ call.reference := by
  rw [inWindow, recent, List.filter_filter]
  refine List.filter_congr fun t _ => ?_
  rw [Bool.decide_and, Bool.and_comm]

theorem inWindow_length_le : call.inWindow.length ≤ call.recent.length := by
  rw [inWindow_eq_filter]
  exact List.length_filter_le _ _

/-- The window has all that is recent where nothing comes after the reference. -/
theorem inWindow_eq_recent_iff :
    call.inWindow.length = call.recent.length ↔ ∀ t ∈ call.recent, t.ts ≤ call.reference := by
  rw [inWindow_eq_filter, List.length_filter_eq_length_iff]
  simp only [decide_eq_true_eq]

/-- The three ways of a call. -/
theorem run_few (h : (call.recent.length : Int) < call.minToggles) :
    ¬ ∃ r, call.run = .ok (some r) := by
  rintro ⟨r, hr⟩
  unfold run detectActiveReverter at hr
  split at hr
  next => cases hr
  next transitions htransitions =>
    obtain ⟨-, rfl⟩ := iterEnableTransitions_ok.mp htransitions
    split at hr
    next => cases hr
    next =>
      split at hr
      next => cases hr
      next cutoff hcutoff =>
        obtain rfl := cutoffOf_ok hcutoff
        dsimp only at hr
        split at hr
        next => cases hr
        next henough => exact henough h

theorem run_raises (hraises : call.Raises) : ¬ ∃ r, call.run = .ok (some r) := by
  rintro ⟨r, hr⟩
  unfold run detectActiveReverter at hr
  split at hr
  next => cases hr
  next transitions htransitions =>
    obtain ⟨hread, rfl⟩ := iterEnableTransitions_ok.mp htransitions
    obtain ⟨e, he⟩ := hraises.resolve_left (not_not.mpr hread)
    split at hr
    next => cases hr
    next =>
      change cutoffOf _ _ = _ at he
      rw [show referenceOf call.referenceUtc call.utcNow
        (transitionsOf call.fromIsoformat call.records) = call.reference from rfl, he] at hr
      cases hr

theorem run_enough (hraises : ¬ call.Raises)
    (h : call.minToggles ≤ (call.recent.length : Int)) :
    call.run = resultOf call.windowMinutes call.recent := by
  rw [Raises, not_or, not_not] at hraises
  obtain ⟨hread, hcutoff⟩ := hraises
  have hiter : iterEnableTransitions call.fromIsoformat call.records = .ok call.transitions :=
    iterEnableTransitions_ok.mpr ⟨hread, rfl⟩
  have hlength : call.recent.length ≤ call.transitions.length := List.length_filter_le _ _
  unfold run detectActiveReverter
  rw [hiter]
  dsimp only
  rw [if_neg (by omega)]
  cases hcut : cutoffOf call.reference call.windowMinutes with
  | error e => exact absurd ⟨e, hcut⟩ hcutoff
  | ok cutoff =>
    rw [show referenceOf call.referenceUtc call.utcNow call.transitions = call.reference from rfl,
      hcut]
    obtain rfl := cutoffOf_ok hcut
    exact if_neg (not_lt.mpr h)

/-- What is recent has a first and a last. -/
theorem resultOf_eq {windowMinutes : Int} {recent : List Transition} (h : recent ≠ []) :
    resultOf windowMinutes recent = .ok (some ⟨"ACTIVE_REVERTER", recent.length, windowMinutes,
      isoformatUtc (recent.head h).ts, isoformatUtc (recent.getLast h).ts⟩) := by
  unfold resultOf
  rw [List.head?_eq_some_head h, List.getLast?_eq_some_getLast h]

theorem inTime_of_mem_recent {t : Transition} (h : t ∈ call.recent) : InTime t.ts :=
  transitionsOf_inTime (List.mem_of_mem_filter h)

theorem mem_recent_of_mem_inWindow {t : Transition} (h : t ∈ call.inWindow) : t ∈ call.recent := by
  rw [inWindow_eq_filter] at h
  exact List.mem_of_mem_filter h

/-- A text that tells an instant of the window tells no other instant of the log. -/
theorem eq_of_isoformatUtc {t : Transition} {ts : Int} (ht : t ∈ call.recent)
    (hts : ts ∈ call.instants) (h : isoformatUtc t.ts = isoformatUtc ts) : t.ts = ts := by
  obtain ⟨t', ht', rfl⟩ := hts
  exact (isoformatUtc_inj (inTime_of_mem_recent ht)
    (inTime_of_mem_recent (mem_recent_of_mem_inWindow ht'))).mp h

theorem mem_instants_of_bounded (h : ∀ t ∈ call.recent, t.ts ≤ call.reference) {ts : Int} :
    ts ∈ call.instants ↔ ∃ t ∈ call.recent, t.ts = ts := by
  have hequal : call.inWindow = call.recent := by
    rw [inWindow_eq_filter, List.filter_eq_self]
    exact fun t ht => decide_eq_true (h t ht)
  unfold instants
  rw [hequal]
  rfl

/-- Without an answer the detector is right where there are too few transitions. -/
theorem detects_of_none (h : ¬ ∃ r, call.run = .ok (some r)) :
    call.Detects ↔ (call.inWindow.length : Int) < call.minToggles := by
  constructor
  · intro hdetects
    by_contra henough
    exact h (hdetects.found.mpr (not_lt.mp henough))
  · intro hfew
    exact ⟨iff_of_false h (not_le.mpr hfew), fun r hr => absurd ⟨r, hr⟩ h,
      fun r hr => absurd ⟨r, hr⟩ h, fun r hr => absurd ⟨r, hr⟩ h⟩

/-- With an answer it is right where the log has the earliest first and the latest last. -/
theorem detects_of_some {r : ActiveReverterResult} (hne : call.recent ≠ [])
    (hrun : call.run = .ok (some r)) (hcount : r.toggleCount = call.recent.length)
    (hfirst : r.firstSeenUtc = isoformatUtc (call.recent.head hne).ts)
    (hlast : r.lastSeenUtc = isoformatUtc (call.recent.getLast hne).ts)
    (henough : call.minToggles ≤ call.recent.length) :
    call.Detects ↔ call.Bounded := by
  have hhead : call.recent.head? = some (call.recent.head hne) := List.head?_eq_some_head hne
  have hgetLast : call.recent.getLast? = some (call.recent.getLast hne) :=
    List.getLast?_eq_some_getLast hne
  constructor
  · intro h
    have hbefore : ∀ t ∈ call.recent, t.ts ≤ call.reference :=
      inWindow_eq_recent_iff.mp ((h.toggleCount r hrun).symm.trans hcount)
    refine ⟨hbefore, fun first hmem t ht => ?_, fun last hmem t ht => ?_⟩
    · obtain ⟨least, ⟨hmemLeast, hleast⟩, htext⟩ := h.firstSeenUtc r hrun
      obtain rfl := Option.some.inj (hhead.symm.trans hmem)
      rw [eq_of_isoformatUtc (List.head_mem hne) hmemLeast (hfirst.symm.trans htext)]
      exact hleast ((mem_instants_of_bounded hbefore).mpr ⟨t, ht, rfl⟩)
    · obtain ⟨greatest, ⟨hmemGreatest, hgreatest⟩, htext⟩ := h.lastSeenUtc r hrun
      obtain rfl := Option.some.inj (hgetLast.symm.trans hmem)
      rw [eq_of_isoformatUtc (List.getLast_mem hne) hmemGreatest (hlast.symm.trans htext)]
      exact hgreatest ((mem_instants_of_bounded hbefore).mpr ⟨t, ht, rfl⟩)
  · intro h
    have hlength := inWindow_eq_recent_iff.mpr h.before
    refine ⟨iff_of_true ⟨r, hrun⟩ (by omega), fun r' hr' => ?_, fun r' hr' => ?_, fun r' hr' => ?_⟩
    all_goals obtain rfl := Option.some.inj (Except.ok.inj (hrun.symm.trans hr'))
    · rw [hcount, hlength]
    · refine ⟨_, ⟨?_, ?_⟩, hfirst⟩
      · exact (mem_instants_of_bounded h.before).mpr ⟨_, List.head_mem hne, rfl⟩
      · intro ts hts
        obtain ⟨t, ht, rfl⟩ := (mem_instants_of_bounded h.before).mp hts
        exact h.first _ hhead t ht
    · refine ⟨_, ⟨?_, ?_⟩, hlast⟩
      · exact (mem_instants_of_bounded h.before).mpr ⟨_, List.getLast_mem hne, rfl⟩
      · intro ts hts
        obtain ⟨t, ht, rfl⟩ := (mem_instants_of_bounded h.before).mp hts
        exact h.last _ hgetLast t ht

/-- The detector is right where too few transitions are recent; where it raises and too
few are in the window; and where none comes after the reference and those from the
cutoff on have the earliest first and the latest last. -/
theorem detects_iff (h : 1 ≤ call.minToggles) :
    call.Detects ↔ (call.recent.length : Int) < call.minToggles ∨
      call.Raises ∧ (call.inWindow.length : Int) < call.minToggles ∨
        ¬ call.Raises ∧ call.Bounded := by
  have hle : (call.inWindow.length : Int) ≤ call.recent.length :=
    Int.ofNat_le.mpr inWindow_length_le
  by_cases hfew : (call.recent.length : Int) < call.minToggles
  · exact iff_of_true ((detects_of_none (run_few hfew)).mpr (hle.trans_lt hfew)) (.inl hfew)
  · by_cases hraises : call.Raises
    · rw [detects_of_none (run_raises hraises)]
      exact ⟨fun hshort => .inr (.inl ⟨hraises, hshort⟩), fun hor =>
        ((hor.resolve_left hfew).resolve_right (fun hnot => hnot.1 hraises)).2⟩
    · have henough := not_lt.mp hfew
      have hne : call.recent ≠ [] := by
        intro hnil
        rw [hnil, List.length_nil] at henough
        omega
      have hrun := (run_enough hraises henough).trans (resultOf_eq hne)
      rw [detects_of_some hne hrun rfl rfl rfl henough]
      exact ⟨fun hbounded => .inr (.inr ⟨hraises, hbounded⟩), fun hor =>
        ((hor.resolve_left hfew).resolve_left (fun hand => hraises hand.1)).2⟩

/-- A log in the order of time that ends at the reference is bounded. -/
theorem bounded_of_sorted (hsorted : call.transitions.Pairwise fun a b => a.ts ≤ b.ts)
    (hbefore : ∀ t ∈ call.transitions, t.ts ≤ call.reference) : call.Bounded := by
  have hrecent : call.recent.Pairwise fun a b => a.ts ≤ b.ts := hsorted.filter _
  refine ⟨fun t ht => hbefore t (List.mem_of_mem_filter ht), fun first hmem t ht => ?_,
    fun last hmem t ht => ?_⟩
  · obtain ⟨rest, hrest⟩ := List.head?_eq_some_iff.mp hmem
    rw [hrest] at hrecent ht
    obtain rfl | ht := List.mem_cons.mp ht
    · exact le_rfl
    · exact List.rel_of_pairwise_cons hrecent ht
  · obtain ⟨init, hinit⟩ := List.getLast?_eq_some_iff.mp hmem
    rw [hinit] at hrecent ht
    obtain ht | ht := List.mem_append.mp ht
    · exact (List.pairwise_append.mp hrecent).2.2 t ht last List.mem_cons_self
    · rw [List.mem_singleton.mp ht]

end Call

/-- A row of the current schema. -/
def toggleRow (timestamp : String) (oldEnable newEnable : Int) : Dict :=
  [("timestamp", .str timestamp),
    ("before_snapshot", .dict [("proxy_enable", .int oldEnable)]),
    ("after_snapshot", .dict [("proxy_enable", .int newEnable)])]

/-- Three transitions in a quarter of an hour, asked for as of the hour before them. -/
def lateCall : Call where
  fromIsoformat := ⟨readTable [("2026-03-09T11:00:00+00:00", 63908650800000000),
    ("2026-03-09T11:05:00+00:00", 63908651100000000),
    ("2026-03-09T11:10:00+00:00", 63908651400000000)], readTable_empty _⟩
  utcNow := 63908654400000000
  records := [toggleRow "2026-03-09T11:00:00Z" 0 1, toggleRow "2026-03-09T11:05:00Z" 1 0,
    toggleRow "2026-03-09T11:10:00Z" 0 1]
  windowMinutes := 30
  minToggles := 3
  referenceUtc := some 63908647200000000

/-- The same three, asked for as of the last of them. -/
def timelyCall : Call := { lateCall with referenceUtc := some 63908651400000000 }

theorem detects_iff_timelyCall : timelyCall.Detects := by
  have hread : RowsRead timelyCall.fromIsoformat timelyCall.records := by
    have hok : (iterEnableTransitions timelyCall.fromIsoformat timelyCall.records).isOk = true := by
      decide +kernel
    cases htransitions : iterEnableTransitions timelyCall.fromIsoformat timelyCall.records with
    | error e =>
      rw [htransitions] at hok
      cases hok
    | ok transitions => exact (iterEnableTransitions_ok.mp htransitions).1
  have hbegins : cutoffOf timelyCall.reference timelyCall.windowMinutes =
      .ok 63908649600000000 := by
    decide +kernel
  have hraises : ¬ timelyCall.Raises := by
    rintro (hunread | ⟨e, hcutoff⟩)
    · exact hunread hread
    · rw [hbegins] at hcutoff
      cases hcutoff
  refine (Call.detects_iff (by decide)).mpr (.inr (.inr ⟨hraises, ?_⟩))
  exact Call.bounded_of_sorted (by decide +kernel) (by decide +kernel)

/-- What comes after the reference is counted. -/
theorem lateCall_counted :
    lateCall.inWindow = [] ∧ lateCall.run.map (·.map ActiveReverterResult.toggleCount) = .ok (some 3) ∧
      ¬ ∀ call : Call, 1 ≤ call.minToggles → call.Detects := by
  have hnone : lateCall.inWindow = [] := by decide +kernel
  have hrun : lateCall.run.map (·.map ActiveReverterResult.toggleCount) = .ok (some 3) := by
    decide +kernel
  refine ⟨hnone, hrun, fun h => ?_⟩
  cases hresult : lateCall.run with
  | error e =>
    rw [hresult] at hrun
    cases hrun
  | ok result =>
    cases result with
    | none =>
      rw [hresult] at hrun
      cases hrun
    | some r =>
      have hfound := (h lateCall (by decide)).found.mp ⟨r, hresult⟩
      rw [hnone] at hfound
      exact absurd hfound (by decide)

end FlipFlop
