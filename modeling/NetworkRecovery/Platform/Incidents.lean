import Mathlib.Data.Prod.Lex
import Mathlib.Data.List.Dedup
import NetworkRecovery.Lib.Gaps
import NetworkRecovery.Python.Rounding
import NetworkRecovery.Python.Sha256
import NetworkRecovery.Timing.Calendar

/-!
# Incident clusters

`cluster_failure_events` of the platform groups failure events by category and fingerprint, and
cuts each group, in the order of the last-seen times, where the next event is more than the
window behind the latest of its cluster. How far it is behind is a float: from `2 ^ 34` seconds
on a step of one microsecond is lost, and an event may stay in a cluster that ended longer ago
than the window (`clusters_asDocumented_iff`). For shorter windows nothing is lost
(`clusters_asDocumented_of_window_lt`).
-/

namespace Incidents

open Python
open Timing (InTime isoformat isoformatUtc)

/-! ## Times -/

/-- An aware `datetime`: the local time and its offset, both in microseconds. -/
structure AwareTime where
  wall : Int
  offset : Int
  inTime : InTime wall
  inDay : |offset| < 86400000000

/-- What aware times are compared by. -/
def AwareTime.instant (t : AwareTime) : Int := t.wall - t.offset

/-- An instant of the years 1 to 9999, as `datetime.now(UTC)` returns it. -/
abbrev UtcTime := {t : Int // InTime t}

def UtcTime.aware (t : UtcTime) : AwareTime := ⟨t.1, 0, t.2, by decide⟩

/-- `(later - earlier).total_seconds()`, of the difference in microseconds. -/
def totalSeconds (delta : Int) : ℚ := binary64 (delta / 1000000)

/-- `min` of some times: the first of the earliest. -/
def earliest (t : AwareTime) (ts : List AwareTime) : AwareTime :=
  ts.foldl (fun m t => if t.instant < m.instant then t else m) t

/-- `max` of some times: the first of the latest. -/
def latest (t : AwareTime) (ts : List AwareTime) : AwareTime :=
  ts.foldl (fun m t => if m.instant < t.instant then t else m) t

/-! ## Events -/

/-- `str(ev.get(k) or default)`. -/
def text (ev : Dict) (k default : String) : String :=
  (orElse (ev.get? k) (.str default)).toText

def category (ev : Dict) : String := text ev "category" "unknown"

/-- `_pattern_fingerprint`. -/
def patternFingerprint (ev : Dict) : String :=
  let action := text ev "recommended_action_key" ""
  let summaryHint := (text ev "summary" "").toList.take 48
  let raw := category ev ++ "|" ++ action ++ "|" ++ .ofList summaryHint
  .ofList ((Sha256.hexdigest raw.toUTF8).toList.take 16)

/-- `_severity_rank`. -/
def severityRank (ev : Dict) : Nat :=
  (([("low", 1), ("medium", 2), ("high", 3)] : List (String × Nat)).lookup
    (.ofList (lower (text ev "severity" "low").toList))).getD 1

/-- `_rank_to_label`. -/
def rankToLabel (r : Nat) : String :=
  if 3 ≤ r then "high" else if r = 2 then "medium" else "low"

/-- An event with the times it is placed by. -/
structure Row where
  event : Dict
  first : AwareTime
  last : AwareTime

/-- `str(ev.get("event_id"))`. -/
def Row.id (row : Row) : String := (row.event.fetch "event_id").toText

/-- When an event was last seen. -/
def Row.lastInstant (row : Row) : Int := row.last.instant

/-- `gkey`. -/
def Row.key (row : Row) : String := category row.event ++ "|" ++ patternFingerprint row.event

/-- `sorted` of a set of texts. -/
def sortedSet (texts : List String) : List String := texts.dedup.insertionSort (· ≤ ·)

/-! ## Clusters -/

/-- `IncidentCluster`. -/
structure IncidentCluster where
  clusterId : String
  category : String
  patternKey : String
  eventIds : List String
  endpointIds : List String
  firstSeenAt : String
  lastSeenAt : String
  clusterSeverity : String
  affectedEndpointCount : Nat
  eventCount : Nat

/-- A bucket: the rows that make a cluster. -/
abbrev Bucket := Gaps.Run Row

/-- `first_t`. -/
def firstTime (b : Bucket) : AwareTime := earliest b.first.first (b.rest.map (·.first))

/-- `last_t`. -/
def lastTime (b : Bucket) : AwareTime := latest b.first.last (b.rest.map (·.last))

/-- `eids`. -/
def eventIds (b : Bucket) : List String := sortedSet (b.toList.map Row.id)

/-- `eps`. -/
def endpointIds (b : Bucket) : List String :=
  sortedSet ((b.toList.filter fun row => (row.event.fetch "endpoint_id").truthy).map
    fun row => text row.event "endpoint_id" "")

/-- `mx`, raised by one where several endpoints are affected. -/
def clusterRank (b : Bucket) : Nat :=
  let mx := b.rest.foldl (fun m row => max m (severityRank row.event)) (severityRank b.first.event)
  if 2 ≤ (endpointIds b).length ∧ mx < 3 then min 3 (mx + 1) else mx

section Clustering

-- `str(uuid.uuid5(uuid.NAMESPACE_URL, name))`
variable (uuid5 : String → String)

/-- `_make_cluster`. -/
def makeCluster (b : Bucket) : IncidentCluster :=
  let firstT := firstTime b
  let lastT := lastTime b
  { clusterId := uuid5 ("|".intercalate
      (eventIds b ++ [isoformat firstT.wall firstT.offset, isoformat lastT.wall lastT.offset]))
    category := category b.first.event
    patternKey := category b.first.event ++ ":" ++ patternFingerprint b.first.event
    eventIds := eventIds b
    endpointIds := endpointIds b
    -- `replace(tzinfo=UTC)` keeps the local time and drops the offset
    firstSeenAt := isoformatUtc firstT.wall
    lastSeenAt := isoformatUtc lastT.wall
    clusterSeverity := rankToLabel (clusterRank b)
    affectedEndpointCount := (endpointIds b).length
    eventCount := b.toList.length }

-- `datetime.fromisoformat`, of the texts that name an offset; `none` is a `ValueError`
variable (fromIsoformat : String → Option AwareTime)

/-- `_parse_iso`. -/
def parseIso : Value → Option AwareTime
  | .str ts =>
    if ts = "" then none
    else
      let s := strip ts.toList
      fromIsoformat (.ofList (if s.getLast? = some 'Z' then s.dropLast ++ "+00:00".toList else s))
  | _ => none

/-- `fs` and `ls`, where one of the two times is read. -/
def seenTimes (ev : Dict) : Option (AwareTime × AwareTime) :=
  match parseIso fromIsoformat (ev.fetch "first_seen_at"),
    parseIso fromIsoformat (ev.fetch "last_seen_at") with
  | some fs, some ls => some (fs, ls)
  | some fs, none => some (fs, fs)
  | none, some ls => some (ls, ls)
  | none, none => none

/-- The row of an event, with what the clock shows when it has no time. -/
def rowOf (now : UtcTime) (ev : Dict) : Option Row :=
  if text ev "event_id" "" = "" then none
  else
    let times := (seenTimes fromIsoformat ev).getD (now.aware, now.aware)
    some ⟨ev, times.1, times.2⟩

-- what the clock shows at each event
variable (now : Nat → UtcTime)

/-- The rows of all groups, in the order of the events. -/
def rows (events : List Dict) : List Row :=
  events.zipIdx.filterMap fun e => rowOf fromIsoformat (now e.2) e.1

/-- A group in the order of its last-seen times. -/
def sortRows (rows : List Row) : List Row :=
  rows.insertionSort fun r r' => toLex (r.lastInstant, r.id) ≤ toLex (r'.lastInstant, r'.id)

/-- `groups[gkey]`. -/
def group (key : String) (rows : List Row) : List Row := rows.filter fun r => r.key == key

/-- `(ls - prev_ls).total_seconds() > window_seconds`. -/
def isFar (window prev ls : Int) : Bool := decide ((window : ℚ) < totalSeconds (ls - prev))

/-- The buckets, group by group. -/
def buckets (window : Int) (rows : List Row) : List Bucket :=
  (sortedSet (rows.map Row.key)).flatMap fun key =>
    Gaps.runs Row.lastInstant (isFar window) (sortRows (group key rows))

/-- `cluster_failure_events`. -/
def clusterFailureEvents (window : Int) (events : List Dict) : List IncidentCluster :=
  ((buckets window (rows fromIsoformat now events)).map (makeCluster uuid5)).insertionSort
    fun c c' => toLex (c.lastSeenAt, c.clusterId) ≤ toLex (c'.lastSeenAt, c'.clusterId)

end Clustering

/-! ## Gaps in seconds -/

theorem instant_bounds (t : AwareTime) :
    -86400000000 < t.instant ∧ t.instant < 315537984000000000 := by
  obtain ⟨wall, offset, ⟨hwall, hend⟩, hday⟩ := t
  rw [Timing.endOfTime_eq] at hend
  rw [abs_lt] at hday
  unfold AwareTime.instant
  dsimp only
  omega

/-- The seconds between two rows are a small rational. -/
theorem gap_bounds {r r' : Row} (h : r.lastInstant ≤ r'.lastInstant) :
    (0 : ℚ) ≤ ((r'.lastInstant - r.lastInstant : Int) : ℚ) / 1000000 ∧
      ((r'.lastInstant - r.lastInstant : Int) : ℚ) / 1000000 < 2 ^ 53 := by
  have hr := instant_bounds r.last
  have hr' := instant_bounds r'.last
  unfold Row.lastInstant at h ⊢
  constructor
  · have hnonneg : (0 : ℚ) ≤ ((r'.last.instant - r.last.instant : Int) : ℚ) := by
      exact_mod_cast sub_nonneg.mpr h
    exact div_nonneg hnonneg (by norm_num)
  · rw [div_lt_iff₀ (by norm_num)]
    have hlt : r'.last.instant - r.last.instant < 2 ^ 53 * 1000000 := by omega
    exact_mod_cast hlt

/-- What counts as far is farther than the window. -/
theorem gap_of_isFar {window : Int} {r r' : Row} (h : r.lastInstant ≤ r'.lastInstant)
    (hfar : isFar window r.lastInstant r'.lastInstant = true) :
    window * 1000000 < r'.lastInstant - r.lastInstant := by
  obtain ⟨hnonneg, hlt⟩ := gap_bounds h
  by_contra hle
  have hquotient : ((r'.lastInstant - r.lastInstant : Int) : ℚ) / 1000000 ≤ window := by
    rw [div_le_iff₀ (by norm_num)]
    exact_mod_cast not_lt.mp hle
  exact absurd (of_decide_eq_true hfar) (not_lt.mpr (binary64_le hnonneg hlt hquotient))

/-- Below `2 ^ 34` seconds, what is farther than the window counts as far. -/
theorem isFar_of_gap {window : Int} {r r' : Row} (hwindow : window < 2 ^ 34)
    (h : r.lastInstant ≤ r'.lastInstant)
    (hgap : window * 1000000 < r'.lastInstant - r.lastInstant) :
    isFar window r.lastInstant r'.lastInstant = true := by
  obtain ⟨hnonneg, hlt⟩ := gap_bounds h
  refine decide_eq_true (lt_binary64 hwindow hnonneg hlt ?_)
  rw [le_div_iff₀ (by norm_num)]
  have hstep : window * 1000000 + 1 ≤ r'.lastInstant - r.lastInstant := hgap
  have hcast : ((window * 1000000 + 1 : Int) : ℚ) ≤ (r'.lastInstant - r.lastInstant : Int) := by
    exact_mod_cast hstep
  push_cast at hcast ⊢
  linarith

/-! ## Groups -/

/-- The category and the fingerprint of two rows are the same. -/
def Alike (r r' : Row) : Prop :=
  category r.event = category r'.event ∧ patternFingerprint r.event = patternFingerprint r'.event

theorem length_patternFingerprint (ev : Dict) : (patternFingerprint ev).toList.length = 16 := by
  rw [patternFingerprint, String.toList_ofList, List.length_take, Sha256.hexdigest_length]
  rfl

/-- The key of a group tells the category and the fingerprint. -/
theorem key_eq_iff {r r' : Row} : r.key = r'.key ↔ Alike r r' := by
  constructor
  · intro h
    have hlist := congrArg String.toList h
    unfold Row.key at hlist
    simp only [String.toList_append] at hlist
    obtain ⟨hleft, hright⟩ := List.append_inj' hlist
      (by rw [length_patternFingerprint, length_patternFingerprint])
    exact ⟨String.toList_injective (List.append_cancel_right hleft),
      String.toList_injective hright⟩
  · rintro ⟨hcategory, hfingerprint⟩
    rw [Row.key, Row.key, hcategory, hfingerprint]

theorem mem_sortedSet {texts : List String} {s : String} : s ∈ sortedSet texts ↔ s ∈ texts := by
  rw [sortedSet, List.mem_insertionSort, List.mem_dedup]

theorem nodup_sortedSet (texts : List String) : (sortedSet texts).Nodup :=
  (List.perm_insertionSort _ _).nodup_iff.mpr (List.nodup_dedup texts)

/-- The order of a list does not show in the sorted set of it. -/
theorem sortedSet_perm {texts texts' : List String} (h : texts.Perm texts') :
    sortedSet texts = sortedSet texts' := by
  have hperm := (List.perm_insertionSort (· ≤ ·) texts.dedup).trans
    (h.dedup.trans (List.perm_insertionSort (· ≤ ·) texts'.dedup).symm)
  exact hperm.eq_of_pairwise' (List.pairwise_insertionSort _ _) (List.pairwise_insertionSort _ _)

theorem sortRows_perm (rows : List Row) : (sortRows rows).Perm rows := List.perm_insertionSort _ _

/-- What rows are ordered by. -/
def Row.place (r : Row) : Int ×ₗ String := toLex (r.lastInstant, r.id)

theorem map_place_sortRows (rows : List Row) :
    (sortRows rows).map Row.place = (rows.map Row.place).insertionSort (· ≤ ·) :=
  List.map_insertionSort _ _ Row.place rows fun _ _ _ _ => Iff.rfl

theorem ordered_sortRows (rows : List Row) : Gaps.Ordered Row.lastInstant (sortRows rows) := by
  have hsorted := List.pairwise_insertionSort (· ≤ ·) (rows.map Row.place)
  rw [← map_place_sortRows, List.pairwise_map] at hsorted
  refine hsorted.imp fun {r r'} h => ?_
  obtain hlt | ⟨heq, -⟩ := Prod.Lex.toLex_le_toLex.mp h
  · exact hlt.le
  · exact heq.le

/-- The groups hold each row once. -/
theorem flatMap_group_perm (rows : List Row) :
    ((sortedSet (rows.map Row.key)).flatMap fun key => sortRows (group key rows)).Perm rows := by
  refine (List.Perm.flatMap_left _ fun key _ => sortRows_perm _).trans ?_
  refine (Gaps.flatMap_filter_perm Row.key rows (nodup_sortedSet _)).trans ?_
  have hall : rows.filter (fun r => (sortedSet (rows.map Row.key)).contains r.key) = rows := by
    refine List.filter_eq_self.mpr fun r hr => ?_
    rw [List.contains_iff_mem, mem_sortedSet]
    exact List.mem_map_of_mem hr
  rw [hall]

theorem key_of_mem_group {key : String} {rows : List Row} {r : Row}
    (h : r ∈ sortRows (group key rows)) : r.key = key := by
  have hmem := (sortRows_perm _).mem_iff.mp h
  exact beq_iff_eq.mp (List.mem_filter.mp hmem).2

/-! ## Buckets -/

/-- The runs of a group, as the neighbours in it make them. -/
theorem toList_runs_group (window : Int) (key : String) (rows : List Row) :
    (Gaps.runs Row.lastInstant (isFar window) (sortRows (group key rows))).map Gaps.Run.toList =
      (sortRows (group key rows)).splitBy (Gaps.near Row.lastInstant (isFar window)) :=
  Gaps.toList_runs _ (ordered_sortRows _)

/-- The rows of a bucket are of one group. -/
theorem exists_group_of_mem_buckets {window : Int} {rows : List Row} {b : Bucket}
    (h : b ∈ buckets window rows) : ∃ key,
      b.toList ∈ (sortRows (group key rows)).splitBy (Gaps.near Row.lastInstant (isFar window)) := by
  obtain ⟨key, -, hb⟩ := List.mem_flatMap.mp h
  refine ⟨key, ?_⟩
  rw [← toList_runs_group]
  exact List.mem_map_of_mem hb

theorem mem_of_mem_splitBy {α : Type} {r : α → α → Bool} {xs b : List α} {x : α}
    (hb : b ∈ xs.splitBy r) (hx : x ∈ b) : x ∈ xs := by
  rw [← List.flatten_splitBy r xs]
  exact List.mem_flatten.mpr ⟨b, hb, hx⟩

theorem flatMap_buckets_perm (window : Int) (rows : List Row) :
    ((buckets window rows).flatMap Gaps.Run.toList).Perm rows := by
  have hflat : (buckets window rows).flatMap Gaps.Run.toList =
      (sortedSet (rows.map Row.key)).flatMap fun key => sortRows (group key rows) := by
    unfold buckets
    rw [List.flatMap_assoc]
    refine List.flatMap_congr fun key _ => ?_
    rw [List.flatMap_def, toList_runs_group, List.flatten_splitBy]
  rw [hflat]
  exact flatMap_group_perm rows

/-- The rows of one bucket are alike. -/
theorem alike_of_mem_buckets {window : Int} {rows : List Row} {b : Bucket}
    (h : b ∈ buckets window rows) : ∀ r ∈ b.toList, ∀ r' ∈ b.toList, Alike r r' := by
  obtain ⟨key, hb⟩ := exists_group_of_mem_buckets h
  intro r hr r' hr'
  rw [← key_eq_iff, key_of_mem_group (mem_of_mem_splitBy hb hr),
    key_of_mem_group (mem_of_mem_splitBy hb hr')]

/-! ## Gaps -/

/-- The second row is farther behind the first than the window. -/
def Beyond (window : Int) (r r' : Row) : Prop :=
  window * 1000000 < r'.lastInstant - r.lastInstant

/-- In the groups, what is farther behind the row before it than the window counts as far. -/
def SeesGaps (window : Int) (rows : List Row) : Prop :=
  ∀ key, (sortRows (group key rows)).IsChain fun r r' =>
    Beyond window r r' → isFar window r.lastInstant r'.lastInstant = true

/-- The rows of a bucket, in order, are never farther apart than the window. -/
def Close (window : Int) (b : Bucket) : Prop :=
  b.toList.IsChain fun r r' => r.lastInstant ≤ r'.lastInstant ∧ ¬ Beyond window r r'

/-- Buckets of one category and fingerprint are farther apart than the window. -/
def Apart (window : Int) (b b' : Bucket) : Prop :=
  ∀ r ∈ b.toList, ∀ r' ∈ b'.toList, Alike r r' → Beyond window r r'

theorem isChain_of_ordered {rows : List Row} (h : Gaps.Ordered Row.lastInstant rows) :
    rows.IsChain fun r r' => r.lastInstant ≤ r'.lastInstant := h.isChain

/-- A bucket is in order, and no row in it counts as far from the one before. -/
theorem isChain_of_mem_buckets {window : Int} {rows : List Row} {b : Bucket}
    (h : b ∈ buckets window rows) : b.toList.IsChain fun r r' =>
      r.lastInstant ≤ r'.lastInstant ∧ isFar window r.lastInstant r'.lastInstant = false := by
  obtain ⟨key, hb⟩ := exists_group_of_mem_buckets h
  have hnear := List.isChain_of_mem_splitBy hb
  have hordered : Gaps.Ordered Row.lastInstant b.toList := by
    have hflat := ordered_sortRows (group key rows)
    rw [Gaps.Ordered, ← List.flatten_splitBy (Gaps.near Row.lastInstant (isFar window))
      (sortRows (group key rows)), List.pairwise_flatten] at hflat
    exact hflat.1 _ hb
  refine (Gaps.isChain_and (isChain_of_ordered hordered) hnear).imp ?_
  rintro r r' ⟨hle, hr⟩
  exact ⟨hle, by simpa [Gaps.near] using hr⟩

/-- Where the gaps are seen, the rows of each bucket are close. -/
theorem close_of_seesGaps {window : Int} {rows : List Row} (h : SeesGaps window rows) {b : Bucket}
    (hb : b ∈ buckets window rows) : Close window b := by
  obtain ⟨key, hkey⟩ := exists_group_of_mem_buckets hb
  have hsees := h key
  rw [← List.flatten_splitBy (Gaps.near Row.lastInstant (isFar window))
    (sortRows (group key rows))] at hsees
  have hinside := ((List.isChain_flatten (List.nil_notMem_splitBy _ _)).mp hsees).1 _ hkey
  refine (Gaps.isChain_and hinside (isChain_of_mem_buckets hb)).imp ?_
  rintro r r' ⟨hsees, hle, hnear⟩
  refine ⟨hle, fun hbeyond => ?_⟩
  rw [hsees hbeyond] at hnear
  cases hnear

/-- Where the rows of each bucket are close, the gaps are seen. -/
theorem seesGaps_of_close {window : Int} {rows : List Row}
    (h : ∀ b ∈ buckets window rows, Close window b) : SeesGaps window rows := by
  intro key
  by_cases hkey : key ∈ rows.map Row.key
  · rw [← List.flatten_splitBy (Gaps.near Row.lastInstant (isFar window))
      (sortRows (group key rows))]
    refine (List.isChain_flatten (List.nil_notMem_splitBy _ _)).mpr ⟨?_, ?_⟩
    · intro rs hrs
      rw [← toList_runs_group] at hrs
      obtain ⟨b, hb, rfl⟩ := List.mem_map.mp hrs
      have hmem : b ∈ buckets window rows := List.mem_flatMap.mpr ⟨key, mem_sortedSet.mpr hkey, hb⟩
      exact (h b hmem).imp fun _ _ hclose hbeyond => absurd hbeyond hclose.2
    · refine (List.isChain_getLast_head_splitBy _ _).imp ?_
      rintro rs rs' ⟨hne, hne', hcut⟩ r hr r' hr' -
      rw [List.getLast?_eq_some_getLast hne, Option.mem_some] at hr
      rw [List.head?_eq_some_head hne', Option.mem_some] at hr'
      rw [← hr, ← hr']
      simpa [Gaps.near] using hcut
  · -- No row has the key.
    have hnone : group key rows = [] := by
      refine List.filter_eq_nil_iff.mpr fun r hr heq => hkey ?_
      rw [← beq_iff_eq.mp heq]
      exact List.mem_map_of_mem hr
    rw [hnone]
    exact .nil

theorem seesGaps_iff_close {window : Int} {rows : List Row} :
    SeesGaps window rows ↔ ∀ b ∈ buckets window rows, Close window b :=
  ⟨fun h _ hb => close_of_seesGaps h hb, seesGaps_of_close⟩

/-- Whatever the rounding, buckets that are cut apart are farther apart than the window. -/
theorem apart_buckets (window : Int) (rows : List Row) :
    (buckets window rows).Pairwise (Apart window) := by
  refine List.pairwise_flatMap.mpr ⟨fun key _ => ?_, ?_⟩
  · have hseparated := Gaps.splitBy_separated (isFar window)
      (fun t t' => window * 1000000 < t' - t) (ordered_sortRows (group key rows))
      (fun _ _ => gap_of_isFar) (by intros; omega)
    rw [← toList_runs_group, List.pairwise_map] at hseparated
    exact hseparated.imp fun h r hr r' hr' _ => h r hr r' hr'
  · refine (nodup_sortedSet _).imp ?_
    intro key key' hne b hb b' hb' r hr r' hr' halike
    have hmem : ∀ {key : String} {b : Bucket} {r : Row},
        b ∈ Gaps.runs Row.lastInstant (isFar window) (sortRows (group key rows)) →
          r ∈ b.toList → r.key = key := by
      intro key b r hb hr
      have hsplit := List.mem_map_of_mem (f := Gaps.Run.toList) hb
      rw [toList_runs_group] at hsplit
      exact key_of_mem_group (mem_of_mem_splitBy hsplit hr)
    rw [← hmem hb hr, ← hmem hb' hr', key_eq_iff.mpr halike] at hne
    exact absurd rfl hne

/-! ## The clusters of some events -/

/-- The event has an id that counts. -/
def hasEventId (ev : Dict) : Bool := text ev "event_id" "" != ""

section Clusters

variable (uuid5 : String → String) (fromIsoformat : String → Option AwareTime)
  (now : Nat → UtcTime)

/-- What is promised of the clusters of some events: each event is in one of them, the events of
one are alike and close, clusters of like events are apart, and the order of the events does not
matter. -/
structure AsDocumented (window : Int) (events : List Dict) : Prop where
  each : ((buckets window (rows fromIsoformat now events)).flatMap
    fun b => b.toList.map Row.event).Perm (events.filter hasEventId)
  alike : ∀ b ∈ buckets window (rows fromIsoformat now events),
    ∀ r ∈ b.toList, ∀ r' ∈ b.toList, Alike r r'
  close : ∀ b ∈ buckets window (rows fromIsoformat now events), Close window b
  apart : (buckets window (rows fromIsoformat now events)).Pairwise (Apart window)
  made : (clusterFailureEvents uuid5 fromIsoformat now window events).Perm
    ((buckets window (rows fromIsoformat now events)).map (makeCluster uuid5))
  ids : ((rows fromIsoformat now events).map Row.id).Nodup →
    ((clusterFailureEvents uuid5 fromIsoformat now window events).flatMap (·.eventIds)).Perm
      ((rows fromIsoformat now events).map Row.id)
  stable : ∀ events', events'.Perm events →
    ((clusterFailureEvents uuid5 fromIsoformat now window events').map (·.eventIds)).Perm
      ((clusterFailureEvents uuid5 fromIsoformat now window events).map (·.eventIds))

/-- Every event with an id has a time that is read. -/
def Readable (events : List Dict) : Prop :=
  ∀ ev ∈ events, hasEventId ev = true → (seenTimes fromIsoformat ev).isSome = true

variable {uuid5 fromIsoformat now}

theorem map_event_rows (events : List Dict) :
    (rows fromIsoformat now events).map Row.event = events.filter hasEventId := by
  have hfrom : ∀ n, ((events.zipIdx n).filterMap fun e => rowOf fromIsoformat (now e.2) e.1).map
      Row.event = events.filter hasEventId := by
    induction events with
    | nil => exact fun _ => rfl
    | cons ev events ih =>
      intro n
      rw [List.zipIdx_cons, List.filterMap_cons]
      by_cases hid : text ev "event_id" "" = ""
      · have hno : hasEventId ev = false := bne_eq_false_iff_eq.mpr hid
        rw [rowOf, if_pos hid, List.filter_cons_of_neg (by rw [hno]; exact Bool.false_ne_true)]
        exact ih (n + 1)
      · have hyes : hasEventId ev = true := bne_iff_ne.mpr hid
        rw [rowOf, if_neg hid, List.filter_cons_of_pos hyes]
        exact congrArg (ev :: ·) (ih (n + 1))
  exact hfrom 0

/-- Where each event has a time, the clock is not asked. -/
theorem rows_eq {events : List Dict} (h : Readable fromIsoformat events) :
    rows fromIsoformat now events = events.filterMap (rowOf fromIsoformat (now 0)) := by
  have hconst : ∀ e ∈ events.zipIdx,
      rowOf fromIsoformat (now e.2) e.1 = rowOf fromIsoformat (now 0) e.1 := by
    intro e he
    unfold rowOf
    split
    · rfl
    · next hid =>
      obtain ⟨times, htimes⟩ := Option.isSome_iff_exists.mp
        (h e.1 (List.fst_mem_of_mem_zipIdx he) (bne_iff_ne.mpr hid))
      rw [htimes]
      rfl
  have hsplit : events.zipIdx.filterMap (fun e => rowOf fromIsoformat (now 0) e.1) =
      (events.zipIdx.map Prod.fst).filterMap (rowOf fromIsoformat (now 0)) := by
    rw [List.filterMap_map]
    rfl
  rw [rows, List.filterMap_congr hconst, hsplit, List.zipIdx_map_fst]

/-- The ids of the clusters of a group are a matter of the places of its rows. -/
theorem eventIds_runs (window : Int) (rows : List Row) :
    (Gaps.runs Row.lastInstant (isFar window) (sortRows rows)).map eventIds =
      (((rows.map Row.place).insertionSort (· ≤ ·)).splitBy
        fun p p' => !isFar window (ofLex p).1 (ofLex p').1).map
          fun places => sortedSet (places.map fun p => (ofLex p).2) := by
  have hids : eventIds = (fun rs : List Row => sortedSet (rs.map Row.id)) ∘ Gaps.Run.toList := rfl
  rw [hids, ← List.map_map, Gaps.toList_runs _ (ordered_sortRows _), ← map_place_sortRows,
    Gaps.splitBy_map, List.map_map]
  refine List.map_congr_left fun rs _ => ?_
  rw [Function.comp_apply, List.map_map]
  rfl

/-- The order of the rows does not show in the ids of the buckets. -/
theorem eventIds_buckets_perm (window : Int) {rs rs' : List Row} (h : rs.Perm rs') :
    (buckets window rs).map eventIds = (buckets window rs').map eventIds := by
  have hgroup : ∀ key, (Gaps.runs Row.lastInstant (isFar window) (sortRows (group key rs))).map
      eventIds = (Gaps.runs Row.lastInstant (isFar window) (sortRows (group key rs'))).map
        eventIds := by
    intro key
    have hplaces : ((group key rs).map Row.place).insertionSort (· ≤ ·) =
        ((group key rs').map Row.place).insertionSort (· ≤ ·) := by
      have hperm := ((h.filter fun r => r.key == key).map Row.place)
      exact ((List.perm_insertionSort _ _).trans
        (hperm.trans (List.perm_insertionSort _ _).symm)).eq_of_pairwise'
          (List.pairwise_insertionSort _ _) (List.pairwise_insertionSort _ _)
    rw [eventIds_runs, eventIds_runs, hplaces]
  rw [buckets, buckets, List.map_flatMap, List.map_flatMap, sortedSet_perm (h.map Row.key)]
  exact List.flatMap_congr fun key _ => hgroup key

theorem clusterFailureEvents_perm (window : Int) (events : List Dict) :
    (clusterFailureEvents uuid5 fromIsoformat now window events).Perm
      ((buckets window (rows fromIsoformat now events)).map (makeCluster uuid5)) :=
  List.perm_insertionSort _ _

theorem map_eventIds_clusters (window : Int) (events : List Dict) :
    ((clusterFailureEvents uuid5 fromIsoformat now window events).map (·.eventIds)).Perm
      ((buckets window (rows fromIsoformat now events)).map eventIds) := by
  refine ((clusterFailureEvents_perm window events).map _).trans ?_
  rw [List.map_map]
  exact .refl _

/-- Distinct ids are those of the clusters, each once. -/
theorem flatMap_eventIds_clusters {window : Int} {events : List Dict}
    (h : ((rows fromIsoformat now events).map Row.id).Nodup) :
    ((clusterFailureEvents uuid5 fromIsoformat now window events).flatMap (·.eventIds)).Perm
      ((rows fromIsoformat now events).map Row.id) := by
  have hflat := (flatMap_buckets_perm window (rows fromIsoformat now events)).map Row.id
  rw [List.map_flatMap] at hflat
  have hbucket : ∀ b ∈ buckets window (rows fromIsoformat now events),
      (eventIds b).Perm (b.toList.map Row.id) := by
    intro b hb
    have hnodup : (b.toList.map Row.id).Nodup :=
      (List.nodup_flatMap.mp (hflat.nodup_iff.mpr h)).1 b hb
    rw [eventIds, sortedSet, hnodup.dedup]
    exact List.perm_insertionSort _ _
  have hids := (@map_eventIds_clusters uuid5 fromIsoformat now window events).flatten
  rw [← List.flatMap_def, ← List.flatMap_def] at hids
  exact hids.trans ((List.Perm.flatMap_left _ hbucket).trans hflat)

/-- Each event with an id is in one cluster. -/
theorem flatMap_event_buckets (window : Int) (events : List Dict) :
    ((buckets window (rows fromIsoformat now events)).flatMap
      fun b => b.toList.map Row.event).Perm (events.filter hasEventId) := by
  have hflat := (flatMap_buckets_perm window (rows fromIsoformat now events)).map Row.event
  rwa [List.map_flatMap, map_event_rows] at hflat

/-- The order of the events does not show in the ids of the clusters. -/
theorem eventIds_clusters_stable {window : Int} {events events' : List Dict}
    (hread : Readable fromIsoformat events) (hperm : events'.Perm events) :
    ((clusterFailureEvents uuid5 fromIsoformat now window events').map (·.eventIds)).Perm
      ((clusterFailureEvents uuid5 fromIsoformat now window events).map (·.eventIds)) := by
  have hread' : Readable fromIsoformat events' := fun ev hev => hread ev (hperm.mem_iff.mp hev)
  refine (map_eventIds_clusters window events').trans ?_
  refine List.Perm.trans ?_ (map_eventIds_clusters window events).symm
  rw [rows_eq hread, rows_eq hread', eventIds_buckets_perm window (hperm.filterMap _)]

/-- Where the gaps are seen, the clusters are as documented. -/
theorem asDocumented_of_seesGaps {window : Int} {events : List Dict}
    (hread : Readable fromIsoformat events) (h : SeesGaps window (rows fromIsoformat now events)) :
    AsDocumented uuid5 fromIsoformat now window events where
  each := flatMap_event_buckets window events
  alike _ hb := alike_of_mem_buckets hb
  close _ hb := close_of_seesGaps h hb
  apart := apart_buckets window _
  made := clusterFailureEvents_perm window events
  ids := flatMap_eventIds_clusters
  stable _ hperm := eventIds_clusters_stable hread hperm

/-- The clusters are as documented exactly where the gaps are seen. -/
theorem clusters_asDocumented_iff {window : Int} {events : List Dict}
    (hread : Readable fromIsoformat events) :
    AsDocumented uuid5 fromIsoformat now window events ↔
      SeesGaps window (rows fromIsoformat now events) :=
  ⟨fun h => seesGaps_of_close h.close, asDocumented_of_seesGaps hread⟩

end Clusters

/-- Below `2 ^ 34` seconds every gap is seen. -/
theorem seesGaps_of_window_lt {window : Int} (hwindow : window < 2 ^ 34) (rows : List Row) :
    SeesGaps window rows := by
  intro key
  exact (isChain_of_ordered (ordered_sortRows _)).imp fun _ _ hle => isFar_of_gap hwindow hle

/-- Windows below `2 ^ 34` seconds are kept to the microsecond. -/
theorem clusters_asDocumented_of_window_lt {uuid5 : String → String}
    {fromIsoformat : String → Option AwareTime} {now : Nat → UtcTime} {window : Int}
    {events : List Dict} (hread : Readable fromIsoformat events) (hwindow : window < 2 ^ 34) :
    AsDocumented uuid5 fromIsoformat now window events :=
  asDocumented_of_seesGaps hread (seesGaps_of_window_lt hwindow _)

/-- Two events at five minutes from each other, and one much later. -/
def morning : List Dict :=
  [[("event_id", .str "b"), ("last_seen_at", .str "2026-01-01T10:05:00+00:00")],
    [("event_id", .str "a"), ("last_seen_at", .str "2026-01-01T10:00:00+00:00")],
    [("event_id", .str "c"), ("last_seen_at", .str "2026-01-01T12:00:00+00:00")]]

def readMorning (s : String) : Option AwareTime :=
  ([("2026-01-01T10:00:00+00:00", ⟨63902858400000000, 0, by decide, by decide⟩),
    ("2026-01-01T10:05:00+00:00", ⟨63902858700000000, 0, by decide, by decide⟩),
    ("2026-01-01T12:00:00+00:00", ⟨63902865600000000, 0, by decide, by decide⟩)] :
      List (String × AwareTime)).lookup s

theorem clusters_asDocumented_iff_morning :
    AsDocumented (fun name => name) readMorning (fun _ => ⟨0, by decide⟩) 600 morning := by
  have hread : Readable readMorning morning := by
    have hall : ∀ ev ∈ morning, (seenTimes readMorning ev).isSome = true := by decide +kernel
    exact fun ev hev _ => hall ev hev
  apply (clusters_asDocumented_iff hread).mpr
  exact seesGaps_of_window_lt (by decide) _

/-! ## A window of centuries -/

/-- Two events `20000000000` seconds and one microsecond apart. -/
def longAgo : List Dict :=
  [[("event_id", .str "a"), ("last_seen_at", .str "0001-01-01T00:00:00+00:00")],
    [("event_id", .str "b"), ("last_seen_at", .str "0634-10-11T11:33:20.000001+00:00")]]

/-- `datetime.fromisoformat` of the two times. -/
def readLongAgo (s : String) : Option AwareTime :=
  if s = "0001-01-01T00:00:00+00:00" then some ⟨0, 0, by decide, by decide⟩
  else if s = "0634-10-11T11:33:20.000001+00:00" then
    some ⟨20000000000000001, 0, by decide, by decide⟩
  else none

/-- `uuid5` of the one name that the two events make. -/
def uuidLongAgo (_name : String) : String := "6912bb39-611d-5311-9d34-41515b0b2c69"

def longAgoRows : List Row := rows readLongAgo (fun _ => ⟨0, by decide⟩) longAgo

theorem readable_longAgo : Readable readLongAgo longAgo := by
  intro ev hev _
  obtain rfl | hev := List.mem_cons.mp hev
  · decide +kernel
  · rw [List.mem_singleton.mp hev]
    decide +kernel

/-- Both events are of one group: neither says more than the other. -/
theorem key_longAgo : ∀ row ∈ longAgoRows, ∀ row' ∈ longAgoRows, row.key = row'.key := by
  have htexts : ∀ row ∈ longAgoRows, category row.event = "unknown" ∧
      text row.event "recommended_action_key" "" = "" ∧ text row.event "summary" "" = "" := by
    decide +kernel
  intro row hrow row' hrow'
  obtain ⟨hcategory, haction, hsummary⟩ := htexts row hrow
  obtain ⟨hcategory', haction', hsummary'⟩ := htexts row' hrow'
  unfold Row.key patternFingerprint
  rw [hcategory, haction, hsummary, hcategory', haction', hsummary']

/-- The two events share a cluster, although they are farther apart than the window. -/
theorem longAgo_not_asDocumented : Readable readLongAgo longAgo ∧
    ¬ AsDocumented uuidLongAgo readLongAgo (fun _ => ⟨0, by decide⟩) 20000000000 longAgo := by
  refine ⟨readable_longAgo, fun h => ?_⟩
  obtain ⟨row, hrow⟩ : ∃ row, row ∈ longAgoRows := List.exists_mem_of_ne_nil _ (by decide +kernel)
  have hgroup : group row.key longAgoRows = longAgoRows :=
    List.filter_eq_self.mpr fun row' hrow' => decide_eq_true (key_longAgo row' hrow' row hrow)
  have hsees : SeesGaps 20000000000 longAgoRows := seesGaps_of_close h.close
  have hpairs := hsees row.key
  rw [hgroup] at hpairs
  have hsorted : (sortRows longAgoRows).map Row.lastInstant = [0, 20000000000000001] := by
    decide +kernel
  have hchain : ((sortRows longAgoRows).map Row.lastInstant).IsChain fun t t' =>
      20000000000 * 1000000 < t' - t → isFar 20000000000 t t' = true :=
    (List.isChain_map Row.lastInstant).mpr hpairs
  rw [hsorted, List.isChain_cons_cons] at hchain
  have hnear : isFar 20000000000 0 20000000000000001 = false := by decide +kernel
  rw [hchain.1 (by decide)] at hnear
  cases hnear

end Incidents
