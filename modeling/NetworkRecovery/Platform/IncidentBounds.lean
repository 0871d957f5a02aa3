import Mathlib.Order.Bounds.Basic
import NetworkRecovery.Lib.Ranking
import NetworkRecovery.Platform.Incidents

/-!
# The times of a cluster

A cluster is stamped with the local times of the first and the last of its events, and the
offset is dropped, not converted. The stamps denote the instants exactly where the two times
that are taken have no offset; of several times at the same instant, it is the offset of the
first that counts (`stamps_denote_iff`). Then the order of the stamps as texts is that of the
instants.
-/

namespace Incidents

open Python
open Timing (InTime isoformat isoformatUtc isoformatUtc_inj isoformatUtc_lt_iff)

/-! ## The first and the last time -/

/-- The first time is at the second or before it. -/
def NotLater (a b : AwareTime) : Prop := a.instant ≤ b.instant

/-- The first time is at the second or after it. -/
def NotEarlier (a b : AwareTime) : Prop := b.instant ≤ a.instant

instance : DecidableRel NotLater := fun a b => inferInstanceAs (Decidable (a.instant ≤ b.instant))

instance : DecidableRel NotEarlier := fun a b => inferInstanceAs (Decidable (b.instant ≤ a.instant))

theorem NotLater.trans (a b c : AwareTime) (hab : NotLater a b) (hbc : NotLater b c) :
    NotLater a c := le_trans hab hbc

theorem NotLater.total (a b : AwareTime) : NotLater a b ∨ NotLater b a := le_total _ _

theorem NotEarlier.trans (a b c : AwareTime) (hab : NotEarlier a b) (hbc : NotEarlier b c) :
    NotEarlier a c := le_trans hbc hab

theorem NotEarlier.total (a b : AwareTime) : NotEarlier a b ∨ NotEarlier b a := le_total _ _

/-- The first of the earliest times. -/
def Earliest (ts : List AwareTime) (t : AwareTime) : Prop := Ranking.best NotLater ts = some t

/-- The first of the latest times. -/
def Latest (ts : List AwareTime) (t : AwareTime) : Prop := Ranking.best NotEarlier ts = some t

theorem earliest_cons (t : AwareTime) (ts : List AwareTime) : Earliest (t :: ts) (earliest t ts) := by
  have hpick : (fun m t : AwareTime => if t.instant < m.instant then t else m) =
      fun m t => if NotLater m t then m else t := by
    funext m t
    by_cases h : t.instant < m.instant
    · have hm : ¬ NotLater m t := not_le.mpr h
      rw [if_pos h, if_neg hm]
    · have hm : NotLater m t := not_lt.mp h
      rw [if_neg h, if_pos hm]
  unfold Earliest earliest
  rw [hpick]
  exact Ranking.best_eq_foldl NotLater.trans NotLater.total t ts

theorem latest_cons (t : AwareTime) (ts : List AwareTime) : Latest (t :: ts) (latest t ts) := by
  have hpick : (fun m t : AwareTime => if m.instant < t.instant then t else m) =
      fun m t => if NotEarlier m t then m else t := by
    funext m t
    by_cases h : m.instant < t.instant
    · have hm : ¬ NotEarlier m t := not_le.mpr h
      rw [if_pos h, if_neg hm]
    · have hm : NotEarlier m t := not_lt.mp h
      rw [if_neg h, if_pos hm]
  unfold Latest latest
  rw [hpick]
  exact Ranking.best_eq_foldl NotEarlier.trans NotEarlier.total t ts

theorem firstTime_earliest (b : Bucket) : Earliest (b.toList.map Row.first) (firstTime b) :=
  earliest_cons _ _

theorem lastTime_latest (b : Bucket) : Latest (b.toList.map Row.last) (lastTime b) :=
  latest_cons _ _

/-- The first time is that of a row, and no row was seen before. -/
theorem isLeast_firstTime (b : Bucket) :
    IsLeast {t | ∃ r ∈ b.toList, r.first.instant = t} (firstTime b).instant := by
  have h := firstTime_earliest b
  constructor
  · obtain ⟨r, hr, heq⟩ := List.mem_map.mp (Ranking.best_mem h)
    exact ⟨r, hr, by rw [heq]⟩
  · rintro t ⟨r, hr, rfl⟩
    exact Ranking.best_spec NotLater.trans NotLater.total h _ (List.mem_map_of_mem hr)

/-- The last time is that of a row, and no row was seen after. -/
theorem isGreatest_lastTime (b : Bucket) :
    IsGreatest {t | ∃ r ∈ b.toList, r.lastInstant = t} (lastTime b).instant := by
  have h := lastTime_latest b
  constructor
  · obtain ⟨r, hr, heq⟩ := List.mem_map.mp (Ranking.best_mem h)
    exact ⟨r, hr, by rw [Row.lastInstant, heq]⟩
  · rintro t ⟨r, hr, rfl⟩
    exact Ranking.best_spec NotEarlier.trans NotEarlier.total h _ (List.mem_map_of_mem hr)

/-! ## Stamps -/

/-- The text is the instant, in UTC. -/
def Denotes (stamp : String) (t : Int) : Prop := InTime t ∧ stamp = isoformatUtc t

/-- A local time that is stamped as UTC denotes its instant when it has no offset. -/
theorem denotes_wall_iff (t : AwareTime) :
    Denotes (isoformatUtc t.wall) t.instant ↔ t.offset = 0 := by
  unfold Denotes AwareTime.instant
  constructor
  · rintro ⟨hin, heq⟩
    have hwall := (isoformatUtc_inj t.inTime hin).mp heq
    omega
  · intro h
    rw [h, sub_zero]
    exact ⟨t.inTime, rfl⟩

section Bounds

variable (uuid5 : String → String) (fromIsoformat : String → Option AwareTime)
  (now : Nat → UtcTime)

/-- What is promised of the times of the clusters: they denote the earliest first-seen and the
latest last-seen instant of the events, and the clusters come in the order of the latter. -/
structure StampsDenote (window : Int) (events : List Dict) : Prop where
  first : ∀ b ∈ buckets window (rows fromIsoformat now events), ∃ t,
    IsLeast {t | ∃ r ∈ b.toList, r.first.instant = t} t ∧
      Denotes (makeCluster uuid5 b).firstSeenAt t
  last : ∀ b ∈ buckets window (rows fromIsoformat now events), ∃ t,
    IsGreatest {t | ∃ r ∈ b.toList, r.lastInstant = t} t ∧
      Denotes (makeCluster uuid5 b).lastSeenAt t
  order : ∃ bs : List Bucket, bs.Perm (buckets window (rows fromIsoformat now events)) ∧
    clusterFailureEvents uuid5 fromIsoformat now window events = bs.map (makeCluster uuid5) ∧
    bs.Pairwise fun b b' => ∀ r ∈ b.toList, ∃ r' ∈ b'.toList, r.lastInstant ≤ r'.lastInstant

/-- In each run of a group, the first of the earliest first-seen times and the first of the
latest last-seen times have no offset. -/
def OffsetFree (window : Int) (rows : List Row) : Prop :=
  ∀ key, ∀ run ∈ (sortRows (group key rows)).splitBy (Gaps.near Row.lastInstant (isFar window)),
    (∀ t, Earliest (run.map Row.first) t → t.offset = 0) ∧
      ∀ t, Latest (run.map Row.last) t → t.offset = 0

variable {uuid5 fromIsoformat now}

/-- The runs are the buckets. -/
theorem mem_buckets_of_run {window : Int} {rows : List Row} {key : String} {run : List Row}
    (h : run ∈ (sortRows (group key rows)).splitBy (Gaps.near Row.lastInstant (isFar window))) :
    ∃ b ∈ buckets window rows, b.toList = run := by
  have hrun := h
  rw [← toList_runs_group] at h
  obtain ⟨b, hb, rfl⟩ := List.mem_map.mp h
  refine ⟨b, List.mem_flatMap.mpr ⟨key, mem_sortedSet.mpr ?_, hb⟩, rfl⟩
  have hfirst : b.first ∈ sortRows (group key rows) := mem_of_mem_splitBy hrun List.mem_cons_self
  rw [← key_of_mem_group hfirst]
  exact List.mem_map_of_mem (List.mem_of_mem_filter ((sortRows_perm _).mem_iff.mp hfirst))

theorem offsetFree_iff {window : Int} {rows : List Row} : OffsetFree window rows ↔
    ∀ b ∈ buckets window rows, (firstTime b).offset = 0 ∧ (lastTime b).offset = 0 := by
  constructor
  · intro h b hb
    obtain ⟨key, hrun⟩ := exists_group_of_mem_buckets hb
    obtain ⟨hfirst, hlast⟩ := h key _ hrun
    exact ⟨hfirst _ (firstTime_earliest b), hlast _ (lastTime_latest b)⟩
  · intro h key run hrun
    obtain ⟨b, hb, rfl⟩ := mem_buckets_of_run hrun
    obtain ⟨hfirst, hlast⟩ := h b hb
    constructor
    · intro t ht
      rwa [← Option.some.inj ((firstTime_earliest b).symm.trans ht)]
    · intro t ht
      rwa [← Option.some.inj ((lastTime_latest b).symm.trans ht)]

/-- Rows whose times have no offset. -/
theorem offsetFree_of_utc {window : Int} {rows : List Row}
    (h : ∀ r ∈ rows, r.first.offset = 0 ∧ r.last.offset = 0) : OffsetFree window rows := by
  intro key run hrun
  have hrows : ∀ r ∈ run, r ∈ rows := fun r hr =>
    List.mem_of_mem_filter ((sortRows_perm _).mem_iff.mp (mem_of_mem_splitBy hrun hr))
  constructor
  · intro t ht
    obtain ⟨r, hr, rfl⟩ := List.mem_map.mp (Ranking.best_mem ht)
    exact (h r (hrows r hr)).1
  · intro t ht
    obtain ⟨r, hr, rfl⟩ := List.mem_map.mp (Ranking.best_mem ht)
    exact (h r (hrows r hr)).2

/-- Clusters whose last times have no offset come in the order of these. -/
theorem order_of_offsetFree {window : Int} {events : List Dict}
    (h : ∀ b ∈ buckets window (rows fromIsoformat now events), (lastTime b).offset = 0) :
    ∃ bs : List Bucket, bs.Perm (buckets window (rows fromIsoformat now events)) ∧
      clusterFailureEvents uuid5 fromIsoformat now window events = bs.map (makeCluster uuid5) ∧
      bs.Pairwise fun b b' => ∀ r ∈ b.toList, ∃ r' ∈ b'.toList, r.lastInstant ≤ r'.lastInstant := by
  let key (b : Bucket) : String ×ₗ String :=
    toLex ((makeCluster uuid5 b).lastSeenAt, (makeCluster uuid5 b).clusterId)
  have hperm := List.perm_insertionSort (fun b b' : Bucket => key b ≤ key b')
    (buckets window (rows fromIsoformat now events))
  have hsorted : ((buckets window (rows fromIsoformat now events)).insertionSort
      fun b b' => key b ≤ key b').Pairwise fun b b' => key b ≤ key b' := by
    have hkeys := List.pairwise_insertionSort (· ≤ ·)
      ((buckets window (rows fromIsoformat now events)).map key)
    rwa [← List.map_insertionSort (fun b b' => key b ≤ key b') _ key _ fun _ _ _ _ => Iff.rfl,
      List.pairwise_map] at hkeys
  refine ⟨_, hperm, (List.map_insertionSort _ _ (makeCluster uuid5) _ fun _ _ _ _ => Iff.rfl).symm,
    hsorted.imp_of_mem ?_⟩
  intro b b' hb hb' hle r hr
  have hstamps : isoformatUtc (lastTime b).wall ≤ isoformatUtc (lastTime b').wall := by
    obtain hlt | ⟨heq, -⟩ := Prod.Lex.toLex_le_toLex.mp hle
    · exact hlt.le
    · exact heq.le
  have hwalls : (lastTime b).wall ≤ (lastTime b').wall := by
    by_contra hlt
    exact absurd ((isoformatUtc_lt_iff (lastTime b').inTime (lastTime b).inTime).mpr
      (not_le.mp hlt)) (not_lt.mpr hstamps)
  obtain ⟨r', hr', heq⟩ := (isGreatest_lastTime b').1
  have hbound : r.lastInstant ≤ (lastTime b).instant := (isGreatest_lastTime b).2 ⟨r, hr, rfl⟩
  refine ⟨r', hr', ?_⟩
  rw [heq]
  unfold AwareTime.instant at hbound ⊢
  have hoffset := h b (hperm.mem_iff.mp hb)
  have hoffset' := h b' (hperm.mem_iff.mp hb')
  omega

/-- Times that are taken where the stamps denote the instants. -/
theorem offsets_of_stampsDenote {window : Int} {events : List Dict}
    (h : StampsDenote uuid5 fromIsoformat now window events) :
    ∀ b ∈ buckets window (rows fromIsoformat now events),
      (firstTime b).offset = 0 ∧ (lastTime b).offset = 0 := by
  intro b hb
  obtain ⟨first, hleast, hfirst⟩ := h.first b hb
  obtain ⟨last, hgreatest, hlast⟩ := h.last b hb
  rw [hleast.unique (isLeast_firstTime b)] at hfirst
  rw [hgreatest.unique (isGreatest_lastTime b)] at hlast
  exact ⟨(denotes_wall_iff _).mp hfirst, (denotes_wall_iff _).mp hlast⟩

/-- The stamps denote the instants exactly where the times that are taken have no offset. -/
theorem stamps_denote_iff {window : Int} {events : List Dict} :
    StampsDenote uuid5 fromIsoformat now window events ↔
      OffsetFree window (rows fromIsoformat now events) := by
  rw [offsetFree_iff]
  refine ⟨offsets_of_stampsDenote, fun h => ?_⟩
  exact {
    first := fun b hb => ⟨_, isLeast_firstTime b, (denotes_wall_iff _).mpr (h b hb).1⟩
    last := fun b hb => ⟨_, isGreatest_lastTime b, (denotes_wall_iff _).mpr (h b hb).2⟩
    order := order_of_offsetFree fun b hb => (h b hb).2 }

end Bounds

/-! ## A time with an offset -/

/-- An event that was seen at midnight in UTC, with the time of a place five hours east. -/
def eastern : List Dict :=
  [[("event_id", .str "a"), ("last_seen_at", .str "2026-01-01T05:00:00+05:00")]]

/-- `datetime.fromisoformat` of that time. -/
def readEastern (s : String) : Option AwareTime :=
  if s = "2026-01-01T05:00:00+05:00" then
    some ⟨63902840400000000, 18000000000, by decide, by decide⟩
  else none

/-- `uuid5` of the one name that the event makes. -/
def uuidEastern (_name : String) : String := "02439f1f-65d5-5c16-a1d1-a2e62b0e53c3"

/-- The cluster is stamped five hours late. -/
theorem eastern_stamped_late :
    (clusterFailureEvents uuidEastern readEastern (fun _ => ⟨0, by decide⟩) 3600 eastern).map
        (·.lastSeenAt) = ["2026-01-01T05:00:00+00:00"] ∧
      ¬ StampsDenote uuidEastern readEastern (fun _ => ⟨0, by decide⟩) 3600 eastern := by
  refine ⟨by decide +kernel, fun h => ?_⟩
  have hoffset : (buckets 3600 (rows readEastern (fun _ => ⟨0, by decide⟩) eastern)).map
      (fun b => (lastTime b).offset) = [18000000000] := by decide +kernel
  have hmem : (18000000000 : Int) ∈ (buckets 3600 (rows readEastern (fun _ => ⟨0, by decide⟩)
      eastern)).map fun b => (lastTime b).offset := by
    rw [hoffset]
    exact List.mem_singleton_self _
  obtain ⟨b, hb, heq⟩ := List.mem_map.mp hmem
  have hzero := (offsets_of_stampsDenote h b hb).2
  omega

end Incidents
