import Mathlib.Data.List.Dedup
import Mathlib.Data.List.Induction
import NetworkRecovery.Lib.LastWriter
import NetworkRecovery.Lib.Ranking

/-!
# Groups of rows, and the latest of a group

A loop files each row under its key (`groups`), the groups are gone through in the order of
their keys (`sortedGroups`), and in a group one row counts, the last of a stable sort by time
(`latest`).

Under a key there are the rows of that key, in their order (`sortedGroups_eq`). With distinct
times the order of the rows does not show in the latest one (`latest_perm`), and a row that is
older than another one is never it (`latest_insert_older`).
-/

namespace Grouping

open LastWriter (put lookup_put mem_keys_put nodup_keys_put lookup_of_mem)

/-! ## Groups -/

section Groups

variable {κ ρ : Type} [DecidableEq κ]

/-- `groups.setdefault(k, []).append(row)`: a new key goes to the end. -/
def file (d : List (κ × List ρ)) (k : κ) (row : ρ) : List (κ × List ρ) :=
  put d k ((d.lookup k).getD [] ++ [row])

/-- Every row, filed under its key. -/
def groups (key : ρ → κ) (rows : List ρ) : List (κ × List ρ) :=
  rows.foldl (fun d row => file d (key row) row) []

/-- The rows of a key. -/
def group (key : ρ → κ) (k : κ) (rows : List ρ) : List ρ := rows.filter fun row => key row = k

theorem mem_group {key : ρ → κ} {k : κ} {rows : List ρ} {row : ρ} :
    row ∈ group key k rows ↔ row ∈ rows ∧ key row = k := by
  rw [group, List.mem_filter, decide_eq_true_iff]

theorem group_append (key : ρ → κ) (k : κ) (rows rows' : List ρ) :
    group key k (rows ++ rows') = group key k rows ++ group key k rows' :=
  List.filter_append _ _

/-- A row stands in the group of its key, where it stood. -/
theorem group_insert_self {key : ρ → κ} {k : κ} {row : ρ} (h : key row = k) (front back : List ρ) :
    group key k (front ++ row :: back) = group key k front ++ row :: group key k back := by
  rw [group_append]
  exact congrArg _ (List.filter_cons_of_pos (decide_eq_true h))

/-- A row does not show in the groups of other keys. -/
theorem group_insert_of_ne {key : ρ → κ} {k : κ} {row : ρ} (h : key row ≠ k) (front back : List ρ) :
    group key k (front ++ row :: back) = group key k (front ++ back) := by
  rw [group_append, group_append]
  exact congrArg _ (List.filter_cons_of_neg (mt of_decide_eq_true h))

theorem groups_concat (key : ρ → κ) (rows : List ρ) (row : ρ) :
    groups key (rows ++ [row]) = file (groups key rows) (key row) row := by
  unfold groups
  rw [List.foldl_append]
  rfl

theorem mem_keys_groups {key : ρ → κ} {rows : List ρ} {k : κ} :
    k ∈ (groups key rows).map Prod.fst ↔ k ∈ rows.map key := by
  induction rows using List.reverseRecOn with
  | nil => rfl
  | append_singleton rows row ih =>
    rw [groups_concat, file, mem_keys_put, ih, List.map_append, List.mem_append, or_comm]
    exact or_congr Iff.rfl List.mem_singleton.symm

theorem nodup_keys_groups (key : ρ → κ) (rows : List ρ) :
    ((groups key rows).map Prod.fst).Nodup := by
  induction rows using List.reverseRecOn with
  | nil => exact List.nodup_nil
  | append_singleton rows row ih =>
    rw [groups_concat]
    exact nodup_keys_put _ _ ih

/-- Under a key there are its rows. -/
theorem lookup_groups (key : ρ → κ) (rows : List ρ) (k : κ) :
    ((groups key rows).lookup k).getD [] = group key k rows := by
  induction rows using List.reverseRecOn with
  | nil => rfl
  | append_singleton rows row ih =>
    rw [groups_concat, file, lookup_put]
    split
    · next h =>
      subst h
      rw [group_insert_self rfl, Option.getD_some, ih]
      rfl
    · next h => rw [group_insert_of_ne h, List.append_nil, ih]

theorem eq_group_of_mem_groups {key : ρ → κ} {rows : List ρ} {e : κ × List ρ}
    (h : e ∈ groups key rows) : e.2 = group key e.1 rows := by
  rw [← lookup_groups, lookup_of_mem (nodup_keys_groups key rows) h, Option.getD_some]

end Groups

/-! ## In the order of the keys -/

section Sorted

variable {κ ρ : Type} [LinearOrder κ]

/-- The keys that occur, in order. -/
def sortedKeys (key : ρ → κ) (rows : List ρ) : List κ := (rows.map key).dedup.insertionSort (· ≤ ·)

/-- The groups in the order of their keys. -/
def sortedGroups (key : ρ → κ) (rows : List ρ) : List (κ × List ρ) :=
  (groups key rows).insertionSort fun e e' => e.1 ≤ e'.1

theorem mem_sortedKeys {key : ρ → κ} {rows : List ρ} {k : κ} :
    k ∈ sortedKeys key rows ↔ k ∈ rows.map key := by
  rw [sortedKeys, List.mem_insertionSort, List.mem_dedup]

theorem nodup_sortedKeys (key : ρ → κ) (rows : List ρ) : (sortedKeys key rows).Nodup :=
  (List.perm_insertionSort _ _).nodup_iff.mpr (List.nodup_dedup _)

/-- The keys of lists with the same keys. -/
theorem sortedKeys_congr {key : ρ → κ} {rows rows' : List ρ}
    (h : ∀ k, k ∈ rows.map key ↔ k ∈ rows'.map key) : sortedKeys key rows = sortedKeys key rows' := by
  have hperm : (sortedKeys key rows).Perm (sortedKeys key rows') := by
    refine (List.perm_ext_iff_of_nodup (nodup_sortedKeys key rows) (nodup_sortedKeys key rows')).mpr ?_
    intro k
    rw [mem_sortedKeys, mem_sortedKeys, h]
  exact hperm.eq_of_pairwise' (List.pairwise_insertionSort _ _) (List.pairwise_insertionSort _ _)

/-- Each key stands once, in order, with its rows. -/
theorem sortedGroups_eq (key : ρ → κ) (rows : List ρ) :
    sortedGroups key rows = (sortedKeys key rows).map fun k => (k, group key k rows) := by
  have hkeys : ((groups key rows).map Prod.fst).insertionSort (· ≤ ·) = sortedKeys key rows := by
    have hperm : (((groups key rows).map Prod.fst).insertionSort (· ≤ ·)).Perm
        (sortedKeys key rows) := by
      refine (List.perm_insertionSort _ _).trans ((List.perm_ext_iff_of_nodup
        (nodup_keys_groups key rows) (nodup_sortedKeys key rows)).mpr fun k => ?_)
      rw [mem_sortedKeys, mem_keys_groups]
    exact hperm.eq_of_pairwise' (List.pairwise_insertionSort _ _) (List.pairwise_insertionSort _ _)
  have hfst : (sortedGroups key rows).map Prod.fst = sortedKeys key rows := by
    rw [← hkeys]
    exact List.map_insertionSort _ _ Prod.fst _ fun _ _ _ _ => Iff.rfl
  have hrows : ∀ e ∈ sortedGroups key rows, e = (e.1, group key e.1 rows) := by
    intro e he
    have hmem := (List.mem_insertionSort _).mp he
    exact Prod.ext rfl (eq_group_of_mem_groups hmem)
  calc sortedGroups key rows
      = (sortedGroups key rows).map id := (List.map_id _).symm
    _ = (sortedGroups key rows).map fun e => (e.1, group key e.1 rows) := List.map_congr_left hrows
    _ = (sortedKeys key rows).map fun k => (k, group key k rows) := by
      rw [← hfst, List.map_map]
      rfl

end Sorted

/-! ## The latest row -/

section Latest

variable {τ ρ : Type} [LinearOrder τ] (time : ρ → τ)

/-- `sorted(rows, key=time)[-1]`. -/
def latest (rows : List ρ) : Option ρ :=
  (rows.insertionSort fun a b => time a ≤ time b).getLast?

/-- A row against the latest of those that follow it: a tie is lost. -/
theorem getLast?_orderedInsert (a : ρ) {sorted : List ρ}
    (h : sorted.Pairwise fun x y => time x ≤ time y) :
    (sorted.orderedInsert (fun x y => time x ≤ time y) a).getLast? =
      match sorted.getLast? with
      | none => some a
      | some b => some (if time b < time a then a else b) := by
  induction sorted with
  | nil => rfl
  | cons c sorted ih =>
    obtain ⟨hc, hsorted⟩ := List.pairwise_cons.mp h
    rw [List.orderedInsert, List.getLast?_cons]
    split
    · next hac =>
      have hlate : time a ≤ time (sorted.getLast?.getD c) := by
        cases hlast : sorted.getLast? with
        | none => exact hac
        | some b => exact hac.trans (hc b (List.mem_of_getLast? hlast))
      rw [List.getLast?_cons, List.getLast?_cons, Option.getD_some]
      exact congrArg some (if_neg (not_lt.mpr hlate)).symm
    · next hac =>
      rw [List.getLast?_cons, ih hsorted]
      cases hlast : sorted.getLast? with
      | none => exact congrArg some (if_pos (not_le.mp hac)).symm
      | some b => rfl

theorem latest_cons (a : ρ) (rows : List ρ) :
    latest time (a :: rows) =
      match latest time rows with
      | none => some a
      | some b => some (if time b < time a then a else b) := by
  have : IsTrans ρ fun a b => time a ≤ time b := ⟨fun _ _ _ => le_trans⟩
  have : Std.Total fun a b : ρ => time a ≤ time b := ⟨fun a b => le_total (time a) (time b)⟩
  rw [latest, List.insertionSort_cons]
  exact getLast?_orderedInsert time a (List.pairwise_insertionSort _ rows)

theorem latest_eq_none_iff {rows : List ρ} : latest time rows = none ↔ rows = [] := by
  rw [latest, List.getLast?_eq_none_iff, ← List.length_eq_zero_iff, List.length_insertionSort,
    List.length_eq_zero_iff]

theorem mem_of_latest {rows : List ρ} {m : ρ} (h : latest time rows = some m) : m ∈ rows :=
  (List.mem_insertionSort _).mp (List.mem_of_getLast? h)

theorem exists_latest {rows : List ρ} (h : rows ≠ []) : ∃ m, latest time rows = some m :=
  Option.ne_none_iff_exists'.mp (mt (latest_eq_none_iff time).mp h)

/-- With distinct times the order of the rows does not matter. -/
theorem latest_perm {rows rows' : List ρ} (hperm : rows.Perm rows') (h : (rows.map time).Nodup) :
    latest time rows = latest time rows' :=
  congrArg List.getLast? (Ranking.insertionSort_congr_perm hperm h)

/-- The latest row: none before it is later, and those after it are older. -/
theorem latest_eq_some_iff {rows : List ρ} {m : ρ} :
    latest time rows = some m ↔ ∃ front back, rows = front ++ m :: back ∧
      (∀ a ∈ front, time a ≤ time m) ∧ ∀ b ∈ back, time b < time m := by
  constructor
  · intro h
    induction rows generalizing m with
    | nil => cases h
    | cons a rows ih =>
      rw [latest_cons] at h
      cases hlast : latest time rows with
      | none =>
        rw [hlast] at h
        obtain rfl := Option.some.inj h
        obtain rfl := (latest_eq_none_iff time).mp hlast
        exact ⟨[], [], rfl, List.forall_mem_nil _, List.forall_mem_nil _⟩
      | some b =>
        rw [hlast] at h
        obtain ⟨front, back, rfl, hfront, hback⟩ := ih hlast
        have hm := Option.some.inj h
        split at hm
        · next hba =>
          subst hm
          refine ⟨[], _, rfl, List.forall_mem_nil _, ?_⟩
          rw [List.forall_mem_append, List.forall_mem_cons]
          exact ⟨fun x hx => (hfront x hx).trans_lt hba, hba, fun x hx => (hback x hx).trans hba⟩
        · next hba =>
          subst hm
          exact ⟨a :: front, back, rfl, List.forall_mem_cons.mpr ⟨not_lt.mp hba, hfront⟩, hback⟩
  · rintro ⟨front, back, rfl, hfront, hback⟩
    induction front with
    | nil =>
      rw [List.nil_append, latest_cons]
      cases hlast : latest time back with
      | none => rfl
      | some b => exact congrArg some (if_pos (hback b (mem_of_latest time hlast)))
    | cons a front ih =>
      obtain ⟨ha, hfront⟩ := List.forall_mem_cons.mp hfront
      rw [List.cons_append, latest_cons, ih hfront]
      exact congrArg some (if_neg (not_lt.mpr ha))

theorem le_of_latest {rows : List ρ} {m : ρ} (h : latest time rows = some m) :
    ∀ a ∈ rows, time a ≤ time m := by
  obtain ⟨front, back, rfl, hfront, hback⟩ := (latest_eq_some_iff time).mp h
  rw [List.forall_mem_append, List.forall_mem_cons]
  exact ⟨hfront, le_rfl, fun b hb => (hback b hb).le⟩

/-- A row that is older than another one is never the latest. -/
theorem latest_insert_older {front back : List ρ} {x y : ρ} (hy : y ∈ front ++ back)
    (hlt : time x < time y) :
    latest time (front ++ x :: back) = latest time (front ++ back) := by
  obtain ⟨m, hm⟩ := exists_latest time (List.ne_nil_of_mem hy)
  rw [hm, latest_eq_some_iff]
  have hxm : time x < time m := hlt.trans_le (le_of_latest time hm y hy)
  obtain ⟨early, late, hsplit, hearly, hlate⟩ := (latest_eq_some_iff time).mp hm
  rcases List.append_eq_append_iff.mp hsplit with ⟨more, rfl, hback⟩ | ⟨more, rfl, hlater⟩
  · refine ⟨front ++ x :: more, late, ?_, ?_, hlate⟩
    · rw [hback, List.append_assoc, List.cons_append]
    · rw [List.forall_mem_append] at hearly ⊢
      exact ⟨hearly.1, List.forall_mem_cons.mpr ⟨hxm.le, hearly.2⟩⟩
  · cases more with
    | nil =>
      rw [List.nil_append] at hlater
      refine ⟨early ++ [x], late, ?_, ?_, hlate⟩
      · rw [← hlater, List.append_nil, List.append_assoc, List.singleton_append]
      · rw [List.forall_mem_append, List.forall_mem_singleton]
        exact ⟨hearly, hxm.le⟩
    | cons m' more =>
      rw [List.cons_append, List.cons.injEq] at hlater
      obtain ⟨rfl, rfl⟩ := hlater
      refine ⟨early, more ++ x :: back, ?_, hearly, ?_⟩
      · rw [List.append_assoc, List.cons_append]
      · rw [List.forall_mem_append] at hlate
        exact List.forall_mem_append.mpr ⟨hlate.1, List.forall_mem_cons.mpr ⟨hxm, hlate.2⟩⟩

end Latest

end Grouping
