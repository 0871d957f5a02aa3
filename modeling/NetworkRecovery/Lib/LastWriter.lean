import Mathlib.Algebra.BigOperators.Group.List.Basic
import Mathlib.Data.List.Induction
import Mathlib.Data.List.Sort
import Mathlib.Order.Basic

/-!
# Logs read as maps

A log is only ever appended to, and each of its rows is a write under the key it
holds: under a key there stands the row that was written last. `scan` reads one
key in a pass over the log, `table` all of them at once, in the order in which
they first occur, and `listing` in the order of the keys. That the three are the
same map is `lookup_table` and `mem_listing_iff`.
-/

namespace LastWriter

variable {κ ρ σ : Type} [DecidableEq κ]

/-- The last row under a key. -/
def scan (key : ρ → κ) (k : κ) (rows : List ρ) : Option ρ :=
  rows.foldl (fun last row => if key row = k then some row else last) none

theorem scan_concat (key : ρ → κ) (k : κ) (rows : List ρ) (row : ρ) :
    scan key k (rows ++ [row]) = if key row = k then some row else scan key k rows := by
  unfold scan
  rw [List.foldl_append]
  rfl

/-- A row under the key is the last. -/
theorem scan_concat_self {key : ρ → κ} {k : κ} (rows : List ρ) {row : ρ} (h : key row = k) :
    scan key k (rows ++ [row]) = some row := by
  rw [scan_concat, if_pos h]

/-- A row under another key does not matter. -/
theorem scan_concat_of_ne {key : ρ → κ} {k : κ} (rows : List ρ) {row : ρ} (h : key row ≠ k) :
    scan key k (rows ++ [row]) = scan key k rows := by
  rw [scan_concat, if_neg h]

theorem scan_eq_none_iff {key : ρ → κ} {k : κ} {rows : List ρ} :
    scan key k rows = none ↔ ∀ row ∈ rows, key row ≠ k := by
  induction rows using List.reverseRecOn with
  | nil => exact ⟨fun _ row hrow => absurd hrow List.not_mem_nil, fun _ => rfl⟩
  | append_singleton rows row ih =>
    rw [scan_concat]
    split
    · next hkey =>
      constructor
      · intro h
        cases h
      · intro h
        exact absurd hkey (h row (List.mem_append_right _ (List.mem_singleton_self row)))
    · next hkey =>
      rw [ih]
      constructor
      · intro h r hr
        rcases List.mem_append.mp hr with hr | hr
        · exact h r hr
        · rwa [List.mem_singleton.mp hr]
      · intro h r hr
        exact h r (List.mem_append_left _ hr)

/-- What is found is a row of the log under the key. -/
theorem scan_some {key : ρ → κ} {k : κ} {rows : List ρ} {row : ρ} (h : scan key k rows = some row) :
    row ∈ rows ∧ key row = k := by
  induction rows using List.reverseRecOn with
  | nil => cases h
  | append_singleton rows last ih =>
    rw [scan_concat] at h
    split at h
    · next hkey =>
      cases h
      exact ⟨List.mem_append_right _ (List.mem_singleton_self _), hkey⟩
    · obtain ⟨hmem, hkey⟩ := ih h
      exact ⟨List.mem_append_left _ hmem, hkey⟩

/-- Where no key was written twice, each row is the last under its key. -/
theorem scan_of_nodup {key : ρ → κ} {rows : List ρ} {row : ρ} (h : (rows.map key).Nodup)
    (hmem : row ∈ rows) : scan key (key row) rows = some row := by
  induction rows using List.reverseRecOn with
  | nil => exact absurd hmem List.not_mem_nil
  | append_singleton rows last ih =>
    rw [List.map_append, List.nodup_append] at h
    obtain ⟨hnodup, -, hdisjoint⟩ := h
    rcases List.mem_append.mp hmem with hrow | hlast
    · rw [scan_concat_of_ne rows, ih hnodup hrow]
      intro hkey
      exact hdisjoint (key row) (List.mem_map_of_mem hrow) (key last) (List.mem_singleton_self _)
        hkey.symm
    · rw [List.mem_singleton.mp hlast]
      exact scan_concat_self rows rfl

/-- A log of the rows that some writes leave is scanned like the writes. -/
theorem scan_map (f : σ → ρ) (key : ρ → κ) (k : κ) (writes : List σ) :
    scan key k (writes.map f) = (scan (key ∘ f) k writes).map f := by
  induction writes using List.reverseRecOn with
  | nil => rfl
  | append_singleton writes w ih =>
    rw [List.map_append, List.map_singleton, scan_concat, scan_concat, ih,
      apply_ite (Option.map f)]
    rfl

/-! ## All keys at once -/

/-- `d[k] = row`: an old key keeps its place, a new one goes to the end. -/
def put : List (κ × ρ) → κ → ρ → List (κ × ρ)
  | [], k, row => [(k, row)]
  | (k', row') :: rest, k, row =>
    if k' = k then (k, row) :: rest else (k', row') :: put rest k row

/-- Every row of the log, put under its key. -/
def table (key : ρ → κ) (rows : List ρ) : List (κ × ρ) :=
  rows.foldl (fun d row => put d (key row) row) []

theorem table_concat (key : ρ → κ) (rows : List ρ) (row : ρ) :
    table key (rows ++ [row]) = put (table key rows) (key row) row := by
  unfold table
  rw [List.foldl_append]
  rfl

theorem lookup_put (d : List (κ × ρ)) (k k' : κ) (row : ρ) :
    (put d k row).lookup k' = if k = k' then some row else d.lookup k' := by
  induction d with
  | nil =>
    unfold put
    by_cases hk : k = k'
    · simp [hk]
    · have hne : (k' == k) = false := beq_eq_false_iff_ne.mpr (Ne.symm hk)
      rw [List.lookup_cons, hne, if_neg hk]
  | cons e rest ih =>
    obtain ⟨k₀, row₀⟩ := e
    unfold put
    by_cases h₀ : k₀ = k
    · subst h₀
      rw [if_pos rfl, List.lookup_cons, List.lookup_cons]
      by_cases hk : k₀ = k'
      · simp [hk]
      · have hne : (k' == k₀) = false := beq_eq_false_iff_ne.mpr (Ne.symm hk)
        rw [hne, if_neg hk]
    · rw [if_neg h₀, List.lookup_cons, List.lookup_cons, ih]
      by_cases hk : k = k'
      · subst hk
        have hne : (k == k₀) = false := beq_eq_false_iff_ne.mpr (Ne.symm h₀)
        rw [hne, if_pos rfl]
      · simp only [if_neg hk]

theorem mem_keys_put (d : List (κ × ρ)) (k k' : κ) (row : ρ) :
    k' ∈ (put d k row).map Prod.fst ↔ k' = k ∨ k' ∈ d.map Prod.fst := by
  induction d with
  | nil => simp [put]
  | cons e rest ih =>
    obtain ⟨k₀, row₀⟩ := e
    unfold put
    split
    · next h₀ => simp [h₀]
    · rw [List.map_cons, List.mem_cons, ih, List.map_cons, List.mem_cons]
      exact or_left_comm

theorem nodup_keys_put {d : List (κ × ρ)} (k : κ) (row : ρ) (h : (d.map Prod.fst).Nodup) :
    ((put d k row).map Prod.fst).Nodup := by
  induction d with
  | nil => exact List.nodup_singleton k
  | cons e rest ih =>
    obtain ⟨k₀, row₀⟩ := e
    rw [List.map_cons, List.nodup_cons] at h
    unfold put
    split
    · next h₀ =>
      subst h₀
      exact List.nodup_cons.mpr h
    · next h₀ =>
      refine List.nodup_cons.mpr ⟨?_, ih h.2⟩
      rw [mem_keys_put]
      rintro (hk | hk)
      · exact h₀ hk
      · exact h.1 hk

/-- With distinct keys, an entry is what is found under its key. -/
theorem lookup_of_mem {d : List (κ × ρ)} (hd : (d.map Prod.fst).Nodup) {e : κ × ρ} (h : e ∈ d) :
    d.lookup e.1 = some e.2 := by
  obtain ⟨front, back, rfl⟩ := List.append_of_mem h
  rw [List.map_append, List.map_cons, List.nodup_append] at hd
  refine List.lookup_eq_some_iff.mpr ⟨front, back, rfl, fun e' he' => ?_⟩
  rw [bne_iff_ne]
  exact Ne.symm (hd.2.2 _ (List.mem_map_of_mem he') _ List.mem_cons_self)

theorem mem_of_lookup {d : List (κ × ρ)} {k : κ} {row : ρ} (h : d.lookup k = some row) :
    (k, row) ∈ d := by
  obtain ⟨front, back, rfl, -⟩ := List.lookup_eq_some_iff.mp h
  exact List.mem_append_right _ List.mem_cons_self

/-- The table holds what a scan finds. -/
theorem lookup_table (key : ρ → κ) (rows : List ρ) (k : κ) :
    (table key rows).lookup k = scan key k rows := by
  induction rows using List.reverseRecOn with
  | nil => rfl
  | append_singleton rows row ih => rw [table_concat, lookup_put, scan_concat, ih]

theorem nodup_keys_table (key : ρ → κ) (rows : List ρ) : ((table key rows).map Prod.fst).Nodup := by
  induction rows using List.reverseRecOn with
  | nil => exact List.nodup_nil
  | append_singleton rows row ih =>
    rw [table_concat]
    exact nodup_keys_put _ _ ih

theorem mem_keys_table {key : ρ → κ} {rows : List ρ} {k : κ} :
    k ∈ (table key rows).map Prod.fst ↔ ∃ row ∈ rows, key row = k := by
  induction rows using List.reverseRecOn with
  | nil => simp [table]
  | append_singleton rows row ih =>
    rw [table_concat, mem_keys_put, ih]
    constructor
    · rintro (rfl | ⟨r, hr, hkey⟩)
      · exact ⟨row, List.mem_append_right _ (List.mem_singleton_self row), rfl⟩
      · exact ⟨r, List.mem_append_left _ hr, hkey⟩
    · rintro ⟨r, hr, hkey⟩
      rcases List.mem_append.mp hr with hr | hr
      · exact .inr ⟨r, hr, hkey⟩
      · rw [List.mem_singleton.mp hr] at hkey
        exact .inl hkey.symm

theorem keys_put (d : List (κ × ρ)) (k : κ) (row : ρ) : (put d k row).map Prod.fst =
    if k ∈ d.map Prod.fst then d.map Prod.fst else d.map Prod.fst ++ [k] := by
  induction d with
  | nil => rfl
  | cons e rest ih =>
    obtain ⟨k₀, row₀⟩ := e
    unfold put
    by_cases h₀ : k₀ = k
    · simp [h₀]
    · rw [if_neg h₀, List.map_cons, ih]
      by_cases hk : k ∈ rest.map Prod.fst
      · have hold : k ∈ ((k₀, row₀) :: rest).map Prod.fst := List.mem_cons_of_mem _ hk
        rw [if_pos hk, if_pos hold, List.map_cons]
      · have hfresh : k ∉ ((k₀, row₀) :: rest).map Prod.fst := by
          rw [List.map_cons, List.mem_cons, not_or]
          exact ⟨Ne.symm h₀, hk⟩
        rw [if_neg hk, if_neg hfresh, List.map_cons, List.cons_append]

/-- The keys of the table are those of the rows, in the order in which they first occur. -/
theorem keys_table (key : ρ → κ) (rows : List ρ) :
    (table key rows).map Prod.fst = (rows.map key).eraseDups := by
  induction rows using List.reverseRecOn with
  | nil => rfl
  | append_singleton rows row ih =>
    have hkeys : key row ∈ (table key rows).map Prod.fst ↔ key row ∈ rows.map key := by
      rw [mem_keys_table, List.mem_map]
    rw [table_concat, keys_put, List.map_append, List.map_singleton, List.eraseDups_append, ← ih]
    by_cases hk : key row ∈ rows.map key
    · have hgone : [key row].removeAll (rows.map key) = [] :=
        List.filter_cons_of_neg (by simpa using hk)
      rw [if_pos (hkeys.mpr hk), hgone, List.eraseDups_nil, List.append_nil]
    · have hkept : [key row].removeAll (rows.map key) = [key row] :=
        List.filter_cons_of_pos (by simpa using hk)
      rw [if_neg (mt hkeys.mp hk), hkept]
      rfl

/-- The rows of the table are the last ones under the keys. -/
theorem rows_table (key : ρ → κ) (rows : List ρ) :
    (table key rows).map Prod.snd =
      (rows.map key).eraseDups.filterMap fun k => scan key k rows := by
  have hsnd : ∀ d ⊆ table key rows,
      d.map Prod.snd = (d.map Prod.fst).filterMap fun k => scan key k rows := by
    intro d hd
    induction d with
    | nil => rfl
    | cons e d ih =>
      obtain ⟨he, hd⟩ := List.cons_subset.mp hd
      have hscan : scan key e.1 rows = some e.2 := by
        rw [← lookup_table]
        exact lookup_of_mem (nodup_keys_table key rows) he
      rw [List.map_cons, List.map_cons, List.filterMap_cons, hscan, ih hd]
  rw [← keys_table]
  exact hsnd _ (List.Subset.refl _)

/-! ## Rows that build on the last one -/

section Growth

variable {ι : Type}

/-- A log to which each input adds a row, made of the input and of the last row under its key. -/
def grow (key : ρ → κ) (keyOf : ι → κ) (merge : Option ρ → ι → ρ) (inputs : List ι) : List ρ :=
  inputs.foldl (fun rows i => rows ++ [merge (scan key (keyOf i) rows) i]) []

variable {key : ρ → κ} {keyOf : ι → κ} {merge : Option ρ → ι → ρ}

theorem grow_concat (inputs : List ι) (i : ι) : grow key keyOf merge (inputs ++ [i]) =
    grow key keyOf merge inputs ++ [merge (scan key (keyOf i) (grow key keyOf merge inputs)) i] := by
  unfold grow
  rw [List.foldl_append]
  rfl

/-- What stands under a key is built from the inputs under the key alone. -/
theorem scan_grow (hkey : ∀ last i, key (merge last i) = keyOf i) (inputs : List ι) (k : κ) :
    scan key k (grow key keyOf merge inputs) =
      (inputs.filter fun i => keyOf i = k).foldl (fun last i => some (merge last i)) none := by
  induction inputs using List.reverseRecOn with
  | nil => rfl
  | append_singleton inputs i ih =>
    rw [grow_concat, scan_concat, hkey, List.filter_append, List.foldl_append]
    by_cases hi : keyOf i = k
    · rw [if_pos hi, hi, ih]
      simp [hi]
    · rw [if_neg hi, ih]
      simp [hi]

theorem keys_grow (hkey : ∀ last i, key (merge last i) = keyOf i) (inputs : List ι) :
    (grow key keyOf merge inputs).map key = inputs.map keyOf := by
  induction inputs using List.reverseRecOn with
  | nil => rfl
  | append_singleton inputs i ih =>
    rw [grow_concat, List.map_append, ih, List.map_append, List.map_singleton, hkey,
      List.map_singleton]

end Growth

/-! ## In the order of the keys -/

section Listing

variable [LinearOrder κ]

/-- The keys in order, each with the row that stands under it. -/
def listing (key : ρ → κ) (rows : List ρ) : List (κ × ρ) :=
  (((table key rows).map Prod.fst).insertionSort (· ≤ ·)).filterMap fun k =>
    ((table key rows).lookup k).map fun row => (k, row)

/-- The keys of the listing are the sorted keys of the table: none of them is lost. -/
theorem keys_listing (key : ρ → κ) (rows : List ρ) :
    (listing key rows).map Prod.fst = ((table key rows).map Prod.fst).insertionSort (· ≤ ·) := by
  have hall : ∀ keys : List κ, (∀ k ∈ keys, k ∈ (table key rows).map Prod.fst) →
      (keys.filterMap fun k => ((table key rows).lookup k).map fun row => (k, row)).map
        Prod.fst = keys := by
    intro keys hkeys
    induction keys with
    | nil => rfl
    | cons k keys ih =>
      obtain ⟨hk, hkeys⟩ := List.forall_mem_cons.mp hkeys
      obtain ⟨row, hrow, hkey⟩ := mem_keys_table.mp hk
      cases hlookup : (table key rows).lookup k with
      | none =>
        rw [lookup_table] at hlookup
        exact absurd hkey (scan_eq_none_iff.mp hlookup row hrow)
      | some r =>
        rw [List.filterMap_cons, hlookup, Option.map_some, List.map_cons, ih hkeys]
  apply hall
  intro k hk
  exact (List.perm_insertionSort _ _).mem_iff.mp hk

/-- Each key stands once, after the smaller ones. -/
theorem listing_sorted (key : ρ → κ) (rows : List ρ) :
    ((listing key rows).map Prod.fst).Pairwise (· < ·) := by
  rw [keys_listing]
  have hsorted := List.pairwise_insertionSort (· ≤ ·) ((table key rows).map Prod.fst)
  have hnodup := (List.perm_insertionSort (· ≤ ·) ((table key rows).map Prod.fst)).nodup_iff.mpr
    (nodup_keys_table key rows)
  exact (hsorted.and hnodup).imp fun h => lt_of_le_of_ne h.1 h.2

/-- A key is listed with the row that a scan finds. -/
theorem mem_listing_iff {key : ρ → κ} {rows : List ρ} {k : κ} {row : ρ} :
    (k, row) ∈ listing key rows ↔ scan key k rows = some row := by
  unfold listing
  rw [List.mem_filterMap]
  constructor
  · rintro ⟨k', -, hk'⟩
    obtain ⟨r, hr, heq⟩ := Option.map_eq_some_iff.mp hk'
    cases heq
    rwa [lookup_table] at hr
  · intro h
    obtain ⟨hmem, hkey⟩ := scan_some h
    refine ⟨k, ?_, ?_⟩
    · exact (List.perm_insertionSort _ _).mem_iff.mpr (mem_keys_table.mpr ⟨row, hmem, hkey⟩)
    · rw [lookup_table, h]
      rfl

/-- A key is listed when some row has it. -/
theorem mem_keys_listing_iff {key : ρ → κ} {rows : List ρ} {k : κ} :
    k ∈ (listing key rows).map Prod.fst ↔ ∃ row ∈ rows, key row = k := by
  rw [keys_listing, (List.perm_insertionSort _ _).mem_iff]
  exact mem_keys_table

end Listing

/-! ## Sums

What the rows of a map add up to, when a row is a number. -/

section Sums

variable {M : Type} [AddCommMonoid M]

/-- What the numbers of a map add up to. -/
def total (d : List (κ × M)) : M := (d.map Prod.snd).sum

/-- Writes into a map, one after the other. -/
def puts (d writes : List (κ × M)) : List (κ × M) := writes.foldl (fun d w => put d w.1 w.2) d

/-- The writes that no later one replaces. -/
def lasting : List (κ × M) → List (κ × M)
  | [] => []
  | w :: writes => if w.1 ∈ writes.map Prod.fst then lasting writes else w :: lasting writes

/-- The writes that a later one replaces. -/
def replaced : List (κ × M) → List (κ × M)
  | [] => []
  | w :: writes => if w.1 ∈ writes.map Prod.fst then w :: replaced writes else replaced writes

omit [DecidableEq κ] in
theorem total_append (d d' : List (κ × M)) : total (d ++ d') = total d + total d' := by
  unfold total
  rw [List.map_append, List.sum_append]

omit [AddCommMonoid M] in
theorem puts_append (d writes more : List (κ × M)) :
    puts d (writes ++ more) = puts (puts d writes) more := List.foldl_append

theorem total_lasting_add_replaced (writes : List (κ × M)) :
    total (lasting writes) + total (replaced writes) = total writes := by
  induction writes with
  | nil => exact add_zero _
  | cons w writes ih =>
    have hcons : ∀ l : List (κ × M), total (w :: l) = w.2 + total l := fun l => List.sum_cons
    unfold lasting replaced
    by_cases hlater : w.1 ∈ writes.map Prod.fst
    · rw [if_pos hlater, if_pos hlater, hcons, hcons, ← ih]
      exact add_left_comm _ _ _
    · rw [if_neg hlater, if_neg hlater, hcons, hcons, ← ih]
      exact add_assoc _ _ _

/-- A write takes the place of the number under its key. -/
theorem total_filter_put (p : κ → Bool) {d : List (κ × M)} (k : κ) (v : M)
    (h : (d.map Prod.fst).Nodup) :
    total ((put d k v).filter fun e => p e.1) =
      total (d.filter fun e => p e.1 && e.1 != k) + if p k then v else 0 := by
  induction d with
  | nil => cases hk : p k <;> simp [put, total, hk]
  | cons e rest ih =>
    obtain ⟨k₀, v₀⟩ := e
    obtain ⟨hfresh, hnodup⟩ := List.nodup_cons.mp h
    unfold put
    by_cases h₀ : k₀ = k
    · subst h₀
      have hrest : (rest.filter fun e => p e.1 && e.1 != k₀) = rest.filter fun e => p e.1 := by
        apply List.filter_congr
        intro e he
        have hne : e.1 ≠ k₀ := fun heq => hfresh (List.mem_map.mpr ⟨e, he, heq⟩)
        simp [hne]
      rw [if_pos rfl, List.filter_cons, List.filter_cons, hrest]
      cases hk : p k₀ with
      | false => simp
      | true => simp [total, add_comm]
    · have hne : (k₀ != k) = true := by simpa using h₀
      rw [if_neg h₀, List.filter_cons, List.filter_cons, hne, Bool.and_true]
      cases hk : p k₀ with
      | false =>
        rw [if_neg Bool.false_ne_true, if_neg Bool.false_ne_true]
        exact ih hnodup
      | true =>
        have hcons : ∀ l : List (κ × M), total ((k₀, v₀) :: l) = v₀ + total l :=
          fun l => List.sum_cons
        rw [if_pos rfl, if_pos rfl, hcons, hcons, ih hnodup, add_assoc]

/-- After some writes, what stands under no key of theirs is left, and with it the last write under
each key. -/
theorem total_puts (writes : List (κ × M)) {d : List (κ × M)} (h : (d.map Prod.fst).Nodup) :
    total (puts d writes) =
      total (d.filter fun e => !(writes.map Prod.fst).contains e.1) + total (lasting writes) := by
  induction writes generalizing d with
  | nil =>
    have hall : (d.filter fun e => !(([] : List (κ × M)).map Prod.fst).contains e.1) = d := by
      simp
    rw [hall]
    exact (add_zero _).symm
  | cons w writes ih =>
    have hkeys : (d.filter fun e => !(writes.map Prod.fst).contains e.1 && e.1 != w.1) =
        d.filter fun e => !((w :: writes).map Prod.fst).contains e.1 := by
      apply List.filter_congr
      intro e he
      rw [List.map_cons, List.contains_cons, Bool.not_or, Bool.and_comm]
      rfl
    have hputs : puts d (w :: writes) = puts (put d w.1 w.2) writes := rfl
    rw [hputs, ih (nodup_keys_put _ _ h),
      total_filter_put (fun k => !(writes.map Prod.fst).contains k) _ _ h, hkeys, add_assoc]
    congr 1
    rw [lasting]
    by_cases hlater : w.1 ∈ writes.map Prod.fst
    · rw [if_pos hlater, if_neg (by simpa using hlater), zero_add]
    · rw [if_neg hlater, if_pos (by simpa using hlater)]
      exact List.sum_cons.symm

omit [AddCommMonoid M] in
/-- Writes under other keys replace nothing. -/
theorem lasting_append {writes more : List (κ × M)}
    (h : ∀ w ∈ writes, w.1 ∉ more.map Prod.fst) :
    lasting (writes ++ more) = lasting writes ++ lasting more := by
  induction writes with
  | nil => rfl
  | cons w writes ih =>
    have hrest := ih fun w' hw' => h w' (List.mem_cons_of_mem _ hw')
    have hkeys : w.1 ∈ (writes ++ more).map Prod.fst ↔ w.1 ∈ writes.map Prod.fst := by
      rw [List.map_append, List.mem_append]
      exact or_iff_left (h w List.mem_cons_self)
    rw [List.cons_append, lasting, lasting, hrest]
    by_cases hlater : w.1 ∈ writes.map Prod.fst
    · rw [if_pos (hkeys.mpr hlater), if_pos hlater]
    · rw [if_neg (mt hkeys.mp hlater), if_neg hlater, List.cons_append]

omit [AddCommMonoid M] in
/-- Where no key is written twice, every write lasts. -/
theorem lasting_of_nodup {writes : List (κ × M)} (h : (writes.map Prod.fst).Nodup) :
    lasting writes = writes := by
  induction writes with
  | nil => rfl
  | cons w writes ih =>
    obtain ⟨hfresh, hnodup⟩ := List.nodup_cons.mp h
    rw [lasting, if_neg hfresh, ih hnodup]

/-- A write under a key of its own adds what it writes. -/
theorem total_lasting_insert {front back : List (κ × M)} {w : κ × M}
    (h : ∀ e ∈ front ++ back, e.1 ≠ w.1) :
    total (lasting (front ++ w :: back)) = w.2 + total (lasting (front ++ back)) := by
  have hcons : ∀ (e : κ × M) (l : List (κ × M)), total (e :: l) = e.2 + total l :=
    fun e l => List.sum_cons
  induction front with
  | nil =>
    have hlater : w.1 ∉ back.map Prod.fst := by
      intro hmem
      obtain ⟨e, he, hkey⟩ := List.mem_map.mp hmem
      exact h e he hkey
    rw [List.nil_append, List.nil_append, lasting, if_neg hlater, hcons]
  | cons e front ih =>
    have hrest := ih fun e' he' => h e' (List.mem_cons_of_mem _ he')
    have hne : e.1 ≠ w.1 := h e List.mem_cons_self
    have hkeys : e.1 ∈ (front ++ w :: back).map Prod.fst ↔ e.1 ∈ (front ++ back).map Prod.fst := by
      simp [hne]
    rw [List.cons_append, List.cons_append, lasting, lasting]
    by_cases hlater : e.1 ∈ (front ++ back).map Prod.fst
    · rw [if_pos (hkeys.mpr hlater), if_pos hlater, hrest]
    · rw [if_neg (mt hkeys.mp hlater), if_neg hlater, hcons, hcons, hrest, add_left_comm]

end Sums

end LastWriter
