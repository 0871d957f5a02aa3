import Mathlib.Data.List.Pairwise
import Mathlib.Data.List.Sort
import Mathlib.Order.Lattice

/-!
# Pages of an ordered list

A listing orders its rows and hands them out page by page. The pages in order
make up the list (`flatMap_page`), and there are more exactly when the page ends
before the list does (`page_more_iff`).

Rows come latest first, and rows of one time either by the greater or by the
smaller id. The two orders give the same list exactly when no two rows have one
time (`latestFirst_eq_iff`), also where the one reads the time in another form.
-/

namespace Paging

/-! ## Pages -/

section Pages

variable {α : Type} (l : List α)

/-- The page of a number, from one on. -/
def page (number size : Nat) : List α := (l.drop ((number - 1) * size)).take size

/-- The first pages, in order. -/
theorem flatMap_page (size n : Nat) :
    ((List.range n).flatMap fun k => page l (k + 1) size) = l.take (n * size) := by
  induction n with
  | zero => simp
  | succ n ih =>
    rw [List.range_succ, List.flatMap_append, ih, List.flatMap_singleton, page, Nat.add_sub_cancel,
      Nat.succ_mul, List.take_add]

/-- All of them. -/
theorem flatMap_page_all {size n : Nat} (h : l.length ≤ n * size) :
    ((List.range n).flatMap fun k => page l (k + 1) size) = l := by
  rw [flatMap_page, List.take_of_length_le h]

theorem length_page (number size : Nat) :
    (page l number size).length = min size (l.length - (number - 1) * size) := by
  rw [page, List.length_take, List.length_drop]

/-- What stands on the page and what stands before it is not yet everything, or
the list goes on behind the page. -/
theorem page_more_iff (number size : Nat) :
    (number - 1) * size + (page l number size).length < l.length ↔
      (number - 1) * size + size < l.length := by
  rw [length_page]
  omega

/-- The first page of a list that fits on it. -/
theorem page_one_of_le {size : Nat} (h : l.length ≤ size) : page l 1 size = l := by
  rw [page, Nat.sub_self, Nat.zero_mul, List.drop_zero, List.take_of_length_le h]

end Pages

/-! ## The latest first -/

section Orders

variable {α τ ι : Type} [LinearOrder τ] [LinearOrder ι] (time : α → τ) (id : α → ι)

/-- A pair of time and id, compared as a pair. -/
def LaterPair (a b : α) : Prop := time b < time a ∨ time b = time a ∧ id b ≤ id a

/-- The later row, and of one time the smaller id. -/
def LaterThenId (a b : α) : Prop := time b < time a ∨ time b = time a ∧ id a ≤ id b

instance (a b : α) : Decidable (LaterPair time id a b) := inferInstanceAs (Decidable (_ ∨ _))

instance (a b : α) : Decidable (LaterThenId time id a b) := inferInstanceAs (Decidable (_ ∨ _))

/-- `rows.sort(key=lambda r: (time, id), reverse=True)`. -/
def latestPairFirst (l : List α) : List α := l.mergeSort fun a b => LaterPair time id a b

/-- `ORDER BY time DESC, id ASC`. -/
def latestFirst (l : List α) : List α := l.mergeSort fun a b => LaterThenId time id a b

variable {time id}

theorem laterPair_trans (a b c : α) (hab : LaterPair time id a b) (hbc : LaterPair time id b c) :
    LaterPair time id a c := by
  rcases hab with hab | ⟨hab, hid⟩
  · rcases hbc with hbc | ⟨hbc, -⟩
    · exact .inl (hbc.trans hab)
    · exact .inl (hbc.trans_lt hab)
  · rcases hbc with hbc | ⟨hbc, hid'⟩
    · exact .inl (hbc.trans_eq hab)
    · exact .inr ⟨hbc.trans hab, hid'.trans hid⟩

theorem laterPair_total (a b : α) : LaterPair time id a b ∨ LaterPair time id b a := by
  rcases lt_trichotomy (time a) (time b) with h | h | h
  · exact .inr (.inl h)
  · exact (le_total (id b) (id a)).imp (fun hid => .inr ⟨h.symm, hid⟩) fun hid => .inr ⟨h, hid⟩
  · exact .inl (.inl h)

theorem laterThenId_antisymm {a b : α} (hab : LaterThenId time id a b)
    (hba : LaterThenId time id b a) : id a = id b := by
  rcases hab with hab | ⟨htime, hab⟩
  · rcases hba with hba | ⟨htime, -⟩
    · exact absurd hab (lt_asymm hba)
    · exact absurd htime hab.ne'
  · rcases hba with hba | ⟨-, hba⟩
    · exact absurd htime hba.ne'
    · exact le_antisymm hab hba

theorem latestPairFirst_perm (l : List α) : (latestPairFirst time id l).Perm l :=
  List.mergeSort_perm _ _

theorem latestFirst_perm (l : List α) : (latestFirst time id l).Perm l := List.mergeSort_perm _ _

theorem map_latestPairFirst {β : Type} (f : β → α) (l : List β) :
    (latestPairFirst (fun b => time (f b)) (fun b => id (f b)) l).map f =
      latestPairFirst time id (l.map f) := by
  unfold latestPairFirst
  exact List.map_mergeSort fun a _ b _ => rfl

theorem map_latestFirst {β : Type} (f : β → α) (l : List β) :
    (latestFirst (fun b => time (f b)) (fun b => id (f b)) l).map f =
      latestFirst time id (l.map f) := by
  unfold latestFirst
  exact List.map_mergeSort fun a _ b _ => rfl

theorem latestPairFirst_pairwise (l : List α) :
    (latestPairFirst time id l).Pairwise (LaterPair time id) := by
  have hsorted : (latestPairFirst time id l).Pairwise fun a b =>
      decide (LaterPair time id a b) = true := by
    apply List.pairwise_mergeSort
    · intro a b c hab hbc
      rw [decide_eq_true_iff] at hab hbc ⊢
      exact laterPair_trans a b c hab hbc
    · intro a b
      rw [Bool.or_eq_true, decide_eq_true_iff, decide_eq_true_iff]
      exact laterPair_total a b
  exact hsorted.imp fun h => of_decide_eq_true h

theorem latestFirst_pairwise (l : List α) :
    (latestFirst time id l).Pairwise (LaterThenId time id) := by
  have hdual : (latestPairFirst time (fun x => OrderDual.toDual (id x)) l).Pairwise
      (LaterPair time fun x => OrderDual.toDual (id x)) := latestPairFirst_pairwise l
  exact hdual

/-- Where all times differ, the ids do not matter; where two agree, the two orders
put them the other way around. -/
theorem latestFirst_eq_iff {τ' : Type} [LinearOrder τ'] {time' : α → τ'} {l : List α}
    (hids : ∀ a ∈ l, ∀ b ∈ l, id a = id b → a = b)
    (htimes : ∀ a ∈ l, ∀ b ∈ l, time a ≤ time b ↔ time' a ≤ time' b) :
    latestPairFirst time id l = latestFirst time' id l ↔
      ∀ a ∈ l, ∀ b ∈ l, time a = time b → a = b := by
  have heq : ∀ a ∈ l, ∀ b ∈ l, time a = time b ↔ time' a = time' b := by
    intro a ha b hb
    rw [le_antisymm_iff, le_antisymm_iff, htimes a ha b hb, htimes b hb a ha]
  have hmem : ∀ {a}, a ∈ latestPairFirst time id l → a ∈ l := fun h =>
    (latestPairFirst_perm l).mem_iff.mp h
  constructor
  · intro h a ha b hb htime
    have hpair : (latestPairFirst time id l).Pairwise (LaterPair time id) :=
      latestPairFirst_pairwise l
    have hthen : (latestPairFirst time id l).Pairwise (LaterThenId time' id) := by
      rw [h]
      exact latestFirst_pairwise l
    -- In both orders: of one time, and neither id is smaller.
    have hboth : (latestPairFirst time id l).Pairwise fun a b => time a = time b → a = b := by
      refine (hpair.and hthen).imp_of_mem fun {a b} ha hb hab htime => ?_
      have hid : id b ≤ id a := (hab.1.resolve_left fun hlt => hlt.ne' htime).2
      have hid' : id a ≤ id b := (hab.2.resolve_left fun hlt =>
        hlt.ne' ((heq a (hmem ha) b (hmem hb)).mp htime)).2
      exact hids a (hmem ha) b (hmem hb) (le_antisymm hid' hid)
    have hsymm : Std.Symm fun a b : α => time a = time b → a = b :=
      ⟨fun a b hab htime => (hab htime.symm).symm⟩
    exact hboth.forall_of_forall (fun _ _ _ => rfl) ((latestPairFirst_perm l).mem_iff.mpr ha)
      ((latestPairFirst_perm l).mem_iff.mpr hb) htime
  · intro hapart
    refine List.Perm.eq_of_pairwise ?_ ?_ (latestFirst_pairwise l)
      ((latestPairFirst_perm l).trans (latestFirst_perm l).symm)
    · intro a b ha hb hab hba
      have hbl : b ∈ l := (latestFirst_perm l).mem_iff.mp hb
      exact hids a (hmem ha) b hbl (laterThenId_antisymm hab hba)
    · have hpair : (latestPairFirst time id l).Pairwise (LaterPair time id) :=
        latestPairFirst_pairwise l
      refine hpair.imp_of_mem fun {a b} ha hb hab => ?_
      rcases hab with hlt | ⟨htime, -⟩
      · refine .inl (lt_of_not_ge fun hle => ?_)
        exact absurd ((htimes a (hmem ha) b (hmem hb)).mpr hle) (not_le_of_gt hlt)
      · obtain rfl := hapart a (hmem ha) b (hmem hb) htime.symm
        exact .inr ⟨rfl, le_refl _⟩

end Orders

end Paging
