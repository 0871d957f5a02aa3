import Mathlib.Data.List.SplitBy
import Mathlib.Order.Lattice

/-!
# Runs without gaps

Events in the order of their times are cut into runs, greedily: an event that is far from the
LATEST of the run before it opens the next run. In that order the latest is the last, so the
runs are those of `List.splitBy`, and it is enough to look at two events that follow each other
(`toList_runs`). What is cut is apart event by event (`splitBy_separated`).
-/

namespace Gaps

variable {α β τ : Type}

/-- A run that has been opened. -/
structure Run (α : Type) where
  first : α
  rest : List α

def Run.toList (run : Run α) : List α := run.first :: run.rest

/-- One event more. -/
def Run.add (run : Run α) (x : α) : Run α := ⟨run.first, run.rest ++ [x]⟩

@[simp] theorem Run.toList_add (run : Run α) (x : α) : (run.add x).toList = run.toList ++ [x] := rfl

theorem Run.toList_ne_nil (run : Run α) : run.toList ≠ [] := List.cons_ne_nil _ _

section Loop

variable [LinearOrder τ] (time : α → τ) (far : τ → τ → Bool)

/-- The latest time of a run. -/
def Run.latest (run : Run α) : τ := run.rest.foldl (fun t x => max t (time x)) (time run.first)

/-- The runs from inside one. -/
def runsFrom (run : Run α) : List α → List (Run α)
  | [] => [run]
  | x :: xs =>
    if far (run.latest time) (time x) then run :: runsFrom ⟨x, []⟩ xs
    else runsFrom (run.add x) xs

/-- The runs of a list. -/
def runs : List α → List (Run α)
  | [] => []
  | x :: xs => runsFrom time far ⟨x, []⟩ xs

/-- In the order of the times. -/
def Ordered (xs : List α) : Prop := xs.Pairwise fun x y => time x ≤ time y

/-- Two events that stay in one run when they follow each other. -/
def near (x y : α) : Bool := !far (time x) (time y)

variable {time}

/-- In order, the latest is the last. -/
theorem Run.latest_of_ordered {run : Run α} (h : Ordered time run.toList) :
    ∀ x ∈ run.toList.getLast?, run.latest time = time x := by
  obtain ⟨first, rest⟩ := run
  unfold latest Run.toList at *
  dsimp only at *
  induction rest generalizing first with
  | nil =>
    intro x hx
    rw [List.foldl_nil, show first = x by simpa using hx]
  | cons y rest ih =>
    intro x hx
    obtain ⟨hfirst, hrest⟩ := List.pairwise_cons.mp h
    rw [List.foldl_cons, max_eq_right (hfirst y List.mem_cons_self)]
    exact ih y hrest x (by rwa [List.getLast?_cons_cons] at hx)

theorem toList_runsFrom {run : Run α} {xs : List α} (hordered : Ordered time (run.toList ++ xs))
    (hnear : run.toList.IsChain fun x y => near time far x y) :
    (runsFrom time far run xs).map Run.toList = (run.toList ++ xs).splitBy (near time far) := by
  induction xs generalizing run with
  | nil =>
    rw [List.append_nil, List.splitBy_of_isChain run.toList_ne_nil hnear]
    rfl
  | cons x xs ih =>
    have hlatest := run.latest_of_ordered (List.pairwise_append.mp hordered).1
    unfold runsFrom
    split
    · next hfar =>
      have hcut : ∀ y ∈ run.toList.getLast?, near time far y x = false := by
        intro y hy
        rw [near, ← hlatest y hy, hfar]
        rfl
      have hrest : Ordered time ((Run.mk x []).toList ++ xs) := (List.pairwise_append.mp hordered).2.1
      rw [List.splitBy_append_cons xs hcut, List.splitBy_of_isChain run.toList_ne_nil hnear,
        List.map_cons, ih hrest (List.isChain_singleton x)]
      rfl
    · next hfar =>
      have hmore : (run.add x).toList ++ xs = run.toList ++ x :: xs := by
        rw [Run.toList_add, List.append_assoc, List.singleton_append]
      rw [ih (by rwa [hmore]), hmore]
      rw [Run.toList_add]
      refine List.isChain_append.mpr ⟨hnear, List.isChain_singleton x, ?_⟩
      intro y hy z hz
      rw [List.head?_cons, Option.mem_some] at hz
      rw [← hz, near, ← hlatest y hy, Bool.eq_false_of_not_eq_true hfar]
      rfl

/-- The loop splits the list where two events that follow each other are far apart. -/
theorem toList_runs {xs : List α} (h : Ordered time xs) :
    (runs time far xs).map Run.toList = xs.splitBy (near time far) := by
  cases xs with
  | nil => rfl
  | cons x xs => exact toList_runsFrom far h (List.isChain_singleton x)

/-- Where far means apart, and what is further apart is apart too, any two events of two runs are
apart. -/
theorem splitBy_separated (apart : τ → τ → Prop) {xs : List α} (h : Ordered time xs)
    (hfar : ∀ x y, time x ≤ time y → far (time x) (time y) = true → apart (time x) (time y))
    (hmono : ∀ {s s' t t'}, apart s t → s' ≤ s → t ≤ t' → apart s' t') :
    (xs.splitBy (near time far)).Pairwise fun b b' =>
      ∀ x ∈ b, ∀ y ∈ b', apart (time x) (time y) := by
  have hflat : Ordered time (xs.splitBy (near time far)).flatten := by
    rwa [List.flatten_splitBy]
  have hcut := List.isChain_getLast_head_splitBy (near time far) xs
  generalize xs.splitBy (near time far) = bs at hflat hcut
  induction bs with
  | nil => exact .nil
  | cons b bs ih =>
    obtain ⟨hb, hrest, hafter⟩ := List.pairwise_append.mp hflat
    refine .cons (fun b' hb' x hx y hy => ?_) (ih hrest hcut.tail)
    obtain ⟨next, bs, rfl⟩ := List.exists_cons_of_ne_nil (List.ne_nil_of_mem hb')
    obtain ⟨⟨hne, hne', hlast⟩, -⟩ := List.isChain_cons_cons.mp hcut
    have hhead : next.head hne' ∈ (next :: bs).flatten :=
      List.mem_append_left _ (List.head_mem hne')
    have hopens : apart (time (b.getLast hne)) (time (next.head hne')) := by
      refine hfar _ _ (hafter _ (List.getLast_mem hne) _ hhead) ?_
      simpa [near] using hlast
    have hx' : time x ≤ time (b.getLast hne) := hb.rel_getLast_of_rel_getLast_getLast hx le_rfl
    have hmem : y ∈ next ++ bs.flatten := List.mem_flatten.mpr ⟨b', hb', hy⟩
    have hy' : time (next.head hne') ≤ time y := by
      rw [← List.head_append_of_ne_nil hne']
      exact hrest.rel_head_of_rel_head_head hmem le_rfl
    exact hmono hopens hx' hy'

end Loop

/-! ## Splitting -/

/-- Neighbours that are related in two ways are related in both at once. -/
theorem isChain_and {R S : α → α → Prop} {xs : List α} (hR : xs.IsChain R) (hS : xs.IsChain S) :
    xs.IsChain fun x y => R x y ∧ S x y := by
  induction hR with
  | nil => exact .nil
  | singleton x => exact .singleton x
  | cons_cons hxy _ ih =>
    obtain ⟨hSxy, hS⟩ := List.isChain_cons_cons.mp hS
    exact .cons_cons ⟨hxy, hSxy⟩ (ih hS)

/-- A relation on what a map shows splits the list as it splits what is shown. -/
theorem splitBy_map (f : β → α) (r : α → α → Bool) (xs : List β) :
    (xs.map f).splitBy r = (xs.splitBy fun x y => r (f x) (f y)).map (List.map f) := by
  refine List.splitBy_eq_iff.mpr ⟨?_, ?_, ?_, ?_⟩
  · rw [← List.map_flatten, List.flatten_splitBy]
  · rw [List.mem_map]
    rintro ⟨b, hb, hnil⟩
    exact List.ne_nil_of_mem_splitBy hb (List.map_eq_nil_iff.mp hnil)
  · intro b hb
    obtain ⟨c, hc, rfl⟩ := List.mem_map.mp hb
    exact (List.isChain_map f).mpr (List.isChain_of_mem_splitBy hc)
  · refine (List.isChain_map (List.map f)).mpr ?_
    refine (List.isChain_getLast_head_splitBy _ xs).imp ?_
    rintro b b' ⟨hb, hb', hr⟩
    refine ⟨mt List.map_eq_nil_iff.mp hb, mt List.map_eq_nil_iff.mp hb', ?_⟩
    rw [List.getLast_map, List.head_map, hr]

/-! ## Groups -/

/-- The groups of some keys hold each item under one of them once. -/
theorem flatMap_filter_perm {κ : Type} [DecidableEq κ] (key : α → κ) (xs : List α) {keys : List κ}
    (h : keys.Nodup) :
    (keys.flatMap fun k => xs.filter fun x => key x == k).Perm
      (xs.filter fun x => keys.contains (key x)) := by
  induction keys with
  | nil =>
    have hnone : (xs.filter fun x => ([] : List κ).contains (key x)) = [] :=
      List.filter_eq_nil_iff.mpr fun _ _ => Bool.false_ne_true
    rw [hnone]
    exact .nil
  | cons k keys ih =>
    obtain ⟨hk, h⟩ := List.nodup_cons.mp h
    have hown : (xs.filter fun x => (k :: keys).contains (key x)).filter (fun x => key x == k) =
        xs.filter fun x => key x == k := by
      rw [List.filter_filter]
      refine List.filter_congr fun x _ => ?_
      by_cases hx : key x = k <;> simp [hx]
    have hothers : (xs.filter fun x => (k :: keys).contains (key x)).filter (fun x => !key x == k) =
        xs.filter fun x => keys.contains (key x) := by
      rw [List.filter_filter]
      refine List.filter_congr fun x _ => ?_
      by_cases hx : key x = k
      · simp [hx, hk]
      · simp [hx]
    have hsplit := List.filter_append_perm (fun x => key x == k)
      (xs.filter fun x => (k :: keys).contains (key x))
    rw [hown, hothers] at hsplit
    rw [List.flatMap_cons]
    exact ((ih h).append_left _).trans hsplit

end Gaps
