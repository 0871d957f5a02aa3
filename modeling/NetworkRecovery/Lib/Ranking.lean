import Mathlib.Data.List.Sort

/-!
# The first of a ranking

What a stable sort puts first is the best element, and the earliest of several.
Sorting twice ranks by the second order, and by the first where the second leaves
a tie (`head?_insertionSort_twice`).
-/

namespace Ranking

section Orders

variable {α : Type} (r s : α → α → Prop)

/-- One order, and another one where it leaves a tie. -/
def Tiebreak (a b : α) : Prop := s a b ∧ (s b a → r a b)

instance [DecidableRel r] [DecidableRel s] : DecidableRel (Tiebreak r s) := fun a b =>
  inferInstanceAs (Decidable (s a b ∧ (s b a → r a b)))

variable {r s}

theorem Tiebreak.trans (hr : ∀ a b c, r a b → r b c → r a c) (hs : ∀ a b c, s a b → s b c → s a c)
    {a b c : α} (hab : Tiebreak r s a b) (hbc : Tiebreak r s b c) : Tiebreak r s a c := by
  refine ⟨hs a b c hab.1 hbc.1, fun hca => ?_⟩
  have hba : s b a := hs b c a hbc.1 hca
  have hcb : s c b := hs c a b hca hab.1
  exact hr a b c (hab.2 hba) (hbc.2 hcb)

theorem Tiebreak.total (hrtotal : ∀ a b, r a b ∨ r b a) (hstotal : ∀ a b, s a b ∨ s b a) (a b : α) :
    Tiebreak r s a b ∨ Tiebreak r s b a := by
  by_cases hab : s a b
  · by_cases hba : s b a
    · exact (hrtotal a b).imp (fun h => ⟨hab, fun _ => h⟩) fun h => ⟨hba, fun _ => h⟩
    · exact .inl ⟨hab, fun h => absurd h hba⟩
  · exact .inr ⟨(hstotal a b).resolve_left hab, fun h => absurd h hab⟩

end Orders

variable {α : Type} (r s : α → α → Prop) [DecidableRel r] [DecidableRel s]

/-- An element against the best of others, if there are any: a tie is won. -/
def challenge (a : α) : Option α → α
  | none => a
  | some b => if r a b then a else b

/-- The best element of a list, and the earliest of several. -/
def best : List α → Option α
  | [] => none
  | a :: l => some (challenge r a (best l))

variable {r s}

theorem best_mem {l : List α} {b : α} (h : best r l = some b) : b ∈ l := by
  induction l generalizing b with
  | nil => cases h
  | cons a l ih =>
    obtain rfl := Option.some.inj h
    cases hbest : best r l with
    | none => exact List.mem_cons_self
    | some c =>
      rw [challenge]
      split
      · exact List.mem_cons_self
      · exact List.mem_cons_of_mem _ (ih hbest)

theorem best_congr (h : ∀ a b, r a b ↔ s a b) (l : List α) : best r l = best s l := by
  induction l with
  | nil => rfl
  | cons a l ih =>
    rw [best, best, ih]
    cases best s l with
    | none => rfl
    | some b => simp only [challenge, h]

/-- The best is at least as good as any. -/
theorem best_spec (htrans : ∀ a b c, r a b → r b c → r a c) (htotal : ∀ a b, r a b ∨ r b a)
    {l : List α} {b : α} (h : best r l = some b) : ∀ x ∈ l, r b x := by
  induction l generalizing b with
  | nil => cases h
  | cons a l ih =>
    obtain rfl := Option.some.inj h
    have hrefl : r a a := (htotal a a).elim id id
    intro x hx
    cases hbest : best r l with
    | none =>
      cases l with
      | nil =>
        rw [List.mem_singleton.mp hx]
        exact hrefl
      | cons c l => cases hbest
    | some c =>
      have hrest := ih hbest
      rw [challenge]
      split
      · next hac =>
        rcases List.mem_cons.mp hx with rfl | hx
        · exact hrefl
        · exact htrans a c x hac (hrest x hx)
      · next hac =>
        rcases List.mem_cons.mp hx with rfl | hx
        · exact (htotal _ _).resolve_left hac
        · exact hrest x hx

/-- The better of two elements stands for both. -/
theorem challenge_assoc (htrans : ∀ a b c, r a b → r b c → r a c) (htotal : ∀ a b, r a b ∨ r b a)
    (a b : α) (o : Option α) :
    challenge r a (some (challenge r b o)) = challenge r (if r a b then a else b) o := by
  cases o with
  | none => rfl
  | some c =>
    by_cases hab : r a b
    · by_cases hbc : r b c
      · simp [challenge, hab, hbc, htrans a b c hab hbc]
      · simp [challenge, hab, hbc]
    · by_cases hbc : r b c
      · simp [challenge, hab, hbc]
      · have hac : ¬ r a c := by
          intro hac
          have hcb := (htotal b c).resolve_left hbc
          exact hab (htrans a c b hac hcb)
        simp [challenge, hab, hbc, hac]

/-- A loop that keeps the better of the best so far and the next finds the best. -/
theorem best_eq_foldl (htrans : ∀ a b c, r a b → r b c → r a c) (htotal : ∀ a b, r a b ∨ r b a)
    (a : α) (l : List α) :
    best r (a :: l) = some (l.foldl (fun m x => if r m x then m else x) a) := by
  induction l generalizing a with
  | nil => rfl
  | cons b l ih =>
    rw [List.foldl_cons, ← ih, best, best, challenge_assoc htrans htotal, best]

/-- The last element is the best exactly if no other one is as good. -/
theorem best_append_singleton {l : List α} {a : α} (hne : ∀ b ∈ l, b ≠ a) :
    best r (l ++ [a]) = some a ↔ ∀ b ∈ l, ¬ r b a := by
  induction l with
  | nil => exact ⟨fun _ b hb => absurd hb List.not_mem_nil, fun _ => rfl⟩
  | cons b l ih =>
    rw [List.forall_mem_cons] at hne ⊢
    rw [List.cons_append, best, ← ih hne.2]
    cases hrest : best r (l ++ [a]) with
    | none =>
      cases l with
      | nil => cases hrest
      | cons c l => cases hrest
    | some c =>
      rw [challenge, Option.some_inj, Option.some_inj]
      split
      · next hwins =>
        refine ⟨fun h => absurd h hne.1, ?_⟩
        rintro ⟨hloses, rfl⟩
        exact absurd hwins hloses
      · next hloses =>
        refine ⟨?_, fun h => h.2⟩
        rintro rfl
        exact ⟨hloses, rfl⟩

/-- A stable sort puts the best first. -/
theorem head?_insertionSort (l : List α) : (l.insertionSort r).head? = best r l := by
  induction l with
  | nil => rfl
  | cons a l ih =>
    rw [List.insertionSort_cons, best, ← ih]
    cases l.insertionSort r with
    | nil => rfl
    | cons b sorted =>
      rw [List.orderedInsert, List.head?_cons, challenge]
      split
      · rfl
      · rfl

section Twice

variable (hr : ∀ a b c, r a b → r b c → r a c) (hs : ∀ a b c, s a b → s b c → s a c)
  (hrtotal : ∀ a b, r a b ∨ r b a) (hstotal : ∀ a b, s a b ∨ s b a)
include hs hstotal

/-- An element that the first order puts behind another one challenges the best of
the rest first. -/
theorem challenge_swap {a x : α} (hax : ¬ r a x) (o : Option α) :
    challenge s x (some (challenge (Tiebreak r s) a o)) =
      challenge (Tiebreak r s) a (some (challenge s x o)) := by
  have htie : Tiebreak r s a x ↔ ¬ s x a :=
    ⟨fun h hxa => hax (h.2 hxa), fun h => ⟨(hstotal a x).resolve_right h, fun hxa => absurd hxa h⟩⟩
  cases o with
  | none =>
    show challenge s x (some a) = challenge (Tiebreak r s) a (some x)
    by_cases hxa : s x a
    · rw [challenge, challenge, if_pos hxa, if_neg (mt htie.mp (not_not_intro hxa))]
    · rw [challenge, challenge, if_neg hxa, if_pos (htie.mpr hxa)]
  | some b =>
    by_cases hab : Tiebreak r s a b
    · have hwins : challenge (Tiebreak r s) a (some b) = a := if_pos hab
      rw [hwins]
      by_cases hxa : s x a
      · have hxb : challenge s x (some b) = x := if_pos (hs x a b hxa hab.1)
        rw [hxb, challenge, challenge, if_pos hxa, if_neg (mt htie.mp (not_not_intro hxa))]
      · rw [challenge, if_neg hxa]
        by_cases hxb : s x b
        · have hwins' : challenge s x (some b) = x := if_pos hxb
          rw [hwins', challenge, if_pos (htie.mpr hxa)]
        · have hloses : challenge s x (some b) = b := if_neg hxb
          rw [hloses, hwins]
    · have hloses : challenge (Tiebreak r s) a (some b) = b := if_neg hab
      rw [hloses]
      by_cases hxb : s x b
      · have hwins : challenge s x (some b) = x := if_pos hxb
        have hax' : ¬ Tiebreak r s a x := by
          intro h
          have hba : ¬ s b a := fun hba => htie.mp h (hs x b a hxb hba)
          exact hab ⟨hs a x b h.1 hxb, fun h' => absurd h' hba⟩
        rw [hwins, challenge, if_neg hax']
      · have hloses' : challenge s x (some b) = b := if_neg hxb
        rw [hloses', hloses]

include hr

/-- An element that is put in its place challenges the best of the others. -/
theorem best_orderedInsert (a : α) {l : List α} (hsorted : l.Pairwise r) :
    best s (l.orderedInsert r a) = some (challenge (Tiebreak r s) a (best s l)) := by
  induction l with
  | nil => rfl
  | cons x l ih =>
    obtain ⟨hlater, hsorted⟩ := List.pairwise_cons.mp hsorted
    rw [List.orderedInsert]
    split
    · next hax =>
      -- It stands before all others, and so wins every tie.
      have hall : ∀ b ∈ x :: l, r a b := by
        intro b hb
        rcases List.mem_cons.mp hb with rfl | hb
        · exact hax
        · exact hr a x b hax (hlater b hb)
      rw [best]
      cases hbest : best s (x :: l) with
      | none => rfl
      | some b =>
        have htie : Tiebreak r s a b ↔ s a b :=
          ⟨fun h => h.1, fun h => ⟨h, fun _ => hall b (best_mem hbest)⟩⟩
        simp only [challenge, htie]
    · next hax => rw [best, best, ih hsorted, challenge_swap hs hstotal hax]

include hrtotal

/-- Sorting twice ranks by the second order, and by the first where it leaves a tie. -/
theorem head?_insertionSort_twice (l : List α) :
    ((l.insertionSort r).insertionSort s).head? = best (Tiebreak r s) l := by
  have : IsTrans α r := ⟨hr⟩
  have : Std.Total r := ⟨hrtotal⟩
  rw [head?_insertionSort]
  induction l with
  | nil => rfl
  | cons a l ih =>
    rw [List.insertionSort_cons, best_orderedInsert hr hs hstotal a (List.pairwise_insertionSort r l),
      ih, best]

end Twice

/-! ## An element behind all others -/

theorem orderedInsert_append_singleton {a b : α} (h : r b a) (l : List α) :
    (l ++ [a]).orderedInsert r b = l.orderedInsert r b ++ [a] := by
  induction l with
  | nil => exact if_pos h
  | cons c l ih =>
    rw [List.cons_append, List.orderedInsert, List.orderedInsert]
    split
    · rfl
    · rw [ih, List.cons_append]

/-- An element that no other one belongs behind stays the last. -/
theorem insertionSort_append_singleton {l : List α} {a : α} (h : ∀ b ∈ l, r b a) :
    (l ++ [a]).insertionSort r = l.insertionSort r ++ [a] := by
  induction l with
  | nil => rfl
  | cons b l ih =>
    rw [List.forall_mem_cons] at h
    rw [List.cons_append, List.insertionSort_cons, List.insertionSort_cons, ih h.2,
      orderedInsert_append_singleton h.1]

/-! ## Distinct keys -/

section Distinct

variable {α κ : Type} [LinearOrder κ] {key : α → κ}

/-- With distinct keys, the order before sorting does not matter. -/
theorem insertionSort_congr_perm {l l' : List α} (hperm : l.Perm l') (hkeys : (l.map key).Nodup) :
    l.insertionSort (fun a b => key a ≤ key b) = l'.insertionSort fun a b => key a ≤ key b := by
  have hsorted : ∀ l : List α,
      (l.insertionSort fun a b => key a ≤ key b).Pairwise fun a b => key a ≤ key b := by
    intro l
    have : IsTrans α fun a b => key a ≤ key b := ⟨fun _ _ _ => le_trans⟩
    have : Std.Total fun a b : α => key a ≤ key b := ⟨fun a b => le_total (key a) (key b)⟩
    exact List.pairwise_insertionSort _ l
  refine List.Perm.eq_of_pairwise ?_ (hsorted l) (hsorted l')
    ((List.perm_insertionSort _ l).trans (hperm.trans (List.perm_insertionSort _ l').symm))
  intro a b ha hb hab hba
  have hbl : b ∈ l := hperm.mem_iff.mpr ((List.mem_insertionSort _).mp hb)
  exact List.inj_on_of_nodup_map hkeys ((List.mem_insertionSort _).mp ha) hbl (le_antisymm hab hba)

end Distinct

/-! ## Pages

The greatest keys first, and the earlier of two equal ones. -/

section Pages

variable {α : Type} {key : α → Nat}

theorem pairwise_orderedInsert (a : α) {l : List α} (hsorted : l.Pairwise fun x y => key y ≤ key x) :
    (l.orderedInsert (fun x y => key y < key x) a).Pairwise fun x y => key y ≤ key x := by
  induction l with
  | nil => exact List.pairwise_singleton _ _
  | cons b l ih =>
    obtain ⟨hlater, hsorted'⟩ := List.pairwise_cons.mp hsorted
    rw [List.orderedInsert]
    split
    · next hba =>
      refine List.pairwise_cons.mpr ⟨?_, hsorted⟩
      intro c hc
      rcases List.mem_cons.mp hc with rfl | hc
      · exact Nat.le_of_lt hba
      · exact Nat.le_trans (hlater c hc) (Nat.le_of_lt hba)
    · next hba =>
      refine List.pairwise_cons.mpr ⟨?_, ih hsorted'⟩
      intro c hc
      rcases (List.mem_orderedInsert _).mp hc with rfl | hc
      · exact Nat.le_of_not_lt hba
      · exact hlater c hc

/-- A new element takes a place on the page, and the last one loses its place, or
the page is full of elements that stand before it. -/
theorem take_orderedInsert (a : α) {l : List α} (hsorted : l.Pairwise fun x y => key y ≤ key x)
    (k : Nat) :
    (l.orderedInsert (fun x y => key y < key x) a).take (k + 1) =
      if ∃ last, l[k]? = some last ∧ key a ≤ key last then l.take (k + 1)
      else (l.take k).orderedInsert (fun x y => key y < key x) a := by
  induction l generalizing k with
  | nil => simp
  | cons b l ih =>
    obtain ⟨hlater, hsorted⟩ := List.pairwise_cons.mp hsorted
    rw [List.orderedInsert]
    by_cases hba : key b < key a
    · have hnone : ¬ ∃ last, (b :: l)[k]? = some last ∧ key a ≤ key last := by
        rintro ⟨last, hlast, hle⟩
        rcases List.mem_cons.mp (List.mem_of_getElem? hlast) with rfl | hmem
        · omega
        · have := hlater last hmem
          omega
      rw [if_pos hba, if_neg hnone]
      cases k with
      | zero => rfl
      | succ k => simp [hba]
    · rw [if_neg hba]
      cases k with
      | zero =>
        have hle : key a ≤ key b := by omega
        simp [hle]
      | succ k =>
        rw [List.take_succ_cons, ih hsorted k]
        simp only [List.getElem?_cons_succ]
        split
        · rfl
        · rw [List.take_succ_cons, List.orderedInsert, if_neg hba]

/-- Of the old elements only the last of the page can lose its place. -/
theorem mem_take_orderedInsert_iff {a x : α} (hne : x ≠ a) {l : List α}
    (hsorted : l.Pairwise fun x y => key y ≤ key x) (hnodup : l.Nodup) (k : Nat) :
    x ∈ (l.orderedInsert (fun x y => key y < key x) a).take (k + 1) ↔
      x ∈ l.take (k + 1) ∧ ¬ (l[k]? = some x ∧ key x < key a) := by
  rw [take_orderedInsert a hsorted]
  split
  · next hlast =>
    obtain ⟨last, hlast, hle⟩ := hlast
    refine ⟨fun h => ⟨h, ?_⟩, fun h => h.1⟩
    rintro ⟨hx, hlt⟩
    obtain rfl := Option.some.inj (hlast.symm.trans hx)
    omega
  · next hnone =>
    rw [List.mem_orderedInsert, List.take_add_one, List.mem_append, Option.mem_toList]
    constructor
    · rintro (rfl | hmem)
      · exact absurd rfl hne
      · refine ⟨.inl hmem, fun h => ?_⟩
        -- It stands before the place `k`, and nowhere else.
        obtain ⟨i, hi, hget⟩ := List.mem_take_iff_getElem.mp hmem
        obtain ⟨hk, hx⟩ := List.getElem?_eq_some_iff.mp h.1
        have := (List.Nodup.getElem_inj_iff hnodup).mp (hget.trans hx.symm)
        omega
    · rintro ⟨hmem | hlast, hstays⟩
      · exact .inr hmem
      · exact absurd ⟨x, hlast, by
          by_contra hle
          exact hstays ⟨hlast, by omega⟩⟩ hnone

end Pages

end Ranking
