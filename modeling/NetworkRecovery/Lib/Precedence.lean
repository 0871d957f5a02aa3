import Mathlib.Data.List.Basic

/-!
# Two searches of one list

One search is to win over another wherever in the list it finds something. Made in turn
(`inTurn`), it does. Made at once at each element (`atOnce`), it does where the other
finds nothing before its first find (`atOnce_eq_inTurn`).
-/

namespace Precedence

variable {α β : Type} (f g : α → Option β)

/-- The first search, and the second where the first finds nothing. -/
def inTurn (l : List α) : Option β := (l.findSome? f).or (l.findSome? g)

/-- Both searches at each element. -/
def atOnce (l : List α) : Option β := l.findSome? fun a => (f a).or (g a)

/-- The second search finds something before the first find of the first search. -/
def Overtaken (l : List α) : Prop :=
  ∃ before a after, l = before ++ a :: after ∧ (f a).isSome = true ∧ (∀ b ∈ before, f b = none) ∧
    ∃ b ∈ before, (g b).isSome = true

variable {f g} {a : α} {l : List α} {x : β}

theorem atOnce_isSome_iff :
    (atOnce f g l).isSome = true ↔ ∃ a ∈ l, (f a).isSome = true ∨ (g a).isSome = true := by
  simp only [atOnce, List.findSome?_isSome_iff, Option.isSome_or, Bool.or_eq_true]

theorem findSome?_congr {f g : α → Option β} (h : ∀ a ∈ l, f a = g a) :
    l.findSome? f = l.findSome? g := by
  induction l with
  | nil => rfl
  | cons a l ih =>
    rw [List.findSome?_cons, List.findSome?_cons, h a List.mem_cons_self,
      ih fun b hb => h b (List.mem_cons_of_mem _ hb)]

/-- Where all finds are one, a search comes to what is found anywhere, in any order. -/
theorem findSome?_congr_of_agree {l l' : List α} (hl : ∀ a ∈ l, ∀ y, f a = some y → y = x)
    (hl' : ∀ a ∈ l', ∀ y, f a = some y → y = x)
    (h : (∃ a ∈ l, f a = some x) ↔ ∃ a ∈ l', f a = some x) : l.findSome? f = l'.findSome? f := by
  have hfind : ∀ {l : List α}, (∀ a ∈ l, ∀ y, f a = some y → y = x) →
      ∀ y, l.findSome? f = some y ↔ y = x ∧ ∃ a ∈ l, f a = some x := by
    intro l hl y
    constructor
    · intro hy
      obtain ⟨a, ha, hfa⟩ := List.exists_of_findSome?_eq_some hy
      obtain rfl := hl a ha y hfa
      exact ⟨rfl, a, ha, hfa⟩
    · rintro ⟨rfl, a, ha, hfa⟩
      cases hfound : l.findSome? f with
      | none => rw [List.findSome?_eq_none_iff.mp hfound a ha] at hfa; cases hfa
      | some z =>
        obtain ⟨b, hb, hfb⟩ := List.exists_of_findSome?_eq_some hfound
        rw [hl b hb z hfb]
  apply Option.ext
  intro y
  show l.findSome? f = some y ↔ l'.findSome? f = some y
  rw [hfind hl, hfind hl', h]

/-- What is overtaken is a find of the first search, in turn. -/
theorem Overtaken.inTurn (h : Overtaken f g l) :
    ∃ a x, f a = some x ∧ inTurn f g l = some x := by
  obtain ⟨before, a, after, rfl, ha, -⟩ := h
  have hsome : ((before ++ a :: after).findSome? f).isSome = true :=
    List.findSome?_isSome_iff.mpr ⟨a, List.mem_append_right _ List.mem_cons_self, ha⟩
  obtain ⟨x, hx⟩ := Option.isSome_iff_exists.mp hsome
  obtain ⟨b, -, hb⟩ := List.exists_of_findSome?_eq_some hx
  refine ⟨b, x, hb, ?_⟩
  rw [Precedence.inTurn, hx, Option.some_or]

/-- What overtakes is a find of the second search, at once. -/
theorem Overtaken.atOnce (h : Overtaken f g l) :
    ∃ b x, g b = some x ∧ atOnce f g l = some x := by
  obtain ⟨before, a, after, rfl, -, hbefore, b, hb, hg⟩ := h
  have hsome : (before.findSome? g).isSome = true :=
    List.findSome?_isSome_iff.mpr ⟨b, hb, hg⟩
  obtain ⟨x, hx⟩ := Option.isSome_iff_exists.mp hsome
  obtain ⟨c, -, hc⟩ := List.exists_of_findSome?_eq_some hx
  have hsecond : before.findSome? (fun a => (f a).or (g a)) = before.findSome? g :=
    findSome?_congr fun d hd => by rw [hbefore d hd, Option.none_or]
  refine ⟨c, x, hc, ?_⟩
  rw [Precedence.atOnce, List.findSome?_append, hsecond, hx, Option.some_or]

theorem not_overtaken_of_cons (hnone : f a = none) (h : ¬ Overtaken f g (a :: l)) :
    ¬ Overtaken f g l := by
  rintro ⟨before, b, after, rfl, hb, hbefore, c, hc, hg⟩
  exact h ⟨a :: before, b, after, rfl, hb, List.forall_mem_cons.mpr ⟨hnone, hbefore⟩, c,
    List.mem_cons_of_mem _ hc, hg⟩

/-- The searches at once come to what they come to in turn where nothing is overtaken. -/
theorem atOnce_eq_inTurn (h : ¬ Overtaken f g l) : atOnce f g l = inTurn f g l := by
  induction l with
  | nil => rfl
  | cons a l ih =>
    rw [atOnce, inTurn, List.findSome?_cons, List.findSome?_cons, List.findSome?_cons]
    cases hf : f a with
    | some x => rfl
    | none =>
      cases hg : g a with
      | none => exact ih (not_overtaken_of_cons hf h)
      | some y =>
        -- the second search takes the head, so that the first finds nothing behind it
        have hrest : l.findSome? f = none := by
          cases hfind : l.findSome? f with
          | none => rfl
          | some x =>
            obtain ⟨before, b, after, rfl, hb, hbefore⟩ := List.findSome?_eq_some_iff.mp hfind
            refine absurd ⟨a :: before, b, after, rfl, ?_, ?_, a, List.mem_cons_self, ?_⟩ h
            · rw [hb]
              rfl
            · exact List.forall_mem_cons.mpr ⟨hf, hbefore⟩
            · rw [hg]
              rfl
        rw [hrest]
        rfl

end Precedence
