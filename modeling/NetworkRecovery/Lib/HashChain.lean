import Mathlib.Data.List.Induction
import Mathlib.Data.List.Forall2

/-!
# Hash chains

A chain absorbs bodies one by one: each link is computed from the link before
it and the next body, starting from a fixed seed. Nothing is said about what a
body is or how links are computed; `Good` names the hashes the scheme can
produce, for schemes whose links are only injective on those.

`tip_binding` is the reason such a chain is kept: the last link alone
determines the length and every body.
-/

namespace HashChain

variable {Body Hash : Type*} (link : Hash → Body → Hash) (seed : Hash)

/-- The link after all the bodies. -/
def tip (bodies : List Body) : Hash := bodies.foldl link seed

@[simp] theorem tip_nil : tip link seed [] = seed := rfl

@[simp] theorem tip_concat (bodies : List Body) (b : Body) :
    tip link seed (bodies ++ [b]) = link (tip link seed bodies) b := by
  simp [tip]

/-- Every stored hash is the link of the hash stored before it. -/
def Verifies : Hash → List (Body × Hash) → Prop
  | _, [] => True
  | h, (b, stored) :: rest => stored = link h b ∧ Verifies stored rest

/-- A verifying chain stores its tips. -/
theorem Verifies.last_eq_tip {rows : List (Body × Hash)} (h : Verifies link seed rows) :
    (rows.getLast?.map Prod.snd).getD seed = tip link seed (rows.map Prod.fst) := by
  induction rows generalizing seed with
  | nil => rfl
  | cons row rest ih =>
    obtain ⟨b, stored⟩ := row
    obtain ⟨rfl, hrest⟩ := h
    have ih := ih (link seed b) hrest
    cases rest with
    | nil => rfl
    | cons row' rest' =>
      rw [List.getLast?_cons_cons]
      simp only [List.map_cons, tip, List.foldl_cons] at ih ⊢
      rw [← ih]
      cases hlast : (row' :: rest').getLast? with
      | none => simp at hlast
      | some last => rfl

/-- One more row verifies exactly when its hash is the next link. -/
theorem verifies_concat {rows : List (Body × Hash)} {b : Body} {stored : Hash} :
    Verifies link seed (rows ++ [(b, stored)]) ↔
      Verifies link seed rows ∧ stored = link ((rows.getLast?.map Prod.snd).getD seed) b := by
  induction rows generalizing seed with
  | nil => simp [Verifies]
  | cons row rest ih =>
    obtain ⟨c, s⟩ := row
    simp only [List.cons_append, Verifies, ih s, and_assoc]
    cases rest with
    | nil => simp [Verifies]
    | cons row' rest' =>
      rw [List.getLast?_cons_cons]
      cases hlast : (row' :: rest').getLast? with
      | none => simp at hlast
      | some last => rfl

section Binding

variable (Good : Hash → Prop) (E : Body → Body → Prop)
  (good_seed : Good seed) (good_link : ∀ h b, Good (link h b)) (link_ne : ∀ h b, link h b ≠ seed)
  (link_inj : ∀ h h' b b', Good h → Good h' → link h b = link h' b' → h = h' ∧ E b b')

include good_seed good_link link_ne link_inj

/-- Two chains with one tip have the same length and, body by body, the same
contents. -/
theorem tip_binding (xs ys : List Body) (h : tip link seed xs = tip link seed ys) :
    List.Forall₂ E xs ys := by
  have good_tip : ∀ zs, Good (tip link seed zs) := by
    intro zs
    induction zs using List.reverseRecOn with
    | nil => exact good_seed
    | append_singleton zs z _ =>
      rw [tip_concat]
      exact good_link _ _
  -- backwards along the first chain: its last link pins the last body of both
  induction xs using List.reverseRecOn generalizing ys with
  | nil =>
    cases ys using List.reverseRecOn with
    | nil => exact .nil
    | append_singleton ys y =>
      rw [tip_nil, tip_concat] at h
      exact absurd h.symm (link_ne _ _)
  | append_singleton xs x ih =>
    cases ys using List.reverseRecOn with
    | nil =>
      rw [tip_nil, tip_concat] at h
      exact absurd h (link_ne _ _)
    | append_singleton ys y =>
      rw [tip_concat, tip_concat] at h
      obtain ⟨htip, hbody⟩ := link_inj _ _ _ _ (good_tip xs) (good_tip ys) h
      exact List.rel_append (ih ys htip) (.cons hbody .nil)

end Binding

end HashChain
