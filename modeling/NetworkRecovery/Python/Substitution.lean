import NetworkRecovery.Python.Regex

/-!
# Substitution

`re.sub` walks over the text, writes the replacement for each match and goes on behind it, and
keeps every character at which no match begins. `Rewritten` is that walk as a relation. What
stands in the result and shares nothing with the replacement stood in the text, at a place
where no match begins (`Rewritten.trace`); it may share a beginning that the matches have too.
-/

namespace Python.Regex

/-- A pattern that may look at the character before. -/
abbrev Lookbehind := Option Char → Pattern

/-- `re.sub` of a pattern that takes at least one character: `skip` characters belong to the match
before. -/
def subFrom (p : Lookbehind) (w : List Char) : Option Char → Nat → List Char → List Char
  | _, _, [] => []
  | _, skip + 1, c :: cs => subFrom p w (some c) skip cs
  | prev, 0, c :: cs =>
    match (p prev (c :: cs)).head? with
    | some m => w ++ subFrom p w (some c) (m.1.length - 1) cs
    | none => c :: subFrom p w (some c) 0 cs

/-- `re.sub(p, w, s)`. -/
def sub (p : Lookbehind) (w s : List Char) : List Char := subFrom p w none 0 s

/-- A match is a beginning of the text, of one character at least. -/
def Consumes (p : Lookbehind) : Prop :=
  ∀ {prev s m}, m ∈ p prev s → m.1 ≠ [] ∧ s = m.1 ++ m.2

/-- The character before what follows a text. -/
def before (prev : Option Char) (x : List Char) : Option Char := x.getLast?.or prev

theorem before_cons (prev : Option Char) (c : Char) (x : List Char) :
    before prev (c :: x) = before (some c) x := by
  unfold before
  cases x with
  | nil => rfl
  | cons d x => rw [List.getLast?_cons_cons, List.getLast?_cons]; rfl

theorem before_append (prev : Option Char) (x y : List Char) :
    before prev (x ++ y) = before (before prev x) y := by
  induction x generalizing prev with
  | nil => rfl
  | cons c x ih => rw [List.cons_append, before_cons, before_cons, ih]

@[simp] theorem before_concat (prev : Option Char) (x : List Char) (c : Char) :
    before prev (x ++ [c]) = some c := by
  rw [before, List.getLast?_concat, Option.some_or]

/-- The walk of a substitution, from behind a character on. -/
inductive Rewritten (p : Lookbehind) (w : List Char) : Option Char → List Char → List Char → Prop
  | nil {prev : Option Char} : Rewritten p w prev [] []
  | keep {prev : Option Char} {c : Char} {cs out : List Char} : p prev (c :: cs) = [] →
      Rewritten p w (some c) cs out → Rewritten p w prev (c :: cs) (c :: out)
  | redact {prev : Option Char} {taken rest out : List Char} : taken ≠ [] →
      (p prev (taken ++ rest)).head? = some (taken, rest) →
      Rewritten p w (before prev taken) rest out →
      Rewritten p w prev (taken ++ rest) (w ++ out)

theorem subFrom_skip (p : Lookbehind) (w : List Char) (prev : Option Char) (a b : List Char) :
    subFrom p w prev a.length (a ++ b) = subFrom p w (before prev a) 0 b := by
  induction a generalizing prev with
  | nil => rfl
  | cons c a ih =>
    rw [before_cons, ← ih (some c)]
    rfl

/-- `re.sub` walks like that. -/
theorem rewritten_subFrom {p : Lookbehind} (hp : Consumes p) (w : List Char) :
    ∀ (n : Nat) {prev : Option Char} {s : List Char}, s.length ≤ n →
      Rewritten p w prev s (subFrom p w prev 0 s) := by
  intro n
  induction n with
  | zero =>
    intro prev s hlen
    rw [List.length_eq_zero_iff.mp (Nat.le_zero.mp hlen)]
    exact .nil
  | succ n ih =>
    intro prev s hlen
    cases s with
    | nil => exact .nil
    | cons c cs =>
      unfold subFrom
      split
      · next m hm =>
        obtain ⟨hne, hsplit⟩ := hp (List.mem_of_head? hm)
        obtain ⟨taken, rest⟩ := m
        cases taken with
        | nil => exact absurd rfl hne
        | cons d taken =>
          rw [List.cons_append] at hsplit
          obtain ⟨rfl, rfl⟩ := List.cons.inj hsplit
          have hskip : subFrom p w (some c) ((c :: taken).length - 1) (taken ++ rest) =
              subFrom p w (before prev (c :: taken)) 0 rest := by
            rw [before_cons]
            exact subFrom_skip p w (some c) taken rest
          have hshort : rest.length ≤ n := by
            simp only [List.length_cons, List.length_append] at hlen
            omega
          dsimp only
          rw [hskip]
          exact @Rewritten.redact p w prev (c :: taken) rest _ (List.cons_ne_nil c taken) hm (ih hshort)
      · next hm =>
        exact .keep (List.head?_eq_none_iff.mp hm) (ih (Nat.le_of_succ_le_succ hlen))

theorem rewritten_sub {p : Lookbehind} (hp : Consumes p) (w s : List Char) :
    Rewritten p w none s (sub p w s) := rewritten_subFrom hp w s.length le_rfl

/-- Where nothing matches, nothing changes. -/
theorem sub_of_no_match {p : Lookbehind} {w s : List Char}
    (h : ∀ prev t, t <:+ s → p prev t = []) : sub p w s = s := by
  have hfrom : ∀ prev, subFrom p w prev 0 s = s := by
    induction s with
    | nil => exact fun _ => rfl
    | cons c cs ih =>
      intro prev
      have hhead : (p prev (c :: cs)).head? = none := by
        rw [h prev (c :: cs) List.suffix_rfl]
        rfl
      simp only [subFrom, hhead]
      rw [ih fun prev t ht => h prev t (ht.trans (List.suffix_cons c cs))]
  exact hfrom none

/-! ## Where the result comes from -/

namespace Rewritten

variable {p : Lookbehind} {w : List Char} {prev : Option Char} {s out : List Char}

/-- What stands before a place of the result: the same character as in the text, or a replacement
where a match ends. -/
inductive Behind (p : Lookbehind) (w x' rest x : List Char) : Prop
  | same : x'.getLast? = x.getLast? → Behind p w x' rest x
  | chunk {x₀ taken : List Char} {prev₀ : Option Char} : x' = x₀ ++ taken → w <:+ x →
      (p prev₀ (taken ++ rest)).head? = some (taken, rest) → Behind p w x' rest x

theorem Behind.cons {x' rest x : List Char} (c : Char) (h : Behind p w x' rest x) :
    Behind p w (c :: x') rest (c :: x) := by
  cases h with
  | same heq => exact .same (by rw [List.getLast?_cons, List.getLast?_cons, heq])
  | @chunk x₀ taken prev₀ hx' hx hm =>
    exact @Behind.chunk p w _ _ _ (c :: x₀) taken prev₀ (by rw [hx', List.cons_append])
      (hx.trans (List.suffix_cons c x)) hm

/-- The same behind a match and its replacement. -/
theorem Behind.append {taken x' rest x : List Char} {prev : Option Char}
    (hm : (p prev (taken ++ (x' ++ rest))).head? = some (taken, x' ++ rest))
    (h : Behind p w x' rest x) : Behind p w (taken ++ x') rest (w ++ x) := by
  cases h with
  | same heq =>
    cases x' with
    | nil =>
      rw [List.getLast?_nil, eq_comm, List.getLast?_eq_none_iff] at heq
      rw [heq]
      exact @Behind.chunk p w _ _ _ [] taken prev (by simp) (by simp) hm
    | cons c x' =>
      refine .same ?_
      rw [List.getLast?_append, List.getLast?_append, ← heq, List.getLast?_cons]
      rfl
  | @chunk x₀ taken' prev₀ hx' hx hm' =>
    exact @Behind.chunk p w _ _ _ (taken ++ x₀) taken' prev₀ (by rw [hx', List.append_assoc])
      (hx.trans (List.suffix_append w x)) hm'

/-- A place of the result is a place of the text, or inside a replacement. -/
theorem split {x r : List Char} (h : Rewritten p w prev s out) (hout : out = x ++ r) :
    (∃ x' s', s = x' ++ s' ∧ Rewritten p w (before prev x') s' r ∧ Behind p w x' s' x) ∨
      ∃ v r', v <:+ w ∧ v ≠ [] ∧ r = v ++ r' := by
  induction h generalizing x with
  | nil =>
    obtain ⟨rfl, rfl⟩ := List.append_eq_nil_iff.mp hout.symm
    exact .inl ⟨[], [], rfl, .nil, .same rfl⟩
  | @keep prev c cs out hno hrest ih =>
    cases x with
    | nil =>
      rw [List.nil_append] at hout
      subst hout
      exact .inl ⟨[], c :: cs, rfl, .keep hno hrest, .same rfl⟩
    | cons d x =>
      obtain ⟨rfl, hlater⟩ := List.cons.inj (hout.trans (List.cons_append))
      obtain ⟨x', s', rfl, hwalk, hbehind⟩ | hinside := ih hlater
      · exact .inl ⟨c :: x', s', rfl, by rwa [before_cons], hbehind.cons c⟩
      · exact .inr hinside
  | @redact prev taken rest out hne hm hrest ih =>
    obtain ⟨a, rfl, hr⟩ | ⟨b, hw', hr⟩ := List.append_eq_append_iff.mp hout
    · -- The place is behind the replacement, or at its end.
      obtain ⟨x', s', rfl, hwalk, hbehind⟩ | hinside := ih hr
      · exact .inl ⟨taken ++ x', s', by rw [List.append_assoc], by rwa [before_append],
          hbehind.append hm⟩
      · exact .inr hinside
    · -- The replacement begins before the place, or at it.
      cases b with
      | nil =>
        rw [List.append_nil] at hw'
        rw [List.nil_append] at hr
        subst hw' hr
        refine .inl ⟨taken, rest, rfl, hrest, ?_⟩
        have hbehind := @Behind.append p w taken [] rest [] prev hm (.same rfl)
        rwa [List.append_nil, List.append_nil] at hbehind
      | cons d b => exact .inr ⟨d :: b, out, ⟨x, hw'.symm⟩, List.cons_ne_nil d b, hr⟩

/-- What follows a text that stands in both: the walk from there on, or the end of a beginning `u`
that the matches share with the replacement. -/
inductive Ahead (p : Lookbehind) (w u : List Char) (prev : Option Char) (z y' y : List Char) : Prop
  | walk : Rewritten p w prev y' y → Ahead p w u prev z y' y
  | shared {z₂ v a b : List Char} : z₂ ≠ [] → z₂ <:+ z → u = z₂ ++ v → y' = v ++ a → y = v ++ b →
      Ahead p w u prev z y' y

/-- No end of a text shows more of the replacement than `u`. -/
def Unseen (w u z : List Char) : Prop :=
  ∀ z₂ r, z₂ <:+ z → z₂ ≠ [] → z₂ <+: w ++ r → z₂ <+: u

/-- A text without the character that follows `u` in the replacement. -/
theorem unseen_of_not_mem {u w' z : List Char} {d : Char} (hd : d ∉ z) :
    Unseen (u ++ d :: w') u z := by
  intro z₂ r hsuffix hne hprefix
  rw [List.append_assoc, List.cons_append] at hprefix
  obtain ⟨b, hb⟩ := hprefix
  obtain ⟨v, hv, -⟩ | ⟨a, ha, hrest⟩ := List.append_eq_append_iff.mp hb
  · exact ⟨v, hv.symm⟩
  · cases a with
    | nil => exact ⟨[], by simpa using ha⟩
    | cons e a =>
      obtain ⟨rfl, -⟩ := List.cons.inj hrest
      refine absurd (hsuffix.subset ?_) hd
      rw [ha]
      exact List.mem_append_right u List.mem_cons_self

/-- A result that begins with a text in which the replacement cannot be seen. -/
theorem front {u : List Char} (hu : u <+: w) (htaken : ∀ {prev taken rest},
      (p prev (taken ++ rest)).head? = some (taken, rest) → u <+: taken)
    {z y : List Char} (hseen : Unseen w u z) (h : Rewritten p w prev s (z ++ y)) :
    ∃ y', s = z ++ y' ∧ Ahead p w u (before prev z) z y' y := by
  induction z generalizing prev s with
  | nil => exact ⟨s, rfl, .walk h⟩
  | cons c z ih =>
    rw [List.cons_append] at h
    generalize hout : c :: (z ++ y) = out at h
    cases h with
    | nil => cases hout
    | keep hno hrest =>
      obtain ⟨rfl, rfl⟩ := List.cons.inj hout
      have hlater : Unseen w u z := fun z₂ r hsuffix =>
        hseen z₂ r (hsuffix.trans (List.suffix_cons c z))
      obtain ⟨y', rfl, hahead⟩ := ih hlater hrest
      refine ⟨y', rfl, ?_⟩
      rw [before_cons]
      cases hahead with
      | walk hwalk => exact .walk hwalk
      | shared hne hsuffix hu hy' hy =>
        exact .shared hne (hsuffix.trans (List.suffix_cons c z)) hu hy' hy
    | @redact _ taken rest out hne hm hrest =>
      obtain ⟨v, hv⟩ := hseen (c :: z) out List.suffix_rfl (List.cons_ne_nil c z) ⟨y, hout⟩
      obtain ⟨w₂, rfl⟩ := hu
      obtain ⟨t, rfl⟩ := htaken hm
      rw [← hv, List.append_assoc, List.append_assoc, ← List.cons_append,
        List.append_cancel_left_eq] at hout
      refine ⟨v ++ (t ++ rest), ?_, .shared (List.cons_ne_nil c z) List.suffix_rfl hv.symm rfl hout⟩
      rw [← hv, List.append_assoc, List.append_assoc]

/-- A text that the replacement shows nothing of, but for a beginning `u` that the matches have
too. -/
structure Traceable (p : Lookbehind) (w u z : List Char) : Prop where
  mark : w ≠ []
  text : z ≠ []
  common : u <+: w
  taken : ∀ {prev taken rest}, (p prev (taken ++ rest)).head? = some (taken, rest) → u <+: taken
  seen : Unseen w u z
  start : ∀ v, v <:+ w → v ≠ [] → ∀ r, ¬ z <+: v ++ r

/-- A text without a character of the replacement that ends in none of those before it. -/
theorem Traceable.of_not_mem {u w' z t : List Char} {d e : Char} (hz : z = t ++ [e]) (hd : d ∉ z)
    (he : e ∉ u) (hstart : ∀ v, v <:+ u ++ d :: w' → v ≠ [] → ∀ r, ¬ z <+: v ++ r) :
    Traceable p (u ++ d :: w') [] z where
  mark := List.append_ne_nil_of_right_ne_nil u (List.cons_ne_nil d w')
  text := hz ▸ List.append_ne_nil_of_right_ne_nil t (List.cons_ne_nil e [])
  common := List.nil_prefix
  taken _ := List.nil_prefix
  seen := by
    intro z₂ r hsuffix hne hprefix
    have hu := unseen_of_not_mem hd z₂ r hsuffix hne hprefix
    obtain ⟨t', rfl⟩ := hsuffix
    have hlast := congrArg List.getLast? hz
    rw [List.getLast?_append_of_ne_nil t' hne, List.getLast?_concat] at hlast
    exact absurd (hu.subset (List.mem_of_getLast? hlast)) he
  start := hstart

/-- What stands in the result, and is not seen in the replacement, stood in the text, where no
match begins. -/
theorem trace {u x z y : List Char} (hz : Traceable p w u z) (h : Rewritten p w prev s out)
    (hout : out = x ++ (z ++ y)) :
    ∃ x' y', s = x' ++ (z ++ y') ∧ p (before prev x') (z ++ y') = [] ∧
      Behind p w x' (z ++ y') x ∧ Ahead p w u (before (before prev x') z) z y' y := by
  obtain ⟨x', s', rfl, hwalk, hbehind⟩ | ⟨v, r', hv, hv', hr⟩ := h.split hout
  · obtain ⟨y', rfl, hahead⟩ := front hz.common hz.taken hz.seen hwalk
    refine ⟨x', y', rfl, ?_, hbehind, hahead⟩
    generalize hr : z ++ y = r at hwalk
    generalize hs : z ++ y' = s at hwalk
    cases hwalk with
    | nil => exact absurd (List.append_eq_nil_iff.mp hr).1 hz.text
    | keep hno _ => exact hno
    | redact =>
      have hfront : z <+: w ++ _ := ⟨y, hr⟩
      exact absurd hfront (hz.start w List.suffix_rfl hz.mark _)
  · exact absurd ⟨y, hr⟩ (hz.start v hv hv' r')

/-- A substitution brings in no text that is not seen in the replacement. -/
theorem infix_of_sub {u z : List Char} (hp : Consumes p) (hz : Traceable p w u z)
    (h : z <:+: sub p w s) : z <:+: s := by
  obtain ⟨x, y, hout⟩ := h
  rw [List.append_assoc] at hout
  obtain ⟨x', y', rfl, -, -, -⟩ := (rewritten_sub hp w s).trace hz hout.symm
  exact ⟨x', y', List.append_assoc x' z y'⟩

/-- A run of characters up to one that the replacement has not, where all that matches is of that
kind. -/
theorem front_run {q : Char → Bool} {e : Char} (he : e ∉ w) (htaken : ∀ {prev taken rest},
      (p prev (taken ++ rest)).head? = some (taken, rest) → ∀ c ∈ taken, q c = true)
    {n r : List Char} (hn : ∀ c ∈ n, q c = true) (h : Rewritten p w prev s (n ++ e :: r)) :
    ∃ n' r', s = n' ++ e :: r' ∧ (∀ c ∈ n', q c = true) ∧ (n ≠ [] → n' ≠ []) := by
  generalize hout : n ++ e :: r = out at h
  induction h generalizing n with
  | nil => exact absurd (List.append_eq_nil_iff.mp hout).2 (List.cons_ne_nil e r)
  | @keep prev c cs out hno hrest ih =>
    cases n with
    | nil =>
      obtain ⟨rfl, rfl⟩ := List.cons.inj hout
      exact ⟨[], cs, rfl, by simp, fun h => absurd rfl h⟩
    | cons d n =>
      obtain ⟨rfl, hlater⟩ := List.cons.inj hout
      obtain ⟨hd, hn⟩ := List.forall_mem_cons.mp hn
      obtain ⟨n', r', rfl, hn', -⟩ := ih hn hlater
      exact ⟨d :: n', r', rfl, List.forall_mem_cons.mpr ⟨hd, hn'⟩, fun _ => List.cons_ne_nil d n'⟩
  | @redact prev taken rest out hne hm hrest ih =>
    have hlater : ∃ a, (∀ c ∈ a, q c = true) ∧ a ++ e :: r = out := by
      obtain ⟨b, hw, hr⟩ | ⟨a, rfl, hr⟩ := List.append_eq_append_iff.mp hout
      · cases b with
        | nil => exact ⟨[], by simp, by simpa using hr⟩
        | cons d b =>
          obtain ⟨rfl, -⟩ := List.cons.inj hr
          refine absurd ?_ he
          rw [hw]
          exact List.mem_append_right n List.mem_cons_self
      · exact ⟨a, fun c hc => hn c (List.mem_append_right w hc), hr.symm⟩
    obtain ⟨a, ha, hrest'⟩ := hlater
    obtain ⟨n', r', rfl, hn', -⟩ := ih ha hrest'
    refine ⟨taken ++ n', r', by rw [List.append_assoc], ?_, fun _ => ?_⟩
    · intro c hc
      exact (List.mem_append.mp hc).elim (htaken hm c) (hn' c)
    · exact List.append_ne_nil_of_left_ne_nil hne n'

end Rewritten

end Python.Regex
