import Mathlib.Data.List.Forall2
import Mathlib.Data.List.Infix
import Mathlib.Data.List.TakeWhile

/-!
# Regular expressions with backtracking

The engine of `re` tries the alternatives of a pattern in a fixed order and
takes the first one that lets the rest match. A `Pattern` is that order: the
list of ALL its ways to match a beginning of the text, most preferred first,
each with the text it took and the text it left. A sequence of patterns is
`flatMap`, and the match is the head of the list.

A greedy repetition lists its longest match first. Where what follows can
never begin with a repeated character, only that one counts
(`flatMap_many`), and the backtracking is gone from the reasoning.
-/

namespace Python.Regex

/-- The ways to match a beginning of the text: what is taken, what is left. -/
abbrev Pattern := List Char → List (List Char × List Char)

/-- `[p]*`. -/
def many (p : Char → Bool) : Pattern
  | [] => [([], [])]
  | c :: cs =>
    if p c then (many p cs).map (fun m => (c :: m.1, m.2)) ++ [([], c :: cs)] else [([], c :: cs)]

/-- `[p]+`. -/
def many1 (p : Char → Bool) : Pattern
  | [] => []
  | c :: cs => if p c then (many p cs).map (fun m => (c :: m.1, m.2)) else []

/-- `[p]{0,n}`. -/
def upTo (p : Char → Bool) : Nat → Pattern
  | n + 1, c :: cs =>
    if p c then (upTo p n cs).map (fun m => (c :: m.1, m.2)) ++ [([], c :: cs)] else [([], c :: cs)]
  | _, s => [([], s)]

/-- `[p]{1,n}`. -/
def oneUpTo (p : Char → Bool) (n : Nat) : Pattern
  | [] => []
  | c :: cs => if p c then (upTo p (n - 1) cs).map (fun m => (c :: m.1, m.2)) else []

/-- One character. -/
def char (d : Char) : Pattern
  | c :: cs => if c = d then [([c], cs)] else []
  | [] => []

/-- A text; `same d` are the characters that stand for its `d`. -/
def literal (same : Char → Char → Bool) : List Char → Pattern
  | [], s => [([], s)]
  | d :: ds, c :: cs => if same d c then (literal same ds cs).map (fun m => (c :: m.1, m.2)) else []
  | _ :: _, [] => []

/-- One pattern and then another. -/
def seq (p q : Pattern) : Pattern := fun s =>
  (p s).flatMap fun m => (q m.2).map fun m' => (m.1 ++ m'.1, m'.2)

/-- `$`: the end, or a line feed that ends the text. -/
def atEnd (s : List Char) : Bool := s = [] || s = ['\n']

/-- `finditer` of a pattern that takes at least one character: `skip` characters
belong to the match before. -/
def findIter {α : Type} (p : List Char → List (α × List Char)) : Nat → List Char → List α
  | _, [] => []
  | skip + 1, _ :: cs => findIter p skip cs
  | 0, c :: cs =>
    match (p (c :: cs)).head? with
    | some (a, rest) => a :: findIter p (cs.length - rest.length) cs
    | none => findIter p 0 cs

/-- `search`: the match that begins first. -/
def search {α : Type} (p : List Char → List α) (s : List Char) : Option α :=
  s.tails.findSome? fun t => (p t).head?

/-! ## Laws -/

/-- Nothing is found where no suffix of the text matches. -/
theorem findIter_eq_nil {α : Type} {p : List Char → List (α × List Char)} {s : List Char}
    (h : ∀ t, t <:+ s → p t = []) : findIter p 0 s = [] := by
  induction s with
  | nil => rfl
  | cons c cs ih =>
    have hhead : (p (c :: cs)).head? = none := by
      rw [h (c :: cs) List.suffix_rfl]
      rfl
    simp only [findIter, hhead]
    exact ih fun t ht => h t (ht.trans (List.suffix_cons c cs))

/-- A repetition whose continuation refuses every text that begins with a
repeated character takes all it can. -/
theorem flatMap_many {β : Type} {p : Char → Bool} {f : List Char × List Char → List β}
    (hf : ∀ taken c cs, p c = true → f (taken, c :: cs) = []) (s : List Char) :
    (many p s).flatMap f = f (s.takeWhile p, s.dropWhile p) := by
  induction s generalizing f with
  | nil => simp [many]
  | cons c cs ih =>
    unfold many
    by_cases hc : p c = true
    · have hrest : (many p cs).flatMap (fun m => f (c :: m.1, m.2)) =
          f (c :: cs.takeWhile p, cs.dropWhile p) := ih fun taken d ds hd => hf _ d ds hd
      rw [if_pos hc, List.flatMap_append, List.flatMap_map, hrest]
      simp [hf [] c cs hc, hc]
    · simp [hc]

theorem flatMap_many1 {β : Type} {p : Char → Bool} {f : List Char × List Char → List β}
    (hf : ∀ taken c cs, p c = true → f (taken, c :: cs) = []) {c : Char} {cs : List Char}
    (hc : p c = true) :
    (many1 p (c :: cs)).flatMap f = f ((c :: cs).takeWhile p, (c :: cs).dropWhile p) := by
  have hrest : (many p cs).flatMap (fun m => f (c :: m.1, m.2)) =
      f (c :: cs.takeWhile p, cs.dropWhile p) :=
    flatMap_many (f := fun m => f (c :: m.1, m.2)) (fun taken d ds hd => hf _ d ds hd) cs
  simp only [many1]
  rw [if_pos hc, List.flatMap_map, hrest]
  simp [hc]

theorem upTo_all {p : Char → Bool} : ∀ {n : Nat} {s : List Char}, (∀ c ∈ s, p c = true) →
    s.length ≤ n → ∃ rest, upTo p n s = (s, []) :: rest
  | n, [], _, _ => ⟨[], by cases n <;> rfl⟩
  | n + 1, c :: cs, h, hlen => by
    obtain ⟨rest, hrest⟩ := upTo_all (n := n) (fun d hd => h d (List.mem_cons_of_mem c hd))
      (Nat.le_of_succ_le_succ hlen)
    refine ⟨rest.map (fun m => (c :: m.1, m.2)) ++ [([], c :: cs)], ?_⟩
    rw [upTo, if_pos (h c List.mem_cons_self), hrest]
    rfl

theorem oneUpTo_all {p : Char → Bool} {n : Nat} {s : List Char} (hne : s ≠ [])
    (h : ∀ c ∈ s, p c = true) (hlen : s.length ≤ n) :
    ∃ rest, oneUpTo p n s = (s, []) :: rest := by
  cases s with
  | nil => exact absurd rfl hne
  | cons c cs =>
    obtain ⟨rest, hrest⟩ := upTo_all (n := n - 1) (fun d hd => h d (List.mem_cons_of_mem c hd))
      (Nat.le_sub_one_of_lt hlen)
    refine ⟨rest.map fun m => (c :: m.1, m.2), ?_⟩
    rw [oneUpTo, if_pos (h c List.mem_cons_self), hrest]
    rfl

theorem char_eq_nil {d : Char} {s : List Char} (h : d ∉ s) : char d s = [] := by
  cases s with
  | nil => rfl
  | cons c cs =>
    have hcd : c ≠ d := by
      rintro rfl
      exact h List.mem_cons_self
    rw [char, if_neg hcd]

/-! ## What a match takes -/

theorem mem_char {d : Char} {s : List Char} {m : List Char × List Char} (h : m ∈ char d s) :
    m.1 = [d] ∧ s = m.1 ++ m.2 := by
  cases s with
  | nil => exact absurd h List.not_mem_nil
  | cons c cs =>
    rw [char] at h
    split at h
    · rename_i hcd
      obtain rfl := List.mem_singleton.mp h
      exact ⟨by rw [hcd], rfl⟩
    · exact absurd h List.not_mem_nil

theorem mem_many {p : Char → Bool} {s : List Char} :
    ∀ {m : List Char × List Char}, m ∈ many p s → (∀ c ∈ m.1, p c = true) ∧ s = m.1 ++ m.2 := by
  induction s with
  | nil =>
    intro m h
    obtain rfl := List.mem_singleton.mp h
    exact ⟨by simp, rfl⟩
  | cons c cs ih =>
    intro m h
    unfold many at h
    split at h
    · rename_i hc
      rcases List.mem_append.mp h with h | h
      · obtain ⟨m', hm', rfl⟩ := List.mem_map.mp h
        obtain ⟨hall, rfl⟩ := ih hm'
        exact ⟨by simpa [hc] using hall, rfl⟩
      · obtain rfl := List.mem_singleton.mp h
        exact ⟨by simp, rfl⟩
    · obtain rfl := List.mem_singleton.mp h
      exact ⟨by simp, rfl⟩

theorem mem_many1 {p : Char → Bool} {s : List Char} {m : List Char × List Char}
    (h : m ∈ many1 p s) : m.1 ≠ [] ∧ (∀ c ∈ m.1, p c = true) ∧ s = m.1 ++ m.2 := by
  cases s with
  | nil => exact absurd h List.not_mem_nil
  | cons c cs =>
    rw [many1] at h
    split at h
    · rename_i hc
      obtain ⟨m', hm', rfl⟩ := List.mem_map.mp h
      obtain ⟨hall, rfl⟩ := mem_many hm'
      exact ⟨by simp, by simpa [hc] using hall, rfl⟩
    · exact absurd h List.not_mem_nil

theorem suffix_of_mem_many {p : Char → Bool} {s : List Char} {m : List Char × List Char}
    (h : m ∈ many p s) : m.2 <:+ s := ⟨m.1, (mem_many h).2.symm⟩

theorem suffix_of_mem_many1 {p : Char → Bool} {s : List Char} {m : List Char × List Char}
    (h : m ∈ many1 p s) : m.2 <:+ s := ⟨m.1, (mem_many1 h).2.2.symm⟩

theorem mem_literal {same : Char → Char → Bool} {ds : List Char} :
    ∀ {s : List Char} {m : List Char × List Char}, m ∈ literal same ds s →
      List.Forall₂ (fun d c => same d c = true) ds m.1 ∧ s = m.1 ++ m.2 := by
  induction ds with
  | nil =>
    intro s m h
    rw [literal] at h
    obtain rfl := List.mem_singleton.mp h
    exact ⟨.nil, rfl⟩
  | cons d ds ih =>
    intro s m h
    cases s with
    | nil => exact absurd h List.not_mem_nil
    | cons c cs =>
      rw [literal] at h
      split at h
      · rename_i hsame
        obtain ⟨m', hm', rfl⟩ := List.mem_map.mp h
        obtain ⟨htaken, rfl⟩ := ih hm'
        exact ⟨.cons hsame htaken, rfl⟩
      · exact absurd h List.not_mem_nil

theorem mem_upTo {p : Char → Bool} {n : Nat} :
    ∀ {s : List Char} {m : List Char × List Char}, m ∈ upTo p n s →
      (∀ c ∈ m.1, p c = true) ∧ m.1.length ≤ n ∧ s = m.1 ++ m.2 := by
  induction n with
  | zero =>
    intro s m h
    rw [upTo] at h
    · obtain rfl := List.mem_singleton.mp h
      exact ⟨by simp, by simp, rfl⟩
    · simp
  | succ n ih =>
    intro s m h
    cases s with
    | nil =>
      obtain rfl := List.mem_singleton.mp h
      exact ⟨by simp, by simp, rfl⟩
    | cons c cs =>
      rw [upTo] at h
      split at h
      · rename_i hc
        rcases List.mem_append.mp h with h | h
        · obtain ⟨m', hm', rfl⟩ := List.mem_map.mp h
          obtain ⟨hall, hlen, rfl⟩ := ih hm'
          exact ⟨by simpa [hc] using hall, by simpa using hlen, rfl⟩
        · obtain rfl := List.mem_singleton.mp h
          exact ⟨by simp, by simp, rfl⟩
      · obtain rfl := List.mem_singleton.mp h
        exact ⟨by simp, by simp, rfl⟩

theorem mem_oneUpTo {p : Char → Bool} {n : Nat} {s : List Char} {m : List Char × List Char}
    (h : m ∈ oneUpTo p (n + 1) s) :
    m.1 ≠ [] ∧ (∀ c ∈ m.1, p c = true) ∧ m.1.length ≤ n + 1 ∧ s = m.1 ++ m.2 := by
  cases s with
  | nil => exact absurd h List.not_mem_nil
  | cons c cs =>
    rw [oneUpTo] at h
    split at h
    · rename_i hc
      obtain ⟨m', hm', rfl⟩ := List.mem_map.mp h
      obtain ⟨hall, hlen, rfl⟩ := mem_upTo hm'
      exact ⟨by simp, by simpa [hc] using hall, by simpa using hlen, rfl⟩
    · exact absurd h List.not_mem_nil

/-- A greedy repetition stops at its bound, or where the repeated characters do. -/
theorem head?_upTo {p : Char → Bool} {n : Nat} :
    ∀ {s : List Char} {m : List Char × List Char}, (upTo p n s).head? = some m →
      m.1.length = n ∨ ∀ c ∈ m.2.head?, p c = false := by
  induction n with
  | zero =>
    intro s m h
    rw [upTo] at h
    · cases h
      exact .inl rfl
    · simp
  | succ n ih =>
    intro s m h
    cases s with
    | nil =>
      cases h
      exact .inr (by simp)
    | cons c cs =>
      rw [upTo] at h
      split at h
      · rw [List.head?_append] at h
        cases hhead : (upTo p n cs).head? with
        | none =>
          rw [List.head?_eq_none_iff] at hhead
          cases n <;> cases cs <;> simp [upTo] at hhead
          split at hhead <;> simp at hhead
        | some m' =>
          rw [List.head?_map, hhead] at h
          cases h
          simpa using ih hhead
      · rename_i hc
        cases h
        exact .inr (by simpa using hc)

theorem head?_oneUpTo {p : Char → Bool} {n : Nat} {s : List Char} {m : List Char × List Char}
    (h : (oneUpTo p (n + 1) s).head? = some m) :
    m.1.length = n + 1 ∨ ∀ c ∈ m.2.head?, p c = false := by
  cases s with
  | nil => exact absurd h (by simp [oneUpTo])
  | cons c cs =>
    rw [oneUpTo] at h
    split at h
    · rw [List.head?_map] at h
      obtain ⟨m', hm', rfl⟩ := Option.map_eq_some_iff.mp h
      simpa using head?_upTo hm'
    · exact absurd h (by simp)

/-- A greedy repetition takes all it can. -/
theorem head?_many {p : Char → Bool} {s : List Char} :
    ∀ {m : List Char × List Char}, (many p s).head? = some m → ∀ c ∈ m.2.head?, p c = false := by
  induction s with
  | nil =>
    intro m h
    cases h
    simp
  | cons c cs ih =>
    intro m h
    unfold many at h
    split at h
    · cases hhead : (many p cs).head? with
      | none =>
        cases cs with
        | nil => cases hhead
        | cons d ds =>
          rw [List.head?_eq_none_iff] at hhead
          unfold many at hhead
          split at hhead <;> simp at hhead
      | some m' =>
        rw [List.head?_append, List.head?_map, hhead] at h
        cases h
        exact ih (m := m') hhead
    · rename_i hc
      cases h
      simpa using hc

theorem head?_many1 {p : Char → Bool} {s : List Char} {m : List Char × List Char}
    (h : (many1 p s).head? = some m) : ∀ c ∈ m.2.head?, p c = false := by
  cases s with
  | nil => cases h
  | cons c cs =>
    rw [many1] at h
    split at h
    · rw [List.head?_map] at h
      obtain ⟨m', hm', rfl⟩ := Option.map_eq_some_iff.mp h
      exact head?_many (m := m') hm'
    · cases h

/-- The first match of a sequence is the first one behind some match of its beginning. -/
theorem exists_of_head?_flatMap {α β : Type} {l : List α} {f : α → List β} {b : β}
    (h : (l.flatMap f).head? = some b) : ∃ a ∈ l, (f a).head? = some b := by
  rw [List.head?_flatMap] at h
  exact List.exists_of_findSome?_eq_some h

/-- Every match `finditer` finds is the first one at some place of the text. -/
theorem mem_findIter {α : Type} {p : List Char → List (α × List Char)} {a : α} {s : List Char} :
    ∀ {skip : Nat}, a ∈ findIter p skip s → ∃ t rest, t <:+ s ∧ (p t).head? = some (a, rest) := by
  induction s with
  | nil => exact fun h => absurd h (by simp [findIter])
  | cons c cs ih =>
    intro skip h
    have hlater : ∀ {skip}, a ∈ findIter p skip cs →
        ∃ t rest, t <:+ c :: cs ∧ (p t).head? = some (a, rest) := by
      intro skip h
      obtain ⟨t, rest, ht, hm⟩ := ih h
      exact ⟨t, rest, ht.trans (List.suffix_cons c cs), hm⟩
    cases skip with
    | succ skip => exact hlater h
    | zero =>
      rw [findIter] at h
      split at h
      · rename_i a' rest hm
        rcases List.mem_cons.mp h with rfl | h
        · exact ⟨c :: cs, rest, List.suffix_rfl, hm⟩
        · exact hlater h
      · exact hlater h

theorem mem_seq {p q : Pattern} {s : List Char} {m : List Char × List Char} :
    m ∈ seq p q s ↔ ∃ a b, (a, b) ∈ p s ∧ ∃ c, (c, m.2) ∈ q b ∧ m.1 = a ++ c := by
  unfold seq
  rw [List.mem_flatMap]
  constructor
  · rintro ⟨⟨a, b⟩, hab, h⟩
    obtain ⟨⟨c, rest⟩, hc, rfl⟩ := List.mem_map.mp h
    exact ⟨a, b, hab, c, hc, rfl⟩
  · rintro ⟨a, b, hab, c, hc, h⟩
    exact ⟨(a, b), hab, List.mem_map.mpr ⟨(c, m.2), hc, by rw [← h]⟩⟩

/-! ## Matches of a text that is put together -/

theorem mem_seq_append {p q : Pattern} {s a b c rest : List Char} (hp : (a, b) ∈ p s)
    (hq : (c, rest) ∈ q b) : (a ++ c, rest) ∈ seq p q s :=
  mem_seq.mpr ⟨a, b, hp, c, hq, rfl⟩

theorem mem_literal_append {same : Char → Char → Bool} {ds cs : List Char}
    (h : List.Forall₂ (fun d c => same d c = true) ds cs) (rest : List Char) :
    (cs, rest) ∈ literal same ds (cs ++ rest) := by
  induction h with
  | nil => exact List.mem_singleton_self _
  | @cons d c ds cs hsame _ ih =>
    rw [List.cons_append, literal, if_pos hsame]
    exact List.mem_map.mpr ⟨(cs, rest), ih, rfl⟩

theorem mem_char_cons (d : Char) (rest : List Char) : ([d], rest) ∈ char d (d :: rest) := by
  rw [char, if_pos rfl]
  exact List.mem_singleton_self _

theorem mem_many_append {p : Char → Bool} {ds : List Char} (h : ∀ c ∈ ds, p c = true)
    (rest : List Char) : (ds, rest) ∈ many p (ds ++ rest) := by
  induction ds with
  | nil =>
    cases rest with
    | nil => exact List.mem_singleton_self _
    | cons c rest =>
      rw [List.nil_append, many]
      split
      · exact List.mem_append_right _ (List.mem_singleton_self _)
      · exact List.mem_singleton_self _
  | cons d ds ih =>
    obtain ⟨hd, hds⟩ := List.forall_mem_cons.mp h
    rw [List.cons_append, many, if_pos hd]
    exact List.mem_append_left _ (List.mem_map.mpr ⟨(ds, rest), ih hds, rfl⟩)

theorem mem_many1_append {p : Char → Bool} {ds : List Char} (hne : ds ≠ [])
    (h : ∀ c ∈ ds, p c = true) (rest : List Char) : (ds, rest) ∈ many1 p (ds ++ rest) := by
  cases ds with
  | nil => exact absurd rfl hne
  | cons d ds =>
    obtain ⟨hd, hds⟩ := List.forall_mem_cons.mp h
    rw [List.cons_append, many1, if_pos hd]
    exact List.mem_map.mpr ⟨(ds, rest), mem_many_append hds rest, rfl⟩

theorem mem_upTo_append {p : Char → Bool} {ds : List Char} (h : ∀ c ∈ ds, p c = true) {n : Nat}
    (hlen : ds.length ≤ n) (rest : List Char) : (ds, rest) ∈ upTo p n (ds ++ rest) := by
  induction ds generalizing n with
  | nil =>
    cases n with
    | zero => exact List.mem_singleton_self _
    | succ n =>
      cases rest with
      | nil => exact List.mem_singleton_self _
      | cons c rest =>
        rw [List.nil_append, upTo]
        split
        · exact List.mem_append_right _ (List.mem_singleton_self _)
        · exact List.mem_singleton_self _
  | cons d ds ih =>
    obtain ⟨hd, hds⟩ := List.forall_mem_cons.mp h
    cases n with
    | zero => exact absurd hlen (Nat.not_succ_le_zero _)
    | succ n =>
      rw [List.cons_append, upTo, if_pos hd]
      exact List.mem_append_left _
        (List.mem_map.mpr ⟨(ds, rest), ih hds (Nat.le_of_succ_le_succ hlen), rfl⟩)

/-- A bounded repetition may take any beginning of the repeated characters. -/
theorem mem_oneUpTo_append {p : Char → Bool} {ds : List Char} (hne : ds ≠ [])
    (h : ∀ c ∈ ds, p c = true) {n : Nat} (hlen : ds.length ≤ n) (rest : List Char) :
    (ds, rest) ∈ oneUpTo p n (ds ++ rest) := by
  cases ds with
  | nil => exact absurd rfl hne
  | cons d ds =>
    obtain ⟨hd, hds⟩ := List.forall_mem_cons.mp h
    rw [List.cons_append, oneUpTo, if_pos hd]
    exact List.mem_map.mpr
      ⟨(ds, rest), mem_upTo_append hds (Nat.le_sub_one_of_lt hlen) rest, rfl⟩

/-- A greedy repetition takes the repeated characters that are there. -/
theorem head?_many_append {p : Char → Bool} {a b : List Char} (ha : ∀ c ∈ a, p c = true)
    (hb : ∀ c ∈ b.head?, p c = false) : (many p (a ++ b)).head? = some (a, b) := by
  induction a with
  | nil =>
    cases b with
    | nil => rfl
    | cons c cs =>
      have hc : ¬p c = true := Bool.eq_false_iff.mp (hb c rfl)
      rw [List.nil_append, many, if_neg hc]
      rfl
  | cons c a ih =>
    have hrest := ih fun d hd => ha d (List.mem_cons_of_mem c hd)
    rw [List.cons_append, many, if_pos (ha c List.mem_cons_self), List.head?_append,
      List.head?_map, hrest]
    rfl

theorem head?_many1_append {p : Char → Bool} {a b : List Char} (hne : a ≠ [])
    (ha : ∀ c ∈ a, p c = true) (hb : ∀ c ∈ b.head?, p c = false) :
    (many1 p (a ++ b)).head? = some (a, b) := by
  cases a with
  | nil => exact absurd rfl hne
  | cons c a =>
    have hrest := head?_many_append (fun d hd => ha d (List.mem_cons_of_mem c hd)) hb
    rw [List.cons_append, many1, if_pos (ha c List.mem_cons_self), List.head?_map, hrest]
    rfl

/-- `finditer` goes on behind the match. -/
theorem findIter_skip {α : Type} (p : List Char → List (α × List Char)) (a b : List Char) :
    findIter p a.length (a ++ b) = findIter p 0 b := by
  induction a with
  | nil => rfl
  | cons c a ih => exact ih

/-- `finditer` of a text that begins with a match. -/
theorem findIter_append {α : Type} {p : List Char → List (α × List Char)} {m : α}
    {a b : List Char} (hne : a ≠ []) (h : (p (a ++ b)).head? = some (m, b)) :
    findIter p 0 (a ++ b) = m :: findIter p 0 b := by
  cases a with
  | nil => exact absurd rfl hne
  | cons c a =>
    have hlen : (a ++ b).length - b.length = a.length := by
      rw [List.length_append]
      omega
    rw [List.cons_append] at h ⊢
    simp only [findIter, h]
    rw [hlen, findIter_skip]

/-- `finditer` of a text with no match at its first character. -/
theorem findIter_cons {α : Type} {p : List Char → List (α × List Char)} {c : Char}
    {cs : List Char} (h : p (c :: cs) = []) : findIter p 0 (c :: cs) = findIter p 0 cs := by
  simp only [findIter, h]
  rfl

end Python.Regex
