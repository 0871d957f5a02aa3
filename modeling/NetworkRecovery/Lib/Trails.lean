import Mathlib.Data.List.Induction

/-!
# Trails, and their repetitions

A trail is a list of edges, each of which leaves the state that the one before it has come
to. An edge is named by a key, and of the edges with one key the first is kept
(`keepFirst`). What is kept is again a trail, to the same end, exactly where every stretch
of repetitions comes back to where it began (`trail_keepFirst_iff`): in particular where
nothing is repeated.
-/

namespace Trails

variable {S E K : Type} (src tgt : E → S)

/-- Where the edges lead. -/
def endOf (s : S) (es : List E) : S := (es.getLast?.map tgt).getD s

/-- The edges follow one another. -/
def Trail (s : S) : List E → Prop
  | [] => True
  | e :: es => src e = s ∧ Trail (tgt e) es

variable {src tgt} {s : S}

@[simp] theorem endOf_concat (es : List E) (e : E) : endOf tgt s (es ++ [e]) = tgt e := by
  rw [endOf, List.getLast?_concat]
  rfl

theorem endOf_cons (e : E) (es : List E) : endOf tgt s (e :: es) = endOf tgt (tgt e) es := by
  cases es using List.reverseRecOn with
  | nil => rfl
  | append_singleton es f => rw [← List.cons_append, endOf_concat, endOf_concat]

theorem trail_concat {es : List E} {e : E} :
    Trail src tgt s (es ++ [e]) ↔ Trail src tgt s es ∧ src e = endOf tgt s es := by
  induction es generalizing s with
  | nil => exact ⟨fun h => ⟨trivial, h.1⟩, fun h => ⟨h.2, trivial⟩⟩
  | cons f es ih =>
    rw [List.cons_append, Trail, Trail, ih, and_assoc, endOf_cons]

/-- The states that a trail goes through follow one another by its edges. -/
theorem Trail.isChain {R : S → S → Prop} {es : List E} (hstep : ∀ e ∈ es, R (src e) (tgt e))
    (h : Trail src tgt s es) : (s :: es.map tgt).IsChain R := by
  induction es generalizing s with
  | nil => exact .singleton s
  | cons e es ih =>
    obtain ⟨rfl, hrest⟩ := h
    obtain ⟨he, hes⟩ := List.forall_mem_cons.mp hstep
    exact List.isChain_cons_cons.mpr ⟨he, ih hes hrest⟩

theorem getLast?_map_tgt (es : List E) : (s :: es.map tgt).getLast? = some (endOf tgt s es) := by
  cases es using List.reverseRecOn with
  | nil => rfl
  | append_singleton es e =>
    rw [List.map_append, List.map_singleton, ← List.cons_append, List.getLast?_concat, endOf_concat]

instance instDecidableTrail [DecidableEq S] : (s : S) → (es : List E) → Decidable (Trail src tgt s es)
  | _, [] => .isTrue trivial
  | s, e :: es =>
    have := instDecidableTrail (tgt e) es
    inferInstanceAs (Decidable (src e = s ∧ Trail src tgt (tgt e) es))

/-! ## Repetitions -/

variable [DecidableEq K] (key : E → K)

/-- The first edge with each key. -/
def keepFirst (seen : List K) : List E → List E
  | [] => []
  | e :: es => if key e ∈ seen then keepFirst seen es else e :: keepFirst (key e :: seen) es

/-- The keys of the edges. -/
abbrev keys (es : List E) : List K := es.map key

variable {key}

theorem keepFirst_concat (seen : List K) (es : List E) (e : E) :
    keepFirst key seen (es ++ [e]) =
      if key e ∈ seen ∨ key e ∈ keys key es then keepFirst key seen es
      else keepFirst key seen es ++ [e] := by
  induction es generalizing seen with
  | nil => simp only [List.nil_append, keepFirst, keys, List.map_nil, List.not_mem_nil, or_false]
  | cons f es ih =>
    rw [List.cons_append, keepFirst, keepFirst]
    by_cases hf : key f ∈ seen
    · have hsame : (key e ∈ seen ∨ key e ∈ keys key (f :: es)) ↔
          (key e ∈ seen ∨ key e ∈ keys key es) := by
        rw [keys, List.map_cons, List.mem_cons]
        constructor
        · rintro (h | h | h)
          · exact .inl h
          · exact .inl (h ▸ hf)
          · exact .inr h
        · exact Or.imp_right .inr
      rw [if_pos hf, if_pos hf, ih, if_congr hsame rfl rfl]
    · have hsame : (key e ∈ key f :: seen ∨ key e ∈ keys key es) ↔
          (key e ∈ seen ∨ key e ∈ keys key (f :: es)) := by
        rw [keys, keys, List.map_cons, List.mem_cons, List.mem_cons, or_assoc, or_left_comm]
      rw [if_neg hf, if_neg hf, ih, if_congr hsame rfl rfl]
      split <;> rfl

theorem keepFirst_sublist (seen : List K) (es : List E) : (keepFirst key seen es).Sublist es := by
  induction es generalizing seen with
  | nil => exact List.Sublist.refl _
  | cons e es ih =>
    rw [keepFirst]
    split
    next => exact (ih seen).cons e
    next => exact (ih _).cons_cons e

variable (key) in
/-- The last edge, if there is one, repeats none before it. -/
def EndsFresh (es : List E) : Prop :=
  ∀ init e, es = init ++ [e] → key e ∉ keys key init

variable (key) in
/-- The first edge, if there is one, repeats none of those before. -/
def FreshAfter (es : List E) (after : List E) : Prop :=
  ∀ e rest, after = e :: rest → key e ∉ keys key es

variable (src tgt key) in
/-- Every stretch of repetitions, between edges that repeat none, comes back to where it
began. -/
def RepeatsReturn (s : S) (es : List E) : Prop :=
  ∀ before run after, es = before ++ run ++ after → EndsFresh key before →
    (∀ e ∈ run, key e ∈ keys key before) → FreshAfter key (before ++ run) after →
      endOf tgt s (before ++ run) = endOf tgt s before

variable (key) in
/-- Edges end with a stretch of repetitions, perhaps with none. -/
theorem exists_repetitions (es : List E) :
    ∃ before run, es = before ++ run ∧ EndsFresh key before ∧ ∀ e ∈ run, key e ∈ keys key before := by
  induction es using List.reverseRecOn with
  | nil =>
    refine ⟨[], [], rfl, fun init e h => ?_, nofun⟩
    exact absurd h.symm (List.concat_ne_nil _ _)
  | append_singleton es e ih =>
    obtain ⟨before, run, rfl, hfresh, hrun⟩ := ih
    by_cases he : key e ∈ keys key (before ++ run)
    · refine ⟨before, run ++ [e], List.append_assoc _ _ _, hfresh, fun f hf => ?_⟩
      obtain hf | hf := List.mem_append.mp hf
      · exact hrun f hf
      · obtain rfl := List.mem_singleton.mp hf
        rw [keys, List.map_append, List.mem_append] at he
        obtain he | he := he
        · exact he
        · obtain ⟨g, hg, hkey⟩ := List.mem_map.mp he
          exact hkey ▸ hrun g hg
    · refine ⟨before ++ run ++ [e], [], (List.append_nil _).symm, fun init f h => ?_, nofun⟩
      obtain ⟨rfl, hlast⟩ := List.append_inj' h rfl
      obtain rfl := List.singleton_inj.mp hlast
      exact he

theorem keepFirst_repetitions {before run : List E} (hrun : ∀ e ∈ run, key e ∈ keys key before) :
    keepFirst key [] (before ++ run) = keepFirst key [] before := by
  induction run using List.reverseRecOn with
  | nil => rw [List.append_nil]
  | append_singleton run e ih =>
    have he : key e ∈ keys key (before ++ run) := by
      rw [keys, List.map_append]
      exact List.mem_append_left _ (hrun e (List.mem_append_right _ List.mem_cons_self))
    rw [← List.append_assoc, keepFirst_concat, if_pos (.inr he)]
    exact ih fun f hf => hrun f (List.mem_append_left _ hf)

/-- What is kept ends where the repetitions begin. -/
theorem endOf_keepFirst {before run : List E} (hfresh : EndsFresh key before)
    (hrun : ∀ e ∈ run, key e ∈ keys key before) :
    endOf tgt s (keepFirst key [] (before ++ run)) = endOf tgt s before := by
  rw [keepFirst_repetitions hrun]
  cases before using List.reverseRecOn with
  | nil => rfl
  | append_singleton before e =>
    have he : ¬ (key e ∈ ([] : List K) ∨ key e ∈ keys key before) := by
      rintro (h | h)
      · exact absurd h List.not_mem_nil
      · exact hfresh before e rfl h
    rw [keepFirst_concat, if_neg he, endOf_concat, endOf_concat]

/-- What is kept of a trail is a trail where each edge that repeats none leaves the end of
what is kept before it. -/
theorem trail_keepFirst {es : List E} (h : Trail src tgt s es) :
    Trail src tgt s (keepFirst key [] es) ↔
      ∀ before e after, es = before ++ e :: after → key e ∉ keys key before →
        endOf tgt s (keepFirst key [] before) = endOf tgt s before := by
  induction es using List.reverseRecOn with
  | nil =>
    refine iff_of_true trivial fun before e after heq => ?_
    exact absurd heq.symm (List.append_ne_nil_of_right_ne_nil _ (List.cons_ne_nil _ _))
  | append_singleton es e ih =>
    obtain ⟨hes, hsrc⟩ := trail_concat.mp h
    have hsplits : (∀ before f after, es ++ [e] = before ++ f :: after → key f ∉ keys key before →
        endOf tgt s (keepFirst key [] before) = endOf tgt s before) ↔
        Trail src tgt s (keepFirst key [] es) ∧ (key e ∉ keys key es →
          endOf tgt s (keepFirst key [] es) = endOf tgt s es) := by
      rw [ih hes]
      constructor
      · intro hall
        refine ⟨fun before f after heq => hall before f (after ++ [e]) ?_, hall es e [] rfl⟩
        rw [heq, List.append_assoc, List.cons_append]
      · rintro ⟨hall, hlast⟩ before f after heq hfresh
        cases after using List.reverseRecOn with
        | nil =>
          obtain ⟨rfl, hef⟩ := List.append_inj' heq rfl
          obtain rfl := List.singleton_inj.mp hef
          exact hlast hfresh
        | append_singleton after g =>
          rw [← List.cons_append, ← List.append_assoc] at heq
          exact hall before f after (List.append_inj' heq rfl).1 hfresh
    rw [hsplits, keepFirst_concat]
    by_cases he : key e ∈ keys key es
    · rw [if_pos (.inr he)]
      exact ⟨fun htrail => ⟨htrail, fun hfresh => absurd he hfresh⟩, fun hand => hand.1⟩
    · rw [if_neg (not_or.mpr ⟨List.not_mem_nil, he⟩), trail_concat, hsrc]
      exact and_congr_right fun _ => ⟨fun heq _ => heq.symm, fun heq => (heq he).symm⟩

/-- What is kept of a trail is a trail to the same end where every stretch of repetitions
comes back to where it began, and only there. -/
theorem trail_keepFirst_iff {es : List E} (h : Trail src tgt s es) :
    Trail src tgt s (keepFirst key [] es) ∧
        endOf tgt s (keepFirst key [] es) = endOf tgt s es ↔ RepeatsReturn tgt key s es := by
  rw [trail_keepFirst h]
  constructor
  · rintro ⟨hsplits, hend⟩ before run after heq hfresh hrun hafter
    have hreturn : endOf tgt s (keepFirst key [] (before ++ run)) = endOf tgt s (before ++ run) := by
      cases after with
      | nil =>
        rw [List.append_nil] at heq
        rw [← heq]
        exact hend
      | cons e after => exact hsplits (before ++ run) e after heq (hafter e after rfl)
    rw [← hreturn]
    exact endOf_keepFirst hfresh hrun
  · intro hreturn
    have hbegins : ∀ part after, es = part ++ after → FreshAfter key part after →
        endOf tgt s (keepFirst key [] part) = endOf tgt s part := by
      intro part after heq hafter
      obtain ⟨before, run, rfl, hfresh, hrun⟩ := exists_repetitions key part
      rw [endOf_keepFirst hfresh hrun]
      exact (hreturn before run after heq hfresh hrun hafter).symm
    constructor
    · intro before e after heq hnew
      refine hbegins before (e :: after) heq ?_
      rintro f rest hcons
      obtain rfl := (List.cons.inj hcons).1
      exact hnew
    · refine hbegins es [] (List.append_nil es).symm fun e rest hnil => ?_
      cases hnil

omit [DecidableEq K] in
/-- Where no key comes twice, nothing is repeated. -/
theorem repeatsReturn_of_nodup {es : List E} (h : (keys key es).Nodup) : RepeatsReturn tgt key s es := by
  rintro before run after rfl - hrun -
  cases run with
  | nil => rw [List.append_nil]
  | cons e run =>
    rw [keys, List.map_append, List.map_append, List.append_assoc] at h
    refine absurd rfl ((List.nodup_append.mp h).2.2 (key e) (hrun e List.mem_cons_self) (key e) ?_)
    exact List.mem_append_left _ List.mem_cons_self

end Trails
