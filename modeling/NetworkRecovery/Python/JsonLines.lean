import NetworkRecovery.Python.JsonText

/-!
# What can be read from a line

A text that leaves the characters beyond ASCII as they are has escapes for ASCII only
(`tame_dumps`). Cut at line breaks, as `splitlines` does, the pieces begin and end between
escapes, so that the same holds of each of them (`splitLines_tame`). Whatever is read from a
piece is therefore made of the characters of the piece and of ASCII (`loads_holds`): a string
with a line break beyond ASCII is never read from a line.
-/

namespace Python

/-! ## Escapes -/

/-- A text in which a backslash begins the escape of an ASCII character. -/
inductive Tame : List Char → Prop where
  | nil : Tame []
  | plain {c : Char} {cs : List Char} (hc : c ≠ '\\') (h : Tame cs) : Tame (c :: cs)
  | escape {c : Char} {rest cs : List Char} (hc : c.toNat < 0x7F)
    (hrest : escapeChar false c = '\\' :: rest) (h : Tame cs) : Tame (escapeChar false c ++ cs)

theorem Tame.append {s t : List Char} (hs : Tame s) (ht : Tame t) : Tame (s ++ t) := by
  induction hs with
  | nil => exact ht
  | plain hc _ ih => exact .plain hc ih
  | escape hc hrest _ ih =>
    rw [List.append_assoc]
    exact .escape hc hrest ih

theorem Tame.of_plain {s : List Char} (h : ∀ c ∈ s, c ≠ '\\') : Tame s := by
  induction s with
  | nil => exact .nil
  | cons c cs ih =>
    exact .plain (h c List.mem_cons_self) (ih fun d hd => h d (List.mem_cons_of_mem _ hd))

theorem Tame.of_all {s : List Char} (h : s.all (fun c => decide (c ≠ '\\')) = true) : Tame s :=
  .of_plain (forall_mem_of_all h)

theorem Tame.tail {c : Char} {cs : List Char} (hc : c ≠ '\\') (h : Tame (c :: cs)) : Tame cs := by
  generalize hs : c :: cs = s at h
  cases h with
  | nil => cases hs
  | plain _ htail =>
    cases hs
    exact htail
  | escape _ hrest _ =>
    rw [hrest, List.cons_append] at hs
    exact absurd (List.cons.inj hs).1 hc

/-- A character is written as it is, or is ASCII and escaped. -/
theorem escapeChar_cases (c : Char) : escapeChar false c = [c] ∧ c ≠ '\\' ∨
    c.toNat < 0x7F ∧ ∃ rest, escapeChar false c = '\\' :: rest := by
  by_cases hc : c.toNat < 0x7F
  · have hrow := of_table (p := fun c => (escapeChar false c == [c] && c != '\\') ||
      (escapeChar false c).head? == some '\\') (by decide +kernel) hc
    rw [Bool.or_eq_true, Bool.and_eq_true, beq_iff_eq, bne_iff_ne, beq_iff_eq] at hrow
    exact hrow.imp_right fun hhead => ⟨hc, _, List.eq_cons_of_mem_head? hhead⟩
  · refine .inl ⟨?_, ?_⟩
    · rw [escapeChar_beyond false (by omega), if_pos rfl]
    · rintro rfl
      exact hc (by decide)

theorem tame_escapeChar (c : Char) : Tame (escapeChar false c) := by
  rcases escapeChar_cases c with ⟨heq, hc⟩ | ⟨hc, rest, hrest⟩
  · rw [heq]
    exact .plain hc .nil
  · rw [← List.append_nil (escapeChar false c)]
    exact .escape hc hrest .nil

theorem tame_quote (s : String) : Tame (quote false s) := by
  have hbody : ∀ cs : List Char, Tame (escapeText false cs) := by
    intro cs
    induction cs with
    | nil => exact .nil
    | cons c cs ih =>
      unfold escapeText at ih ⊢
      rw [List.flatMap_cons]
      exact (tame_escapeChar c).append ih
  exact .plain (by decide) ((hbody _).append (.plain (by decide) .nil))

theorem tame_pad (b : Bool) : Tame (pad b) := by
  cases b with
  | false => exact .nil
  | true => exact .plain (by decide) .nil

theorem tame_newline (sty : Style) (level : Nat) : Tame (sty.newline level) := by
  apply Tame.of_plain
  intro c hc
  unfold Style.newline at hc
  split at hc
  · cases hc
  · rcases List.mem_cons.mp hc with rfl | hc
    · decide
    · rw [List.eq_of_mem_replicate hc]
      decide

theorem tame_number {s : List Char} (h : ∀ c ∈ s, isNumberChar c = true) : Tame s := by
  apply Tame.of_plain
  rintro c hc rfl
  exact absurd (h _ hc) (by decide)

theorem tame_floatText (sty : Style) (x : FloatVal) : Tame (floatText sty x) := by
  cases x with
  | finite d => exact tame_number fun _ h => isNumberChar_text h
  | inf neg =>
    cases hn : sty.nanText <;> cases neg <;> simp only [floatText, hn]
    all_goals exact .of_all rfl
  | nan =>
    cases hn : sty.nanText <;> simp only [floatText, hn]
    all_goals exact .of_all rfl

mutual

theorem tame_dumpValue {sty : Style} (hraw : sty.ascii = false) :
    ∀ (v : Value) (level : Nat), Tame (dumpValue sty level v)
  | .none, _ => .of_all (s := "null".toList) rfl
  | .bool true, _ => .of_all (s := "true".toList) rfl
  | .bool false, _ => .of_all (s := "false".toList) rfl
  | .int n, _ => tame_number fun _ h => isNumberChar_intText h
  | .float x, _ => tame_floatText sty x
  | .str s, _ => by
    unfold dumpValue
    rw [hraw]
    exact tame_quote s
  | .list [], _ => .of_all (s := ['[', ']']) rfl
  | .list (x :: xs), level => by
    unfold dumpValue
    exact .plain (by decide) (((tame_newline _ _).append (tame_dumpValue hraw x _)).append
      ((tame_dumpItems hraw xs _).append ((tame_newline _ _).append (.of_all rfl))))
  | .dict [], _ => .of_all (s := ['{', '}']) rfl
  | .dict ((k, v) :: kvs), level => by
    unfold dumpValue
    rw [hraw]
    exact .plain (by decide) (((tame_newline _ _).append ((tame_quote k).append
      (.plain (by decide) ((tame_pad _).append (tame_dumpValue hraw v _))))).append
      ((tame_dumpEntries hraw kvs _).append ((tame_newline _ _).append (.of_all rfl))))

theorem tame_dumpItems {sty : Style} (hraw : sty.ascii = false) :
    ∀ (xs : List Value) (level : Nat), Tame (dumpItems sty level xs)
  | [], _ => .nil
  | x :: xs, level => by
    unfold dumpItems
    exact .plain (by decide) ((tame_pad _).append ((tame_newline _ _).append
      ((tame_dumpValue hraw x _).append (tame_dumpItems hraw xs _))))

theorem tame_dumpEntries {sty : Style} (hraw : sty.ascii = false) :
    ∀ (kvs : Dict) (level : Nat), Tame (dumpEntries sty level kvs)
  | [], _ => .nil
  | (k, v) :: kvs, level => by
    unfold dumpEntries
    rw [hraw]
    exact .plain (by decide) ((tame_pad _).append ((tame_newline _ _).append
      ((tame_quote k).append (.plain (by decide) ((tame_pad _).append
        ((tame_dumpValue hraw v _).append (tame_dumpEntries hraw kvs _)))))))

end

/-- With `ensure_ascii=False`, only ASCII is escaped. -/
theorem tame_dumps {sty : Style} (hraw : sty.ascii = false) (v : Value) : Tame (dumps sty v) :=
  tame_dumpValue hraw v 0

/-! ## Pieces -/

/-- No escape has white space in it. -/
theorem isSpace_of_mem_escape {c d : Char} {rest : List Char} (hc : c.toNat < 0x7F)
    (hrest : escapeChar false c = '\\' :: rest) (hd : d ∈ escapeChar false c) :
    isSpace d = false := by
  have hhead : (escapeChar false c).head? = some '\\' := by
    rw [hrest]
    rfl
  have hrow := of_table (p := fun c => (escapeChar false c).head? != some '\\' ||
    (escapeChar false c).all fun d => !isSpace d) (by decide +kernel) hc
  rw [Bool.or_eq_true, bne_iff_ne, or_iff_right (not_not_intro hhead), List.all_eq_true] at hrow
  simpa using hrow d hd

/-- White space stands between escapes. -/
theorem Tame.cut {s t : List Char} {b : Char} (hb : isSpace b = true) (h : Tame (s ++ b :: t)) :
    Tame s ∧ Tame t := by
  generalize hu : s ++ b :: t = u at h
  induction h generalizing s with
  | nil => simp at hu
  | @plain c cs hc htail ih =>
    cases s with
    | nil =>
      obtain ⟨-, rfl⟩ := List.cons.inj hu
      exact ⟨.nil, htail⟩
    | cons c' s =>
      obtain ⟨rfl, htext⟩ := List.cons.inj hu
      exact ⟨.plain hc (ih htext).1, (ih htext).2⟩
  | @escape c rest cs hc hrest htail ih =>
    rcases List.append_eq_append_iff.mp hu.symm with ⟨front, rfl, hcs⟩ | ⟨back, hescape, htext⟩
    · have hcut := ih hcs.symm
      exact ⟨.escape hc hrest hcut.1, hcut.2⟩
    · cases back with
      | nil =>
        rw [List.append_nil] at hescape
        rw [List.nil_append] at htext
        have hcut := ih (s := []) htext
        refine ⟨?_, hcut.2⟩
        rw [← hescape]
        exact tame_escapeChar c
      | cons d back =>
        obtain ⟨rfl, -⟩ := List.cons.inj htext
        have hspace := isSpace_of_mem_escape hc hrest (d := b) (by rw [hescape]; simp)
        rw [hb] at hspace
        cases hspace

theorem Tame.strip {s : List Char} (h : Tame s) : Tame (strip s) := by
  have hleft : Tame (lstrip s) := by
    unfold lstrip
    induction s with
    | nil => exact .nil
    | cons c cs ih =>
      rw [List.dropWhile_cons]
      split
      · next hc => exact ih (h.cut (s := []) hc).2
      · exact h
  unfold Python.strip rstrip
  generalize lstrip s = t at hleft
  induction t using List.reverseRecOn with
  | nil => exact hleft
  | append_singleton t c ih =>
    rw [List.rdropWhile_concat]
    split
    · next hc => exact ih (hleft.cut hc).1
    · exact hleft

theorem splitLines_append_unbroken {t : List Char} (ht : ∀ c ∈ t, isLineBreak c = false)
    (hne : t ≠ []) (s : List Char) :
    splitLines (t ++ s) = (t ++ (splitLines s).headD []) :: (splitLines s).tail := by
  induction t with
  | nil => exact absurd rfl hne
  | cons c t ih =>
    rw [List.cons_append, splitLines_cons (ht c List.mem_cons_self)]
    cases t with
    | nil =>
      rw [List.nil_append]
      cases splitLines s with
      | nil => rfl
      | cons l ls => rfl
    | cons d t =>
      rw [ih (fun e he => ht e (List.mem_cons_of_mem _ he)) (List.cons_ne_nil _ _)]
      rfl

theorem headD_mem_or {α : Type} (xs : List (List α)) : xs.headD [] = [] ∨ xs.headD [] ∈ xs := by
  cases xs with
  | nil => exact .inl rfl
  | cons x xs => exact .inr List.mem_cons_self

/-- The lines of a text are tame as the text is. -/
theorem splitLines_tame {s : List Char} (h : Tame s) (hcr : '\r' ∉ s) :
    ∀ line ∈ splitLines s, Tame line := by
  -- a token joins the first of the lines behind it
  have hjoin : ∀ {t cs : List Char}, Tame t → t ≠ [] → (∀ c ∈ t, isLineBreak c = false) →
      (∀ line ∈ splitLines cs, Tame line) → ∀ line ∈ splitLines (t ++ cs), Tame line := by
    intro t cs ht hne hunbroken hlines line hline
    rw [splitLines_append_unbroken hunbroken hne] at hline
    rcases List.mem_cons.mp hline with rfl | hline
    · rcases headD_mem_or (splitLines cs) with hnil | hmem
      · rw [hnil, List.append_nil]
        exact ht
      · exact ht.append (hlines _ hmem)
    · exact hlines line (List.mem_of_mem_tail hline)
  induction h with
  | nil =>
    intro line hline
    cases hline
  | @plain c cs hc htail ih =>
    simp only [List.mem_cons, not_or] at hcr
    cases hbreak : isLineBreak c with
    | true =>
      rw [splitLines_break hbreak (Ne.symm hcr.1)]
      intro line hline
      rcases List.mem_cons.mp hline with rfl | hline
      · exact .nil
      · exact ih hcr.2 line hline
    | false =>
      refine hjoin (t := [c]) (.plain hc .nil) (List.cons_ne_nil _ _) ?_ (ih hcr.2)
      simpa using hbreak
  | @escape c rest cs hc hrest htail ih =>
    refine hjoin (tame_escapeChar c) ?_ ?_ (ih fun hmem => hcr (List.mem_append_right _ hmem))
    · rw [hrest]
      exact List.cons_ne_nil _ _
    · intro d hd
      have hspace := isSpace_of_mem_escape hc hrest hd
      cases hbreak : isLineBreak d with
      | false => rfl
      | true =>
        rw [isSpace_of_isLineBreak hbreak] at hspace
        cases hspace

/-- No line has a line break in it. -/
theorem isLineBreak_of_mem_splitLines {s line : List Char} (hcr : '\r' ∉ s)
    (hline : line ∈ splitLines s) : ∀ c ∈ line, isLineBreak c = false := by
  induction s generalizing line with
  | nil => cases hline
  | cons c cs ih =>
    simp only [List.mem_cons, not_or] at hcr
    cases hbreak : isLineBreak c with
    | true =>
      rw [splitLines_break hbreak (Ne.symm hcr.1)] at hline
      rcases List.mem_cons.mp hline with rfl | hline
      · intro d hd
        cases hd
      · exact ih hcr.2 hline
    | false =>
      rw [← List.singleton_append, splitLines_append_unbroken (by simpa using hbreak)
        (List.cons_ne_nil _ _)] at hline
      rcases List.mem_cons.mp hline with rfl | hline
      · intro d hd
        rcases List.mem_cons.mp hd with rfl | hd
        · exact hbreak
        · rcases headD_mem_or (splitLines cs) with hnil | hmem
          · have hmem : d ∈ (splitLines cs).headD [] := hd
            rw [hnil] at hmem
            cases hmem
          · exact ih hcr.2 hmem d hd
      · exact ih hcr.2 (List.mem_of_mem_tail hline)

/-! ## The characters of what is read -/

theorem itemChars_append (xs : List Value) (v : Value) :
    itemChars (xs ++ [v]) = itemChars xs ++ v.chars := by
  induction xs with
  | nil => simp [itemChars]
  | cons x xs ih => simp only [List.cons_append, itemChars, ih, List.append_assoc]

theorem mem_entryChars_set {es : Dict} {k : String} {v : Value} {c : Char}
    (h : c ∈ entryChars (es.set k v)) : c ∈ entryChars es ∨ c ∈ k.toList ∨ c ∈ v.chars := by
  induction es with
  | nil => simpa [Dict.set, entryChars] using h
  | cons e es ih =>
    obtain ⟨k', v'⟩ := e
    unfold Dict.set at h
    split at h
    · simp only [entryChars, List.mem_append] at h ⊢
      tauto
    · simp only [entryChars, List.mem_append] at h ⊢
      tauto

section Holds

variable {P : Char → Prop}

/-- Every character of every string inside. -/
def Value.Holds (P : Char → Prop) (v : Value) : Prop := ∀ c ∈ v.chars, P c

def Frame.Holds (P : Char → Prop) : Frame → Prop
  | .arr items => (Value.list items).Holds P
  | .obj es => (Value.dict es).Holds P
  | .field es k => (Value.dict es).Holds P ∧ ∀ c ∈ k.toList, P c

/-- Between two escapes. -/
def Mode.Holds (P : Char → Prop) : Mode → Prop
  | .literal rest v => '\\' ∉ rest ∧ v.Holds P
  | .done v => v.Holds P
  | .string _ m acc => m = .plain ∧ ∀ c ∈ acc, P c
  | _ => True

structure Reader.Holds (P : Char → Prop) (r : Reader) : Prop where
  stack : ∀ f ∈ r.stack, f.Holds P
  mode : r.mode.Holds P

theorem deliver_holds {st : List Frame} {v : Value} {r : Reader} (hst : ∀ f ∈ st, f.Holds P)
    (hv : v.Holds P) (h : deliver st v = some r) : r.Holds P := by
  unfold deliver at h
  split at h
  · cases h
    exact ⟨hst, hv⟩
  · next items st =>
    cases h
    refine ⟨?_, trivial⟩
    obtain ⟨hitems, hst⟩ := List.forall_mem_cons.mp hst
    refine List.forall_mem_cons.mpr ⟨?_, hst⟩
    intro c hc
    have hmem : c ∈ itemChars (items ++ [v]) := hc
    rw [itemChars_append, List.mem_append] at hmem
    exact hmem.elim (hitems c) (hv c)
  · next es k st =>
    cases h
    refine ⟨?_, trivial⟩
    obtain ⟨⟨hes, hk⟩, hst⟩ := List.forall_mem_cons.mp hst
    refine List.forall_mem_cons.mpr ⟨?_, hst⟩
    intro c hc
    exact (mem_entryChars_set hc).elim (hes c) fun h => h.elim (hk c) (hv c)
  · cases h

theorem stepAfter_holds {r r' : Reader} {c : Char} (hr : r.Holds P)
    (h : stepAfter r c = some r') : r'.Holds P := by
  unfold stepAfter at h
  split at h
  · split at h
    · cases h
      exact hr
    · cases h
  · next items st c =>
    obtain ⟨hitems, hst⟩ := List.forall_mem_cons.mp hr.stack
    split at h
    · cases h
      exact hr
    · split at h
      · cases h
        exact ⟨hr.stack, trivial⟩
      · split at h
        · exact deliver_holds hst hitems h
        · cases h
  · next es st c =>
    obtain ⟨hes, hst⟩ := List.forall_mem_cons.mp hr.stack
    split at h
    · cases h
      exact hr
    · split at h
      · cases h
        exact ⟨hr.stack, trivial⟩
      · split at h
        · exact deliver_holds hst hes h
        · cases h
  · cases h

theorem numberValue_holds {s : List Char} {v : Value} (h : numberValue s = some v) :
    v.Holds P := by
  obtain ⟨n, -, rfl⟩ := Option.map_eq_some_iff.mp h
  intro c hc
  cases n with
  | int n => cases hc
  | float d => cases hc

theorem beginValue_holds {st : List Frame} {c : Char} {r : Reader} (hst : ∀ f ∈ st, f.Holds P)
    (h : beginValue st c = some r) : r.Holds P := by
  have hnone : ∀ v : Value, v.chars = [] → v.Holds P := by
    intro v hv d hd
    rw [hv] at hd
    cases hd
  cases beginValue_begins h with
  | string => exact ⟨hst, rfl, fun d hd => absurd hd List.not_mem_nil⟩
  | object => exact ⟨List.forall_mem_cons.mpr ⟨hnone _ rfl, hst⟩, trivial⟩
  | array => exact ⟨List.forall_mem_cons.mpr ⟨hnone _ rfl, hst⟩, trivial⟩
  | number => exact ⟨hst, trivial⟩
  | @literal rest v hmem =>
    have table : ∀ l ∈ literals, '\\' ∉ l.1 := by decide
    have hchars : ∀ l ∈ literals, l.2.chars = [] := by simp [literals, Value.chars]
    exact ⟨hst, table _ hmem, hnone v (hchars _ hmem)⟩

theorem deliverString_holds {st : List Frame} {isKey : Bool} {s : String} {r : Reader}
    (hst : ∀ f ∈ st, f.Holds P) (hs : ∀ c ∈ s.toList, P c)
    (h : deliverString st isKey s = some r) : r.Holds P := by
  unfold deliverString at h
  split at h
  · split at h
    · next es st =>
      cases h
      obtain ⟨hes, hst⟩ := List.forall_mem_cons.mp hst
      exact ⟨List.forall_mem_cons.mpr ⟨⟨hes, hs⟩, hst⟩, trivial⟩
    · cases h
  · exact deliver_holds (v := .str s) hst hs h

/-- One character that begins no escape. -/
theorem step_holds {r r' : Reader} {c : Char} (hr : r.Holds P) (hc : c ≠ '\\') (hP : P c)
    (h : r.step c = some r') : r'.Holds P := by
  obtain ⟨st, m⟩ := r
  obtain ⟨hst, hmode⟩ := hr
  cases m with
  | value =>
    simp only [Reader.step] at h
    split at h
    · cases h
      exact ⟨hst, trivial⟩
    · exact beginValue_holds hst h
  | firstValue =>
    simp only [Reader.step] at h
    split at h
    · cases h
      exact ⟨hst, trivial⟩
    · split at h
      · exact stepAfter_holds (r := ⟨st, .after⟩) ⟨hst, trivial⟩ h
      · exact beginValue_holds hst h
  | firstKey =>
    simp only [Reader.step] at h
    split at h
    · cases h
      exact ⟨hst, trivial⟩
    · split at h
      · exact stepAfter_holds (r := ⟨st, .after⟩) ⟨hst, trivial⟩ h
      · split at h
        · cases h
          exact ⟨hst, rfl, fun d hd => absurd hd List.not_mem_nil⟩
        · cases h
  | key =>
    simp only [Reader.step] at h
    split at h
    · cases h
      exact ⟨hst, trivial⟩
    · split at h
      · cases h
        exact ⟨hst, rfl, fun d hd => absurd hd List.not_mem_nil⟩
      · cases h
  | colon =>
    simp only [Reader.step] at h
    split at h
    · cases h
      exact ⟨hst, trivial⟩
    · split at h
      · cases h
        exact ⟨hst, trivial⟩
      · cases h
  | after => exact stepAfter_holds (c := c) ⟨hst, hmode⟩ (by simpa only [Reader.step] using h)
  | string isKey m acc =>
    obtain ⟨rfl, hacc⟩ := hmode
    simp only [Reader.step] at h
    split at h
    · refine deliverString_holds hst ?_ h
      simpa using hacc
    · obtain ⟨⟨m', acc'⟩, hstep, rfl⟩ := Option.map_eq_some_iff.mp h
      simp only [stepString, hc, if_false] at hstep
      split at hstep
      · cases hstep
      · cases hstep
        exact ⟨hst, rfl, List.forall_mem_cons.mpr ⟨hP, hacc⟩⟩
  | number acc =>
    simp only [Reader.step] at h
    split at h
    · cases h
      exact ⟨hst, trivial⟩
    · split at h
      · cases h
        exact ⟨hst, by decide, fun d hd => absurd hd List.not_mem_nil⟩
      · obtain ⟨v, hv, h⟩ := Option.bind_eq_some_iff.mp h
        obtain ⟨r, hr, h⟩ := Option.bind_eq_some_iff.mp h
        exact stepAfter_holds (deliver_holds hst (numberValue_holds hv) hr) h
  | literal rest v =>
    rcases rest with - | ⟨e, - | ⟨e', es⟩⟩
    · exact absurd h (by simp [Reader.step])
    · simp only [Reader.step] at h
      split at h
      · exact deliver_holds hst hmode.2 h
      · cases h
    · simp only [Reader.step] at h
      split at h
      · cases h
        exact ⟨hst, fun hmem => hmode.1 (List.mem_cons_of_mem _ hmem), hmode.2⟩
      · cases h
  | done v => exact stepAfter_holds (c := c) ⟨hst, hmode⟩ h

/-- A backslash is read inside a string only. -/
theorem string_of_step_backslash {r r' : Reader} (hr : r.Holds P)
    (h : r.step '\\' = some r') :
    ∃ st isKey acc, r = ⟨st, .string isKey .plain acc⟩ := by
  have hafter : ∀ r : Reader, stepAfter r '\\' = none := fun r =>
    stepAfter_noFollow ⟨by decide, by decide⟩
  have hbegin : ∀ st : List Frame, beginValue st '\\' = none := fun st => rfl
  obtain ⟨st, m⟩ := r
  cases m with
  | string isKey m acc =>
    obtain ⟨rfl, -⟩ := hr.mode
    exact ⟨st, isKey, acc, rfl⟩
  | value => exact absurd h (by simp [Reader.step, hbegin, isJsonSpace])
  | firstValue => exact absurd h (by simp [Reader.step, hbegin, isJsonSpace])
  | firstKey => exact absurd h (by simp [Reader.step, isJsonSpace])
  | key => exact absurd h (by simp [Reader.step, isJsonSpace])
  | colon => exact absurd h (by simp [Reader.step, isJsonSpace])
  | after => exact absurd h (by simp [Reader.step, hafter])
  | number acc =>
    simp only [Reader.step] at h
    split at h
    · next hnumber => exact absurd hnumber (by decide)
    · split at h
      · next hinf => exact absurd hinf.2 (by decide)
      · obtain ⟨v, -, h⟩ := Option.bind_eq_some_iff.mp h
        obtain ⟨r, -, h⟩ := Option.bind_eq_some_iff.mp h
        rw [hafter] at h
        cases h
  | literal rest v =>
    have hno := hr.mode.1
    rcases rest with - | ⟨e, - | ⟨e', es⟩⟩
    · exact absurd h (by simp [Reader.step])
    · simp only [Reader.step] at h
      split at h
      · next heq => exact absurd (heq ▸ List.mem_cons_self) hno
      · cases h
    · simp only [Reader.step] at h
      split at h
      · next heq => exact absurd (heq ▸ List.mem_cons_self) hno
      · cases h
  | done v =>
    have hdone : stepAfter ⟨st, .done v⟩ '\\' = some r' := h
    rw [hafter] at hdone
    cases hdone

/-- A tame text leaves nothing but its own characters and ASCII. -/
theorem run_holds (hascii : ∀ c : Char, c.toNat < 0x7F → P c) {r r' : Reader} {s : List Char}
    (htame : Tame s) (hs : ∀ c ∈ s, P c) (hr : r.Holds P) (h : r.run s = some r') :
    r'.Holds P := by
  induction htame generalizing r with
  | nil =>
    cases h
    exact hr
  | plain hc htail ih =>
    obtain ⟨hP, hs⟩ := List.forall_mem_cons.mp hs
    obtain ⟨r₁, hstep, hrun⟩ := Option.bind_eq_some_iff.mp h
    exact ih hs (step_holds hr hc hP hstep) hrun
  | @escape c rest cs hc hrest htail ih =>
    obtain ⟨st, isKey, acc, rfl⟩ : ∃ st isKey acc, r = ⟨st, .string isKey .plain acc⟩ := by
      rw [hrest] at h
      obtain ⟨r₁, hstep, -⟩ := Option.bind_eq_some_iff.mp h
      exact string_of_step_backslash hr hstep
    rw [Reader.run_append, run_escapeChar, Option.bind_some] at h
    have hnext : (Reader.mk st (.string isKey .plain (c :: acc))).Holds P :=
      ⟨hr.stack, rfl, List.forall_mem_cons.mpr ⟨hascii c hc, hr.mode.2⟩⟩
    exact ih (List.forall_mem_append.mp hs).2 hnext h

theorem loads_holds (hascii : ∀ c : Char, c.toNat < 0x7F → P c) {s : List Char} {v : Value}
    (htame : Tame s) (hs : ∀ c ∈ s, P c) (h : loads s = some v) : v.Holds P := by
  obtain ⟨r, hrun, hfin⟩ := Option.bind_eq_some_iff.mp h
  have hstart : Reader.start.Holds P := ⟨fun f hf => absurd hf List.not_mem_nil, trivial⟩
  have hr := run_holds hascii htame hs hstart hrun
  unfold Reader.finish at hfin
  split at hfin
  · cases hfin
    exact hr.mode
  · exact numberValue_holds hfin
  · cases hfin

end Holds

theorem mem_of_mem_strip {s : List Char} {c : Char} (h : c ∈ strip s) : c ∈ s :=
  (List.dropWhile_sublist _).subset ((List.rdropWhile_prefix _ _).sublist.subset h)

/-- No value read from a line of a tame text has a line break beyond ASCII. -/
theorem unbroken_of_line {s line : List Char} {v : Value} (htame : Tame s) (hcr : '\r' ∉ s)
    (hline : line ∈ splitLines s) (h : loads (strip line) = some v) :
    ∀ c ∈ v.chars, 0x7F ≤ c.toNat → isLineBreak c = false := by
  intro c hc hge
  have hP := loads_holds (P := fun c => c.toNat < 0x7F ∨ isLineBreak c = false) (fun _ => .inl)
    (splitLines_tame htame hcr line hline).strip ?_ h c hc
  · exact hP.resolve_left (by omega)
  · intro d hd
    exact .inr (isLineBreak_of_mem_splitLines hcr hline d (mem_of_mem_strip hd))

end Python
