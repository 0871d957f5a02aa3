import NetworkRecovery.Python.JsonLaws

/-!
# What a JSON text looks like

Three facts about texts that the round trip does not give.

* Which characters a text can hold (`mem_dumpValue`, `onLine_of_mem_dumps`):
  on one line nothing below the space, and beyond ASCII only what the strings
  of the value hold. A line separator in the text is one in a string.
* What happens when a record is appended behind the remains of another
  (`loads_glued`): the line is refused, WHEREVER the first one was cut.
* That everything read is well formed (`loads_wf`).
-/

namespace Python

/-! ## Characters -/

/-- Printable ASCII. -/
def Printable (c : Char) : Prop := 0x20 ≤ c.toNat ∧ c.toNat < 0x7F

instance (c : Char) : Decidable (Printable c) := inferInstanceAs (Decidable (_ ∧ _))

/-- What a text on one line can hold, `cs` being the characters of the strings
it was written from. -/
def OnLine (ascii : Bool) (cs : List Char) (c : Char) : Prop :=
  0x20 ≤ c.toNat ∧ (0x7F ≤ c.toNat → ascii = false ∧ c ∈ cs)

theorem Printable.onLine {c : Char} (h : Printable c) (ascii : Bool) (cs : List Char) :
    OnLine ascii cs c :=
  ⟨h.1, fun hge => absurd h.2 (Nat.not_lt.mpr hge)⟩

theorem OnLine.mono {ascii : Bool} {cs ds : List Char} {c : Char} (h : OnLine ascii cs c)
    (hsub : cs ⊆ ds) : OnLine ascii ds c :=
  ⟨h.1, fun hge => ⟨(h.2 hge).1, hsub (h.2 hge).2⟩⟩

theorem printable_of_all {s : List Char} (hs : s.all (fun c => decide (Printable c)) = true)
    {c : Char} (hc : c ∈ s) : Printable c :=
  of_decide_eq_true (List.all_eq_true.mp hs c hc)

theorem printable_isNumberChar {c : Char} (h : isNumberChar c = true) : Printable c := by
  simp only [isNumberChar, Bool.or_eq_true, beq_iff_eq] at h
  rcases h with ((((h | rfl) | rfl) | rfl) | rfl) | rfl
  · simp only [Char.isDigit, Bool.and_eq_true, decide_eq_true_eq, ge_iff_le] at h
    have h1 : 48 ≤ c.toNat := h.1
    have h2 : c.toNat ≤ 57 := h.2
    exact ⟨by omega, by omega⟩
  all_goals decide

theorem printable_hexDigit (n : Nat) : Printable (hexDigit n) := by
  have table : ∀ m < 16, Printable (Nat.digitChar m) := by decide
  exact table (n % 16) (Nat.mod_lt n (by decide))

theorem printable_unicodeEscape {n : Nat} {d : Char} (h : d ∈ unicodeEscape n) : Printable d := by
  simp only [unicodeEscape, List.mem_cons, List.not_mem_nil, or_false] at h
  rcases h with rfl | rfl | rfl | rfl | rfl | rfl
  · decide
  · decide
  all_goals exact printable_hexDigit _

/-- What a table of the characters below DEL says, one by one. -/
theorem of_table {p : Char → Bool} (table : (List.range 0x7F).all (fun n => p (Char.ofNat n)) = true)
    {c : Char} (hc : c.toNat < 0x7F) : p c = true := by
  have hrow := List.all_eq_true.mp table c.toNat (List.mem_range.mpr hc)
  rwa [Char.ofNat_toNat] at hrow

/-- An ASCII character is written in printable ASCII. -/
theorem printable_escapeChar {ascii : Bool} {c d : Char} (hc : c.toNat < 0x7F)
    (h : d ∈ escapeChar ascii c) : Printable d := by
  have hall : (escapeChar ascii c).all (fun d => decide (Printable d)) = true := by
    refine of_table (p := fun c => (escapeChar ascii c).all fun d => decide (Printable d)) ?_ hc
    cases ascii <;> decide +kernel
  exact printable_of_all hall h

/-- A character beyond ASCII is written as it is, or as its code. -/
theorem escapeChar_beyond (ascii : Bool) {c : Char} (hc : 0x7F ≤ c.toNat) :
    escapeChar ascii c =
      if ascii = false then [c]
      else if c.toNat < 0x10000 then unicodeEscape c.toNat
      else unicodeEscape (0xD800 + (c.toNat - 0x10000) / 0x400) ++
        unicodeEscape (0xDC00 + (c.toNat - 0x10000) % 0x400) := by
  have hne : ∀ d : Char, d.toNat < 0x7F → c ≠ d := by
    rintro d hd rfl
    omega
  have hlow : ¬ c.toNat < 0x7F := by omega
  unfold escapeChar
  rw [if_neg (hne _ (by decide)), if_neg (hne _ (by decide)), if_neg (hne _ (by decide)),
    if_neg (hne _ (by decide)), if_neg (hne _ (by decide)), if_neg (hne _ (by decide)),
    if_neg (hne _ (by decide)), if_neg (by omega)]
  simp only [hlow, or_false]

/-- A character of an escaped character is printable ASCII or the character
itself. -/
theorem mem_escapeChar {ascii : Bool} {c d : Char} (h : d ∈ escapeChar ascii c) :
    OnLine ascii [c] d := by
  by_cases hc : c.toNat < 0x7F
  · exact (printable_escapeChar hc h).onLine _ _
  · rw [escapeChar_beyond ascii (by omega)] at h
    by_cases hraw : ascii = false
    · rw [if_pos hraw] at h
      obtain rfl := List.mem_singleton.mp h
      exact ⟨by omega, fun _ => ⟨hraw, h⟩⟩
    · rw [if_neg hraw] at h
      have hprintable : Printable d := by
        by_cases hbasic : c.toNat < 0x10000
        · rw [if_pos hbasic] at h
          exact printable_unicodeEscape h
        · rw [if_neg hbasic] at h
          rcases List.mem_append.mp h with h | h
          · exact printable_unicodeEscape h
          · exact printable_unicodeEscape h
      exact hprintable.onLine _ _

theorem mem_quote {ascii : Bool} {s : String} {d : Char} (h : d ∈ quote ascii s) :
    OnLine ascii s.toList d := by
  have hq : OnLine ascii s.toList '"' := Printable.onLine (by decide) _ _
  unfold quote escapeText at h
  rcases List.mem_cons.mp h with rfl | h
  · exact hq
  · rcases List.mem_append.mp h with h | h
    · obtain ⟨c, hc, hd⟩ := List.mem_flatMap.mp h
      exact (mem_escapeChar hd).mono (by simpa using hc)
    · rw [List.mem_singleton.mp h]
      exact hq

/-- A character beyond ASCII goes into a raw string literal as it is. -/
theorem mem_quote_of_mem {s : String} {c : Char} (hc : c ∈ s.toList) (hge : 0x7F ≤ c.toNat) :
    c ∈ quote false s := by
  have hself : c ∈ escapeChar false c := by
    rw [escapeChar_beyond false hge, if_pos rfl]
    exact List.mem_singleton.mpr rfl
  unfold quote escapeText
  exact List.mem_cons_of_mem _ (List.mem_append_left _ (List.mem_flatMap.mpr ⟨c, hc, hself⟩))

theorem printable_floatText {sty : Style} {x : FloatVal} {c : Char} (h : c ∈ floatText sty x) :
    Printable c := by
  cases x with
  | finite d => exact printable_isNumberChar (isNumberChar_text h)
  | inf neg =>
    cases hn : sty.nanText <;> cases neg <;> simp only [floatText, hn] at h
    all_goals exact printable_of_all (by decide) h
  | nan =>
    cases hn : sty.nanText <;> simp only [floatText, hn] at h
    all_goals exact printable_of_all (by decide) h

theorem printable_pad {b : Bool} {c : Char} (h : c ∈ pad b) : Printable c := by
  cases b with
  | false => exact absurd h (by simp [pad])
  | true => exact printable_of_all (by decide) h

/-- What a text can hold: besides the characters of a line, the line feeds of
an indented style. -/
def InText (sty : Style) (cs : List Char) (c : Char) : Prop :=
  (c = '\n' ∧ sty.indent ≠ none) ∨ OnLine sty.ascii cs c

theorem InText.mono {sty : Style} {cs ds : List Char} {c : Char} (h : InText sty cs c)
    (hsub : cs ⊆ ds) : InText sty ds c :=
  h.imp_right fun h => h.mono hsub

theorem Printable.inText {c : Char} (h : Printable c) (sty : Style) (cs : List Char) :
    InText sty cs c :=
  .inr (h.onLine _ _)

theorem inText_newline {sty : Style} {level : Nat} {c : Char} (h : c ∈ sty.newline level)
    (cs : List Char) : InText sty cs c := by
  unfold Style.newline at h
  split at h
  · exact absurd h List.not_mem_nil
  · next n hn =>
    rcases List.mem_cons.mp h with rfl | h
    · exact .inl ⟨rfl, by rw [hn]; simp⟩
    · rw [List.eq_of_mem_replicate h]
      exact Printable.inText (by decide) _ _

mutual

/-- The characters of a value's text. -/
theorem mem_dumpValue {sty : Style} : ∀ {v : Value} {level : Nat} {c : Char},
    c ∈ dumpValue sty level v → InText sty v.chars c
  | .none, _, _, h => (printable_of_all (s := "null".toList) rfl h).inText _ _
  | .bool true, _, _, h => (printable_of_all (s := "true".toList) rfl h).inText _ _
  | .bool false, _, _, h => (printable_of_all (s := "false".toList) rfl h).inText _ _
  | .int _, _, _, h => (printable_isNumberChar (isNumberChar_intText h)).inText _ _
  | .float _, _, _, h => (printable_floatText h).inText _ _
  | .str _, _, _, h => .inr (mem_quote h)
  | .list [], _, _, h => (printable_of_all (s := ['[', ']']) rfl h).inText _ _
  | .list (x :: xs), level, c, h => by
    simp only [dumpValue, List.mem_cons, List.mem_append, List.not_mem_nil, or_false] at h
    rcases h with rfl | (h | h) | h | h | rfl
    · exact Printable.inText (by decide) _ _
    · exact inText_newline h _
    · exact (mem_dumpValue h).mono (by simp [Value.chars, itemChars])
    · exact (mem_dumpItems h).mono (by simp [Value.chars, itemChars])
    · exact inText_newline h _
    · exact Printable.inText (by decide) _ _
  | .dict [], _, _, h => (printable_of_all (s := ['{', '}']) rfl h).inText _ _
  | .dict ((k, v) :: kvs), level, c, h => by
    simp only [dumpValue, List.mem_cons, List.mem_append, List.not_mem_nil, or_false] at h
    rcases h with rfl | (h | h | rfl | h | h) | h | h | rfl
    · exact Printable.inText (by decide) _ _
    · exact inText_newline h _
    · exact .inr ((mem_quote h).mono (by simp [Value.chars, entryChars]))
    · exact Printable.inText (by decide) _ _
    · exact (printable_pad h).inText _ _
    · exact (mem_dumpValue h).mono (by simp [Value.chars, entryChars])
    · exact (mem_dumpEntries h).mono (by simp [Value.chars, entryChars])
    · exact inText_newline h _
    · exact Printable.inText (by decide) _ _

theorem mem_dumpItems {sty : Style} : ∀ {xs : List Value} {level : Nat} {c : Char},
    c ∈ dumpItems sty level xs → InText sty (itemChars xs) c
  | [], _, _, h => absurd h (by simp [dumpItems])
  | x :: xs, level, c, h => by
    simp only [dumpItems, List.mem_cons, List.mem_append] at h
    rcases h with rfl | h | h | h | h
    · exact Printable.inText (by decide) _ _
    · exact (printable_pad h).inText _ _
    · exact inText_newline h _
    · exact (mem_dumpValue h).mono (by simp [itemChars])
    · exact (mem_dumpItems h).mono (by simp [itemChars])

theorem mem_dumpEntries {sty : Style} : ∀ {kvs : Dict} {level : Nat} {c : Char},
    c ∈ dumpEntries sty level kvs → InText sty (entryChars kvs) c
  | [], _, _, h => absurd h (by simp [dumpEntries])
  | (k, v) :: kvs, level, c, h => by
    simp only [dumpEntries, List.mem_cons, List.mem_append] at h
    rcases h with rfl | h | h | h | rfl | h | h | h
    · exact Printable.inText (by decide) _ _
    · exact (printable_pad h).inText _ _
    · exact inText_newline h _
    · exact .inr ((mem_quote h).mono (by simp [entryChars]))
    · exact Printable.inText (by decide) _ _
    · exact (printable_pad h).inText _ _
    · exact (mem_dumpValue h).mono (by simp [entryChars])
    · exact (mem_dumpEntries h).mono (by simp [entryChars])

end

/-- The characters of a text written on one line. -/
theorem onLine_of_mem_dumps {sty : Style} (hline : sty.indent = none) {v : Value} {c : Char}
    (h : c ∈ dumps sty v) : OnLine sty.ascii v.chars c :=
  (mem_dumpValue h).resolve_left fun hn => hn.2 hline

/-- No text holds a carriage return. -/
theorem carriageReturn_not_mem_dumps (sty : Style) (v : Value) : '\r' ∉ dumps sty v := by
  intro h
  rcases mem_dumpValue h with ⟨h, _⟩ | h
  · exact absurd h (by decide)
  · exact absurd h.1 (by decide)

/-- An object with entries stands between its braces. -/
theorem dumps_object (sty : Style) (k : String) (v : Value) (kvs : Dict) :
    ∃ s, dumps sty (.dict ((k, v) :: kvs)) = '{' :: (s ++ ['}']) := by
  refine ⟨sty.newline 1 ++ (quote sty.ascii k ++ ':' :: (pad sty.keyPad ++ dumpValue sty 1 v)) ++
    (dumpEntries sty 1 kvs ++ sty.newline 0), ?_⟩
  simp only [dumps, dumpValue, List.append_assoc]

mutual

/-- A character beyond ASCII in a string of the value stands in the text. -/
theorem mem_dumpValue_of_mem {sty : Style} (hraw : sty.ascii = false) :
    ∀ {v : Value} {level : Nat} {c : Char}, c ∈ v.chars → 0x7F ≤ c.toNat → c ∈ dumpValue sty level v
  | .str s, _, c, h, hge => by
    unfold dumpValue
    rw [hraw]
    exact mem_quote_of_mem h hge
  | .list [], _, c, h, _ => absurd h (by simp [Value.chars, itemChars])
  | .list (x :: xs), level, c, h, hge => by
    simp only [Value.chars, itemChars, List.mem_append] at h
    simp only [dumpValue, List.mem_cons, List.mem_append]
    rcases h with h | h
    · exact .inr (.inl (.inr (mem_dumpValue_of_mem hraw h hge)))
    · exact .inr (.inr (.inl (mem_dumpItems_of_mem hraw h hge)))
  | .dict [], _, c, h, _ => absurd h (by simp [Value.chars, entryChars])
  | .dict ((k, v) :: kvs), level, c, h, hge => by
    simp only [Value.chars, entryChars, List.mem_append] at h
    simp only [dumpValue, hraw, List.mem_cons, List.mem_append]
    rcases h with (h | h) | h
    · exact .inr (.inl (.inr (.inl (mem_quote_of_mem h hge))))
    · exact .inr (.inl (.inr (.inr (.inr (.inr (mem_dumpValue_of_mem hraw h hge))))))
    · exact .inr (.inr (.inl (mem_dumpEntries_of_mem hraw h hge)))
  | .none, _, c, h, _ | .bool _, _, c, h, _ | .int _, _, c, h, _ | .float _, _, c, h, _ =>
    absurd h (by simp [Value.chars])

theorem mem_dumpItems_of_mem {sty : Style} (hraw : sty.ascii = false) :
    ∀ {xs : List Value} {level : Nat} {c : Char}, c ∈ itemChars xs → 0x7F ≤ c.toNat → c ∈ dumpItems sty level xs
  | [], _, c, h, _ => absurd h (by simp [itemChars])
  | x :: xs, level, c, h, hge => by
    simp only [itemChars, List.mem_append] at h
    simp only [dumpItems, List.mem_cons, List.mem_append]
    rcases h with h | h
    · exact .inr (.inr (.inr (.inl (mem_dumpValue_of_mem hraw h hge))))
    · exact .inr (.inr (.inr (.inr (mem_dumpItems_of_mem hraw h hge))))

theorem mem_dumpEntries_of_mem {sty : Style} (hraw : sty.ascii = false) :
    ∀ {kvs : Dict} {level : Nat} {c : Char}, c ∈ entryChars kvs → 0x7F ≤ c.toNat → c ∈ dumpEntries sty level kvs
  | [], _, c, h, _ => absurd h (by simp [entryChars])
  | (k, v) :: kvs, level, c, h, hge => by
    simp only [entryChars, List.mem_append] at h
    simp only [dumpEntries, hraw, List.mem_cons, List.mem_append]
    rcases h with (h | h) | h
    · exact .inr (.inr (.inr (.inl (mem_quote_of_mem h hge))))
    · exact .inr (.inr (.inr (.inr (.inr (.inr (.inl (mem_dumpValue_of_mem hraw h hge)))))))
    · exact .inr (.inr (.inr (.inr (.inr (.inr (.inr (mem_dumpEntries_of_mem hraw h hge)))))))

end

/-! ## The reader's states -/

/-- Everything collected so far is well formed. -/
def Frame.WF : Frame → Prop
  | .arr items => ListWF items
  | .obj es | .field es _ => (Value.dict es).WF

def Mode.WF : Mode → Prop
  | .literal _ v | .done v => v.WF
  | _ => True

def Reader.WF (r : Reader) : Prop := (∀ f ∈ r.stack, f.WF) ∧ r.mode.WF

/-- A mode that holds no value. -/
def Mode.Bare : Mode → Prop
  | .literal _ _ | .done _ => False
  | _ => True

theorem Mode.Bare.wf {m : Mode} (h : m.Bare) : m.WF := by
  cases m with
  | literal rest v => exact h.elim
  | done v => exact h.elim
  | _ => trivial

/-- What the character after an element can do. -/
inductive MovesAfter : Reader → Reader → Prop where
  | stay {r} : MovesAfter r r
  | comma {f st m} (h : m.Bare) : MovesAfter ⟨f :: st, .after⟩ ⟨f :: st, m⟩
  | closeArr {items st r} (h : deliver st (.list items) = some r) :
    MovesAfter ⟨.arr items :: st, .after⟩ r
  | closeObj {es st r} (h : deliver st (.dict es) = some r) :
    MovesAfter ⟨.obj es :: st, .after⟩ r

theorem stepAfter_moves {r r' : Reader} {c : Char} (h : stepAfter r c = some r') :
    MovesAfter r r' := by
  unfold stepAfter at h
  split at h
  · split at h
    · cases h
      exact .stay
    · exact absurd h (by simp)
  · split at h
    · cases h
      exact .stay
    · split at h
      · cases h
        exact .comma trivial
      · split at h
        · exact .closeArr h
        · exact absurd h (by simp)
  · split at h
    · cases h
      exact .stay
    · split at h
      · cases h
        exact .comma trivial
      · split at h
        · exact .closeObj h
        · exact absurd h (by simp)
  · exact absurd h (by simp)

/-- What a character can do. -/
inductive Moves : Reader → Char → Reader → Prop where
  | stay {r c} : Moves r c r
  | shift {st m m' c} (h : m'.Bare) : Moves ⟨st, m⟩ c ⟨st, m'⟩
  | begin {st m c r} (h : beginValue st c = some r) : Moves ⟨st, m⟩ c r
  | key {es st m k c} : Moves ⟨.obj es :: st, m⟩ c ⟨.field es k :: st, .colon⟩
  | text {st m s c r} (h : deliver st (.str s) = some r) : Moves ⟨st, m⟩ c r
  | number {st m s v c r r'} (hv : numberValue s = some v) (hr : deliver st v = some r)
    (h : MovesAfter r r') : Moves ⟨st, m⟩ c r'
  | infinity {st m c} :
    Moves ⟨st, m⟩ c ⟨st, .literal "nfinity".toList (.float (.inf true))⟩
  | literal {st e es v c} : Moves ⟨st, .literal (e :: es) v⟩ c ⟨st, .literal es v⟩
  | literalEnd {st e v c r} (h : deliver st v = some r) : Moves ⟨st, .literal [e] v⟩ c r
  | close {st m c r} (h : MovesAfter ⟨st, .after⟩ r) : Moves ⟨st, m⟩ c r
  | after {r c r'} (h : MovesAfter r r') : Moves r c r'

theorem deliverString_moves {st : List Frame} {m : Mode} {isKey : Bool} {s : String} {c : Char}
    {r : Reader} (h : deliverString st isKey s = some r) : Moves ⟨st, m⟩ c r := by
  unfold deliverString at h
  split at h
  · split at h
    · cases h
      exact .key
    · exact absurd h (by simp)
  · exact .text h

theorem step_moves {r r' : Reader} {c : Char} (h : r.step c = some r') : Moves r c r' := by
  obtain ⟨st, m⟩ := r
  cases m with
  | value =>
    simp only [Reader.step] at h
    split at h
    · cases h
      exact .stay
    · exact .begin h
  | firstValue =>
    simp only [Reader.step] at h
    split at h
    · cases h
      exact .stay
    · split at h
      · exact .close (stepAfter_moves h)
      · exact .begin h
  | firstKey =>
    simp only [Reader.step] at h
    split at h
    · cases h
      exact .stay
    · split at h
      · exact .close (stepAfter_moves h)
      · split at h
        · cases h
          exact .shift trivial
        · exact absurd h (by simp)
  | key =>
    simp only [Reader.step] at h
    split at h
    · cases h
      exact .stay
    · split at h
      · cases h
        exact .shift trivial
      · exact absurd h (by simp)
  | colon =>
    simp only [Reader.step] at h
    split at h
    · cases h
      exact .stay
    · split at h
      · cases h
        exact .shift trivial
      · exact absurd h (by simp)
  | after =>
    cases st with
    | nil => exact absurd h (by simp [Reader.step, stepAfter])
    | cons f st => exact .after (stepAfter_moves h)
  | string isKey m acc =>
    simp only [Reader.step] at h
    split at h
    · exact deliverString_moves h
    · obtain ⟨⟨m', acc'⟩, _, rfl⟩ := Option.map_eq_some_iff.mp h
      exact .shift trivial
  | number acc =>
    simp only [Reader.step] at h
    split at h
    · cases h
      exact .shift trivial
    · split at h
      · cases h
        exact .infinity
      · obtain ⟨v, hv, h⟩ := Option.bind_eq_some_iff.mp h
        obtain ⟨r, hr, h⟩ := Option.bind_eq_some_iff.mp h
        exact .number hv hr (stepAfter_moves h)
  | literal rest v =>
    match rest with
    | [] => exact absurd h (by simp [Reader.step])
    | [e] =>
      simp only [Reader.step] at h
      split at h
      · exact .literalEnd h
      · exact absurd h (by simp)
    | e :: e' :: es =>
      simp only [Reader.step] at h
      split at h
      · cases h
        exact .literal
      · exact absurd h (by simp)
  | done v => exact .after (stepAfter_moves h)

/-! ## Texts glued together -/

/-- The reader has opened a container: it is still inside one, or the text is
complete. -/
def Reader.Inside (r : Reader) : Prop :=
  (r.stack = [] → ∃ v, r.mode = .done v) ∧ ∀ rest v, r.mode = .literal rest v → '{' ∉ rest

theorem Reader.Inside.of_open {f : Frame} {st : List Frame} {m : Mode}
    (h : ∀ rest v, m = .literal rest v → '{' ∉ rest) : Inside ⟨f :: st, m⟩ :=
  ⟨fun h => absurd h (by simp), h⟩

theorem Reader.Inside.of_bare {f : Frame} {st : List Frame} {m : Mode} (h : m.Bare) :
    Inside ⟨f :: st, m⟩ := by
  refine .of_open fun rest v hm => ?_
  rw [hm] at h
  exact h.elim

theorem deliver_inside {st : List Frame} {v : Value} {r : Reader} (h : deliver st v = some r) :
    r.Inside := by
  unfold deliver at h
  split at h
  · cases h
    exact ⟨fun _ => ⟨_, rfl⟩, fun _ _ h => by simp at h⟩
  · cases h
    exact .of_bare trivial
  · cases h
    exact .of_bare trivial
  · exact absurd h (by simp)

/-- The literals behind their first character. -/
def literals : List (List Char × Value) :=
  [("ull".toList, .none), ("rue".toList, .bool true), ("alse".toList, .bool false),
    ("aN".toList, .float .nan), ("nfinity".toList, .float (.inf false))]

/-- What the first character of a value can do. -/
inductive Begins (st : List Frame) (c : Char) : Reader → Prop where
  | string : Begins st c ⟨st, .string false .plain []⟩
  | object : Begins st c ⟨.obj [] :: st, .firstKey⟩
  | array : Begins st c ⟨.arr [] :: st, .firstValue⟩
  | literal {rest v} (h : (rest, v) ∈ literals) : Begins st c ⟨st, .literal rest v⟩
  | number : Begins st c ⟨st, .number [c]⟩

theorem Begins.of_ite {st : List Frame} {c : Char} {r r' : Reader} {p : Prop} [Decidable p]
    {rest : Option Reader} (hr : Begins st c r') (hrest : rest = some r → Begins st c r)
    (h : (if p then some r' else rest) = some r) : Begins st c r := by
  by_cases hp : p
  · rw [if_pos hp] at h
    obtain rfl := Option.some.inj h
    exact hr
  · rw [if_neg hp] at h
    exact hrest h

theorem beginValue_begins {st : List Frame} {c : Char} {r : Reader}
    (h : beginValue st c = some r) : Begins st c r := by
  refine Begins.of_ite .string ?_ h
  refine Begins.of_ite .object ?_
  refine Begins.of_ite .array ?_
  refine Begins.of_ite (.literal (by simp [literals])) ?_
  refine Begins.of_ite (.literal (by simp [literals])) ?_
  refine Begins.of_ite (.literal (by simp [literals])) ?_
  refine Begins.of_ite (.literal (by simp [literals])) ?_
  refine Begins.of_ite (.literal (by simp [literals])) ?_
  refine Begins.of_ite .number ?_
  exact nofun

theorem beginValue_cases {st : List Frame} {c : Char} {r : Reader}
    (h : beginValue st c = some r) :
    (r.stack = st ∨ r.stack = .obj [] :: st ∨ r.stack = .arr [] :: st) ∧ r.mode.WF ∧
      ∀ rest v, r.mode = .literal rest v → '{' ∉ rest := by
  cases beginValue_begins h with
  | string => exact ⟨.inl rfl, trivial, nofun⟩
  | object => exact ⟨.inr (.inl rfl), trivial, nofun⟩
  | array => exact ⟨.inr (.inr rfl), trivial, nofun⟩
  | number => exact ⟨.inl rfl, trivial, nofun⟩
  | @literal rest v hmem =>
    have table : ∀ l ∈ literals, '{' ∉ l.1 := by decide
    have hwf : ∀ l ∈ literals, l.2.WF := by simp [literals, Value.WF]
    refine ⟨.inl rfl, hwf _ hmem, ?_⟩
    intro rest' v' hm
    cases hm
    exact table _ hmem

theorem beginValue_inside {f : Frame} {st : List Frame} {c : Char} {r : Reader}
    (h : beginValue (f :: st) c = some r) : r.Inside := by
  obtain ⟨hst, _, hlit⟩ := beginValue_cases h
  refine ⟨fun hnil => ?_, hlit⟩
  rw [hnil] at hst
  simp at hst

theorem MovesAfter.inside {r r' : Reader} (h : MovesAfter r r') (hr : r.Inside) : r'.Inside := by
  cases h with
  | stay => exact hr
  | comma h => exact .of_bare h
  | closeArr h => exact deliver_inside h
  | closeObj h => exact deliver_inside h

/-- Reading one more character leaves the reader inside. -/
theorem step_inside {r r' : Reader} {c : Char} (hr : r.Inside) (h : r.step c = some r') :
    r'.Inside := by
  obtain ⟨st, m⟩ := r
  cases st with
  | nil =>
    obtain ⟨v, rfl⟩ := hr.1 rfl
    have hmoves : MovesAfter ⟨[], .done v⟩ r' := stepAfter_moves (c := c) h
    exact hmoves.inside hr
  | cons f st =>
    cases step_moves h with
    | stay => exact hr
    | shift hnext => exact .of_bare hnext
    | begin hnext => exact beginValue_inside hnext
    | key => exact .of_bare trivial
    | text hnext => exact deliver_inside hnext
    | number _ hdelivered hnext => exact hnext.inside (deliver_inside hdelivered)
    | infinity =>
      refine .of_open fun rest v hm => ?_
      cases hm
      decide
    | literal =>
      refine .of_open fun rest v hm => ?_
      cases hm
      exact fun hmem => hr.2 _ _ rfl (List.mem_cons_of_mem _ hmem)
    | literalEnd hnext => exact deliver_inside hnext
    | close hnext => exact hnext.inside (.of_bare trivial)
    | after hnext => exact hnext.inside hr

theorem run_inside {r r' : Reader} {s : List Char} (hr : r.Inside) (h : r.run s = some r') :
    r'.Inside := by
  induction s generalizing r with
  | nil =>
    cases h
    exact hr
  | cons c cs ih =>
    obtain ⟨r1, h1, h2⟩ := Option.bind_eq_some_iff.mp h
    exact ih (step_inside hr h1) h2

/-- A letter cannot follow a string literal. -/
def NoFollow (a : Char) : Prop := isJsonSpace a = false ∧ a ∉ [':', ',', ']', '}']

theorem stepAfter_noFollow {r : Reader} {a : Char} (ha : NoFollow a) : stepAfter r a = none := by
  obtain ⟨hsp, hne⟩ := ha
  simp only [List.mem_cons, List.not_mem_nil, or_false, not_or] at hne
  obtain ⟨_, h2, h3, h4⟩ := hne
  unfold stepAfter
  split <;> simp [hsp, h2, h3, h4]

theorem deliverString_noFollow {st : List Frame} {isKey : Bool} {s : String} {a : Char}
    (ha : NoFollow a) (rest : List Char) :
    ((deliverString st isKey s).bind fun r => r.parse (a :: rest)) = none := by
  rw [Option.bind_eq_none_iff]
  intro r hr
  rw [Reader.parse_cons]
  have hstep : r.step a = none := by
    unfold deliverString at hr
    split at hr
    · split at hr
      · cases hr
        have hcolon : a ≠ ':' := fun h => ha.2 (by simp [h])
        simp [Reader.step, ha.1, hcolon]
      · exact absurd hr (by simp)
    · rw [step_of_deliver hr, stepAfter_noFollow ha]
  rw [hstep, Option.bind_none]

/-- A record read from inside another text comes to nothing: where a value may
stand it leaves the outer text open, inside a string its first quote closes
the string, and everywhere else its brace is refused. -/
theorem parse_glued {sty : Style} {level : Nat} {v : Value} {a : Char} {rest : List Char}
    (hrow : dumpValue sty level v = '{' :: '"' :: a :: rest) (ha : NoFollow a) (hwf : v.WF)
    (hfin : sty.nanText = false → v.Finite) {r : Reader} (hr : r.Inside) :
    r.parse (dumpValue sty level v) = none := by
  have nested : ∀ f st, (Reader.mk (f :: st) .value).parse (dumpValue sty level v) = none := by
    intro f st
    have h := parse_dumpValue sty v level (f :: st) [] hwf hfin (by intro c hc; simp at hc)
    rw [List.append_nil] at h
    rw [h]
    cases f <;> rfl
  have refused : r.step '{' = none → r.parse (dumpValue sty level v) = none := by
    intro h
    rw [hrow, Reader.parse_cons, h, Option.bind_none]
  have brace : NoFollow '{' := by unfold NoFollow; decide
  obtain ⟨st, m⟩ := r
  cases st with
  | nil =>
    obtain ⟨u, rfl⟩ := hr.1 rfl
    exact refused (stepAfter_noFollow (r := ⟨[], .done u⟩) brace)
  | cons f st =>
    cases m with
    | value => exact nested f st
    | firstValue =>
      rw [← nested f st, hrow, Reader.parse_cons, Reader.parse_cons]
      rfl
    | firstKey => exact refused rfl
    | key => exact refused rfl
    | colon => exact refused rfl
    | after => exact refused (stepAfter_noFollow (r := ⟨f :: st, .after⟩) brace)
    | done u => exact refused (stepAfter_noFollow (r := ⟨f :: st, .done u⟩) brace)
    | number acc =>
      refine refused ?_
      have hI : ¬ (acc = ['-'] ∧ ('{' : Char) = 'I') := fun h => absurd h.2 (by decide)
      simp only [Reader.step, if_neg hI]
      have hnum : isNumberChar '{' = false := by decide
      simp [hnum, stepAfter_noFollow brace]
    | literal rest' u =>
      have hrest := hr.2 rest' u rfl
      match rest' with
      | [] => exact refused rfl
      | [e] =>
        refine refused ?_
        have hne : '{' ≠ e := fun h => hrest (h ▸ List.mem_cons_self)
        simp [Reader.step, hne]
      | e :: e' :: es =>
        refine refused ?_
        have hne : '{' ≠ e := fun h => hrest (h ▸ List.mem_cons_self)
        simp [Reader.step, hne]
    | string isKey m acc =>
      cases m with
      | plain =>
        rw [hrow, Reader.parse_cons]
        have hbrace : (Reader.mk (f :: st) (.string isKey .plain acc)).step '{' =
            some ⟨f :: st, .string isKey .plain ('{' :: acc)⟩ := rfl
        rw [hbrace, Option.bind_some, Reader.parse_cons]
        simp only [Reader.step, and_self, if_true]
        exact deliverString_noFollow ha rest
      | escape => exact refused rfl
      | hex high count value => exact refused rfl
      | high n => exact refused rfl
      | highEscape n => exact refused rfl

/-- A record behind the remains of another is not read. -/
theorem loads_glued {sty : Style} {level : Nat} {v : Value} {a : Char} {rest : List Char}
    (hrow : dumpValue sty level v = '{' :: '"' :: a :: rest) (ha : NoFollow a) (hwf : v.WF)
    (hfin : sty.nanText = false → v.Finite) (t : List Char) :
    loads ('{' :: t ++ dumpValue sty level v) = none := by
  have hopen : Reader.start.step '{' = some ⟨[.obj []], .firstKey⟩ := rfl
  show Reader.start.parse _ = none
  rw [List.cons_append, Reader.parse_cons, hopen, Option.bind_some]
  cases hrun : (Reader.mk [.obj []] .firstKey).run t with
  | none => simp [Reader.parse, Reader.run_append, hrun]
  | some r =>
    rw [Reader.parse_append hrun]
    exact parse_glued hrow ha hwf hfin (run_inside (.of_open fun _ _ h => by simp at h) hrun)

/-! ## Texts that are complete -/

theorem run_done {v : Value} {t : List Char} {r : Reader}
    (h : (Reader.mk [] (.done v)).run t = some r) :
    r = ⟨[], .done v⟩ ∧ ∀ c ∈ t, isJsonSpace c = true := by
  induction t with
  | nil =>
    cases h
    exact ⟨rfl, fun c hc => absurd hc List.not_mem_nil⟩
  | cons c t ih =>
    obtain ⟨r1, h1, h2⟩ := Option.bind_eq_some_iff.mp h
    by_cases hsp : isJsonSpace c = true
    · have hstay : (Reader.mk [] (.done v)).step c = some ⟨[], .done v⟩ := by
        simp [Reader.step, stepAfter, hsp]
      obtain rfl := Option.some.inj (hstay.symm.trans h1)
      obtain ⟨hr, ht⟩ := ih h2
      refine ⟨hr, fun d hd => ?_⟩
      rcases List.mem_cons.mp hd with rfl | hd
      · exact hsp
      · exact ht d hd
    · have hrefused : (Reader.mk [] (.done v)).step c = none := by
        simp [Reader.step, stepAfter, hsp]
      exact absurd (hrefused.symm.trans h1) (by simp)

/-- Only white space can follow an object. -/
theorem loads_continued {s t : List Char} {v v' : Value} (h : loads ('{' :: s) = some v)
    (h' : loads ('{' :: s ++ t) = some v') : v' = v ∧ ∀ c ∈ t, isJsonSpace c = true := by
  obtain ⟨r, hrun, hfinish⟩ := Option.bind_eq_some_iff.mp h
  obtain ⟨r', hrun', hfinish'⟩ := Option.bind_eq_some_iff.mp h'
  rw [Reader.run_append, hrun, Option.bind_some] at hrun'
  have hopen : Reader.start.step '{' = some ⟨[.obj []], .firstKey⟩ := rfl
  have hinside : r.Inside := by
    rw [Reader.run, hopen, Option.bind_some] at hrun
    exact run_inside (.of_open fun _ _ h => by simp at h) hrun
  obtain ⟨st, m⟩ := r
  cases st with
  | cons f st => cases m <;> cases hfinish
  | nil =>
    obtain ⟨u, rfl⟩ := hinside.1 rfl
    obtain rfl := Option.some.inj hfinish
    obtain ⟨rfl, ht⟩ := run_done hrun'
    exact ⟨(Option.some.inj hfinish').symm, ht⟩

/-! ## Blank texts -/

/-- White space may follow a text. -/
theorem loads_dumps_space (sty : Style) {v : Value} (hwf : v.WF)
    (hfin : sty.nanText = false → v.Finite) {ws : List Char}
    (hws : ∀ c ∈ ws, isJsonSpace c = true) : loads (dumps sty v ++ ws) = some v := by
  have hhead : NoNumberHead ws := fun c hc => isJsonSpace_not_number (hws c (List.mem_of_mem_head? hc))
  have h := parse_dumpValue sty v 0 [] ws hwf hfin hhead
  have hdone := parse_space (r := ⟨[], .done v⟩) hws
    (fun c hc => by simp [Reader.step, stepAfter, hc]) []
  rw [List.append_nil] at hdone
  exact h.trans hdone

/-- White space alone is no JSON text. -/
theorem loads_blank {s : List Char} (hs : ∀ c ∈ s, isSpace c = true) : loads s = none := by
  show Reader.start.parse s = none
  induction s with
  | nil => rfl
  | cons c cs ih =>
    have hc := hs c (by simp)
    rw [Reader.parse_cons]
    by_cases hsp : isJsonSpace c = true
    · have hstay : Reader.start.step c = some Reader.start := by simp [Reader.start, Reader.step, hsp]
      rw [hstay, Option.bind_some]
      exact ih fun d hd => hs d (List.mem_cons_of_mem _ hd)
    · have hno : Reader.start.step c = none := by
        have hne : ∀ d, isSpace d = false → c ≠ d := fun d hd h => by
          rw [h, hd] at hc
          exact absurd hc (by simp)
        have hdigit : ¬ (c = '-' ∨ c.isDigit = true) := by
          rintro (h | h)
          · exact hne '-' (by decide) h
          · simp only [Char.isDigit, Bool.and_eq_true, decide_eq_true_eq, ge_iff_le] at h
            have h1 : 48 ≤ c.toNat := h.1
            have h2 : c.toNat ≤ 57 := h.2
            simp only [isSpace, Bool.or_eq_true, Bool.and_eq_true, decide_eq_true_eq,
              beq_iff_eq] at hc
            omega
        simp only [Reader.start, Reader.step, hsp, beginValue]
        rw [if_neg (hne _ (by decide)), if_neg (hne _ (by decide)), if_neg (hne _ (by decide)),
          if_neg (hne _ (by decide)), if_neg (hne _ (by decide)), if_neg (hne _ (by decide)),
          if_neg (hne _ (by decide)), if_neg (hne _ (by decide)), if_neg hdigit]
        rfl
      rw [hno, Option.bind_none]

/-! ## Well-formedness -/

theorem deliver_wf {st : List Frame} {v : Value} {r : Reader} (hst : ∀ f ∈ st, f.WF) (hv : v.WF)
    (h : deliver st v = some r) : r.WF := by
  unfold deliver at h
  split at h
  · cases h
    exact ⟨by simp, hv⟩
  · next items st =>
    cases h
    simp only [List.mem_cons, forall_eq_or_imp] at hst
    exact ⟨by simpa using ⟨ListWF.append hst.1 ⟨hv, trivial⟩, hst.2⟩, trivial⟩
  · next es k st =>
    cases h
    simp only [List.mem_cons, forall_eq_or_imp] at hst
    exact ⟨by simpa using ⟨Value.WF.set k hst.1 hv, hst.2⟩, trivial⟩
  · exact absurd h (by simp)

theorem numberValue_wf {s : List Char} {v : Value} (h : numberValue s = some v) : v.WF := by
  obtain ⟨n, _, rfl⟩ := Option.map_eq_some_iff.mp h
  cases n <;> trivial

theorem beginValue_wf {st : List Frame} {c : Char} {r : Reader} (hst : ∀ f ∈ st, f.WF)
    (h : beginValue st c = some r) : r.WF := by
  obtain ⟨hstack, hmode, _⟩ := beginValue_cases h
  refine ⟨?_, hmode⟩
  rcases hstack with hs | hs | hs
  · rwa [hs]
  · rw [hs]
    simpa [Frame.WF, Value.WF, EntriesWF, Dict.keys] using hst
  · rw [hs]
    simpa [Frame.WF, ListWF] using hst

theorem MovesAfter.wf {r r' : Reader} (h : MovesAfter r r') (hr : r.WF) : r'.WF := by
  cases h with
  | stay => exact hr
  | comma h => exact ⟨hr.1, h.wf⟩
  | @closeArr items st _ h =>
    have hitems : ListWF items := hr.1 _ List.mem_cons_self
    exact deliver_wf (fun f hf => hr.1 f (List.mem_cons_of_mem _ hf)) (v := .list items) hitems h
  | @closeObj es st _ h =>
    have hes : (Value.dict es).WF := hr.1 _ List.mem_cons_self
    exact deliver_wf (fun f hf => hr.1 f (List.mem_cons_of_mem _ hf)) hes h

theorem step_wf {r r' : Reader} {c : Char} (hr : r.WF) (h : r.step c = some r') : r'.WF := by
  cases step_moves h with
  | stay => exact hr
  | shift hnext => exact ⟨hr.1, hnext.wf⟩
  | begin hnext => exact beginValue_wf hr.1 hnext
  | key =>
    have hst := hr.1
    simp only [List.mem_cons, forall_eq_or_imp] at hst
    exact ⟨by simpa [Frame.WF] using hst, trivial⟩
  | @text _ _ s _ _ hnext => exact deliver_wf hr.1 (v := .str s) trivial hnext
  | number hv hdelivered hnext => exact hnext.wf (deliver_wf hr.1 (numberValue_wf hv) hdelivered)
  | infinity => exact ⟨hr.1, trivial⟩
  | literal => exact hr
  | literalEnd hnext => exact deliver_wf hr.1 hr.2 hnext
  | close hnext => exact hnext.wf ⟨hr.1, trivial⟩
  | after hnext => exact hnext.wf hr

theorem run_wf {r r' : Reader} {s : List Char} (hr : r.WF) (h : r.run s = some r') : r'.WF := by
  induction s generalizing r with
  | nil =>
    cases h
    exact hr
  | cons c cs ih =>
    obtain ⟨r1, h1, h2⟩ := Option.bind_eq_some_iff.mp h
    exact ih (step_wf hr h1) h2

/-- What is read is well formed. -/
theorem loads_wf {s : List Char} {v : Value} (h : loads s = some v) : v.WF := by
  obtain ⟨r, hrun, hfin⟩ := Option.bind_eq_some_iff.mp h
  have hr : r.WF := run_wf (r := Reader.start) ⟨by simp [Reader.start], trivial⟩ hrun
  unfold Reader.finish at hfin
  split at hfin
  · cases hfin
    exact hr.2
  · exact numberValue_wf hfin
  · exact absurd hfin (by simp)

end Python
