import NetworkRecovery.Python.Json

/-!
# The JSON round trip

`loads_dumps`: what the writer writes, the reader reads back, in every style
and for every well-formed value. The induction is over the value with the
rest of the text left open (`parse_dumpValue`), so that a value is read the
same way wherever it stands: reading its text from any stack delivers it to
that stack, and reading goes on.

The rest may not begin with a character a number could go on with. Nothing
else is asked of it, and no container puts such a character behind a value.
-/

namespace Python

/-- Read the rest of a text and finish. -/
def Reader.parse (r : Reader) (s : List Char) : Option Value := (r.run s).bind Reader.finish

theorem Reader.parse_cons (r : Reader) (c : Char) (cs : List Char) :
    r.parse (c :: cs) = (r.step c).bind fun r => r.parse cs := by
  simp only [parse, run, Option.bind_assoc]

theorem Reader.run_append (r : Reader) (s t : List Char) :
    r.run (s ++ t) = (r.run s).bind fun r => r.run t := by
  induction s generalizing r with
  | nil => rfl
  | cons c cs ih => simp only [List.cons_append, run, ih, Option.bind_assoc]

theorem Reader.parse_append {r r' : Reader} {s : List Char} (h : r.run s = some r')
    (t : List Char) : r.parse (s ++ t) = r'.parse t := by
  simp only [parse, run_append, h, Option.bind_some]

/-! ## Strings -/

theorem hexValue_hexDigit (n : Nat) : hexValue (hexDigit n) = some (n % 16) := by
  have table : ∀ m < 16, hexValue (Nat.digitChar m) = some m := by decide
  exact table (n % 16) (Nat.mod_lt n (by decide))

/-- Reading `\uXXXX`. -/
theorem run_unicodeEscape {st : List Frame} {isKey : Bool} {m : StrMode} {acc : List Char}
    {high : Option Nat} {n : Nat} (hn : n < 0x10000)
    (hu : (Reader.mk st (.string isKey m acc)).run ['\\', 'u'] =
      some ⟨st, .string isKey (.hex high 0 0) acc⟩) :
    (Reader.mk st (.string isKey m acc)).run (unicodeEscape n) =
      (endHex high n acc).map fun (m, acc) => ⟨st, .string isKey m acc⟩ := by
  have hvalue : 16 * (16 * (16 * (16 * 0 + n / 4096 % 16) + n / 256 % 16) + n / 16 % 16) +
      n % 16 = n := by omega
  have hsplit : unicodeEscape n = ['\\', 'u'] ++
      [hexDigit (n / 4096), hexDigit (n / 256), hexDigit (n / 16), hexDigit n] := rfl
  rw [hsplit, Reader.run_append, hu, Option.bind_some]
  simp only [Reader.run, Reader.step, stepString, hexValue_hexDigit, Option.bind_some,
    reduceCtorEq, false_and, if_false, Nat.reduceLT, if_true, Option.map_some, hvalue,
    Nat.reduceAdd]
  cases endHex high n acc <;> rfl

/-- A character is no surrogate and lies in the Unicode range. -/
theorem toNat_valid (c : Char) :
    c.toNat < 0xD800 ∨ 0xDFFF < c.toNat ∧ c.toNat < 0x110000 := c.valid

theorem charOfNat?_toNat (c : Char) : charOfNat? c.toNat = some c := by
  have hv : c.toNat.isValidChar := toNat_valid c
  unfold charOfNat?
  rw [dif_pos hv]
  rfl

/-- Reading an escaped character of the basic plane. -/
theorem run_escape_basic (st : List Frame) (isKey : Bool) (acc : List Char) {c : Char}
    (hc : c.toNat < 0x10000) :
    (Reader.mk st (.string isKey .plain acc)).run (unicodeEscape c.toNat) =
      some ⟨st, .string isKey .plain (c :: acc)⟩ := by
  have hlow : ¬ (0xD800 ≤ c.toNat ∧ c.toNat ≤ 0xDBFF) := by
    rcases toNat_valid c with h | h <;> omega
  rw [run_unicodeEscape hc rfl]
  simp only [endHex, if_neg hlow, charOfNat?_toNat, Option.map_some]

/-- Reading an escaped character beyond it, as a pair of surrogates. -/
theorem run_escape_pair (st : List Frame) (isKey : Bool) (acc : List Char) {c : Char} {hi lo : Nat}
    (hhigh : 0xD800 ≤ hi ∧ hi ≤ 0xDBFF) (hlow : 0xDC00 ≤ lo ∧ lo ≤ 0xDFFF)
    (hvalue : 0x10000 + (hi - 0xD800) * 0x400 + (lo - 0xDC00) = c.toNat) :
    (Reader.mk st (.string isKey .plain acc)).run (unicodeEscape hi ++ unicodeEscape lo) =
      some ⟨st, .string isKey .plain (c :: acc)⟩ := by
  rw [Reader.run_append, run_unicodeEscape (by omega) rfl]
  simp only [endHex, if_pos hhigh, Option.map_some, Option.bind_some]
  rw [run_unicodeEscape (by omega) rfl]
  simp only [endHex, if_pos hlow, hvalue, charOfNat?_toNat, Option.map_some]

/-- Reading one escaped character appends the character. -/
theorem run_escapeChar (st : List Frame) (isKey ascii : Bool) (acc : List Char) (c : Char) :
    (Reader.mk st (.string isKey .plain acc)).run (escapeChar ascii c) =
      some ⟨st, .string isKey .plain (c :: acc)⟩ := by
  unfold escapeChar
  by_cases h1 : c = '"'
  · subst h1; rfl
  rw [if_neg h1]
  by_cases h2 : c = '\\'
  · subst h2; rfl
  rw [if_neg h2]
  by_cases h3 : c = '\n'
  · subst h3; rfl
  rw [if_neg h3]
  by_cases h4 : c = '\r'
  · subst h4; rfl
  rw [if_neg h4]
  by_cases h5 : c = '\t'
  · subst h5; rfl
  rw [if_neg h5]
  by_cases h6 : c = Char.ofNat 8
  · subst h6; rfl
  rw [if_neg h6]
  by_cases h7 : c = Char.ofNat 12
  · subst h7; rfl
  rw [if_neg h7]
  by_cases h8 : c.toNat < 0x20
  · rw [if_pos h8, run_escape_basic st isKey acc (by omega)]
  rw [if_neg h8]
  by_cases h9 : ascii = false ∨ c.toNat < 0x7F
  · rw [if_pos h9]
    simp only [Reader.run, Reader.step, stepString, h1, h2, h8, and_false, if_false,
      Option.map_some, Option.bind_some]
  rw [if_neg h9]
  by_cases h10 : c.toNat < 0x10000
  · rw [if_pos h10, run_escape_basic st isKey acc h10]
  · rw [if_neg h10]
    have hmax : c.toNat < 0x110000 := by
      rcases toNat_valid c with h | h <;> omega
    exact run_escape_pair st isKey acc (by omega) (by omega) (by omega)

/-- Reading the body of a string literal. -/
theorem run_escapeText (st : List Frame) (isKey ascii : Bool) (s acc : List Char) :
    (Reader.mk st (.string isKey .plain acc)).run (escapeText ascii s) =
      some ⟨st, .string isKey .plain (s.reverse ++ acc)⟩ := by
  induction s generalizing acc with
  | nil => rfl
  | cons c cs ih =>
    unfold escapeText at ih ⊢
    rw [List.flatMap_cons, Reader.run_append, run_escapeChar, Option.bind_some, ih,
      List.reverse_cons, List.append_assoc, List.singleton_append]

/-- Reading a string literal, its opening quote apart. -/
theorem parse_string (st : List Frame) (isKey ascii : Bool) (s : String) (rest : List Char) :
    (Reader.mk st (.string isKey .plain [])).parse (escapeText ascii s.toList ++ '"' :: rest) =
      (deliverString st isKey s).bind fun r => r.parse rest := by
  rw [Reader.parse_append (run_escapeText st isKey ascii s.toList []), Reader.parse_cons,
    List.append_nil]
  simp only [Reader.step, and_self, if_true, List.reverse_reverse, String.ofList_toList]

/-! ## Numbers -/

/-- What may follow a number: the end, or a character no number has. -/
def NoNumberHead (s : List Char) : Prop := ∀ c ∈ s.head?, isNumberChar c = false

theorem isNumberChar_of_isDigit {c : Char} (h : c.isDigit = true) : isNumberChar c = true := by
  simp [isNumberChar, h]

theorem isNumberChar_intText {n : Int} {c : Char} (h : c ∈ intText n) : isNumberChar c = true := by
  cases n with
  | ofNat m => exact isNumberChar_of_isDigit (isDigit_natText h)
  | negSucc m =>
    rcases List.mem_cons.mp h with rfl | h
    · rfl
    · exact isNumberChar_of_isDigit (isDigit_natText h)

theorem isNumberChar_exponentText {e : Int} {c : Char} (h : c ∈ exponentText e) :
    isNumberChar c = true := by
  unfold exponentText at h
  rcases List.mem_cons.mp h with rfl | h
  · split <;> rfl
  · split at h
    · rcases List.mem_cons.mp h with rfl | h
      · rfl
      · exact isNumberChar_of_isDigit (isDigit_natText h)
    · exact isNumberChar_of_isDigit (isDigit_natText h)

theorem isNumberChar_magnitudeText {d : Decimal} {c : Char} (h : c ∈ d.magnitudeText) :
    isNumberChar c = true := by
  have digit : ∀ x ∈ natText d.digits, isNumberChar x = true :=
    fun x hx => isNumberChar_of_isDigit (isDigit_natText hx)
  unfold Decimal.magnitudeText at h
  dsimp only at h
  split at h
  · split at h
    · simp only [List.mem_cons, List.mem_append, List.mem_replicate] at h
      rcases h with rfl | rfl | ⟨_, rfl⟩ | h
      · rfl
      · rfl
      · rfl
      · exact digit c h
    · split at h
      · simp only [List.mem_cons, List.mem_append, List.mem_replicate, List.not_mem_nil,
          or_false] at h
        rcases h with (h | ⟨_, rfl⟩) | rfl | rfl
        · exact digit c h
        · rfl
        · rfl
        · rfl
      · simp only [List.mem_cons, List.mem_append] at h
        rcases h with h | rfl | h
        · exact digit c (List.mem_of_mem_take h)
        · rfl
        · exact digit c (List.mem_of_mem_drop h)
  · split at h
    · exact absurd h List.not_mem_nil
    · next x hx =>
      simp only [List.mem_cons] at h
      rcases h with rfl | rfl | h
      · exact digit c (by simp [hx])
      · rfl
      · exact isNumberChar_exponentText h
    · next x xs _ hx =>
      simp only [List.mem_cons, List.mem_append] at h
      rcases h with rfl | rfl | h | rfl | h
      · exact digit c (by simp [hx])
      · rfl
      · exact digit c (by simp [hx, h])
      · rfl
      · exact isNumberChar_exponentText h

theorem isNumberChar_text {d : Decimal} {c : Char} (h : c ∈ d.text) : isNumberChar c = true := by
  unfold Decimal.text at h
  split at h
  · rcases List.mem_cons.mp h with rfl | h
    · rfl
    · exact isNumberChar_magnitudeText h
  · exact isNumberChar_magnitudeText h

/-- A number begins with its sign or a digit. -/
theorem head_of_readNumber {s : List Char} {n : Number} (h : readNumber s = some n) :
    ∃ c cs, s = c :: cs ∧ (c = '-' ∨ c.isDigit = true) := by
  cases s with
  | nil => exact absurd h (by simp [readNumber, readMagnitude, spanDigits])
  | cons c cs =>
    refine ⟨c, cs, rfl, ?_⟩
    by_cases hc : c = '-'
    · exact .inl hc
    · refine .inr ?_
      by_contra hd
      have hnone : readNumber (c :: cs) = none := by
        unfold readNumber
        split
        · next t ht => exact absurd (List.cons.inj ht).1 hc
        · simp [readMagnitude, spanDigits, hd]
      rw [hnone] at h
      exact absurd h (by simp)

/-- The first character of a number opens number mode. -/
theorem beginValue_number {st : List Frame} {c : Char} (h : c = '-' ∨ c.isDigit = true) :
    beginValue st c = some ⟨st, .number [c]⟩ := by
  have hne : c ≠ '"' ∧ c ≠ '{' ∧ c ≠ '[' ∧ c ≠ 'n' ∧ c ≠ 't' ∧ c ≠ 'f' ∧ c ≠ 'N' ∧ c ≠ 'I' := by
    rcases h with rfl | h
    · decide
    · refine ⟨?_, ?_, ?_, ?_, ?_, ?_, ?_, ?_⟩ <;> (rintro rfl; exact absurd h (by decide))
  obtain ⟨h1, h2, h3, h4, h5, h6, h7, h8⟩ := hne
  unfold beginValue
  rw [if_neg h1, if_neg h2, if_neg h3, if_neg h4, if_neg h5, if_neg h6, if_neg h7, if_neg h8,
    if_pos h]

theorem run_number {st : List Frame} {s : List Char} (acc : List Char)
    (hs : ∀ c ∈ s, isNumberChar c = true) :
    (Reader.mk st (.number acc)).run s = some ⟨st, .number (s.reverse ++ acc)⟩ := by
  induction s generalizing acc with
  | nil => rfl
  | cons c cs ih =>
    simp only [Reader.run, Reader.step, hs c (by simp), if_true, Option.bind_some]
    rw [ih (c :: acc) (fun d hd => hs d (List.mem_cons_of_mem _ hd))]
    simp

/-- A complete value is read on from by `stepAfter` alone. -/
theorem step_of_deliver {st : List Frame} {v : Value} {r : Reader} (h : deliver st v = some r)
    (c : Char) : r.step c = stepAfter r c := by
  unfold deliver at h
  split at h
  all_goals first | (cases h; rfl) | exact absurd h (by simp)

theorem isJsonSpace_not_number {c : Char} (h : isJsonSpace c = true) : isNumberChar c = false := by
  simp only [isJsonSpace, Bool.or_eq_true, beq_iff_eq] at h
  rcases h with ((rfl | rfl) | rfl) | rfl <;> decide

/-- Reading a number. It is complete when something follows that it could not
go on with, or at the end. -/
theorem parse_number {st : List Frame} {s rest : List Char} {v : Value}
    (hs : ∀ c ∈ s, isNumberChar c = true) (hv : numberValue s = some v)
    (hr : NoNumberHead rest) :
    (Reader.mk st .value).parse (s ++ rest) = (deliver st v).bind fun r => r.parse rest := by
  obtain ⟨n, hn, _⟩ := Option.map_eq_some_iff.mp hv
  obtain ⟨c, cs, rfl, hc⟩ := head_of_readNumber hn
  have hspace : isJsonSpace c = false := by
    cases hsp : isJsonSpace c with
    | false => rfl
    | true =>
      have := isJsonSpace_not_number hsp
      rw [hs c (by simp)] at this
      exact absurd this (by simp)
  have hrun : (Reader.mk st .value).run (c :: cs) = some ⟨st, .number (cs.reverse ++ [c])⟩ := by
    simp only [Reader.run, Reader.step, hspace, Bool.false_eq_true, if_false,
      beginValue_number hc, Option.bind_some]
    exact run_number [c] fun d hd => hs d (List.mem_cons_of_mem _ hd)
  have hrev : (cs.reverse ++ [c]).reverse = c :: cs := by simp
  rw [Reader.parse_append hrun]
  cases rest with
  | nil =>
    cases st with
    | nil => simp only [Reader.parse, Reader.run, Option.bind_some, Reader.finish, hrev, hv, deliver]
    | cons f st => cases f <;> rfl
  | cons d ds =>
    rw [Reader.parse_cons]
    have hd : isNumberChar d = false := hr d (by simp)
    -- a lone minus sign is no number, so `-Infinity` is not in question here
    have hminus : ¬ (cs.reverse ++ [c] = ['-'] ∧ d = 'I') := by
      rintro ⟨h, _⟩
      have : c :: cs = ['-'] := by rw [← hrev, h]; rfl
      rw [this] at hn
      exact absurd hn (by simp [readNumber, readMagnitude, spanDigits])
    simp only [Reader.step, hd, Bool.false_eq_true, if_false, if_neg hminus, hrev, hv,
      Option.bind_some]
    cases hdel : deliver st v with
    | none => rfl
    | some r =>
      simp only [Option.bind_some]
      rw [Reader.parse_cons, step_of_deliver hdel]

/-! ## Containers -/

theorem parse_space {r : Reader} {ws : List Char} (hws : ∀ c ∈ ws, isJsonSpace c = true)
    (hstep : ∀ c, isJsonSpace c = true → r.step c = some r) (rest : List Char) :
    r.parse (ws ++ rest) = r.parse rest := by
  induction ws with
  | nil => rfl
  | cons c cs ih =>
    rw [List.cons_append, Reader.parse_cons, hstep c (hws c (by simp)), Option.bind_some,
      ih fun d hd => hws d (List.mem_cons_of_mem _ hd)]

theorem isJsonSpace_newline (sty : Style) (level : Nat) :
    ∀ c ∈ sty.newline level, isJsonSpace c = true := by
  intro c hc
  unfold Style.newline at hc
  split at hc
  · exact absurd hc List.not_mem_nil
  · rcases List.mem_cons.mp hc with rfl | hc
    · rfl
    · rw [List.eq_of_mem_replicate hc]; rfl

theorem isJsonSpace_pad (b : Bool) : ∀ c ∈ pad b, isJsonSpace c = true := by
  cases b <;> simp [pad, isJsonSpace]

theorem noNumberHead_newline (sty : Style) (level : Nat) {c : Char} (hc : isNumberChar c = false)
    (rest : List Char) : NoNumberHead (sty.newline level ++ c :: rest) := by
  intro d hd
  cases h : sty.newline level with
  | nil =>
    rw [h] at hd
    obtain rfl : c = d := by simpa using hd
    exact hc
  | cons e es =>
    rw [h] at hd
    obtain rfl : e = d := by simpa using hd
    exact isJsonSpace_not_number (isJsonSpace_newline sty level e (by simp [h]))

theorem noNumberHead_dumpItems (sty : Style) (level : Nat) (xs : List Value) {rest : List Char}
    (hr : NoNumberHead rest) : NoNumberHead (dumpItems sty level xs ++ rest) := by
  cases xs with
  | nil => simpa [dumpItems] using hr
  | cons x xs =>
    intro c hc
    obtain rfl : ',' = c := by simpa [dumpItems] using hc
    rfl

theorem noNumberHead_dumpEntries (sty : Style) (level : Nat) (kvs : Dict) {rest : List Char}
    (hr : NoNumberHead rest) : NoNumberHead (dumpEntries sty level kvs ++ rest) := by
  cases kvs with
  | nil => simpa [dumpEntries] using hr
  | cons e kvs =>
    intro c hc
    obtain rfl : ',' = c := by simpa [dumpEntries] using hc
    rfl

/-- A key, its colon and the pad lead to the value. -/
theorem parse_key (st : List Frame) (es : Dict) (ascii b : Bool) (k : String) (rest : List Char) :
    (Reader.mk (.obj es :: st) (.string true .plain [])).parse
      (escapeText ascii k.toList ++ '"' :: ':' :: (pad b ++ rest)) =
      (Reader.mk (.field es k :: st) .value).parse rest := by
  rw [parse_string]
  simp only [deliverString, if_true, Option.bind_some]
  rw [Reader.parse_cons]
  have hcolon : (Reader.mk (.field es k :: st) .colon).step ':' =
      some ⟨.field es k :: st, .value⟩ := rfl
  rw [hcolon, Option.bind_some]
  exact parse_space (isJsonSpace_pad b) (fun c hc => by simp [Reader.step, hc]) rest

/-- The first character of a value's text opens it in every mode that takes a
value. -/
theorem dumpValue_head (sty : Style) (level : Nat) (v : Value) : ∃ c cs,
    dumpValue sty level v = c :: cs ∧ isJsonSpace c = false ∧ c ≠ ']' := by
  have number : ∀ {s : List Char} {n : Number}, readNumber s = some n →
      (∃ c cs, s = c :: cs ∧ isJsonSpace c = false ∧ c ≠ ']') := by
    intro s n h
    obtain ⟨c, cs, rfl, hc⟩ := head_of_readNumber h
    refine ⟨c, cs, rfl, ?_, ?_⟩
    · cases hsp : isJsonSpace c with
      | false => rfl
      | true =>
        have hnum : isNumberChar c = true := by
          rcases hc with rfl | hc
          · rfl
          · exact isNumberChar_of_isDigit hc
        rw [isJsonSpace_not_number hsp] at hnum
        exact absurd hnum (by simp)
    · rintro rfl
      exact absurd hc (by decide)
  match v with
  | .none => exact ⟨'n', "ull".toList, rfl, rfl, by decide⟩
  | .bool true => exact ⟨'t', "rue".toList, rfl, rfl, by decide⟩
  | .bool false => exact ⟨'f', "alse".toList, rfl, rfl, by decide⟩
  | .int n => exact number (readNumber_intText n)
  | .float (.finite d) => exact number (readNumber_text d)
  | .float (.inf neg) =>
    unfold dumpValue floatText
    cases sty.nanText with
    | false => exact ⟨'n', "ull".toList, rfl, rfl, by decide⟩
    | true =>
      cases neg with
      | false => exact ⟨'I', "nfinity".toList, rfl, rfl, by decide⟩
      | true => exact ⟨'-', "Infinity".toList, rfl, rfl, by decide⟩
  | .float .nan =>
    unfold dumpValue floatText
    cases sty.nanText with
    | false => exact ⟨'n', "ull".toList, rfl, rfl, by decide⟩
    | true => exact ⟨'N', "aN".toList, rfl, rfl, by decide⟩
  | .str s => exact ⟨'"', _, rfl, rfl, by decide⟩
  | .list [] => exact ⟨'[', _, rfl, rfl, by decide⟩
  | .list (x :: xs) => exact ⟨'[', _, rfl, rfl, by decide⟩
  | .dict [] => exact ⟨'{', _, rfl, rfl, by decide⟩
  | .dict ((k, v) :: kvs) => exact ⟨'{', _, rfl, rfl, by decide⟩

theorem parse_firstValue (sty : Style) (level : Nat) (v : Value) (st : List Frame)
    (rest : List Char) :
    (Reader.mk st .firstValue).parse (dumpValue sty level v ++ rest) =
      (Reader.mk st .value).parse (dumpValue sty level v ++ rest) := by
  obtain ⟨c, cs, h, hsp, hne⟩ := dumpValue_head sty level v
  rw [h, List.cons_append, Reader.parse_cons, Reader.parse_cons]
  simp only [Reader.step, hsp, Bool.false_eq_true, if_false, hne]

/-- Reading what is left of a literal. -/
theorem parse_literal (st : List Frame) (e : Char) (es : List Char) (v : Value)
    (rest : List Char) :
    (Reader.mk st (.literal (e :: es) v)).parse (e :: es ++ rest) =
      (deliver st v).bind fun r => r.parse rest := by
  induction es generalizing e with
  | nil =>
    rw [List.cons_append, Reader.parse_cons]
    simp only [Reader.step, if_true, List.nil_append]
  | cons f fs ih =>
    rw [List.cons_append, Reader.parse_cons]
    simp only [Reader.step, if_true, Option.bind_some]
    exact ih f

/-- Reading a float's text. -/
theorem parse_float (sty : Style) (x : FloatVal) (st : List Frame) (rest : List Char)
    (hfin : sty.nanText = false → (Value.float x).Finite) (hr : NoNumberHead rest) :
    (Reader.mk st .value).parse (floatText sty x ++ rest) =
      (deliver st (.float x)).bind fun r => r.parse rest := by
  cases x with
  | finite d =>
    refine parse_number (fun c hc => isNumberChar_text hc) ?_ hr
    simp only [floatText, numberValue, readNumber_text, Option.map_some]
  | inf neg =>
    cases hn : sty.nanText with
    | false => exact absurd (hfin hn) (by simp [Value.Finite])
    | true =>
      cases neg with
      | false =>
        simp only [floatText, hn, if_true, Bool.false_eq_true, if_false]
        exact parse_literal st 'n' "finity".toList _ rest
      | true =>
        simp only [floatText, hn, if_true]
        exact parse_literal st 'n' "finity".toList _ rest
  | nan =>
    cases hn : sty.nanText with
    | false => exact absurd (hfin hn) (by simp [Value.Finite])
    | true =>
      simp only [floatText, hn, if_true]
      exact parse_literal st 'a' "N".toList _ rest

mutual

/-- Reading a value's text delivers the value, wherever it stands. -/
theorem parse_dumpValue (sty : Style) : ∀ (v : Value) (level : Nat) (st : List Frame)
    (rest : List Char), v.WF → (sty.nanText = false → v.Finite) → NoNumberHead rest →
    (Reader.mk st .value).parse (dumpValue sty level v ++ rest) =
      (deliver st v).bind fun r => r.parse rest
  | .none, level, st, rest, _, _, _ => parse_literal st 'u' "ll".toList _ rest
  | .bool true, level, st, rest, _, _, _ => parse_literal st 'r' "ue".toList _ rest
  | .bool false, level, st, rest, _, _, _ => parse_literal st 'a' "lse".toList _ rest
  | .int n, level, st, rest, _, _, hr => by
    refine parse_number (fun c hc => isNumberChar_intText hc) ?_ hr
    simp only [dumpValue, numberValue, readNumber_intText, Option.map_some]
  | .float x, level, st, rest, _, hfin, hr => parse_float sty x st rest hfin hr
  | .str s, level, st, rest, _, _, _ => by
    simp only [dumpValue, quote, List.cons_append, List.append_assoc, List.nil_append]
    rw [Reader.parse_cons]
    have hquote : (Reader.mk st .value).step '"' = some ⟨st, .string false .plain []⟩ := rfl
    rw [hquote, Option.bind_some, parse_string]
    rfl
  | .list [], level, st, rest, _, _, _ => by
    simp only [dumpValue, List.cons_append, List.nil_append]
    have hopen : (Reader.mk st .value).step '[' = some ⟨.arr [] :: st, .firstValue⟩ := rfl
    rw [Reader.parse_cons, hopen, Option.bind_some, Reader.parse_cons]
    rfl
  | .list (x :: xs), level, st, rest, hwf, hfin, hr => by
    have hfinx : sty.nanText = false → x.Finite := fun h => (hfin h).1
    have hfinxs : sty.nanText = false → ListFinite xs := fun h => (hfin h).2
    have hclose := noNumberHead_newline sty level (c := ']') rfl rest
    have hafter : ∀ c, isJsonSpace c = true →
        (Reader.mk (.arr (x :: xs) :: st) .after).step c = some ⟨.arr (x :: xs) :: st, .after⟩ :=
      fun c hc => by simp [Reader.step, stepAfter, hc]
    simp only [dumpValue, List.cons_append, List.append_assoc, List.nil_append]
    rw [Reader.parse_cons]
    have hopen : (Reader.mk st .value).step '[' = some ⟨.arr [] :: st, .firstValue⟩ := rfl
    rw [hopen, Option.bind_some,
      parse_space (isJsonSpace_newline sty _) (fun c hc => by simp [Reader.step, hc]),
      parse_firstValue,
      parse_dumpValue sty x (level + 1) _ _ hwf.1 hfinx (noNumberHead_dumpItems sty _ xs hclose)]
    simp only [deliver, Option.bind_some, List.nil_append]
    rw [parse_dumpItems sty xs (level + 1) [x] st _ hwf.2 hfinxs hclose, List.singleton_append,
      parse_space (isJsonSpace_newline sty level) hafter, Reader.parse_cons]
    rfl
  | .dict [], level, st, rest, _, _, _ => by
    simp only [dumpValue, List.cons_append, List.nil_append]
    have hopen : (Reader.mk st .value).step '{' = some ⟨.obj [] :: st, .firstKey⟩ := rfl
    rw [Reader.parse_cons, hopen, Option.bind_some, Reader.parse_cons]
    rfl
  | .dict ((k, v) :: kvs), level, st, rest, hwf, hfin, hr => by
    have hfinv : sty.nanText = false → v.Finite := fun h => (hfin h).1
    have hfinkvs : sty.nanText = false → EntriesFinite kvs := fun h => (hfin h).2
    have hclose := noNumberHead_newline sty level (c := '}') rfl rest
    have hafter : ∀ c, isJsonSpace c = true →
        (Reader.mk (.obj ((k, v) :: kvs) :: st) .after).step c =
          some ⟨.obj ((k, v) :: kvs) :: st, .after⟩ :=
      fun c hc => by simp [Reader.step, stepAfter, hc]
    simp only [dumpValue, quote, List.cons_append, List.append_assoc, List.nil_append]
    rw [Reader.parse_cons]
    have hopen : (Reader.mk st .value).step '{' = some ⟨.obj [] :: st, .firstKey⟩ := rfl
    rw [hopen, Option.bind_some,
      parse_space (isJsonSpace_newline sty _) (fun c hc => by simp [Reader.step, hc]),
      Reader.parse_cons]
    have hkey : (Reader.mk (.obj [] :: st) .firstKey).step '"' =
        some ⟨.obj [] :: st, .string true .plain []⟩ := rfl
    rw [hkey, Option.bind_some, parse_key,
      parse_dumpValue sty v (level + 1) _ _ hwf.2.1 hfinv
        (noNumberHead_dumpEntries sty _ kvs hclose)]
    simp only [deliver, Option.bind_some, Dict.set]
    rw [parse_dumpEntries sty kvs (level + 1) [(k, v)] st _ hwf.1 hwf.2.2 hfinkvs hclose,
      List.singleton_append, parse_space (isJsonSpace_newline sty level) hafter,
      Reader.parse_cons]
    rfl

/-- Reading the further elements appends them. -/
theorem parse_dumpItems (sty : Style) : ∀ (xs : List Value) (level : Nat) (items : List Value)
    (st : List Frame) (rest : List Char), ListWF xs → (sty.nanText = false → ListFinite xs) →
    NoNumberHead rest →
    (Reader.mk (.arr items :: st) .after).parse (dumpItems sty level xs ++ rest) =
      (Reader.mk (.arr (items ++ xs) :: st) .after).parse rest
  | [], level, items, st, rest, _, _, _ => by simp [dumpItems]
  | x :: xs, level, items, st, rest, hwf, hfin, hr => by
    have hfinx : sty.nanText = false → x.Finite := fun h => (hfin h).1
    have hfinxs : sty.nanText = false → ListFinite xs := fun h => (hfin h).2
    have hvalue : ∀ c, isJsonSpace c = true →
        (Reader.mk (.arr items :: st) .value).step c = some ⟨.arr items :: st, .value⟩ :=
      fun c hc => by simp [Reader.step, hc]
    simp only [dumpItems, List.cons_append, List.append_assoc]
    rw [Reader.parse_cons]
    have hcomma : (Reader.mk (.arr items :: st) .after).step ',' =
        some ⟨.arr items :: st, .value⟩ := rfl
    rw [hcomma, Option.bind_some, parse_space (isJsonSpace_pad _) hvalue,
      parse_space (isJsonSpace_newline sty level) hvalue,
      parse_dumpValue sty x level _ _ hwf.1 hfinx (noNumberHead_dumpItems sty level xs hr)]
    simp only [deliver, Option.bind_some]
    rw [parse_dumpItems sty xs level _ st rest hwf.2 hfinxs hr, List.append_assoc,
      List.singleton_append]

/-- Reading the further entries appends them, as long as no key comes twice. -/
theorem parse_dumpEntries (sty : Style) : ∀ (kvs : Dict) (level : Nat) (es : Dict)
    (st : List Frame) (rest : List Char), (Dict.keys (es ++ kvs)).Nodup → EntriesWF kvs →
    (sty.nanText = false → EntriesFinite kvs) → NoNumberHead rest →
    (Reader.mk (.obj es :: st) .after).parse (dumpEntries sty level kvs ++ rest) =
      (Reader.mk (.obj (es ++ kvs) :: st) .after).parse rest
  | [], level, es, st, rest, _, _, _, _ => by simp [dumpEntries]
  | (k, v) :: kvs, level, es, st, rest, hnodup, hwf, hfin, hr => by
    have hfinv : sty.nanText = false → v.Finite := fun h => (hfin h).1
    have hfinkvs : sty.nanText = false → EntriesFinite kvs := fun h => (hfin h).2
    have hkeymode : ∀ c, isJsonSpace c = true →
        (Reader.mk (.obj es :: st) .key).step c = some ⟨.obj es :: st, .key⟩ :=
      fun c hc => by simp [Reader.step, hc]
    have hsplit : es ++ (k, v) :: kvs = es ++ [(k, v)] ++ kvs := by simp
    have hnew : k ∉ Dict.keys es := by
      simp only [Dict.keys, List.map_append, List.map_cons] at hnodup ⊢
      have := List.nodup_append.mp hnodup
      exact fun hmem => this.2.2 k hmem k (by simp) rfl
    simp only [dumpEntries, quote, List.cons_append, List.append_assoc, List.nil_append]
    rw [Reader.parse_cons]
    have hcomma : (Reader.mk (.obj es :: st) .after).step ',' =
        some ⟨.obj es :: st, .key⟩ := rfl
    rw [hcomma, Option.bind_some, parse_space (isJsonSpace_pad _) hkeymode,
      parse_space (isJsonSpace_newline sty level) hkeymode, Reader.parse_cons]
    have hkey : (Reader.mk (.obj es :: st) .key).step '"' =
        some ⟨.obj es :: st, .string true .plain []⟩ := rfl
    rw [hkey, Option.bind_some, parse_key,
      parse_dumpValue sty v level _ _ hwf.1 hfinv (noNumberHead_dumpEntries sty level kvs hr)]
    simp only [deliver, Option.bind_some]
    rw [Dict.set_of_not_mem v hnew,
      parse_dumpEntries sty kvs level _ st rest (hsplit ▸ hnodup) hwf.2 hfinkvs hr, hsplit]

end

/-- What is written is read back. In a style that prints `null` for the floats
JSON does not have, the value must not hold them. -/
theorem loads_dumps (sty : Style) {v : Value} (hwf : v.WF)
    (hfin : sty.nanText = false → v.Finite) : loads (dumps sty v) = some v := by
  have h := parse_dumpValue sty v 0 [] [] hwf hfin (by intro c hc; exact absurd hc (by simp))
  rw [List.append_nil] at h
  exact h

/-- The canonical text determines the value up to the order of entries. -/
theorem dumpsSorted_injective {v w : Value} (hv : v.WF) (hw : w.WF)
    (h : dumpsSorted v = dumpsSorted w) : v.Same w := by
  have hnan : ∀ u : Value, Style.compact.nanText = false → u.Finite := fun _ h => absurd h (by decide)
  have hlv := loads_dumps .compact hv.sortKeys (hnan _)
  have hlw := loads_dumps .compact hw.sortKeys (hnan _)
  unfold dumpsSorted at h
  rw [h, hlw] at hlv
  exact (Option.some.inj hlv).symm

end Python
