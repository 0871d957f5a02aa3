import Mathlib.Data.List.DropRight
import Mathlib.Data.List.Infix
import Mathlib.Data.List.TakeWhile

/-!
# Python text

The `str` operations a program leans on without naming them: what counts as
white space, what ends a line, what a digit is, how `int()` reads a string.
A Python `str` is a sequence of code points, so the operations work on
`List Char`; a Lean `Char` is a Unicode scalar value, which leaves out the
lone surrogates and nothing else.

`str.splitlines` is the one with consequences. It breaks a line at TEN
characters, not at one, so a writer that ends its rows with a line feed and a
reader that splits with `splitlines` agree only on rows that hold none of
the other nine. `splitLines_row` is the agreement and
`splitLines_append_break` the general law for rows that may hold them.
-/

namespace Python

/-! ## White space -/

/-- `str.isspace` of one character: the set `strip()` removes and the set the
regular-expression class `\s` matches. -/
def isSpace (c : Char) : Bool :=
  let n := c.toNat
  (0x09 ≤ n && n ≤ 0x0D) || (0x1C ≤ n && n ≤ 0x20) || n == 0x85 || n == 0xA0 || n == 0x1680 ||
    (0x2000 ≤ n && n ≤ 0x200A) || n == 0x2028 || n == 0x2029 || n == 0x202F || n == 0x205F ||
    n == 0x3000

/-- `str.lstrip()`. -/
def lstrip (s : List Char) : List Char := s.dropWhile isSpace

/-- `str.rstrip()`. -/
def rstrip (s : List Char) : List Char := s.rdropWhile isSpace

/-- `str.strip()`. -/
def strip (s : List Char) : List Char := rstrip (lstrip s)

/-- `str.strip(chars)`: the given characters, off both ends. -/
def stripChars (chars s : List Char) : List Char :=
  (s.dropWhile (chars.contains ·)).rdropWhile (chars.contains ·)

/-- `s.strip()` is empty exactly when every character is white space. -/
theorem strip_eq_nil_iff (s : List Char) : strip s = [] ↔ ∀ c ∈ s, isSpace c = true := by
  unfold strip rstrip lstrip
  rw [List.rdropWhile_eq_nil_iff]
  constructor
  · intro h
    by_contra hns
    -- the first character that is not white space survives `lstrip`
    have hne : s.dropWhile isSpace ≠ [] := fun h0 => hns (List.dropWhile_eq_nil_iff.mp h0)
    have hhead := List.head_dropWhile_not isSpace hne
    rw [h _ (List.head_mem hne)] at hhead
    exact absurd hhead (by simp)
  · intro h c hc
    exact h c (List.dropWhile_subset _ hc)

/-- A character that is not white space keeps `strip` from being empty. -/
theorem strip_ne_nil {s : List Char} {c : Char} (hc : c ∈ s) (hns : isSpace c = false) :
    strip s ≠ [] := by
  intro h
  have := (strip_eq_nil_iff s).mp h c hc
  rw [hns] at this
  exact absurd this (by simp)

/-- Text whose two ends are not white space is its own `strip`. -/
theorem strip_eq_self {c d : Char} {s : List Char} (hc : isSpace c = false)
    (hd : isSpace d = false) : strip (c :: (s ++ [d])) = c :: (s ++ [d]) := by
  unfold strip rstrip lstrip
  rw [List.dropWhile_cons_of_neg (by simp [hc]), ← List.cons_append,
    List.rdropWhile_concat_neg _ _ _ (by simp [hd])]

/-- `strip` takes nothing off a text that begins with no space but what stands at its
end. -/
theorem strip_cons {c : Char} (hc : isSpace c = false) (s : List Char) :
    ∃ kept tail, strip (c :: s) = c :: kept ∧ s = kept ++ tail := by
  unfold strip rstrip lstrip
  rw [List.dropWhile_cons_of_neg (by simp [hc])]
  obtain ⟨tail, htail⟩ := List.rdropWhile_prefix isSpace (c :: s)
  cases hkept : (c :: s).rdropWhile isSpace with
  | nil =>
    have hspace := List.rdropWhile_eq_nil_iff.mp hkept c List.mem_cons_self
    rw [hc] at hspace
    cases hspace
  | cons d kept =>
    rw [hkept, List.cons_append] at htail
    obtain ⟨rfl, hs⟩ := List.cons.inj htail
    exact ⟨kept, tail, rfl, hs.symm⟩

theorem strip_of_noSpace {s : List Char} (h : ∀ c ∈ s, isSpace c = false) : strip s = s := by
  have hl : lstrip s = s := by
    unfold lstrip
    rw [List.dropWhile_eq_self_iff]
    intro hpos
    simpa using h _ (List.getElem_mem hpos)
  unfold strip rstrip
  rw [hl, List.rdropWhile_eq_self_iff]
  intro hne
  simp [h _ (List.getLast_mem hne)]

theorem strip_strip (s : List Char) : strip (strip s) = strip s := by
  have hleft : lstrip (strip s) = strip s := by
    obtain ⟨rest, hrest⟩ := List.rdropWhile_prefix isSpace (lstrip s)
    cases hstrip : strip s with
    | nil => rfl
    | cons c cs =>
      have hlstrip : s.dropWhile isSpace = c :: (cs ++ rest) := by
        have hjoin : strip s ++ rest = lstrip s := hrest
        rw [hstrip] at hjoin
        exact hjoin.symm
      have hc : isSpace c = false := by
        have hhead := List.head?_dropWhile_not isSpace s
        rw [hlstrip] at hhead
        simpa using hhead
      unfold lstrip
      rw [List.dropWhile_cons_of_neg (by simp [hc])]
  calc strip (strip s) = rstrip (lstrip (strip s)) := rfl
    _ = rstrip (rstrip (lstrip s)) := by rw [hleft]; rfl
    _ = rstrip (lstrip s) := List.rdropWhile_idempotent isSpace (lstrip s)

/-- A property of every character of a text, checked one by one. -/
theorem forall_mem_of_all {p : Char → Prop} [DecidablePred p] {s : List Char}
    (h : s.all (fun c => decide (p c)) = true) : ∀ c ∈ s, p c :=
  fun c hc => of_decide_eq_true (List.all_eq_true.mp h c hc)

/-! ## Lines -/

/-- The characters `str.splitlines` ends a line at. A carriage return and a
line feed together end one line, which `splitLines` treats first. -/
def isLineBreak (c : Char) : Bool :=
  let n := c.toNat
  (0x0A ≤ n && n ≤ 0x0D) || (0x1C ≤ n && n ≤ 0x1E) || n == 0x85 || n == 0x2028 || n == 0x2029

/-- `str.splitlines()`: the lines without their ends, and no empty last line
after a final line end. -/
def splitLines : List Char → List (List Char)
  | [] => []
  | '\r' :: '\n' :: cs => [] :: splitLines cs
  | c :: cs =>
    if isLineBreak c then [] :: splitLines cs
    else match splitLines cs with
      | [] => [[c]]
      | l :: ls => (c :: l) :: ls

/-- Universal newlines, the translation a text-mode read applies: `\r\n` and a
lone `\r` both become `\n`. -/
def universalNewlines : List Char → List Char
  | [] => []
  | '\r' :: '\n' :: cs => '\n' :: universalNewlines cs
  | '\r' :: cs => '\n' :: universalNewlines cs
  | c :: cs => c :: universalNewlines cs

/-- Reading a character that ends no line prepends it to the first line. -/
theorem splitLines_cons {c : Char} {cs : List Char} (h : isLineBreak c = false) :
    splitLines (c :: cs) = match splitLines cs with
      | [] => [[c]]
      | l :: ls => (c :: l) :: ls := by
  have hcr : c ≠ '\r' := by
    rintro rfl
    exact absurd h (by decide)
  rw [splitLines.eq_3 c cs (fun _ hc _ => hcr hc)]
  simp [h]

/-- A line break other than a carriage return ends an empty line. -/
theorem splitLines_break {b : Char} (hb : isLineBreak b = true) (hcr : b ≠ '\r')
    (cs : List Char) : splitLines (b :: cs) = [] :: splitLines cs := by
  rw [splitLines.eq_3 b cs (fun _ h _ => hcr h)]
  simp [hb]

/-- A row without line breaks, then one other than a carriage return, is one line. -/
theorem splitLines_cut {row : List Char} (h : ∀ c ∈ row, isLineBreak c = false) {b : Char}
    (hb : isLineBreak b = true) (hcr : b ≠ '\r') (rest : List Char) :
    splitLines (row ++ b :: rest) = row :: splitLines rest := by
  induction row with
  | nil => exact splitLines_break hb hcr rest
  | cons c cs ih =>
    rw [List.cons_append, splitLines_cons (h c (by simp)),
      ih (fun d hd => h d (List.mem_cons_of_mem _ hd))]

/-- A row without line breaks, then a line feed, is one line. -/
theorem splitLines_row {row : List Char} (h : ∀ c ∈ row, isLineBreak c = false)
    (rest : List Char) : splitLines (row ++ '\n' :: rest) = row :: splitLines rest :=
  splitLines_cut h (by decide) (by decide) rest

/-- A text with a line break has a first one. -/
theorem exists_first_break {s : List Char} (h : ∃ c ∈ s, isLineBreak c = true) :
    ∃ line b rest, (∀ c ∈ line, isLineBreak c = false) ∧ isLineBreak b = true ∧
      s = line ++ b :: rest := by
  induction s with
  | nil =>
    obtain ⟨c, hc, -⟩ := h
    exact absurd hc List.not_mem_nil
  | cons d s ih =>
    cases hd : isLineBreak d with
    | true => exact ⟨[], d, s, fun c hc => absurd hc List.not_mem_nil, hd, rfl⟩
    | false =>
      obtain ⟨c, hc, hbreak⟩ := h
      have hlater : c ∈ s := by
        rcases List.mem_cons.mp hc with rfl | hc
        · rw [hd] at hbreak
          cases hbreak
        · exact hc
      obtain ⟨line, b, rest, hline, hb, rfl⟩ := ih ⟨c, hlater, hbreak⟩
      refine ⟨d :: line, b, rest, fun e he => ?_, hb, rfl⟩
      rcases List.mem_cons.mp he with rfl | he
      · exact hd
      · exact hline e he

/-- Only the empty text has no lines. -/
theorem splitLines_ne_nil {s : List Char} (h : s ≠ []) : splitLines s ≠ [] := by
  intro hs
  unfold splitLines at hs
  split at hs
  · exact h rfl
  · simp at hs
  · split at hs
    · simp at hs
    · split at hs <;> simp at hs

/-- A line break cuts a text without carriage returns in two: the lines up to
it, then the lines after it. -/
theorem splitLines_append_break {b : Char} (hb : isLineBreak b = true) (hcr : b ≠ '\r')
    {s : List Char} (hs : '\r' ∉ s) (rest : List Char) :
    splitLines (s ++ b :: rest) = splitLines (s ++ [b]) ++ splitLines rest := by
  induction s with
  | nil => simp [splitLines_break hb hcr, splitLines]
  | cons c cs ih =>
    have hc : c ≠ '\r' := fun h => hs (h ▸ List.mem_cons_self)
    have ih := ih (fun h => hs (List.mem_cons_of_mem _ h))
    simp only [List.cons_append]
    cases hbc : isLineBreak c with
    | true => rw [splitLines_break hbc hc, splitLines_break hbc hc, ih, List.cons_append]
    | false =>
      rw [splitLines_cons hbc, splitLines_cons hbc, ih]
      cases hl : splitLines (cs ++ [b]) with
      | nil => exact absurd hl (splitLines_ne_nil (by simp))
      | cons l ls => rfl

/-- A character that ends no line stands on one of the lines. -/
theorem mem_splitLines {s : List Char} {c : Char} (hc : isLineBreak c = false) (hs : '\r' ∉ s)
    (hmem : c ∈ s) : ∃ l ∈ splitLines s, c ∈ l := by
  induction s with
  | nil => exact absurd hmem List.not_mem_nil
  | cons d ds ih =>
    have hd : d ≠ '\r' := fun h => hs (h ▸ List.mem_cons_self)
    have ih := ih (fun h => hs (List.mem_cons_of_mem _ h))
    cases hbd : isLineBreak d with
    | true =>
      rw [splitLines_break hbd hd]
      rcases List.mem_cons.mp hmem with rfl | hmem
      · rw [hc] at hbd
        exact absurd hbd (by simp)
      · obtain ⟨l, hl, hcl⟩ := ih hmem
        exact ⟨l, List.mem_cons_of_mem _ hl, hcl⟩
    | false =>
      rw [splitLines_cons hbd]
      cases hls : splitLines ds with
      | nil =>
        rcases List.mem_cons.mp hmem with rfl | hmem
        · exact ⟨[c], by simp, by simp⟩
        · obtain ⟨l, hl, _⟩ := ih hmem
          rw [hls] at hl
          exact absurd hl List.not_mem_nil
      | cons l ls =>
        rcases List.mem_cons.mp hmem with rfl | hmem
        · exact ⟨c :: l, by simp, by simp⟩
        · obtain ⟨l', hl', hcl'⟩ := ih hmem
          rw [hls] at hl'
          rcases List.mem_cons.mp hl' with rfl | hl'
          · exact ⟨d :: l', by simp, List.mem_cons_of_mem _ hcl'⟩
          · exact ⟨l', List.mem_cons_of_mem _ hl', hcl'⟩

/-- Every line break is white space. -/
theorem isSpace_of_isLineBreak {c : Char} (h : isLineBreak c = true) : isSpace c = true := by
  simp only [isLineBreak, isSpace, Bool.or_eq_true, Bool.and_eq_true, decide_eq_true_eq,
    beq_iff_eq] at h ⊢
  omega

/-- The number of lines that are not blank, what a reader that skips blank
lines sees of a text. -/
def countNonBlank (s : List Char) : Nat :=
  (splitLines s).countP fun l => !(strip l).isEmpty

/-- A text with a character that is not white space has a line that is not
blank. -/
theorem countNonBlank_pos {s : List Char} {c : Char} (hns : isSpace c = false)
    (hs : '\r' ∉ s) (hmem : c ∈ s) : 0 < countNonBlank s := by
  have hc : isLineBreak c = false := by
    cases hb : isLineBreak c with
    | false => rfl
    | true => rw [isSpace_of_isLineBreak hb] at hns; exact absurd hns (by simp)
  obtain ⟨l, hl, hcl⟩ := mem_splitLines hc hs hmem
  refine List.countP_pos_iff.mpr ⟨l, hl, ?_⟩
  simpa using strip_ne_nil hcl hns

/-- Cutting a text at a line break adds up the lines that are not blank. -/
theorem countNonBlank_append_break {b : Char} (hb : isLineBreak b = true) (hcr : b ≠ '\r')
    {s : List Char} (hs : '\r' ∉ s) (rest : List Char) :
    countNonBlank (s ++ b :: rest) = countNonBlank (s ++ [b]) + countNonBlank rest := by
  unfold countNonBlank
  rw [splitLines_append_break hb hcr hs, List.countP_append]

/-! ## Newline translation -/

/-- Text without carriage returns passes through universal newlines unchanged. -/
theorem universalNewlines_append {s : List Char} (h : '\r' ∉ s) (rest : List Char) :
    universalNewlines (s ++ rest) = s ++ universalNewlines rest := by
  induction s with
  | nil => rfl
  | cons c cs ih =>
    have hc : c ≠ '\r' := fun hc => h (hc ▸ List.mem_cons_self)
    rw [List.cons_append, universalNewlines.eq_4 c _ (fun _ h1 _ => hc h1) (fun h1 => hc h1),
      ih (fun hm => h (List.mem_cons_of_mem _ hm)), List.cons_append]

theorem universalNewlines_ne_nil {s : List Char} (h : s ≠ []) : universalNewlines s ≠ [] := by
  fun_cases universalNewlines s with
  | case1 => exact absurd rfl h
  | case2 cs => simp
  | case3 cs _ => simp
  | case4 c cs _ _ => simp

/-- After the translation no carriage return is left. -/
theorem not_mem_universalNewlines (s : List Char) : '\r' ∉ universalNewlines s := by
  fun_induction universalNewlines s with
  | case1 => simp
  | case2 cs ih => simpa using ih
  | case3 cs _ ih => simpa using ih
  | case4 c cs _ hc ih =>
    intro h
    rcases List.mem_cons.mp h with h | h
    · exact hc h.symm
    · exact ih h

/-! ## Digits and `int()` -/

/-- The code points of the digits zero: every Unicode decimal digit (category
Nd) is one of these plus its value. -/
def decimalZeros : List Nat :=
  [0x30, 0x660, 0x6F0, 0x7C0, 0x966, 0x9E6, 0xA66, 0xAE6, 0xB66, 0xBE6, 0xC66, 0xCE6, 0xD66, 0xDE6,
    0xE50, 0xED0, 0xF20, 0x1040, 0x1090, 0x17E0, 0x1810, 0x1946, 0x19D0, 0x1A80, 0x1A90, 0x1B50,
    0x1BB0, 0x1C40, 0x1C50, 0xA620, 0xA8D0, 0xA900, 0xA9D0, 0xA9F0, 0xAA50, 0xABF0, 0xFF10,
    0x104A0, 0x10D30, 0x11066, 0x110F0, 0x11136, 0x111D0, 0x112F0, 0x11450, 0x114D0, 0x11650,
    0x116C0, 0x11730, 0x118E0, 0x11950, 0x11C50, 0x11D50, 0x11DA0, 0x16A60, 0x16AC0, 0x16B50,
    0x1D7CE, 0x1D7D8, 0x1D7E2, 0x1D7EC, 0x1D7F6, 0x1E140, 0x1E2F0, 0x1E950, 0x1FBF0]

/-- The value of a decimal digit of any script: what `\d` matches and what
`int()` reads. -/
def decimalValue (c : Char) : Option Nat :=
  (decimalZeros.find? fun z => z ≤ c.toNat && c.toNat < z + 10).map (c.toNat - ·)

/-- The number a list of decimal digits denotes, most significant first. -/
def ofDecimal (ds : List Nat) : Nat := ds.foldl (fun n d => 10 * n + d) 0

/-- Digits in which single underscores may stand between two digits. The flag
says whether a digit has just been read. -/
def digitsUnderscored : Bool → List Char → Option (List Nat)
  | true, [] => some []
  | false, [] => none
  | true, '_' :: cs => digitsUnderscored false cs
  | _, c :: cs => (decimalValue c).bind fun d => (digitsUnderscored true cs).map (d :: ·)

/-- The interpreter refuses to convert longer digit strings. -/
def intMaxStrDigits : Nat := 4300

/-- `int(s)` of a string, `none` where it raises `ValueError`. -/
def intOfText (s : List Char) : Option Int :=
  let magnitude (cs : List Char) : Option Nat :=
    (digitsUnderscored false cs).bind fun ds =>
      if intMaxStrDigits < ds.length then none else some (ofDecimal ds)
  match strip s with
  | '-' :: cs => (magnitude cs).map fun n => -(n : Int)
  | '+' :: cs => (magnitude cs).map Int.ofNat
  | cs => (magnitude cs).map Int.ofNat

/-! ## Case and substrings -/

/-- `str.lower()` of one character, as far as ASCII can see it: the capital
letters, and the two characters beyond ASCII whose lower case holds an ASCII
letter. Everything else lowers to text without ASCII and stands for itself
here, so comparisons with ASCII text come out as they do in Python. -/
def lowerChar (c : Char) : List Char :=
  if 'A' ≤ c && c ≤ 'Z' then [Char.ofNat (c.toNat + 32)]
  else if c.toNat == 0x212A then ['k']
  else if c.toNat == 0x130 then ['i', Char.ofNat 0x307]
  else [c]

/-- `str.lower()`. -/
def lower (s : List Char) : List Char := s.flatMap lowerChar

/-- `str.upper()` of one character, as far as ASCII can see it. -/
def upperChar (c : Char) : List Char :=
  if 'a' ≤ c && c ≤ 'z' then [Char.ofNat (c.toNat - 32)]
  else
    match c.toNat with
    | 0xDF => ['S', 'S']
    | 0x131 => ['I']
    | 0x149 => [Char.ofNat 0x2BC, 'N']
    | 0x17F => ['S']
    | 0x1F0 => ['J', Char.ofNat 0x30C]
    | 0x1E96 => ['H', Char.ofNat 0x331]
    | 0x1E97 => ['T', Char.ofNat 0x308]
    | 0x1E98 => ['W', Char.ofNat 0x30A]
    | 0x1E99 => ['Y', Char.ofNat 0x30A]
    | 0x1E9A => ['A', Char.ofNat 0x2BE]
    | 0xFB00 => ['F', 'F']
    | 0xFB01 => ['F', 'I']
    | 0xFB02 => ['F', 'L']
    | 0xFB03 => ['F', 'F', 'I']
    | 0xFB04 => ['F', 'F', 'L']
    | 0xFB05 | 0xFB06 => ['S', 'T']
    | _ => [c]

/-- `str.upper()`. -/
def upper (s : List Char) : List Char := s.flatMap upperChar

/-- `sub in s`. -/
def contains (sub s : List Char) : Bool := s.tails.any sub.isPrefixOf

theorem contains_iff {sub s : List Char} : contains sub s = true ↔ sub <:+: s := by
  rw [contains, List.any_eq_true, List.infix_iff_prefix_suffix]
  simp only [List.mem_tails, List.isPrefixOf_iff_prefix, and_comm]

/-- What has a word in it has every part of the word in it. -/
theorem contains_of_infix {sub word s : List Char} (hpart : sub <:+: word)
    (h : contains word s = true) : contains sub s = true :=
  contains_iff.mpr (hpart.trans (contains_iff.mp h))

/-- `s.split()`: the words between runs of whitespace. -/
def words (s : List Char) : List (List Char) := (s.splitOnP isSpace).filter (· ≠ [])

/-- A piece without separators starts a text where it starts its first part. -/
theorem prefix_splitOnP {p : Char → Bool} {needle : List Char} (hneedle : ∀ c ∈ needle, p c = false)
    {line first : List Char} {rest : List (List Char)} (h : line.splitOnP p = first :: rest) :
    needle <+: line ↔ needle <+: first := by
  induction line generalizing needle first rest with
  | nil =>
    rw [List.splitOnP_nil] at h
    rw [(List.cons.inj h).1]
  | cons a line ih =>
    rw [List.splitOnP_cons_eq_if_modifyHead] at h
    cases needle with
    | nil => exact iff_of_true List.nil_prefix List.nil_prefix
    | cons c needle =>
      obtain ⟨hc, hrest⟩ := List.forall_mem_cons.mp hneedle
      split at h
      next ha =>
        obtain rfl := (List.cons.inj h).1
        refine iff_of_false (fun hpre => ?_) (fun hpre => List.cons_ne_nil _ _ (List.prefix_nil.mp hpre))
        rw [List.cons_prefix_cons] at hpre
        rw [hpre.1, ha] at hc
        cases hc
      next =>
        cases hsplit : line.splitOnP p with
        | nil => exact absurd hsplit (List.splitOnP_ne_nil _ _)
        | cons head tail =>
          rw [hsplit, List.modifyHead_cons] at h
          obtain rfl := (List.cons.inj h).1
          rw [List.cons_prefix_cons, List.cons_prefix_cons, ih hrest hsplit]

/-- A piece without separators is in a text where it is in a part of it. -/
theorem infix_splitOnP {p : Char → Bool} {needle : List Char}
    (hneedle : ∀ c ∈ needle, p c = false) (line : List Char) :
    needle <:+: line ↔ ∃ part ∈ line.splitOnP p, needle <:+: part := by
  induction line with
  | nil => simp only [List.splitOnP_nil, List.mem_singleton, exists_eq_left]
  | cons a line ih =>
    rw [List.infix_cons_iff, ih]
    cases hsplit : line.splitOnP p with
    | nil => exact absurd hsplit (List.splitOnP_ne_nil _ _)
    | cons head tail =>
      have hhead := List.splitOnP_cons_eq_if_modifyHead (p := p) a line
      rw [hsplit, List.modifyHead_cons] at hhead
      split at hhead
      next ha =>
        rw [prefix_splitOnP hneedle hhead, hhead]
        simp only [List.exists_mem_cons_iff, List.infix_nil, List.prefix_nil]
      next ha =>
        rw [prefix_splitOnP hneedle hhead, hhead, List.exists_mem_cons_iff, List.exists_mem_cons_iff,
          List.infix_cons_iff, or_assoc]

/-- A piece without white space is in a text where it is in a word of it. -/
theorem infix_words {needle : List Char} (hne : needle ≠ [])
    (hneedle : ∀ c ∈ needle, isSpace c = false) (line : List Char) :
    needle <:+: line ↔ ∃ word ∈ words line, needle <:+: word := by
  rw [infix_splitOnP hneedle]
  refine exists_congr fun part => and_congr_left fun hin => ?_
  rw [words, List.mem_filter]
  refine (and_iff_left (decide_eq_true ?_)).symm
  rintro rfl
  exact hne (List.infix_nil.mp hin)

/-! ## Text that is lowered -/

theorem toNat_ofNat_ascii {n : Nat} (h : n < 0x80) : (Char.ofNat n).toNat = n := by
  have hvalid : n.isValidChar := .inl (by omega)
  rw [Char.ofNat, dif_pos hvalid]
  rfl

/-- A letter, or a character that stands for itself: what a lowered character is made of. -/
theorem lowerChar_cases (c : Char) :
    (∃ n, 97 ≤ n ∧ n ≤ 122 ∧ lowerChar c = [Char.ofNat n]) ∨
      lowerChar c = ['i', Char.ofNat 0x307] ∨ lowerChar c = [c] := by
  unfold lowerChar
  split
  next h =>
    rw [Bool.and_eq_true, decide_eq_true_eq, decide_eq_true_eq] at h
    have hlow : 65 ≤ c.toNat := h.1
    have hhigh : c.toNat ≤ 90 := h.2
    exact .inl ⟨c.toNat + 32, by omega, by omega, rfl⟩
  next =>
    split
    next => exact .inl ⟨107, by omega, by omega, rfl⟩
    next =>
      split
      next => exact .inr (.inl rfl)
      next => exact .inr (.inr rfl)

theorem lowerChar_letter {n : Nat} (hlow : 97 ≤ n) (hhigh : n ≤ 122) :
    lowerChar (Char.ofNat n) = [Char.ofNat n] ∧ isSpace (Char.ofNat n) = false := by
  have hn : (Char.ofNat n).toNat = n := toNat_ofNat_ascii (by omega)
  have hz : ¬ Char.ofNat n ≤ 'Z' := by
    intro h
    have hle : (Char.ofNat n).toNat ≤ 90 := h
    omega
  constructor
  · unfold lowerChar
    rw [hn]
    have h1 : (n == 0x212A) = false := by rw [beq_eq_false_iff_ne]; omega
    have h2 : (n == 0x130) = false := by rw [beq_eq_false_iff_ne]; omega
    simp [hz, h1, h2]
  · unfold isSpace
    rw [hn]
    simp
    omega

theorem lower_lowerChar (c : Char) : lower (lowerChar c) = lowerChar c := by
  obtain ⟨n, hlow, hhigh, h⟩ | h | h := lowerChar_cases c
  · rw [h, lower, List.flatMap_singleton, (lowerChar_letter hlow hhigh).1]
  · rw [h]
    decide
  · rw [h, lower, List.flatMap_singleton, h]

theorem isSpace_lowerChar {c d : Char} (hc : isSpace c = false) (hd : d ∈ lowerChar c) :
    isSpace d = false := by
  obtain ⟨n, hlow, hhigh, h⟩ | h | h := lowerChar_cases c
  · rw [h, List.mem_singleton] at hd
    rw [hd, (lowerChar_letter hlow hhigh).2]
  · rw [h] at hd
    obtain rfl | rfl : d = 'i' ∨ d = Char.ofNat 0x307 := by simpa using hd
    · decide
    · decide
  · rw [h, List.mem_singleton] at hd
    rw [hd, hc]

theorem lowerChar_ne_nil (c : Char) : lowerChar c ≠ [] := by
  obtain ⟨n, -, -, h⟩ | h | h := lowerChar_cases c
  all_goals
    rw [h]
    exact List.cons_ne_nil _ _

/-- What is lowered stays lowered. -/
theorem lower_lower (s : List Char) : lower (lower s) = lower s := by
  induction s with
  | nil => rfl
  | cons c s ih =>
    have hcons : lower (c :: s) = lowerChar c ++ lower s := List.flatMap_cons
    have happend : lower (lowerChar c ++ lower s) = lower (lowerChar c) ++ lower (lower s) :=
      List.flatMap_append
    rw [hcons, happend, lower_lowerChar, ih]

theorem strip_eq_self_iff (s : List Char) : strip s = s ↔ lstrip s = s ∧ rstrip s = s := by
  constructor
  · intro h
    have hright : (rstrip (lstrip s)).length ≤ (lstrip s).length :=
      (List.rdropWhile_prefix isSpace (lstrip s)).length_le
    have hsuffix : lstrip s <:+ s := List.dropWhile_suffix isSpace
    have hlen : (rstrip (lstrip s)).length = s.length := congrArg List.length h
    have hleft : lstrip s = s := hsuffix.eq_of_length (by have := hsuffix.length_le; omega)
    refine ⟨hleft, ?_⟩
    have hstrip : rstrip (lstrip s) = s := h
    rwa [hleft] at hstrip
  · rintro ⟨hleft, hright⟩
    unfold strip
    rw [hleft, hright]

/-- Lowering leaves no space at the ends where there has been none. -/
theorem strip_lower {s : List Char} (h : strip s = s) : strip (lower s) = lower s := by
  obtain ⟨hleft, hright⟩ := (strip_eq_self_iff s).mp h
  refine (strip_eq_self_iff _).mpr ⟨?_, ?_⟩
  · cases s with
    | nil => rfl
    | cons c s =>
      have hc : isSpace c = false := by
        by_contra hspace
        rw [lstrip, List.dropWhile_cons_of_pos (by simpa using hspace)] at hleft
        have hlen := congrArg List.length hleft
        have hle := (List.dropWhile_suffix (l := s) isSpace).length_le
        rw [List.length_cons] at hlen
        omega
      obtain ⟨d, ds, hd⟩ := List.exists_cons_of_ne_nil (lowerChar_ne_nil c)
      have hspace : isSpace d = false := isSpace_lowerChar hc (by rw [hd]; exact List.mem_cons_self)
      rw [lower, List.flatMap_cons, hd, List.cons_append, lstrip,
        List.dropWhile_cons_of_neg (by simp [hspace])]
  · cases s using List.reverseRecOn with
    | nil => rfl
    | append_singleton s c =>
      have hc : isSpace c = false := by
        by_contra hspace
        rw [rstrip, List.rdropWhile_concat_pos _ _ _ (by simpa using hspace)] at hright
        have hlen := congrArg List.length hright
        have hle := (List.rdropWhile_prefix isSpace s).length_le
        rw [List.length_append, List.length_singleton] at hlen
        omega
      obtain ⟨init, d, hd⟩ := (lowerChar c).eq_nil_or_concat.resolve_left (lowerChar_ne_nil c)
      have hspace : isSpace d = false := isSpace_lowerChar hc (by rw [hd]; simp)
      rw [lower, List.flatMap_append, List.flatMap_singleton, hd, List.concat_eq_append,
        ← List.append_assoc, rstrip,
        List.rdropWhile_concat_neg _ _ _ (by simp [hspace])]

end Python
