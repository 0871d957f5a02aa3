import NetworkRecovery.Drift.Guardian

/-!
# Whose listener it is

`_listener_fingerprint` looks for the port as a text anywhere in a line of `netstat`. What
it takes is the first line that passes with a positive process id, or else the last that
passes at all (`scanNetstat_iff`). In a row as `netstat` prints it the text is found where the
local port BEGINS with it (`netstatPid_row_iff`), so that a listener of 8080 passes for one of 80.
The process is a listener of the port exactly where the owner of the first port that begins with
the digits of the port has a row with the port itself (`listenerFingerprint_attributes_iff`).
-/

namespace ProxyDrift

open Python Interaction

/-! ## Listening lines -/

/-- The port of an address: what stands behind the last colon. -/
def addressPort (address : List Char) : Option Int :=
  if ':' ∈ address then intOfText (address.rtakeWhile (· ≠ ':')) else none

/-- The process of a listening line of the port: protocol, local address, foreign
address, state and process id. -/
def listeningPid (port : Int) (line : List Char) : Option Int :=
  match words line with
  | [_, localAddress, _, state, pid] =>
    if upper state = "LISTENING".toList ∧ addressPort localAddress = some port then intOfText pid
    else none
  | _ => none

/-! ## The line that is taken -/

variable {port : Int}

/-- A line that passes for one of the port, with the number it ends in: it has the text of the
port behind a colon, and it speaks of listening and of a local address, wherever. -/
structure Mentions (port : Int) (line : List Char) (pid : Int) : Prop where
  listening : "LISTENING".toList <:+: upper line
  port : ':' :: intText port <:+: line
  address : "127.0.0.1".toList <:+: line ∨ "[::1]".toList <:+: line ∨ "0.0.0.0".toList <:+: line
  pid : ∃ word, (words line).getLast? = some word ∧ intOfText word = some pid

/-- What the tests on a line ask of its text. -/
theorem netstatPid_iff {line : List Char} {pid : Int} :
    netstatPid port line = some pid ↔ Mentions port line pid := by
  have htests : (contains "LISTENING".toList (upper line) && contains (':' :: intText port) line &&
      (contains "127.0.0.1".toList line || contains "[::1]".toList line ||
        contains "0.0.0.0".toList line)) = true ↔
      "LISTENING".toList <:+: upper line ∧ ':' :: intText port <:+: line ∧
        ("127.0.0.1".toList <:+: line ∨ "[::1]".toList <:+: line ∨ "0.0.0.0".toList <:+: line) := by
    simp only [Bool.and_eq_true, Bool.or_eq_true, Python.contains_iff, and_assoc, or_assoc]
  unfold netstatPid
  constructor
  · intro h
    split at h
    next hpass =>
      obtain ⟨hlistening, hport, haddress⟩ := htests.mp hpass
      exact ⟨hlistening, hport, haddress, Option.bind_eq_some_iff.mp h⟩
    · cases h
  · intro h
    rw [if_pos (htests.mpr ⟨h.listening, h.port, h.address⟩)]
    exact Option.bind_eq_some_iff.mpr h.pid

theorem netstatPid_none_iff {line : List Char} :
    netstatPid port line = none ↔ ∀ pid, ¬ Mentions port line pid := by
  simp only [← netstatPid_iff]
  exact Option.eq_none_iff_forall_ne_some

/-- Among the lines that pass, the first with a positive process id, or else the last. -/
def Picked (port : Int) (lines : List (List Char)) (pid : Int) : Prop :=
  ∃ before line after, lines = before ++ line :: after ∧ netstatPid port line = some pid ∧
    (∀ l ∈ before, ∀ p, netstatPid port l = some p → p ≤ 0) ∧
      (0 < pid ∨ ∀ l ∈ after, netstatPid port l = none)

/-- The same, in the texts of the lines. -/
theorem picked_iff {lines : List (List Char)} {pid : Int} :
    Picked port lines pid ↔ ∃ before line after, lines = before ++ line :: after ∧
      Mentions port line pid ∧ (∀ l ∈ before, ∀ p, Mentions port l p → p ≤ 0) ∧
        (0 < pid ∨ ∀ l ∈ after, ∀ p, ¬ Mentions port l p) := by
  unfold Picked
  simp only [netstatPid_iff, netstatPid_none_iff]

theorem picked_cons_of_none {line : List Char} {lines : List (List Char)} {pid : Int}
    (h : netstatPid port line = none) : Picked port (line :: lines) pid ↔ Picked port lines pid := by
  constructor
  · rintro ⟨before, l, after, hl, hpid, hbefore, hafter⟩
    cases before with
    | nil =>
      obtain rfl := (List.cons.inj hl).1
      rw [h] at hpid
      cases hpid
    | cons b before =>
      obtain ⟨rfl, rfl⟩ := List.cons.inj hl
      exact ⟨before, l, after, rfl, hpid, (List.forall_mem_cons.mp hbefore).2, hafter⟩
  · rintro ⟨before, l, after, rfl, hpid, hbefore, hafter⟩
    refine ⟨line :: before, l, after, rfl, hpid, List.forall_mem_cons.mpr ⟨?_, hbefore⟩, hafter⟩
    intro p hp
    rw [h] at hp
    cases hp

theorem picked_cons_of_pos {line : List Char} {lines : List (List Char)} {pid p : Int}
    (h : netstatPid port line = some p) (hpos : 0 < p) :
    Picked port (line :: lines) pid ↔ p = pid := by
  constructor
  · rintro ⟨before, l, after, hl, hpid, hbefore, -⟩
    cases before with
    | nil =>
      obtain rfl := (List.cons.inj hl).1
      exact Option.some.inj (h.symm.trans hpid)
    | cons b before =>
      obtain rfl := (List.cons.inj hl).1
      exact absurd hpos (not_lt.mpr ((List.forall_mem_cons.mp hbefore).1 p h))
  · rintro rfl
    exact ⟨[], line, lines, rfl, h, nofun, .inl hpos⟩

theorem picked_cons_of_nonpos {line : List Char} {lines : List (List Char)} {pid p : Int}
    (h : netstatPid port line = some p) (hle : p ≤ 0) :
    Picked port (line :: lines) pid ↔
      Picked port lines pid ∨ p = pid ∧ ∀ l ∈ lines, netstatPid port l = none := by
  constructor
  · rintro ⟨before, l, after, hl, hpid, hbefore, hafter⟩
    cases before with
    | nil =>
      obtain ⟨rfl, rfl⟩ := List.cons.inj hl
      obtain rfl := Option.some.inj (h.symm.trans hpid)
      exact .inr ⟨rfl, hafter.resolve_left (not_lt.mpr hle)⟩
    | cons b before =>
      obtain ⟨rfl, rfl⟩ := List.cons.inj hl
      exact .inl ⟨before, l, after, rfl, hpid, (List.forall_mem_cons.mp hbefore).2, hafter⟩
  · rintro (⟨before, l, after, rfl, hpid, hbefore, hafter⟩ | ⟨rfl, hnone⟩)
    · refine ⟨line :: before, l, after, rfl, hpid, List.forall_mem_cons.mpr ⟨?_, hbefore⟩, hafter⟩
      intro p' hp'
      obtain rfl := Option.some.inj (h.symm.trans hp')
      exact hle
    · exact ⟨[], line, lines, rfl, h, nofun, .inr hnone⟩

/-- What the scan finds. -/
theorem scanNetstat_iff {found : Option Int} {lines : List (List Char)} {pid : Int} :
    scanNetstat port found lines = some pid ↔
      Picked port lines pid ∨ found = some pid ∧ ∀ l ∈ lines, netstatPid port l = none := by
  induction lines generalizing found with
  | nil =>
    refine ⟨fun h => .inr ⟨h, nofun⟩, ?_⟩
    rintro (⟨before, l, after, hl, -⟩ | ⟨h, -⟩)
    · exact absurd hl.symm (List.append_ne_nil_of_right_ne_nil _ (List.cons_ne_nil _ _))
    · exact h
  | cons line lines ih =>
    unfold scanNetstat
    cases hline : netstatPid port line with
    | none =>
      dsimp only
      rw [ih, picked_cons_of_none hline, List.forall_mem_cons]
      exact or_congr_right (and_congr_right fun _ => (and_iff_right hline).symm)
    | some p =>
      dsimp only
      have hpasses : ¬ ∀ l ∈ line :: lines, netstatPid port l = none := by
        intro hnone
        rw [hnone line List.mem_cons_self] at hline
        cases hline
      rw [iff_false_intro hpasses, and_false, or_false]
      split
      next hpos => rw [picked_cons_of_pos hline hpos, Option.some.injEq]
      next hpos =>
        rw [ih, picked_cons_of_nonpos hline (not_lt.mp hpos), Option.some.injEq]

theorem scanNetstat_none_iff {lines : List (List Char)} {pid : Int} :
    scanNetstat port none lines = some pid ↔ Picked port lines pid := by
  rw [scanNetstat_iff]
  refine or_iff_left ?_
  rintro ⟨h, -⟩
  cases h

/-- What the tool reports is what it scans out of the output of `netstat`. -/
theorem listenerPid_eq (env : Nat → Tick) (w : World) (port : Option Int) :
    (runOn env (listenerFingerprint port) w).value.listenerPid =
      (port.filter (· ≠ 0)).bind fun port => (env w.clock).netstat.bind fun out =>
        (scanNetstat port none (splitLines out.toList)).filter (· ≠ 0) := by
  unfold listenerFingerprint
  cases port.filter (· ≠ 0) with
  | none => rfl
  | some port =>
    have hcall : (exec (answer env) (call .netstat) w).value = (env w.clock).netstat := rfl
    simp only [runOn, value_bind, hcall, Option.bind_some]
    cases (env w.clock).netstat with
    | none => rfl
    | some out =>
      simp only [Option.bind_some]
      cases (scanNetstat port none (splitLines out.toList)).filter (· ≠ 0) with
      | none => rfl
      | some pid =>
        simp only [value_bind]
        rfl

/-! ## Rows of `netstat` -/

/-- A row for a listener of an IPv4 address, as `netstat -ano -p tcp` prints it. -/
structure Row where
  line : List Char
  address : List Char
  localPort : Nat
  pid : Nat
  words_eq : words line = ["TCP".toList, address ++ ':' :: natText localPort, "0.0.0.0:0".toList,
    "LISTENING".toList, natText pid]
  address_colon : ':' ∉ address
  localPort_lt : localPort < 2 ^ 16
  pid_pos : 0 < pid
  pid_lt : pid < 2 ^ 32

theorem colon_not_mem_natText (n : Nat) : ':' ∉ natText n :=
  fun h => absurd (isDigit_natText h) (by decide)

variable {row : Row}

theorem Row.contains_iff {needle : List Char} (hne : needle ≠ [])
    (hspace : ∀ c ∈ needle, isSpace c = false) :
    contains needle row.line = true ↔
      ∃ word ∈ ["TCP".toList, row.address ++ ':' :: natText row.localPort,
        "0.0.0.0:0".toList, "LISTENING".toList, natText row.pid], needle <:+: word := by
  rw [Python.contains_iff, infix_words hne hspace, row.words_eq]

/-- Text that begins with a colon is found behind the only colon. -/
theorem colon_infix_iff {needle address portText : List Char} (haddress : ':' ∉ address)
    (hport : ':' ∉ portText) :
    ':' :: needle <:+: address ++ ':' :: portText ↔ needle <+: portText := by
  constructor
  · rintro ⟨before, after, h⟩
    rw [List.append_assoc, List.cons_append, eq_comm,
      List.append_cons_inj_of_notMem haddress hport] at h
    exact ⟨after, h.2.2.symm⟩
  · rintro ⟨after, rfl⟩
    exact ⟨address, after, by rw [List.append_assoc, List.cons_append]⟩

theorem mem_of_infix_colon {needle word : List Char} (h : ':' :: needle <:+: word) : ':' ∈ word :=
  h.subset List.mem_cons_self

/-- What is in a text is in its upper case, in upper case. -/
theorem infix_upper {sub s : List Char} (h : sub <:+: s) : upper sub <:+: upper s := by
  obtain ⟨before, after, rfl⟩ := h
  exact ⟨upper before, upper after, by simp only [upper, List.flatMap_append]⟩

/-- No port but 0 begins with the digit 0 alone. -/
theorem intText_prefix_zero {port : Int} (h : intText port <+: ['0']) : port = 0 := by
  cases port with
  | negSucc n =>
    obtain ⟨after, hafter⟩ := h
    cases hafter
  | ofNat n =>
    have hzero : natText n = ['0'] := by
      obtain ⟨after, hafter⟩ := h
      cases hn : natText n with
      | nil => exact absurd hn (natText_ne_nil n)
      | cons c cs =>
        rw [intText, hn, List.cons_append] at hafter
        obtain ⟨rfl, hrest⟩ := List.cons.inj hafter
        rw [(List.append_eq_nil_iff.mp hrest).1]
    have hvalue := ofDigitChars_natText n
    rw [hzero] at hvalue
    rw [← hvalue]
    rfl

theorem isSpace_intText {c : Char} (h : c ∈ intText port) : isSpace c = false := by
  cases port with
  | ofNat n => exact isSpace_of_isDigit (isDigit_natText h)
  | negSucc n =>
    rcases List.mem_cons.mp h with rfl | h
    · decide
    · exact isSpace_of_isDigit (isDigit_natText h)

/-- The port is looked for in the whole row, and is found in the local address only. -/
theorem contains_port_iff (hport : port ≠ 0) :
    contains (':' :: intText port) row.line = true ↔ intText port <+: natText row.localPort := by
  have hspace : ∀ c ∈ ':' :: intText port, isSpace c = false :=
    List.forall_mem_cons.mpr ⟨by decide, fun c hc => isSpace_intText hc⟩
  rw [row.contains_iff (List.cons_ne_nil _ _) hspace]
  constructor
  · rintro ⟨word, hword, hin⟩
    have hcolon := mem_of_infix_colon hin
    simp only [List.mem_cons, List.not_mem_nil, or_false] at hword
    obtain rfl | rfl | rfl | rfl | rfl := hword
    · exact absurd hcolon (by decide)
    · exact (colon_infix_iff row.address_colon (colon_not_mem_natText _)).mp hin
    · have hforeign : "0.0.0.0:0".toList = "0.0.0.0".toList ++ ':' :: ['0'] := by decide
      rw [hforeign, colon_infix_iff (by decide) (by decide)] at hin
      exact absurd (intText_prefix_zero hin) hport
    · exact absurd hcolon (by decide)
    · exact absurd hcolon (colon_not_mem_natText _)
  · intro h
    exact ⟨_, List.mem_cons_of_mem _ List.mem_cons_self,
      (colon_infix_iff row.address_colon (colon_not_mem_natText _)).mpr h⟩

theorem Row.intOfText_pid (row : Row) : intOfText (natText row.pid) = some (row.pid : Int) := by
  refine intOfText_natText ?_
  have hlength : (natText row.pid).length ≤ 10 :=
    (Nat.length_toDigits_le_iff (by decide) (by decide)).mpr (lt_trans row.pid_lt (by decide))
  exact hlength.trans (by decide)

theorem Row.intOfText_localPort (row : Row) :
    intOfText (natText row.localPort) = some (row.localPort : Int) := by
  refine intOfText_natText ?_
  have hlength : (natText row.localPort).length ≤ 5 :=
    (Nat.length_toDigits_le_iff (by decide) (by decide)).mpr (lt_trans row.localPort_lt (by decide))
  exact hlength.trans (by decide)

theorem Row.listening (row : Row) : "LISTENING".toList <:+: upper row.line := by
  have hstate : "LISTENING".toList <:+: row.line := by
    rw [← Python.contains_iff, row.contains_iff (by decide) (forall_mem_of_all (by decide))]
    exact ⟨"LISTENING".toList, by simp only [List.mem_cons, true_or, or_true], List.infix_rfl⟩
  have hupper : upper "LISTENING".toList = "LISTENING".toList := by decide
  rw [← hupper]
  exact infix_upper hstate

/-- A row passes for a listener of a port where its own port begins with the digits. -/
theorem netstatPid_row_iff (hport : port ≠ 0) {pid : Int} :
    netstatPid port row.line = some pid ↔
      intText port <+: natText row.localPort ∧ (row.pid : Int) = pid := by
  have hneedle : contains (':' :: intText port) row.line = true ↔
      intText port <+: natText row.localPort := contains_port_iff hport
  -- the foreign address passes for a local one
  have hwildcard : "0.0.0.0".toList <:+: row.line := by
    rw [← Python.contains_iff, row.contains_iff (by decide) (forall_mem_of_all (by decide))]
    exact ⟨"0.0.0.0:0".toList, by simp only [List.mem_cons, true_or, or_true],
      [], ":0".toList, by decide⟩
  have hlast : (words row.line).getLast? = some (natText row.pid) := by
    rw [row.words_eq]
    rfl
  rw [netstatPid_iff, ← hneedle, Python.contains_iff]
  constructor
  · intro h
    obtain ⟨word, hword, hpid⟩ := h.pid
    rw [hlast] at hword
    obtain rfl := Option.some.inj hword
    exact ⟨h.port, Option.some.inj (row.intOfText_pid.symm.trans hpid)⟩
  · rintro ⟨hin, rfl⟩
    exact ⟨row.listening, hin, .inr (.inr hwildcard), natText row.pid, hlast, row.intOfText_pid⟩

theorem addressPort_eq (address : List Char) {portText : List Char} (h : ':' ∉ portText) :
    addressPort (address ++ ':' :: portText) = intOfText portText := by
  have hbehind : ∀ c ∈ portText.reverse, decide (c ≠ ':') = true := by
    intro c hc
    refine decide_eq_true ?_
    rintro rfl
    exact h (List.mem_reverse.mp hc)
  have hmem : ':' ∈ address ++ ':' :: portText := List.mem_append_right _ List.mem_cons_self
  rw [addressPort, if_pos hmem, List.rtakeWhile, List.reverse_append, List.reverse_cons,
    List.append_assoc, List.takeWhile_append_of_pos hbehind, List.singleton_append,
    List.takeWhile_cons_of_neg (by decide), List.append_nil, List.reverse_reverse]

/-- A row is a listening line of a port where its own port is the port. -/
theorem listeningPid_row_iff {pid : Int} :
    listeningPid port row.line = some pid ↔ (row.localPort : Int) = port ∧ (row.pid : Int) = pid := by
  have hport := addressPort_eq row.address (colon_not_mem_natText row.localPort)
  have hstate : upper "LISTENING".toList = "LISTENING".toList := by decide
  unfold listeningPid
  rw [row.words_eq]
  dsimp only
  rw [hport, hstate, ite_eq_iff, row.intOfText_localPort, row.intOfText_pid]
  simp only [true_and, Option.some.injEq, reduceCtorEq, and_false, or_false]

/-! ## The listings -/

def speaksOfListening (line : List Char) : Bool := contains "LISTENING".toList (upper line)

/-- The lines of an output that speak of listening are rows. -/
def Listing (out : String) (rows : List Row) : Prop :=
  (splitLines out.toList).filter speaksOfListening = rows.map Row.line

theorem scanNetstat_listening (found : Option Int) (lines : List (List Char)) :
    scanNetstat port found lines = scanNetstat port found (lines.filter speaksOfListening) := by
  induction lines generalizing found with
  | nil => rfl
  | cons line lines ih =>
    by_cases hlistening : speaksOfListening line = true
    · rw [List.filter_cons_of_pos hlistening]
      unfold scanNetstat
      split
      · exact ih found
      · split
        · rfl
        · exact ih _
    · have hnone : netstatPid port line = none :=
        netstatPid_none_iff.mpr fun pid h => hlistening (Python.contains_iff.mpr h.listening)
      rw [List.filter_cons_of_neg hlistening, scanNetstat, hnone]
      exact ih found

/-- Of rows the first one counts whose port begins with the digits. -/
theorem scanNetstat_rows (hport : port ≠ 0) (rows : List Row) :
    scanNetstat port none (rows.map Row.line) =
      (rows.find? fun row => intText port <+: natText row.localPort).map
        fun row => (row.pid : Int) := by
  induction rows with
  | nil => rfl
  | cons row rows ih =>
    rw [List.map_cons, scanNetstat, List.find?_cons]
    by_cases hbegins : intText port <+: natText row.localPort
    · have hpid := (netstatPid_row_iff hport).mpr ⟨hbegins, rfl⟩
      rw [hpid, decide_eq_true hbegins]
      exact if_pos (Int.natCast_pos.mpr row.pid_pos)
    · have hnone : netstatPid port row.line = none :=
        Option.eq_none_iff_forall_ne_some.mpr fun pid h => hbegins ((netstatPid_row_iff hport).mp h).1
      rw [hnone, decide_eq_false hbegins]
      exact ih

/-- A part of a split text stands in it. -/
theorem infix_of_mem_splitOnP {p : Char → Bool} {s part : List Char} (h : part ∈ s.splitOnP p) :
    part <:+: s := by
  have hparts : ∀ {s first rest}, s.splitOnP p = first :: rest →
      first <+: s ∧ ∀ part ∈ rest, part <:+: s := by
    intro s
    induction s with
    | nil =>
      intro first rest hsplit
      rw [List.splitOnP_nil] at hsplit
      obtain ⟨rfl, rfl⟩ := List.cons.inj hsplit
      exact ⟨List.prefix_rfl, fun part hpart => absurd hpart List.not_mem_nil⟩
    | cons c s ih =>
      intro first rest hsplit
      rw [List.splitOnP_cons_eq_if_modifyHead] at hsplit
      cases hrest : s.splitOnP p with
      | nil => exact absurd hrest (List.splitOnP_ne_nil _ _)
      | cons head tail =>
        obtain ⟨hhead, htail⟩ := ih hrest
        rw [hrest] at hsplit
        split at hsplit
        · obtain ⟨rfl, rfl⟩ := List.cons.inj hsplit
          refine ⟨List.nil_prefix, List.forall_mem_cons.mpr ⟨?_, fun part hpart => ?_⟩⟩
          · exact hhead.isInfix.trans (List.suffix_cons c s).isInfix
          · exact (htail part hpart).trans (List.suffix_cons c s).isInfix
        · rw [List.modifyHead_cons] at hsplit
          obtain ⟨rfl, rfl⟩ := List.cons.inj hsplit
          exact ⟨List.cons_prefix_cons.mpr ⟨rfl, hhead⟩,
            fun part hpart => (htail part hpart).trans (List.suffix_cons c s).isInfix⟩
  cases hsplit : s.splitOnP p with
  | nil => exact absurd hsplit (List.splitOnP_ne_nil _ _)
  | cons first rest =>
    rw [hsplit] at h
    rcases List.mem_cons.mp h with rfl | hrest
    · exact (hparts hsplit).1.isInfix
    · exact (hparts hsplit).2 part hrest

theorem speaksOfListening_of_listeningPid {line : List Char} {pid : Int}
    (h : listeningPid port line = some pid) : speaksOfListening line = true := by
  unfold listeningPid at h
  split at h
  next protocol localAddress foreign state pidText hwords =>
    split at h
    next hrow =>
      have hmem : state ∈ words line := by
        rw [hwords]
        simp
      have hstate : state <:+: line := infix_of_mem_splitOnP (List.mem_of_mem_filter hmem)
      have hin := infix_upper hstate
      rw [hrow.1] at hin
      exact Python.contains_iff.mpr hin
    · cases h
  · cases h

/-- Some line of the output is a listening line of the port, with the process id. -/
def Listens (port : Int) (out : String) (pid : Int) : Prop :=
  ∃ line ∈ splitLines out.toList, listeningPid port line = some pid

theorem listens_iff_row {out : String} {rows : List Row} (h : Listing out rows) {pid : Int} :
    Listens port out pid ↔ ∃ row ∈ rows, (row.localPort : Int) = port ∧ (row.pid : Int) = pid := by
  constructor
  · rintro ⟨line, hline, hlistens⟩
    have hmem : line ∈ rows.map Row.line := by
      rw [← h]
      exact List.mem_filter.mpr ⟨hline, speaksOfListening_of_listeningPid hlistens⟩
    obtain ⟨row, hrow, rfl⟩ := List.mem_map.mp hmem
    exact ⟨row, hrow, listeningPid_row_iff.mp hlistens⟩
  · rintro ⟨row, hrow, hport⟩
    have hmem : row.line ∈ (splitLines out.toList).filter speaksOfListening := by
      rw [h]
      exact List.mem_map_of_mem hrow
    exact ⟨row.line, List.mem_of_mem_filter hmem, listeningPid_row_iff.mpr hport⟩

/-! ## Whose process is reported -/

/-- The process that is reported, if any, is a listener of the port. -/
def Attributed (env : Nat → Tick) (w : World) (port : Option Int) : Prop :=
  ∀ pid, (runOn env (listenerFingerprint port) w).value.listenerPid = some pid →
    ∃ p out, port = some p ∧ (env w.clock).netstat = some out ∧ Listens p out pid

theorem reported_iff {env : Nat → Tick} {w : World} {port : Option Int} {pid : Int} :
    (runOn env (listenerFingerprint port) w).value.listenerPid = some pid ↔
      ∃ p out, port = some p ∧ p ≠ 0 ∧ (env w.clock).netstat = some out ∧
        scanNetstat p none (splitLines out.toList) = some pid ∧ pid ≠ 0 := by
  rw [listenerPid_eq]
  simp only [Option.bind_eq_some_iff, Option.filter_eq_some_iff, decide_eq_true_eq]
  constructor
  · rintro ⟨p, ⟨hport, hne⟩, out, hout, hfound⟩
    exact ⟨p, out, hport, hne, hout, hfound⟩
  · rintro ⟨p, out, hport, hne, hout, hfound⟩
    exact ⟨p, ⟨hport, hne⟩, out, hout, hfound⟩

/-- On rows the process that is reported is a listener of the port where the first port that
begins with its digits has the owner of a row with the port. -/
theorem attributed_rows_iff {env : Nat → Tick} {w : World} {port : Option Int} {p : Int}
    {out : String} {rows : List Row} (hport : port = some p) (hne : p ≠ 0)
    (hout : (env w.clock).netstat = some out) (hlisting : Listing out rows) :
    Attributed env w port ↔ ∀ before row after, rows = before ++ row :: after →
      intText p <+: natText row.localPort →
      (∀ r ∈ before, ¬ intText p <+: natText r.localPort) →
      ∃ r ∈ rows, (r.localPort : Int) = p ∧ r.pid = row.pid := by
  have hscan : scanNetstat p none (splitLines out.toList) =
      (rows.find? fun row => intText p <+: natText row.localPort).map fun row => (row.pid : Int) := by
    rw [scanNetstat_listening, hlisting, scanNetstat_rows hne]
  unfold Attributed
  constructor
  · rintro h before row after hrows hbegins hbefore
    have hfind : rows.find? (fun row => intText p <+: natText row.localPort) = some row := by
      rw [List.find?_eq_some_iff_append]
      exact ⟨decide_eq_true hbegins, before, after, hrows, fun r hr => by simpa using hbefore r hr⟩
    have hpid : (row.pid : Int) ≠ 0 := by
      have hpos := row.pid_pos
      omega
    obtain ⟨p', out', hport', hout', hlistens⟩ := h row.pid (reported_iff.mpr
      ⟨p, out, hport, hne, hout, by rw [hscan, hfind]; rfl, hpid⟩)
    obtain rfl := Option.some.inj (hport.symm.trans hport')
    obtain rfl := Option.some.inj (hout.symm.trans hout')
    obtain ⟨r, hr, hrport, hrpid⟩ := (listens_iff_row hlisting).mp hlistens
    exact ⟨r, hr, hrport, Int.natCast_inj.mp hrpid⟩
  · intro h pid hreported
    obtain ⟨p', out', hport', -, hout', hfound, -⟩ := reported_iff.mp hreported
    obtain rfl := Option.some.inj (hport.symm.trans hport')
    obtain rfl := Option.some.inj (hout.symm.trans hout')
    rw [hscan] at hfound
    obtain ⟨row, hfind, rfl⟩ := Option.map_eq_some_iff.mp hfound
    obtain ⟨hbegins, before, after, hrows, hbefore⟩ := List.find?_eq_some_iff_append.mp hfind
    obtain ⟨r, hr, hrport, hrpid⟩ := h before row after hrows (of_decide_eq_true hbegins)
      fun r hr => by simpa using hbefore r hr
    exact ⟨p, out, hport, hout, (listens_iff_row hlisting).mpr ⟨r, hr, hrport, by rw [hrpid]⟩⟩

/-- The process that is reported is a listener of the port where every line that passes for one of
the port is one, and on rows exactly where the first port that begins with the digits of the port
has the owner of a row with the port; on any lines exactly where the number at the end of the line
that counts is that of a listener. -/
theorem listenerFingerprint_attributes_iff (env : Nat → Tick) (w : World) (port : Option Int) :
    (Attributed env w port ↔ ∀ p out pid, port = some p → (env w.clock).netstat = some out →
      p ≠ 0 → pid ≠ 0 →
      (∃ before line after, splitLines out.toList = before ++ line :: after ∧
        Mentions p line pid ∧ (∀ l ∈ before, ∀ q, Mentions p l q → q ≤ 0) ∧
          (0 < pid ∨ ∀ l ∈ after, ∀ q, ¬ Mentions p l q)) →
      Listens p out pid) ∧
    ∀ p out rows, port = some p → p ≠ 0 → (env w.clock).netstat = some out → Listing out rows →
      (Attributed env w port ↔ ∀ before row after, rows = before ++ row :: after →
        intText p <+: natText row.localPort →
        (∀ r ∈ before, ¬ intText p <+: natText r.localPort) →
        ∃ r ∈ rows, (r.localPort : Int) = p ∧ r.pid = row.pid) := by
  refine ⟨?_, fun p out rows hport hne hout hlisting => attributed_rows_iff hport hne hout hlisting⟩
  simp only [← picked_iff, ← scanNetstat_none_iff]
  constructor
  · intro h p out pid hport hout hp hpid hfound
    obtain ⟨p', out', hport', hout', hlistens⟩ :=
      h pid (reported_iff.mpr ⟨p, out, hport, hp, hout, hfound, hpid⟩)
    obtain rfl := Option.some.inj (hport.symm.trans hport')
    obtain rfl := Option.some.inj (hout.symm.trans hout')
    exact hlistens
  · intro h pid hpid
    obtain ⟨p, out, hport, hp, hout, hfound, hne⟩ := reported_iff.mp hpid
    exact ⟨p, out, hport, hout, h p out pid hport hout hp hne hfound⟩

/-- On rows nothing goes wrong where no listed port goes on behind the digits of the port. -/
theorem attributed_of_rows {env : Nat → Tick} {w : World} {port : Option Int} {p : Int}
    {out : String} {rows : List Row} (hport : port = some p) (hne : p ≠ 0)
    (hout : (env w.clock).netstat = some out) (hlisting : Listing out rows)
    (hexact : ∀ r ∈ rows, intText p <+: natText r.localPort → (r.localPort : Int) = p) :
    Attributed env w port := by
  refine (attributed_rows_iff hport hne hout hlisting).mpr ?_
  rintro before row after rfl hbegins -
  have hrow := (List.mem_append_right before List.mem_cons_self : row ∈ before ++ row :: after)
  exact ⟨row, hrow, hexact row hrow hbegins, rfl⟩

/-- A machine on which one process listens, at port 8080. -/
def webEnv (_ : Nat) : Tick where
  netstat := some "  TCP    127.0.0.1:8080    0.0.0.0:0    LISTENING    1234\r\n"

/-- The row it prints. -/
def webRow : Row where
  line := "  TCP    127.0.0.1:8080    0.0.0.0:0    LISTENING    1234".toList
  address := "127.0.0.1".toList
  localPort := 8080
  pid := 1234
  words_eq := by decide +kernel
  address_colon := by decide
  localPort_lt := by decide
  pid_pos := by decide
  pid_lt := by decide

example : Listing "  TCP    127.0.0.1:8080    0.0.0.0:0    LISTENING    1234\r\n" [webRow] := by
  unfold Listing
  decide +kernel

/-- It passes for the listener of port 80. -/
theorem webEnv_misattributed :
    (runOn webEnv (listenerFingerprint (some 80)) ⟨{}, fun _ => none, 0⟩).value.listenerPid = some 1234 ∧
      ¬ ∀ (env : Nat → Tick) (w : World) (port : Option Int) (pid : Int),
        (runOn env (listenerFingerprint port) w).value.listenerPid = some pid →
          ∃ p out, port = some p ∧ (env w.clock).netstat = some out ∧ Listens p out pid := by
  have hreported :
      (runOn webEnv (listenerFingerprint (some 80)) ⟨{}, fun _ => none, 0⟩).value.listenerPid =
        some 1234 := by decide +kernel
  refine ⟨hreported, fun h => ?_⟩
  obtain ⟨p, out, hport, hout, line, hline, hlistens⟩ := h _ _ _ _ hreported
  obtain rfl := Option.some.inj hport
  obtain rfl := Option.some.inj hout
  have hnone : ∀ line ∈ splitLines
      "  TCP    127.0.0.1:8080    0.0.0.0:0    LISTENING    1234\r\n".toList,
      listeningPid 80 line = none := by decide +kernel
  rw [hnone line hline] at hlistens
  cases hlistens

end ProxyDrift
