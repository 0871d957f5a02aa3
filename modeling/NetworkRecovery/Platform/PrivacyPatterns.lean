import NetworkRecovery.Platform.Privacy

/-!
# What the patterns of redaction match

A path of `posixUser` is a text of its own (`IsPath`). An address is matched where it stands
between word boundaries, but for the digits that may still fill up its last number (`Stands`,
`address_of_stands`).
-/

namespace Privacy

open Python Python.Regex

variable (alnum : Char → Bool)

/-- At most so many digits more, and no word character behind them. -/
def boundedAfter : Nat → List Char → Bool
  | _, [] => true
  | 0, c :: _ => !isWord alnum c
  | k + 1, c :: cs => if isDecimal c then boundedAfter k cs else !isWord alnum c

/-- A path that the pattern of POSIX profiles matches. -/
def IsPath (path : List Char) : Prop :=
  ∃ users name, path = users ++ (name ++ ['/']) ∧
    List.Forall₂ (fun d c => sameLetter d c = true) "/users/".toList users ∧ name ≠ [] ∧
      ∀ c ∈ name, isNameChar c = true

/-- The digits that the last number of an address can still take. -/
def IPv4.room (ip : IPv4) : Nat := 3 - (natText ip.d).length

/-- The address stands between word boundaries, but for the digits that may fill up its last
number. -/
structure Stands (x : List Char) (ip : IPv4) (y : List Char) : Prop where
  left : ∀ c ∈ x.getLast?, isWord alnum c = false
  right : boundedAfter alnum ip.room y = true

variable {alnum}

/-! ## Characters -/

/-- A decimal digit is not near the letters of ASCII. -/
theorem zero_of_isDecimal {c : Char} (h : isDecimal c = true) :
    (c.toNat < 0x41 ∨ 0x180 ≤ c.toNat) ∧ c.toNat ≠ 0x212A := by
  have hzeros : ∀ z ∈ decimalZeros, (z + 10 ≤ 0x41 ∨ 0x180 ≤ z) ∧ (z + 10 ≤ 0x212A ∨ 0x212A < z) := by
    decide
  rw [isDecimal, decimalValue, Option.isSome_map, List.find?_isSome] at h
  obtain ⟨z, hz, hc⟩ := h
  have hbounds := hzeros z hz
  simp only [Bool.and_eq_true, decide_eq_true_eq] at hc
  omega

theorem isDecimal_of_isDigit {c : Char} (h : c.isDigit = true) : isDecimal c = true := by
  rw [isDecimal, decimalValue_of_isDigit h]
  rfl

theorem foldCase_of_isDecimal {c : Char} (h : isDecimal c = true) : foldCase c = c := by
  obtain ⟨hletter, hkelvin⟩ := zero_of_isDecimal h
  unfold foldCase
  rw [if_neg, if_neg, if_neg hkelvin]
  · omega
  · rintro ⟨hA, hZ⟩
    have hA : 0x41 ≤ c.toNat := hA
    have hZ : c.toNat ≤ 0x5A := hZ
    omega

/-- Case is folded by a step of 32, but for the long s and the Kelvin sign. -/
theorem foldCase_cases (c : Char) :
    foldCase c = c ∨ ((0x41 ≤ c.toNat ∧ c.toNat ≤ 0x5A) ∧ (foldCase c).toNat = c.toNat + 32) ∨
      foldCase c = 's' ∨ foldCase c = 'k' := by
  unfold foldCase
  split
  · next hc =>
    have hA : 0x41 ≤ c.toNat := hc.1
    have hZ : c.toNat ≤ 0x5A := hc.2
    have hvalid : (c.toNat + 32).isValidChar := Or.inl (by omega)
    refine .inr (.inl ⟨⟨hA, hZ⟩, ?_⟩)
    rw [Char.ofNat, dif_pos hvalid]
    rfl
  · split
    · exact .inr (.inr (.inl rfl))
    · split
      · exact .inr (.inr (.inr rfl))
      · exact .inl rfl

/-- What comes before the small letters has one case. -/
theorem eq_of_foldCase {c d : Char} (hd : d.toNat < 0x61) (h : foldCase c = d) : c = d := by
  subst h
  obtain heq | ⟨⟨hA, -⟩, hstep⟩ | hs | hk := foldCase_cases c
  · exact heq.symm
  · omega
  · rw [hs] at hd
    exact absurd hd (by decide)
  · rw [hk] at hd
    exact absurd hd (by decide)

theorem isWord_of_isDecimal {c : Char} (h : isDecimal c = true) : isWord alnum c = true := by
  simp [isWord, h]

theorem isNameChar_of_isDecimal {c : Char} (h : isDecimal c = true) : isNameChar c = true := by
  rw [isNameChar, foldCase_of_isDecimal h]
  simp only [List.contains_cons, List.contains_nil, Bool.not_eq_true', Bool.or_false,
    Bool.or_eq_false_iff, beq_eq_false_iff_ne]
  refine ⟨?_, ?_, ?_⟩
  all_goals
    rintro rfl
    exact absurd h (by decide)

/-- The letter that a Windows path begins with. -/
theorem eq_of_sameLetter_drive {c : Char} (h : sameLetter 'C' c = true) : c = 'C' ∨ c = 'c' := by
  have hfold : foldCase c = 'c' := (beq_iff_eq.mp h).symm
  obtain heq | ⟨-, hstep⟩ | hs | hk := foldCase_cases c
  · exact .inr (heq.symm.trans hfold)
  · rw [hfold] at hstep
    have hC : c.toNat = 'C'.toNat := Nat.add_right_cancel hstep.symm
    exact .inl (Char.toNat_inj.mp hC)
  · exact absurd (hs.symm.trans hfold) (by decide)
  · exact absurd (hk.symm.trans hfold) (by decide)

theorem sameLetter_self (c : Char) : sameLetter c c = true := beq_self_eq_true _

theorem forall₂_sameLetter_self (cs : List Char) :
    List.Forall₂ (fun d c => sameLetter d c = true) cs cs :=
  List.forall₂_same.mpr fun c _ => sameLetter_self c

/-- A character that stands for none of the letters is not among those that do. -/
theorem not_mem_of_sameLetter {ds cs : List Char} {c : Char}
    (h : List.Forall₂ (fun d c => sameLetter d c = true) ds cs)
    (hc : ∀ d ∈ ds, sameLetter d c = false) : c ∉ cs := by
  induction h with
  | nil => exact List.not_mem_nil
  | @cons d e ds cs hsame _ ih =>
    obtain ⟨hd, hds⟩ := List.forall_mem_cons.mp hc
    intro hmem
    cases hmem with
    | head => exact absurd hsame (Bool.eq_false_iff.mp hd)
    | tail _ hmem => exact ih hds hmem

/-! ## Boundaries -/

theorem boundary_word {prev : Option Char} {c : Char} (hword : isWord alnum c = true) :
    boundary alnum prev (some c) = true ↔ ∀ d ∈ prev, isWord alnum d = false := by
  cases prev with
  | none => simp [boundary, hword]
  | some d => simp [boundary, hword]

theorem word_boundary {next : Option Char} {c : Char} (hword : isWord alnum c = true) :
    boundary alnum (some c) next = true ↔ ∀ d ∈ next, isWord alnum d = false := by
  cases next with
  | none => simp [boundary, hword]
  | some d => simp [boundary, hword]

theorem exists_of_boundedAfter {k : Nat} {y : List Char} (h : boundedAfter alnum k y = true) :
    ∃ ds rest, y = ds ++ rest ∧ (∀ c ∈ ds, isDecimal c = true) ∧ ds.length ≤ k ∧
      ∀ c ∈ rest.head?, isWord alnum c = false := by
  induction y generalizing k with
  | nil => exact ⟨[], [], rfl, by simp, Nat.zero_le _, by simp⟩
  | cons c cs ih =>
    cases k with
    | zero =>
      refine ⟨[], c :: cs, rfl, by simp, le_rfl, ?_⟩
      simpa [boundedAfter] using h
    | succ k =>
      unfold boundedAfter at h
      split at h
      · next hc =>
        obtain ⟨ds, rest, rfl, hds, hlen, hrest⟩ := ih h
        exact ⟨c :: ds, rest, rfl, List.forall_mem_cons.mpr ⟨hc, hds⟩, Nat.succ_le_succ hlen, hrest⟩
      · refine ⟨[], c :: cs, rfl, by simp, Nat.zero_le _, ?_⟩
        simpa using h

/-- A dot ends what counts. -/
theorem boundedAfter_congr {v : List Char} (hdot : '.' ∈ v) (k : Nat) (a b : List Char) :
    boundedAfter alnum k (v ++ a) = boundedAfter alnum k (v ++ b) := by
  induction v generalizing k with
  | nil => cases hdot
  | cons c v ih =>
    cases k with
    | zero => rfl
    | succ k =>
      rw [List.cons_append, List.cons_append, boundedAfter, boundedAfter]
      by_cases hc : isDecimal c = true
      · have hne : '.' ≠ c := by
          rintro rfl
          exact absurd hc (by decide)
        rw [if_pos hc, if_pos hc, ih ((List.mem_cons.mp hdot).resolve_left hne)]
      · rw [if_neg hc, if_neg hc]

/-- A substitution whose matches behind a digit change no boundary leaves the end of an address as
it is. -/
theorem boundedAfter_of_rewritten {p : Lookbehind} {w y' y : List Char} {prev : Option Char}
    (hmatch : ∀ {c taken rest}, isDecimal c = true →
      (p (some c) (taken ++ rest)).head? = some (taken, rest) → ∃ t ts u us, taken = t :: ts ∧
        w = u :: us ∧ isDecimal t = false ∧ isDecimal u = false ∧ isWord alnum t = isWord alnum u)
    (h : Rewritten p w prev y' y) (hprev : ∃ c ∈ prev, isDecimal c = true) (k : Nat) :
    boundedAfter alnum k y = boundedAfter alnum k y' := by
  induction h generalizing k with
  | nil => rfl
  | @keep prev c cs out hno hrest ih =>
    cases k with
    | zero => rfl
    | succ k =>
      rw [boundedAfter, boundedAfter]
      by_cases hc : isDecimal c = true
      · rw [if_pos hc, if_pos hc, ih ⟨c, rfl, hc⟩]
      · rw [if_neg hc, if_neg hc]
  | @redact prev taken rest out hne hm hrest ih =>
    obtain ⟨c, rfl, hdecimal⟩ := hprev
    obtain ⟨t, ts, u, us, rfl, rfl, ht, hu, hword⟩ := hmatch hdecimal hm
    cases k with
    | zero => rw [List.cons_append, List.cons_append, boundedAfter, boundedAfter, hword]
    | succ k =>
      rw [List.cons_append, List.cons_append, boundedAfter, boundedAfter, ht, hu, hword]
      rfl

/-! ## Profiles -/

/-- A Windows profile begins with the letter of the drive and ends at a backslash. -/
theorem of_windowsUser {prev : Option Char} {s : List Char} {m : List Char × List Char}
    (h : m ∈ windowsUser prev s) : s = m.1 ++ m.2 ∧ ∃ c ts, m.1 = c :: ts ∧ (c = 'C' ∨ c = 'c') := by
  obtain ⟨a, b, hab, t, ht, htaken⟩ := mem_seq.mp h
  obtain ⟨hprofile, rfl⟩ := mem_literal hab
  obtain ⟨-, -, rfl⟩ := mem_many1 ht
  obtain ⟨c, ts, hc, -, rfl⟩ := List.forall₂_cons_left_iff.mp hprofile
  refine ⟨by rw [htaken, List.append_assoc], c, ts ++ t, htaken, eq_of_sameLetter_drive hc⟩

theorem windowsUser_stops {prev : Option Char} {s : List Char} {m : List Char × List Char}
    (h : (windowsUser prev s).head? = some m) : ∀ c ∈ m.2.head?, c = '\\' := by
  obtain ⟨⟨a, b⟩, -, hm⟩ := exists_of_head?_flatMap h
  rw [List.head?_map] at hm
  obtain ⟨m', hm', rfl⟩ := Option.map_eq_some_iff.mp hm
  intro c hc
  simpa using head?_many1 hm' c hc

theorem of_posixUser {prev : Option Char} {s : List Char} {m : List Char × List Char}
    (h : m ∈ posixUser prev s) : s = m.1 ++ m.2 ∧ IsPath m.1 := by
  obtain ⟨users, b, hab, t, ht, htaken⟩ := mem_seq.mp h
  obtain ⟨husers, rfl⟩ := mem_literal hab
  obtain ⟨name, d, hname, e, he, hpath⟩ := mem_seq.mp ht
  obtain ⟨hne, hchars, rfl⟩ := mem_many1 hname
  obtain ⟨rfl, rfl⟩ := mem_char he
  dsimp only at hpath
  refine ⟨?_, users, name, ?_, husers, hne, hchars⟩
  · rw [htaken, hpath, List.append_assoc, List.append_assoc]
  · rw [htaken, hpath]

theorem posixUser_of_isPath {path : List Char} (h : IsPath path) (prev : Option Char)
    (rest : List Char) : posixUser prev (path ++ rest) ≠ [] := by
  obtain ⟨users, name, rfl, husers, hne, hchars⟩ := h
  refine List.ne_nil_of_mem (a := (users ++ (name ++ ['/']), rest)) ?_
  rw [List.append_assoc, List.append_assoc]
  have hname := mem_seq_append (mem_many1_append hne hchars (['/'] ++ rest)) (mem_char_cons '/' rest)
  exact mem_seq_append (mem_literal_append husers _) hname

/-- A path has no backslash. -/
theorem IsPath.not_mem_backslash {path : List Char} (h : IsPath path) : '\\' ∉ path := by
  obtain ⟨users, name, rfl, husers, -, hchars⟩ := h
  have hletters := @not_mem_of_sameLetter _ _ '\\' husers (forall_mem_of_all (by decide))
  have hname : '\\' ∉ name := fun hmem => absurd (hchars _ hmem) (by decide)
  simp [hletters, hname]

/-- A path begins with a character that stands for a slash. -/
theorem IsPath.exists_cons {path : List Char} (h : IsPath path) :
    ∃ t, path = '/' :: t := by
  obtain ⟨users, name, rfl, husers, -, -⟩ := h
  obtain ⟨c, us, hc, -, rfl⟩ := List.forall₂_cons_left_iff.mp husers
  obtain rfl : c = '/' := eq_of_foldCase (by decide) (beq_iff_eq.mp hc).symm
  exact ⟨us ++ (name ++ ['/']), rfl⟩

theorem consumes_windowsUser : Consumes windowsUser := by
  intro prev s m h
  obtain ⟨hs, c, ts, hm, -⟩ := of_windowsUser h
  exact ⟨hm ▸ List.cons_ne_nil c ts, hs⟩

theorem consumes_posixUser : Consumes posixUser := by
  intro prev s m h
  obtain ⟨hs, hpath⟩ := of_posixUser h
  obtain ⟨t, ht⟩ := hpath.exists_cons
  exact ⟨ht ▸ List.cons_ne_nil '/' t, hs⟩

/-! ## Addresses -/

/-- What an address pattern matches. -/
structure IsAddress (alnum : Char → Bool) (net : List Char) (prev : Option Char)
    (taken rest : List Char) : Prop where
  front : net <+: taken
  left : boundary alnum prev (taken ++ rest).head? = true
  right : boundary alnum (before prev taken) rest.head? = true
  ends : ∃ ts c, taken = ts ++ [c] ∧ isDecimal c = true
  chars : ∀ c ∈ taken, c ∈ net ∨ isDecimal c = true ∨ c = '.'

theorem mem_octets {n : Nat} {s : List Char} {m : List Char × List Char} (h : m ∈ octets n s) :
    s = m.1 ++ m.2 ∧ (∃ ts c, m.1 = ts ++ [c] ∧ isDecimal c = true) ∧
      ∀ c ∈ m.1, isDecimal c = true ∨ c = '.' := by
  induction n generalizing s m with
  | zero =>
    obtain ⟨hne, hdecimal, -, hs⟩ := mem_oneUpTo h
    refine ⟨hs, ⟨m.1.dropLast, m.1.getLast hne, (List.dropLast_append_getLast hne).symm, ?_⟩, ?_⟩
    · exact hdecimal _ (List.getLast_mem hne)
    · exact fun c hc => .inl (hdecimal c hc)
  | succ n ih =>
    obtain ⟨a, b, hab, t, ht, htaken⟩ := mem_seq.mp h
    obtain ⟨-, hdecimal, -, rfl⟩ := mem_oneUpTo hab
    obtain ⟨dot, b', hdot, u, hu, rfl⟩ := mem_seq.mp ht
    obtain ⟨rfl, rfl⟩ := mem_char hdot
    obtain ⟨rfl, ⟨ts, c, rfl, hc⟩, hchars⟩ := ih hu
    refine ⟨by simp [htaken], ⟨a ++ ('.' :: ts), c, by simp [htaken], hc⟩, ?_⟩
    intro d hd
    rw [htaken] at hd
    obtain hd | hd := List.mem_append.mp hd
    · exact .inl (hdecimal d hd)
    · obtain rfl | hd := List.mem_cons.mp hd
      · exact .inr rfl
      · exact hchars d hd

theorem of_address {net : List Char} {n : Nat} {prev : Option Char} {s : List Char}
    {m : List Char × List Char} (h : m ∈ address alnum net n prev s) :
    s = m.1 ++ m.2 ∧ IsAddress alnum net prev m.1 m.2 := by
  unfold address at h
  split at h
  · next hleft =>
    obtain ⟨hm, hright⟩ := List.mem_filter.mp h
    obtain ⟨a, b, hab, t, ht, htaken⟩ := mem_seq.mp hm
    obtain ⟨hnet, rfl⟩ := mem_literal hab
    obtain ⟨rfl, ⟨ts, c, rfl, hc⟩, hchars⟩ := mem_octets ht
    obtain rfl : net = a := by
      refine List.forall₂_eq_eq_eq ▸ hnet.imp fun d c h => beq_iff_eq.mp h
    dsimp only at hleft
    refine ⟨by rw [htaken, List.append_assoc net], ?_, ?_, hright, ?_, ?_⟩
    · exact ⟨ts ++ [c], htaken.symm⟩
    · rwa [htaken, List.append_assoc net]
    · exact ⟨net ++ ts, c, by rw [htaken, List.append_assoc], hc⟩
    · intro d hd
      rw [htaken] at hd
      exact (List.mem_append.mp hd).imp id (hchars d)
  · exact absurd h List.not_mem_nil

theorem consumes_address (net : List Char) (n : Nat) : Consumes (address alnum net n) := by
  intro prev s m h
  obtain ⟨hs, haddress⟩ := of_address h
  obtain ⟨ts, c, hm, -⟩ := haddress.ends
  exact ⟨hm ▸ List.append_ne_nil_of_right_ne_nil ts (List.cons_ne_nil c []), hs⟩

/-- Where the network and its octets are not, there is no address, whatever comes before. -/
theorem address_eq_nil {net s : List Char} {n : Nat}
    (h : seq (literal (fun d c => d == c) net) (octets n) s = []) (prev : Option Char) :
    address alnum net n prev s = [] := by
  rw [address, h]
  split <;> rfl

theorem dotted_cons (n : Nat) {ns : List Nat} (hne : ns ≠ []) :
    dotted (n :: ns) = natText n ++ '.' :: dotted ns := by
  cases ns with
  | nil => exact absurd rfl hne
  | cons m ns => rfl

theorem dotted_ne_nil {ns : List Nat} (hne : ns ≠ []) : dotted ns ≠ [] := by
  cases ns with
  | nil => exact absurd rfl hne
  | cons n ns =>
    cases ns with
    | nil => exact natText_ne_nil n
    | cons m ns => exact List.append_ne_nil_of_left_ne_nil (natText_ne_nil n) _

theorem isDecimal_natText {n : Nat} {c : Char} (h : c ∈ natText n) : isDecimal c = true :=
  isDecimal_of_isDigit (isDigit_natText h)

theorem length_natText_octet (n : Fin 256) : (natText n).length ≤ 3 :=
  (Nat.length_toDigits_le_iff (by decide) (by decide)).mpr (Nat.lt_trans n.isLt (by decide))

/-- Octets, the last one filled up with digits. -/
theorem octets_dotted (ns : List (Fin 256)) (last : Fin 256) {ds : List Char}
    (hds : ∀ c ∈ ds, isDecimal c = true) (hlen : ds.length ≤ 3 - (natText last).length)
    (rest : List Char) :
    (dotted (ns.map Fin.val ++ [last.val]) ++ ds, rest) ∈
      octets ns.length (dotted (ns.map Fin.val ++ [last.val]) ++ (ds ++ rest)) := by
  induction ns with
  | nil =>
    have hdecimal : ∀ c ∈ natText last ++ ds, isDecimal c = true := fun c hc =>
      (List.mem_append.mp hc).elim isDecimal_natText (hds c)
    have hroom : (natText last ++ ds).length ≤ 3 := by
      have hlast := length_natText_octet last
      rw [List.length_append]
      omega
    have hne : natText last ++ ds ≠ [] := List.append_ne_nil_of_left_ne_nil (natText_ne_nil _) ds
    have hmem := mem_oneUpTo_append hne hdecimal hroom rest
    rwa [List.append_assoc] at hmem
  | cons n ns ih =>
    have hne : ns.map Fin.val ++ [last.val] ≠ [] :=
      List.append_ne_nil_of_right_ne_nil _ (List.cons_ne_nil _ _)
    rw [List.map_cons, List.cons_append, dotted_cons _ hne, List.append_assoc, List.append_assoc,
      List.cons_append, List.cons_append]
    have hfirst := mem_oneUpTo_append (natText_ne_nil n) (fun c => isDecimal_natText)
      (length_natText_octet n)
    exact mem_seq_append (hfirst _) (mem_seq_append (mem_char_cons '.' _) ih)

/-- An address is four octets for the pattern of octets too. -/
theorem IPv4.mem_octets (ip : IPv4) {ds : List Char} (hds : ∀ c ∈ ds, isDecimal c = true)
    (hlen : ds.length ≤ ip.room) (rest : List Char) :
    (ip.text ++ ds, rest) ∈ octets 3 (ip.text ++ (ds ++ rest)) :=
  octets_dotted [ip.a, ip.b, ip.c] ip.d hds hlen rest

/-- An address ends in a digit, filled up or not. -/
theorem IPv4.filled_ends (ip : IPv4) {ds : List Char} (hds : ∀ c ∈ ds, isDecimal c = true)
    (hlen : ds.length ≤ ip.room) : ∃ ts c, ip.text ++ ds = ts ++ [c] ∧ isDecimal c = true :=
  (Privacy.mem_octets (ip.mem_octets hds hlen [])).2.1

theorem IPv4.ends (ip : IPv4) : ∃ ts c, ip.text = ts ++ [c] ∧ isDecimal c = true := by
  simpa using @IPv4.filled_ends ip [] (by simp) (Nat.zero_le _)

/-- An address begins with a digit. -/
theorem IPv4.begins (ip : IPv4) : ∃ c t, ip.text = c :: t ∧ isDecimal c = true := by
  cases hfirst : natText ip.a with
  | nil => exact absurd hfirst (natText_ne_nil _)
  | cons c t =>
    have hc : c ∈ natText ip.a := hfirst ▸ List.mem_cons_self
    refine ⟨c, t ++ '.' :: dotted [ip.b, ip.c, ip.d], ?_, isDecimal_natText hc⟩
    rw [IPv4.text, dotted_cons _ (List.cons_ne_nil _ _), hfirst, List.cons_append]

theorem chars_dotted (ns : List Nat) : ∀ c ∈ dotted ns, c.isDigit = true ∨ c = '.' := by
  fun_induction dotted ns with
  | case1 => simp
  | case2 n => exact fun c hc => .inl (isDigit_natText hc)
  | case3 n ns _ ih =>
    intro c hc
    obtain hc | hc := List.mem_append.mp hc
    · exact .inl (isDigit_natText hc)
    · obtain rfl | hc := List.mem_cons.mp hc
      · exact .inr rfl
      · exact ih c hc

/-- The characters of an address. -/
theorem IPv4.chars (ip : IPv4) : ∀ c ∈ ip.text, c.isDigit = true ∨ c = '.' := chars_dotted _

theorem IPv4.not_mem (ip : IPv4) {c : Char} (hc : isDecimal c = false) (hdot : c ≠ '.') :
    c ∉ ip.text := by
  intro hmem
  obtain hdigit | heq := ip.chars c hmem
  · exact absurd (isDecimal_of_isDigit hdigit) (Bool.eq_false_iff.mp hc)
  · exact hdot heq

theorem IPv4.count_dot (ip : IPv4) : ip.text.count '.' = 3 := by
  have hnone : ∀ n, (natText n).count '.' = 0 := fun n =>
    List.count_eq_zero.mpr fun h => absurd (isDigit_natText h) (by decide)
  simp [IPv4.text, dotted, List.count_append, hnone]

/-- An address that occurs in an address is that address. -/
theorem IPv4.eq_of_occurs {a b : IPv4} (h : Occurs a b.text) : a.text = b.text := by
  obtain ⟨x, y, hs, hx, hy⟩ := h
  have hcount := congrArg (List.count '.') hs
  rw [List.count_append, List.count_append, a.count_dot, b.count_dot] at hcount
  have hxdot : '.' ∉ x := List.count_eq_zero.mp (by omega)
  have hydot : '.' ∉ y := List.count_eq_zero.mp (by omega)
  -- What is before and behind has digits only, and none of them next to the address.
  have hxnil : x = [] := by
    refine List.getLast?_eq_none_iff.mp (Option.eq_none_iff_forall_not_mem.mpr fun c hc => ?_)
    have hmem : c ∈ x := List.mem_of_getLast? hc
    obtain hdigit | rfl := b.chars c (hs ▸ List.mem_append_left _ hmem)
    · exact absurd hdigit (Bool.eq_false_iff.mp (hx c hc))
    · exact hxdot hmem
  have hynil : y = [] := by
    refine List.head?_eq_none_iff.mp (Option.eq_none_iff_forall_not_mem.mpr fun c hc => ?_)
    have hmem : c ∈ y := List.mem_of_head? hc
    obtain hdigit | rfl := b.chars c (hs ▸ List.mem_append_right x (List.mem_append_right _ hmem))
    · exact absurd hdigit (Bool.eq_false_iff.mp (hy c hc))
    · exact hydot hmem
  rw [hs, hxnil, hynil, List.nil_append, List.append_nil]

theorem IPv4.text_of_10 {ip : IPv4} (h : ip.a = 10) :
    ip.text = "10.".toList ++ dotted ([ip.b, ip.c].map Fin.val ++ [ip.d.val]) := by
  rw [IPv4.text, h]
  rfl

theorem IPv4.text_of_192 {ip : IPv4} (h : ip.a = 192 ∧ ip.b = 168) :
    ip.text = "192.168.".toList ++ dotted ([ip.c].map Fin.val ++ [ip.d.val]) := by
  rw [IPv4.text, h.1, h.2]
  rfl

/-- Where an address of a network stands, the pattern of the network matches. -/
theorem address_of_stands {net x y : List Char} {ns : List (Fin 256)} {ip : IPv4}
    (hnet : ∃ t, net = '1' :: t) (htext : ip.text = net ++ dotted (ns.map Fin.val ++ [ip.d.val]))
    (h : Stands alnum x ip y) :
    address alnum net ns.length (before none x) (ip.text ++ y) ≠ [] := by
  obtain ⟨ds, rest, rfl, hds, hlen, hrest⟩ := exists_of_boundedAfter h.right
  obtain ⟨t, ht⟩ := hnet
  have hleft : boundary alnum (before none x) (ip.text ++ (ds ++ rest)).head? = true := by
    rw [htext, ht]
    refine (boundary_word (isWord_of_isDecimal (by decide))).mpr fun c hc => h.left c ?_
    rwa [before, Option.or_none] at hc
  refine List.ne_nil_of_mem (a := (ip.text ++ ds, rest)) ?_
  rw [address, if_pos hleft]
  refine List.mem_filter.mpr ⟨?_, ?_⟩
  · rw [htext, List.append_assoc, List.append_assoc]
    have hself : List.Forall₂ (fun d c => (d == c) = true) net net :=
      List.forall₂_same.mpr fun c _ => beq_self_eq_true c
    exact mem_seq_append (mem_literal_append hself _) (octets_dotted ns ip.d hds hlen rest)
  · obtain ⟨ts, c, hends, hdecimal⟩ := ip.filled_ends hds hlen
    dsimp only
    rw [hends, before_concat]
    exact (word_boundary (isWord_of_isDecimal hdecimal)).mpr hrest

end Privacy
