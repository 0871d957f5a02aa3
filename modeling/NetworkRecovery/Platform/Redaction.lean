import NetworkRecovery.Platform.PrivacyPatterns

/-!
# What is left of a text

Nothing that a text tells is left of it where the patterns say what they were meant to say
(`redactText_complete`): where it tells no Windows profile and no address of `172.16.0.0/12`,
the names in its POSIX paths have no s and no backslash, and its other private addresses stand
between word boundaries and not right behind a path, whose replacement ends in a digit.

An item that is left can be followed back through the four substitutions to the same place of
the text, with the same kind of character before and behind it.
-/

namespace Privacy

open Python Python.Regex
open Python.Regex.Rewritten (Traceable Unseen unseen_of_not_mem)

variable (alnum : Char → Bool)

/-- The text tells what the patterns see. -/
structure Clean (text : List Char) : Prop where
  windows : ∀ name, ¬ Item.InText text (.windowsPath name)
  names : ∀ name, Item.InText text (.posixPath name) → ∀ c ∈ name, isNameChar c = true
  private172 : ∀ ip : IPv4, ip.Private172 → ¬ Occurs ip text
  addresses : ∀ ip : IPv4, ip.Covered → Occurs ip text → ∀ x y, text = x ++ (ip.text ++ y) →
    Stands alnum x ip y ∧ ∀ path, IsPath path → ¬ path <:+ x

/-- Wherever the address is, it stands between word boundaries. -/
def AllStand (ip : IPv4) (s : List Char) : Prop :=
  ∀ x y, s = x ++ (ip.text ++ y) → Stands alnum x ip y

/-- Nowhere is the address right behind a path. -/
def NoneBehind (ip : IPv4) (s : List Char) : Prop :=
  ∀ path, IsPath path → ¬ (path ++ ip.text) <:+: s

/-- No path is in the text. -/
def PathFree (s : List Char) : Prop := ∀ path, IsPath path → ¬ path <:+: s

variable {alnum}

/-! ## Marks -/

/-- What begins with a character that the mark has not does not begin in it. -/
theorem not_start_of_not_mem {w z : List Char} {c : Char} (hc : c ∉ w) :
    ∀ v, v <:+ w → v ≠ [] → ∀ r, ¬ c :: z <+: v ++ r := by
  intro v hv hne r hfront
  cases v with
  | nil => exact absurd rfl hne
  | cons d v =>
    obtain ⟨rfl, -⟩ := List.cons_prefix_cons.mp (List.cons_append ▸ hfront)
    exact hc (hv.subset List.mem_cons_self)

/-- Nor does what begins with two characters that are not next to each other in it. -/
theorem not_start_of_apart {w z : List Char} {c d : Char} (hcd : ¬ [c, d] <:+: w)
    (hlast : w.getLast? ≠ some c) : ∀ v, v <:+ w → v ≠ [] → ∀ r, ¬ c :: d :: z <+: v ++ r := by
  intro v hv hne r hfront
  cases v with
  | nil => exact absurd rfl hne
  | cons c' v =>
    obtain ⟨rfl, htail⟩ := List.cons_prefix_cons.mp (List.cons_append ▸ hfront)
    cases v with
    | nil =>
      obtain ⟨x, rfl⟩ := hv
      exact hlast List.getLast?_concat
    | cons d' v =>
      obtain ⟨rfl, -⟩ := List.cons_prefix_cons.mp (List.cons_append ▸ htail)
      obtain ⟨x, rfl⟩ := hv
      exact hcd ⟨x, v, by rw [List.append_assoc]; rfl⟩

/-! ## An address through a substitution -/

/-- Where an address ends inside a beginning that ends in a dot, the dot is behind it. -/
theorem IPv4.dot_mem_rest (ip : IPv4) {u z v : List Char} (hdot : ∀ c ∈ u.getLast?, c = '.')
    (hne : z ≠ []) (hsuffix : z <:+ ip.text) (hu : u = z ++ v) : '.' ∈ v := by
  cases hv : v.getLast? with
  | some e =>
    have he : e ∈ u.getLast? := by
      rw [hu, List.getLast?_append, hv]
      rfl
    exact hdot e he ▸ List.mem_of_getLast? hv
  | none =>
    obtain rfl := List.getLast?_eq_none_iff.mp hv
    rw [List.append_nil] at hu
    subst hu
    obtain ⟨t, ht⟩ := hsuffix
    obtain ⟨ts, c, hends, hc⟩ := ip.ends
    have hlast : u.getLast? = some c := by
      rw [← List.getLast?_append_of_ne_nil t hne, ht, hends, List.getLast?_concat]
    exact absurd (hdot c hlast ▸ hc) (by decide)

theorem AllStand.through {ip : IPv4} {p : Lookbehind} {w u s : List Char} (hp : Consumes p)
    (hz : Traceable p w u ip.text) (hdot : ∀ c ∈ u.getLast?, c = '.')
    (hmatch : ∀ {c taken rest}, isDecimal c = true →
      (p (some c) (taken ++ rest)).head? = some (taken, rest) → ∃ t ts u us, taken = t :: ts ∧
        w = u :: us ∧ isDecimal t = false ∧ isDecimal u = false ∧ isWord alnum t = isWord alnum u)
    (hchunk : ∀ {prev x taken y}, s = x ++ (taken ++ (ip.text ++ y)) →
      (p prev (taken ++ (ip.text ++ y))).head? ≠ some (taken, ip.text ++ y))
    (h : AllStand alnum ip s) : AllStand alnum ip (sub p w s) := by
  intro x y hout
  obtain ⟨x', y', rfl, -, hbehind, hahead⟩ := (rewritten_sub hp w s).trace hz hout
  obtain ⟨hleft, hright⟩ := h x' y' rfl
  obtain ⟨ts, c, hends, hc⟩ := ip.ends
  refine ⟨?_, ?_⟩
  · cases hbehind with
    | same hlast => rwa [← hlast]
    | chunk hx' hx hm => exact absurd hm (hchunk (by rw [hx', List.append_assoc]))
  · cases hahead with
    | walk hwalk =>
      rw [hends, before_concat] at hwalk
      rw [boundedAfter_of_rewritten hmatch hwalk ⟨c, rfl, hc⟩]
      exact hright
    | @shared z₂ v a b hne hsuffix hu hy' hy =>
      rw [hy, boundedAfter_congr (ip.dot_mem_rest hdot hne hsuffix hu) _ b a, ← hy']
      exact hright

/-! ## Profiles -/

theorem traceable_windows {z t : List Char} {c e : Char} {r : List Char} (hc : z = c :: r)
    (hfirst : c ∉ windowsMark) (hz : z = t ++ [e]) (he : isDecimal e = true) (hd : '\\' ∉ z) :
    Traceable windowsUser windowsMark [] z := by
  refine @Traceable.of_not_mem _ "C:".toList "Users\\[redacted]".toList z t '\\' e hz hd ?_ ?_
  · have hnone : ∀ d ∈ "C:".toList, isDecimal d = false := forall_mem_of_all (by decide)
    exact fun hmem => absurd he (Bool.eq_false_iff.mp (hnone e hmem))
  · rw [hc]
    exact not_start_of_not_mem hfirst

theorem traceable_posix {z t : List Char} {e : Char} (hz : z = t ++ [e]) (hd : '\\' ∉ z)
    (hstart : ∀ v, v <:+ posixMark → v ≠ [] → ∀ r, ¬ z <+: v ++ r) :
    Traceable posixUser posixMark [] z :=
  @Traceable.of_not_mem _ [] "1[redacted]\\3".toList z t '\\' e hz hd List.not_mem_nil hstart

theorem AllStand.windows {ip : IPv4} {s : List Char} (h : AllStand alnum ip s) :
    AllStand alnum ip (sub windowsUser windowsMark s) := by
  obtain ⟨c, r, hbegins, hc⟩ := ip.begins
  obtain ⟨t, e, hends, he⟩ := ip.ends
  have hnone : ∀ d ∈ windowsMark, isDecimal d = false := forall_mem_of_all (by decide)
  have htrace : Traceable windowsUser windowsMark [] ip.text := by
    refine traceable_windows hbegins ?_ hends he (ip.not_mem (by decide) (by decide))
    exact fun hmem => absurd hc (Bool.eq_false_iff.mp (hnone c hmem))
  refine AllStand.through consumes_windowsUser htrace (by simp) ?_ ?_ h
  · intro d taken rest _ hm
    obtain ⟨-, l, ts, rfl, hdrive⟩ := of_windowsUser (List.mem_of_head? hm)
    refine ⟨l, ts, 'C', _, rfl, rfl, ?_, by decide, ?_⟩
    · obtain rfl | rfl := hdrive <;> decide
    · obtain rfl | rfl := hdrive <;> rfl
  · intro prev x taken y _ hm
    have hstop := windowsUser_stops hm c (by rw [hbegins]; rfl)
    rw [hstop] at hc
    exact absurd hc (by decide)

theorem NoneBehind.windows {ip : IPv4} {s : List Char} (h : NoneBehind ip s) :
    NoneBehind ip (sub windowsUser windowsMark s) := by
  intro path hpath hwithin
  obtain ⟨r, hr⟩ := hpath.exists_cons
  obtain ⟨t, e, hends, he⟩ := ip.ends
  have htrace : Traceable windowsUser windowsMark [] (path ++ ip.text) := by
    refine @traceable_windows _ (path ++ t) '/' e (r ++ ip.text) ?_ (by decide) ?_ he ?_
    · rw [hr, List.cons_append]
    · rw [hends, List.append_assoc]
    · have haddress := @IPv4.not_mem ip '\\' (by decide) (by decide)
      simp [hpath.not_mem_backslash, haddress]
  exact h path hpath (Rewritten.infix_of_sub consumes_windowsUser htrace hwithin)

/-- A private address of a covered network, as far as its second character. -/
theorem IPv4.Covered.begins {ip : IPv4} (h : ip.Covered) :
    ∃ c t, ip.text = '1' :: c :: t ∧ (c = '0' ∨ c = '9') := by
  obtain h | h := h
  · exact ⟨'0', _, IPv4.text_of_10 h, .inl rfl⟩
  · exact ⟨'9', _, IPv4.text_of_192 h, .inr rfl⟩

theorem AllStand.posix {ip : IPv4} (hip : ip.Covered) {s : List Char} (h : AllStand alnum ip s)
    (hbehind : NoneBehind ip s) : AllStand alnum ip (sub posixUser posixMark s) := by
  obtain ⟨c, r, hbegins, hc⟩ := hip.begins
  obtain ⟨t, e, hends, -⟩ := ip.ends
  have htrace : Traceable posixUser posixMark [] ip.text := by
    refine traceable_posix hends (ip.not_mem (by decide) (by decide)) ?_
    rw [hbegins]
    obtain rfl | rfl := hc
    · exact not_start_of_apart (by decide) (by decide)
    · exact not_start_of_apart (by decide) (by decide)
  refine AllStand.through consumes_posixUser htrace (by simp) ?_ ?_ h
  · intro d taken rest _ hm
    obtain ⟨-, hpath⟩ := of_posixUser (List.mem_of_head? hm)
    obtain ⟨ts, rfl⟩ := hpath.exists_cons
    exact ⟨'/', ts, '\\', _, rfl, rfl, by decide, by decide, rfl⟩
  · intro prev x taken y hs hm
    obtain ⟨-, hpath⟩ := of_posixUser (List.mem_of_head? hm)
    refine hbehind taken hpath ⟨x, y, ?_⟩
    rw [hs, List.append_assoc, List.append_assoc]

/-- No path is left. -/
theorem pathFree_posix (s : List Char) : PathFree (sub posixUser posixMark s) := by
  intro path hpath hwithin
  obtain ⟨x, y, hout⟩ := hwithin
  rw [List.append_assoc] at hout
  obtain ⟨t, e, hends⟩ : ∃ t e, path = t ++ [e] := by
    obtain ⟨users, name, rfl, -⟩ := hpath
    exact ⟨users ++ name, '/', by rw [List.append_assoc]⟩
  have htrace : Traceable posixUser posixMark [] path := by
    refine traceable_posix hends hpath.not_mem_backslash ?_
    obtain ⟨r, hr⟩ := hpath.exists_cons
    rw [hr]
    exact not_start_of_not_mem (by decide)
  obtain ⟨x', y', -, hno, -, -⟩ := (rewritten_sub consumes_posixUser posixMark s).trace htrace hout.symm
  exact posixUser_of_isPath hpath _ y' hno

/-! ## Addresses -/

section Networks

variable {net w s : List Char} {n : Nat}

theorem traceable_address {z w' : List Char} (hz : z ≠ []) (hx : 'x' ∉ z)
    (hstart : ∀ v, v <:+ net ++ 'x' :: w' → v ≠ [] → ∀ r, ¬ z <+: v ++ r) :
    Traceable (address alnum net n) (net ++ 'x' :: w') net z where
  mark := List.append_ne_nil_of_right_ne_nil net (List.cons_ne_nil 'x' w')
  text := hz
  common := List.prefix_append net ('x' :: w')
  taken hm := (of_address (List.mem_of_head? hm)).2.front
  seen := unseen_of_not_mem hx
  start := hstart

theorem AllStand.address {ip : IPv4} (hnet : ∃ t, net = '1' :: t) (hdot : ∀ c ∈ net.getLast?, c = '.')
    (hz : Traceable (address alnum net n) w net ip.text) (h : AllStand alnum ip s) :
    AllStand alnum ip (sub (Privacy.address alnum net n) w s) := by
  obtain ⟨t, rfl⟩ := hnet
  refine AllStand.through (consumes_address _ n) hz hdot ?_ ?_ h
  · -- Behind a digit no address begins.
    intro c taken rest hc hm
    obtain ⟨-, hm⟩ := of_address (List.mem_of_head? hm)
    obtain ⟨u, rfl⟩ := hm.front
    have hword := (word_boundary (isWord_of_isDecimal hc)).mp hm.left '1' rfl
    exact absurd (isWord_of_isDecimal (by decide)) (Bool.eq_false_iff.mp hword)
  · -- Nor does one behind another.
    intro prev x taken y _ hm
    obtain ⟨-, hm⟩ := of_address (List.mem_of_head? hm)
    obtain ⟨ts, c, rfl, hc⟩ := hm.ends
    obtain ⟨d, r, hbegins, hd⟩ := ip.begins
    have hright := hm.right
    rw [before_concat] at hright
    have hword := (word_boundary (isWord_of_isDecimal hc)).mp hright d (by rw [hbegins]; rfl)
    exact absurd (isWord_of_isDecimal hd) (Bool.eq_false_iff.mp hword)

/-- An address of the network that stands everywhere is left nowhere. -/
theorem AllStand.gone {ip : IPv4} {ns : List (Fin 256)} (hnet : ∃ t, net = '1' :: t)
    (htext : ip.text = net ++ dotted (ns.map Fin.val ++ [ip.d.val]))
    (hz : Traceable (Privacy.address alnum net ns.length) w net ip.text)
    (h : AllStand alnum ip s) : ¬ ip.text <:+: sub (Privacy.address alnum net ns.length) w s := by
  rintro ⟨x, y, hout⟩
  rw [List.append_assoc] at hout
  obtain ⟨x', y', hs, hno, -, -⟩ := (rewritten_sub (consumes_address net _) w s).trace hz hout.symm
  exact address_of_stands hnet htext (h x' y' hs) hno

/-- An address does not begin in the mark of its own network. -/
theorem not_start_own {ip : IPv4} {ns : List (Fin 256)} {w' t : List Char} {c d : Char}
    (hnet : net = c :: d :: t) (htext : ip.text = net ++ dotted (ns.map Fin.val ++ [ip.d.val]))
    (hcd : ¬ [c, d] <:+: d :: t ++ 'x' :: w') (hlast : (d :: t ++ 'x' :: w').getLast? ≠ some c) :
    ∀ v, v <:+ net ++ 'x' :: w' → v ≠ [] → ∀ r, ¬ ip.text <+: v ++ r := by
  intro v hv hne r hfront
  have hx : 'x' ∉ ip.text := ip.not_mem (by decide) (by decide)
  have hmore : dotted (ns.map Fin.val ++ [ip.d.val]) ≠ [] :=
    dotted_ne_nil (List.append_ne_nil_of_right_ne_nil _ (List.cons_ne_nil _ _))
  have htextNe : ip.text ≠ [] := htext ▸ List.append_ne_nil_of_right_ne_nil net hmore
  rw [hnet, List.cons_append, List.suffix_cons_iff, ← List.cons_append, ← hnet] at hv
  obtain rfl | hv := hv
  · have hshort := unseen_of_not_mem hx ip.text r List.suffix_rfl htextNe hfront
    have hlen := hshort.length_le
    rw [htext, List.length_append] at hlen
    exact hmore (List.eq_nil_of_length_eq_zero (by omega))
  · rw [htext, hnet] at hfront
    exact not_start_of_apart hcd hlast v hv hne r hfront

/-- No path comes up where an address goes. -/
theorem PathFree.address (hchars : ∀ c ∈ net, isNameChar c = true)
    (hw : ∃ t, w = '1' :: t) (hslash : '/' ∉ w) (h : PathFree s) :
    PathFree (sub (Privacy.address alnum net n) w s) := by
  rintro path hpath ⟨x, y, hout⟩
  obtain ⟨r, hr⟩ := hpath.exists_cons
  obtain ⟨users, name, rfl, husers, hne, hname⟩ := hpath
  obtain ⟨w', rfl⟩ := hw
  rw [List.append_assoc, List.append_assoc, List.append_assoc] at hout
  have hwalk := rewritten_sub (p := Privacy.address alnum net n) (consumes_address net n) ('1' :: w') s
  obtain ⟨x', s', rfl, hwalk, -⟩ | ⟨v, r', hv, hvne, hr'⟩ := hwalk.split hout.symm
  · have hseen : Rewritten.Unseen ([] ++ '1' :: w') [] users :=
      Rewritten.unseen_of_not_mem (not_mem_of_sameLetter husers (forall_mem_of_all (by decide)))
    obtain ⟨y', rfl, hahead⟩ := Rewritten.front List.nil_prefix (fun _ => List.nil_prefix) hseen hwalk
    cases hahead with
    | shared hne₂ _ hu _ _ => exact absurd (List.append_eq_nil_iff.mp hu.symm).1 hne₂
    | walk hwalk =>
      have htaken : ∀ {prev taken rest}, (Privacy.address alnum net n prev (taken ++ rest)).head? =
          some (taken, rest) → ∀ c ∈ taken, isNameChar c = true := by
        intro prev taken rest hm c hc
        obtain hc | hc | rfl := (of_address (List.mem_of_head? hm)).2.chars c hc
        · exact hchars c hc
        · exact isNameChar_of_isDecimal hc
        · decide
      obtain ⟨name', rest, rfl, hname', hne'⟩ := hwalk.front_run hslash htaken hname
      refine h (users ++ (name' ++ ['/'])) ⟨users, name', rfl, husers, hne' hne, hname'⟩ ⟨x', rest, ?_⟩
      simp only [List.append_assoc, List.cons_append, List.nil_append]
  · -- The path does not begin in the mark.
    refine not_start_of_not_mem (z := r) hslash v hv hvne r' ⟨y, ?_⟩
    rw [← hr, ← hr', List.append_assoc, List.append_assoc]

end Networks

/-! ## The four substitutions -/

/-- What `redact_text` has made of a text before it looks for addresses. -/
theorem Clean.stands {text : List Char} (h : Clean alnum text) {ip : IPv4} (hip : ip.Covered)
    (hoccurs : Occurs ip text) :
    AllStand alnum ip (sub posixUser posixMark (sub windowsUser windowsMark text)) := by
  have hstand : AllStand alnum ip text := fun x y hs => (h.addresses ip hip hoccurs x y hs).1
  have hbehind : NoneBehind ip text := by
    rintro path hpath ⟨x, y, hs⟩
    refine (h.addresses ip hip hoccurs (x ++ path) y ?_).2 path hpath (List.suffix_append x path)
    rw [← hs]
    simp only [List.append_assoc]
  exact hstand.windows.posix hip hbehind.windows

/-- `redact_text`, the part that looks for addresses apart. -/
theorem redactText_eq (text : List Char) : redactText alnum text =
    sub (address alnum "10.".toList 2) "10.x.x.x".toList
      (sub (address alnum "192.168.".toList 1) "192.168.x.x".toList
        (sub posixUser posixMark (sub windowsUser windowsMark text))) := rfl

theorem IPv4.text_ne_nil (ip : IPv4) : ip.text ≠ [] := by
  obtain ⟨c, t, hbegins, -⟩ := ip.begins
  exact hbegins ▸ List.cons_ne_nil c t

theorem redactText_10 {text : List Char} {ip : IPv4} (hip : ip.a = 10) (h : AllStand alnum ip
    (sub posixUser posixMark (sub windowsUser windowsMark text))) :
    ¬ ip.text <:+: redactText alnum text := by
  have htext := IPv4.text_of_10 hip
  have hx : 'x' ∉ ip.text := ip.not_mem (by decide) (by decide)
  have hother : Traceable (address alnum "192.168.".toList 1) "192.168.x.x".toList
      "192.168.".toList ip.text := by
    refine @traceable_address alnum "192.168.".toList 1 ip.text ".x".toList ip.text_ne_nil hx ?_
    rw [htext]
    exact not_start_of_apart (by decide) (by decide)
  have hown : Traceable (address alnum "10.".toList 2) "10.x.x.x".toList "10.".toList ip.text := by
    refine @traceable_address alnum "10.".toList 2 ip.text ".x.x".toList ip.text_ne_nil hx ?_
    exact not_start_own rfl htext (by decide) (by decide)
  have hdot : ∀ c ∈ "192.168.".toList.getLast?, c = '.' := by
    intro c hc
    exact (Option.some.inj hc).symm
  have hstands := h.address ⟨_, rfl⟩ hdot hother
  rw [redactText_eq]
  exact @AllStand.gone alnum "10.".toList _ _ ip [ip.b, ip.c] ⟨_, rfl⟩ htext hown hstands

theorem redactText_192 {text : List Char} {ip : IPv4} (hip : ip.a = 192 ∧ ip.b = 168)
    (h : AllStand alnum ip (sub posixUser posixMark (sub windowsUser windowsMark text))) :
    ¬ ip.text <:+: redactText alnum text := by
  have htext := IPv4.text_of_192 hip
  have hx : 'x' ∉ ip.text := ip.not_mem (by decide) (by decide)
  have hown : Traceable (address alnum "192.168.".toList 1) "192.168.x.x".toList
      "192.168.".toList ip.text := by
    refine @traceable_address alnum "192.168.".toList 1 ip.text ".x".toList ip.text_ne_nil hx ?_
    exact not_start_own rfl htext (by decide) (by decide)
  have hother : Traceable (address alnum "10.".toList 2) "10.x.x.x".toList "10.".toList ip.text := by
    refine @traceable_address alnum "10.".toList 2 ip.text ".x.x".toList ip.text_ne_nil hx ?_
    rw [htext]
    exact not_start_of_apart (by decide) (by decide)
  rw [redactText_eq]
  intro hwithin
  have hbefore := Rewritten.infix_of_sub (consumes_address "10.".toList 2) hother hwithin
  exact @AllStand.gone alnum "192.168.".toList _ _ ip [ip.c] ⟨_, rfl⟩ htext hown h hbefore

theorem pathFree_redactText (text : List Char) : PathFree (redactText alnum text) := by
  have hposix := pathFree_posix (sub windowsUser windowsMark text)
  have h192 := @PathFree.address alnum "192.168.".toList "192.168.x.x".toList _ 1
    (forall_mem_of_all (by decide)) ⟨_, rfl⟩ (by decide) hposix
  rw [redactText_eq]
  exact @PathFree.address alnum "10.".toList "10.x.x.x".toList _ 2 (forall_mem_of_all (by decide))
    ⟨_, rfl⟩ (by decide) h192

/-- A text that tells what the patterns see is left without it. -/
theorem Clean.complete {text : List Char} (h : Clean alnum text) : Complete alnum text := by
  intro item hitem
  cases item with
  | windowsPath name => exact absurd hitem (h.windows name)
  | posixPath name =>
    exact pathFree_redactText text _
      ⟨"/users/".toList, name, rfl, forall₂_sameLetter_self _, hitem.1, h.names name hitem⟩
  | address ip =>
    obtain ⟨hip | hip, hoccurs⟩ := hitem
    · have hstands := h.stands hip hoccurs
      obtain hip | hip := hip
      · exact redactText_10 hip hstands
      · exact redactText_192 hip hstands
    · exact absurd hoccurs (h.private172 ip hip)

/-- An item of a text stands in it. -/
theorem Item.InText.within {item : Item} {text : List Char} (h : item.InText text) :
    item.text <:+: text := by
  cases item with
  | windowsPath name => exact h.2.2.2
  | posixPath name => exact h.2.2
  | address ip =>
    obtain ⟨x, y, rfl, -⟩ := h.2
    exact ⟨x, y, List.append_assoc x _ y⟩

/-- No pattern matches anywhere in the text. -/
def Unmatched (alnum : Char → Bool) (text : List Char) : Prop :=
  ∀ prev s, s <:+ text → windowsUser prev s = [] ∧ posixUser prev s = [] ∧
    private192 alnum prev s = [] ∧ private10 alnum prev s = []

theorem Unmatched.redactText {text : List Char} (h : Unmatched alnum text) :
    redactText alnum text = text := by
  have h192 : sub (address alnum "192.168.".toList 1) "192.168.x.x".toList text = text :=
    sub_of_no_match fun prev s hs => (h prev s hs).2.2.1
  have h10 : sub (address alnum "10.".toList 2) "10.x.x.x".toList text = text :=
    sub_of_no_match fun prev s hs => (h prev s hs).2.2.2
  rw [redactText_eq, sub_of_no_match fun prev s hs => (h prev s hs).1,
    sub_of_no_match fun prev s hs => (h prev s hs).2.1, h192, h10]

/-- `redact_text` leaves nothing of a text that tells only what the patterns see; of one in which
they see nothing it leaves everything, so it must tell nothing. -/
theorem redactText_complete (text : List Char) :
    (Clean alnum text → Complete alnum text) ∧
      (Unmatched alnum text → Complete alnum text → Clean alnum text) := by
  refine ⟨Clean.complete, fun hnone hcomplete => ?_⟩
  have hfree : ∀ item : Item, ¬ item.InText text := by
    intro item hitem
    have hleft := hcomplete item hitem
    rw [hnone.redactText] at hleft
    exact hleft hitem.within
  exact ⟨fun name => hfree (.windowsPath name), fun name hname => absurd hname (hfree _),
    fun ip hip hoccurs => hfree (.address ip) ⟨.inr hip, hoccurs⟩,
    fun ip hip hoccurs => absurd ⟨.inl hip, hoccurs⟩ (hfree (.address ip))⟩

/-- A text that is an address of a covered network. -/
theorem IPv4.Covered.clean {ip : IPv4} (h : ip.Covered) : Clean alnum ip.text := by
  have hbackslash : '\\' ∉ ip.text := ip.not_mem (by decide) (by decide)
  have hslash : '/' ∉ ip.text := ip.not_mem (by decide) (by decide)
  refine ⟨?_, ?_, ?_, ?_⟩
  · rintro name ⟨-, -, -, hwithin⟩
    exact hbackslash (hwithin.subset (List.mem_append_left _ (by decide)))
  · rintro name ⟨-, -, hwithin⟩
    exact absurd (hwithin.subset (List.mem_append_left _ (by decide))) hslash
  · intro other hother hoccurs
    obtain ⟨c, t, hbegins, hc⟩ := h.begins
    have htext := IPv4.eq_of_occurs hoccurs
    rw [hbegins, IPv4.text, hother.1] at htext
    have hseven : '7' = c := (List.cons.inj (List.cons.inj htext).2).1
    obtain rfl | rfl := hc
    · exact absurd hseven (by decide)
    · exact absurd hseven (by decide)
  · intro other _ hoccurs x y hs
    have hlen := congrArg List.length hs
    rw [← IPv4.eq_of_occurs hoccurs, List.length_append, List.length_append] at hlen
    obtain rfl : x = [] := List.eq_nil_of_length_eq_zero (by omega)
    obtain rfl : y = [] := List.eq_nil_of_length_eq_zero (by omega)
    refine ⟨⟨by simp, by simp [boundedAfter]⟩, fun path hpath hsuffix => ?_⟩
    obtain ⟨t, ht⟩ := hpath.exists_cons
    rw [ht] at hsuffix
    exact List.cons_ne_nil '/' t (List.suffix_nil.mp hsuffix)

/-- An address alone, and one of the network without a pattern. -/
theorem redactText_complete_alone :
    Complete (fun _ => false) "10.1.2.3".toList ∧ ¬ Complete (fun _ => false) "172.16.0.1".toList := by
  have hnone : Unmatched (fun _ => false) "172.16.0.1".toList := by
    intro prev s hs
    have htails : ∀ s ∈ "172.16.0.1".toList.tails, windowsUser none s = [] ∧ posixUser none s = [] ∧
        seq (literal (fun d c => d == c) "192.168.".toList) (octets 1) s = [] ∧
        seq (literal (fun d c => d == c) "10.".toList) (octets 2) s = [] := by
      decide +kernel
    obtain ⟨hwindows, hposix, h192, h10⟩ := htails s ((List.mem_tails s _).mpr hs)
    exact ⟨hwindows, hposix, address_eq_nil h192 prev, address_eq_nil h10 prev⟩
  have hten : "10.1.2.3".toList = IPv4.text ⟨10, 1, 2, 3⟩ := by decide
  refine ⟨?_, fun h => ?_⟩
  · rw [hten]
    exact (redactText_complete _).1 (IPv4.Covered.clean (by decide))
  · have hclean := (redactText_complete _).2 hnone h
    exact hclean.private172 ⟨172, 16, 0, 1⟩ (by decide) ⟨[], [], by decide, by simp, by simp⟩

/-- A profile written with single backslashes, a name with an s, a network without a pattern, an
address before an underscore and one right behind a path. -/
theorem redactText_leaks :
    ¬ Complete (fun _ => false) "C:\\Users\\bob\\notes".toList ∧
      ¬ Complete (fun _ => false) "/users/alias/notes".toList ∧
      ¬ Complete (fun _ => false) "172.16.0.1".toList ∧
      ¬ Complete (fun _ => false) "10.1.2.3_".toList ∧
      ¬ Complete (fun _ => false) "/users/bob/10.1.2.3".toList := by
  refine ⟨fun h => ?_, fun h => ?_, fun h => ?_, fun h => ?_, fun h => ?_⟩
  · exact h (.windowsPath "bob".toList) ⟨by decide, by decide, by decide, by decide⟩
      (by decide +kernel)
  · exact h (.posixPath "alias".toList) ⟨by decide, by decide, by decide⟩ (by decide +kernel)
  · exact h (.address ⟨172, 16, 0, 1⟩) ⟨.inr (by decide), [], [], by decide, by simp, by simp⟩
      (by decide +kernel)
  · exact h (.address ⟨10, 1, 2, 3⟩) ⟨.inl (by decide), [], ['_'], by decide, by simp, by simp⟩
      (by decide +kernel)
  · exact h (.address ⟨10, 1, 2, 3⟩)
      ⟨.inl (by decide), "/users/bob/".toList, [], by decide, by simp, by simp⟩ (by decide +kernel)

end Privacy
