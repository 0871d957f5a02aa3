import NetworkRecovery.Proxy.Entries

/-!
# What a local proxy is

Repairs rest on two answers of `parse_proxy_server`: whether a proxy is local, and where it listens.

A host is local for the parser when, brackets off, it is `localhost` or `::1`, or BEGINS with
`127.`; a name such as `127.evil.example` does too. `loopback_sound_iff` says for which strings the
answer can be trusted. And the endpoint it gives is put together: the host of the last local entry
with the port of the first one, or the port of a bare remote proxy without any host
(`endpoint_coherent_iff`).
-/

namespace ProxyGuard

open Python Python.Regex

/-! ## Loopback hosts -/

/-- An octet of a dotted quad. -/
def isOctet (s : List Char) : Bool :=
  1 ≤ s.length && s.length ≤ 3 && s.all Char.isDigit &&
    (intOfText s).any fun n => n ≤ 255

/-- A dotted quad in 127.0.0.0/8. -/
def isLoopbackAddress (host : List Char) : Bool :=
  match host.splitOn '.' with
  | [net, a, b, c] => net == "127".toList && isOctet a && isOctet b && isOctet c
  | _ => false

/-- `localhost`, `::1` in brackets or without, or an address of the loopback net. -/
def isLoopback (host : List Char) : Bool :=
  lower host == "localhost".toList || host == "::1".toList || host == "[::1]".toList ||
    isLoopbackAddress host

/-- A host that is taken for local and is no loopback host: brackets off and in lower case it
begins with `127.` and is no address, or it is a loopback host that the brackets do not belong to. -/
def Poses (host : List Char) : Prop :=
  isLoopback host = false ∧
    let bare := lower (stripChars ['[', ']'] host)
    "127.".toList <+: bare ∨ bare = "localhost".toList ∨ bare = "::1".toList

instance (host : List Char) : Decidable (Poses host) := by unfold Poses; infer_instance

/-! ## Entries in the text -/

/-- The entry stands in the text: as the whole of it, or behind `scheme=`, up to the next semicolon
or the end. -/
inductive StandsIn (text : List Char) (e : Entry) : Prop
  | whole {digits : List Char} (text_eq : text = e.host ++ ':' :: digits)
      (port : intOfText digits = some e.port)
  | segment {front scheme gap gap' rest back digits : List Char}
      (text_eq : text = front ++ scheme ++ gap ++ '=' :: (gap' ++ rest) ++ back)
      (letters : scheme ≠ [] ∧ ∀ c ∈ scheme, isLetter c = true) (lowered : e.scheme = lower scheme)
      (spaces : ∀ c ∈ gap ++ gap', isSpace c = true) (inside : ';' ∉ rest)
      (ends : ∀ c ∈ back.head?, c = ';') (rest_eq : strip rest = e.host ++ ':' :: digits)
      (port : intOfText digits = some e.port)

theorem strip_getLast {s : List Char} (h : strip s ≠ []) :
    isSpace ((strip s).getLast h) = false := by
  have hlast := List.rdropWhile_last_not isSpace (lstrip s) h
  exact Bool.eq_false_iff.mpr hlast

theorem isSpace_of_isAddressChar {c : Char} (h : isAddressChar c = true) : isSpace c = false := by
  have hrange : 0x2E ≤ c.toNat ∧ c.toNat ≤ 0x66 := by
    simp only [isAddressChar, Bool.or_eq_true, Bool.and_eq_true, decide_eq_true_eq, beq_iff_eq,
      Char.le_def, UInt32.le_iff_toNat_le] at h
    rcases h with (((⟨hlow, hhigh⟩ | ⟨hlow, hhigh⟩) | ⟨hlow, hhigh⟩) | rfl) | rfl
    · exact ⟨Nat.le_trans (by decide) hlow, Nat.le_trans hhigh (by decide)⟩
    · exact ⟨Nat.le_trans (by decide) hlow, Nat.le_trans hhigh (by decide)⟩
    · exact ⟨Nat.le_trans (by decide) hlow, Nat.le_trans hhigh (by decide)⟩
    · decide
    · decide
  simp only [isSpace, Bool.or_eq_false_iff, Bool.and_eq_false_iff, decide_eq_false_iff_not,
    beq_eq_false_iff_ne]
  omega

/-- The host of a match is a beginning of the text, without white space. -/
theorem mem_hostPattern {s : List Char} {m : List Char × List Char} (h : m ∈ hostPattern s) :
    s = m.1 ++ m.2 ∧ ∀ c ∈ m.1, isSpace c = false := by
  rcases List.mem_append.mp h with h | h
  · obtain ⟨-, hall, heq⟩ := mem_many1 h
    refine ⟨heq, fun c hc => ?_⟩
    have hchar := hall c hc
    rw [isHostChar, Bool.and_eq_true] at hchar
    simpa using hchar.1
  · obtain ⟨⟨opening, s₁⟩, h₁, h⟩ := List.mem_flatMap.mp h
    obtain ⟨⟨address, s₂⟩, h₂, h⟩ := List.mem_flatMap.mp h
    obtain ⟨⟨closing, s₃⟩, h₃, heq⟩ := List.mem_map.mp h
    obtain ⟨-, haddress, rfl⟩ := mem_many1 h₂
    obtain ⟨rfl, rfl⟩ := mem_char h₁
    obtain ⟨rfl, rfl⟩ := mem_char h₃
    subst heq
    refine ⟨by simp, fun c hc => ?_⟩
    simp only [List.mem_append, List.mem_singleton] at hc
    rcases hc with (rfl | hc) | rfl
    · decide
    · exact isSpace_of_isAddressChar (haddress c hc)
    · decide

/-- A match of `_HOST_PORT` is the text, but for a line feed at its end. -/
theorem mem_hostPort {s host digits : List Char} (h : (host, some digits) ∈ hostPort s) :
    (∃ rest, s = host ++ ':' :: (digits ++ rest) ∧ atEnd rest = true) ∧
      ∀ c ∈ host, isSpace c = false := by
  unfold hostPort at h
  obtain ⟨⟨host', s'⟩, hhost, hport⟩ := List.mem_flatMap.mp h
  obtain ⟨htext, hspace⟩ := mem_hostPattern hhost
  obtain ⟨port, hport, heq⟩ := List.mem_map.mp hport
  obtain ⟨rfl, rfl⟩ := Prod.mk.inj heq
  rcases List.mem_append.mp hport with hport | hport
  · obtain ⟨⟨colon, s₁⟩, h₁, hport⟩ := List.mem_flatMap.mp hport
    obtain ⟨⟨port, rest⟩, h₂, hport⟩ := List.mem_flatMap.mp hport
    dsimp only at hport
    split at hport
    · next hend =>
      obtain rfl := Option.some.inj (List.mem_singleton.mp hport)
      refine ⟨⟨rest, ?_, hend⟩, hspace⟩
      rw [htext, (mem_char h₁).2, (mem_char h₁).1, (mem_oneUpTo h₂).2.2.2]
      rfl
    · exact absurd hport List.not_mem_nil
  · split at hport
    · exact absurd (List.mem_singleton.mp hport) (by simp)
    · exact absurd hport List.not_mem_nil

/-- A segment that is read is a host, a colon and the digits of its port. -/
theorem parseHostPortSegment_eq {s host : List Char} {port : Int}
    (h : parseHostPortSegment s = some (host, port)) :
    (∃ digits, strip s = host ++ ':' :: digits ∧ intOfText digits = some port) ∧
      ∀ c ∈ host, isSpace c = false := by
  unfold parseHostPortSegment at h
  split at h
  · cases h
  · next hne =>
    split at h
    · next hmatch =>
      split at h
      · next hint =>
        split at h
        · cases h
          obtain ⟨⟨rest, htext, hend⟩, hspace⟩ := mem_hostPort (List.mem_of_mem_head? hmatch)
          refine ⟨⟨_, ?_, hint⟩, hspace⟩
          -- the text is stripped, so that no line feed ends it
          have hrest : rest = [] := by
            unfold atEnd at hend
            rw [Bool.or_eq_true, decide_eq_true_eq, decide_eq_true_eq] at hend
            rcases hend with hend | hend
            · exact hend
            · have hlast := strip_getLast hne
              have hfeed : (strip s).getLast hne = '\n' := by
                simp only [htext, hend, ← List.cons_append, ← List.append_assoc,
                  List.getLast_concat]
              rw [hfeed] at hlast
              cases hlast
          rw [htext, hrest, List.append_nil]
        · cases h
      · cases h
    · cases h

/-- What `_PAIR` matches: a scheme, and what stands behind it up to a semicolon. -/
theorem head?_pair {t rest' : List Char} {m : List Char × List Char}
    (h : (pair t).head? = some (m, rest')) :
    ∃ gap gap', t = m.1 ++ gap ++ '=' :: (gap' ++ m.2) ++ rest' ∧
      (m.1 ≠ [] ∧ ∀ c ∈ m.1, isLetter c = true) ∧ (∀ c ∈ gap ++ gap', isSpace c = true) ∧
      ';' ∉ m.2 ∧ ∀ c ∈ rest'.head?, c = ';' := by
  unfold pair at h
  obtain ⟨⟨scheme, s₁⟩, h₁, h⟩ := exists_of_head?_flatMap h
  obtain ⟨⟨gap, s₂⟩, h₂, h⟩ := exists_of_head?_flatMap h
  obtain ⟨⟨equals, s₃⟩, h₃, h⟩ := exists_of_head?_flatMap h
  obtain ⟨⟨gap', s₄⟩, h₄, h⟩ := exists_of_head?_flatMap h
  rw [List.head?_map] at h
  obtain ⟨⟨rest, s₅⟩, h₅, heq⟩ := Option.map_eq_some_iff.mp h
  cases heq
  obtain ⟨hne, hletters, rfl⟩ := mem_many1 h₁
  obtain ⟨hgap, rfl⟩ := mem_many h₂
  obtain ⟨rfl, rfl⟩ := mem_char h₃
  obtain ⟨hgap', rfl⟩ := mem_many h₄
  obtain ⟨-, hrest, rfl⟩ := mem_many1 (List.mem_of_mem_head? h₅)
  refine ⟨gap, gap', by simp, ⟨hne, hletters⟩, ?_, ?_, ?_⟩
  · intro c hc
    rcases List.mem_append.mp hc with hc | hc
    · exact hgap c hc
    · exact hgap' c hc
  · intro hmem
    have hsemicolon := hrest _ hmem
    cases hsemicolon
  · intro c hc
    simpa using head?_many1 h₅ c hc

/-- Every entry that the parser finds stands in the text. -/
theorem standsIn_of_mem {raw : String} {e : Entry} (h : e ∈ entriesOf (some raw)) :
    StandsIn (strip raw.toList) e := by
  unfold entriesOf at h
  dsimp only at h
  split at h
  · obtain ⟨⟨host, port⟩, hsegment, rfl⟩ := Option.map_eq_some_iff.mp (Option.mem_toList.mp h)
    obtain ⟨⟨digits, htext, hport⟩, -⟩ := parseHostPortSegment_eq hsegment
    rw [strip_strip] at htext
    exact .whole htext hport
  · obtain ⟨m, hm, hentry⟩ := List.mem_filterMap.mp h
    obtain ⟨⟨host, port⟩, hsegment, rfl⟩ := Option.map_eq_some_iff.mp hentry
    obtain ⟨⟨digits, hrest, hport⟩, -⟩ := parseHostPortSegment_eq hsegment
    rw [strip_strip] at hrest
    obtain ⟨t, rest', ⟨front, hfront⟩, hmatch⟩ := mem_findIter hm
    obtain ⟨gap, gap', ht, hletters, hspaces, hinside, hends⟩ := head?_pair hmatch
    have htext : strip raw.toList = front ++ m.1 ++ gap ++ '=' :: (gap' ++ m.2) ++ rest' := by
      rw [← hfront, ht]
      simp
    exact .segment htext hletters rfl hspaces hinside hends hrest hport

/-! ## Which hosts are taken for local -/

theorem isLocalHost_iff {host : List Char} (hspace : ∀ c ∈ host, isSpace c = false) :
    isLocalHost host = true ↔ "127.".toList <+: lower (stripChars ['[', ']'] host) ∨
      lower (stripChars ['[', ']'] host) = "localhost".toList ∨
      lower (stripChars ['[', ']'] host) = "::1".toList := by
  unfold isLocalHost
  rw [strip_of_noSpace hspace]
  simp only [Bool.or_eq_true, beq_iff_eq, List.isPrefixOf_iff_prefix]
  constructor
  · rintro (((h | h) | h) | h)
    · rw [h]
      exact .inl (by decide)
    · exact .inr (.inl h)
    · exact .inr (.inr h)
    · exact .inl h
  · rintro (h | h | h)
    · exact .inr h
    · exact .inl (.inl (.inr h))
    · exact .inl (.inr h)

theorem noSpace_of_mem {raw : Option String} {e : Entry} (h : e ∈ entriesOf raw) :
    ∀ c ∈ e.host, isSpace c = false := by
  obtain ⟨segment, hsegment⟩ := segment_of_mem h
  exact (parseHostPortSegment_eq hsegment).2

/-- An entry that is taken for local has a loopback host, or poses as one. -/
theorem isLoopback_or_poses {raw : Option String} {e : Entry} (h : e ∈ entriesOf raw)
    (hlocal : e.isLocal = true) : isLoopback e.host = true ∨ Poses e.host := by
  cases hloop : isLoopback e.host with
  | true => exact .inl rfl
  | false => exact .inr ⟨hloop, (isLocalHost_iff (noSpace_of_mem h)).mp hlocal⟩

/-- A string that the parser takes for a local proxy has an entry with a loopback host. -/
def LoopbackSound (s : String) : Prop :=
  (parseProxyServer (some s)).isLocalhostProxy = true →
    ∃ e ∈ entriesOf (some s), StandsIn (strip s.toList) e ∧ isLoopback e.host = true

/-- The answer can be trusted exactly when no host poses as a loopback host, or another one is
one. -/
theorem loopback_sound_iff (s : String) :
    LoopbackSound s ↔ (∀ e ∈ entriesOf (some s), ¬ Poses e.host) ∨
      ∃ e ∈ entriesOf (some s), isLoopback e.host = true := by
  unfold LoopbackSound
  rw [(parseProxyServer_reads (some s)).isLocalhostProxy, List.any_eq_true]
  constructor
  · intro hsound
    by_cases hlocal : ∃ e ∈ entriesOf (some s), e.isLocal = true
    · obtain ⟨e, he, -, hloop⟩ := hsound hlocal
      exact .inr ⟨e, he, hloop⟩
    · refine .inl fun e he hposes => hlocal ⟨e, he, ?_⟩
      exact (isLocalHost_iff (noSpace_of_mem he)).mpr hposes.2
  · rintro (hnone | ⟨e, he, hloop⟩) hlocal
    · obtain ⟨e, he, hlocal⟩ := hlocal
      rcases isLoopback_or_poses he hlocal with hloop | hposes
      · exact ⟨e, he, standsIn_of_mem he, hloop⟩
      · exact absurd hposes (hnone e he)
    · exact ⟨e, he, standsIn_of_mem he, hloop⟩

/-- A name that begins like an address of the loopback net. -/
theorem posing_name_is_local : ¬ LoopbackSound "127.evil.example:8080" := by
  intro hsound
  obtain ⟨e, he, -, hloop⟩ := hsound (by decide +kernel)
  have hentries : ∀ e ∈ entriesOf (some "127.evil.example:8080"), isLoopback e.host = false := by
    decide +kernel
  rw [hentries e he] at hloop
  cases hloop

/-! ## The endpoint -/

/-- A host without its brackets. -/
def Entry.bareHost (e : Entry) : List Char := stripChars ['[', ']'] e.host

/-- The host of a local proxy is that of the last local entry. -/
theorem parseProxyServer_localhostHost (raw : Option String) :
    (parseProxyServer raw).localhostHost =
      ((entriesOf raw).findRev? Entry.isLocal).map fun e => .ofList e.bareHost := by
  cases raw with
  | none => rfl
  | some raw =>
    unfold entriesOf parseProxyServer
    dsimp only
    cases htext : strip raw.toList with
    | nil => rfl
    | cons c cs =>
      dsimp only
      cases hpairs : findIter pair 0 (c :: cs) with
      | nil =>
        dsimp only
        cases hbare : parseHostPortSegment (c :: cs) with
        | none => rfl
        | some hp =>
          obtain ⟨host, port⟩ := hp
          cases hlocal : isLocalHost host <;>
            simp [parsedBare, Entry.isLocal, Entry.bareHost, hlocal]
      | cons m pairs =>
        have hfold := Entries.foldl_add (m :: pairs) (fun e he => absurd he (List.not_mem_nil (a := e)))
        dsimp only
        rw [show ({} : Entries) = Entries.of [] from rfl, hfold, List.nil_append]
        cases (m :: pairs).filterMap entryOf with
        | nil => rfl
        | cons e es =>
          unfold Entries.parsed Entries.of
          dsimp only
          rw [List.isEmpty_cons, Bool.not_false, Bool.not_true, if_neg Bool.false_ne_true,
            Option.map_map]
          rfl

/-- One local entry has the host of the last one and the port of the first one. -/
def OneEndpoint (es : List Entry) : Prop :=
  ∀ first ∈ es.find? Entry.isLocal, ∀ last ∈ es.findRev? Entry.isLocal,
    ∃ e ∈ es, e.bareHost = last.bareHost ∧ e.port = first.port

theorem findRev?_isSome {es : List Entry} (h : es.any Entry.isLocal = true) :
    ∃ e, es.findRev? Entry.isLocal = some e := by
  rw [List.findRev?_eq_find?_reverse]
  apply Option.isSome_iff_exists.mp
  rw [List.find?_isSome]
  obtain ⟨e, he, hlocal⟩ := List.any_eq_true.mp h
  exact ⟨e, List.mem_reverse.mpr he, hlocal⟩

theorem ofList_inj {s t : List Char} : String.ofList s = String.ofList t ↔ s = t := by
  constructor
  · intro h
    simpa using congrArg String.toList h
  · rintro rfl
    rfl

/-- There is a `localhost_port` for a local proxy only, and it goes with the host. -/
structure EndpointCoherent (s : String) : Prop where
  port_iff : (parseProxyServer (some s)).localhostPort ≠ none ↔
    (parseProxyServer (some s)).isLocalhostProxy = true
  entry : (parseProxyServer (some s)).isLocalhostProxy = true →
    ∃ e ∈ entriesOf (some s), StandsIn (strip s.toList) e ∧
      (parseProxyServer (some s)).localhostHost = some (.ofList e.bareHost) ∧
      (parseProxyServer (some s)).localhostPort = some e.port

/-- Of a proxy that is not local, the port is the only thing that may not belong. -/
theorem endpointCoherent_of_remote {s : String}
    (hlocal : (parseProxyServer (some s)).isLocalhostProxy = false) :
    EndpointCoherent s ↔ ¬ BareRemote (some s) := by
  have hport := localhostPort_of_not_localhost hlocal
  constructor
  · intro hcoherent hremote
    have hsome := Option.ne_none_iff_isSome.mpr (hport.mpr hremote)
    rw [hcoherent.port_iff.mp hsome] at hlocal
    cases hlocal
  · intro hremote
    have hnoPort : (parseProxyServer (some s)).localhostPort = none := by
      by_contra hsome
      exact hremote (hport.mp (Option.ne_none_iff_isSome.mp hsome))
    refine ⟨?_, fun h => ?_⟩
    · rw [hnoPort, hlocal]
      simp
    · rw [hlocal] at h
      cases h

/-- Of a local proxy, the host is that of the last local entry and the port that of the first. -/
theorem endpointCoherent_of_local {s : String}
    (hlocal : (parseProxyServer (some s)).isLocalhostProxy = true) :
    EndpointCoherent s ↔ OneEndpoint (entriesOf (some s)) := by
  have hreads := parseProxyServer_reads (some s)
  have hhost := parseProxyServer_localhostHost (some s)
  have hany : (entriesOf (some s)).any Entry.isLocal = true :=
    hreads.isLocalhostProxy.symm.trans hlocal
  obtain ⟨last, hlast⟩ := findRev?_isSome hany
  obtain ⟨port, hfirstPort⟩ := firstLocalPort_isSome hany
  have hport := (hreads.localhostPort hany).trans hfirstPort
  obtain ⟨first, hfirst, rfl⟩ := Option.map_eq_some_iff.mp hfirstPort
  rw [hlast, Option.map_some] at hhost
  constructor
  · intro hcoherent first' hfirst' last' hlast'
    obtain ⟨e, he, -, hbare, hp⟩ := hcoherent.entry hlocal
    rw [hhost, Option.some.injEq, ofList_inj] at hbare
    rw [hport, Option.some.injEq] at hp
    obtain rfl := Option.some.inj (hfirst.symm.trans hfirst')
    obtain rfl := Option.some.inj (hlast.symm.trans hlast')
    exact ⟨e, he, hbare.symm, hp.symm⟩
  · intro hone
    obtain ⟨e, he, hbare, hp⟩ := hone first hfirst last hlast
    refine ⟨?_, fun _ => ⟨e, he, standsIn_of_mem he, ?_, ?_⟩⟩
    · rw [hport, hlocal]
      simp
    · rw [hhost, hbare]
    · rw [hport, hp]

/-- Port and host belong together exactly when the string is no bare remote `host:port` and one
entry has the host of the last local entry and the port of the first one. -/
theorem endpoint_coherent_iff (s : String) :
    EndpointCoherent s ↔ ¬ BareRemote (some s) ∧ OneEndpoint (entriesOf (some s)) := by
  cases hlocal : (parseProxyServer (some s)).isLocalhostProxy with
  | false =>
    have hnone : (entriesOf (some s)).any Entry.isLocal = false :=
      (parseProxyServer_reads (some s)).isLocalhostProxy.symm.trans hlocal
    have hone : OneEndpoint (entriesOf (some s)) := by
      intro first hfirst
      exact absurd (List.find?_some hfirst)
        (List.any_eq_false.mp hnone first (List.mem_of_find?_eq_some hfirst))
    rw [endpointCoherent_of_remote hlocal, and_iff_left hone]
  | true =>
    have hremote : ¬ BareRemote (some s) := by
      intro hremote
      rw [hremote.not_localhost] at hlocal
      cases hlocal
    rw [endpointCoherent_of_local hlocal, and_iff_right hremote]

/-- A bare remote proxy has a `localhost_port`. -/
theorem remote_port_shown : ¬ EndpointCoherent "10.0.0.5:8080" := by
  intro hcoherent
  have hlocal := hcoherent.port_iff.mp (by decide +kernel)
  exact absurd hlocal (by decide +kernel)

/-- Host and port of two entries. -/
example : ¬ OneEndpoint (entriesOf (some "http=127.0.0.1:80;https=localhost:81")) := by
  intro hone
  obtain ⟨e, he, hbare, hport⟩ := hone ⟨"http".toList, "127.0.0.1".toList, 80⟩ (by decide +kernel)
    ⟨"https".toList, "localhost".toList, 81⟩ (by decide +kernel)
  have hentries : ∀ e ∈ entriesOf (some "http=127.0.0.1:80;https=localhost:81"),
      e.bareHost = "localhost".toList → e.port ≠ 80 := by
    decide +kernel
  exact hentries e he hbare hport

end ProxyGuard
