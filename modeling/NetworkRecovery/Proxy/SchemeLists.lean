import NetworkRecovery.Proxy.Entries

/-!
# Scheme lists are read back

A list of entries is written `scheme=host:port;scheme=host:port;…`. `parse_proxy_server` finds the
entries again, as many as were written and in their order (`findIter_joined`), so that the last one
of a scheme decides its port and any one of them makes the proxy local (`roundTrips_of_whole`).

The patterns want a scheme and a host that are there: an entry without one is dropped, and a list
that holds nothing else is malformed or is taken for a bare `host:port`.
-/

namespace ProxyGuard

open Python Python.Regex

/-- An entry as somebody writes it. -/
structure Written where
  scheme : List Char
  host : List Char
  port : Nat
  deriving DecidableEq

/-- `host:port`. -/
def Written.address (e : Written) : List Char := e.host ++ ':' :: natText e.port

/-- `scheme=host:port`. -/
def Written.text (e : Written) : List Char := e.scheme ++ '=' :: e.address

/-- The entries with `;` between them. -/
def joined (es : List Written) : List Char := [';'].intercalate (es.map Written.text)

/-- The entry the parser should find. -/
def Written.entry (e : Written) : Entry := ⟨lower e.scheme, e.host, e.port⟩

/-- Nothing in the entry can break its text. -/
structure Written.Plain (e : Written) : Prop where
  letters : ∀ c ∈ e.scheme, isLetter c = true
  host : ∀ c ∈ e.host, isSpace c = false ∧ c ≠ ':' ∧ c ≠ ';' ∧ c ≠ '='
  port : 1 ≤ e.port ∧ e.port ≤ 65535

/-- The tests that decide it. -/
theorem Written.plain_of_all {e : Written} (hletters : e.scheme.all isLetter = true)
    (hhost : e.host.all (fun c => !isSpace c && c != ':' && c != ';' && c != '=') = true)
    (hport : 1 ≤ e.port ∧ e.port ≤ 65535) : e.Plain := by
  refine ⟨List.all_eq_true.mp hletters, fun c hc => ?_, hport⟩
  simpa [and_assoc] using List.all_eq_true.mp hhost c hc

/-- The entry has a scheme and a host. -/
structure Written.Whole (e : Written) : Prop extends e.Plain where
  scheme_ne_nil : e.scheme ≠ []
  host_ne_nil : e.host ≠ []

/-- The parser reads the list back. -/
structure RoundTrips (es : List Written) (parsed : ParsedProxy) : Prop where
  isMalformed : parsed.isMalformed = false
  httpLocalhostPort : parsed.httpLocalhostPort = lastPort "http" (es.map Written.entry)
  httpsLocalhostPort : parsed.httpsLocalhostPort = lastPort "https" (es.map Written.entry)
  socksPort : parsed.socksPort = lastPort "socks" (es.map Written.entry)
  isLocalhostProxy : parsed.isLocalhostProxy = true ↔ ∃ e ∈ es, isLocalHost e.host = true

/-! ## One entry -/

theorem isLetter_equals : isLetter '=' = false := rfl

theorem isSpace_of_isLetter {c : Char} (h : isLetter c = true) : isSpace c = false := by
  have hrange : 0x41 ≤ c.toNat ∧ c.toNat ≤ 0x7A := by
    simp only [isLetter, Bool.or_eq_true, Bool.and_eq_true, decide_eq_true_eq, Char.le_def,
      UInt32.le_iff_toNat_le] at h
    rcases h with ⟨hlow, hhigh⟩ | ⟨hlow, hhigh⟩
    · exact ⟨Nat.le_trans (by decide) hlow, hhigh⟩
    · exact ⟨hlow, Nat.le_trans hhigh (by decide)⟩
  simp only [isSpace, Bool.or_eq_false_iff, Bool.and_eq_false_iff, decide_eq_false_iff_not,
    beq_eq_false_iff_ne]
  omega

/-- The space before a text that does not begin with one. -/
theorem many_isSpace {c : Char} (h : isSpace c = false) (cs : List Char) :
    many isSpace (c :: cs) = [([], c :: cs)] := by
  rw [many, if_neg (Bool.eq_false_iff.mp h)]

/-- `_PAIR` matches a scheme and what stands behind it up to a semicolon. -/
theorem head?_pair_append {scheme body rest : List Char} (hne : scheme ≠ [])
    (hletters : ∀ c ∈ scheme, isLetter c = true) (hbody : body ≠ [])
    (hspace : ∀ c ∈ body, isSpace c = false) (hinside : ∀ c ∈ body, c ≠ ';')
    (hrest : ∀ c ∈ rest.head?, c = ';') :
    (pair (scheme ++ '=' :: body ++ rest)).head? = some ((scheme, body), rest) := by
  obtain ⟨c, cs, rfl⟩ := List.exists_cons_of_ne_nil hne
  obtain ⟨d, ds, rfl⟩ := List.exists_cons_of_ne_nil hbody
  have hbehind : (many1 (· != ';') (d :: ds ++ rest)).head? = some (d :: ds, rest) :=
    head?_many1_append hbody (fun c hc => bne_iff_ne.mpr (hinside c hc))
      fun c hc => by rw [hrest c hc]; rfl
  have htake : (c :: cs ++ '=' :: (d :: ds ++ rest)).takeWhile isLetter = c :: cs := by
    rw [List.takeWhile_append_of_pos hletters]
    simp [isLetter_equals]
  have hdrop : (c :: cs ++ '=' :: (d :: ds ++ rest)).dropWhile isLetter =
      '=' :: (d :: ds ++ rest) := by
    rw [List.dropWhile_append_of_pos hletters]
    simp [isLetter_equals]
  rw [List.append_assoc, List.cons_append]
  unfold pair
  rw [List.cons_append, flatMap_many1 ?_ (hletters c List.mem_cons_self), ← List.cons_append,
    htake, hdrop]
  · dsimp only
    rw [many_isSpace (by decide), List.flatMap_singleton]
    dsimp only
    rw [char, if_pos rfl, List.flatMap_singleton]
    dsimp only
    rw [List.cons_append, many_isSpace (hspace d List.mem_cons_self), List.flatMap_singleton]
    dsimp only
    rw [List.head?_map, ← List.cons_append, hbehind]
    rfl
  · -- fewer letters than there are leave a letter where the pattern wants `=`
    intro taken l ls hl
    have hequals : '=' ≠ l := by
      rintro rfl
      exact absurd hl (by decide)
    dsimp only
    rw [many_isSpace (isSpace_of_isLetter hl), List.flatMap_singleton]
    dsimp only
    rw [char, if_neg hequals.symm]
    rfl

theorem Written.Whole.noSpace {e : Written} (h : e.Whole) :
    ∀ c ∈ e.address, isSpace c = false := by
  intro c hc
  rcases List.mem_append.mp hc with hc | hc
  · exact (h.host c hc).1
  · rcases List.mem_cons.mp hc with rfl | hc
    · decide
    · exact isSpace_of_isDigit (isDigit_natText hc)

theorem Written.Whole.noSemicolon {e : Written} (h : e.Whole) : ∀ c ∈ e.address, c ≠ ';' := by
  intro c hc
  rcases List.mem_append.mp hc with hc | hc
  · exact (h.host c hc).2.2.1
  · rcases List.mem_cons.mp hc with rfl | hc
    · decide
    · rintro rfl
      exact absurd (isDigit_natText hc) (by decide)

theorem Written.address_ne_nil (e : Written) : e.address ≠ [] := by
  simp [Written.address]

/-- The parser finds an entry in its own text. -/
theorem Written.Whole.entryOf_eq {e : Written} (h : e.Whole) :
    entryOf (e.scheme, e.address) = some e.entry := by
  have hhost : ∀ c ∈ e.host, isHostChar c = true := by
    intro c hc
    obtain ⟨hspace, hcolon, -, -⟩ := h.host c hc
    simp [isHostChar, hspace, hcolon]
  have hsegment := parseHostPortSegment_text h.host_ne_nil hhost h.port
  unfold entryOf
  dsimp only
  rw [strip_of_noSpace h.noSpace, Written.address, hsegment]
  rfl

/-- `_PAIR` at the beginning of an entry. -/
theorem Written.Whole.head?_pair {e : Written} (h : e.Whole) {rest : List Char}
    (hrest : ∀ c ∈ rest.head?, c = ';') :
    (pair (e.text ++ rest)).head? = some ((e.scheme, e.address), rest) :=
  head?_pair_append h.scheme_ne_nil h.letters e.address_ne_nil h.noSpace h.noSemicolon hrest

theorem Written.text_ne_nil (e : Written) : e.text ≠ [] := by
  simp [Written.text]

/-! ## The list -/

@[simp] theorem joined_singleton (e : Written) : joined [e] = e.text := by
  simp [joined]

theorem joined_cons (e : Written) {es : List Written} (hne : es ≠ []) :
    joined (e :: es) = e.text ++ ';' :: joined es := by
  obtain ⟨e', es, rfl⟩ := List.exists_cons_of_ne_nil hne
  simp [joined, List.intercalate]

/-- The semicolon begins no entry. -/
theorem pair_semicolon (s : List Char) : pair (';' :: s) = [] := rfl

/-- `finditer` recovers the entries. -/
theorem findIter_joined {es : List Written} (hes : ∀ e ∈ es, e.Whole) (hne : es ≠ []) :
    findIter pair 0 (joined es) = es.map fun e => (e.scheme, e.address) := by
  induction es with
  | nil => exact absurd rfl hne
  | cons e es ih =>
    have he := hes e List.mem_cons_self
    by_cases hlast : es = []
    · subst hlast
      have hhead : (pair (e.text ++ [])).head? = some ((e.scheme, e.address), []) :=
        he.head?_pair (by simp)
      have hfirst := findIter_append e.text_ne_nil hhead
      rw [List.append_nil] at hfirst
      rw [joined_singleton, hfirst]
      rfl
    · have hhead : (pair (e.text ++ ';' :: joined es)).head? =
          some ((e.scheme, e.address), ';' :: joined es) := he.head?_pair (by simp)
      rw [joined_cons e hlast, findIter_append e.text_ne_nil hhead,
        findIter_cons (pair_semicolon (joined es)),
        ih (fun e he => hes e (List.mem_cons_of_mem _ he)) hlast]
      rfl

theorem joined_noSpace {es : List Written} (hes : ∀ e ∈ es, e.Whole) :
    ∀ c ∈ joined es, isSpace c = false := by
  induction es with
  | nil => exact fun c hc => absurd hc List.not_mem_nil
  | cons e es ih =>
    have he := hes e List.mem_cons_self
    have htext : ∀ c ∈ e.text, isSpace c = false := by
      intro c hc
      rcases List.mem_append.mp hc with hc | hc
      · exact isSpace_of_isLetter (he.letters c hc)
      · rcases List.mem_cons.mp hc with rfl | hc
        · decide
        · exact he.noSpace c hc
    by_cases hlast : es = []
    · subst hlast
      rwa [joined_singleton]
    · rw [joined_cons e hlast]
      intro c hc
      rcases List.mem_append.mp hc with hc | hc
      · exact htext c hc
      · rcases List.mem_cons.mp hc with rfl | hc
        · decide
        · exact ih (fun e he => hes e (List.mem_cons_of_mem _ he)) c hc

/-- What the parser makes of the list. -/
theorem parseProxyServer_joined {es : List Written} (hes : ∀ e ∈ es, e.Whole) (hne : es ≠ []) :
    parseProxyServer (some (String.ofList (joined es))) =
      (Entries.of (es.map Written.entry)).parsed (String.ofList (joined es)) := by
  have hstrip : strip (joined es) = joined es := strip_of_noSpace (joined_noSpace hes)
  have hpairs := findIter_joined hes hne
  have hentries : (es.map fun e => (e.scheme, e.address)).filterMap entryOf =
      es.map Written.entry := by
    rw [List.filterMap_map]
    exact List.filterMap_eq_map_iff_forall_eq_some.mpr fun e he => (hes e he).entryOf_eq
  have hfold : (es.map fun e => (e.scheme, e.address)).foldl Entries.add (Entries.of []) =
      Entries.of (es.map Written.entry) := by
    rw [Entries.foldl_add _ fun e he => absurd he List.not_mem_nil, hentries, List.nil_append]
  obtain ⟨e, es, rfl⟩ := List.exists_cons_of_ne_nil hne
  unfold parseProxyServer
  dsimp only
  rw [String.toList_ofList, hstrip]
  split
  · rename_i hnil
    rw [hnil] at hpairs
    exact absurd hpairs (by simp [findIter])
  · rw [hpairs, List.map_cons]
    dsimp only
    rw [← List.map_cons (f := fun e : Written => (e.scheme, e.address)),
      show ({} : Entries) = Entries.of [] from rfl, hfold]

/-- Every list of whole entries is read back. -/
theorem roundTrips_of_whole {es : List Written} (hne : es ≠ []) (hes : ∀ e ∈ es, e.Whole) :
    RoundTrips es (parseProxyServer (some (String.ofList (joined es)))) := by
  have hports : ∀ e ∈ es.map Written.entry, 1 ≤ e.port := by
    intro e he
    obtain ⟨e, hmem, rfl⟩ := List.mem_map.mp he
    exact Int.ofNat_le.mpr (hes e hmem).port.1
  have hreads := reads_entries hports (String.ofList (joined es))
  have hok : (!(Entries.of (es.map Written.entry)).anyOk) = false := by
    obtain ⟨e, es, rfl⟩ := List.exists_cons_of_ne_nil hne
    rfl
  rw [parseProxyServer_joined hes hne]
  refine ⟨?_, hreads.httpLocalhostPort, hreads.httpsLocalhostPort, hreads.socksPort, ?_⟩
  · unfold Entries.parsed
    rw [hok, if_neg Bool.false_ne_true]
  · rw [hreads.isLocalhostProxy, List.any_map, List.any_eq_true]
    rfl

/-- Two schemes, one of them twice and in two spellings. -/
theorem roundTrips_of_whole_thrice :
    let es := [⟨"HTTP".toList, "127.0.0.1".toList, 8080⟩, ⟨"socks".toList, "a.b".toList, 1⟩,
      ⟨"http".toList, "proxy".toList, 65535⟩]
    RoundTrips es (parseProxyServer (some (String.ofList (joined es)))) := by
  refine roundTrips_of_whole (List.cons_ne_nil _ _) fun e he => ?_
  simp only [List.mem_cons, List.not_mem_nil, or_false] at he
  rcases he with rfl | rfl | rfl
  · exact ⟨Written.plain_of_all (by decide) (by decide) (by decide), by decide, by decide⟩
  · exact ⟨Written.plain_of_all (by decide) (by decide) (by decide), by decide, by decide⟩
  · exact ⟨Written.plain_of_all (by decide) (by decide) (by decide), by decide, by decide⟩

/-- A list may be plain and still lose an entry, for want of a host (`http=:80` is malformed) or
of a scheme (`=localhost:80` is a bare proxy at the host `=localhost`). -/
theorem not_roundTrips_of_plain :
    (¬∀ es : List Written, es ≠ [] → (∀ e ∈ es, e.Plain) →
      RoundTrips es (parseProxyServer (some (String.ofList (joined es))))) ∧
    (parseProxyServer (some "http=:80")).isMalformed = true ∧
    (parseProxyServer (some "=localhost:80")).isLocalhostProxy = false := by
  have hhost : (parseProxyServer (some "http=:80")).isMalformed = true := by decide +kernel
  have hscheme : (parseProxyServer (some "=localhost:80")).isLocalhostProxy = false := by
    decide +kernel
  refine ⟨fun h => ?_, hhost, hscheme⟩
  have hround := h [⟨"http".toList, [], 80⟩] (List.cons_ne_nil _ _) fun e he => by
    obtain rfl := List.mem_singleton.mp he
    exact Written.plain_of_all (by decide) (by decide) (by decide)
  rw [show String.ofList (joined [⟨"http".toList, [], 80⟩]) = "http=:80" by decide +kernel] at hround
  rw [hround.isMalformed] at hhost
  exact absurd hhost (by decide)

end ProxyGuard
