import NetworkRecovery.Proxy.Parser

/-!
# The entries of a `ProxyServer` string

What the string configures is a list of entries, each a host and a port for a scheme; a bare
`host:port` is one entry for no scheme in particular. `parse_proxy_server` keeps less: whether
SOME entry is local, the first local port, and the last port of each of three schemes, whichever
host it belongs to. `parseProxyServer_reads` says so of every string. The fields named
`http_localhost_port` and `https_localhost_port` are among the last kind: nothing asks whether the
host they come from is local.
-/

namespace ProxyGuard

open Python Python.Regex

/-- A host and a port for a scheme, in lower case. -/
structure Entry where
  scheme : List Char
  host : List Char
  port : Int
  deriving DecidableEq

def Entry.isLocal (e : Entry) : Bool := isLocalHost e.host

/-- The entry of a match of `_PAIR`, if it has a good port. -/
def entryOf (m : List Char × List Char) : Option Entry :=
  (parseHostPortSegment (strip m.2)).map fun (host, port) => ⟨lower m.1, host, port⟩

/-- The entries a string configures. -/
def entriesOf : Option String → List Entry
  | none => []
  | some raw =>
    match findIter pair 0 (strip raw.toList) with
    | [] => ((parseHostPortSegment (strip raw.toList)).map fun (host, port) =>
        Entry.mk [] host port).toList
    | pairs => pairs.filterMap entryOf

/-- The port of the last entry of a scheme. -/
def lastPort (scheme : String) (es : List Entry) : Option Int :=
  (es.findRev? fun e => e.scheme = scheme.toList).map Entry.port

/-- The port of the first local entry. -/
def firstLocalPort (es : List Entry) : Option Int := (es.find? Entry.isLocal).map Entry.port

/-! ## Ports -/

theorem parseHostPortSegment_port {s host : List Char} {port : Int}
    (h : parseHostPortSegment s = some (host, port)) : 1 ≤ port ∧ port ≤ 65535 := by
  unfold parseHostPortSegment at h
  split at h
  · exact absurd h (by simp)
  · split at h
    · split at h
      · split at h
        · rename_i hrange
          cases h
          exact hrange
        · exact absurd h (by simp)
      · exact absurd h (by simp)
    · exact absurd h (by simp)

theorem entryOf_port {m : List Char × List Char} {e : Entry} (h : entryOf m = some e) :
    1 ≤ e.port := by
  obtain ⟨⟨host, port⟩, hsegment, rfl⟩ := Option.map_eq_some_iff.mp h
  exact (parseHostPortSegment_port hsegment).1

/-- An entry is a segment that has been read. -/
theorem segment_of_mem {raw : Option String} {e : Entry} (h : e ∈ entriesOf raw) :
    ∃ segment, parseHostPortSegment segment = some (e.host, e.port) := by
  cases raw with
  | none => exact absurd h List.not_mem_nil
  | some raw =>
    unfold entriesOf at h
    dsimp only at h
    split at h
    · obtain ⟨⟨host, port⟩, hsegment, rfl⟩ := Option.map_eq_some_iff.mp (Option.mem_toList.mp h)
      exact ⟨_, hsegment⟩
    · obtain ⟨m, -, hentry⟩ := List.mem_filterMap.mp h
      obtain ⟨⟨host, port⟩, hsegment, rfl⟩ := Option.map_eq_some_iff.mp hentry
      exact ⟨_, hsegment⟩

/-- Every entry has a port that is true in a condition. -/
theorem one_le_port {raw : Option String} {e : Entry} (h : e ∈ entriesOf raw) : 1 ≤ e.port := by
  obtain ⟨segment, hsegment⟩ := segment_of_mem h
  exact (parseHostPortSegment_port hsegment).1

theorem portOr_eq {a : Option Int} (h : a ≠ some 0) (b : Option Int) : portOr a b = a.or b := by
  cases a with
  | none => rfl
  | some p =>
    have hp : p ≠ 0 := fun hp => h (congrArg some hp)
    simp [portOr, hp]

theorem firstLocalPort_ne_zero {es : List Entry} (hes : ∀ e ∈ es, 1 ≤ e.port) :
    firstLocalPort es ≠ some 0 := by
  intro h
  obtain ⟨e, he, hport⟩ := Option.map_eq_some_iff.mp h
  have := hes e (List.mem_of_find?_eq_some he)
  omega

theorem lastPort_ne_zero {scheme : String} {es : List Entry} (hes : ∀ e ∈ es, 1 ≤ e.port) :
    lastPort scheme es ≠ some 0 := by
  intro h
  obtain ⟨e, he, hport⟩ := Option.map_eq_some_iff.mp h
  have hmem : e ∈ es := by
    rw [List.findRev?_eq_find?_reverse] at he
    exact List.mem_reverse.mp (List.mem_of_find?_eq_some he)
  have := hes e hmem
  omega

/-! ## The loop -/

@[simp] theorem lastPort_nil (scheme : String) : lastPort scheme [] = none := rfl

@[simp] theorem lastPort_append (scheme : String) (es : List Entry) (e : Entry) :
    lastPort scheme (es ++ [e]) =
      if e.scheme = scheme.toList then some e.port else lastPort scheme es := by
  simp only [lastPort, List.findRev?_eq_find?_reverse, List.reverse_append, List.reverse_cons,
    List.reverse_nil, List.nil_append, List.cons_append, List.find?_cons]
  split
  · rename_i h
    simp [of_decide_eq_true h]
  · rename_i h
    simp [of_decide_eq_false h]

theorem firstLocalPort_append (es : List Entry) (e : Entry) :
    firstLocalPort (es ++ [e]) =
      (firstLocalPort es).or (if e.isLocal then some e.port else none) := by
  unfold firstLocalPort
  rw [List.find?_append]
  cases es.find? Entry.isLocal with
  | some e' => rfl
  | none => cases h : e.isLocal <;> simp [h]

/-- What the loop has found behind the entries `es`. -/
def Entries.of (es : List Entry) : Entries where
  socksPort := lastPort "socks" es
  httpLp := lastPort "http" es
  httpsLp := lastPort "https" es
  localhostHost := (es.findRev? Entry.isLocal).map fun e => stripChars ['[', ']'] e.host
  localhostPort := firstLocalPort es
  isLocalhost := es.any Entry.isLocal
  anyOk := !es.isEmpty

/-- One round adds one entry. -/
theorem Entries.add_of {es : List Entry} (hes : ∀ e ∈ es, 1 ≤ e.port)
    (m : List Char × List Char) :
    (Entries.of es).add m = Entries.of (es ++ (entryOf m).toList) := by
  unfold Entries.add entryOf
  cases parseHostPortSegment (strip m.2) with
  | none => simp
  | some hp =>
    obtain ⟨host, port⟩ := hp
    have hports := firstLocalPort_append es ⟨lower m.1, host, port⟩
    have hor := portOr_eq (firstLocalPort_ne_zero hes) (some port)
    by_cases hlocal : isLocalHost host = true <;>
      by_cases hsocks : lower m.1 = "socks".toList <;>
      by_cases hhttp : lower m.1 = "http".toList <;>
      by_cases hhttps : lower m.1 = "https".toList <;>
      simp_all [Entries.of, Entry.isLocal, List.findRev?_eq_find?_reverse]

theorem Entries.foldl_add (pairs : List (List Char × List Char)) {es : List Entry}
    (hes : ∀ e ∈ es, 1 ≤ e.port) :
    pairs.foldl Entries.add (Entries.of es) = Entries.of (es ++ pairs.filterMap entryOf) := by
  induction pairs generalizing es with
  | nil => simp
  | cons m pairs ih =>
    have hnext : ∀ e ∈ es ++ (entryOf m).toList, 1 ≤ e.port := by
      intro e he
      rcases List.mem_append.mp he with he | he
      · exact hes e he
      · exact entryOf_port (Option.mem_toList.mp he)
    rw [List.foldl_cons, add_of hes, ih hnext, List.append_assoc]
    cases h : entryOf m <;> simp [h]

/-! ## What the parser keeps -/

/-- The fields of a parsed string, from its entries. -/
structure Reads (es : List Entry) (parsed : ParsedProxy) : Prop where
  isLocalhostProxy : parsed.isLocalhostProxy = es.any Entry.isLocal
  localhostPort : es.any Entry.isLocal = true → parsed.localhostPort = firstLocalPort es
  httpsLocalhostPort : parsed.httpsLocalhostPort = lastPort "https" es
  httpLocalhostPort : parsed.httpLocalhostPort = lastPort "http" es
  socksPort : parsed.socksPort = lastPort "socks" es
  proxyMode : es.any Entry.isLocal = true → (parsed.proxyMode = .socksLocalhost ↔
    lastPort "https" es = none ∧ lastPort "http" es = none ∧ lastPort "socks" es ≠ none)

theorem firstLocalPort_isSome {es : List Entry} (h : es.any Entry.isLocal = true) :
    ∃ p, firstLocalPort es = some p := by
  obtain ⟨e, he, hlocal⟩ := List.any_eq_true.mp h
  cases hfind : es.find? Entry.isLocal with
  | none => exact absurd hlocal (by simpa using List.find?_eq_none.mp hfind e he)
  | some e' => exact ⟨e'.port, by rw [firstLocalPort, hfind]; rfl⟩

theorem modeFromParts_socks (raw : Option String) {port : Option Int} (hport : port ≠ none)
    (socks http https : Option Int) :
    modeFromParts raw false false true port socks http https = .socksLocalhost ↔
      https = none ∧ http = none ∧ socks ≠ none := by
  obtain ⟨p, rfl⟩ := Option.ne_none_iff_exists'.mp hport
  cases https <;> cases http <;> cases socks <;> simp [modeFromParts]

theorem reads_nil {parsed : ParsedProxy} (hlocal : parsed.isLocalhostProxy = false)
    (hports : parsed.httpsLocalhostPort = none ∧ parsed.httpLocalhostPort = none ∧
      parsed.socksPort = none) : Reads [] parsed where
  isLocalhostProxy := hlocal
  localhostPort := fun h => absurd h (by simp)
  httpsLocalhostPort := hports.1
  httpLocalhostPort := hports.2.1
  socksPort := hports.2.2
  proxyMode := fun h => absurd h (by simp)

theorem reads_entries {es : List Entry} (hes : ∀ e ∈ es, 1 ≤ e.port) (raw : String) :
    Reads es ((Entries.of es).parsed raw) := by
  cases es with
  | nil => exact reads_nil rfl ⟨rfl, rfl, rfl⟩
  | cons e es =>
    have hprimary : (e :: es).any Entry.isLocal = true →
        portOr (portOr (portOr (firstLocalPort (e :: es)) (lastPort "https" (e :: es)))
          (lastPort "http" (e :: es))) (lastPort "socks" (e :: es)) =
        firstLocalPort (e :: es) := by
      intro hlocal
      have hne := firstLocalPort_ne_zero hes
      obtain ⟨p, hp⟩ := firstLocalPort_isSome hlocal
      rw [hp] at hne ⊢
      rw [portOr_eq hne, Option.some_or, portOr_eq hne, Option.some_or, portOr_eq hne,
        Option.some_or]
    have hok : (!(Entries.of (e :: es)).anyOk) = false := rfl
    unfold Entries.parsed
    rw [hok, if_neg Bool.false_ne_true]
    unfold Entries.of
    constructor
    · rfl
    · intro hlocal
      dsimp only
      rw [if_pos hlocal]
      exact hprimary hlocal
    · rfl
    · rfl
    · rfl
    · intro hlocal
      obtain ⟨p, hp⟩ := firstLocalPort_isSome hlocal
      have hport := (hprimary hlocal).trans hp
      dsimp only
      rw [hlocal, hport]
      exact modeFromParts_socks (some raw) (Option.some_ne_none p) _ _ _

theorem reads_bare (raw : String) (host : List Char) (port : Int) :
    Reads [⟨[], host, port⟩] (parsedBare raw host port) := by
  have hnone : ∀ scheme : String, scheme.toList ≠ [] → lastPort scheme [⟨[], host, port⟩] = none := by
    intro scheme hscheme
    simp [lastPort, List.findRev?, Ne.symm hscheme]
  have hhttps := hnone "https" (by decide)
  have hhttp := hnone "http" (by decide)
  have hsocks := hnone "socks" (by decide)
  refine ⟨?_, fun hlocal => ?_, hhttps.symm, hhttp.symm, hsocks.symm, fun hlocal => ?_⟩
  · simp [parsedBare, Entry.isLocal]
  · have hhost : Entry.isLocal ⟨[], host, port⟩ = true := by simpa using hlocal
    simp [parsedBare, firstLocalPort, hhost]
  · have hhost : isLocalHost host = true := by simpa [Entry.isLocal] using hlocal
    unfold parsedBare
    dsimp only
    rw [hhttps, hhttp, hsocks, hhost]
    exact modeFromParts_socks (some raw) (Option.some_ne_none port) none none none

/-- What `parse_proxy_server` keeps of any string. -/
theorem parseProxyServer_reads (raw : Option String) :
    Reads (entriesOf raw) (parseProxyServer raw) := by
  cases raw with
  | none => exact reads_nil rfl ⟨rfl, rfl, rfl⟩
  | some raw =>
    unfold entriesOf parseProxyServer
    dsimp only
    cases htext : strip raw.toList with
    | nil => exact reads_nil rfl ⟨rfl, rfl, rfl⟩
    | cons c cs =>
      dsimp only
      cases hpairs : findIter pair 0 (c :: cs) with
      | nil =>
        dsimp only
        cases hbare : parseHostPortSegment (c :: cs) with
        | none => exact reads_nil rfl ⟨rfl, rfl, rfl⟩
        | some hp => exact reads_bare raw hp.1 hp.2
      | cons m pairs =>
        have hfold := Entries.foldl_add (m :: pairs) (fun e he => absurd he (List.not_mem_nil (a := e)))
        dsimp only
        rw [show ({} : Entries) = Entries.of [] from rfl, hfold, List.nil_append]
        refine reads_entries (fun e he => ?_) raw
        obtain ⟨m', -, hm'⟩ := List.mem_filterMap.mp he
        exact entryOf_port hm'

end ProxyGuard
