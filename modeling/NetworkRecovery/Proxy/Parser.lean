import NetworkRecovery.Python.Number
import NetworkRecovery.Python.Regex
import NetworkRecovery.Python.Text

/-!
# The `ProxyServer` string

`parse_proxy_server` of `proxy_guard/parser.py`. The string is one of

* `host:port`;
* a list `scheme=host:port;scheme=host:port;…`, of which the entries with a
  good port are kept;
* anything else, which is `malformed`.

One field is not what its name says. `localhost_port` is the port of a LOCAL
entry when the string is a list, but the port of whatever host there is when
it is a bare `host:port`; `localhostPort_of_not_localhost` says exactly when
the two readings differ, and whoever keys on the field meets a remote proxy
there.
-/

namespace ProxyGuard

open Python Python.Regex

/-- `ProxyMode` of `core/models.py`. -/
inductive ProxyMode where
  | missing
  | malformed
  | disabledServerField
  | manualLocalhost
  | manualExplicit
  | socksLocalhost
  | httpHttpsLocalhost
  | multiSchemeExplicit
  deriving DecidableEq, Repr

/-- The literal of a mode. -/
def ProxyMode.text : ProxyMode → String
  | .missing => "missing"
  | .malformed => "malformed"
  | .disabledServerField => "disabled_server_field"
  | .manualLocalhost => "manual_localhost"
  | .manualExplicit => "manual_explicit"
  | .socksLocalhost => "socks_localhost"
  | .httpHttpsLocalhost => "http_https_localhost"
  | .multiSchemeExplicit => "multi_scheme_explicit"

structure ParsedProxy where
  raw : Option String
  isMissing : Bool
  isMalformed : Bool
  isLocalhostProxy : Bool
  localhostHost : Option String
  localhostPort : Option Int
  proxyMode : ProxyMode
  socksPort : Option Int
  httpLocalhostPort : Option Int
  httpsLocalhostPort : Option Int
  deriving DecidableEq

/-! ## The two patterns -/

/-- `[a-zA-Z]`. -/
def isLetter (c : Char) : Bool := ('a' ≤ c && c ≤ 'z') || ('A' ≤ c && c ≤ 'Z')

/-- `_PAIR`: the scheme and the rest. -/
def pair (s : List Char) : List ((List Char × List Char) × List Char) :=
  (many1 isLetter s).flatMap fun (scheme, s) =>
  (many isSpace s).flatMap fun (_, s) =>
  (char '=' s).flatMap fun (_, s) =>
  (many isSpace s).flatMap fun (_, s) =>
  (many1 (· != ';') s).map fun (rest, s) => ((scheme, rest), s)

/-- `[0-9a-fA-F:.]`. -/
def isAddressChar (c : Char) : Bool :=
  ('0' ≤ c && c ≤ '9') || ('a' ≤ c && c ≤ 'f') || ('A' ≤ c && c ≤ 'F') || c == ':' || c == '.'

/-- `[^\s:]`. -/
def isHostChar (c : Char) : Bool := !isSpace c && c != ':'

/-- `\d`. -/
def isDecimal (c : Char) : Bool := (decimalValue c).isSome

/-- The first alternative of the host is a run without colons, the second an
address in brackets. -/
def hostPattern : Pattern := fun s =>
  many1 isHostChar s ++
    (char '[' s).flatMap fun (open_, s) =>
    (many1 isAddressChar s).flatMap fun (address, s) =>
    (char ']' s).map fun (close, s) => (open_ ++ address ++ close, s)

/-- `_HOST_PORT` behind the host: a port if there is one, then `$`. -/
def portPattern (s : List Char) : List (Option (List Char)) :=
  ((char ':' s).flatMap fun (_, s) =>
    (oneUpTo isDecimal 5 s).flatMap fun (port, s) => if atEnd s then [some port] else []) ++
  if atEnd s then [none] else []

/-- `_HOST_PORT`. -/
def hostPort (s : List Char) : List (List Char × Option (List Char)) :=
  (hostPattern s).flatMap fun (host, s) => (portPattern s).map fun port => (host, port)

/-! ## The parser -/

/-- `_is_local_host`. -/
def isLocalHost (host : List Char) : Bool :=
  let h := lower (stripChars ['[', ']'] (strip host))
  h == "127.0.0.1".toList || h == "localhost".toList || h == "::1".toList ||
    "127.".toList.isPrefixOf h

/-- `_parse_host_port_segment`, where it is `ok`: it always gives a host and a
port then. -/
def parseHostPortSegment (segment : List Char) : Option (List Char × Int) :=
  match strip segment with
  | [] => none
  | s => match (hostPort s).head? with
    | some (host, some portText) => match intOfText portText with
      | some p => if 1 ≤ p ∧ p ≤ 65535 then some (host, p) else none
      | none => none
    | _ => none

/-- `_mode_from_parts`. -/
def modeFromParts (raw : Option String) (isMissing isMalformed isLocalhost : Bool)
    (localhostPort socksPort httpLp httpsLp : Option Int) : ProxyMode :=
  if isMissing then .missing
  else if isMalformed then .malformed
  else if httpLp.isSome || httpsLp.isSome then
    if isLocalhost then .httpHttpsLocalhost else .multiSchemeExplicit
  else if socksPort.isSome then
    if isLocalhost then .socksLocalhost else .multiSchemeExplicit
  else if isLocalhost && localhostPort.isSome then .manualLocalhost
  else if localhostPort.isSome then .manualExplicit
  else if raw.any fun raw => (strip raw.toList).isEmpty then .disabledServerField
  else .malformed

/-- `a or b` of two optional numbers. -/
def portOr (a b : Option Int) : Option Int :=
  match a with
  | some p => if p ≠ 0 then a else b
  | none => b

/-- What the loop over the entries has found. -/
structure Entries where
  socksPort : Option Int := none
  httpLp : Option Int := none
  httpsLp : Option Int := none
  localhostHost : Option (List Char) := none
  localhostPort : Option Int := none
  isLocalhost : Bool := false
  anyOk : Bool := false

/-- One round of the loop. -/
def Entries.add (e : Entries) (m : List Char × List Char) : Entries :=
  match parseHostPortSegment (strip m.2) with
  | none => e
  | some (host, port) =>
    let e := { e with anyOk := true }
    let e := if isLocalHost host then
        { e with
          isLocalhost := true
          localhostHost := some (stripChars ['[', ']'] host)
          localhostPort := portOr e.localhostPort (some port) }
      else e
    let scheme := lower m.1
    if scheme = "socks".toList then { e with socksPort := some port }
    else if scheme = "http".toList then { e with httpLp := some port }
    else if scheme = "https".toList then { e with httpsLp := some port }
    else e

/-- A missing value. -/
def ParsedProxy.missing (raw : Option String) : ParsedProxy where
  raw := raw
  isMissing := true
  isMalformed := false
  isLocalhostProxy := false
  localhostHost := none
  localhostPort := none
  proxyMode := .missing
  socksPort := none
  httpLocalhostPort := none
  httpsLocalhostPort := none

/-- A value that could not be read. -/
def ParsedProxy.malformed (raw : Option String) : ParsedProxy :=
  { ParsedProxy.missing raw with isMissing := false, isMalformed := true, proxyMode := .malformed }

/-- The result for a list of entries. -/
def Entries.parsed (e : Entries) (raw : String) : ParsedProxy :=
  if !e.anyOk then .malformed (some raw)
  else
    let primaryPort := portOr (portOr (portOr e.localhostPort e.httpsLp) e.httpLp) e.socksPort
    { raw := some raw
      isMissing := false
      isMalformed := false
      isLocalhostProxy := e.isLocalhost
      localhostHost := e.localhostHost.map .ofList
      localhostPort := if e.isLocalhost then primaryPort else none
      proxyMode := modeFromParts (some raw) false false e.isLocalhost primaryPort e.socksPort
        e.httpLp e.httpsLp
      socksPort := e.socksPort
      httpLocalhostPort := e.httpLp
      httpsLocalhostPort := e.httpsLp }

/-- The result for a bare `host:port`. -/
def parsedBare (raw : String) (host : List Char) (port : Int) : ParsedProxy where
  raw := some raw
  isMissing := false
  isMalformed := false
  isLocalhostProxy := isLocalHost host
  localhostHost := if isLocalHost host then some (.ofList (stripChars ['[', ']'] host)) else none
  localhostPort := some port
  proxyMode := modeFromParts (some raw) false false (isLocalHost host) (some port) none none none
  socksPort := none
  httpLocalhostPort := none
  httpsLocalhostPort := none

/-- `parse_proxy_server`. -/
def parseProxyServer : Option String → ParsedProxy
  | none => .missing none
  | some raw =>
    match strip raw.toList with
    | [] => .missing (some raw)
    | text =>
      match findIter pair 0 text with
      | [] => match parseHostPortSegment text with
        | some (host, port) => parsedBare raw host port
        | none => .malformed (some raw)
      | pairs => (pairs.foldl Entries.add {}).parsed raw

/-! ## Where `localhost_port` is not local -/

/-- A bare `host:port` whose host is not local. -/
def BareRemote (raw : Option String) : Prop :=
  ∃ s host port, raw = some s ∧ findIter pair 0 (strip s.toList) = [] ∧
    parseHostPortSegment (strip s.toList) = some (host, port) ∧ isLocalHost host = false

theorem parseProxyServer_bare {s : String} {host : List Char} {port : Int}
    (hpairs : findIter pair 0 (strip s.toList) = [])
    (hbare : parseHostPortSegment (strip s.toList) = some (host, port)) :
    parseProxyServer (some s) = parsedBare s host port := by
  unfold parseProxyServer
  dsimp only
  split
  · rename_i hnil
    rw [hnil] at hbare
    exact absurd hbare (by simp [parseHostPortSegment, strip, lstrip, rstrip])
  · rw [hpairs, hbare]

/-- The cases of the parser: nothing there, no sense at all, entries, or a bare
`host:port`. -/
theorem parseProxyServer_cases (raw : Option String) :
    parseProxyServer raw = .missing raw ∨ parseProxyServer raw = .malformed raw ∨
      (∃ s e, raw = some s ∧ parseProxyServer raw = Entries.parsed e s) ∨
      ∃ s host port, raw = some s ∧ findIter pair 0 (strip s.toList) = [] ∧
        parseHostPortSegment (strip s.toList) = some (host, port) := by
  cases raw with
  | none => exact .inl rfl
  | some s =>
    unfold parseProxyServer
    dsimp only
    split
    · exact .inl rfl
    · right
      cases hpairs : findIter pair 0 (strip s.toList) with
      | cons p ps => exact .inr (.inl ⟨s, _, rfl, rfl⟩)
      | nil =>
        cases hbare : parseHostPortSegment (strip s.toList) with
        | none => exact .inl rfl
        | some hp => exact .inr (.inr ⟨s, hp.1, hp.2, rfl, hpairs, hbare⟩)

/-- A proxy that is not local has a `localhost_port` exactly when it is a bare
`host:port`. -/
theorem localhostPort_of_not_localhost {raw : Option String}
    (h : (parseProxyServer raw).isLocalhostProxy = false) :
    (parseProxyServer raw).localhostPort.isSome ↔ BareRemote raw := by
  constructor
  · intro hport
    rcases parseProxyServer_cases raw with hp | hp | ⟨s, e, -, hp⟩ |
      ⟨s, host, port, rfl, hpairs, hbare⟩
    · rw [hp] at hport
      exact absurd hport (by simp [ParsedProxy.missing])
    · rw [hp] at hport
      exact absurd hport (by simp [ParsedProxy.malformed, ParsedProxy.missing])
    · rw [hp] at h hport
      unfold Entries.parsed at h hport
      split at h
      · rename_i hok
        rw [if_pos hok] at hport
        exact absurd hport (by simp [ParsedProxy.malformed, ParsedProxy.missing])
      · rename_i hok
        rw [if_neg hok] at hport
        have hlocal : e.isLocalhost = false := h
        exact absurd hport (by simp [hlocal])
    · refine ⟨s, host, port, rfl, hpairs, hbare, ?_⟩
      rw [parseProxyServer_bare hpairs hbare] at h
      exact h
  · rintro ⟨s, host, port, rfl, hpairs, hbare, -⟩
    rw [parseProxyServer_bare hpairs hbare]
    rfl

theorem BareRemote.not_localhost {raw : Option String} (h : BareRemote raw) :
    (parseProxyServer raw).isLocalhostProxy = false := by
  obtain ⟨s, host, port, rfl, hpairs, hbare, hhost⟩ := h
  rw [parseProxyServer_bare hpairs hbare]
  exact hhost

instance (raw : Option String) : Decidable (BareRemote raw) :=
  decidable_of_iff ((parseProxyServer raw).isLocalhostProxy = false ∧
      (parseProxyServer raw).localhostPort.isSome = true)
    ⟨fun h => (localhostPort_of_not_localhost h.1).mp h.2,
      fun h => ⟨h.not_localhost, (localhostPort_of_not_localhost h.not_localhost).mpr h⟩⟩

/-! ## Every `host:port` is read -/

theorem pair_eq_nil {s : List Char} (h : '=' ∉ s) : pair s = [] := by
  unfold pair
  rw [List.flatMap_eq_nil_iff]
  rintro ⟨scheme, s₁⟩ h₁
  rw [List.flatMap_eq_nil_iff]
  rintro ⟨space, s₂⟩ h₂
  have hsuffix : s₂ <:+ s := (suffix_of_mem_many h₂).trans (suffix_of_mem_many1 h₁)
  dsimp only
  rw [char_eq_nil fun hmem => h (hsuffix.mem hmem)]
  rfl

theorem portPattern_hostChar {c : Char} (hc : isHostChar c = true) (cs : List Char) :
    portPattern (c :: cs) = [] := by
  have hcolon : c ≠ ':' := by
    rintro rfl
    exact absurd hc (by decide)
  have hend : atEnd (c :: cs) = false := by
    unfold atEnd
    simp
    rintro rfl
    exact absurd hc (by decide)
  simp [portPattern, char, hcolon, hend]

theorem portPattern_digits {digits : List Char} (hne : digits ≠ [])
    (hdigits : ∀ c ∈ digits, isDecimal c = true) (hlen : digits.length ≤ 5) :
    (portPattern (':' :: digits)).head? = some (some digits) := by
  obtain ⟨rest, hrest⟩ := oneUpTo_all hne hdigits hlen
  simp [portPattern, char, hrest, atEnd]

/-- The pattern reads a host without spaces and colons, and a port behind it. -/
theorem hostPort_text {host digits : List Char} (hne : host ≠ [])
    (hhost : ∀ c ∈ host, isHostChar c = true) (hdne : digits ≠ [])
    (hdigits : ∀ c ∈ digits, isDecimal c = true) (hlen : digits.length ≤ 5) :
    (hostPort (host ++ ':' :: digits)).head? = some (host, some digits) := by
  cases host with
  | nil => exact absurd rfl hne
  | cons c cs =>
    have htake : (c :: cs ++ ':' :: digits).takeWhile isHostChar = c :: cs := by
      rw [List.takeWhile_append_of_pos hhost]
      simp [isHostChar]
    have hdrop : (c :: cs ++ ':' :: digits).dropWhile isHostChar = ':' :: digits := by
      rw [List.dropWhile_append_of_pos hhost]
      simp [isHostChar]
    unfold hostPort hostPattern
    rw [List.flatMap_append, List.cons_append, flatMap_many1 ?_ (hhost c List.mem_cons_self),
      ← List.cons_append, htake, hdrop]
    · rw [List.head?_append, List.head?_map, portPattern_digits hdne hdigits hlen]
      rfl
    · intro taken d ds hd
      show (portPattern (d :: ds)).map _ = []
      rw [portPattern_hostChar hd]
      rfl

theorem strip_hostPort {host : List Char} (hhost : ∀ c ∈ host, isHostChar c = true) (port : Nat) :
    strip (host ++ ':' :: natText port) = host ++ ':' :: natText port := by
  apply strip_of_noSpace
  intro c hc
  rcases List.mem_append.mp hc with hc | hc
  · have := hhost c hc
    rw [isHostChar, Bool.and_eq_true] at this
    simpa using this.1
  · rcases List.mem_cons.mp hc with rfl | hc
    · decide
    · exact isSpace_of_isDigit (isDigit_natText hc)

/-- A host without spaces and colons, with a port. -/
theorem parseHostPortSegment_text {host : List Char} {port : Nat} (hne : host ≠ [])
    (hhost : ∀ c ∈ host, isHostChar c = true) (hport : 1 ≤ port ∧ port ≤ 65535) :
    parseHostPortSegment (host ++ ':' :: natText port) = some (host, (port : Int)) := by
  have hlen : (natText port).length ≤ 5 :=
    (Nat.length_toDigits_le_iff (by decide) (by decide)).mpr (by omega)
  have hdigits : ∀ c ∈ natText port, c.isDigit = true := fun c hc => isDigit_natText hc
  have hdecimal : ∀ c ∈ natText port, isDecimal c = true := by
    intro c hc
    rw [isDecimal, decimalValue_of_isDigit (hdigits c hc)]
    rfl
  have hint : intOfText (natText port) = some (port : Int) :=
    intOfText_natText (Nat.le_trans hlen (by decide))
  have hmatch := hostPort_text hne hhost (natText_ne_nil port) hdecimal hlen
  unfold parseHostPortSegment
  rw [strip_hostPort hhost]
  split
  · rename_i hnil
    exact absurd hnil (by simp)
  · rw [hmatch]
    dsimp only
    rw [hint]
    dsimp only
    rw [if_pos (by omega)]

/-- Every `host:port` with a host that is not local is a bare remote proxy. -/
theorem bareRemote_text {host : List Char} {port : Nat} (hne : host ≠ [])
    (hhost : ∀ c ∈ host, isHostChar c = true ∧ c ≠ '=') (hlocal : isLocalHost host = false)
    (hport : 1 ≤ port ∧ port ≤ 65535) :
    BareRemote (some (String.ofList (host ++ ':' :: natText port))) := by
  have hsegment := parseHostPortSegment_text hne (fun c hc => (hhost c hc).1) hport
  have hstrip : strip (host ++ ':' :: natText port) = host ++ ':' :: natText port :=
    strip_hostPort (fun c hc => (hhost c hc).1) port
  have hequals : '=' ∉ host ++ ':' :: natText port := by
    intro hmem
    rcases List.mem_append.mp hmem with hmem | hmem
    · exact (hhost _ hmem).2 rfl
    · rcases List.mem_cons.mp hmem with heq | hmem
      · exact absurd heq (by decide)
      · exact absurd (isDigit_natText hmem) (by decide)
  refine ⟨_, host, port, rfl, ?_, ?_, hlocal⟩
  · rw [String.toList_ofList, hstrip]
    exact findIter_eq_nil fun t ht => pair_eq_nil fun hmem => hequals (ht.mem hmem)
  · rw [String.toList_ofList, hstrip]
    exact hsegment

end ProxyGuard
