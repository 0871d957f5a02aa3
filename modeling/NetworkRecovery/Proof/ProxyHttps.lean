import NetworkRecovery.Drift.World
import NetworkRecovery.Proxy.Entries

/-!
# The HTTPS contrast

`proof/proxy_https.py`: the same URL is fetched through the local proxy (`curl -x`) and past it
(`curl --noproxy`). `CONFIRMED` says that the proxy in between is what breaks HTTPS, and it is
what the policy asks for before it lets a repair through.

So the port behind `-x` has to be one that somebody configured as a LOCAL proxy. Where it comes
from is `decidingPort`: the last `https=` port of the string, failing that the last `http=` port,
failing that the last `socks=` port. That some entry is local is asked, that THIS one is, is not.
With `https=proxy.corp:8443;socks=127.0.0.1:1080` the contrast runs against 127.0.0.1:8443, where
nothing is configured and nothing listens, and confirms (`mixedList_confirmed`). `contrast_iff`
says for which registries the port is always a configured one. The fallback on the text of WinHTTP
is sound as it is (`portFollows_of_hints`).
-/

namespace ProxyProof

open Python Python.Regex ProxyGuard
open ProxyDrift (CommandResult)

/-! ## Commands -/

/-- `_run_cmd`. -/
def runCmd (run : List String → CommandResult) (argv : List String) : Int × List Char :=
  match run argv with
  | .exited returncode stdout stderr => (returncode, strip (stdout.toList ++ stderr.toList))
  | .raised error => (1, error.toList)

/-- `_winhttp_text`. -/
def winhttpText (run : List String → CommandResult) : Int × List Char :=
  runCmd run ["netsh", "winhttp", "show", "proxy"]

/-! ## The text of WinHTTP -/

/-- `re.IGNORECASE` of a small letter: the capital stands for it, and for `s` the long s as well. -/
def sameLetter (d c : Char) : Bool :=
  c == d || c.toNat + 32 == d.toNat || (d == 's' && c.toNat == 0x17F)

/-- `\d{1,3}`. -/
def octet : Pattern := oneUpTo isDecimal 3

/-- `127\.(?:\d{1,3}\.){2}\d{1,3}`. -/
def loopbackAddress : Pattern := fun s =>
  (literal (· == ·) "127.".toList s).flatMap fun (net, s) =>
  (octet s).flatMap fun (a, s) =>
  (char '.' s).flatMap fun (dot₁, s) =>
  (octet s).flatMap fun (b, s) =>
  (char '.' s).flatMap fun (dot₂, s) =>
  (octet s).map fun (c, s) => (net ++ a ++ dot₁ ++ b ++ dot₂ ++ c, s)

/-- The host of `_LOCALHOST_NEEDLE`. -/
def needleHost : Pattern := fun s =>
  loopbackAddress s ++ literal sameLetter "localhost".toList s ++
    literal (· == ·) "[::1]".toList s

/-- The port of `_LOCALHOST_NEEDLE`, if there is one. -/
def needlePort (s : List Char) : List (Option (List Char) × List Char) :=
  ((char ':' s).flatMap fun (_, s) => (oneUpTo isDecimal 5 s).map fun (port, s) => (some port, s)) ++
    [(none, s)]

/-- `_LOCALHOST_NEEDLE`: what it finds is the port. -/
def localhostNeedle (s : List Char) : List (Option (List Char) × List Char) :=
  (needleHost s).flatMap fun (_, s) => needlePort s

/-- A port of `_LOCALHOST_NEEDLE` that is kept. -/
def needleValue (group : Option (List Char)) : Option Int :=
  (group.bind intOfText).filter fun po => 1 ≤ po ∧ po ≤ 65535

/-- `_winhttp_hints_localhost`. -/
def winhttpHintsLocalhost (text : List Char) : Bool × Option Int :=
  let lowered := lower text
  if contains "direct access".toList lowered then (false, none)
  else if !contains "proxy".toList lowered then (false, none)
  else
    let groups := findIter localhostNeedle 0 text
    match groups.filterMap needleValue with
    | port :: _ => (true, some port)
    | [] =>
      let hyphenOnly := groups.any Option.isNone
      (hyphenOnly || (contains "127.".toList lowered && contains "proxy".toList lowered), none)

/-! ## Listeners -/

/-- `_LISTEN_TAIL`. -/
def listenTail (s : List Char) : List (List Char) :=
  (char ':' s).flatMap fun (_, s) =>
  (oneUpTo isDecimal 5 s).flatMap fun (port, s) =>
  (many isSpace s).flatMap fun (_, s) => if atEnd s then [port] else []

/-- Whether a line of `netstat` shows a listener on the port. -/
def listensOn (token line : List Char) : Bool :=
  match words line with
  | _ :: loc :: _ =>
    let upperLine := upper line
    let locLower := lower loc
    (contains "LISTENING".toList upperLine || contains "LISTEN".toList upperLine) &&
      search listenTail loc == some token &&
      (["127.", "0.0.0.0:", "[::]", "[::1"].any (·.toList.isPrefixOf locLower) ||
        ":::".toList.isPrefixOf locLower ||
        (contains "::".toList locLower && contains "]:".toList loc && contains token loc))
  | _ => false

/-- `_listening_on_port_windows`. -/
def listeningOnPortWindows (output : List Char) (port : Int) : Option Bool :=
  if strip output = [] then none
  else some ((splitLines output).any (listensOn (intText port)))

/-! ## The proxy for `curl` -/

/-- `_effective_proxy_listen_port`. -/
def effectiveProxyListenPort (parsed : ParsedProxy) : Option Int :=
  if !parsed.isLocalhostProxy then none
  else if parsed.proxyMode = .socksLocalhost ∧ parsed.socksPort.isSome then parsed.socksPort
  else [parsed.httpsLocalhostPort, parsed.httpLocalhostPort, parsed.localhostPort].findSome? id

/-- The URL of a local proxy. -/
def localUrl (scheme : String) (port : Int) : String :=
  scheme ++ "://127.0.0.1:" ++ .ofList (intText port)

/-- `_curl_proxy_url`. -/
def curlProxyUrl (parsed : ParsedProxy) : Option String × String :=
  if !parsed.isLocalhostProxy then (none, "no_loopback_segment")
  else
    match (if parsed.proxyMode = .socksLocalhost then parsed.socksPort.filter (· ≠ 0) else none) with
    | some port => (some (localUrl "socks5h" port), "socks5h")
    | none =>
      match portOr (portOr parsed.httpsLocalhostPort parsed.httpLocalhostPort)
          parsed.localhostPort with
      | none => (none, "no_port_for_http_connect")
      | some port => (some (localUrl "http" port), "http_connect")

/-- `_port_from_proxy_url`. -/
def portFromProxyUrl (url : Option String) : Option Int :=
  match url.map String.toList with
  | none | some [] => none
  | some url =>
    -- `rfind` gives -1 without a colon
    let port := url.rtakeWhile (· ≠ ':')
    let idx := (url.length : Int) - port.length - 1
    if idx ≤ 0 ∨ url.length - 1 ≤ idx then none else intOfText port

/-- The command of `_curl_https_probe`. -/
def curlArgv (baseUrl : String) (proxyUrl : Option String) (noproxyAll : Bool)
    (timeout : String) : List String :=
  let routing :=
    if noproxyAll then ["--noproxy", "*"]
    else match proxyUrl with
      | some url => if url.isEmpty then [] else ["-x", url]
      | none => []
  ["curl"] ++ routing ++
    ["-sS", "-o", "NUL", "-w", "%\x7bhttp_code\x7d", "-L", "--max-time", timeout, baseUrl]

/-- The digits beyond the decimal ones: `str.isdigit` knows them, `int` does not. -/
def otherDigits : List (Nat × Nat) :=
  [(0xB2, 0xB3), (0xB9, 0xB9), (0x1369, 0x1371), (0x19DA, 0x19DA), (0x2070, 0x2070),
    (0x2074, 0x2079), (0x2080, 0x2089), (0x2460, 0x2468), (0x2474, 0x247C), (0x2488, 0x2490),
    (0x24EA, 0x24EA), (0x24F5, 0x24FD), (0x24FF, 0x24FF), (0x2776, 0x277E), (0x2780, 0x2788),
    (0x278A, 0x2792), (0x10A40, 0x10A43), (0x10E60, 0x10E68), (0x11052, 0x1105A),
    (0x1F100, 0x1F10A)]

/-- `str.isdigit()`. -/
def isDigitText (s : List Char) : Bool :=
  !s.isEmpty && s.all fun c =>
    isDecimal c || otherDigits.any fun (first, last) => first ≤ c.toNat && c.toNat ≤ last

/-- `_interpret_curl_https_ok`; a digit that `int` does not read raises. -/
def interpretCurlHttpsOk (returncode : Int) (writtenCodeField : List Char) : Except PyError Bool :=
  if returncode ≠ 0 then .ok false
  else
    let s := strip writtenCodeField
    if !isDigitText s then .ok false
    else match intOfText s with
      | some n => .ok (0 < n && n < 600)
      | none => .error .value

/-! ## Results -/

inductive ProofStatus where
  | confirmed
  | rejected
  | inconclusive
  deriving DecidableEq, Repr

/-- `OutcomeLiteral`. -/
inductive StepOutcome where
  | pass
  | fail
  | skipped
  | error
  deriving DecidableEq, Repr

structure ProofObservation where
  stepId : String
  label : String
  outcome : StepOutcome
  detail : String

/-- `routing_summary`. -/
structure RoutingSummary where
  wininetActiveLocalhost : Bool
  winhttpLoopbackHint : Bool
  effectiveCurlProxyUrl : Option String
  effectiveListenProbePort : Option Int
  curlScheme : String

/-- `netstat_listen`. -/
structure NetstatListen where
  exitCode : Int
  portProbed : Option Int
  listeningBestEffort : Option Bool

/-- `https_via_explicit_proxy` and `https_bypass_proxy`. -/
structure CurlProbe where
  exitCode : Int
  httpCodeField : List Char
  argv : List String
  interpretedOk : Bool

/-- What the proof wrote down; a step that was not reached left nothing. -/
structure Evidence where
  proxyRegistrySnapshot : ProxyRegistrySnapshot
  parsedProxyServer : ParsedProxy
  winhttpShowProxy : Int × List Char
  routingSummary : RoutingSummary
  netstatListen : Option NetstatListen := none
  curlVersionProbeExcerpt : Option (List Char) := none
  httpsViaExplicitProxy : Option CurlProbe := none
  httpsBypassProxy : Option CurlProbe := none
  /-- `via_proxy_ok` and `bypass_ok`. -/
  comparison : Option (Bool × Bool) := none

structure ProofResult where
  proofId : String := "localhost_proxy_https_contrast"
  status : ProofStatus
  hypothesis : String
  summary : String
  observations : List ProofObservation
  evidence : Evidence

/-! ## Observations -/

def modeText : ProxyMode → String
  | .missing => "missing"
  | .malformed => "malformed"
  | .disabledServerField => "disabled_server_field"
  | .manualLocalhost => "manual_localhost"
  | .manualExplicit => "manual_explicit"
  | .socksLocalhost => "socks_localhost"
  | .httpHttpsLocalhost => "http_https_localhost"
  | .multiSchemeExplicit => "multi_scheme_explicit"

def intString (n : Int) : String := .ofList (intText n)

def valueString (v : Value) : String := .ofList v.repr

def registryObservation (reg : ProxyRegistrySnapshot) (parsed : ParsedProxy) (active : Bool) :
    ProofObservation where
  stepId := "wininet_registry"
  label := "Detect WinINET proxy (HKCU registry)"
  outcome := .pass
  detail := "ProxyEnable=" ++ valueString (optionalInt reg.proxyEnable) ++
    "; ProxyServer parsed mode=" ++ modeText parsed.proxyMode ++ "; active_localhost=" ++
    valueString (.bool active) ++ "."

def winhttpObservation (wh : Int × List Char) (hints : Bool × Option Int) : ProofObservation where
  stepId := "winhttp_detect"
  label := "Detect WinHTTP proxy (netsh winhttp)"
  outcome := if wh.1 = 0 then .pass else .error
  detail :=
    if wh.1 = 0 then
      "loopback_hint=" ++ valueString (.bool hints.1) ++ " parsed_port=" ++
        valueString (optionalInt hints.2) ++ "."
    else if wh.2 = [] then "netsh failed code=" ++ intString wh.1
    else .ofList (wh.2.take 500)

def detectionObservation (parsed : ParsedProxy) (active hint : Bool) : ProofObservation where
  stepId := "localhost_proxy_detection"
  label := "Detect localhost proxy (WinINET active segment or WinHTTP loopback hints)"
  outcome :=
    if active || hint then .pass
    else if parsed.isMissing || parsed.isMalformed then .fail
    else .skipped
  detail :=
    if active then "Active WinINET localhost proxy."
    else if hint then "WinHTTP shows loopback proxy hint."
    else "No active WinINET localhost segment and no WinHTTP loopback hint."

/-- The outcome and the detail of the step `port_listening`. -/
def listenReport (ns : Int × List Char) (port : Option Int) (listening : Option Bool) :
    StepOutcome × String :=
  match port with
  | none => (.skipped, "Listen port unresolved after merge.")
  | some port =>
    if ns.1 ≠ 0 then
      (.error, "netstat exited " ++ intString ns.1 ++ ": " ++ .ofList (ns.2.take 400))
    else match listening with
      | some true => (.pass, "LISTEN-ish binding found for port " ++ intString port ++ ".")
      | some false =>
        (.fail, "No LISTEN line matched for port " ++ intString port ++
          " (non-fatal to HTTPS contrast).")
      | none => (.skipped, "Empty/unparseable netstat body.")

def listenObservation (ns : Int × List Char) (port : Option Int) (listening : Option Bool) :
    ProofObservation where
  stepId := "port_listening"
  label := "Check localhost proxy TCP port is LISTENING (netstat)"
  outcome := (listenReport ns port listening).1
  detail := (listenReport ns port listening).2

def curlObservation (version : Int × List Char) : ProofObservation where
  stepId := "curl_available"
  label := "Verify curl is available"
  outcome := if version.1 ≠ 0 then .fail else .pass
  detail :=
    if version.1 ≠ 0 then
      if version.2 = [] then "curl missing or unreachable on PATH." else .ofList version.2
    else match splitLines version.2 with
      | line :: _ => .ofList (line.take 200)
      | [] => "ok"

def probeObservation (stepId label : String) (p : Int × List Char) (ok : Bool) :
    ProofObservation where
  stepId := stepId
  label := label
  outcome := if ok then .pass else .fail
  detail := "exit=" ++ intString p.1 ++ " http_code_field=" ++ .ofList (reprText (strip p.2))

/-! ## The proof -/

/-- Which proxy the contrast is about, from the registry and what `netsh` said. -/
def routing (reg : ProxyRegistrySnapshot) (wh : Int × List Char) : RoutingSummary :=
  let parsed := parseProxyServer reg.proxyServer
  let active := decide (reg.proxyEnable = some 1) && parsed.isLocalhostProxy
  let (url, scheme) := if active then curlProxyUrl parsed else (none, "wininet_inactive")
  let (whLocalhost, whPort) := if wh.1 = 0 then winhttpHintsLocalhost wh.2 else (false, none)
  let (url, scheme) :=
    match url, whLocalhost, whPort with
    | none, true, some port => (some (localUrl "http" port), "http_connect_winhttp_fallback")
    | url, _, _ => (url, scheme)
  let listenPort := portOr (if active then effectiveProxyListenPort parsed else none) whPort
  { wininetActiveLocalhost := active
    winhttpLoopbackHint := whLocalhost
    effectiveCurlProxyUrl := url
    effectiveListenProbePort := listenPort.or (portFromProxyUrl url)
    curlScheme := scheme }

/-- The verdict of the contrast. -/
def verdict (okWith okNo : Bool) : ProofStatus × String :=
  if !okWith && okNo then
    (.confirmed,
      "CONFIRMED: HTTPS fails via explicit localhost proxy path but succeeds via `--noproxy` bypass.")
  else if okWith && okNo then
    (.rejected,
      "REJECTED: Both paths succeed — this localhost proxy does not block this HTTPS probe.")
  else if okWith && !okNo then
    (.inconclusive,
      "INCONCLUSIVE: HTTPS succeeds via explicit proxy yet bypass fails " ++
        "(check URL redirects, interception, curl defaults).")
  else
    (.inconclusive,
      "INCONCLUSIVE: HTTPS fails both with localhost proxy routing and bypass — " ++
        "likely broader outage/TLS/filtering unrelated to localhost proxy differential.")

def defaultHypothesis : String :=
  "Traffic is routed through a localhost proxy (127.0.0.1:<port>) and that path affects HTTPS " ++
    "reachability versus the same URL fetched with `curl --noproxy` (control)."

/-- The arguments of a proof: `curl_timeout` as `str` writes it. -/
structure Options where
  testUrl : String := "https://www.google.com"
  curlTimeout : String := "12.0"
  hypothesis : Option String := none

/-- `hypothesis or _DEFAULT_HYPOTHESIS`. -/
def Options.hypothesisText (o : Options) : String :=
  (o.hypothesis.filter fun h => !h.isEmpty).getD defaultHypothesis

/-- The two fetches, once there is a proxy and a `curl`. -/
def contrast (o : Options) (run : List String → CommandResult) (url : String)
    (obs : List ProofObservation) (evidence : Evidence) : Except PyError ProofResult := do
  let argvWith := curlArgv o.testUrl (some url) false o.curlTimeout
  let probeWith := runCmd run argvWith
  let okWith ← interpretCurlHttpsOk probeWith.1 probeWith.2
  let argvNo := curlArgv o.testUrl none true o.curlTimeout
  let probeNo := runCmd run argvNo
  let okNo ← interpretCurlHttpsOk probeNo.1 probeNo.2
  .ok
    { status := (verdict okWith okNo).1
      hypothesis := o.hypothesisText
      summary := (verdict okWith okNo).2
      observations := obs ++
        [probeObservation "https_with_proxy"
            "Test HTTPS with explicit localhost proxy (`curl -x …`)" probeWith okWith,
          probeObservation "https_bypass_proxy"
            "Test HTTPS bypassing env proxies (`curl --noproxy '*'`)" probeNo okNo]
      evidence :=
        { evidence with
          httpsViaExplicitProxy := some ⟨probeWith.1, probeWith.2.take 32, argvWith, okWith⟩
          httpsBypassProxy := some ⟨probeNo.1, probeNo.2.take 32, argvNo, okNo⟩
          comparison := some (okWith, okNo) } }

/-- `run_localhost_proxy_https_proof`, from the registry it read on. -/
def runLocalhostProxyHttpsProof (reg : ProxyRegistrySnapshot) (o : Options)
    (run : List String → CommandResult) : Except PyError ProofResult :=
  let parsed := parseProxyServer reg.proxyServer
  let wh := winhttpText run
  let r := routing reg wh
  let hints := if wh.1 = 0 then winhttpHintsLocalhost wh.2 else (false, none)
  let obs := [registryObservation reg parsed r.wininetActiveLocalhost, winhttpObservation wh hints,
    detectionObservation parsed r.wininetActiveLocalhost r.winhttpLoopbackHint]
  let evidence : Evidence :=
    { proxyRegistrySnapshot := reg
      parsedProxyServer := parsed
      winhttpShowProxy := (wh.1, wh.2.take 2400)
      routingSummary := r }
  match r.effectiveCurlProxyUrl with
  | none =>
    .ok
      { status := .inconclusive
        hypothesis := o.hypothesisText
        summary := "INCONCLUSIVE: Could not derive an explicit localhost proxy URL for curl `-x` " ++
          "(PAC/AutoDetect-only, malformed ProxyServer, or WinHTTP lacked an extractable port)."
        observations := obs
        evidence := evidence }
  | some url =>
    let ns := runCmd run ["netstat", "-an"]
    let port := r.effectiveListenProbePort
    let listening := if ns.1 ≠ 0 then none else port.bind (listeningOnPortWindows ns.2)
    let evidence := { evidence with netstatListen := some ⟨ns.1, port, listening⟩ }
    let version := runCmd run ["curl", "--version"]
    let obs := obs ++ [listenObservation ns port listening, curlObservation version]
    if version.1 ≠ 0 then
      .ok
        { status := .inconclusive
          hypothesis := o.hypothesisText
          summary := "INCONCLUSIVE: curl not available — cannot perform HTTPS causal contrast."
          observations := obs
          evidence := { evidence with curlVersionProbeExcerpt := some (version.2.take 400) } }
    else contrast o run url obs evidence

/-! ## What the port should be -/

/-- A host that names this machine, as the needle spells them. -/
def IsLoopbackName (host : List Char) : Prop :=
  (∃ a b c : List Char, (∀ octet ∈ [a, b, c], octet ≠ [] ∧ octet.length ≤ 3 ∧
      ∀ d ∈ octet, isDecimal d = true) ∧
    host = "127.".toList ++ a ++ ['.'] ++ b ++ ['.'] ++ c) ∨
  List.Forall₂ (fun d c => sameLetter d c = true) "localhost".toList host ∨
  host = "[::1]".toList

/-- A port behind a loopback host of a text: the digits that follow the colon, up to the five a
port can have. -/
def PortFollows (text : List Char) (port : Int) : Prop :=
  ∃ before host digits after, text = before ++ (host ++ ':' :: (digits ++ after)) ∧
    IsLoopbackName host ∧ (∀ d ∈ digits, isDecimal d = true) ∧ intOfText digits = some port ∧
    (digits.length = 5 ∨ ∀ d ∈ after.head?, isDecimal d = false)

/-- A port of a local entry of an enabled `ProxyServer`. -/
def Configured (reg : ProxyRegistrySnapshot) (port : Int) : Prop :=
  reg.proxyEnable = some 1 ∧ ∃ e ∈ entriesOf reg.proxyServer, e.isLocal = true ∧ e.port = port

/-- The port behind `-x`. -/
def PassedPort (argv : List String) (port : Int) : Prop :=
  argv[1]? = some "-x" ∧ ∃ scheme ∈ ["http", "socks5h"], argv[2]? = some (localUrl scheme port)

/-- The contrast was about a proxy that is configured, and the listener looked for was its. -/
def TestsConfiguredProxy (reg : ProxyRegistrySnapshot) (winhttp : List Char) (r : ProofResult) :
    Prop :=
  ∃ port via listen, r.evidence.httpsViaExplicitProxy = some via ∧ PassedPort via.argv port ∧
    r.evidence.netstatListen = some listen ∧ listen.portProbed = some port ∧
    (Configured reg port ∨ PortFollows winhttp port)

/-- The port the contrast is about when the registry has a local entry. -/
def decidingPort (es : List Entry) : Option Int :=
  (((lastPort "https" es).or (lastPort "http" es)).or (lastPort "socks" es)).or (firstLocalPort es)

/-! ## The needle -/

theorem mem_octet {s : List Char} {m : List Char × List Char} (h : m ∈ octet s) :
    (m.1 ≠ [] ∧ m.1.length ≤ 3 ∧ ∀ d ∈ m.1, isDecimal d = true) ∧ s = m.1 ++ m.2 := by
  obtain ⟨hne, hall, hlen, hsplit⟩ := mem_oneUpTo h
  exact ⟨⟨hne, hlen, hall⟩, hsplit⟩

theorem eq_of_forall₂_beq {as bs : List Char}
    (h : List.Forall₂ (fun d c => (d == c) = true) as bs) : as = bs := by
  induction h with
  | nil => rfl
  | cons hd _ ih => rw [eq_of_beq hd, ih]

theorem mem_loopbackAddress {s : List Char} {m : List Char × List Char}
    (h : m ∈ loopbackAddress s) : IsLoopbackName m.1 ∧ s = m.1 ++ m.2 := by
  obtain ⟨⟨net, s₁⟩, hnet, h⟩ := List.mem_flatMap.mp h
  obtain ⟨⟨a, s₂⟩, ha, h⟩ := List.mem_flatMap.mp h
  obtain ⟨⟨dot₁, s₃⟩, hdot₁, h⟩ := List.mem_flatMap.mp h
  obtain ⟨⟨b, s₄⟩, hb, h⟩ := List.mem_flatMap.mp h
  obtain ⟨⟨dot₂, s₅⟩, hdot₂, h⟩ := List.mem_flatMap.mp h
  obtain ⟨⟨c, s₆⟩, hc, rfl⟩ := List.mem_map.mp h
  obtain ⟨hname, hs⟩ := mem_literal hnet
  obtain ⟨octetA, hs₁⟩ := mem_octet ha
  obtain ⟨hd₁, hs₂⟩ := mem_char hdot₁
  obtain ⟨octetB, hs₃⟩ := mem_octet hb
  obtain ⟨hd₂, hs₄⟩ := mem_char hdot₂
  obtain ⟨octetC, hs₅⟩ := mem_octet hc
  dsimp only at hname octetA octetB octetC hs hs₁ hs₂ hs₃ hs₄ hs₅ hd₁ hd₂ ⊢
  refine ⟨.inl ⟨a, b, c, ?_, ?_⟩, ?_⟩
  · intro o ho
    simp only [List.mem_cons, List.not_mem_nil, or_false] at ho
    rcases ho with rfl | rfl | rfl
    · exact octetA
    · exact octetB
    · exact octetC
  · rw [eq_of_forall₂_beq hname, hd₁, hd₂]
  · simp [hs, hs₁, hs₂, hs₃, hs₄, hs₅]

theorem mem_needleHost {s : List Char} {m : List Char × List Char} (h : m ∈ needleHost s) :
    IsLoopbackName m.1 ∧ s = m.1 ++ m.2 := by
  rcases List.mem_append.mp h with h | h
  · rcases List.mem_append.mp h with h | h
    · exact mem_loopbackAddress h
    · obtain ⟨hname, hsplit⟩ := mem_literal h
      exact ⟨.inr (.inl hname), hsplit⟩
  · obtain ⟨hname, hsplit⟩ := mem_literal h
    exact ⟨.inr (.inr (eq_of_forall₂_beq hname).symm), hsplit⟩

theorem head?_needlePort {s digits rest : List Char}
    (h : (needlePort s).head? = some (some digits, rest)) :
    s = ':' :: (digits ++ rest) ∧ (∀ d ∈ digits, isDecimal d = true) ∧
      (digits.length = 5 ∨ ∀ d ∈ rest.head?, isDecimal d = false) := by
  cases s with
  | nil => exact absurd h (by simp [needlePort, char])
  | cons c s =>
    by_cases hc : c = ':'
    · have hflat : needlePort (c :: s) =
          (oneUpTo isDecimal 5 s).map (fun (port, s) => (some port, s)) ++ [(none, c :: s)] := by
        simp [needlePort, char, hc]
      rw [hflat, List.head?_append, List.head?_map] at h
      cases hhead : (oneUpTo isDecimal 5 s).head? with
      | none =>
        rw [hhead] at h
        exact absurd h (by simp)
      | some m =>
        rw [hhead] at h
        cases h
        obtain ⟨-, hall, -, rfl⟩ := mem_oneUpTo (List.mem_of_head? hhead)
        exact ⟨by rw [hc], hall, head?_oneUpTo hhead⟩
    · exact absurd h (by simp [needlePort, char, hc])

/-- A port WinHTTP's text hints at follows a loopback host there. -/
theorem portFollows_of_hints {text : List Char} {port : Int}
    (h : (winhttpHintsLocalhost text).2 = some port) : PortFollows text port := by
  unfold winhttpHintsLocalhost at h
  dsimp only at h
  split at h
  · exact absurd h (by simp)
  split at h
  · exact absurd h (by simp)
  split at h
  · rename_i port' ports hports
    cases h
    have hmem : port ∈ (findIter localhostNeedle 0 text).filterMap needleValue := by
      rw [hports]
      exact List.mem_cons_self
    obtain ⟨group, hgroup, hvalue⟩ := List.mem_filterMap.mp hmem
    obtain ⟨hread, -⟩ := Option.filter_eq_some_iff.mp hvalue
    obtain ⟨digits, rfl, hdigits⟩ := Option.bind_eq_some_iff.mp hread
    obtain ⟨t, rest, ⟨before, rfl⟩, hhead⟩ := mem_findIter hgroup
    rw [localhostNeedle, List.head?_flatMap] at hhead
    obtain ⟨⟨host, s⟩, hhost, hport⟩ := List.exists_of_findSome?_eq_some hhead
    obtain ⟨hname, rfl⟩ := mem_needleHost hhost
    obtain ⟨rfl, hall, hend⟩ := head?_needlePort hport
    exact ⟨before, host, digits, rest, rfl, hname, hall, hdigits, hend⟩
  · exact absurd h (by simp)

/-! ## The routing -/

/-- `curl` and the search for a listener are given the deciding port, the one in a URL. -/
theorem curlProxyUrl_local {es : List Entry} {parsed : ParsedProxy} (hreads : Reads es parsed)
    (hes : ∀ e ∈ es, 1 ≤ e.port) (hlocal : es.any Entry.isLocal = true) :
    ∃ port, decidingPort es = some port ∧ port ≠ 0 ∧
      effectiveProxyListenPort parsed = some port ∧
      ∃ scheme ∈ ["http", "socks5h"], (curlProxyUrl parsed).1 = some (localUrl scheme port) := by
  have hmode := hreads.proxyMode hlocal
  have hhttps : lastPort "https" es ≠ some 0 := lastPort_ne_zero hes
  have hhttp : lastPort "http" es ≠ some 0 := lastPort_ne_zero hes
  have hsocks : lastPort "socks" es ≠ some 0 := lastPort_ne_zero hes
  have hfirst := firstLocalPort_ne_zero hes
  obtain ⟨first, hfirstPort⟩ := firstLocalPort_isSome hlocal
  unfold decidingPort effectiveProxyListenPort curlProxyUrl
  rw [hreads.isLocalhostProxy, hlocal, hreads.httpsLocalhostPort, hreads.httpLocalhostPort,
    hreads.socksPort, hreads.localhostPort hlocal, hfirstPort, portOr_eq hhttps]
  rw [hfirstPort] at hfirst
  cases h₁ : lastPort "https" es with
  | some port =>
    have hne : port ≠ 0 := fun h => hhttps (by rw [h₁, h])
    have hnot : parsed.proxyMode ≠ .socksLocalhost := by simp [hmode, h₁]
    exact ⟨port, rfl, hne, by simp [hnot], "http", by simp, by simp [hnot, portOr, hne]⟩
  | none =>
    cases h₂ : lastPort "http" es with
    | some port =>
      have hne : port ≠ 0 := fun h => hhttp (by rw [h₂, h])
      have hnot : parsed.proxyMode ≠ .socksLocalhost := by simp [hmode, h₂]
      exact ⟨port, rfl, hne, by simp [hnot], "http", by simp, by simp [hnot, portOr, hne]⟩
    | none =>
      cases h₃ : lastPort "socks" es with
      | some port =>
        have hne : port ≠ 0 := fun h => hsocks (by rw [h₃, h])
        have hsocksMode : parsed.proxyMode = .socksLocalhost := hmode.mpr ⟨h₁, h₂, by simp [h₃]⟩
        have hkept : (some port).filter (· ≠ 0) = some port := by simp [Option.filter, hne]
        refine ⟨port, rfl, hne, by simp [hsocksMode], "socks5h", by simp, ?_⟩
        rw [if_pos hsocksMode, hkept]
        rfl
      | none =>
        have hne : first ≠ 0 := fun h => hfirst (by rw [h])
        have hnot : parsed.proxyMode ≠ .socksLocalhost := by simp [hmode, h₃]
        exact ⟨first, rfl, hne, by simp, "http", by simp, by simp [portOr]⟩

/-- The registry routes through a local proxy. -/
def WininetActive (reg : ProxyRegistrySnapshot) : Prop :=
  reg.proxyEnable = some 1 ∧ (entriesOf reg.proxyServer).any Entry.isLocal = true

theorem active_iff (reg : ProxyRegistrySnapshot) :
    (decide (reg.proxyEnable = some 1) && (parseProxyServer reg.proxyServer).isLocalhostProxy) =
      true ↔ WininetActive reg := by
  rw [(parseProxyServer_reads reg.proxyServer).isLocalhostProxy]
  simp [WininetActive]

/-- With a local proxy in the registry, the routing is its deciding port. -/
theorem routing_active {reg : ProxyRegistrySnapshot} (hactive : WininetActive reg)
    (wh : Int × List Char) :
    ∃ port, decidingPort (entriesOf reg.proxyServer) = some port ∧
      (routing reg wh).effectiveListenProbePort = some port ∧
      ∃ scheme ∈ ["http", "socks5h"],
        (routing reg wh).effectiveCurlProxyUrl = some (localUrl scheme port) := by
  obtain ⟨port, hport, hne, hlisten, scheme, hscheme, hurl⟩ :=
    curlProxyUrl_local (parseProxyServer_reads reg.proxyServer) (fun e he => one_le_port he) hactive.2
  have hcond := (active_iff reg).mpr hactive
  refine ⟨port, hport, ?_, scheme, hscheme, ?_⟩
  · simp only [routing, hcond, if_true, hlisten]
    simp [portOr, hne]
  · simp only [routing, hcond, if_true]
    generalize (if wh.1 = 0 then winhttpHintsLocalhost wh.2 else (false, none)) = hints
    obtain ⟨hint, whPort⟩ := hints
    rw [show curlProxyUrl (parseProxyServer reg.proxyServer) =
      (some (localUrl scheme port), (curlProxyUrl (parseProxyServer reg.proxyServer)).2) by
        rw [← hurl]]

/-- Without one, it is a port of WinHTTP's text. -/
theorem routing_inactive {reg : ProxyRegistrySnapshot} (hactive : ¬WininetActive reg)
    {wh : Int × List Char} {url : String}
    (hurl : (routing reg wh).effectiveCurlProxyUrl = some url) :
    ∃ port, PortFollows wh.2 port ∧ (routing reg wh).effectiveListenProbePort = some port ∧
      url = localUrl "http" port := by
  have hcond := (Bool.not_eq_true _).mp (mt (active_iff reg).mp hactive)
  by_cases hwh : wh.1 = 0
  · cases hport : (winhttpHintsLocalhost wh.2).2 with
    | none =>
      have hhints : winhttpHintsLocalhost wh.2 = ((winhttpHintsLocalhost wh.2).1, none) := by
        rw [← hport]
      simp only [routing, hcond, hwh, if_true] at hurl
      rw [hhints] at hurl
      exact absurd hurl (by cases (winhttpHintsLocalhost wh.2).1 <;> simp)
    | some port =>
      have hhints : winhttpHintsLocalhost wh.2 = ((winhttpHintsLocalhost wh.2).1, some port) := by
        rw [← hport]
      refine ⟨port, portFollows_of_hints hport, ?_, ?_⟩
      · simp only [routing, hcond, hwh, if_true]
        rw [hhints]
        simp [portOr]
      · simp only [routing, hcond, hwh, if_true] at hurl
        rw [hhints] at hurl
        cases hhint : (winhttpHintsLocalhost wh.2).1 with
        | false =>
          rw [hhint] at hurl
          exact absurd hurl (by simp)
        | true =>
          rw [hhint] at hurl
          simpa using hurl.symm
  · simp only [routing, hcond, hwh, if_false] at hurl
    exact absurd hurl (by simp)

/-! ## The contrast -/

theorem curlArgv_proxy (baseUrl timeout scheme : String) (port : Int) :
    curlArgv baseUrl (some (localUrl scheme port)) false timeout =
      ["curl", "-x", localUrl scheme port, "-sS", "-o", "NUL", "-w", "%\x7bhttp_code\x7d", "-L",
        "--max-time", timeout, baseUrl] := by
  have hne : (localUrl scheme port).isEmpty = false := by
    rw [Bool.eq_false_iff]
    intro h
    rw [String.isEmpty_iff] at h
    have := congrArg String.toList h
    simp [localUrl] at this
  simp [curlArgv, hne]

theorem contrast_ok {o : Options} {run : List String → CommandResult} {url : String}
    {obs : List ProofObservation} {evidence : Evidence} {r : ProofResult}
    (h : contrast o run url obs evidence = .ok r) :
    (∃ via, r.evidence.httpsViaExplicitProxy = some via ∧
      via.argv = curlArgv o.testUrl (some url) false o.curlTimeout) ∧
    r.evidence.netstatListen = evidence.netstatListen := by
  obtain ⟨okWith, -, h⟩ := bind_ok.mp h
  obtain ⟨okNo, -, h⟩ := bind_ok.mp h
  cases h
  exact ⟨⟨_, rfl, rfl⟩, rfl⟩

/-- A verdict other than `INCONCLUSIVE` comes from a contrast, of the proxy of the routing. -/
theorem decisive_routing {reg : ProxyRegistrySnapshot} {o : Options}
    {run : List String → CommandResult} {r : ProofResult}
    (h : runLocalhostProxyHttpsProof reg o run = .ok r) (hstatus : r.status ≠ .inconclusive) :
    ∃ url via listen, (routing reg (winhttpText run)).effectiveCurlProxyUrl = some url ∧
      r.evidence.httpsViaExplicitProxy = some via ∧
      via.argv = curlArgv o.testUrl (some url) false o.curlTimeout ∧
      r.evidence.netstatListen = some listen ∧
      listen.portProbed = (routing reg (winhttpText run)).effectiveListenProbePort := by
  unfold runLocalhostProxyHttpsProof at h
  dsimp only at h
  split at h
  · cases h
    exact absurd rfl hstatus
  · rename_i url hurl
    split at h
    · cases h
      exact absurd rfl hstatus
    · obtain ⟨⟨via, hvia, hargv⟩, hlisten⟩ := contrast_ok h
      exact ⟨url, via, _, hurl, hvia, hargv, hlisten, rfl⟩

/-- The registries whose contrast is always about a configured proxy: the deciding port is the
port of a local entry, if there is a local entry at all. -/
def PortIsLocal (reg : ProxyRegistrySnapshot) : Prop :=
  WininetActive reg → ∀ port ∈ decidingPort (entriesOf reg.proxyServer),
    ∃ e ∈ entriesOf reg.proxyServer, e.isLocal = true ∧ e.port = port

/-- A machine on which only the way past the proxy works. -/
def bypassOnly : List String → CommandResult
  | ["curl", "--version"] => .exited 0 "" ""
  | "curl" :: "--noproxy" :: _ => .exited 0 "200" ""
  | _ => .raised ""

theorem contrast_bypassOnly (o : Options) (scheme : String) (port : Int)
    (obs : List ProofObservation) (evidence : Evidence) :
    ∃ r, contrast o bypassOnly (localUrl scheme port) obs evidence = .ok r ∧
      r.status = .confirmed := by
  have hwith : runCmd bypassOnly (curlArgv o.testUrl (some (localUrl scheme port)) false
      o.curlTimeout) = (1, []) := by
    rw [curlArgv_proxy]
    rfl
  have hno : runCmd bypassOnly (curlArgv o.testUrl none true o.curlTimeout) =
      (0, strip "200".toList) := by
    rw [show strip "200".toList = strip ("200".toList ++ "".toList) by simp]
    rfl
  have hok : interpretCurlHttpsOk 0 (strip "200".toList) = .ok true := by decide
  unfold contrast
  dsimp only
  rw [hwith, hno]
  dsimp only
  rw [hok]
  exact ⟨_, rfl, rfl⟩

/-- Such a machine confirms whenever the registry has a local entry. -/
theorem confirmed_bypassOnly {reg : ProxyRegistrySnapshot} (hactive : WininetActive reg)
    (o : Options) :
    ∃ r, runLocalhostProxyHttpsProof reg o bypassOnly = .ok r ∧ r.status = .confirmed := by
  obtain ⟨port, -, -, scheme, -, hurl⟩ := routing_active hactive (winhttpText bypassOnly)
  unfold runLocalhostProxyHttpsProof
  dsimp only
  rw [hurl]
  exact contrast_bypassOnly o scheme port _ _

/-- Nothing follows in the empty text. -/
theorem not_portFollows_nil (port : Int) : ¬PortFollows [] port := by
  rintro ⟨before, host, digits, after, htext, -⟩
  simp at htext

/-- There the port that was tested is the deciding one, and WinHTTP says nothing. -/
theorem local_of_bypassOnly {reg : ProxyRegistrySnapshot} (hactive : WininetActive reg)
    {o : Options} {r : ProofResult} (hr : runLocalhostProxyHttpsProof reg o bypassOnly = .ok r)
    (hstatus : r.status = .confirmed)
    (htests : TestsConfiguredProxy reg (winhttpText bypassOnly).2 r) {port : Int}
    (hport : decidingPort (entriesOf reg.proxyServer) = some port) :
    ∃ e ∈ entriesOf reg.proxyServer, e.isLocal = true ∧ e.port = port := by
  obtain ⟨tested, -, listen, -, -, hlisten, hprobed, hconfigured⟩ := htests
  obtain ⟨-, -, listen', -, -, -, hlisten', hprobed'⟩ :=
    decisive_routing hr (by rw [hstatus]; decide)
  obtain ⟨routed, hrouted, hprobe, -⟩ := routing_active hactive (winhttpText bypassOnly)
  have hsame : listen = listen' := Option.some.inj (hlisten.symm.trans hlisten')
  have htested : tested = routed := by
    rw [← hsame, hprobed, hprobe] at hprobed'
    exact Option.some.inj hprobed'
  have hdeciding : routed = port := Option.some.inj (hrouted.symm.trans hport)
  rcases hconfigured with hlocal | hfollows
  · rw [← hdeciding, ← htested]
    exact hlocal.2
  · exact absurd hfollows (not_portFollows_nil tested)

/-- Whatever the commands come to, a contrast with a verdict is about the port of a local entry of
an enabled `ProxyServer`, or one behind a loopback host in WinHTTP's text, and it looked for a
listener there: exactly of the registries whose deciding port is local. -/
theorem contrast_iff (reg : ProxyRegistrySnapshot) :
    (∀ (o : Options) (run : List String → CommandResult) (r : ProofResult),
      runLocalhostProxyHttpsProof reg o run = .ok r →
      r.status = .confirmed ∨ r.status = .rejected →
      TestsConfiguredProxy reg (winhttpText run).2 r) ↔ PortIsLocal reg := by
  constructor
  · intro h hactive port hport
    obtain ⟨r, hr, hstatus⟩ := confirmed_bypassOnly hactive {}
    exact local_of_bypassOnly hactive hr hstatus (h {} bypassOnly r hr (.inl hstatus)) hport
  · intro hlocal o run r hr hstatus
    obtain ⟨url, via, listen, hurl, hvia, hargv, hlisten, hprobed⟩ :=
      decisive_routing hr (by rcases hstatus with h | h <;> rw [h] <;> decide)
    by_cases hactive : WininetActive reg
    · obtain ⟨port, hport, hprobe, scheme, hscheme, hrouted⟩ :=
        routing_active hactive (winhttpText run)
      obtain rfl := Option.some.inj (hurl.symm.trans hrouted)
      rw [curlArgv_proxy] at hargv
      refine ⟨port, via, listen, hvia, ⟨by rw [hargv]; rfl, scheme, hscheme, by rw [hargv]; rfl⟩,
        hlisten, hprobed.trans hprobe, .inl ⟨hactive.1, hlocal hactive port hport⟩⟩
    · obtain ⟨port, hfollows, hprobe, rfl⟩ := routing_inactive hactive hurl
      rw [curlArgv_proxy] at hargv
      exact ⟨port, via, listen, hvia, ⟨by rw [hargv]; rfl, "http", by simp, by rw [hargv]; rfl⟩,
        hlisten, hprobed.trans hprobe, .inr hfollows⟩

/-- A remote HTTPS proxy beside a local SOCKS proxy. -/
def mixedList : ProxyRegistrySnapshot where
  proxyEnable := some 1
  proxyServer := some "https=proxy.corp:8443;socks=127.0.0.1:1080"

theorem entriesOf_mixedList : entriesOf mixedList.proxyServer =
    [⟨"https".toList, "proxy.corp".toList, 8443⟩, ⟨"socks".toList, "127.0.0.1".toList, 1080⟩] := by
  decide +kernel

/-- The contrast of the mixed list is about port 8443 of this machine, and confirms. -/
theorem mixedList_confirmed :
    ∃ r, runLocalhostProxyHttpsProof mixedList {} bypassOnly = .ok r ∧ r.status = .confirmed ∧
      ¬TestsConfiguredProxy mixedList (winhttpText bypassOnly).2 r := by
  have hactive : WininetActive mixedList := ⟨rfl, by rw [entriesOf_mixedList]; decide⟩
  have hport : decidingPort (entriesOf mixedList.proxyServer) = some 8443 := by
    rw [entriesOf_mixedList]
    decide
  obtain ⟨r, hr, hstatus⟩ := confirmed_bypassOnly hactive {}
  refine ⟨r, hr, hstatus, fun htests => ?_⟩
  obtain ⟨e, he, hlocal, heq⟩ := local_of_bypassOnly hactive hr hstatus htests hport
  rw [entriesOf_mixedList] at he
  simp only [List.mem_cons, List.not_mem_nil, or_false] at he
  rcases he with rfl | rfl
  · exact absurd hlocal (by decide)
  · exact absurd heq (by decide)

end ProxyProof
