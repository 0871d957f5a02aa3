import NetworkRecovery.Live.Gates
import NetworkRecovery.Proof.ProxyHttps

/-!
# From the contrast to the gates

`diagnose-live` runs the HTTPS contrast, assesses the trust with what came of it, and decides on the
ranked hypotheses with both. A row allows a remedy for a contrast that confirms, of a hypothesis it is
about, with nothing that degrades the trust (`remedy_allowed_iff`): the three agree on that.

They do not agree on what degrades it. The flag and its reasons are told by conditions of their own
(`assessTrust_degraded`, `assessTrust_reasons`), and a contrast without `curl` says `not available`
where the assessment listens for `unavailable`, so that it never hears of one (`degraded_iff`).
-/

namespace Live

open Python
open ProxyDrift (CommandResult)
open ProxyProof (Options runLocalhostProxyHttpsProof routing winhttpText runCmd curlArgv
  interpretCurlHttpsOk)

/-! ## What the contrast hands on -/

def statusOf : ProxyProof.ProofStatus → ProofStatus
  | .confirmed => .confirmed
  | .rejected => .rejected
  | .inconclusive => .inconclusive

/-- `OutcomeLiteral`. -/
def outcomeText : ProxyProof.StepOutcome → String
  | .pass => "pass"
  | .fail => "fail"
  | .skipped => "skipped"
  | .error => "error"

def optionalBool : Option Bool → Value
  | some b => .bool b
  | none => .none

def observationOf (o : ProxyProof.ProofObservation) : ProofObservation where
  stepId := o.stepId
  label := o.label
  outcome := .str (outcomeText o.outcome)
  detail := o.detail

def registryOf (reg : ProxyGuard.ProxyRegistrySnapshot) : ProxyRegistry where
  proxyEnable := optionalInt reg.proxyEnable
  proxyServer := optionalText reg.proxyServer
  autoConfigUrl := optionalText reg.autoConfigUrl
  autoDetect := optionalInt reg.autoDetect
  proxyOverride := optionalText reg.proxyOverride

def parsedOf (parsed : ProxyGuard.ParsedProxy) : ParsedProxy where
  raw := optionalText parsed.raw
  isMissing := parsed.isMissing
  isMalformed := parsed.isMalformed
  isLocalhostProxy := parsed.isLocalhostProxy
  localhostHost := optionalText parsed.localhostHost
  localhostPort := optionalInt parsed.localhostPort
  proxyMode := parsed.proxyMode
  socksPort := optionalInt parsed.socksPort
  httpLocalhostPort := optionalInt parsed.httpLocalhostPort
  httpsLocalhostPort := optionalInt parsed.httpsLocalhostPort

def routingDict (r : ProxyProof.RoutingSummary) : Dict :=
  [("wininet_active_localhost", .bool r.wininetActiveLocalhost),
    ("winhttp_loopback_hint", .bool r.winhttpLoopbackHint),
    ("effective_curl_proxy_url", optionalText r.effectiveCurlProxyUrl),
    ("effective_listen_probe_port", optionalInt r.effectiveListenProbePort),
    ("curl_scheme", .str r.curlScheme)]

def listenDict (l : ProxyProof.NetstatListen) : Dict :=
  [("exit_code", .int l.exitCode),
    ("port_probed", optionalInt l.portProbed),
    ("listening_best_effort", optionalBool l.listeningBestEffort)]

def probeDict (p : ProxyProof.CurlProbe) : Dict :=
  [("exit_code", .int p.exitCode),
    ("http_code_field", .str (.ofList p.httpCodeField)),
    ("argv", textList p.argv),
    ("interpreted_ok", .bool p.interpretedOk)]

/-- The `evidence` of the contrast, without the entries of steps that were not reached. -/
def evidenceDict (e : ProxyProof.Evidence) : Dict :=
  [("proxy_registry_snapshot", Value.dict (registryOf e.proxyRegistrySnapshot).toDict),
    ("parsed_proxy_server", .dict (parsedOf e.parsedProxyServer).toDict),
    ("winhttp_show_proxy", .dict [("exit_code", .int e.winhttpShowProxy.1),
      ("output_excerpt", .str (.ofList e.winhttpShowProxy.2))]),
    ("routing_summary", .dict (routingDict e.routingSummary))] ++
  (e.netstatListen.map fun l => ("netstat_listen", Value.dict (listenDict l))).toList ++
  (e.curlVersionProbeExcerpt.map fun text =>
    ("curl_version_probe_excerpt", Value.str (.ofList text))).toList ++
  (e.httpsViaExplicitProxy.map fun p =>
    ("https_via_explicit_proxy", Value.dict (probeDict p))).toList ++
  (e.httpsBypassProxy.map fun p => ("https_bypass_proxy", Value.dict (probeDict p))).toList ++
  (e.comparison.map fun c => ("comparison", Value.dict [("via_proxy_ok", .bool c.1),
    ("bypass_ok", .bool c.2)])).toList

/-- The `ProofResult` of the contrast. -/
def proofOf (r : ProxyProof.ProofResult) : ProofResult where
  proofId := r.proofId
  status := statusOf r.status
  hypothesis := r.hypothesis
  summary := r.summary
  observations := r.observations.map observationOf
  evidence := evidenceDict r.evidence

section Commands

variable (reg : ProxyGuard.ProxyRegistrySnapshot) (o : Options) (run : List String → CommandResult)

/-- `localhost_proof`: nothing if the contrast raised. -/
def localhostProof : Option ProofResult :=
  (runLocalhostProxyHttpsProof reg o run).toOption.map proofOf

/-- The trust and the rows of `diagnose-live`, with a contrast. -/
def liveDecisions (ranked : List LiveHypothesisScore) (snapshot : LiveNetworkSnapshot)
    (proofs : Bool) (proofEngineError : Option String) : TrustAssessment × List Dict :=
  let trust := assessTrust snapshot (localhostProof reg o run) proofs proofEngineError
  (trust, buildHypothesisDecisions ranked (localhostProof reg o run) proofs trust)

def proxiedFetch (url : String) : Int × List Char :=
  runCmd run (curlArgv o.testUrl (some url) false o.curlTimeout)

def bypassFetch : Int × List Char := runCmd run (curlArgv o.testUrl none true o.curlTimeout)

/-- A fetch that is taken for a success: exit 0, and a number from 1 to 599 written. -/
def FetchOk (fetch : Int × List Char) : Prop :=
  fetch.1 = 0 ∧ ProxyProof.isDigitText (strip fetch.2) = true ∧
    ∃ code, intOfText (strip fetch.2) = some code ∧ 1 ≤ code ∧ code ≤ 599

/-- The outcomes of the commands that confirm. -/
def Confirms : Prop :=
  ∃ url, (routing reg (winhttpText run)).effectiveCurlProxyUrl = some url ∧
    (runCmd run ["curl", "--version"]).1 = 0 ∧
    interpretCurlHttpsOk (proxiedFetch o run url).1 (proxiedFetch o run url).2 = .ok false ∧
    FetchOk (bypassFetch o run)

variable {reg o run}

theorem interpret_ok_true_iff (fetch : Int × List Char) :
    interpretCurlHttpsOk fetch.1 fetch.2 = .ok true ↔ FetchOk fetch := by
  unfold interpretCurlHttpsOk FetchOk
  by_cases hexit : fetch.1 = 0
  · rw [if_neg (not_not.mpr hexit)]
    by_cases hdigits : ProxyProof.isDigitText (strip fetch.2) = true
    · rw [if_neg (by simp [hdigits])]
      cases hcode : intOfText (strip fetch.2) with
      | none => simp
      | some code =>
        simp only [hexit, hdigits, true_and, Option.some.injEq, exists_eq_left', Except.ok.injEq,
          Bool.and_eq_true, decide_eq_true_eq]
        omega
    · rw [if_pos (by simp [hdigits])]
      simp [hdigits]
  · rw [if_pos hexit]
    simp [hexit]

theorem contrast_confirmed_iff {url : String} {obs : List ProxyProof.ProofObservation}
    {evidence : ProxyProof.Evidence} :
    (∃ r, ProxyProof.contrast o run url obs evidence = .ok r ∧ r.status = .confirmed) ↔
      interpretCurlHttpsOk (proxiedFetch o run url).1 (proxiedFetch o run url).2 = .ok false ∧
        FetchOk (bypassFetch o run) := by
  rw [← interpret_ok_true_iff]
  unfold ProxyProof.contrast proxiedFetch bypassFetch
  constructor
  · intro h
    obtain ⟨r, hr, hstatus⟩ := h
    obtain ⟨okWith, hwith, hr⟩ := bind_ok.mp hr
    obtain ⟨okNo, hno, hr⟩ := bind_ok.mp hr
    obtain rfl := Except.ok.inj hr
    cases okWith with
    | true => cases okNo <;> cases hstatus
    | false =>
      cases okNo with
      | true => exact ⟨hwith, hno⟩
      | false => cases hstatus
  · intro h
    obtain ⟨hwith, hno⟩ := h
    dsimp only
    rw [hwith, hno]
    exact ⟨_, rfl, rfl⟩

/-- The contrast confirms for those outcomes. -/
theorem confirmed_iff :
    (∃ p, localhostProof reg o run = some p ∧ p.status = .confirmed) ↔ Confirms reg o run := by
  have hproof : (∃ p, localhostProof reg o run = some p ∧ p.status = .confirmed) ↔
      ∃ r, runLocalhostProxyHttpsProof reg o run = .ok r ∧ r.status = .confirmed := by
    unfold localhostProof
    cases runLocalhostProxyHttpsProof reg o run with
    | error e => simp [Except.toOption]
    | ok r =>
      simp only [Except.toOption, Option.map_some, Option.some.injEq, exists_eq_left',
        Except.ok.injEq, proofOf]
      cases r.status <;> simp [statusOf]
  rw [hproof]
  unfold runLocalhostProxyHttpsProof Confirms
  dsimp only
  cases hurl : (routing reg (winhttpText run)).effectiveCurlProxyUrl with
  | none => simp
  | some url =>
    by_cases hcurl : (runCmd run ["curl", "--version"]).1 = 0
    · simp only [hcurl, ne_eq, not_true_eq_false, if_false, Option.some.injEq, exists_eq_left',
        true_and]
      exact contrast_confirmed_iff
    · simp [hcurl]

/-! ## What the assessment listens for -/

/-- `"curl unavailable" in summary.lower()`. -/
def saysUnavailable (summary : String) : Bool :=
  contains "curl unavailable".toList (lower summary.toList)

theorem says_ofList {summary : String} {text : List Char} (h : summary = .ofList text) :
    saysUnavailable summary = contains "curl unavailable".toList (lower text) := by
  rw [saysUnavailable, h, @String.toList_ofList text]

theorem says_append {summary rest : String} {text text' : List Char} (h : summary = .ofList text)
    (h' : rest = .ofList text') :
    saysUnavailable (summary ++ rest) =
      contains "curl unavailable".toList (lower (text ++ text')) := by
  rw [saysUnavailable, String.toList_append, h, h', @String.toList_ofList text,
    @String.toList_ofList text']

/-- No contrast says that `curl` is unavailable. -/
theorem summary_of_ok {r : ProxyProof.ProofResult}
    (h : runLocalhostProxyHttpsProof reg o run = .ok r) : saysUnavailable r.summary = false := by
  unfold runLocalhostProxyHttpsProof at h
  dsimp only at h
  split at h
  · obtain rfl := Except.ok.inj h
    exact (says_append rfl rfl).trans (by decide +kernel)
  · split at h
    · obtain rfl := Except.ok.inj h
      exact (says_ofList rfl).trans (by decide +kernel)
    · obtain ⟨okWith, -, h⟩ := bind_ok.mp h
      obtain ⟨okNo, -, h⟩ := bind_ok.mp h
      obtain rfl := Except.ok.inj h
      cases okWith <;> cases okNo
      · exact (says_append rfl rfl).trans (by decide +kernel)
      · exact (says_ofList rfl).trans (by decide +kernel)
      · exact (says_append rfl rfl).trans (by decide +kernel)
      · exact (says_ofList rfl).trans (by decide +kernel)

/-- A proof in whose summary the assessment finds a missing `curl`. -/
def SaysCurlUnavailable (proof : Option ProofResult) : Prop :=
  ∃ p, proof = some p ∧ saysUnavailable p.summary = true

/-- Proofs were asked for, and there was an error or no proof. -/
def ProofsMissing (proof : Option ProofResult) (proofs : Bool) (error : Option String) : Prop :=
  proofs = true ∧ (error.isSome = true ∨ proof = none)

variable {snapshot : LiveNetworkSnapshot} {proof : Option ProofResult} {proofs : Bool}
  {error : Option String}

/-- The signals are always worth as much. -/
theorem aggregate_above_floor :
    (((((cents 58).add (cents 72)).add (cents 78)).add (cents 64)).divNat 4).lt (cents 42) =
      false := by
  decide +kernel

theorem assessTrust_degraded :
    (assessTrust snapshot proof proofs error).degradedMode = true ↔
      2 ≤ (conflictsOf snapshot).length ∨ ProofsMissing proof proofs error ∨
        SaysCurlUnavailable proof := by
  unfold ProofsMissing SaysCurlUnavailable saysUnavailable assessTrust
  dsimp only
  rw [aggregate_above_floor]
  simp only [Bool.false_or, Bool.or_eq_true, Bool.and_eq_true, decide_eq_true_eq, Option.any_eq_true,
    Option.isNone_iff_eq_none, or_assoc]

theorem assessTrust_reasons :
    (assessTrust snapshot proof proofs error).degradedReasons ≠ [] ↔
      2 ≤ (conflictsOf snapshot).length ∨ ProofsMissing proof proofs error ∨
        ∃ e, error = some e ∧ e ≠ "" := by
  unfold ProofsMissing assessTrust
  dsimp only
  rw [aggregate_above_floor]
  by_cases hconflicts : 2 ≤ (conflictsOf snapshot).length
  · simp [hconflicts]
  · cases error with
    | none => cases proofs <;> cases proof <;> simp [hconflicts]
    | some e =>
      by_cases hempty : e = ""
      · cases proofs <;> simp [hconflicts, hempty]
      · simp [hconflicts, hempty]

/-! ## The rows -/

theorem bandDetail_ne_allow (confidence : FloatVal) : (bandDetail confidence).1 ≠ .allow := by
  unfold bandDetail
  split_ifs <;> intro h <;> cases h

theorem policyDetail_allow_iff (confidence : FloatVal) (token : String) :
    (hypothesisPolicyDetail confidence token).1 = .allow ↔ token = ProofStatus.confirmed.name := by
  unfold hypothesisPolicyDetail
  split_ifs with hconfirmed hrejected
  · exact ⟨fun _ => hconfirmed, fun _ => rfl⟩
  · exact ⟨fun h => (by cases h), fun h => absurd h hconfirmed⟩
  · exact ⟨fun h => absurd h (bandDetail_ne_allow confidence), fun h => absurd h hconfirmed⟩

theorem token_confirmed_iff (hypothesis : HypothesisKey) :
    proofStatusToken hypothesis proof proofs = ProofStatus.confirmed.name ↔
      proofs = true ∧ hypothesis ∈ proofLocalhostProxyHypotheses ∧
        ∃ p, proof = some p ∧ p.status = .confirmed := by
  unfold proofStatusToken
  cases proof with
  | none => simp [ProofStatus.name]
  | some p =>
    dsimp only
    split_ifs with hread
    · cases hstatus : p.status <;> simp [ProofStatus.name, hread, hstatus]
    · simp only [ProofStatus.name, Option.some.injEq, exists_eq_left']
      constructor
      · intro h
        exact absurd h (by decide)
      · intro h
        exact absurd ⟨h.1, h.2.1⟩ hread

/-- A row allows a remedy for a confirmed proof of its hypothesis, if nothing degrades the trust. -/
theorem decisionRow_allow_iff (trust : TrustAssessment) (s : LiveHypothesisScore) :
    (decisionRow proof proofs trust s).decision = .allow ↔
      (proofs = true ∧ s.hypothesis ∈ proofLocalhostProxyHypotheses ∧
        ∃ p, proof = some p ∧ p.status = .confirmed) ∧ trust.degradedMode = false := by
  rw [← token_confirmed_iff, ← policyDetail_allow_iff s.confidence]
  unfold decisionRow
  dsimp only
  cases htrust : trust.degradedMode with
  | false => simp
  | true =>
    by_cases hallow : (hypothesisPolicyDetail s.confidence
        (proofStatusToken s.hypothesis proof proofs)).1 = .allow
    · simp [hallow]
    · simp [hallow]

theorem toDict_allow_iff (row : HypothesisDecisionRow) :
    row.toDict.get? "decision" = some (.str "ALLOW") ↔ row.decision = .allow := by
  have hget : row.toDict.get? "decision" = some (.str row.decision.value) := rfl
  rw [hget]
  cases row.decision <;> simp [PolicyDecision.value]

end Commands

/-- What a row needs to allow a remedy of its hypothesis. -/
structure AllowsRemedy (reg : ProxyGuard.ProxyRegistrySnapshot) (o : Options)
    (run : List String → CommandResult) (snapshot : LiveNetworkSnapshot) (proofs : Bool)
    (error : Option String) (hypothesis : HypothesisKey) : Prop where
  requested : proofs = true
  provable : hypothesis ∈ proofLocalhostProxyHypotheses
  confirms : Confirms reg o run
  noError : error = none
  fewConflicts : (conflictsOf snapshot).length < 2

section Decisions

variable {reg : ProxyGuard.ProxyRegistrySnapshot} {o : Options} {run : List String → CommandResult}
  {snapshot : LiveNetworkSnapshot} {proofs : Bool} {error : Option String}

/-- A contrast never says that `curl` is unavailable. -/
theorem not_saysCurlUnavailable : ¬ SaysCurlUnavailable (localhostProof reg o run) := by
  intro h
  obtain ⟨p, hp, hsays⟩ := h
  unfold localhostProof at hp
  obtain ⟨r, hr, rfl⟩ := Option.map_eq_some_iff.mp hp
  have hok : runLocalhostProxyHttpsProof reg o run = .ok r := by
    cases hrun : runLocalhostProxyHttpsProof reg o run with
    | error e =>
      rw [hrun] at hr
      cases hr
    | ok r' =>
      rw [hrun] at hr
      exact congrArg Except.ok (Option.some.inj hr)
  have hquiet := summary_of_ok hok
  have hsays' : saysUnavailable r.summary = true := hsays
  rw [hquiet] at hsays'
  cases hsays'

theorem allowsRemedy_iff (s : LiveHypothesisScore) :
    (decisionRow (localhostProof reg o run) proofs
      (assessTrust snapshot (localhostProof reg o run) proofs error) s).decision = .allow ↔
      AllowsRemedy reg o run snapshot proofs error s.hypothesis := by
  rw [decisionRow_allow_iff, confirmed_iff, Bool.eq_false_iff, ne_eq, assessTrust_degraded]
  constructor
  · intro h
    obtain ⟨⟨hproofs, hprovable, hconfirms⟩, htrust⟩ := h
    simp only [not_or, ProofsMissing, not_and] at htrust
    obtain ⟨hfew, hmissing, -⟩ := htrust
    have hnoError := (hmissing hproofs).1
    exact ⟨hproofs, hprovable, hconfirms, by simpa using hnoError, by omega⟩
  · intro h
    refine ⟨⟨h.requested, h.provable, h.confirms⟩, ?_⟩
    obtain ⟨p, hp, -⟩ := confirmed_iff.mpr h.confirms
    have hfew := h.fewConflicts
    intro hdegraded
    rcases hdegraded with hconflicts | hmissing | hsays
    · omega
    · obtain ⟨-, hsome | hnone⟩ := hmissing
      · rw [h.noError] at hsome
        cases hsome
      · rw [hp] at hnone
        cases hnone
    · exact not_saysCurlUnavailable hsays

theorem AllowsRemedy.degradedReasons_eq_nil {hypothesis : HypothesisKey}
    (h : AllowsRemedy reg o run snapshot proofs error hypothesis) :
    (assessTrust snapshot (localhostProof reg o run) proofs error).degradedReasons = [] := by
  by_contra hreasons
  obtain ⟨p, hp, -⟩ := confirmed_iff.mpr h.confirms
  have hfew := h.fewConflicts
  rcases assessTrust_reasons.mp hreasons with hconflicts | hmissing | ⟨e, he, -⟩
  · omega
  · obtain ⟨-, hsome | hnone⟩ := hmissing
    · rw [h.noError] at hsome
      cases hsome
    · rw [hp] at hnone
      cases hnone
  · rw [h.noError] at he
    cases he

end Decisions

/-- The registry of a machine with a local proxy. -/
def localProxy : ProxyGuard.ProxyRegistrySnapshot where
  proxyEnable := some 1
  proxyServer := some "127.0.0.1:8888"

/-- A snapshot whose signals agree. -/
def calmSnapshot : LiveNetworkSnapshot where
  generatedAtUtc := "2025-01-01T00:00:00+00:00"
  featureVector := {
    pingIpOk := true
    pingDomainOk := true
    nslookupOk := true
    tcp443Ok := true
    browserHttpOk := false
    proxyEnabled := true
    winhttpProxyEnabled := false
    dnsServersDetected := 2
    adapterConnected := true
    gatewayReachable := some true
    tlsCertIssueDetected := false
    firewallPathSuspected := false
    timeWaitCount := 12
    establishedCount := 40 }
  proxyRegistry := registryOf localProxy
  parsedProxy := parsedOf (ProxyGuard.parseProxyServer localProxy.proxyServer)
  portOwners := []
  localhostListenPorts := []
  interestingProcesses := []
  tcpTopPorts := []
  commandsExecuted := []
  permissionNotes := []

theorem conflictsOf_calmSnapshot : conflictsOf calmSnapshot = [] := by
  decide +kernel

theorem localProxy_active : ProxyProof.WininetActive localProxy := by
  refine ⟨rfl, ?_⟩
  decide +kernel

/-- Whatever the commands come to, a row allows a remedy exactly for a confirmed contrast of its
hypothesis, without an error and with at most one conflict, and then nothing is degraded. -/
theorem remedy_allowed_iff (reg : ProxyGuard.ProxyRegistrySnapshot) (o : Options)
    (run : List String → CommandResult) (ranked : List LiveHypothesisScore)
    (snapshot : LiveNetworkSnapshot) (proofs : Bool) (error : Option String) :
    List.Forall₂ (fun s row =>
        (Dict.get? row "decision" = some (.str "ALLOW") ↔
          AllowsRemedy reg o run snapshot proofs error s.hypothesis) ∧
        (Dict.get? row "decision" = some (.str "ALLOW") →
          (liveDecisions reg o run ranked snapshot proofs error).1.degradedReasons = []))
      ranked (liveDecisions reg o run ranked snapshot proofs error).2 := by
  unfold liveDecisions buildHypothesisDecisions
  dsimp only
  rw [List.forall₂_map_right_iff, List.forall₂_same]
  intro s hs
  rw [toDict_allow_iff, allowsRemedy_iff]
  exact ⟨Iff.rfl, fun h => h.degradedReasons_eq_nil⟩

/-- Where only the way past the proxy works, the hijack is one whose remedy is allowed. -/
theorem remedy_allowed_iff_bypassOnly :
    ∃ row, (liveDecisions localProxy {} ProxyProof.bypassOnly [⟨.localProxyHijack, cents 70, [], []⟩]
        calmSnapshot true none).2 = [row] ∧
      Dict.get? row "decision" = some (.str "ALLOW") := by
  have hconfirms : Confirms localProxy {} ProxyProof.bypassOnly := by
    obtain ⟨r, hr, hstatus⟩ := ProxyProof.confirmed_bypassOnly localProxy_active {}
    apply confirmed_iff.mp
    refine ⟨proofOf r, by rw [localhostProof, hr]; rfl, ?_⟩
    show statusOf r.status = .confirmed
    rw [hstatus]
    rfl
  have hrows := remedy_allowed_iff localProxy {} ProxyProof.bypassOnly
    [⟨.localProxyHijack, cents 70, [], []⟩] calmSnapshot true none
  obtain ⟨row, rows, ⟨hrow, -⟩, hrest, hall⟩ := List.forall₂_cons_left_iff.mp hrows
  rw [List.forall₂_nil_left_iff.mp hrest] at hall
  refine ⟨row, hall, hrow.mpr ⟨rfl, by decide, hconfirms, rfl, ?_⟩⟩
  rw [conflictsOf_calmSnapshot, List.length_nil]
  omega

/-! ## Degradation -/

/-- The contrast had a proxy, and `curl --version` failed. -/
def CurlMissing (reg : ProxyGuard.ProxyRegistrySnapshot) (run : List String → CommandResult) : Prop :=
  (routing reg (winhttpText run)).effectiveCurlProxyUrl.isSome = true ∧
    (runCmd run ["curl", "--version"]).1 ≠ 0

theorem CurlMissing.isSome {reg : ProxyGuard.ProxyRegistrySnapshot} {o : Options}
    {run : List String → CommandResult} (h : CurlMissing reg run) :
    localhostProof reg o run ≠ none := by
  obtain ⟨hurl, hcurl⟩ := h
  obtain ⟨url, hurl⟩ := Option.isSome_iff_exists.mp hurl
  unfold localhostProof runLocalhostProxyHttpsProof
  dsimp only
  rw [hurl]
  dsimp only
  rw [if_pos hcurl]
  intro hnone
  cases hnone

/-- The flag goes with the reasons unless a text alone sets one of them: the summary of a proof the
flag, an error the reasons. And a contrast without `curl` never sets it. -/
theorem degraded_iff (snapshot : LiveNetworkSnapshot) (proofs : Bool) (error : Option String) :
    (∀ proof : Option ProofResult,
      ((assessTrust snapshot proof proofs error).degradedMode = true ↔
          (assessTrust snapshot proof proofs error).degradedReasons ≠ []) ↔
        2 ≤ (conflictsOf snapshot).length ∨ ProofsMissing proof proofs error ∨
          (SaysCurlUnavailable proof ↔ ∃ e, error = some e ∧ e ≠ "")) ∧
    ∀ (reg : ProxyGuard.ProxyRegistrySnapshot) (o : Options) (run : List String → CommandResult),
      CurlMissing reg run →
        ((assessTrust snapshot (localhostProof reg o run) proofs error).degradedMode = true ↔
          2 ≤ (conflictsOf snapshot).length ∨ (proofs = true ∧ error.isSome = true)) := by
  constructor
  · intro proof
    rw [assessTrust_degraded, assessTrust_reasons]
    by_cases hcommon : 2 ≤ (conflictsOf snapshot).length ∨ ProofsMissing proof proofs error
    · simp only [← or_assoc, hcommon, true_or]
    · simp only [← or_assoc, hcommon, false_or]
  · intro reg o run hmissing
    have hsome := hmissing.isSome (o := o)
    have hquiet := @not_saysCurlUnavailable reg o run
    rw [assessTrust_degraded, ProofsMissing]
    tauto

/-- A machine on which no command runs. -/
def noCommand : List String → CommandResult := fun _ => .raised "not found"

theorem curlMissing_noCommand : CurlMissing localProxy noCommand := by
  obtain ⟨port, -, -, scheme, -, hurl⟩ :=
    ProxyProof.routing_active localProxy_active (winhttpText noCommand)
  refine ⟨by rw [hurl]; rfl, ?_⟩
  show (1 : Int) ≠ 0
  omega

theorem degraded_iff_noCommand : CurlMissing localProxy noCommand ∧
    ((assessTrust calmSnapshot (localhostProof localProxy {} noCommand) true none).degradedMode =
        true ↔
      2 ≤ (conflictsOf calmSnapshot).length ∨
        (true = true ∧ (none : Option String).isSome = true)) :=
  ⟨curlMissing_noCommand,
    (degraded_iff calmSnapshot true none).2 localProxy {} noCommand curlMissing_noCommand⟩

/-- Without `curl` the trust is not degraded; and an error is a reason where no proof was asked for. -/
theorem missing_curl_unnoticed : CurlMissing localProxy noCommand ∧
    (assessTrust calmSnapshot (localhostProof localProxy {} noCommand) true none).degradedMode =
      false ∧
    ¬ ((assessTrust calmSnapshot none false (some "OSError:")).degradedMode = true ↔
      (assessTrust calmSnapshot none false (some "OSError:")).degradedReasons ≠ []) := by
  refine ⟨curlMissing_noCommand, ?_, ?_⟩
  · rw [Bool.eq_false_iff, ne_eq, assessTrust_degraded, conflictsOf_calmSnapshot]
    intro hdegraded
    rcases hdegraded with hconflicts | hmissing | hsays
    · cases hconflicts
    · obtain ⟨-, hsome | hnone⟩ := hmissing
      · cases hsome
      · exact curlMissing_noCommand.isSome hnone
    · exact not_saysCurlUnavailable hsays
  · rw [assessTrust_degraded, assessTrust_reasons, conflictsOf_calmSnapshot]
    simp [ProofsMissing, SaysCurlUnavailable]

end Live
