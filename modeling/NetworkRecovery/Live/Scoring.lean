import Mathlib.Logic.Function.Basic
import NetworkRecovery.Live.Snapshot
import NetworkRecovery.Python.Float

/-!
# Scores of a live snapshot

`score_live_snapshot` of `hypothesis/live_scoring.py`: ten hypotheses start with
one prior, each rule that applies raises one of them or notes what speaks
against it, and the ten are ranked by their confidence, which is clamped to the
unit interval.

The rules are taken over in their order, as every addition rounds. What the
replay needs of the ranking is that it holds each hypothesis once and that its
confidences are numbers (`scoreLiveSnapshot_ok`).
-/

namespace Live

open Python

/-! ## Hypotheses -/

inductive HypothesisKey where
  | unexpectedUserProxy
  | localProxyHijack
  | browserProxyPathIssue
  | localhostProxyOwnerSuspicious
  | socketExhaustion
  | dnsResolutionIssue
  | tlsPathIssue
  | winhttpProxyIssue
  | winsockCorruptionPossible
  | ispRouterPathIssue
  deriving DecidableEq

def HypothesisKey.text : HypothesisKey → String
  | .unexpectedUserProxy => "unexpected_user_proxy"
  | .localProxyHijack => "local_proxy_hijack"
  | .browserProxyPathIssue => "browser_proxy_path_issue"
  | .localhostProxyOwnerSuspicious => "localhost_proxy_owner_suspicious"
  | .socketExhaustion => "socket_exhaustion"
  | .dnsResolutionIssue => "dns_resolution_issue"
  | .tlsPathIssue => "tls_path_issue"
  | .winhttpProxyIssue => "winhttp_proxy_issue"
  | .winsockCorruptionPossible => "winsock_corruption_possible"
  | .ispRouterPathIssue => "isp_router_path_issue"

/-- `ALL_HYPOTHESES`. -/
def allHypotheses : List HypothesisKey :=
  [.unexpectedUserProxy, .localProxyHijack, .browserProxyPathIssue, .localhostProxyOwnerSuspicious,
    .socketExhaustion, .dnsResolutionIssue, .tlsPathIssue, .winhttpProxyIssue,
    .winsockCorruptionPossible, .ispRouterPathIssue]

/-- The texts are different. -/
theorem nodup_texts : (allHypotheses.map HypothesisKey.text).Nodup := by decide

/-! ## The bag -/

/-- Hundredths. -/
def cents (n : Nat) : FloatVal := .ofScientific n (-2)

/-- `_clamp`. -/
def clamp (x : FloatVal) : FloatVal := .max .zero (.min .one x)

/-- What is known of a hypothesis so far. -/
structure BagEntry where
  confidence : FloatVal
  evidence : List String
  negative : List String

abbrev Bag := HypothesisKey → BagEntry

/-- `_empty_scores`. -/
def emptyScores : Bag := fun _ => ⟨cents 6, [], []⟩

/-- `_bump`. -/
def bump (key : HypothesisKey) (amt : FloatVal) (note : String) (bag : Bag) : Bag :=
  let entry := bag key
  Function.update bag key
    { entry with confidence := entry.confidence.add amt, evidence := entry.evidence ++ [note] }

/-- `_add_neg`. -/
def addNeg (key : HypothesisKey) (note : String) (bag : Bag) : Bag :=
  let entry := bag key
  Function.update bag key { entry with negative := entry.negative ++ [note] }

/-- A rule under its condition. -/
def rule (condition : Bool) (effect : Bag → Bag) (bag : Bag) : Bag :=
  if condition then effect bag else bag

/-! ## Owners -/

inductive SuspicionTier where
  | low
  | medium
  | high
  deriving DecidableEq

/-- `_LOW_BENIGN`. -/
def lowBenign : List String :=
  ["svchost.exe", "lsass.exe", "services.exe", "wininit.exe", "csrss.exe", "smss.exe",
    "winlogon.exe", "spoolsv.exe"]

/-- `_MEDIUM_NAMES`. -/
def mediumNames : List String :=
  ["node.exe", "python.exe", "python3.exe", "powershell.exe", "pwsh.exe", "cmd.exe", "code.exe",
    "cursor.exe", "electron.exe"]

/-- `(v or "").lower()`: a value that counts as true and is no text has no `lower`. -/
def loweredName (v : Value) : Except PyError String :=
  match orElse (some v) (.str "") with
  | .str s => .ok (.ofList (lower s.toList))
  | _ => .error .attribute

/-- `diagnostic_suspicion_tier`. -/
def diagnosticSuspicionTier (processName : Value) (localhostProxyOwner commandLineUnavailable : Bool) :
    Except PyError SuspicionTier := do
  let name ← loweredName processName
  if name = "" then return if localhostProxyOwner then .medium else .low
  else if name ∈ lowBenign && !localhostProxyOwner then return .low
  else if name ∈ mediumNames || localhostProxyOwner then
    return if localhostProxyOwner && (commandLineUnavailable || name ∈ mediumNames) then .high
      else .medium
  else if localhostProxyOwner then return if commandLineUnavailable then .high else .medium
  else return .medium

/-! ## The rules -/

section Rules

variable (snap : LiveNetworkSnapshot)

/-- `user_proxy_on`. -/
def userProxyOn : Bool := snap.proxyRegistry.isEnabled

/-- The evidence against. -/
def negatives (bag : Bag) : Bag :=
  let fv := snap.featureVector
  bag
  |> rule fv.nslookupOk (addNeg .dnsResolutionIssue
      "DNS lookup succeeded, so this is less likely to be a DNS-only issue.")
  |> rule fv.tcp443Ok (fun bag => bag
    |> addNeg .unexpectedUserProxy
      "TCP 443 succeeded, so remote TLS reachability is available."
    |> addNeg .tlsPathIssue
      "TCP 443 succeeded; failures are more likely app-layer or proxy path.")
  |> rule fv.browserHttpOk (fun bag => bag
    |> addNeg .browserProxyPathIssue "Automated curl HTTPS succeeded."
    |> addNeg .tlsPathIssue "curl HTTPS succeeded.")

/-- A local manual proxy over a transport that works. -/
def unexpectedUserProxy (bag : Bag) : Bag :=
  let fv := snap.featureVector
  let localProxy := userProxyOn snap && snap.parsedProxy.isLocalhostProxy
  let bag :=
    if localProxy && fv.tcp443Ok && fv.nslookupOk && fv.browserHttpOk then
      bump .unexpectedUserProxy (cents 86) ("Windows user proxy is enabled and points to a " ++
        "loopback address while curl HTTPS and TCP 443 succeed.") bag
    else if localProxy && fv.tcp443Ok && fv.nslookupOk then
      bump .unexpectedUserProxy (cents 78) ("User-level proxy targets loopback; transport probes " ++
        "succeed—browser-only failures are plausible.") bag
    else bag
  bag |> rule (!snap.portOwners.isEmpty) (bump .unexpectedUserProxy (cents 4)
    ("Local listener attribution found " ++ toString snap.portOwners.length ++
      " process(es) for the proxy port."))

/-- One owner of the port. -/
def ownerSuspicious (bag : Bag) (o : PortOwnerRecord) : Except PyError Bag := do
  let tier ← diagnosticSuspicionTier o.processName true (!isSome o.commandLine)
  let shown := (orElse (some o.processName) (.str "unknown")).toText
  if tier = .high && userProxyOn snap && snap.parsedProxy.isLocalhostProxy then
    return bump .localhostProxyOwnerSuspicious (cents 55) ("Local proxy owner '" ++ shown ++
      "' has limited visibility (command line missing).") bag
  else if tier = .medium && userProxyOn snap && snap.parsedProxy.isLocalhostProxy then
    return bump .localhostProxyOwnerSuspicious (cents 35) ("Local proxy owner '" ++ shown ++
      "' matches tooling often used for intercepts.") bag
  else return bag

/-- A listener that was found behind a local proxy, and failures of the browser's path. -/
def proxyPath (bag : Bag) : Bag :=
  let fv := snap.featureVector
  bag
  |> rule (userProxyOn snap && snap.parsedProxy.isLocalhostProxy && !snap.portOwners.isEmpty)
    (bump .localProxyHijack (cents 62)
      "Loopback proxy is active and a listening process was attributed to the proxy port.")
  |> rule (fv.proxyEnabled && !fv.browserHttpOk && fv.tcp443Ok && fv.nslookupOk)
    (bump .browserProxyPathIssue (cents 58) ("Proxy signals are on, curl HTTPS failed, but TCP " ++
      "443 still succeeds—check WinINET/WinHTTP split and browser policy."))
  |> rule (userProxyOn snap && !fv.browserHttpOk && fv.tcp443Ok)
    (bump .browserProxyPathIssue (cents 45)
      "User proxy flag is set while automated HTTPS probe failed despite working TCP 443.")

/-- Too many sockets. A count that no float can hold raises. -/
def socketExhaustion (bag : Bag) : Except PyError Bag := do
  let fv := snap.featureVector
  if 5000 ≤ fv.timeWaitCount || 8000 ≤ fv.establishedCount then
    let waiting ← trueDiv fv.timeWaitCount 5000
    let established ← trueDiv fv.establishedCount 8000
    let ratio := FloatVal.max waiting established
    return bump .socketExhaustion (clamp ((cents 32).add ((cents 25).mul ratio)))
      "TIME_WAIT/ESTABLISHED counters are elevated—possible socket churn or leaks." bag
  else return bag

/-- `stacked`: the checks that failed. -/
def stacked : Nat :=
  let fv := snap.featureVector
  [fv.pingIpOk, fv.nslookupOk, fv.tcp443Ok, fv.browserHttpOk].countP fun ok => !ok

/-- The transport. -/
def transport (bag : Bag) : Bag :=
  let fv := snap.featureVector
  let bag := bag
    |> rule (fv.pingIpOk && !fv.nslookupOk) (bump .dnsResolutionIssue (cents 72)
      "ICMP to a public IP succeeded while DNS resolution failed.")
    |> rule fv.tlsCertIssueDetected (bump .tlsPathIssue (cents 48)
      ("TLS/certificate keywords appeared in curl output—inspect inspection proxies or trust " ++
        "store issues."))
    |> rule (fv.tcp443Ok && !fv.browserHttpOk && !fv.proxyEnabled) (bump .tlsPathIssue (cents 36)
      ("TCP 443 succeeded but curl HTTPS failed without user proxy signals—TLS or filtering " ++
        "path is suspect."))
    |> rule (fv.winhttpProxyEnabled && !fv.browserHttpOk) (bump .winhttpProxyIssue (cents 44)
      "WinHTTP reports a non-direct proxy and HTTPS probing failed.")
  let bag :=
    if 3 ≤ stacked snap then
      bump .winsockCorruptionPossible (cents 55) ("Multiple independent transport checks " ++
        "failed—stack corruption is possible after link health is verified.") bag
    else if !fv.tcp443Ok && fv.pingIpOk && fv.nslookupOk then
      bump .winsockCorruptionPossible (cents 34) ("TCP 443 failed while ICMP/DNS " ++
        "succeeded—Winsock or path filtering is plausible.") bag
    else bag
  if fv.gatewayReachable = some false then
    bump .ispRouterPathIssue (cents 55)
      "Default gateway ping failed—local segment or router path is suspect." bag
  else if fv.gatewayReachable = some true ∧ fv.pingIpOk = false then
    bump .ispRouterPathIssue (cents 48)
      "Gateway responds but WAN ICMP failed—ISP/upstream outage is plausible." bag
  else bag

end Rules

/-! ## The ranking -/

structure LiveHypothesisScore where
  hypothesis : HypothesisKey
  confidence : FloatVal
  evidence : List String
  negativeEvidence : List String

/-- The score of a hypothesis. -/
def scoreOf (bag : Bag) (key : HypothesisKey) : LiveHypothesisScore where
  hypothesis := key
  confidence := clamp (bag key).confidence
  evidence := if (bag key).evidence.isEmpty then ["Baseline prior only."] else (bag key).evidence
  negativeEvidence := (bag key).negative

/-- `(-s.confidence, s.hypothesis) < (-t.confidence, t.hypothesis)`. -/
def ranksBefore (s t : LiveHypothesisScore) : Bool :=
  let x := s.confidence.neg
  let y := t.confidence.neg
  if x.le y && y.le x then s.hypothesis.text < t.hypothesis.text else x.lt y

/-- `score_live_snapshot`. -/
def scoreLiveSnapshot (snap : LiveNetworkSnapshot) : Except PyError (List LiveHypothesisScore) := do
  let bag := emptyScores |> negatives snap |> unexpectedUserProxy snap
  let bag ← snap.portOwners.foldlM (ownerSuspicious snap) bag
  let bag ← socketExhaustion snap (proxyPath snap bag)
  let scores := allHypotheses.map (scoreOf (transport snap bag))
  return scores.mergeSort fun s t => !ranksBefore t s

/-- The commands play no part. -/
theorem scoreLiveSnapshot_commands (snap : LiveNetworkSnapshot) (cmds : List Dict) :
    scoreLiveSnapshot { snap with commandsExecuted := cmds } = scoreLiveSnapshot snap := rfl

/-- A ranking: each hypothesis once, with a confidence that is a number. -/
structure Ranking (scores : List LiveHypothesisScore) : Prop where
  perm : (scores.map LiveHypothesisScore.hypothesis).Perm allHypotheses
  finite : ∀ s ∈ scores, ∃ d, s.confidence = .finite d

theorem scoreLiveSnapshot_ok {snap : LiveNetworkSnapshot} {scores : List LiveHypothesisScore}
    (h : scoreLiveSnapshot snap = .ok scores) : Ranking scores := by
  unfold scoreLiveSnapshot at h
  obtain ⟨bag, -, h⟩ := bind_ok.mp h
  obtain ⟨bag', -, h⟩ := bind_ok.mp h
  cases h
  set all := allHypotheses.map (scoreOf (transport snap bag')) with hall
  have hperm : (all.mergeSort fun s t => !ranksBefore t s).Perm all := List.mergeSort_perm _ _
  have hkeys : all.map LiveHypothesisScore.hypothesis = allHypotheses := rfl
  constructor
  · rw [← hkeys]
    exact hperm.map _
  · intro s hs
    obtain ⟨key, -, rfl⟩ := List.mem_map.mp (hperm.mem_iff.mp hs)
    exact FloatVal.clamp_finite _

theorem Ranking.nodup {scores : List LiveHypothesisScore} (h : Ranking scores) :
    (scores.map fun s => s.hypothesis.text).Nodup := by
  have htexts := h.perm.map HypothesisKey.text
  rw [List.map_map] at htexts
  exact htexts.nodup_iff.mpr nodup_texts

/-- There is always something to rank. -/
theorem Ranking.length {scores : List LiveHypothesisScore} (h : Ranking scores) :
    scores.length = 10 := by
  have hlength := h.perm.length_eq
  rwa [List.length_map] at hlength

end Live
