import NetworkRecovery.Python.Builtins

/-!
# Proof tiers

`resolve_proof_tier` says how strongly a fixture is proven. Each tier stands for what the fixture
holds, with one exception: the cap for triage labels answers the second tier for every fixture with
such a label, also where nothing corroborates it (`proof_tier_sound_iff`).
-/

namespace Governance

open Python

/-! ## Tiers -/

inductive ProofTier where
  | observationOnly
  | localConfigEvidence
  | runtimeCorroboration
  | behavioralReproduction
  | operatorConfirmed
  | governanceProof
  | controlledValidation
  | independentVerification
  deriving DecidableEq

/-- The place in `_TIER_ORDER`. -/
def ProofTier.level : ProofTier → Nat
  | .observationOnly => 0
  | .localConfigEvidence => 1
  | .runtimeCorroboration => 2
  | .behavioralReproduction => 3
  | .operatorConfirmed => 4
  | .governanceProof => 5
  | .controlledValidation => 6
  | .independentVerification => 7

/-- `tier.value.replace("_", " ").title()`, of the tiers that the ladder ends in. -/
def ProofTier.title : ProofTier → String
  | .observationOnly => "T0 Observation Only"
  | .localConfigEvidence => "T1 Local Config Evidence"
  | .runtimeCorroboration => "T2 Runtime Corroboration"
  | .behavioralReproduction => "T3 Behavioral Reproduction"
  | .operatorConfirmed => "T4 Operator Confirmed"
  | .governanceProof => "T5 Governance Proof"
  | .controlledValidation => "T6 Controlled Validation"
  | .independentVerification => "T7 Independent Verification"

/-- `_DEFAULT_LIMITATIONS`. -/
def defaultLimitations : List String :=
  ["Proof tiers describe evidence strength — not malware, compromise, or MITM confirmation.",
    "Observation is not proof; correlation is not causation.",
    "Proof tier does not grant execution authority; policy and human approval remain separate."]

/-- `ProofTierResult`. -/
structure ProofTierResult where
  proofTier : ProofTier
  proofTierLabel : String
  confidenceCap : String := "ordinal_not_probability"
  limitations : List String := defaultLimitations
  rationale : String := ""

/-! ## Reading a fixture -/

/-- `v.get(key)`, of a value that need not be a dictionary. -/
def getField (v : Value) (key : String) : Except PyError Value :=
  match v with
  | .dict d => .ok (Dict.fetch d key)
  | _ => .error .attribute

/-- `fixture.get(key) or {}`. -/
def blockOf (fixture : Dict) (key : String) : Value := orElse (fixture.get? key) (.dict [])

/-- `v.get(key) or []`, run through. -/
def getItems (v : Value) (key : String) : Except PyError (List Value) := do
  (orElse (some (← getField v key)) (.list [])).items

/-- `v == s`. -/
def isText (v : Value) (s : String) : Bool := v.pyEq (.str s)

/-- `v is True`. -/
def isTrue : Value → Bool
  | .bool b => b
  | _ => false

/-- `key in v`. -/
def holdsKey (v : Value) (key : String) : Except PyError Bool :=
  match v with
  | .dict d => .ok (Dict.get? d key).isSome
  | .list xs => .ok (xs.any fun x => x.pyEq (.str key))
  | .str s => .ok (contains key.toList s.toList)
  | _ => .error .type

/-! ## The checks -/

section Checks

variable (fixture : Dict)

/-- `_classification`. -/
def classification : Except PyError String := do
  let block := blockOf fixture "classification"
  let primary ← getField block "primary_classification"
  let shown := orElse (some primary) (orElse (fixture.get? "classification") (.str ""))
  return .ofList (upper shown.toText.toList)

/-- `_listener_found`. -/
def listenerFound : Except PyError (Option Bool) := do
  let owner := orElse (fixture.get? "proxy_owner") (blockOf fixture "listener_info")
  if ← holdsKey owner "listener_found" then
    return some (← getField owner "listener_found").truthy
  else
    let proxyState := orElse (fixture.get? "proxy_state") (blockOf fixture "proxy_status")
    let port ← getField proxyState "localhost_port"
    match port with
    | .none => return none
    | _ => return if (← getField owner "process").truthy then some true else none

/-- One attempt, or the conclusion, is supported. -/
def supported (v : Value) : Except PyError Bool := do
  return isText (← getField v "status") "supported"

/-- `_proof_supported`. -/
def proofSupported : Except PyError Bool := do
  let proof := blockOf fixture "proof"
  let conclusion := orElse (some (← getField proof "conclusion")) (.dict [])
  if ← supported conclusion then return true
  else (← getItems proof "proof_attempts").anyM supported

/-- The attempts that look at the running system. -/
def runtimeAttempts : List String :=
  ["localhost_listener_check", "wininet_winhttp_comparison", "direct_https_probe",
    "proxied_https_probe"]

/-- `str(attempt.get("name", "")).lower()`. -/
def attemptName (attempt : Value) : Except PyError String :=
  match attempt with
  | .dict d => .ok (.ofList (lower ((Dict.get? d "name").getD (.str "")).toText.toList))
  | _ => .error .attribute

/-- One attempt corroborates. -/
def corroborates (attempt : Value) : Except PyError Bool := do
  if runtimeAttempts.contains (← attemptName attempt) then
    let status ← getField attempt "status"
    return isText status "supported" || isText status "failed"
  else return false

/-- `_runtime_corroboration`. -/
def runtimeCorroboration : Except PyError Bool := do
  let proof := blockOf fixture "proof"
  if ← (← getItems proof "proof_attempts").anyM corroborates then return true
  else proofSupported fixture

/-- One row of the audit log that an operator confirmed. -/
def confirmedRow (row : Value) : Except PyError Bool := do
  if (← getField row "confirmation_used").truthy then return true
  else return (← getField row "executed").truthy

/-- `policy.get("dry_run", True)`. -/
def dryRun (policy : Value) : Except PyError Bool :=
  match policy with
  | .dict d => .ok ((Dict.get? d "dry_run").getD (.bool true)).truthy
  | _ => .error .attribute

/-- The rows of the audit log. -/
def auditRows : Except PyError (List Value) := getItems (.dict fixture) "audit_log_entries"

/-- `policy.get("executed") and not policy.get("dry_run", True)`. -/
def executedForReal (policy : Value) : Except PyError Bool := do
  if (← getField policy "executed").truthy then return !(← dryRun policy)
  else return false

/-- `str(policy.get("confirmation_token_used") or "").strip()`, as a condition. -/
def tokenUsed (policy : Value) : Except PyError Bool := do
  let token := orElse (some (← getField policy "confirmation_token_used")) (.str "")
  return !(strip token.toText.toList).isEmpty

/-- `_operator_confirmed`. -/
def operatorConfirmed : Except PyError Bool := do
  let policy := blockOf fixture "policy_decision"
  if ← executedForReal policy then return true
  else if ← tokenUsed policy then return true
  else (← auditRows fixture).anyM confirmedRow

/-- One row of the audit log whose chain was verified. -/
def certifiedRow (row : Value) : Except PyError Bool := do
  if (← getField row "replay_certified").truthy then return true
  else return (← getField row "chain_verified").truthy

/-- `_governance_proof`. -/
def governanceProof : Except PyError Bool := do
  if ← operatorConfirmed fixture then
    let chain := blockOf fixture "audit_chain_verification"
    if isTrue (← getField chain "verified") then return true
    else if ← (← auditRows fixture).anyM certifiedRow then return true
    else return (fixture.fetch "governance_proof").truthy
  else return false

/-- `all(block.get(flag) is True for flag in flags)`, every flag looked at. -/
def allFlags (block : Value) (flags : List String) : Except PyError Bool := do
  return (← flags.mapM (getField block)).all isTrue

def controlledFlags : List String :=
  ["isolated_or_fixture_based", "change_applied", "failure_reproduced", "rollback_applied",
    "recovery_verified", "repeatable"]

def independentFlags : List String :=
  ["independent_verifier", "evidence_bundle_verified", "hash_chain_verified",
    "deterministic_replay_verified", "classification_reproduced"]

/-- `_controlled_validation`. -/
def controlledValidation : Except PyError Bool := do
  let required ← allFlags (blockOf fixture "controlled_validation") controlledFlags
  return (← governanceProof fixture) && required

/-- `_independent_verification`. -/
def independentVerification : Except PyError Bool := do
  let required ← allFlags (blockOf fixture "independent_verification") independentFlags
  return (← controlledValidation fixture) && required

/-! ## The resolver -/

/-- The labels that stay triage. -/
def triageLabels : List String := ["POSSIBLE_MITM_RISK", "SUSPICIOUS_PROXY"]

/-- What the lower end of the ladder has come to. -/
structure Ladder where
  tier : ProofTier
  rationale : List String
  limitations : List String

/-- Without an operator: the tiers from `T0` to `T3`. -/
def climbLadder (primary : String) (listener : Option Bool) (corroborated supported : Bool)
    (proxyState : Bool) : Ladder :=
  let start : Ladder :=
    ⟨.observationOnly, ["Baseline observation from available signals."], defaultLimitations⟩
  let configured := if primary ≠ "" ∨ proxyState = true then { start with
      tier := .localConfigEvidence
      rationale := start.rationale ++ ["Local WinINET/WinHTTP configuration evidence present."] }
    else start
  let runtime := if corroborated then { configured with
      tier := .runtimeCorroboration
      rationale := configured.rationale ++
        ["Runtime path or stack contrast corroborates configuration hypothesis."] }
    else configured
  let dead := if primary = "DEAD_PROXY_CONFIG" ∧ listener = some false then
      { (if corroborated then { runtime with tier := .runtimeCorroboration }
        else { runtime with
          tier := .localConfigEvidence
          rationale := runtime.rationale ++ ["Dead proxy without listener capped at T1–T2; " ++
            "no behavioral reproduction claimed."] }) with
        limitations := runtime.limitations ++
          ["Dead localhost proxy config does not imply malware or MITM."] }
    else runtime
  if supported = true ∧ dead.tier = .runtimeCorroboration ∧ primary ≠ "DEAD_PROXY_CONFIG" then
    { dead with
      tier := .behavioralReproduction
      rationale := dead.rationale ++
        ["Structured proof checks support reproducible failure pattern."] }
  else dead

/-- `resolve_proof_tier`. -/
def resolveProofTier : Except PyError ProofTierResult := do
  let primary ← classification fixture
  let listener ← listenerFound fixture
  if triageLabels.contains primary then
    return {
      proofTier := .runtimeCorroboration
      proofTierLabel := "Runtime Corroboration"
      rationale := "Suspicious/MITM classifications remain triage-only regardless of " ++
        "governance metadata."
      limitations := defaultLimitations ++
        ["MITM or suspicious labels remain triage — not confirmed interception."] }
  else if ← independentVerification fixture then
    return {
      proofTier := .independentVerification
      proofTierLabel := "Independent verification"
      rationale := "Independent verifier validated evidence integrity and deterministically " ++
        "reproduced the classification after controlled validation."
      limitations := defaultLimitations ++ ["Independent verification increases assurance; it " ++
        "does not establish intent or remove human authorization requirements."] }
  else if ← controlledValidation fixture then
    return {
      proofTier := .controlledValidation
      proofTierLabel := "Controlled causal validation"
      rationale := "Controlled change reproduced the failure and rollback restored service " ++
        "repeatedly with governance evidence preserved."
      limitations := defaultLimitations ++ ["Controlled validation supports a bounded causal " ++
        "mechanism, not universal causation."] }
  else if ← governanceProof fixture then
    return {
      proofTier := .governanceProof
      proofTierLabel := "Governance-confirmed reproducible evidence chain"
      rationale := "Human-confirmed action with audit chain verification."
      limitations := defaultLimitations ++ ["Governance proof supports committee reporting — " ++
        "not formal audit opinion."] }
  else if ← operatorConfirmed fixture then
    return {
      proofTier := .operatorConfirmed
      proofTierLabel := "Operator-confirmed action recorded"
      rationale := "Human confirmation or executed remediation with audit evidence."
      limitations := defaultLimitations ++
        ["Operator confirmation does not prove absence of compromise."] }
  else
    let corroborated ← runtimeCorroboration fixture
    let supported ← proofSupported fixture
    let proxyState := (fixture.fetch "proxy_state").truthy || (fixture.fetch "proxy_status").truthy
    let ladder := climbLadder primary listener corroborated supported proxyState
    return {
      proofTier := ladder.tier
      proofTierLabel := ladder.tier.title
      rationale := " ".intercalate ladder.rationale
      limitations := ladder.limitations }

end Checks

/-! ## What a fixture holds -/

/-- What a value holds under a key, if it is a dictionary. -/
def field (v : Value) (key : String) : Value :=
  match v with
  | .dict d => Dict.fetch d key
  | _ => .none

/-- The items that a value holds under a key. -/
def itemsOf (v : Value) (key : String) : List Value :=
  ((orElse (some (field v key)) (.list [])).items.toOption).getD []

/-- The name of an attempt, in lower case. -/
def nameOf (attempt : Value) : String := (attemptName attempt).toOption.getD ""

section Evidence

variable (fixture : Dict)

/-- The conclusion or an attempt is supported. -/
def ProofSupported : Prop :=
  isText (field (orElse (some (field (blockOf fixture "proof") "conclusion")) (.dict []))
      "status") "supported" = true ∨
    ∃ attempt ∈ itemsOf (blockOf fixture "proof") "proof_attempts",
      isText (field attempt "status") "supported" = true

instance : Decidable (ProofSupported fixture) := inferInstanceAs (Decidable (_ ∨ _))

/-- An attempt on the running system came to an end, or the proof is supported. -/
def RuntimeCorroborated : Prop :=
  (∃ attempt ∈ itemsOf (blockOf fixture "proof") "proof_attempts",
    nameOf attempt ∈ runtimeAttempts ∧
      (isText (field attempt "status") "supported" = true ∨
        isText (field attempt "status") "failed" = true)) ∨
    ProofSupported fixture

instance : Decidable (RuntimeCorroborated fixture) := inferInstanceAs (Decidable (_ ∨ _))

/-- The action was executed and no dry run, or confirmed by a token or in the audit log. -/
def OperatorConfirmed : Prop :=
  ((field (blockOf fixture "policy_decision") "executed").truthy = true ∧
      dryRun (blockOf fixture "policy_decision") = .ok false) ∨
    strip (orElse (some (field (blockOf fixture "policy_decision") "confirmation_token_used"))
      (.str "")).toText.toList ≠ [] ∨
    ∃ row ∈ itemsOf (.dict fixture) "audit_log_entries",
      (field row "confirmation_used").truthy = true ∨ (field row "executed").truthy = true

instance : Decidable (OperatorConfirmed fixture) := inferInstanceAs (Decidable (_ ∨ _ ∨ _))

/-- The audit chain was verified or certified, or the fixture is marked as a governance proof. -/
def ChainVerified : Prop :=
  isTrue (field (blockOf fixture "audit_chain_verification") "verified") = true ∨
    (∃ row ∈ itemsOf (.dict fixture) "audit_log_entries",
      (field row "replay_certified").truthy = true ∨
        (field row "chain_verified").truthy = true) ∨
    (fixture.fetch "governance_proof").truthy = true

/-- Every flag of a block is set. -/
def FlagsSet (key : String) (flags : List String) : Prop :=
  ∀ flag ∈ flags, isTrue (field (blockOf fixture key) flag) = true

/-- What a tier stands for. -/
structure TierSound (tier : ProofTier) : Prop where
  runtime : 2 ≤ tier.level → RuntimeCorroborated fixture ∨ OperatorConfirmed fixture
  reproduction : tier.level = 3 → ProofSupported fixture
  confirmed : 4 ≤ tier.level → OperatorConfirmed fixture
  governance : 5 ≤ tier.level → ChainVerified fixture
  controlled : 6 ≤ tier.level → FlagsSet fixture "controlled_validation" controlledFlags
  independent : 7 ≤ tier.level → FlagsSet fixture "independent_verification" independentFlags
  triage : ∀ primary, classification fixture = .ok primary → primary ∈ triageLabels →
    tier.level ≤ 2

/-- The tier that a fixture is given stands for what it holds. -/
def ProofTierSound : Prop :=
  ∀ result, resolveProofTier fixture = .ok result → TierSound fixture result.proofTier

end Evidence

/-! ## The checks, one by one -/

section Reading

theorem getField_ok {v w : Value} {key : String} (h : getField v key = .ok w) :
    field v key = w := by
  cases v with
  | dict d => exact Except.ok.inj h
  | _ => cases h

theorem getItems_ok {v : Value} {key : String} {xs : List Value} (h : getItems v key = .ok xs) :
    itemsOf v key = xs := by
  obtain ⟨w, hw, hitems⟩ := bind_ok.mp h
  unfold itemsOf
  rw [getField_ok hw, hitems]
  rfl

/-- A check that asks a second question where the first one is answered no. -/
theorem or_ok {x y : Except PyError Bool}
    (h : (x >>= fun b => if b = true then pure true else y) = .ok true) :
    x = .ok true ∨ y = .ok true := by
  obtain ⟨b, hb, hrest⟩ := bind_ok.mp h
  cases b with
  | true => exact .inl hb
  | false => exact .inr hrest

theorem anyM_ok {f : Value → Except PyError Bool} {xs : List Value}
    (h : xs.anyM f = .ok true) : ∃ x ∈ xs, f x = .ok true := by
  induction xs with
  | nil => cases h
  | cons x xs ih =>
    obtain ⟨b, hb, hrest⟩ := bind_ok.mp h
    cases b with
    | true => exact ⟨x, List.mem_cons_self, hb⟩
    | false =>
      obtain ⟨x', hx', hfound⟩ := ih hrest
      exact ⟨x', List.mem_cons_of_mem _ hx', hfound⟩

/-- A flag that is read and found to be set. -/
theorem truthy_ok {v : Value} {key : String}
    (h : (getField v key >>= fun w => pure w.truthy) = .ok true) :
    (field v key).truthy = true := by
  obtain ⟨w, hw, htruthy⟩ := bind_ok.mp h
  rw [getField_ok hw]
  exact Except.ok.inj htruthy

theorem allFlags_ok {v : Value} {flags : List String} (h : allFlags v flags = .ok true) :
    ∀ flag ∈ flags, isTrue (field v flag) = true := by
  obtain ⟨values, hvalues, hall⟩ := bind_ok.mp h
  intro flag hflag
  obtain ⟨w, hw, hread⟩ := exists_of_mapM_ok hvalues hflag
  rw [getField_ok hread]
  exact List.all_eq_true.mp (Except.ok.inj hall) w hw

theorem supported_ok {v : Value} (h : supported v = .ok true) :
    isText (field v "status") "supported" = true := by
  obtain ⟨w, hw, htext⟩ := bind_ok.mp h
  rw [getField_ok hw]
  exact Except.ok.inj htext

theorem corroborates_ok {attempt : Value} (h : corroborates attempt = .ok true) :
    nameOf attempt ∈ runtimeAttempts ∧
      (isText (field attempt "status") "supported" = true ∨
        isText (field attempt "status") "failed" = true) := by
  obtain ⟨name, hname, hrest⟩ := bind_ok.mp h
  split at hrest
  · next hlisted =>
    obtain ⟨status, hstatus, htext⟩ := bind_ok.mp hrest
    refine ⟨?_, ?_⟩
    · unfold nameOf
      rw [hname]
      exact List.contains_iff_mem.mp hlisted
    · rw [getField_ok hstatus]
      exact Bool.or_eq_true_iff.mp (Except.ok.inj htext)
  · cases hrest

variable {fixture : Dict}

theorem proofSupported_ok (h : proofSupported fixture = .ok true) : ProofSupported fixture := by
  obtain ⟨conclusion, hconclusion, hrest⟩ := bind_ok.mp h
  rcases or_ok hrest with hsupported | hattempts
  · left
    rw [getField_ok hconclusion]
    exact supported_ok hsupported
  · right
    obtain ⟨attempts, hitems, hany⟩ := bind_ok.mp hattempts
    obtain ⟨attempt, hattempt, hsupported⟩ := anyM_ok hany
    rw [getItems_ok hitems]
    exact ⟨attempt, hattempt, supported_ok hsupported⟩

theorem runtimeCorroboration_ok (h : runtimeCorroboration fixture = .ok true) :
    RuntimeCorroborated fixture := by
  obtain ⟨attempts, hitems, hrest⟩ := bind_ok.mp h
  rcases or_ok hrest with hany | hproof
  · left
    obtain ⟨attempt, hattempt, hcorroborates⟩ := anyM_ok hany
    rw [getItems_ok hitems]
    exact ⟨attempt, hattempt, corroborates_ok hcorroborates⟩
  · exact .inr (proofSupported_ok hproof)

/-- One of two flags of a row, of which the second is read where the first is not set. -/
theorem truthy_or_ok {row : Value} {key key' : String}
    (h : (getField row key >>= fun w => if w.truthy = true then pure true
      else getField row key' >>= fun w' => pure w'.truthy) = .ok true) :
    (field row key).truthy = true ∨ (field row key').truthy = true := by
  obtain ⟨w, hw, hrest⟩ := bind_ok.mp h
  split at hrest
  · next hused =>
    left
    rw [getField_ok hw]
    exact hused
  · exact .inr (truthy_ok hrest)

theorem confirmedRow_ok {row : Value} (h : confirmedRow row = .ok true) :
    (field row "confirmation_used").truthy = true ∨ (field row "executed").truthy = true :=
  truthy_or_ok h

theorem certifiedRow_ok {row : Value} (h : certifiedRow row = .ok true) :
    (field row "replay_certified").truthy = true ∨ (field row "chain_verified").truthy = true :=
  truthy_or_ok h

theorem executedForReal_ok {policy : Value} (h : executedForReal policy = .ok true) :
    (field policy "executed").truthy = true ∧ dryRun policy = .ok false := by
  obtain ⟨executed, hexecuted, hrest⟩ := bind_ok.mp h
  split at hrest
  · next htruthy =>
    obtain ⟨dry, hdry, hlive⟩ := bind_ok.mp hrest
    rw [getField_ok hexecuted]
    cases dry with
    | true => cases hlive
    | false => exact ⟨htruthy, hdry⟩
  · cases hrest

theorem tokenUsed_ok {policy : Value} (h : tokenUsed policy = .ok true) :
    strip (orElse (some (field policy "confirmation_token_used")) (.str "")).toText.toList ≠
      [] := by
  obtain ⟨token, htoken, hrest⟩ := bind_ok.mp h
  rw [getField_ok htoken]
  simpa using Except.ok.inj hrest

theorem operatorConfirmed_ok (h : operatorConfirmed fixture = .ok true) :
    OperatorConfirmed fixture := by
  rcases or_ok h with hexecuted | hrest
  · exact .inl (executedForReal_ok hexecuted)
  rcases or_ok hrest with htoken | hrows
  · exact .inr (.inl (tokenUsed_ok htoken))
  · obtain ⟨rows, hitems, hany⟩ := bind_ok.mp hrows
    obtain ⟨row, hrow, hconfirmed⟩ := anyM_ok hany
    refine .inr (.inr ⟨row, ?_, confirmedRow_ok hconfirmed⟩)
    rw [getItems_ok hitems]
    exact hrow

theorem governanceProof_ok (h : governanceProof fixture = .ok true) :
    OperatorConfirmed fixture ∧ ChainVerified fixture := by
  obtain ⟨confirmed, hconfirmed, hrest⟩ := bind_ok.mp h
  cases confirmed with
  | false => cases hrest
  | true =>
    refine ⟨operatorConfirmed_ok hconfirmed, ?_⟩
    obtain ⟨verified, hverified, hrest⟩ := bind_ok.mp hrest
    cases htrue : isTrue verified with
    | true =>
      left
      rw [getField_ok hverified]
      exact htrue
    | false =>
      rw [htrue, if_neg Bool.false_ne_true] at hrest
      obtain ⟨rows, hitems, hrest⟩ := bind_ok.mp hrest
      rcases or_ok hrest with hany | hmarked
      · obtain ⟨row, hrow, hcertified⟩ := anyM_ok hany
        refine .inr (.inl ⟨row, ?_, certifiedRow_ok hcertified⟩)
        rw [getItems_ok hitems]
        exact hrow
      · exact .inr (.inr (Except.ok.inj hmarked))

theorem controlledValidation_ok (h : controlledValidation fixture = .ok true) :
    governanceProof fixture = .ok true ∧
      FlagsSet fixture "controlled_validation" controlledFlags := by
  obtain ⟨required, hrequired, hrest⟩ := bind_ok.mp h
  obtain ⟨proof, hproof, hboth⟩ := bind_ok.mp hrest
  obtain ⟨rfl, rfl⟩ := Bool.and_eq_true_iff.mp (Except.ok.inj hboth)
  exact ⟨hproof, allFlags_ok hrequired⟩

theorem independentVerification_ok (h : independentVerification fixture = .ok true) :
    controlledValidation fixture = .ok true ∧
      FlagsSet fixture "independent_verification" independentFlags := by
  obtain ⟨required, hrequired, hrest⟩ := bind_ok.mp h
  obtain ⟨validation, hvalidation, hboth⟩ := bind_ok.mp hrest
  obtain ⟨rfl, rfl⟩ := Bool.and_eq_true_iff.mp (Except.ok.inj hboth)
  exact ⟨hvalidation, allFlags_ok hrequired⟩

end Reading

/-! ## Soundness -/

/-- The lower end of the ladder stops at the third tier, is past the first one only where the
configuration is corroborated, and at the third only where the proof is supported. -/
theorem climbLadder_spec (primary : String) (listener : Option Bool)
    (corroborated supported proxyState : Bool) :
    (climbLadder primary listener corroborated supported proxyState).tier.level ≤ 3 ∧
      (2 ≤ (climbLadder primary listener corroborated supported proxyState).tier.level →
        corroborated = true) ∧
      ((climbLadder primary listener corroborated supported proxyState).tier.level = 3 →
        supported = true) := by
  unfold climbLadder
  dsimp only
  cases corroborated with
  | false =>
    -- the tier is the first one at most, and nothing is reproduced
    split_ifs <;> simp_all [ProofTier.level]
  | true => split_ifs <;> simp_all [ProofTier.level]

/-- The upper tiers all rest on an operator's confirmation. -/
theorem sound_of_confirmed {fixture : Dict} {tier : ProofTier} (hlevel : 4 ≤ tier.level)
    (huntriaged : ∀ primary, classification fixture = .ok primary → primary ∉ triageLabels)
    (hconfirmed : OperatorConfirmed fixture)
    (hgovernance : 5 ≤ tier.level → ChainVerified fixture)
    (hcontrolled : 6 ≤ tier.level → FlagsSet fixture "controlled_validation" controlledFlags)
    (hindependent : 7 ≤ tier.level →
      FlagsSet fixture "independent_verification" independentFlags) : TierSound fixture tier where
  runtime _ := .inr hconfirmed
  reproduction h := absurd hlevel (by omega)
  confirmed _ := hconfirmed
  governance := hgovernance
  controlled := hcontrolled
  independent := hindependent
  triage primary hprimary hmem := absurd hmem (huntriaged primary hprimary)

/-- The lower tiers rest on the proof attempts. -/
theorem sound_of_ladder {fixture : Dict} {primary : String} {listener : Option Bool}
    {corroborated supported proxyState : Bool}
    (huntriaged : ∀ primary, classification fixture = .ok primary → primary ∉ triageLabels)
    (hcorroborated : runtimeCorroboration fixture = .ok corroborated)
    (hsupported : proofSupported fixture = .ok supported) :
    TierSound fixture (climbLadder primary listener corroborated supported proxyState).tier := by
  obtain ⟨htop, hruntime, hreproduction⟩ :=
    climbLadder_spec primary listener corroborated supported proxyState
  constructor
  · intro hlevel
    rw [hruntime hlevel] at hcorroborated
    exact .inl (runtimeCorroboration_ok hcorroborated)
  · intro hlevel
    rw [hreproduction hlevel] at hsupported
    exact proofSupported_ok hsupported
  · intro hlevel
    omega
  · intro hlevel
    omega
  · intro hlevel
    omega
  · intro hlevel
    omega
  · intro primary hprimary hmem
    exact absurd hmem (huntriaged primary hprimary)

/-- The tier of a triage label is sound where something corroborates it. -/
theorem triage_sound_iff {fixture : Dict} :
    TierSound fixture .runtimeCorroboration ↔
      RuntimeCorroborated fixture ∨ OperatorConfirmed fixture := by
  constructor
  · intro h
    exact h.runtime le_rfl
  · intro h
    refine ⟨fun _ => h, ?_, ?_, ?_, ?_, ?_, fun _ _ _ => le_rfl⟩
    all_goals intro hlevel
    all_goals exact absurd hlevel (by decide)

/-- A triage label is answered by the second tier. -/
theorem resolve_triaged {fixture : Dict} {primary : String} {listener : Option Bool}
    (hprimary : classification fixture = .ok primary)
    (hlistener : listenerFound fixture = .ok listener) (htriage : primary ∈ triageLabels) :
    ∃ result, resolveProofTier fixture = .ok result ∧
      result.proofTier = .runtimeCorroboration := by
  unfold resolveProofTier
  rw [hprimary, hlistener]
  exact ⟨_, if_pos (List.contains_iff_mem.mpr htriage), rfl⟩

/-- Without a triage label every tier stands for what the fixture holds. -/
theorem sound_of_untriaged {fixture : Dict} {primary : String} {result : ProofTierResult}
    (hprimary : classification fixture = .ok primary) (htriage : primary ∉ triageLabels)
    (hresult : resolveProofTier fixture = .ok result) : TierSound fixture result.proofTier := by
  have huntriaged : ∀ primary, classification fixture = .ok primary →
      primary ∉ triageLabels := by
    intro primary' hprimary'
    rw [← Except.ok.inj (hprimary.symm.trans hprimary')]
    exact htriage
  have hunlisted : ¬ triageLabels.contains primary = true := mt List.contains_iff_mem.mp htriage
  obtain ⟨primary', hprimary', hresult⟩ := bind_ok.mp hresult
  obtain rfl := Except.ok.inj (hprimary.symm.trans hprimary')
  obtain ⟨listener, -, hresult⟩ := bind_ok.mp hresult
  rw [if_neg hunlisted] at hresult
  -- the checks from the top of the ladder down
  obtain ⟨independent, hindependent, hresult⟩ := bind_ok.mp hresult
  cases independent with
  | true =>
    obtain rfl := Except.ok.inj hresult
    obtain ⟨hcontrolled, hflags⟩ := independentVerification_ok hindependent
    obtain ⟨hgovernance, hcontrolledFlags⟩ := controlledValidation_ok hcontrolled
    obtain ⟨hconfirmed, hchain⟩ := governanceProof_ok hgovernance
    exact sound_of_confirmed (by decide) huntriaged hconfirmed (fun _ => hchain)
      (fun _ => hcontrolledFlags) (fun _ => hflags)
  | false =>
  obtain ⟨controlled, hcontrolled, hresult⟩ := bind_ok.mp hresult
  cases controlled with
  | true =>
    obtain rfl := Except.ok.inj hresult
    obtain ⟨hgovernance, hcontrolledFlags⟩ := controlledValidation_ok hcontrolled
    obtain ⟨hconfirmed, hchain⟩ := governanceProof_ok hgovernance
    exact sound_of_confirmed (by decide) huntriaged hconfirmed (fun _ => hchain)
      (fun _ => hcontrolledFlags) (fun h => absurd h (by decide))
  | false =>
  obtain ⟨governance, hgovernance, hresult⟩ := bind_ok.mp hresult
  cases governance with
  | true =>
    obtain rfl := Except.ok.inj hresult
    obtain ⟨hconfirmed, hchain⟩ := governanceProof_ok hgovernance
    exact sound_of_confirmed (by decide) huntriaged hconfirmed (fun _ => hchain)
      (fun h => absurd h (by decide)) (fun h => absurd h (by decide))
  | false =>
  obtain ⟨confirmed, hconfirmed, hresult⟩ := bind_ok.mp hresult
  cases confirmed with
  | true =>
    obtain rfl := Except.ok.inj hresult
    exact sound_of_confirmed (by decide) huntriaged (operatorConfirmed_ok hconfirmed)
      (fun h => absurd h (by decide)) (fun h => absurd h (by decide))
      (fun h => absurd h (by decide))
  | false =>
    obtain ⟨corroborated, hcorroborated, hresult⟩ := bind_ok.mp hresult
    obtain ⟨supported, hsupported, hresult⟩ := bind_ok.mp hresult
    obtain rfl := Except.ok.inj hresult
    exact sound_of_ladder huntriaged hcorroborated hsupported

/-- The tiers are sound exactly for the fixtures that have no triage label, or that cannot be
read that far, or in which something corroborates the label. -/
theorem proof_tier_sound_iff (fixture : Dict) :
    ProofTierSound fixture ↔
      (∀ primary, classification fixture = .ok primary → primary ∉ triageLabels) ∨
        (∀ listener, listenerFound fixture ≠ .ok listener) ∨
        RuntimeCorroborated fixture ∨ OperatorConfirmed fixture := by
  constructor
  · intro hsound
    by_cases hlabel : ∃ primary, classification fixture = .ok primary ∧ primary ∈ triageLabels
    · right
      obtain ⟨primary, hprimary, htriage⟩ := hlabel
      by_cases hread : ∃ listener, listenerFound fixture = .ok listener
      · right
        obtain ⟨listener, hlistener⟩ := hread
        obtain ⟨result, hresult, htier⟩ := resolve_triaged hprimary hlistener htriage
        have htierSound := hsound result hresult
        rw [htier] at htierSound
        exact triage_sound_iff.mp htierSound
      · left
        intro listener hlistener
        exact hread ⟨listener, hlistener⟩
    · left
      intro primary hprimary htriage
      exact hlabel ⟨primary, hprimary, htriage⟩
  · intro hcondition result hresult
    obtain ⟨primary, hprimary, hrest⟩ := bind_ok.mp hresult
    obtain ⟨listener, hlistener, -⟩ := bind_ok.mp hrest
    by_cases htriage : primary ∈ triageLabels
    · obtain ⟨result', hresult', htier⟩ := resolve_triaged hprimary hlistener htriage
      obtain rfl := Except.ok.inj (hresult.symm.trans hresult')
      rw [htier]
      apply triage_sound_iff.mpr
      rcases hcondition with huntriaged | hunread | hevidence
      · exact absurd htriage (huntriaged primary hprimary)
      · exact absurd hlistener (hunread listener)
      · exact hevidence
    · exact sound_of_untriaged hprimary htriage hresult

/-- A fixture with a suspicious label and nothing else. -/
def bareLabel : Dict :=
  [("classification", .dict [("primary_classification", .str "SUSPICIOUS_PROXY")])]

/-- A suspicious label without any evidence is given the second tier. -/
theorem bare_label_credited : ¬ ProofTierSound bareLabel := by
  intro hsound
  have htier : (resolveProofTier bareLabel).map (·.proofTier) = .ok .runtimeCorroboration := by
    decide +kernel
  obtain ⟨result, hresult, hresultTier⟩ := map_ok.mp htier
  have hevidence := (hsound result hresult).runtime (by rw [hresultTier]; decide)
  exact absurd hevidence (by decide +kernel)

end Governance
