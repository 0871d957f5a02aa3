import NetworkRecovery.Python.Builtins
import NetworkRecovery.Python.Json
import NetworkRecovery.Python.Sha256

/-!
# Who approves and who executes

`platform_core/stakeholder`: a case gets its roles from the configuration, the asset, the
controls and the classification, in that order, and the people behind the roles from the
configuration alone.

Approver and executor are to be different. The resolver compares their ROLES, and moves the
approval to the escalation role when they are the same. It does not look at the people, and
when the escalation role is the executor's too, the approval stays where it was
(`segregated_iff`).
-/

namespace Stakeholder

open Python

/-! ## Roles -/

/-- The fields of a role map. -/
inductive Duty where
  | assetOwner
  | controlOwner
  | approver
  | executor
  | informed
  | escalation
  deriving DecidableEq

def Duty.text : Duty → String
  | .assetOwner => "asset_owner"
  | .controlOwner => "control_owner"
  | .approver => "approver"
  | .executor => "executor"
  | .informed => "informed"
  | .escalation => "escalation"

structure RoleMap where
  assetOwner : String
  controlOwner : String
  approver : String
  executor : String
  informed : String
  escalation : String

def RoleMap.get (roles : RoleMap) : Duty → String
  | .assetOwner => roles.assetOwner
  | .controlOwner => roles.controlOwner
  | .approver => roles.approver
  | .executor => roles.executor
  | .informed => roles.informed
  | .escalation => roles.escalation

/-- `DEFAULT_ROLE_MAP`. -/
def defaultRoleMap : RoleMap where
  assetOwner := "endpoint_owner"
  controlOwner := "endpoint_reliability_control_owner"
  approver := "it_operations_approver"
  executor := "desktop_support_executor"
  informed := "service_desk"
  escalation := "it_operations_lead"

/-- `CLASSIFICATION_ROLE_MAP`. -/
def classificationRoleMap : List (String × RoleMap) :=
  [("DEAD_PROXY_CONFIG", defaultRoleMap),
    ("KNOWN_DEV_PROXY",
      { assetOwner := "endpoint_owner"
        controlOwner := "developer_tooling_control_owner"
        approver := "it_operations_approver"
        executor := "endpoint_owner"
        informed := "developer_experience"
        escalation := "it_operations_lead" }),
    ("LOCAL_PROXY_ACTIVE", defaultRoleMap),
    ("UNKNOWN_LOCAL_PROXY",
      { assetOwner := "endpoint_owner"
        controlOwner := "security_control_owner"
        approver := "security_approver"
        executor := "security_operations_executor"
        informed := "it_operations_lead"
        escalation := "security_incident_manager" }),
    ("POSSIBLE_MITM_RISK",
      { assetOwner := "endpoint_owner"
        controlOwner := "security_control_owner"
        approver := "security_approver"
        executor := "security_operations_executor"
        informed := "ciso_office"
        escalation := "security_incident_manager" }),
    ("WININET_WINHTTP_MISMATCH", defaultRoleMap),
    ("OS_NETWORK_OK_BROWSER_PROFILE_FAIL", defaultRoleMap)]

/-- `ROLE_DISPLAY`. -/
def roleDisplayNames : List (String × String) :=
  [("endpoint_owner", "Endpoint Owner"),
    ("endpoint_reliability_control_owner", "Endpoint Reliability Control Owner"),
    ("developer_tooling_control_owner", "Developer Tooling Control Owner"),
    ("security_control_owner", "Security Control Owner"),
    ("it_operations_approver", "IT Operations Approver"),
    ("security_approver", "Security Approver"),
    ("desktop_support_executor", "Desktop Support Executor"),
    ("security_operations_executor", "Security Operations Executor"),
    ("service_desk", "Service Desk (Informed)"),
    ("developer_experience", "Developer Experience (Informed)"),
    ("it_operations_lead", "IT Operations Lead"),
    ("security_incident_manager", "Security Incident Manager"),
    ("ciso_office", "CISO Office (Informed)")]

/-- `SECURITY_ESCALATION_CLASSIFICATIONS`. -/
def securityEscalationClassifications : List String :=
  ["UNKNOWN_LOCAL_PROXY", "POSSIBLE_MITM_RISK", "SUSPICIOUS_PROXY"]

/-- `CONTROL_OWNER_MAP`. -/
def controlOwnerMap : List (String × String) :=
  [("CTRL-PROXY-001", "endpoint_reliability_control_owner"),
    ("CTRL-PROXY-002", "security_control_owner"),
    ("CTRL-TLS-001", "security_control_owner")]

/-- `StakeholderResolutionSource`. -/
inductive Source where
  | explicitConfiguration
  | assetMetadata
  | controlMapping
  | classificationMapping
  | defaultRoleMapping
  | unresolved
  deriving DecidableEq

/-- `StakeholderReasonCode`. -/
inductive ReasonCode where
  | stakeholderResolved
  | ownerUnresolved
  | approverRequired
  | securityEscalationRequired
  | segregationOfDutiesRequired
  | executionAuthorityMissing
  | informedRoleMapped
  | affectedPartyMapped
  deriving DecidableEq

inductive RoleKind where
  | role
  | configuredIdentity
  deriving DecidableEq

structure RoleRef where
  roleId : String
  displayName : String
  kind : RoleKind := .role
  identity : Option String := none
  source : Source := .defaultRoleMapping
  reasonCode : ReasonCode := .stakeholderResolved
  rationale : String := ""
  deriving DecidableEq

structure EscalationHop where
  order : Nat
  role : RoleRef
  trigger : String
  deriving DecidableEq

inductive Confidence where
  | unresolved
  | roleOnly
  | configured
  | partly
  deriving DecidableEq

structure StakeholderContext where
  caseId : String
  classification : String
  assetOwner : Option RoleRef
  controlOwner : Option RoleRef
  affectedParties : List RoleRef
  approverRoles : List RoleRef
  executorRoles : List RoleRef
  informedRoles : List RoleRef
  escalationPath : List EscalationHop
  executionAuthority : Option RoleRef
  segregationOfDutiesRequired : Bool
  resolutionConfidence : Confidence
  unresolvedFields : List String
  reasonCodes : List ReasonCode
  inputsFingerprint : String
  hasExplicitConfig : Bool
  identityCount : Nat
  deriving DecidableEq

/-! ## The request -/

/-- What `resolve` is called with. An empty dictionary or list stands for `None` as well. -/
structure Request where
  caseId : String := ""
  classification : String := ""
  evidenceSummary : Dict := []
  proofStatus : String := ""
  policyOutcome : String := ""
  policyRequiresApproval : Bool := false
  controlIds : List String := []
  config : Dict := []

/-- `map_for_classification`. -/
def mapForClassification (classification : String) : RoleMap :=
  let key := String.ofList (upper (strip classification.toList))
  (classificationRoleMap.lookup key).getD defaultRoleMap

/-- `load_explicit_config`. -/
def loadExplicitConfig (config : Dict) : Dict :=
  config.filter fun e => e.1 ∈ ["asset_owner", "control_owner", "approver", "executor", "informed",
    "escalation", "identities", "segregation_of_duties_required"]

namespace Request

variable (r : Request)

def cfg : Dict := loadExplicitConfig r.config

/-- The configured identities: the strings that are not blank. -/
def identities : Except PyError (List (String × String)) :=
  match orElse (r.cfg.get? "identities") (.dict []) with
  | .dict kvs => .ok <| kvs.filterMap fun
    | (k, .str v) => if strip v.toList = [] then none else some (k, v)
    | _ => none
  | _ => .error .attribute

/-- `bool(cfg.get("segregation_of_duties_required", True))`. -/
def sod : Bool := ((r.cfg.get? "segregation_of_duties_required").getD (.bool true)).truthy

/-- The role of a duty, where it comes from, and why. -/
structure Picked where
  roleId : String
  source : Source
  rationale : String

/-- A value that counts as true, as text. -/
def truthyText (v : Option Value) : Option String := (v.filter Value.truthy).map Value.toText

/-- `asset_meta.get(field)`, of asset metadata that are a dictionary. -/
def assetMeta (duty : Duty) : Option Value :=
  match orElse (r.evidenceSummary.get? "asset") (.dict []) with
  | .dict kvs => Dict.get? kvs duty.text
  | _ => none

/-- The first control that has an owner. -/
def controlOwner : Option (String × String) :=
  r.controlIds.findSome? fun cid => (controlOwnerMap.lookup cid).map fun owner => (cid, owner)

/-- `pick`. Its default is the entry of the same map the classification has. -/
def pick (duty : Duty) : Picked :=
  let classRole := (mapForClassification r.classification).get duty
  match truthyText (r.cfg.get? duty.text), truthyText (r.assetMeta duty) with
  | some role, _ => ⟨role, .explicitConfiguration, "explicit config"⟩
  | none, some role => ⟨role, .assetMetadata, "asset metadata"⟩
  | none, none =>
    match if duty = .controlOwner then r.controlOwner else none with
    | some (cid, owner) => ⟨owner, .controlMapping, "control " ++ cid⟩
    | none =>
      if r.classification ≠ "" ∧ classRole ≠ "" then
        ⟨classRole, .classificationMapping, "classification " ++ r.classification⟩
      else ⟨classRole, .defaultRoleMapping, "default role map"⟩

/-- `needs_approval`. -/
def needsApproval : Bool :=
  r.policyRequiresApproval || decide (String.ofList (upper r.policyOutcome.toList) ∈
    ["REQUIRE_HUMAN_APPROVAL", "REQUIRE_TYPED_CONFIRMATION", "REQUIRE_CONFIRMATION",
      "ROLLBACK_REQUIRED", "PREVIEW_ONLY", "PREVIEW", "ALLOW_PREVIEW", "CORRELATION_ONLY_ALERT"])

/-- `security_required`. -/
def securityRequired : Bool :=
  decide (String.ofList (upper r.classification.toList) ∈ securityEscalationClassifications)

/-- `_fingerprint`, of what went into the resolution. -/
def fingerprint : String :=
  let payload : Value := .dict
    [("case_id", .str r.caseId), ("classification", .str r.classification),
      ("policy_outcome", .str r.policyOutcome), ("policy_requires_approval", .bool r.needsApproval),
      ("proof_status", .str r.proofStatus), ("control_ids", textList r.controlIds),
      ("config", .dict r.cfg)]
  let blob := String.ofList (dumps .plain payload.sortKeys)
  String.ofList ((Sha256.hexdigest blob.toUTF8).toList.take 16)

end Request

/-! ## The resolver -/

/-- The person behind a role: looked up by the role, or else by the duty. -/
def identityOf (identities : List (String × String)) (duty : Duty) (roleId : String) :
    Option String :=
  (identities.lookup roleId).or (identities.lookup duty.text)

section Title

variable (title : List Char → List Char)

/-- `role_display`. -/
def roleDisplay (roleId : String) : String :=
  (roleDisplayNames.lookup roleId).getD <|
    String.ofList (title (roleId.toList.map fun c => if c = '_' then ' ' else c))

/-- `_role_from_config`. -/
def roleFromConfig (duty : Duty) (picked : Request.Picked) (identities : List (String × String))
    (reason : ReasonCode) : Option RoleRef :=
  if picked.roleId = "" then none
  else
    let identity := identityOf identities duty picked.roleId
    some
      { roleId := picked.roleId
        displayName := roleDisplay title picked.roleId
        kind := if identity.isSome then .configuredIdentity else .role
        identity := identity
        source := if identity.isSome then .explicitConfiguration else picked.source
        reasonCode := reason
        rationale := picked.rationale }

/-- `build_escalation_path`. -/
def buildEscalationPath (primaryEscalation : RoleRef) (securityRequired : Bool) :
    List EscalationHop :=
  ⟨1, primaryEscalation, "primary_escalation"⟩ ::
    if securityRequired then
      [⟨2, { roleId := "security_incident_manager"
             displayName := roleDisplay title "security_incident_manager"
             source := .classificationMapping
             reasonCode := .securityEscalationRequired
             rationale := "Classification maps to security escalation path." },
        "security_escalation_required"⟩]
    else []

/-- Approver and executor are the same role. -/
def sameRole (approver executor : Option RoleRef) : Bool :=
  match approver, executor with
  | some a, some e => a.roleId == e.roleId
  | _, _ => false

/-- The approvers after the segregation of duties: the approval goes to the escalation role,
unless that is the executor's. -/
def splitApprovers (approvers : List RoleRef) (escalation executor : Option RoleRef) :
    List RoleRef :=
  match escalation, executor with
  | some esc, some e =>
    if esc.roleId ≠ e.roleId then
      [{ esc with
          source := .defaultRoleMapping
          reasonCode := .segregationOfDutiesRequired
          rationale := "Approver must differ from executor (SoD)." }]
    else approvers
  | _, _ => approvers

/-- What `resolve` returns, given the identities. -/
def Request.context (r : Request) (identities : List (String × String)) : StakeholderContext :=
  let role := fun duty reason => roleFromConfig title duty (r.pick duty) identities reason
  let assetOwner := role .assetOwner .stakeholderResolved
  let controlOwner := role .controlOwner .stakeholderResolved
  let approver := role .approver .approverRequired
  let executor := role .executor .stakeholderResolved
  let informed := role .informed .informedRoleMapped
  let escalation := role .escalation .stakeholderResolved
  let clash := r.sod && sameRole approver executor
  let approvers := if r.needsApproval then approver.toList else []
  let approvers := if clash then splitApprovers approvers escalation executor else approvers
  let executionAuthority :=
    if !r.needsApproval || !approvers.isEmpty then executor else none
  let unresolved :=
    (if assetOwner.isNone then ["asset_owner"] else []) ++
    (if r.needsApproval && approver.isNone then ["approver"] else []) ++
    (if executionAuthority.isNone then ["execution_authority"] else [])
  -- an owner that is not resolved has put its reason here already
  let reasons :=
    [if assetOwner.isNone then ReasonCode.ownerUnresolved else .stakeholderResolved] ++
    (if r.needsApproval then [ReasonCode.approverRequired] else []) ++
    (if r.securityRequired then [ReasonCode.securityEscalationRequired] else []) ++
    (if clash then [ReasonCode.segregationOfDutiesRequired] else []) ++
    (if executionAuthority.isNone then [ReasonCode.executionAuthorityMissing] else [])
  let unclear := r.classification == "" && r.cfg.isEmpty
  { caseId := r.caseId
    classification := r.classification
    assetOwner := assetOwner
    controlOwner := controlOwner
    affectedParties := assetOwner.toList.map fun owner =>
      { owner with
          reasonCode := .affectedPartyMapped
          rationale := "Asset owner is an affected party." }
    approverRoles := approvers
    executorRoles := executor.toList
    informedRoles := informed.toList
    escalationPath := buildEscalationPath title
      (escalation.getD
        { roleId := "it_operations_lead"
          displayName := roleDisplay title "it_operations_lead"
          rationale := "fallback escalation" })
      r.securityRequired
    executionAuthority := executionAuthority
    segregationOfDutiesRequired := r.sod
    resolutionConfidence :=
      if unclear then .unresolved
      else if !unresolved.isEmpty then
        if assetOwner.isSome || controlOwner.isSome then .partly else .unresolved
      else if identities.isEmpty then .roleOnly else .configured
    unresolvedFields :=
      (unresolved ++ if unclear then ["asset_owner"] else []).eraseDups
    reasonCodes := reasons.eraseDups
    inputsFingerprint := r.fingerprint
    hasExplicitConfig := !r.cfg.isEmpty
    identityCount := identities.length }

/-- `StakeholderResolver.resolve`. -/
def Request.resolve (r : Request) : Except PyError StakeholderContext := do
  let identities ← r.identities
  return r.context title identities

end Title

/-! ## Every duty has a role -/

theorem truthyText_ne_empty {v : Option Value} {role : String}
    (h : Request.truthyText v = some role) : role ≠ "" := by
  obtain ⟨w, hw, rfl⟩ := Option.map_eq_some_iff.mp h
  exact toText_ne_empty (Option.filter_eq_some_iff.mp hw).2

theorem mem_of_lookup {α : Type} {table : List (String × α)} {key : String} {a : α}
    (h : table.lookup key = some a) : a ∈ table.map Prod.snd := by
  obtain ⟨before, after, rfl, -⟩ := List.lookup_eq_some_iff.mp h
  simp

theorem mapForClassification_ne_empty (classification : String) (duty : Duty) :
    (mapForClassification classification).get duty ≠ "" := by
  have hall : ∀ roles ∈ defaultRoleMap :: classificationRoleMap.map Prod.snd,
      ∀ duty : Duty, roles.get duty ≠ "" := by
    intro roles hroles duty
    simp only [classificationRoleMap, List.map_cons, List.map_nil, List.mem_cons,
      List.not_mem_nil, or_false] at hroles
    rcases hroles with rfl | rfl | rfl | rfl | rfl | rfl | rfl | rfl <;> cases duty <;> decide
  refine hall _ ?_ duty
  unfold mapForClassification
  dsimp only
  cases hlookup : classificationRoleMap.lookup
      (String.ofList (upper (strip classification.toList))) with
  | none => exact List.mem_cons_self
  | some roles => exact List.mem_cons_of_mem _ (mem_of_lookup hlookup)

theorem controlOwner_ne_empty {r : Request} {cid owner : String}
    (h : r.controlOwner = some (cid, owner)) : owner ≠ "" := by
  obtain ⟨cid', -, hcid⟩ := List.exists_of_findSome?_eq_some h
  obtain ⟨owner', hlookup, heq⟩ := Option.map_eq_some_iff.mp hcid
  obtain ⟨-, rfl⟩ := Prod.mk.inj heq
  have hall : ∀ owner ∈ controlOwnerMap.map Prod.snd, owner ≠ "" := by decide
  exact hall _ (mem_of_lookup hlookup)

/-- Whatever the source, the role is not empty. -/
theorem Request.pick_ne_empty (r : Request) (duty : Duty) : (r.pick duty).roleId ≠ "" := by
  unfold pick
  dsimp only
  split
  · next role hrole => exact truthyText_ne_empty hrole
  · next role _ hrole => exact truthyText_ne_empty hrole
  · split
    · next cid owner howner =>
      split at howner
      · exact controlOwner_ne_empty howner
      · cases howner
    · split
      · exact mapForClassification_ne_empty _ _
      · exact mapForClassification_ne_empty _ _

/-! ## Segregation of duties -/

/-- Neither the same role nor the same person. -/
structure RoleRef.ApartFrom (a e : RoleRef) : Prop where
  role : a.roleId ≠ e.roleId
  identity : ∀ person, a.identity = some person → e.identity ≠ some person

/-- No approver is the one who executes. -/
def StakeholderContext.Segregated (ctx : StakeholderContext) : Prop :=
  ∀ e, ctx.executionAuthority = some e → ∀ a ∈ ctx.approverRoles, a.ApartFrom e

namespace Request

variable (r : Request) (identities : List (String × String))

/-- The configuration has different people for a duty and for the executor, or nobody for one of
the two. -/
def PeopleApart (duty : Duty) : Prop :=
  ∀ person, identityOf identities duty (r.pick duty).roleId = some person →
    identityOf identities .executor (r.pick .executor).roleId ≠ some person

/-- What the resolver cannot bring about itself. -/
def DutiesApart : Prop :=
  if (r.pick .approver).roleId ≠ (r.pick .executor).roleId then
    r.needsApproval = true → r.PeopleApart identities .approver
  else if (r.pick .escalation).roleId ≠ (r.pick .executor).roleId then
    r.PeopleApart identities .escalation
  else r.needsApproval = false

theorem resolve_eq_ok (title : List Char → List Char) (ctx : StakeholderContext) :
    r.resolve title = .ok ctx ↔
      ∃ identities, r.identities = .ok identities ∧ ctx = r.context title identities := by
  unfold resolve
  rw [bind_ok]
  exact exists_congr fun identities => and_congr_right fun _ =>
    ⟨fun h => (Except.ok.inj h).symm, fun h => congrArg Except.ok h.symm⟩

/-- The role of a duty, as the resolver makes it. -/
def roleOf (title : List Char → List Char) (duty : Duty) (reason : ReasonCode) : RoleRef :=
  let identity := identityOf identities duty (r.pick duty).roleId
  { roleId := (r.pick duty).roleId
    displayName := roleDisplay title (r.pick duty).roleId
    kind := if identity.isSome then .configuredIdentity else .role
    identity := identity
    source := if identity.isSome then .explicitConfiguration else (r.pick duty).source
    reasonCode := reason
    rationale := (r.pick duty).rationale }

theorem roleFromConfig_eq (title : List Char → List Char) (duty : Duty) (reason : ReasonCode) :
    roleFromConfig title duty (r.pick duty) identities reason =
      some (r.roleOf identities title duty reason) :=
  if_neg (r.pick_ne_empty duty)

/-- Who is to approve before the duties are split. -/
def firstApprovers (title : List Char → List Char) : List RoleRef :=
  if r.needsApproval then [r.roleOf identities title .approver .approverRequired] else []

/-- The escalation role as the approver. -/
def escalated (title : List Char → List Char) : RoleRef :=
  { r.roleOf identities title .escalation .stakeholderResolved with
    source := .defaultRoleMapping
    reasonCode := .segregationOfDutiesRequired
    rationale := "Approver must differ from executor (SoD)." }

theorem context_approverRoles (title : List Char → List Char) (hsod : r.sod = true) :
    (r.context title identities).approverRoles =
      if (r.pick .approver).roleId ≠ (r.pick .executor).roleId then
        r.firstApprovers identities title
      else if (r.pick .escalation).roleId ≠ (r.pick .executor).roleId then
        [r.escalated identities title]
      else r.firstApprovers identities title := by
  have happrovers : (if r.needsApproval = true then
      (some (r.roleOf identities title .approver .approverRequired)).toList else []) =
      r.firstApprovers identities title := rfl
  have hsame : sameRole (some (r.roleOf identities title .approver .approverRequired))
      (some (r.roleOf identities title .executor .stakeholderResolved)) =
      ((r.pick .approver).roleId == (r.pick .executor).roleId) := rfl
  have hsplit : ∀ approvers, splitApprovers approvers
      (some (r.roleOf identities title .escalation .stakeholderResolved))
      (some (r.roleOf identities title .executor .stakeholderResolved)) =
      if (r.pick .escalation).roleId ≠ (r.pick .executor).roleId then
        [r.escalated identities title] else approvers := fun _ => rfl
  unfold context
  dsimp only
  simp only [roleFromConfig_eq, happrovers, hsame, hsplit, hsod, Bool.true_and, beq_iff_eq, ne_eq,
    ite_not]

/-- Somebody approves whenever somebody has to, so the executor always has the authority. -/
theorem context_executionAuthority (title : List Char → List Char) (hsod : r.sod = true) :
    (r.context title identities).executionAuthority =
      some (r.roleOf identities title .executor .stakeholderResolved) := by
  have happroved : (!r.needsApproval ||
      !(r.context title identities).approverRoles.isEmpty) = true := by
    cases hneeds : r.needsApproval with
    | false => rfl
    | true =>
      rw [context_approverRoles _ _ _ hsod]
      unfold firstApprovers
      rw [hneeds]
      split
      · rfl
      · split <;> rfl
  have hauthority : (r.context title identities).executionAuthority =
      if !r.needsApproval || !(r.context title identities).approverRoles.isEmpty then
        roleFromConfig title .executor (r.pick .executor) identities .stakeholderResolved
      else none := rfl
  rw [hauthority, happroved, roleFromConfig_eq]
  rfl

theorem context_segregated_iff (title : List Char → List Char) (hsod : r.sod = true) :
    (r.context title identities).Segregated ↔ r.DutiesApart identities := by
  have hauthority : (r.context title identities).Segregated ↔
      ∀ a ∈ (r.context title identities).approverRoles,
        a.ApartFrom (r.roleOf identities title .executor .stakeholderResolved) := by
    unfold StakeholderContext.Segregated
    rw [context_executionAuthority _ _ _ hsod]
    simp
  rw [hauthority, context_approverRoles _ _ _ hsod]
  unfold DutiesApart firstApprovers
  by_cases hrole : (r.pick .approver).roleId = (r.pick .executor).roleId
  · rw [if_neg (not_not_intro hrole), if_neg (not_not_intro hrole)]
    by_cases hesc : (r.pick .escalation).roleId = (r.pick .executor).roleId
    · rw [if_neg (not_not_intro hesc), if_neg (not_not_intro hesc)]
      -- the approver keeps the executor's role
      cases r.needsApproval with
      | false => simp
      | true =>
        simp only [if_true, List.forall_mem_singleton, Bool.true_eq_false, iff_false]
        exact fun h => h.role hrole
    · rw [if_pos hesc, if_pos hesc, List.forall_mem_singleton]
      exact ⟨fun h => h.identity, fun h => ⟨hesc, h⟩⟩
  · rw [if_pos hrole, if_pos hrole]
    cases r.needsApproval with
    | false => simp
    | true =>
      simp only [if_true, List.forall_mem_singleton, forall_const]
      exact ⟨fun h => h.identity, fun h => ⟨hrole, h⟩⟩

end Request

/-- With the segregation of duties in force, no approver is the one who executes exactly when
the configuration keeps them apart. -/
theorem segregated_iff (title : List Char → List Char) (r : Request) :
    (∀ ctx, r.resolve title = .ok ctx → r.sod = true → ctx.Segregated) ↔
      ∀ identities, r.identities = .ok identities → r.sod = true → r.DutiesApart identities := by
  constructor
  · intro h identities hids hsod
    refine (r.context_segregated_iff identities title hsod).mp (h _ ?_ hsod)
    exact (r.resolve_eq_ok title _).mpr ⟨identities, hids, rfl⟩
  · intro h ctx hctx hsod
    obtain ⟨identities, hids, rfl⟩ := (r.resolve_eq_ok title ctx).mp hctx
    exact (r.context_segregated_iff identities title hsod).mpr (h identities hids hsod)

/-- A configuration with one role for the approval, the execution and the escalation. -/
def oneRoleRequest : Request where
  classification := "DEAD_PROXY_CONFIG"
  policyOutcome := "REQUIRE_HUMAN_APPROVAL"
  config :=
    [("approver", .str "desktop_support_executor"), ("executor", .str "desktop_support_executor"),
      ("escalation", .str "desktop_support_executor")]

/-- The one who executes has approved. -/
theorem oneRole_approves_itself :
    ¬ ∀ ctx, oneRoleRequest.resolve id = .ok ctx → oneRoleRequest.sod = true → ctx.Segregated := by
  intro h
  have hseg := h (oneRoleRequest.context id []) rfl rfl
  have hauthority := oneRoleRequest.context_executionAuthority [] id rfl
  refine (hseg _ hauthority (oneRoleRequest.roleOf [] id .approver .approverRequired) ?_).role ?_
  · rw [oneRoleRequest.context_approverRoles [] id rfl]
    decide +kernel
  · decide +kernel

end Stakeholder
