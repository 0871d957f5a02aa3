import NetworkRecovery.Audit.Record
import NetworkRecovery.Lib.Collect
import NetworkRecovery.Proxy.Parser

/-!
# Migration of repair audits

`migrate_row` of `migrate_v1_audit_to_v2.py`: one row of the old repair audit
becomes a snapshot, an attempt for each command, and a verification. The old
rows have several shapes and nothing checks them, so that a row here is any
dictionary.

A command that was run is an entry of `results`. Where there are none the
commands of `planned_action` stand in for them, and those attempts are written
as successful although nothing was run. `migrateRow_faithful_iff` says for
which rows the attempts are those of `results`, with the success the entries
have.
-/

namespace Migration

open Python ProxyGuard Audit

/-! ## The event log -/

/-- `d.get(k, d.get(k'))`. -/
def fieldOr (d : Dict) (k k' : String) : Value := (d.get? k).getD (Dict.fetch d k')

/-- `correlation_key`. -/
def correlationKey (H : Digest) (proxyServer : Option String) : String :=
  .ofList ((H.hexdigest (encode (strip (proxyServer.getD "").toList))).toList.take 24)

/-- What `migrate_row` asks for: new event ids, the time, and `uuid5` in the
namespace of the incidents. `newEventId n` is the id after `n` others, and
`utcNow n` the time when `n` have been drawn. -/
structure Tools where
  newEventId : Nat → String
  utcNow : Nat → String
  uuid5 : String → String

/-- `incident_id_from_proxy`. -/
def incidentIdFromProxy (tools : Tools) (proxyServer : Option String) : String :=
  tools.uuid5 (.ofList (lower (strip (proxyServer.getD "").toList)))

/-- `parse_proxy`. -/
def parseProxy (observed : Dict) : Dict :=
  let parsed := parseProxyServer <| match Dict.fetch observed "ProxyServer" with
    | .none => none
    | ps => some ps.toText
  [("is_enabled", .bool ((Dict.fetch observed "ProxyEnable").pyEq (.int 1))),
    ("proxy_mode", .str (parsed.proxyMode.text)),
    ("localhost_host", optionalText parsed.localhostHost),
    ("localhost_port", optionalInt parsed.localhostPort),
    ("is_localhost_proxy", .bool parsed.isLocalhostProxy)]

/-! ## The registry values -/

/-- The values of `before`, under the names of either generation. -/
def observedBefore (row : Dict) : Option Dict :=
  match row.get? "before" with
  | some (.dict before) =>
    let values := match Dict.get? before "values" with
      | some (.dict values) => values
      | _ => before
    if ["ProxyEnable", "proxy_enable", "ProxyServer", "proxy_server"].any fun k =>
        (values.get? k).isSome then
      some [("ProxyEnable", fieldOr values "ProxyEnable" "proxy_enable"),
        ("ProxyServer", fieldOr values "ProxyServer" "proxy_server"),
        ("AutoConfigURL", fieldOr values "AutoConfigURL" "auto_config_url"),
        ("AutoDetect", fieldOr values "AutoDetect" "auto_detect"),
        ("ProxyOverride", fieldOr values "ProxyOverride" "proxy_override")]
    else none
  | _ => none

/-- The values of `after`. -/
def observedAfter (row : Dict) : Option Dict :=
  match row.get? "after" with
  | some (.dict after) =>
    some [("ProxyEnable", Dict.fetch after "proxy_enable"),
      ("ProxyServer", Dict.fetch after "proxy_server"),
      ("AutoConfigURL", Dict.fetch after "auto_config_url"),
      ("AutoDetect", Dict.fetch after "auto_detect"),
      ("ProxyOverride", Dict.fetch after "proxy_override")]
  | _ => none

/-- `observed`: the values of `before` if it has any, else those of `after`. -/
def observedValues (row : Dict) : Option Dict := (observedBefore row).or (observedAfter row)

/-- `proxy_server_guess`, `none` for an empty one. -/
def proxyServerGuess (observed : Option Dict) : Option String :=
  let guess := match observed with
    | none => ""
    | some observed => match orElse (observed.get? "ProxyServer") (.str "") with
      | .str s => .ofList (strip s.toList)
      | ps => ps.toText
  if guess = "" then none else some guess

/-! ## The rows -/

/-- What the rows of one old row have in common. -/
structure Lineage where
  /-- `str(ts)` -/
  timestamp : String
  incidentId : String
  correlationKey : String
  /-- `snap_eid` -/
  snapshotId : String

def lineage (tools : Tools) (H : Digest) (row : Dict) : Lineage where
  timestamp := (orElse (row.get? "timestamp") (.str (tools.utcNow 0))).toText
  incidentId := incidentIdFromProxy tools (proxyServerGuess (observedValues row))
  correlationKey := correlationKey H (proxyServerGuess (observedValues row))
  snapshotId := tools.newEventId 0

/-- The first entries of every row. -/
def header (line : Lineage) (eventType eventId : String) : Dict :=
  [("schema_version", .str "2.0"),
    ("event_type", .str eventType),
    ("event_id", .str eventId),
    ("timestamp_utc", .str line.timestamp),
    ("incident_id", .str line.incidentId),
    ("correlation_key", .str line.correlationKey)]

def snapshotRow (line : Lineage) (observed : Dict) : Dict :=
  header line "snapshot" line.snapshotId ++
    [("scope", Value.str "HKCU"),
      ("source", .str "wininet_registry"),
      ("observed", .dict observed),
      ("parsed", .dict (parseProxy observed)),
      ("_migrated_from", .str "repair_audit.jsonl")]

/-- An attempt, of either kind. -/
def attemptRow (line : Lineage) (observed : Option Dict) (rid actionType : String)
    (argv : List Value) (result confirmation note : Dict) : Dict :=
  header line "repair_attempt" rid ++
    [("snapshot_event_id", Value.str (if observed.isSome then line.snapshotId else rid)),
      ("action_type", .str actionType),
      ("target", .dict []),
      ("mutation_argv", textList (argv.map Value.toText)),
      ("result", .dict result),
      ("confirmation", .dict confirmation),
      ("risk", .dict [("risk_level", .str "low"),
        ("changes_winhttp", .bool false),
        ("changes_system_proxy", .bool false),
        ("changes_hkcu_only", .bool true)]),
      ("_migrated_from", .str "repair_audit.jsonl")] ++ note

/-- `str(v or "")[:4000]`. -/
def clipped (v : Option Value) : Value :=
  .str (.ofList ((orElse v (.str "")).toText.toList.take 4000))

/-- `argv[:2] == ["reg", "delete"]`. -/
def isRegDelete (argv : List Value) : Bool :=
  (Value.list (argv.take 2)).pyEq (textList ["reg", "delete"])

/-- `r.get("code", -1)`. -/
def codeOf (r : Dict) : Value := (r.get? "code").getD (.int (-1))

/-- The attempt of an entry of `results`. -/
def resultAttempt (line : Lineage) (observed : Option Dict) (row : Dict) (rid : String)
    (entry : Dict × List Value) : Except PyError Dict := do
  let (r, argv) := entry
  let actionType := if isRegDelete argv then "delete_wininet_proxyserver_value"
    else "disable_wininet_hkcu_proxy"
  let code ← (codeOf r).toInt
  return attemptRow line observed rid actionType argv
    [("exit_code", .int code),
      ("stdout", clipped (r.get? "stdout")),
      ("stderr", clipped (r.get? "stderr")),
      ("command_success", .bool (code == 0))]
    [("required", .bool true),
      ("method", .str (orElse (row.get? "confirmation_method") (.str "typed_phrase")).toText)]
    []

/-- The attempt of a command of `planned_action`. -/
def plannedAttempt (line : Lineage) (observed : Option Dict) (rid : String) (argv : List Value) :
    Dict :=
  attemptRow line observed rid "disable_wininet_hkcu_proxy" argv
    [("exit_code", .int 0),
      ("stdout", .str ""),
      ("stderr", .str ""),
      ("command_success", .bool true)]
    [("required", .bool true), ("method", .str "typed_phrase")]
    [("_migrated_note", .str "planned_action only (no stdout/stderr on v1 row)")]

def verificationRow (line : Lineage) (row ver : Dict) (eventId link : String) : Dict :=
  header line "verification" eventId ++
    [("repair_event_id", Value.str link),
      ("expected", .dict
        [("ProxyEnable", (ver.get? "expected_proxy_enable").getD (.int 0))]),
      ("observed", .dict (match row.get? "after" with
        | some (.dict after) =>
          [("ProxyEnable", Dict.fetch after "proxy_enable"),
            ("ProxyServer", Dict.fetch after "proxy_server")]
        | _ => [])),
      ("ok", .bool (Dict.fetch ver "ok").truthy),
      ("confidence", .float (.finite (if (Dict.fetch ver "ok").truthy then .ofParts false 99 (-2)
        else .ofParts false 4 (-1)))),
      ("interpretation", .str (orElse (ver.get? "detail") (.str "")).toText),
      ("_migrated_from", .str "repair_audit.jsonl")]

def skipRow (H : Digest) (line : Lineage) (eventId sourceLine : String) : Dict :=
  header line "migration_skip" eventId ++
    [("reason", Value.str "unrecognized_v1_row_shape"),
      ("source_line_sha256", .str (H.hexdigest (encode sourceLine.toList)))]

/-! ## The two loops -/

/-- `results`, empty where it is no list. -/
def resultsOf (row : Dict) : List Value :=
  match row.get? "results" with
  | some (.list results) => results
  | _ => []

/-- `planned.get("mutation_argv")`. -/
def plannedArgv (row : Dict) : Value :=
  match row.get? "planned_action" with
  | some (.dict planned) => Dict.fetch planned "mutation_argv"
  | _ => .none

/-- An entry of `results` with a list `argv`. -/
def withArgv : Value → Option (Dict × List Value)
  | .dict r => match Dict.get? r "argv" with
    | some (.list argv) => some (r, argv)
    | _ => none
  | _ => none

/-- A list. -/
def asList : Value → Option (List Value)
  | .list argv => some argv
  | _ => none

/-- The attempts of a row, with their ids. -/
def attempts (tools : Tools) (line : Lineage) (observed : Option Dict) (row : Dict) :
    Except PyError (Collect.Bag String Dict) :=
  let fresh (n : Nat) := tools.newEventId (n + 1)
  if resultsOf row ≠ [] then
    Collect.collect fresh withArgv (resultAttempt line observed row) (resultsOf row)
  else if (plannedArgv row).truthy then do
    let argvs ← (plannedArgv row).items
    Collect.collect fresh asList (fun rid argv => .ok (plannedAttempt line observed rid argv)) argvs
  else .ok .empty

/-- The verification, if the row has one: it links to the first attempt. -/
def verifications (tools : Tools) (line : Lineage) (row : Dict)
    (bag : Collect.Bag String Dict) : List Dict :=
  match row.get? "verification_result" with
  | some (.dict ver) =>
    let link := bag.names.head?.getD ("migrated:no_repair:" ++ line.snapshotId)
    [verificationRow line row ver (tools.newEventId (bag.names.length + 1)) link]
  | _ => []

/-- The rows around the attempts; a row that gives none of them is skipped. -/
def assemble (tools : Tools) (H : Digest) (row : Dict) (sourceLine : String)
    (bag : Collect.Bag String Dict) : List Dict :=
  let line := lineage tools H row
  let snapshots := ((observedValues row).map (snapshotRow line)).toList
  let out := snapshots ++ bag.built ++ verifications tools line row bag
  if out.isEmpty then
    let next := bag.names.length + 1
    [skipRow H { line with timestamp := tools.utcNow (next + 1) } (tools.newEventId next) sourceLine]
  else out

/-- `migrate_row`. -/
def migrateRow (tools : Tools) (H : Digest) (row : Dict) (sourceLine : String) :
    Except PyError (List Dict) := do
  let bag ← attempts tools (lineage tools H row) (observedValues row) row
  return assemble tools H row sourceLine bag

/-! ## What a migration should be -/

/-- A row of the type. -/
def isEvent (eventType : String) (row : Dict) : Bool :=
  match row.get? "event_type" with
  | some (.str t) => t == eventType
  | _ => false

/-- An attempt with `command_success=True`. -/
def Successful (attempt : Dict) : Prop :=
  ∃ result, attempt.get? "result" = some (.dict result) ∧
    Dict.get? result "command_success" = some (.bool true)

/-- An attempt has the command of the entry, and its success only if the code is 0. -/
structure Mirrors (entry : Dict × List Value) (attempt : Dict) : Prop where
  argv : attempt.get? "mutation_argv" = some (textList (entry.2.map Value.toText))
  success : Successful attempt →
    ∃ code, entry.1.get? "code" = some code ∧ code.pyEq (.int 0) = true

/-- The rows mean what the old row meant. -/
structure Faithful (row : Dict) (out : List Dict) : Prop where
  attempts : List.Forall₂ Mirrors ((resultsOf row).filterMap withArgv)
    (out.filter (isEvent "repair_attempt"))
  linked : ∀ ver ∈ out, isEvent "verification" ver = true →
    out.filter (isEvent "repair_attempt") ≠ [] →
    ∃ attempt ∈ out.filter (isEvent "repair_attempt"), ∃ id,
      ver.get? "repair_event_id" = some id ∧ attempt.get? "event_id" = some id
  carried : ∃ incidentId key, ∀ r ∈ out,
    r.get? "incident_id" = some incidentId ∧ r.get? "correlation_key" = some key

/-- `int` of the code raises nothing, and makes no 0 of what is not equal to 0. -/
def CodeReads (r : Dict) : Prop :=
  ∃ code, (codeOf r).toInt = .ok code ∧ (code = 0 → (codeOf r).pyEq (.int 0) = true)

/-- The rows that `migrate_row` carries over: every code of `results` reads as it is, and
without `results` there is no command that was planned, nor a `mutation_argv` that cannot be
run through. -/
def Carries (row : Dict) : Prop :=
  if resultsOf row ≠ [] then ∀ entry ∈ (resultsOf row).filterMap withArgv, CodeReads entry.1
  else (plannedArgv row).truthy = true →
    ∃ argvs, (plannedArgv row).items = .ok argvs ∧ argvs.filterMap asList = []

/-! ## Reading the rows -/

section Fields

variable (line : Lineage) (eventType eventId : String) (rest : Dict)

@[simp] theorem get?_header_eventType :
    Dict.get? (header line eventType eventId ++ rest) "event_type" = some (.str eventType) := rfl

@[simp] theorem get?_header_eventId :
    Dict.get? (header line eventType eventId ++ rest) "event_id" = some (.str eventId) := rfl

@[simp] theorem get?_header_incidentId :
    Dict.get? (header line eventType eventId ++ rest) "incident_id" =
      some (.str line.incidentId) := rfl

@[simp] theorem get?_header_correlationKey :
    Dict.get? (header line eventType eventId ++ rest) "correlation_key" =
      some (.str line.correlationKey) := rfl

@[simp] theorem isEvent_header (t : String) :
    isEvent t (header line eventType eventId ++ rest) = (eventType == t) := rfl

end Fields

/-- What an attempt has in any case. -/
structure Attempt (line : Lineage) (rid : String) (attempt : Dict) : Prop where
  event : ∀ t, isEvent t attempt = ("repair_attempt" == t)
  id : attempt.get? "event_id" = some (.str rid)
  incidentId : attempt.get? "incident_id" = some (.str line.incidentId)
  key : attempt.get? "correlation_key" = some (.str line.correlationKey)

section Attempts

variable {line : Lineage} {observed : Option Dict} {row : Dict} {rid : String}

theorem attemptRow_attempt (actionType : String) (argv : List Value)
    (result confirmation note : Dict) :
    Attempt line rid (attemptRow line observed rid actionType argv result confirmation note) :=
  ⟨fun _ => rfl, rfl, rfl, rfl⟩

/-- An attempt is successful when its result says so. -/
theorem successful_attemptRow (actionType : String) (argv : List Value)
    {result : Dict} (confirmation note : Dict) :
    Successful (attemptRow line observed rid actionType argv result confirmation note) ↔
      result.get? "command_success" = some (.bool true) := by
  constructor
  · rintro ⟨result', hresult, hsuccess⟩
    cases hresult
    exact hsuccess
  · intro hsuccess
    exact ⟨result, rfl, hsuccess⟩

/-- The attempt of an entry is there when `int` of the code is. -/
theorem resultAttempt_ok {entry : Dict × List Value} {attempt : Dict}
    (h : resultAttempt line observed row rid entry = .ok attempt) :
    Attempt line rid attempt ∧
      attempt.get? "mutation_argv" = some (textList (entry.2.map Value.toText)) ∧
      ∃ code, (codeOf entry.1).toInt = .ok code ∧ (Successful attempt ↔ code = 0) := by
  unfold resultAttempt at h
  obtain ⟨code, hcode, hattempt⟩ := bind_ok.mp h
  cases hattempt
  refine ⟨attemptRow_attempt _ _ _ _ _, rfl, code, hcode, ?_⟩
  rw [successful_attemptRow]
  simp [Dict.get?, List.lookup_cons]

theorem exists_resultAttempt {entry : Dict × List Value} {code : Int}
    (hcode : (codeOf entry.1).toInt = .ok code) :
    ∃ attempt, resultAttempt line observed row rid entry = .ok attempt := by
  obtain ⟨r, argv⟩ := entry
  unfold resultAttempt
  dsimp only at hcode ⊢
  rw [hcode]
  exact ⟨_, rfl⟩

/-- The attempt of a planned command is successful, whatever came of the command. -/
theorem plannedAttempt_successful (argv : List Value) :
    Successful (plannedAttempt line observed rid argv) :=
  (successful_attemptRow _ _ _ _).mpr rfl

end Attempts

/-- A code that is equal to 0 stands in the entry: the default is none. -/
theorem codeOf_zero {r : Dict} (h : (codeOf r).pyEq (.int 0) = true) :
    ∃ code, r.get? "code" = some code ∧ code.pyEq (.int 0) = true := by
  unfold codeOf at h
  cases hcode : r.get? "code" with
  | none =>
    rw [hcode] at h
    cases h
  | some code =>
    rw [hcode] at h
    exact ⟨code, rfl, h⟩

/-! ## The loops and the rows -/

section Loops

variable {tools : Tools} {H : Digest} {line : Lineage} {observed : Option Dict} {row : Dict}
  {sourceLine : String} {bag : Collect.Bag String Dict}

/-- What the loop over `results` has built. -/
theorem attempts_results (hresults : resultsOf row ≠ [])
    (h : attempts tools line observed row = .ok bag) :
    Collect.Built (resultAttempt line observed row) bag.names
      ((resultsOf row).filterMap withArgv) bag.built := by
  unfold attempts at h
  dsimp only at h
  rw [if_pos hresults] at h
  exact Collect.collect_built h

/-- What the loop over the planned commands has built, if it was entered. -/
theorem attempts_planned (hresults : resultsOf row = [])
    (h : attempts tools line observed row = .ok bag) :
    ((plannedArgv row).truthy = false ∧ bag = .empty) ∨
      ∃ argvs, (plannedArgv row).items = .ok argvs ∧
        Collect.Built (fun rid argv => (.ok (plannedAttempt line observed rid argv) :
          Except PyError Dict)) bag.names (argvs.filterMap asList) bag.built := by
  unfold attempts at h
  dsimp only at h
  rw [if_neg (not_not.mpr hresults)] at h
  split at h
  · obtain ⟨argvs, hitems, hcollect⟩ := bind_ok.mp h
    exact .inr ⟨argvs, hitems, Collect.collect_built hcollect⟩
  · next hfalse =>
    cases h
    exact .inl ⟨by simpa using hfalse, rfl⟩

/-- Each attempt is one, and the first id is that of an attempt. -/
structure Numbered (line : Lineage) (bag : Collect.Bag String Dict) : Prop where
  attempt : ∀ b ∈ bag.built, ∃ rid, Attempt line rid b
  first : bag.built ≠ [] → ∃ rid, bag.names.head? = some rid ∧ ∃ b ∈ bag.built, Attempt line rid b

/-- A loop that builds attempts numbers them. -/
theorem numbered_of_built {α : Type} {build : String → α → Except PyError Dict} {as : List α}
    (hbuild : ∀ rid a b, build rid a = .ok b → Attempt line rid b)
    (h : Collect.Built build bag.names as bag.built) : Numbered line bag where
  attempt := by
    intro b hb
    obtain ⟨rid, a, -, hab⟩ := h.of_mem hb
    exact ⟨rid, hbuild rid a b hab⟩
  first := by
    intro hne
    obtain ⟨rid, a, b, hhead, hb, hab⟩ := h.head hne
    exact ⟨rid, hhead, b, hb, hbuild rid a b hab⟩

theorem numbered_attempts (h : attempts tools line observed row = .ok bag) :
    Numbered line bag := by
  by_cases hresults : resultsOf row = []
  · rcases attempts_planned hresults h with ⟨-, hempty⟩ | ⟨argvs, -, hbuilt⟩
    · rw [hempty]
      exact ⟨fun b hb => (List.not_mem_nil hb).elim, fun hne => absurd rfl hne⟩
    · apply numbered_of_built _ hbuilt
      intro rid argv b hb
      cases hb
      exact attemptRow_attempt _ _ _ _ _
  · apply numbered_of_built _ (attempts_results hresults h)
    intro rid entry b hb
    exact (resultAttempt_ok hb).1

/-- A verification is of no other type. -/
theorem mem_verifications {r : Dict} (hr : r ∈ verifications tools line row bag) :
    (∀ t, isEvent t r = ("verification" == t)) ∧
      r.get? "incident_id" = some (.str line.incidentId) ∧
      r.get? "correlation_key" = some (.str line.correlationKey) ∧
      r.get? "repair_event_id" =
        some (.str (bag.names.head?.getD ("migrated:no_repair:" ++ line.snapshotId))) := by
  unfold verifications at hr
  split at hr
  · rw [List.mem_singleton.mp hr]
    exact ⟨fun _ => rfl, rfl, rfl, rfl⟩
  · cases hr

/-- Where a row of the migration comes from. -/
theorem mem_assemble {r : Dict} (hr : r ∈ assemble tools H row sourceLine bag) :
    (∃ observed, r = snapshotRow (lineage tools H row) observed) ∨ r ∈ bag.built ∨
      r ∈ verifications tools (lineage tools H row) row bag ∨
      (∀ t, isEvent t r = ("migration_skip" == t)) ∧
        r.get? "incident_id" = some (.str (lineage tools H row).incidentId) ∧
        r.get? "correlation_key" = some (.str (lineage tools H row).correlationKey) := by
  unfold assemble at hr
  dsimp only at hr
  split at hr
  · right; right; right
    rw [List.mem_singleton.mp hr]
    exact ⟨fun _ => rfl, rfl, rfl⟩
  · rcases List.mem_append.mp hr with hr | hr
    · rcases List.mem_append.mp hr with hr | hr
      · left
        obtain ⟨observed, -, rfl⟩ := Option.mem_map.mp (Option.mem_toList.mp hr)
        exact ⟨observed, rfl⟩
      · right; left
        exact hr
    · right; right; left
      exact hr

/-- The attempts of a migration are those of the loop. -/
theorem filter_assemble (hbag : Numbered (lineage tools H row) bag) :
    (assemble tools H row sourceLine bag).filter (isEvent "repair_attempt") = bag.built := by
  have hsnapshot : (((observedValues row).map
      (snapshotRow (lineage tools H row))).toList).filter (isEvent "repair_attempt") = [] := by
    apply List.filter_eq_nil_iff.mpr
    intro r hr
    obtain ⟨observed, -, rfl⟩ := Option.mem_map.mp (Option.mem_toList.mp hr)
    simp [snapshotRow]
  have hverification : (verifications tools (lineage tools H row) row bag).filter
      (isEvent "repair_attempt") = [] := by
    apply List.filter_eq_nil_iff.mpr
    intro r hr
    rw [(mem_verifications hr).1]
    decide
  have hbuilt : bag.built.filter (isEvent "repair_attempt") = bag.built := by
    apply List.filter_eq_self.mpr
    intro r hr
    obtain ⟨rid, hattempt⟩ := hbag.attempt r hr
    rw [hattempt.event]
    decide
  unfold assemble
  dsimp only
  split
  · next hempty =>
    rw [List.isEmpty_iff, List.append_eq_nil_iff, List.append_eq_nil_iff] at hempty
    rw [hempty.1.2]
    rfl
  · rw [List.filter_append, List.filter_append, hsnapshot, hbuilt, hverification, List.nil_append,
      List.append_nil]

/-- A migration that returned has put the rows around its attempts. -/
theorem migrateRow_ok {out : List Dict} :
    migrateRow tools H row sourceLine = .ok out ↔
      ∃ bag, attempts tools (lineage tools H row) (observedValues row) row = .ok bag ∧
        out = assemble tools H row sourceLine bag := by
  unfold migrateRow
  rw [bind_ok]
  constructor
  · rintro ⟨bag, hbag, hout⟩
    cases hout
    exact ⟨bag, hbag, rfl⟩
  · rintro ⟨bag, hbag, rfl⟩
    exact ⟨bag, hbag, rfl⟩

/-- The verification names an attempt if there is one. -/
theorem linked_assemble (hbag : Numbered (lineage tools H row) bag) :
    ∀ ver ∈ assemble tools H row sourceLine bag, isEvent "verification" ver = true →
      bag.built ≠ [] → ∃ attempt ∈ bag.built, ∃ id,
        ver.get? "repair_event_id" = some id ∧ attempt.get? "event_id" = some id := by
  intro ver hver hevent hbuilt
  obtain ⟨rid, hhead, attempt, hmem, hattempt⟩ := hbag.first hbuilt
  refine ⟨attempt, hmem, .str rid, ?_, hattempt.id⟩
  rcases mem_assemble hver with ⟨observed, rfl⟩ | hb | hv | ⟨hskip, -⟩
  · simp [snapshotRow] at hevent
  · obtain ⟨rid', hattempt'⟩ := hbag.attempt ver hb
    rw [hattempt'.event] at hevent
    cases hevent
  · rw [(mem_verifications hv).2.2.2, hhead]
    rfl
  · rw [hskip] at hevent
    cases hevent

/-- Every row carries the incident and the key of the old row. -/
theorem carried_assemble (hbag : Numbered (lineage tools H row) bag) :
    ∀ r ∈ assemble tools H row sourceLine bag,
      r.get? "incident_id" = some (.str (lineage tools H row).incidentId) ∧
        r.get? "correlation_key" = some (.str (lineage tools H row).correlationKey) := by
  intro r hr
  rcases mem_assemble hr with ⟨observed, rfl⟩ | hb | hv | ⟨-, hincident, hkey⟩
  · exact ⟨by simp [snapshotRow], by simp [snapshotRow]⟩
  · obtain ⟨rid, hattempt⟩ := hbag.attempt r hb
    exact ⟨hattempt.incidentId, hattempt.key⟩
  · obtain ⟨-, hincident, hkey, -⟩ := mem_verifications hv
    exact ⟨hincident, hkey⟩
  · exact ⟨hincident, hkey⟩

/-- The links and the keys are right in any case: what may fail are the attempts. -/
theorem faithful_assemble_iff (hbag : Numbered (lineage tools H row) bag) :
    Faithful row (assemble tools H row sourceLine bag) ↔
      List.Forall₂ Mirrors ((resultsOf row).filterMap withArgv) bag.built := by
  constructor
  · intro h
    have hattempts := h.attempts
    rwa [filter_assemble hbag] at hattempts
  · intro h
    refine ⟨?_, ?_, _, _, carried_assemble hbag⟩
    · rwa [filter_assemble hbag]
    · rw [filter_assemble hbag]
      exact linked_assemble hbag

end Loops

/-! ## When it is one -/

section Faithfulness

variable (tools : Tools) (H : Digest) (row : Dict) (sourceLine : String)

/-- A row with `results`: the codes decide. -/
theorem faithful_results_iff (hresults : resultsOf row ≠ []) :
    (∃ out, migrateRow tools H row sourceLine = .ok out ∧ Faithful row out) ↔
      ∀ entry ∈ (resultsOf row).filterMap withArgv, CodeReads entry.1 := by
  constructor
  · rintro ⟨out, hout, hfaithful⟩ entry hentry
    obtain ⟨bag, hbag, rfl⟩ := migrateRow_ok.mp hout
    have hmirrors := (faithful_assemble_iff (numbered_attempts hbag)).mp hfaithful
    have hitems := (attempts_results hresults hbag).items
    obtain ⟨i, hi, rfl⟩ := List.mem_iff_getElem.mp hentry
    have hi' : i < bag.built.length := hmirrors.length_eq ▸ hi
    have hmirror := List.forall₂_iff_get.mp hmirrors |>.2 i hi hi'
    obtain ⟨rid, hattempt⟩ := List.forall₂_iff_get.mp hitems |>.2 i hi hi'
    obtain ⟨-, -, code, hcode, hsuccess⟩ := resultAttempt_ok hattempt
    refine ⟨code, hcode, ?_⟩
    intro hzero
    obtain ⟨c, hget, heq⟩ := hmirror.success (hsuccess.mpr hzero)
    unfold codeOf
    simp only [List.get_eq_getElem] at hget
    rw [hget]
    exact heq
  · intro hreads
    obtain ⟨bag, hbag⟩ : ∃ bag, attempts tools (lineage tools H row) (observedValues row) row =
        .ok bag := by
      unfold attempts
      dsimp only
      rw [if_pos hresults]
      apply Collect.exists_collect
      intro entry hentry rid
      obtain ⟨code, hcode, -⟩ := hreads entry hentry
      exact exists_resultAttempt hcode
    refine ⟨_, migrateRow_ok.mpr ⟨bag, hbag, rfl⟩, ?_⟩
    rw [faithful_assemble_iff (numbered_attempts hbag)]
    have hitems := (attempts_results hresults hbag).items
    rw [List.forall₂_iff_get] at hitems ⊢
    refine ⟨hitems.1, ?_⟩
    intro i hi hi'
    obtain ⟨rid, hattempt⟩ := hitems.2 i hi hi'
    obtain ⟨-, hargv, code, hcode, hsuccess⟩ := resultAttempt_ok hattempt
    refine ⟨hargv, ?_⟩
    intro hsuccessful
    obtain ⟨code', hcode', hzero⟩ := hreads _ (List.get_mem _ ⟨i, hi⟩)
    have hsame : code' = code := Except.ok.inj (hcode'.symm.trans hcode)
    exact codeOf_zero (hzero (hsame.trans (hsuccess.mp hsuccessful)))

/-- A row without: there must be nothing that was planned. -/
theorem faithful_planned_iff (hresults : resultsOf row = []) :
    (∃ out, migrateRow tools H row sourceLine = .ok out ∧ Faithful row out) ↔
      ((plannedArgv row).truthy = true →
        ∃ argvs, (plannedArgv row).items = .ok argvs ∧ argvs.filterMap asList = []) := by
  constructor
  · rintro ⟨out, hout, hfaithful⟩ htruthy
    obtain ⟨bag, hbag, rfl⟩ := migrateRow_ok.mp hout
    have hmirrors := (faithful_assemble_iff (numbered_attempts hbag)).mp hfaithful
    rcases attempts_planned hresults hbag with ⟨hfalse, -⟩ | ⟨argvs, hitems, hbuilt⟩
    · rw [hfalse] at htruthy
      cases htruthy
    · refine ⟨argvs, hitems, ?_⟩
      rw [hresults, List.filterMap_nil, List.forall₂_nil_left_iff] at hmirrors
      have hlength := hbuilt.items.length_eq
      rw [hmirrors] at hlength
      exact List.length_eq_zero_iff.mp hlength
  · intro hplanned
    obtain ⟨bag, hbag, hnone⟩ : ∃ bag, attempts tools (lineage tools H row) (observedValues row)
        row = .ok bag ∧ bag.built = [] := by
      by_cases htruthy : (plannedArgv row).truthy = true
      · obtain ⟨argvs, hitems, hlists⟩ := hplanned htruthy
        have hcollect : ∃ bag, attempts tools (lineage tools H row) (observedValues row) row =
            .ok bag := by
          unfold attempts
          dsimp only
          rw [if_neg (not_not.mpr hresults), if_pos htruthy, hitems]
          apply Collect.exists_collect
          intro argv hargv
          rw [hlists] at hargv
          cases hargv
        obtain ⟨bag, hbag⟩ := hcollect
        refine ⟨bag, hbag, ?_⟩
        rcases attempts_planned hresults hbag with ⟨hfalse, -⟩ | ⟨argvs', hitems', hbuilt⟩
        · rw [hfalse] at htruthy
          cases htruthy
        · cases hitems.symm.trans hitems'
          have hlength := hbuilt.items.length_eq
          rw [hlists] at hlength
          exact List.length_eq_zero_iff.mp hlength.symm
      · refine ⟨.empty, ?_, rfl⟩
        unfold attempts
        dsimp only
        rw [if_neg (not_not.mpr hresults), if_neg htruthy]
    refine ⟨_, migrateRow_ok.mpr ⟨bag, hbag, rfl⟩, ?_⟩
    rw [faithful_assemble_iff (numbered_attempts hbag), hresults, hnone]
    exact .nil

/-- `migrate_row` carries a row over exactly when every code of `results` reads as it is and,
without `results`, no command was planned. -/
theorem migrateRow_faithful_iff :
    (∃ out, migrateRow tools H row sourceLine = .ok out ∧ Faithful row out) ↔ Carries row := by
  unfold Carries
  split
  · next hresults => exact faithful_results_iff tools H row sourceLine hresults
  · next hresults => exact faithful_planned_iff tools H row sourceLine (not_not.mp hresults)

end Faithfulness

/-! ## A preview -/

/-- The row of a dry run that asked to clear `ProxyEnable` and changed nothing. -/
def previewRow : Dict :=
  [("type", .str "repair"),
    ("subtype", .str "proxy_disable"),
    ("event_kind", .str "preview_requested"),
    ("dry_run", .bool true),
    ("mutated", .bool false),
    ("before", .none),
    ("after", .none),
    ("planned_action", .dict [("mutation_argv",
      .list [textList ["reg", "add", "/v", "ProxyEnable", "/d", "0"]])]),
    ("verification_result", .dict []),
    ("results", .list [])]

/-- Its command becomes a successful attempt. -/
theorem preview_successful (tools : Tools) (H : Digest) (sourceLine : String) :
    ∃ out, migrateRow tools H previewRow sourceLine = .ok out ∧
      ∃ attempt ∈ out, isEvent "repair_attempt" attempt = true ∧ Successful attempt := by
  set line := lineage tools H previewRow
  set attempt := plannedAttempt line none (tools.newEventId 1)
    (["reg", "add", "/v", "ProxyEnable", "/d", "0"].map Value.str)
  have hbag : attempts tools line (observedValues previewRow) previewRow =
      .ok ⟨[tools.newEventId 1], [attempt]⟩ := rfl
  refine ⟨_, migrateRow_ok.mpr ⟨_, hbag, rfl⟩, attempt, ?_, rfl, plannedAttempt_successful _⟩
  have hmem : attempt ∈ (assemble tools H previewRow sourceLine
      ⟨[tools.newEventId 1], [attempt]⟩).filter (isEvent "repair_attempt") := by
    rw [filter_assemble (numbered_attempts hbag)]
    exact List.mem_singleton_self _
  exact (List.mem_filter.mp hmem).1

/-- Event ids in the order they are drawn, and a clock that stands still. -/
def sampleTools : Tools where
  newEventId := fun n => "event-" ++ toString n
  utcNow := fun _ => "2026-01-02T03:04:05+00:00"
  uuid5 := fun name => "incident-" ++ name

/-- A dry run is migrated as a command that was run with success. -/
theorem preview_recorded_as_success :
    resultsOf previewRow = [] ∧
      (∃ out, migrateRow sampleTools sha256 previewRow "{}" = .ok out ∧
        ∃ attempt ∈ out, isEvent "repair_attempt" attempt = true ∧ Successful attempt) ∧
      ¬ ∃ out, migrateRow sampleTools sha256 previewRow "{}" = .ok out ∧
        Faithful previewRow out := by
  refine ⟨rfl, preview_successful sampleTools sha256 "{}", ?_⟩
  rw [faithful_planned_iff sampleTools sha256 previewRow "{}" rfl]
  intro hplanned
  obtain ⟨argvs, hitems, hnone⟩ := hplanned rfl
  cases hitems
  cases hnone

end Migration
