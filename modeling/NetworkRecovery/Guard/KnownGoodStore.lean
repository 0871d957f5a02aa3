import NetworkRecovery.Guard.Evaluation
import NetworkRecovery.Lib.LastWriter
import NetworkRecovery.Toolkit.JsonlLogs

/-!
# Known-good snapshots

`known_good_store.py`: snapshots of the proxy configuration under names that an
operator gives them. The file is only appended to, and the row that was written
last is the snapshot of its name.

A row is raw JSON, so that a name or a server string can hold characters of
several bytes. The reader skips a line that is no JSON, and the store is the
map of the last writes whatever line stands at its end, as long as the line is
UTF-8 (`knownGood_lastWriter_iff`). A row that was torn inside a character is
not, and then nothing can be read any more.
-/

namespace ProxyGuard

open Python
open Audit (File readFile recordOfLine)
open Platform (rawStyle appendJsonl iterJsonl jsonlRows)

/-! ## Snapshots as JSON -/

/-- `ProxySnapshot.to_jsonable`. -/
def ProxySnapshot.toJsonable (s : ProxySnapshot) : Dict :=
  [("proxy_enable", optionalInt s.proxyEnable),
    ("proxy_server", optionalText s.proxyServer),
    ("proxy_override", optionalText s.proxyOverride),
    ("auto_config_url", optionalText s.autoConfigUrl),
    ("auto_detect", optionalInt s.autoDetect),
    ("winhttp_proxy", .str s.winhttpProxy),
    ("winhttp_direct_access", .bool s.winhttpDirectAccess),
    ("winhttp_proxy_server_literal", optionalText s.winhttpProxyServerLiteral),
    ("git_http_proxy", optionalText s.gitHttpProxy),
    ("git_https_proxy", optionalText s.gitHttpsProxy),
    ("npm_proxy", optionalText s.npmProxy),
    ("npm_https_proxy", optionalText s.npmHttpsProxy),
    ("user_http_proxy", optionalText s.userHttpProxy),
    ("user_https_proxy", optionalText s.userHttpsProxy),
    ("user_all_proxy", optionalText s.userAllProxy),
    ("user_no_proxy", optionalText s.userNoProxy),
    ("captured_at", .str s.capturedAt)]

/-- A `ProxySnapshot` as `from_json_dict` makes it: the fields it does not convert hold
whatever stood in the file. -/
structure LoadedSnapshot where
  proxyEnable : Value
  proxyServer : Value
  proxyOverride : Value
  autoConfigUrl : Value
  autoDetect : Value
  winhttpProxy : String
  winhttpDirectAccess : Bool
  winhttpProxyServerLiteral : Value
  gitHttpProxy : Value
  gitHttpsProxy : Value
  npmProxy : Value
  npmHttpsProxy : Value
  userHttpProxy : Value
  userHttpsProxy : Value
  userAllProxy : Value
  userNoProxy : Value
  capturedAt : String

/-- A snapshot with fields of the right types is one. -/
def ProxySnapshot.loaded (s : ProxySnapshot) : LoadedSnapshot where
  proxyEnable := optionalInt s.proxyEnable
  proxyServer := optionalText s.proxyServer
  proxyOverride := optionalText s.proxyOverride
  autoConfigUrl := optionalText s.autoConfigUrl
  autoDetect := optionalInt s.autoDetect
  winhttpProxy := s.winhttpProxy
  winhttpDirectAccess := s.winhttpDirectAccess
  winhttpProxyServerLiteral := optionalText s.winhttpProxyServerLiteral
  gitHttpProxy := optionalText s.gitHttpProxy
  gitHttpsProxy := optionalText s.gitHttpsProxy
  npmProxy := optionalText s.npmProxy
  npmHttpsProxy := optionalText s.npmHttpsProxy
  userHttpProxy := optionalText s.userHttpProxy
  userHttpsProxy := optionalText s.userHttpsProxy
  userAllProxy := optionalText s.userAllProxy
  userNoProxy := optionalText s.userNoProxy
  capturedAt := s.capturedAt

/-- `ProxySnapshot.from_json_dict`. -/
def fromJsonDict (blob : Dict) : LoadedSnapshot where
  proxyEnable := Dict.fetch blob "proxy_enable"
  proxyServer := Dict.fetch blob "proxy_server"
  proxyOverride := Dict.fetch blob "proxy_override"
  autoConfigUrl := Dict.fetch blob "auto_config_url"
  autoDetect := Dict.fetch blob "auto_detect"
  winhttpProxy := (orElse (blob.get? "winhttp_proxy") (.str "")).toText
  winhttpDirectAccess := ((blob.get? "winhttp_direct_access").getD (.bool false)).truthy
  winhttpProxyServerLiteral := Dict.fetch blob "winhttp_proxy_server_literal"
  gitHttpProxy := Dict.fetch blob "git_http_proxy"
  gitHttpsProxy := Dict.fetch blob "git_https_proxy"
  npmProxy := Dict.fetch blob "npm_proxy"
  npmHttpsProxy := Dict.fetch blob "npm_https_proxy"
  userHttpProxy := Dict.fetch blob "user_http_proxy"
  userHttpsProxy := Dict.fetch blob "user_https_proxy"
  userAllProxy := Dict.fetch blob "user_all_proxy"
  userNoProxy := Dict.fetch blob "user_no_proxy"
  capturedAt := (orElse (blob.get? "captured_at") (.str "")).toText

/-- Every field comes back. -/
theorem fromJsonDict_toJsonable (s : ProxySnapshot) : fromJsonDict s.toJsonable = s.loaded := by
  have hproxy : (fromJsonDict s.toJsonable).winhttpProxy = s.winhttpProxy := orElse_toText _
  have hcaptured : (fromJsonDict s.toJsonable).capturedAt = s.capturedAt := orElse_toText _
  calc fromJsonDict s.toJsonable
      = { s.loaded with
          winhttpProxy := (fromJsonDict s.toJsonable).winhttpProxy
          capturedAt := (fromJsonDict s.toJsonable).capturedAt } := rfl
    _ = s.loaded := by rw [hproxy, hcaptured]; rfl

theorem optionalText_injective : Function.Injective optionalText := by
  intro s t h
  cases s <;> cases t <;> cases h <;> rfl

theorem optionalInt_injective : Function.Injective optionalInt := by
  intro n m h
  cases n <;> cases m <;> cases h <;> rfl

/-- Different snapshots are loaded as different ones. -/
theorem ProxySnapshot.loaded_injective : Function.Injective ProxySnapshot.loaded := by
  rintro ⟨⟨_, _, _, _, _⟩, _, _, _, _, _, _, _, _, _, _, _, _⟩
    ⟨⟨_, _, _, _, _⟩, _, _, _, _, _, _, _, _, _, _, _, _⟩ h
  simp only [loaded, LoadedSnapshot.mk.injEq, optionalText_injective.eq_iff,
    optionalInt_injective.eq_iff] at h
  simp only [ProxySnapshot.mk.injEq, ProxyRegistrySnapshot.mk.injEq]
  tauto

/-! ## Writing -/

/-- `summarize_proxy_risk`. -/
def summarizeProxyRisk (parsed : ParsedProxy) (proxyEnableIsOn : Bool) : String :=
  if !proxyEnableIsOn then "low"
  else if parsed.isLocalhostProxy then "high"
  else if parsed.proxyMode ∈ [.manualExplicit, .multiSchemeExplicit, .socksLocalhost] then "medium"
  else if parsed.isMalformed then "medium"
  else "low"

/-- `summarize_snapshot_risk`. -/
def summarizeSnapshotRisk (snapshot : ProxySnapshot) : String :=
  summarizeProxyRisk (parseProxyServer snapshot.proxyServer) (snapshot.proxyEnable == some 1)

/-- `s.strip()`. -/
def trimmed (s : String) : String := .ofList (strip s.toList)

/-- A call of `append_named_snapshot`, with the time it reads. -/
structure SaveCall where
  name : String
  snapshot : ProxySnapshot
  riskSummary : Option String
  savedAt : String
  nonBlank : trimmed name ≠ ""

/-- `risk_summary or summarize_snapshot_risk(snapshot)`. -/
def SaveCall.risk (call : SaveCall) : String :=
  match call.riskSummary with
  | some risk => if risk = "" then summarizeSnapshotRisk call.snapshot else risk
  | none => summarizeSnapshotRisk call.snapshot

def SaveCall.row (call : SaveCall) : Dict :=
  [("schema_version", .int 1),
    ("name", .str (trimmed call.name)),
    ("saved_at", .str call.savedAt),
    ("risk_summary", .str call.risk),
    ("snapshot", .dict call.snapshot.toJsonable)]

/-- `append_named_snapshot`. -/
def appendNamedSnapshot (sep : Linesep) (file : File) (call : SaveCall) : File :=
  appendJsonl sep file call.row

/-- The store after the calls. -/
def saveAll (sep : Linesep) (calls : List SaveCall) : File :=
  calls.foldl (appendNamedSnapshot sep) none

/-- `write_default_config`. -/
def writeDefaultConfig (sep : Linesep) (record : Dict) : ByteArray :=
  writeText sep (dumps .indented (.dict
    [("schema_version", .int 1),
      ("name", Dict.fetch record "name"),
      ("saved_at", Dict.fetch record "saved_at"),
      ("risk_summary", Dict.fetch record "risk_summary"),
      ("snapshot", Dict.fetch record "snapshot")]))

/-! ## Reading -/

/-- A row with a name and a snapshot. -/
def isNamed (obj : Dict) : Bool :=
  (Dict.fetch obj "name").truthy && match obj.get? "snapshot" with
    | some (.dict _) => true
    | _ => false

/-- `iter_named_records`, exhausted. -/
def iterNamedRecords (file : File) : Except PyError (List Dict) :=
  (iterJsonl file).map fun objs => objs.filter isNamed

/-- `str(rec.get("name"))`. -/
def recordName (rec : Dict) : String := (Dict.fetch rec "name").toText

/-- `get_latest_named_record`. -/
def getLatestNamedRecord (file : File) (name : String) : Except PyError (Option Dict) :=
  (iterNamedRecords file).map (LastWriter.scan recordName (trimmed name))

/-- `snapshot_from_record`: `from_json_dict` raises nothing on what JSON can hold. -/
def snapshotFromRecord : Option Dict → Option LoadedSnapshot
  | none => none
  | some rec => match rec.get? "snapshot" with
    | some (.dict snap) => some (fromJsonDict snap)
    | _ => none

/-- `load_default_record`: bytes that are no UTF-8 raise. -/
def loadDefaultRecord : File → Except PyError (Option Dict)
  | none => .ok none
  | some b => (readFile b).map fun text => match loads text with
    | some (.dict blob) => some blob
    | _ => none

/-- `default_name`. -/
def defaultName (record : Option Dict) : Option String :=
  match record with
  | some record => if (Dict.fetch record "name").truthy then some (recordName record) else none
  | none => none

structure SnapshotSummary where
  name : String
  savedAt : Value
  riskSummary : Value
  hasDefaultFile : Bool

/-- `list_snapshot_summaries`. -/
def listSnapshotSummaries (file config : File) : Except PyError (List SnapshotSummary) := do
  let records ← iterNamedRecords file
  let defaultRecord ← loadDefaultRecord config
  return (LastWriter.listing recordName records).map fun (nm, rec) =>
    { name := nm
      savedAt := Dict.fetch rec "saved_at"
      riskSummary := Dict.fetch rec "risk_summary"
      hasDefaultFile := defaultName defaultRecord == some nm }

/-! ## The map of the last writes -/

/-- What stands at the end of the file: a row that was torn, or some line that holds no row
of the store. -/
inductive FinalLine where
  | torn (call : SaveCall) (cut : Nat) (part : cut < (encode (dumps rawStyle (.dict call.row))).size)
  | malformed (bytes : ByteArray)
      (single : ∀ text, decode bytes = some text → '\n' ∉ text ∧ '\r' ∉ text)
      (noRow : ∀ text obj, decode bytes = some text → loads (strip text) = some (.dict obj) →
        isNamed obj = false)

/-- The bytes before the line end. -/
def FinalLine.content : FinalLine → ByteArray
  | .torn call cut _ => (encode (dumps rawStyle (.dict call.row))).extract 0 cut
  | .malformed bytes _ _ => bytes

/-- The file with the line at its end. -/
def withFinal (sep : Linesep) (file : File) : Option FinalLine → File
  | none => file
  | some line => some (file.getD ByteArray.empty ++ (line.content ++ encode sep.text))

/-- The call that saved last under a name, trimmed. -/
def lastSaved (calls : List SaveCall) (name : String) : Option SaveCall :=
  LastWriter.scan (fun call => trimmed call.name) (trimmed name) calls

/-- The store is the map of the last writes: under every name there is the snapshot that was
saved last under it, and the listing has each name once, in order, with that row. -/
structure LastWriterMap (calls : List SaveCall) (file config : File) (default : Option Dict) :
    Prop where
  lookup : ∀ name, (getLatestNamedRecord file name).map snapshotFromRecord =
    .ok ((lastSaved calls name).map fun call => call.snapshot.loaded)
  listed : ∃ out, listSnapshotSummaries file config = .ok out ∧
    (out.map SnapshotSummary.name).Pairwise (· < ·) ∧
    (∀ name, name ∈ out.map SnapshotSummary.name ↔ ∃ call ∈ calls, trimmed call.name = name) ∧
    ∀ summary ∈ out, ∃ call, lastSaved calls summary.name = some call ∧
      summary = ⟨trimmed call.name, .str call.savedAt, .str call.risk,
        defaultName default == some (trimmed call.name)⟩

/-! ## The rows -/

theorem optionalInt_wf (n : Option Int) : (optionalInt n).WF := by
  cases n <;> trivial

theorem ProxySnapshot.toJsonable_wf (s : ProxySnapshot) : (Value.dict s.toJsonable).WF := by
  refine ⟨by simp [Dict.keys, toJsonable], ?_⟩
  simp only [toJsonable, EntriesWF, optionalText_wf, optionalInt_wf, Value.WF, and_self]

theorem SaveCall.row_wf (call : SaveCall) : (Value.dict call.row).WF := by
  refine ⟨by simp [Dict.keys, row], ?_⟩
  simp only [row, EntriesWF, Value.WF, true_and, and_true]
  exact call.snapshot.toJsonable_wf

theorem SaveCall.isNamed_row (call : SaveCall) : isNamed call.row = true := by
  have hname : Dict.fetch call.row "name" = .str (trimmed call.name) := rfl
  have hsnapshot : call.row.get? "snapshot" = some (.dict call.snapshot.toJsonable) := rfl
  unfold isNamed
  rw [hname, hsnapshot]
  simp [Value.truthy, call.nonBlank]

theorem SaveCall.recordName_row (call : SaveCall) : recordName call.row = trimmed call.name := rfl

theorem SaveCall.snapshotFromRecord_row (call : SaveCall) :
    snapshotFromRecord (some call.row) = some call.snapshot.loaded := by
  rw [← fromJsonDict_toJsonable]
  rfl

/-- Trimming twice is trimming once. -/
theorem trimmed_trimmed (s : String) : trimmed (trimmed s) = trimmed s := by
  unfold trimmed
  rw [String.toList_ofList, strip_strip]

theorem saveAll_eq (sep : Linesep) (calls : List SaveCall) :
    saveAll sep calls = Toolkit.appendAll sep (calls.map SaveCall.row) := by
  unfold saveAll Toolkit.appendAll
  rw [List.foldl_map]
  rfl

/-! ## Reading the file -/

section Reading

variable {sep : Linesep} {calls : List SaveCall}

theorem rows_wf (calls : List SaveCall) :
    ∀ row ∈ calls.map SaveCall.row, (Value.dict row).WF := by
  intro row hrow
  obtain ⟨call, -, rfl⟩ := List.mem_map.mp hrow
  exact call.row_wf

/-- A part of a row that breaks off before its end holds no row. -/
theorem recordOfLine_torn {call : SaveCall} {text rest : List Char}
    (hsplit : dumps rawStyle (.dict call.row) = text ++ rest) (hrest : rest ≠ []) :
    recordOfLine text = none := by
  by_cases htext : text = []
  · rw [htext]
    rfl
  · have hbrace : ∃ b ∈ rest, isJsonSpace b = false := by
      obtain ⟨inner, hinner⟩ := Platform.rawText_braced call.row
      have hlast : rest.getLast hrest = '}' := by
        have hends : (text ++ rest).getLast? = some '}' := by
          rw [← hsplit, hinner, ← List.cons_append, List.getLast?_concat]
        rw [List.getLast?_append_of_ne_nil _ hrest, List.getLast?_eq_some_getLast hrest] at hends
        exact Option.some.inj hends
      exact ⟨'}', hlast ▸ List.getLast_mem hrest, by decide⟩
    obtain ⟨hne, hnone⟩ := Toolkit.loads_cut_row call.row_wf hsplit hbrace htext
    unfold recordOfLine
    split
    · rfl
    · rw [hnone]

/-- A final line that decodes is one line without a row of the store. -/
theorem FinalLine.text {line : FinalLine} {text : List Char}
    (h : decode line.content = some text) :
    '\n' ∉ text ∧ '\r' ∉ text ∧ ∀ obj, recordOfLine text = some obj → isNamed obj = false := by
  cases line with
  | torn call cut part =>
    obtain ⟨rest, hrest, hne⟩ := decode_extract part h
    have hmem : ∀ c, c ∈ text → c ∈ dumps rawStyle (.dict call.row) := by
      intro c hc
      rw [hrest]
      exact List.mem_append_left _ hc
    refine ⟨?_, ?_, ?_⟩
    · intro hlf
      exact Platform.lineFeed_not_mem_rawText call.row (hmem _ hlf)
    · intro hcr
      exact carriageReturn_not_mem_dumps rawStyle _ (hmem _ hcr)
    · intro obj hobj
      rw [recordOfLine_torn hrest hne] at hobj
      cases hobj
  | malformed bytes single noRow =>
    obtain ⟨hlf, hcr⟩ := single text h
    refine ⟨hlf, hcr, ?_⟩
    intro obj hobj
    unfold recordOfLine at hobj
    split at hobj
    · cases hobj
    · split at hobj
      · next hloads =>
        cases hobj
        exact noRow text _ h hloads
      · cases hobj

/-- The bytes of the store with a line at its end. -/
theorem withFinal_saveAll (sep : Linesep) (calls : List SaveCall) (line : FinalLine) :
    withFinal sep (saveAll sep calls) (some line) =
      some (encode (sep.translate (Toolkit.rowsText (calls.map SaveCall.row))) ++
        (line.content ++ encode sep.text)) := by
  unfold withFinal
  rw [saveAll_eq, Toolkit.appendAll_bytes]

theorem filter_isNamed_rows (calls : List SaveCall) :
    (calls.map SaveCall.row).filter isNamed = calls.map SaveCall.row := by
  apply List.filter_eq_self.mpr
  intro row hrow
  obtain ⟨call, -, rfl⟩ := List.mem_map.mp hrow
  exact call.isNamed_row

/-- The store as it was saved. -/
theorem iterJsonl_saveAll (sep : Linesep) (calls : List SaveCall) :
    iterJsonl (saveAll sep calls) = .ok (calls.map SaveCall.row) := by
  have hread : readText ((saveAll sep calls).getD ByteArray.empty) =
      some (Toolkit.rowsText (calls.map SaveCall.row)) := by
    rw [saveAll_eq]
    exact Toolkit.readText_appendAll sep _
  have hall := Toolkit.jsonlRows_rowsText (rows_wf calls) []
  have hblank : jsonlRows [] = [] := rfl
  rw [List.append_nil, hblank, List.append_nil] at hall
  cases hfile : saveAll sep calls with
  | none =>
    rw [hfile] at hread
    rw [← hall, ← Option.some.inj hread]
    rfl
  | some b =>
    rw [hfile, Option.getD_some] at hread
    simp only [iterJsonl, readFile, hread, Except.map, hall]

/-- The text of the store, when its last line decodes. -/
theorem readText_final {line : FinalLine} {text : List Char}
    (h : decode line.content = some text) (hcr : '\r' ∉ text) :
    readText (encode (sep.translate (Toolkit.rowsText (calls.map SaveCall.row))) ++
        (line.content ++ encode sep.text)) =
      some (Toolkit.rowsText (calls.map SaveCall.row) ++ (text ++ ['\n'])) := by
  unfold readText
  rw [decode_encode_append, encode_of_decode h, ← encode_append, decode_encode,
    Option.map_some, Option.map_some, universalNewlines_translate sep
      (Toolkit.carriageReturn_not_mem_rowsText _), universalNewlines_append hcr,
    universalNewlines_linesep]

/-- A line without a row of the store adds none. -/
theorem filter_jsonlRows_line {text : List Char} (hlf : '\n' ∉ text)
    (hskip : ∀ obj, recordOfLine text = some obj → isNamed obj = false) :
    (jsonlRows (text ++ ['\n'])).filter isNamed = [] := by
  have hpieces : (text ++ ['\n']).splitOn '\n' = [text, []] := by
    rw [List.splitOn_append_cons_self_of_not_mem hlf]
    simp
  have hblank : recordOfLine [] = none := rfl
  apply List.filter_eq_nil_iff.mpr
  intro obj hobj
  unfold jsonlRows at hobj
  rw [hpieces] at hobj
  obtain ⟨piece, hpiece, hrecord⟩ := List.mem_filterMap.mp hobj
  rcases List.mem_pair.mp hpiece with rfl | rfl
  · rw [hskip obj hrecord]
    decide
  · rw [hblank] at hrecord
    cases hrecord

/-- A store whose last line decodes reads as the rows that were saved. -/
theorem iterNamedRecords_final {final : Option FinalLine}
    (hfinal : ∀ line, final = some line → (decode line.content).isSome = true) :
    iterNamedRecords (withFinal sep (saveAll sep calls) final) =
      .ok (calls.map SaveCall.row) := by
  cases final with
  | none =>
    unfold withFinal iterNamedRecords
    rw [iterJsonl_saveAll]
    simp only [Except.map, filter_isNamed_rows]
  | some line =>
    obtain ⟨text, htext⟩ := Option.isSome_iff_exists.mp (hfinal line rfl)
    obtain ⟨hlf, hcr, hskip⟩ := FinalLine.text htext
    rw [withFinal_saveAll]
    unfold iterNamedRecords
    simp only [iterJsonl, readFile, readText_final htext hcr, Except.map]
    rw [Toolkit.jsonlRows_rowsText (rows_wf calls), List.filter_append, filter_isNamed_rows,
      filter_jsonlRows_line hlf hskip, List.append_nil]

/-- Behind a line that does not decode nothing is read. -/
theorem iterNamedRecords_undecodable {line : FinalLine} (h : decode line.content = none) :
    iterNamedRecords (withFinal sep (saveAll sep calls) (some line)) = .error .unicodeDecode := by
  have htail : decode (line.content ++ encode sep.text) = none := by
    obtain ⟨c, cs, hsep⟩ : ∃ c cs, sep.text = c :: cs := by
      cases sep
      · exact ⟨_, _, rfl⟩
      · exact ⟨_, _, rfl⟩
    rw [hsep]
    cases hdecode : decode (line.content ++ encode (c :: cs)) with
    | none => rfl
    | some u =>
      obtain ⟨t, ht, -⟩ := decode_before hdecode
      rw [h] at ht
      cases ht
  rw [withFinal_saveAll]
  have hread : readText (encode (sep.translate (Toolkit.rowsText (calls.map SaveCall.row))) ++
      (line.content ++ encode sep.text)) = none := by
    unfold readText
    rw [decode_encode_append, htail]
    rfl
  unfold iterNamedRecords
  simp only [iterJsonl, readFile, hread, Except.map]

/-- A default that was written is loaded, with its name. -/
theorem loadDefaultRecord_written (sep : Linesep) (default : Option Toolkit.Payload) :
    ∃ record, loadDefaultRecord (default.map fun d => writeDefaultConfig sep d.1) = .ok record ∧
      defaultName record = defaultName (default.map Subtype.val) := by
  cases default with
  | none => exact ⟨none, rfl, rfl⟩
  | some d =>
    set out : Dict := [("schema_version", .int 1),
      ("name", Dict.fetch d.1 "name"),
      ("saved_at", Dict.fetch d.1 "saved_at"),
      ("risk_summary", Dict.fetch d.1 "risk_summary"),
      ("snapshot", Dict.fetch d.1 "snapshot")] with hout
    have hwf : (Value.dict out).WF := by
      refine ⟨by simp [Dict.keys, hout], ?_⟩
      simp only [hout, EntriesWF, d.2.2.fetch, Value.WF, and_self]
    have hread := readText_writeText sep (carriageReturn_not_mem_dumps .indented (.dict out))
    have hloads := loads_dumps .indented hwf fun h => absurd h (by decide)
    refine ⟨some out, ?_, rfl⟩
    unfold loadDefaultRecord writeDefaultConfig
    simp only [Option.map_some, ← hout, readFile, hread, Except.map, hloads]

end Reading

/-! ## The store is the map of the last writes -/

/-- A log of the rows of the calls is scanned like the calls. -/
theorem scan_rows (calls : List SaveCall) (name : String) :
    LastWriter.scan recordName name (calls.map SaveCall.row) =
      (LastWriter.scan (fun call => trimmed call.name) name calls).map SaveCall.row :=
  LastWriter.scan_map SaveCall.row recordName name calls

/-- What is read of the rows that were saved is the map of the last writes. -/
theorem lastWriterMap_of_reads {sep : Linesep} {calls : List SaveCall} {file : File}
    (hreads : iterNamedRecords file = .ok (calls.map SaveCall.row))
    (default : Option Toolkit.Payload) :
    LastWriterMap calls file (default.map fun d => writeDefaultConfig sep d.1)
      (default.map Subtype.val) where
  lookup := by
    intro name
    unfold getLatestNamedRecord lastSaved
    rw [hreads]
    simp only [Except.map, scan_rows]
    cases LastWriter.scan (fun call : SaveCall => trimmed call.name) (trimmed name) calls with
    | none => rfl
    | some call =>
      rw [Option.map_some, call.snapshotFromRecord_row]
      rfl
  listed := by
    obtain ⟨record, hdefault, hname⟩ := loadDefaultRecord_written sep default
    set rows := calls.map SaveCall.row with hrows
    refine ⟨(LastWriter.listing recordName rows).map fun (nm, rec) =>
      { name := nm
        savedAt := Dict.fetch rec "saved_at"
        riskSummary := Dict.fetch rec "risk_summary"
        hasDefaultFile := defaultName record == some nm }, ?_, ?_, ?_, ?_⟩
    · unfold listSnapshotSummaries
      rw [hreads, hdefault]
      rfl
    · rw [List.map_map]
      exact LastWriter.listing_sorted recordName rows
    · intro name
      rw [List.map_map]
      refine LastWriter.mem_keys_listing_iff.trans ?_
      rw [hrows]
      simp only [List.mem_map, exists_exists_and_eq_and, SaveCall.recordName_row]
    · intro summary hsummary
      obtain ⟨⟨nm, rec⟩, hlisted, rfl⟩ := List.mem_map.mp hsummary
      have hscan := LastWriter.mem_listing_iff.mp hlisted
      rw [hrows, scan_rows] at hscan
      obtain ⟨call, hcall, rfl⟩ := Option.map_eq_some_iff.mp hscan
      obtain ⟨-, hkey⟩ := LastWriter.scan_some hcall
      subst hkey
      refine ⟨call, ?_, ?_⟩
      · unfold lastSaved
        dsimp only
        rw [trimmed_trimmed]
        exact hcall
      · rw [← hname]
        rfl

/-- Under every name stands the snapshot that was saved last, and the listing is sorted and
complete, exactly when the line at the end of the file is UTF-8. -/
theorem knownGood_lastWriter_iff (sep : Linesep) (calls : List SaveCall)
    (final : Option FinalLine) (default : Option Toolkit.Payload) :
    LastWriterMap calls (withFinal sep (saveAll sep calls) final)
        (default.map fun d => writeDefaultConfig sep d.1) (default.map Subtype.val) ↔
      ∀ line, final = some line → (decode line.content).isSome = true := by
  constructor
  · rintro hmap line rfl
    by_contra hnone
    have hundecodable : decode line.content = none := by simpa using hnone
    have hlookup := hmap.lookup ""
    unfold getLatestNamedRecord at hlookup
    rw [iterNamedRecords_undecodable hundecodable] at hlookup
    cases hlookup
  · intro hfinal
    exact lastWriterMap_of_reads (iterNamedRecords_final hfinal) default

/-! ## A row that is torn inside a character -/

/-- A snapshot under a name that is not ASCII. -/
def accentedSave : SaveCall where
  name := "é"
  snapshot := {}
  riskSummary := none
  savedAt := "2026-01-02T03:04:05+00:00"
  nonBlank := by decide

/-- The row up to the name. -/
def accentedHead : List Char := "\x7b\"schema_version\": 1, \"name\": \"".toList

theorem accentedSave_text :
    ∃ rest, dumps rawStyle (.dict accentedSave.row) = accentedHead ++ 'é' :: rest := ⟨_, rfl⟩

/-- The row up to the first byte of the name. -/
def tornAccent : FinalLine :=
  .torn accentedSave ((encode accentedHead).size + 1) (by
    obtain ⟨rest, hrest⟩ := accentedSave_text
    have hchar : (encode ['é']).size = 2 := rfl
    rw [hrest, encode_append, ByteArray.size_append, ← List.singleton_append, encode_append,
      ByteArray.size_append]
    omega)

/-- Half a character does not decode. -/
theorem tornAccent_undecodable : decode tornAccent.content = none := by
  obtain ⟨rest, hrest⟩ := accentedSave_text
  have hhalf : decode ((encode ['é']).extract 0 1) = none := rfl
  have hcontent : tornAccent.content = encode accentedHead ++ (encode ['é']).extract 0 1 := by
    show (encode (dumps rawStyle (.dict accentedSave.row))).extract 0
      ((encode accentedHead).size + 1) = _
    rw [hrest, ← List.singleton_append, encode_append, encode_append, ByteArray.extract_append,
      ByteArray.extract_append]
    have hchar : (encode ['é']).size = 2 := rfl
    have hall : (encode accentedHead).extract 0 ((encode accentedHead).size + 1) =
        encode accentedHead := by
      have hmax : max ((encode accentedHead).size + 1) (encode accentedHead).size =
          (encode accentedHead).size + 1 := by omega
      rw [← hmax]
      exact ByteArray.extract_zero_max_size
    simp [hall, hchar]
  rw [hcontent, decode_encode_append, hhalf]
  rfl

/-- Two saves under one name, the second torn inside the name: the first cannot be read. -/
theorem tornAccent_unreadable :
    getLatestNamedRecord (withFinal .lf (saveAll .lf [accentedSave]) (some tornAccent)) "é" =
        .error .unicodeDecode ∧
      ¬ LastWriterMap [accentedSave]
        (withFinal .lf (saveAll .lf [accentedSave]) (some tornAccent)) none none := by
  have hlookup : ∀ name, getLatestNamedRecord
      (withFinal .lf (saveAll .lf [accentedSave]) (some tornAccent)) name =
        .error .unicodeDecode := by
    intro name
    unfold getLatestNamedRecord
    rw [iterNamedRecords_undecodable tornAccent_undecodable]
    rfl
  refine ⟨hlookup "é", ?_⟩
  intro hmap
  have hfound := hmap.lookup "é"
  rw [hlookup] at hfound
  cases hfound

end ProxyGuard
