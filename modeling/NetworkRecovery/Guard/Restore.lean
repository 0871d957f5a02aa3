import NetworkRecovery.Guard.Rollback
import NetworkRecovery.Lib.Cells

/-!
# What a restore leaves behind

A machine on which every command performs its change: `reg add` and `git config` set a
value, `reg delete` and `git config --unset-all` remove one. Removing what is not there
changes nothing and shows in the exit code, 1 from `reg` and 5 from `git`.

`build_restore_reg_argv` of `repair_snapshots.py` brings all five values back, the absent
ones too. The last-known-good path of `rollback.py` does not (`restore_iff`): it never
writes `AutoDetect`, and leaves `ProxyEnable` alone when there was none. And it calls a
restore a failure whenever there was nothing to remove (`restoreSuccess_iff`), because
`_env_reg_row_ok` alone knows the exit code of `reg`, and `_git_row_ok` looks for the
word `unset-all` among arguments that have `--unset-all`.
-/

namespace ProxyGuard

open Python Cells

/-! ## The machine -/

/-- Where a restore writes: a registry value under a key, or a key of Git's global
configuration. -/
inductive Setting where
  | reg (key name : String)
  | git (key : String)
  deriving DecidableEq

inductive SettingData where
  | dword (n : Int)
  | text (s : String)
  deriving DecidableEq

abbrev Machine := Store Setting SettingData

/-- The number `reg add` reads from its decimal digits. -/
def dwordOfText (text : String) : Option Int :=
  match readNumber text.toList with
  | some (.int n) => some n
  | _ => none

/-- The write a command stands for; `netsh` and `npm` write elsewhere. -/
def writeOf : List String → Option (Write Setting SettingData)
  | ["reg", "delete", key, "/v", name, "/f"] => some ⟨.reg key name, none⟩
  | ["reg", "add", key, "/v", name, "/t", "REG_SZ", "/d", text, "/f"] =>
    some ⟨.reg key name, some (.text text)⟩
  | ["reg", "add", key, "/v", name, "/t", "REG_DWORD", "/d", text, "/f"] =>
    (dwordOfText text).map fun n => ⟨.reg key name, some (.dword n)⟩
  | ["git", "config", "--global", "--unset-all", key] => some ⟨.git key, none⟩
  | ["git", "config", "--global", key, text] => some ⟨.git key, some (.text text)⟩
  | _ => none

/-- The exit code of a command that removes what is not there. -/
def Setting.absentCode : Setting → Int
  | .reg _ _ => 1
  | .git _ => 5

/-- The exit code of a command. -/
def exitCode (m : Machine) (argv : List String) : Int :=
  match writeOf argv with
  | some ⟨cell, none⟩ => if (m cell).isSome then 0 else cell.absentCode
  | _ => 0

/-- One command after the other: the machine afterwards, and the exit codes. -/
def execute (m : Machine) : List (List String) → Machine × List Int
  | [] => (m, [])
  | argv :: argvs =>
    let rest := execute (((writeOf argv).toList).foldl Write.apply m) argvs
    (rest.1, exitCode m argv :: rest.2)

/-- The machine as the executors see it. -/
def Machine.runner (m : Machine) : Runner := fun argv => { returncode := exitCode m argv }

theorem exitCode_congr {m m' : Machine} {argv : List String}
    (h : ∀ w, writeOf argv = some w → m' w.cell = m w.cell) :
    exitCode m' argv = exitCode m argv := by
  unfold exitCode
  split
  · next cell hwrite => rw [h _ hwrite]
  · rfl

/-- Commands that write to different cells come out as if each were run on the machine as
it was. -/
theorem execute_eq {argvs : List (List String)}
    (hcells : ((argvs.filterMap writeOf).map Write.cell).Nodup) (m : Machine) :
    execute m argvs = (applyAll m (argvs.filterMap writeOf), argvs.map (exitCode m)) := by
  induction argvs generalizing m with
  | nil => rfl
  | cons argv argvs ih =>
    cases hwrite : writeOf argv with
    | none =>
      rw [List.filterMap_cons_none hwrite] at hcells ⊢
      simp only [execute, hwrite, Option.toList_none, List.foldl_nil, ih hcells, List.map_cons]
    | some w =>
      rw [List.filterMap_cons_some hwrite] at hcells ⊢
      obtain ⟨hnotMem, hnodup⟩ := List.nodup_cons.mp hcells
      have hcodes : argvs.map (exitCode (w.apply m)) = argvs.map (exitCode m) := by
        apply List.map_congr_left
        intro argv' hargv'
        refine exitCode_congr fun w' hw' => Function.update_of_ne ?_ _ _
        intro heq
        refine hnotMem (List.mem_map.mpr ⟨w', ?_, heq⟩)
        exact List.mem_filterMap.mpr ⟨argv', hargv', hw'⟩
      simp only [execute, hwrite, Option.toList_some, List.foldl_cons, List.foldl_nil, ih hnodup,
        hcodes, List.map_cons, applyAll_cons]

/-! ## Writing values -/

theorem dwordOfText_toString (n : Int) : dwordOfText (toString n) = some n := by
  have htext : (toString n).toList = intText n := by
    cases n with
    | ofNat m => exact String.toList_ofList
    | negSucc m => simp [toString, Int.repr, intText, natText, Nat.repr]
  rw [dwordOfText, htext, readNumber_intText]

/-- A string value, as a machine holds it. -/
def textData (val : Option String) : Option SettingData := val.map .text

/-- A number, as a machine holds it. -/
def dwordData (val : Option Int) : Option SettingData := val.map .dword

theorem writeOf_szOrDelete (key : String) (val : Option String) (name : String) :
    writeOf (szOrDelete key val name) = some ⟨.reg key name, textData (strippedText val)⟩ := by
  unfold szOrDelete
  cases strippedText val with
  | none => rfl
  | some text => rfl

/-! ## Repair snapshots -/

/-- `presence`: which of the five values were there. -/
structure ValuePresence where
  proxyEnable : Bool
  proxyServer : Bool
  autoConfigUrl : Bool
  autoDetect : Bool
  proxyOverride : Bool

/-- `WinInetCapturedState`, without its id and its time. -/
structure WinInetCapturedState where
  values : ProxyRegistrySnapshot
  presence : ValuePresence

/-- The pass of `build_restore_reg_argv` for a value of type `REG_SZ`. -/
def restoreSzArgv (name : String) (present : Bool) (v : Option String) : List String :=
  if present then
    ["reg", "add", internetSettingsKey, "/v", name, "/t", "REG_SZ", "/d", v.getD "", "/f"]
  else ["reg", "delete", internetSettingsKey, "/v", name, "/f"]

/-- The pass of `build_restore_reg_argv` for a value of type `REG_DWORD`. -/
def restoreDwordArgv (name : String) (present : Bool) (v : Option Int) : List String :=
  if present then
    ["reg", "add", internetSettingsKey, "/v", name, "/t", "REG_DWORD", "/d", toString (v.getD 0),
      "/f"]
  else ["reg", "delete", internetSettingsKey, "/v", name, "/f"]

/-- `build_restore_reg_argv`. -/
def buildRestoreRegArgv (state : WinInetCapturedState) : List (List String) :=
  [restoreSzArgv "ProxyOverride" state.presence.proxyOverride state.values.proxyOverride,
    restoreSzArgv "AutoConfigURL" state.presence.autoConfigUrl state.values.autoConfigUrl,
    restoreSzArgv "ProxyServer" state.presence.proxyServer state.values.proxyServer,
    restoreDwordArgv "AutoDetect" state.presence.autoDetect state.values.autoDetect,
    restoreDwordArgv "ProxyEnable" state.presence.proxyEnable state.values.proxyEnable]

theorem writeOf_restoreSzArgv (name : String) (present : Bool) (v : Option String) :
    writeOf (restoreSzArgv name present v) =
      some ⟨.reg internetSettingsKey name, if present then some (.text (v.getD "")) else none⟩ := by
  cases present with
  | false => rfl
  | true => rfl

theorem writeOf_restoreDwordArgv (name : String) (present : Bool) (v : Option Int) :
    writeOf (restoreDwordArgv name present v) =
      some ⟨.reg internetSettingsKey name, if present then some (.dword (v.getD 0)) else none⟩ := by
  cases present with
  | false => rfl
  | true =>
    show (dwordOfText (toString (v.getD 0))).map _ = _
    rw [dwordOfText_toString]
    rfl

/-- A value of a snapshot: its name, whether it was there, and what it held. -/
structure CapturedValue where
  name : String
  present : Bool
  content : Option SettingData

/-- The value is back: there or not as it was, and with what it held. -/
def CapturedValue.RestoredIn (v : CapturedValue) (m : Machine) : Prop :=
  (m (.reg internetSettingsKey v.name)).isSome = v.present ∧
    (v.present = true → ∀ data, v.content = some data →
      m (.reg internetSettingsKey v.name) = some data)

/-- The five values of a repair snapshot. -/
def WinInetCapturedState.captured (state : WinInetCapturedState) : List CapturedValue :=
  [⟨"ProxyEnable", state.presence.proxyEnable, dwordData state.values.proxyEnable⟩,
    ⟨"ProxyServer", state.presence.proxyServer, textData state.values.proxyServer⟩,
    ⟨"AutoConfigURL", state.presence.autoConfigUrl, textData state.values.autoConfigUrl⟩,
    ⟨"AutoDetect", state.presence.autoDetect, dwordData state.values.autoDetect⟩,
    ⟨"ProxyOverride", state.presence.proxyOverride, textData state.values.proxyOverride⟩]

/-- A value that is there exactly when it holds something. -/
def CapturedValue.of (name : String) (content : Option SettingData) : CapturedValue :=
  ⟨name, content.isSome, content⟩

/-- The five values of a last-known-good snapshot, where nothing stands for an absent one. -/
def capturedValues (lkg : ProxySnapshot) : List CapturedValue :=
  [.of "ProxyEnable" (dwordData lkg.proxyEnable), .of "ProxyServer" (textData lkg.proxyServer),
    .of "AutoConfigURL" (textData lkg.autoConfigUrl), .of "AutoDetect" (dwordData lkg.autoDetect),
    .of "ProxyOverride" (textData lkg.proxyOverride)]

theorem CapturedValue.RestoredIn.of_write {name : String} {present : Bool}
    {content : Option SettingData} {default : SettingData} {m : Machine}
    (h : m (.reg internetSettingsKey name) =
      if present then some (content.getD default) else none) :
    CapturedValue.RestoredIn ⟨name, present, content⟩ m := by
  refine ⟨?_, ?_⟩
  · rw [h]
    cases present with
    | false => rfl
    | true => rfl
  · rintro hpresent data rfl
    rw [h]
    exact if_pos hpresent

theorem CapturedValue.of_restoredIn {name : String} {content : Option SettingData}
    {m : Machine} :
    (CapturedValue.of name content).RestoredIn m ↔
      m (.reg internetSettingsKey name) = content := by
  unfold RestoredIn CapturedValue.of
  cases content with
  | none => simp
  | some data =>
    refine ⟨fun h => h.2 rfl data rfl, fun h => ⟨?_, fun _ data' hdata => ?_⟩⟩
    · rw [h]
    · exact h.trans hdata

/-- The writes of the repair path. -/
theorem buildRestoreRegArgv_writes (state : WinInetCapturedState) :
    (buildRestoreRegArgv state).filterMap writeOf =
      [⟨.reg internetSettingsKey "ProxyOverride", if state.presence.proxyOverride then
          some (.text (state.values.proxyOverride.getD "")) else none⟩,
        ⟨.reg internetSettingsKey "AutoConfigURL", if state.presence.autoConfigUrl then
          some (.text (state.values.autoConfigUrl.getD "")) else none⟩,
        ⟨.reg internetSettingsKey "ProxyServer", if state.presence.proxyServer then
          some (.text (state.values.proxyServer.getD "")) else none⟩,
        ⟨.reg internetSettingsKey "AutoDetect", if state.presence.autoDetect then
          some (.dword (state.values.autoDetect.getD 0)) else none⟩,
        ⟨.reg internetSettingsKey "ProxyEnable", if state.presence.proxyEnable then
          some (.dword (state.values.proxyEnable.getD 0)) else none⟩] := by
  simp only [buildRestoreRegArgv, List.filterMap_cons, writeOf_restoreSzArgv,
    writeOf_restoreDwordArgv, List.filterMap_nil]

/-- The repair path brings every value back. -/
theorem buildRestoreRegArgv_restores (state : WinInetCapturedState) (m : Machine) :
    ∀ v ∈ state.captured, v.RestoredIn (execute m (buildRestoreRegArgv state)).1 := by
  have hcells : (((buildRestoreRegArgv state).filterMap writeOf).map Write.cell).Nodup := by
    rw [buildRestoreRegArgv_writes]
    simp
  have hafter : ∀ w ∈ (buildRestoreRegArgv state).filterMap writeOf,
      (execute m (buildRestoreRegArgv state)).1 w.cell = w.content := by
    intro w hw
    rw [execute_eq hcells]
    exact applyAll_of_mem hcells hw m
  rw [buildRestoreRegArgv_writes] at hafter
  simp only [List.forall_mem_cons] at hafter
  obtain ⟨hoverride, hpac, hserver, hdetect, henable, -⟩ := hafter
  have htext : ∀ v : Option String,
      SettingData.text (v.getD "") = (textData v).getD (.text "") := by
    intro v
    cases v <;> rfl
  have hdword : ∀ v : Option Int, SettingData.dword (v.getD 0) = (dwordData v).getD (.dword 0) := by
    intro v
    cases v <;> rfl
  rw [htext] at hoverride hpac hserver
  rw [hdword] at hdetect henable
  simp only [WinInetCapturedState.captured, List.forall_mem_cons]
  exact ⟨.of_write henable, .of_write hserver, .of_write hpac,
    .of_write hdetect, .of_write hoverride, fun _ h => absurd h List.not_mem_nil⟩

/-! ## The last-known-good path -/

theorem writeOf_enable (n : Int) :
    writeOf ["reg", "add", internetSettingsKey, "/v", "ProxyEnable", "/t", "REG_DWORD", "/d",
      toString n, "/f"] = some ⟨.reg internetSettingsKey "ProxyEnable", some (.dword n)⟩ := by
  show (dwordOfText (toString n)).map _ = _
  rw [dwordOfText_toString]
  rfl

/-- The write of `ProxyEnable`, when the snapshot has a value for it. -/
def enableWrites (lkg : ProxySnapshot) : List (Write Setting SettingData) :=
  lkg.proxyEnable.toList.map fun n => ⟨.reg internetSettingsKey "ProxyEnable", some (.dword n)⟩

/-- The writes of the last-known-good path. -/
theorem buildWininetRestoreArgvList_writes (lkg : ProxySnapshot) :
    (buildWininetRestoreArgvList lkg).filterMap writeOf =
      [⟨.reg internetSettingsKey "ProxyServer", textData (strippedText lkg.proxyServer)⟩,
        ⟨.reg internetSettingsKey "AutoConfigURL", textData (strippedText lkg.autoConfigUrl)⟩,
        ⟨.reg internetSettingsKey "ProxyOverride", textData (strippedText lkg.proxyOverride)⟩] ++
        enableWrites lkg := by
  unfold buildWininetRestoreArgvList enableWrites
  rw [List.filterMap_append]
  congr 1
  · simp only [List.filterMap_cons, writeOf_szOrDelete, List.filterMap_nil]
  · cases lkg.proxyEnable with
    | none => rfl
    | some n =>
      rw [List.filterMap_cons_some (writeOf_enable n)]
      rfl

theorem buildWininetRestoreArgvList_nodup (lkg : ProxySnapshot) :
    (((buildWininetRestoreArgvList lkg).filterMap writeOf).map Write.cell).Nodup := by
  rw [buildWininetRestoreArgvList_writes, enableWrites]
  cases lkg.proxyEnable with
  | none => simp
  | some n => simp

/-- What the last-known-good path leaves of the five values. -/
theorem buildWininetRestoreArgvList_after (lkg : ProxySnapshot) (m : Machine) :
    let m' := (execute m (buildWininetRestoreArgvList lkg)).1
    m' (.reg internetSettingsKey "ProxyServer") = textData (strippedText lkg.proxyServer) ∧
      m' (.reg internetSettingsKey "AutoConfigURL") = textData (strippedText lkg.autoConfigUrl) ∧
      m' (.reg internetSettingsKey "ProxyOverride") = textData (strippedText lkg.proxyOverride) ∧
      m' (.reg internetSettingsKey "ProxyEnable") =
        (dwordData lkg.proxyEnable).or (m (.reg internetSettingsKey "ProxyEnable")) ∧
      m' (.reg internetSettingsKey "AutoDetect") = m (.reg internetSettingsKey "AutoDetect") := by
  intro m'
  have hcells := buildWininetRestoreArgvList_nodup lkg
  have hm' : m' = applyAll m ((buildWininetRestoreArgvList lkg).filterMap writeOf) :=
    congrArg Prod.fst (execute_eq hcells m)
  have hwritten : ∀ w ∈ (buildWininetRestoreArgvList lkg).filterMap writeOf,
      m' w.cell = w.content := by
    intro w hw
    rw [hm']
    exact applyAll_of_mem hcells hw m
  have huntouched : ∀ c ∉ ((buildWininetRestoreArgvList lkg).filterMap writeOf).map Write.cell,
      m' c = m c := by
    intro c hc
    rw [hm']
    exact applyAll_of_notMem hc m
  rw [buildWininetRestoreArgvList_writes] at hwritten huntouched
  simp only [List.cons_append, List.nil_append, List.forall_mem_cons] at hwritten
  obtain ⟨hserver, hpac, hoverride, henable⟩ := hwritten
  refine ⟨hserver, hpac, hoverride, ?_, huntouched _ ?_⟩
  · unfold enableWrites at henable huntouched
    cases hvalue : lkg.proxyEnable with
    | none =>
      rw [hvalue] at huntouched
      exact huntouched _ (by simp)
    | some n =>
      rw [hvalue] at henable
      exact henable ⟨.reg internetSettingsKey "ProxyEnable", some (.dword n)⟩ (by simp)
  · unfold enableWrites
    cases lkg.proxyEnable with
    | none => simp
    | some n => simp

/-- What the last-known-good path can bring back, on a machine as it is now: strings that
are absent, or not blank and without white space around them, a `ProxyEnable` that was
captured or is absent now, and an `AutoDetect` that is now as it was. -/
def Restorable (lkg : ProxySnapshot) (m : Machine) : Prop :=
  strippedText lkg.proxyServer = lkg.proxyServer ∧
    strippedText lkg.autoConfigUrl = lkg.autoConfigUrl ∧
    strippedText lkg.proxyOverride = lkg.proxyOverride ∧
    (lkg.proxyEnable = none → m (.reg internetSettingsKey "ProxyEnable") = none) ∧
    m (.reg internetSettingsKey "AutoDetect") = dwordData lkg.autoDetect

theorem textData_inj {a b : Option String} : textData a = textData b ↔ a = b := by
  unfold textData
  exact Option.map_inj_right fun _ _ h => SettingData.text.inj h

/-- The repair path brings every captured value back, and the last-known-good path exactly
what it can bring back. -/
theorem restore_iff (state : WinInetCapturedState) (lkg : ProxySnapshot) (m : Machine) :
    ((∀ v ∈ state.captured, v.RestoredIn (execute m (buildRestoreRegArgv state)).1) ∧
      ∀ v ∈ capturedValues lkg, v.RestoredIn (execute m (buildWininetRestoreArgvList lkg)).1) ↔
      Restorable lkg m := by
  obtain ⟨hserver, hpac, hoverride, henable, hdetect⟩ := buildWininetRestoreArgvList_after lkg m
  have henabled : (dwordData lkg.proxyEnable).or (m (.reg internetSettingsKey "ProxyEnable")) =
      dwordData lkg.proxyEnable ↔
      (lkg.proxyEnable = none → m (.reg internetSettingsKey "ProxyEnable") = none) := by
    cases lkg.proxyEnable with
    | none => simp [dwordData]
    | some n => simp [dwordData]
  rw [and_iff_right (buildRestoreRegArgv_restores state m)]
  simp only [capturedValues, List.forall_mem_cons, CapturedValue.of_restoredIn, hserver, hpac,
    hoverride, henable, hdetect, henabled, textData_inj, Restorable]
  constructor
  · rintro ⟨h1, h2, h3, h4, h5, -⟩
    exact ⟨h2, h3, h5, h1, h4⟩
  · rintro ⟨h2, h3, h5, h1, h4⟩
    exact ⟨h1, h2, h3, h4, h5, fun _ h => absurd h List.not_mem_nil⟩

/-- A machine that detects its proxy by itself. -/
def autoDetecting : Machine
  | .reg key name =>
    if key = internetSettingsKey ∧ name = "AutoDetect" then some (.dword 1) else none
  | .git _ => none

/-- A snapshot of a machine with no proxy at all. -/
def noProxySnapshot : ProxySnapshot :=
  { proxyEnable := some 0, proxyServer := none, autoConfigUrl := none, autoDetect := none,
    proxyOverride := none }

/-- `AutoDetect` was absent and stays. -/
theorem autoDetect_survives :
    ¬ ∀ v ∈ capturedValues noProxySnapshot,
      v.RestoredIn (execute autoDetecting (buildWininetRestoreArgvList noProxySnapshot)).1 := by
  intro h
  have hdetect := CapturedValue.of_restoredIn.mp
    (h (.of "AutoDetect" (dwordData none)) (by simp [capturedValues, noProxySnapshot]))
  exact absurd hdetect (by decide +kernel)

/-! ## What the executors report -/

/-- All commands of a restore, in their order. -/
def RollbackExec.rows (r : RollbackExec) : List CommandRow :=
  r.wininetReg ++ r.winhttpRestore.toList ++ r.gitAudits ++ r.npmAudits ++ r.userEnvAudits

/-- The restore ran on the machine: its return codes are those of its commands, one after
the other, and every setting it writes to is at its target in the end. -/
structure Performed (m : Machine) (r : RollbackExec) : Prop where
  codes : (execute m (r.rows.map (·.argv))).2 = r.rows.map (·.returncode)
  targets : ∀ row ∈ r.rows, ∀ w, writeOf row.argv = some w →
    (execute m (r.rows.map (·.argv))).1 w.cell = w.content

theorem Performed.of_nodup {m : Machine} {r : RollbackExec}
    (hcodes : ∀ row ∈ r.rows, row.returncode = exitCode m row.argv)
    (hcells : (((r.rows.map (·.argv)).filterMap writeOf).map Write.cell).Nodup) :
    Performed m r where
  codes := by
    rw [execute_eq hcells, List.map_map]
    apply List.map_congr_left
    intro row hrow
    exact (hcodes row hrow).symm
  targets := by
    intro row hrow w hw
    rw [execute_eq hcells]
    refine applyAll_of_mem hcells (List.mem_filterMap.mpr ⟨row.argv, ?_, hw⟩) m
    exact List.mem_map.mpr ⟨row, hrow, rfl⟩

/-- Where there is something to remove, or nothing to be removed. -/
def Removable (m : Machine) (cell : Setting) (val : Option String) : Prop :=
  strippedText val = none → (m cell).isSome = true

theorem exitCode_szOrDelete (m : Machine) (key : String) (val : Option String) (name : String) :
    exitCode m (szOrDelete key val name) = 0 ↔ Removable m (.reg key name) val := by
  unfold exitCode Removable
  rw [writeOf_szOrDelete]
  cases strippedText val with
  | none =>
    show (if (m (.reg key name)).isSome then 0 else 1 : Int) = 0 ↔ _
    cases m (.reg key name) <;> simp
  | some text => simp [textData]

theorem exitCode_szOrDelete_benign (m : Machine) (key : String) (val : Option String)
    (name : String) :
    exitCode m (szOrDelete key val name) = 0 ∨
      "delete" ∈ szOrDelete key val name ∧ exitCode m (szOrDelete key val name) = 1 := by
  unfold exitCode
  rw [writeOf_szOrDelete]
  unfold szOrDelete
  cases strippedText val with
  | none =>
    show (if (m (.reg key name)).isSome then 0 else 1 : Int) = 0 ∨ _
    cases hcell : m (.reg key name) <;> simp [textData, Setting.absentCode, hcell]
  | some text => exact .inl rfl

/-- The three strings of a snapshot are there to be removed, where it has none. -/
def StringsRemovable (m : Machine) (lkg : ProxySnapshot) : Prop :=
  Removable m (.reg internetSettingsKey "ProxyServer") lkg.proxyServer ∧
    Removable m (.reg internetSettingsKey "AutoConfigURL") lkg.autoConfigUrl ∧
    Removable m (.reg internetSettingsKey "ProxyOverride") lkg.proxyOverride

theorem wininet_ok_iff (m : Machine) (lkg : ProxySnapshot) :
    (applyRegArgvSequences false m.runner (buildWininetRestoreArgvList lkg)).all
      (·.returncode == 0) = true ↔ StringsRemovable m lkg := by
  have hcodes : (applyRegArgvSequences false m.runner (buildWininetRestoreArgvList lkg)).all
      (·.returncode == 0) = true ↔
      ∀ argv ∈ buildWininetRestoreArgvList lkg, exitCode m argv = 0 := by
    simp [applyRegArgvSequences, runCommand, Machine.runner]
  rw [hcodes]
  unfold buildWininetRestoreArgvList StringsRemovable
  rw [← exitCode_szOrDelete, ← exitCode_szOrDelete, ← exitCode_szOrDelete]
  have henable : ∀ n : Int, exitCode m ["reg", "add", internetSettingsKey, "/v", "ProxyEnable", "/t",
      "REG_DWORD", "/d", toString n, "/f"] = 0 := by
    intro n
    unfold exitCode
    rw [writeOf_enable]
  cases lkg.proxyEnable with
  | none => simp
  | some n =>
    simp only [List.forall_mem_append, List.forall_mem_cons, List.not_mem_nil, false_implies,
      implies_true, henable, and_true]

/-- The commands that write neither to the registry nor to Git's configuration. -/
theorem exitCode_of_none {m : Machine} {argv : List String} (h : writeOf argv = none) :
    exitCode m argv = 0 := by
  unfold exitCode
  rw [h]

theorem restoreWinhttpRow_cases {lkg : ProxySnapshot} {m : Machine} {row : CommandRow}
    (h : restoreWinhttpRow lkg false m.runner = some row) :
    writeOf row.argv = none ∧ row.returncode = 0 := by
  unfold restoreWinhttpRow at h
  split at h
  · cases h
    exact ⟨rfl, rfl⟩
  · obtain ⟨literal, -, rfl⟩ := Option.map_eq_some_iff.mp h
    exact ⟨rfl, rfl⟩

theorem npmRestoreRow_cases (lower : List Char → List Char) (key : String) (val : Option String)
    (m : Machine) :
    writeOf (npmRestoreRow lower key val false m.runner).argv = none ∧
      (npmRestoreRow lower key val false m.runner).returncode = 0 := by
  unfold npmRestoreRow
  dsimp only
  split
  · exact ⟨rfl, rfl⟩
  · exact ⟨rfl, rfl⟩

theorem writeOf_gitRestoreRow (val : Option String) (m : Machine) (key : String)
    (hkey : key ∈ ["http.proxy", "https.proxy"]) :
    writeOf (gitRestoreRow key val false m.runner).argv =
      some ⟨.git key, textData (strippedText val)⟩ := by
  unfold gitRestoreRow
  cases strippedText val with
  | none => rfl
  | some text =>
    simp only [List.mem_cons, List.not_mem_nil, or_false] at hkey
    rcases hkey with rfl | rfl
    · rfl
    · rfl

/-- Git's code 5 is taken for a failure. -/
theorem gitRowOk_iff (val : Option String) (m : Machine) (key : String)
    (hkey : key ∈ ["http.proxy", "https.proxy"]) :
    gitRowOk Python.lower (gitRestoreRow key val false m.runner) = true ↔
      Removable m (.git key) val := by
  have hwrite := writeOf_gitRestoreRow val m key hkey
  have hcode : (gitRestoreRow key val false m.runner).returncode =
      exitCode m (gitRestoreRow key val false m.runner).argv := rfl
  unfold exitCode at hcode
  rw [hwrite] at hcode
  unfold Removable
  cases hval : strippedText val with
  | some text =>
    rw [hval] at hcode
    have hzero : (gitRestoreRow key val false m.runner).returncode = 0 := hcode
    simp [gitRowOk, hzero]
  | none =>
    rw [hval] at hcode
    have hnoWord : "unset-all".toList ∉
        (gitRestoreRow key val false m.runner).argv.map (fun arg => lower arg.toList) := by
      simp only [List.mem_cons, List.not_mem_nil, or_false] at hkey
      have hargv : (gitRestoreRow key val false m.runner).argv =
          ["git", "config", "--global", "--unset-all", key] := by
        unfold gitRestoreRow
        rw [hval]
        rfl
      rw [hargv]
      rcases hkey with rfl | rfl
      · decide +kernel
      · decide +kernel
    have hcode' : (gitRestoreRow key val false m.runner).returncode =
        if (m (.git key)).isSome then 0 else 5 := hcode
    simp only [gitRowOk, hnoWord, false_and, if_false, hcode']
    cases m (.git key) <;> simp

theorem envRegRowOk_of_exitCode (m : Machine) (name : String) (val : Option String) :
    envRegRowOk (hkcuEnvRestoreRow name val false m.runner) = true := by
  have hrow : (hkcuEnvRestoreRow name val false m.runner).argv =
      szOrDelete hkcuEnvironmentKey val name := rfl
  have hcode : (hkcuEnvRestoreRow name val false m.runner).returncode =
      exitCode m (szOrDelete hkcuEnvironmentKey val name) := rfl
  unfold envRegRowOk
  rw [hrow, hcode]
  rcases exitCode_szOrDelete_benign m hkcuEnvironmentKey val name with hzero | ⟨hdelete, hone⟩
  · rw [hzero]
    simp
  · rw [hone]
    simp [hdelete]

theorem winhttp_ok (lkg : ProxySnapshot) (m : Machine) (restoreWinhttp : Bool) :
    (if restoreWinhttp then restoreWinhttpRow lkg false m.runner else none).all
      (·.returncode == 0) = true := by
  rw [Option.all_eq_true]
  intro row hrow
  cases restoreWinhttp with
  | false => cases hrow
  | true =>
    have hcode := (restoreWinhttpRow_cases hrow).2
    simp [hcode]

/-- The restore of WinINET and WinHTTP succeeds if there is something to remove wherever it
removes. -/
theorem lkgSuccess_iff (lkg : ProxySnapshot) (m : Machine) (restoreWinhttp : Bool) :
    (executeLkgSnapshotRollback lkg false restoreWinhttp m.runner false).success = some true ↔
      StringsRemovable m lkg := by
  rw [← wininet_ok_iff]
  simp [executeLkgSnapshotRollback, RollbackExec.coreOk, winhttp_ok]

theorem knownGoodSuccess_iff (lkg : ProxySnapshot) (m : Machine) (restoreWinhttp : Bool) :
    (executeKnownGoodProxyRestore lower lkg false restoreWinhttp m.runner).success = some true ↔
      StringsRemovable m lkg ∧ Removable m (.git "http.proxy") lkg.gitHttpProxy ∧
        Removable m (.git "https.proxy") lkg.gitHttpsProxy := by
  have hnpm : ∀ key val, (npmRestoreRow lower key val false m.runner).returncode = 0 :=
    fun key val => (npmRestoreRow_cases lower key val m).2
  rw [← wininet_ok_iff, ← gitRowOk_iff lkg.gitHttpProxy m "http.proxy" (by simp),
    ← gitRowOk_iff lkg.gitHttpsProxy m "https.proxy" (by simp)]
  simp [executeKnownGoodProxyRestore, RollbackExec.coreOk, winhttp_ok, hnpm,
    envRegRowOk_of_exitCode]

/-- Rows of commands that the machine has run. -/
def RanOn (m : Machine) (rows : List CommandRow) : Prop :=
  ∀ row ∈ rows, row.returncode = exitCode m row.argv

theorem RanOn.append {m : Machine} {rows rows' : List CommandRow} (h : RanOn m rows)
    (h' : RanOn m rows') : RanOn m (rows ++ rows') :=
  List.forall_mem_append.mpr ⟨h, h'⟩

theorem ranOn_applyRegArgvSequences (m : Machine) (argvs : List (List String)) :
    RanOn m (applyRegArgvSequences false m.runner argvs) := by
  intro row hrow
  obtain ⟨argv, -, rfl⟩ := List.mem_map.mp hrow
  rfl

theorem ranOn_restoreWinhttpRow (lkg : ProxySnapshot) (m : Machine) (restoreWinhttp : Bool) :
    RanOn m (if restoreWinhttp then restoreWinhttpRow lkg false m.runner else none).toList := by
  intro row hrow
  cases restoreWinhttp with
  | false => exact absurd hrow List.not_mem_nil
  | true =>
    obtain ⟨hwrite, hcode⟩ := restoreWinhttpRow_cases (Option.mem_toList.mp hrow)
    rw [hcode, exitCode_of_none hwrite]

/-- The writes of WinINET and WinHTTP. -/
theorem coreRows_writes (lkg : ProxySnapshot) (m : Machine) (restoreWinhttp : Bool) :
    ((applyRegArgvSequences false m.runner (buildWininetRestoreArgvList lkg) ++
      (if restoreWinhttp then restoreWinhttpRow lkg false m.runner else none).toList).map
        (·.argv)).filterMap writeOf = (buildWininetRestoreArgvList lkg).filterMap writeOf := by
  have hargvs : (applyRegArgvSequences false m.runner (buildWininetRestoreArgvList lkg)).map
      (·.argv) = buildWininetRestoreArgvList lkg := by
    unfold applyRegArgvSequences
    rw [List.map_map]
    exact List.map_id _
  have hwinhttp : ((if restoreWinhttp then restoreWinhttpRow lkg false m.runner
      else none).toList.map (·.argv)).filterMap writeOf = [] := by
    rw [List.filterMap_eq_nil_iff]
    intro argv hargv
    obtain ⟨row, hrow, rfl⟩ := List.mem_map.mp hargv
    cases restoreWinhttp with
    | false => exact absurd hrow List.not_mem_nil
    | true => exact (restoreWinhttpRow_cases (Option.mem_toList.mp hrow)).1
  rw [List.map_append, List.filterMap_append, hargvs, hwinhttp, List.append_nil]

theorem lkg_performed (lkg : ProxySnapshot) (m : Machine) (restoreWinhttp : Bool) :
    Performed m (executeLkgSnapshotRollback lkg false restoreWinhttp m.runner false) := by
  have hrows : (executeLkgSnapshotRollback lkg false restoreWinhttp m.runner false).rows =
      applyRegArgvSequences false m.runner (buildWininetRestoreArgvList lkg) ++
        (if restoreWinhttp then restoreWinhttpRow lkg false m.runner else none).toList := by
    simp [executeLkgSnapshotRollback, RollbackExec.rows]
  refine Performed.of_nodup ?_ ?_
  · rw [hrows]
    exact (ranOn_applyRegArgvSequences m _).append (ranOn_restoreWinhttpRow lkg m _)
  · rw [hrows, coreRows_writes]
    exact buildWininetRestoreArgvList_nodup lkg

theorem knownGood_performed (lkg : ProxySnapshot) (m : Machine) (restoreWinhttp : Bool) :
    Performed m (executeKnownGoodProxyRestore lower lkg false restoreWinhttp m.runner) := by
  have hrows : (executeKnownGoodProxyRestore lower lkg false restoreWinhttp m.runner).rows =
      (applyRegArgvSequences false m.runner (buildWininetRestoreArgvList lkg) ++
        (if restoreWinhttp then restoreWinhttpRow lkg false m.runner else none).toList) ++
        ([gitRestoreRow "http.proxy" lkg.gitHttpProxy false m.runner,
          gitRestoreRow "https.proxy" lkg.gitHttpsProxy false m.runner,
          npmRestoreRow lower "proxy" lkg.npmProxy false m.runner,
          npmRestoreRow lower "https-proxy" lkg.npmHttpsProxy false m.runner,
          hkcuEnvRestoreRow "HTTP_PROXY" lkg.userHttpProxy false m.runner,
          hkcuEnvRestoreRow "HTTPS_PROXY" lkg.userHttpsProxy false m.runner,
          hkcuEnvRestoreRow "ALL_PROXY" lkg.userAllProxy false m.runner,
          hkcuEnvRestoreRow "NO_PROXY" lkg.userNoProxy false m.runner]) := by
    simp [executeKnownGoodProxyRestore, RollbackExec.rows]
  have hnpm : ∀ key val, writeOf (npmRestoreRow lower key val false m.runner).argv = none :=
    fun key val => (npmRestoreRow_cases lower key val m).1
  have henv : ∀ name val, writeOf (hkcuEnvRestoreRow name val false m.runner).argv =
      some ⟨.reg hkcuEnvironmentKey name, textData (strippedText val)⟩ :=
    fun name val => writeOf_szOrDelete hkcuEnvironmentKey val name
  refine Performed.of_nodup ?_ ?_
  · rw [hrows]
    refine ((ranOn_applyRegArgvSequences m _).append (ranOn_restoreWinhttpRow lkg m _)).append ?_
    simp only [RanOn, List.forall_mem_cons]
    exact ⟨rfl, rfl, rfl, rfl, rfl, rfl, rfl, rfl, fun _ h => absurd h List.not_mem_nil⟩
  · rw [hrows, List.map_append, List.filterMap_append, coreRows_writes,
      buildWininetRestoreArgvList_writes, enableWrites]
    have hkeys : internetSettingsKey ≠ hkcuEnvironmentKey := by decide
    cases lkg.proxyEnable with
    | none => simp [writeOf_gitRestoreRow, hnpm, henv, hkeys]
    | some n => simp [writeOf_gitRestoreRow, hnpm, henv, hkeys]

/-- On a machine where every command does what it is for, both restores run through and
leave every setting at its target. They call that a success exactly when there was
something to remove wherever they remove a WinINET string or a key of Git. -/
theorem restoreSuccess_iff (lkg : ProxySnapshot) (m : Machine) (restoreWinhttp : Bool) :
    Performed m (executeLkgSnapshotRollback lkg false restoreWinhttp m.runner false) ∧
      Performed m (executeKnownGoodProxyRestore lower lkg false restoreWinhttp m.runner) ∧
      (((executeLkgSnapshotRollback lkg false restoreWinhttp m.runner false).success =
            some true ∧
          (executeKnownGoodProxyRestore lower lkg false restoreWinhttp m.runner).success =
            some true) ↔
        StringsRemovable m lkg ∧ Removable m (.git "http.proxy") lkg.gitHttpProxy ∧
          Removable m (.git "https.proxy") lkg.gitHttpsProxy) := by
  refine ⟨lkg_performed lkg m restoreWinhttp, knownGood_performed lkg m restoreWinhttp, ?_⟩
  rw [lkgSuccess_iff, knownGoodSuccess_iff]
  exact ⟨fun h => h.2, fun h => ⟨h.1, h⟩⟩

/-- A machine with nothing set. -/
def blankMachine : Machine := fun _ => none

/-- There is no proxy and there was none: the restore of what already is fails. -/
theorem restoreOfNothing_fails :
    Performed blankMachine
        (executeLkgSnapshotRollback noProxySnapshot false false blankMachine.runner false) ∧
      (executeLkgSnapshotRollback noProxySnapshot false false blankMachine.runner false).success =
        some false ∧
      (executeKnownGoodProxyRestore lower noProxySnapshot false false
        blankMachine.runner).success = some false :=
  ⟨lkg_performed _ _ _, by decide +kernel, by decide +kernel⟩

end ProxyGuard
