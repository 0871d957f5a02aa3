import NetworkRecovery.Guard.Evaluation

/-!
# Restoring a snapshot

`proxy_guard/rollback.py`: the commands that write a snapshot back, and what
the two executors report of them. `execute_lkg_snapshot_rollback` restores
WinINET and perhaps WinHTTP; `execute_known_good_proxy_restore` also Git, npm
and the user's environment.

The commands of one rollback are pairwise different, so what comes of them is
a function of the argument vector. The restore writes FOUR of the five HKCU
values: `AutoDetect` is never written, and a string is written without the
white space around it.
-/

namespace ProxyGuard

open Python

/-! ## Commands -/

/-- What came of a command. An `OSError` or a timeout shows as the code -1 with
its text on `stderr`. -/
structure CommandOutcome where
  returncode : Int := 0
  stdout : String := ""
  stderr : String := ""
  deriving DecidableEq

/-- A command with its outcome, as the audit rows carry it. -/
structure CommandRow extends CommandOutcome where
  argv : List String
  deriving DecidableEq

/-- `subprocess.run`, for the time of one rollback. -/
abbrev Runner := List String → CommandOutcome

/-- Run a command, or in a dry run say that it was not. -/
def runCommand (dryText : String) (dryRun : Bool) (runner : Runner) (argv : List String) :
    CommandRow :=
  { if dryRun then { returncode := 0, stdout := dryText } else runner argv with argv := argv }

/-- `_INTERNET_SETTINGS_KEY`. -/
def internetSettingsKey : String :=
  "HKCU\\Software\\Microsoft\\Windows\\CurrentVersion\\Internet Settings"

/-- `_HKCU_ENVIRONMENT_KEY`. -/
def hkcuEnvironmentKey : String := "HKCU\\Environment"

/-- `str(val).strip()`, nothing if that is empty. -/
def strippedText (val : Option String) : Option String :=
  (val.map fun s => String.ofList (strip s.toList)).filter (!·.isEmpty)

/-- `sz_or_delete`, for a value under `key`. -/
def szOrDelete (key : String) (val : Option String) (name : String) : List String :=
  match strippedText val with
  | none => ["reg", "delete", key, "/v", name, "/f"]
  | some text => ["reg", "add", key, "/v", name, "/t", "REG_SZ", "/d", text, "/f"]

/-- `build_wininet_restore_argv_list`. -/
def buildWininetRestoreArgvList (lkg : ProxySnapshot) : List (List String) :=
  [szOrDelete internetSettingsKey lkg.proxyServer "ProxyServer",
    szOrDelete internetSettingsKey lkg.autoConfigUrl "AutoConfigURL",
    szOrDelete internetSettingsKey lkg.proxyOverride "ProxyOverride"] ++
  match lkg.proxyEnable with
  | none => []
  | some enable =>
    [["reg", "add", internetSettingsKey, "/v", "ProxyEnable", "/t", "REG_DWORD", "/d",
      toString enable, "/f"]]

/-- `apply_reg_argv_sequences`. -/
def applyRegArgvSequences (dryRun : Bool) (runner : Runner) (argvs : List (List String)) :
    List CommandRow :=
  argvs.map (runCommand "[dry-run] not executed" dryRun runner)

/-- `run_netsh_winhttp_reset_proxy`. -/
def runNetshWinhttpResetProxy (dryRun : Bool) (runner : Runner) : CommandRow :=
  runCommand "[dry-run] netsh not executed" dryRun runner ["netsh", "winhttp", "reset", "proxy"]

/-- `run_netsh_winhttp_set_proxy`. -/
def runNetshWinhttpSetProxy (literal : String) (dryRun : Bool) (runner : Runner) : CommandRow :=
  runCommand "[dry-run] netsh winhttp set proxy not executed" dryRun runner
    ["netsh", "winhttp", "set", "proxy",
      "proxy-server=" ++ String.ofList (strip literal.toList)]

/-- What is done for WinHTTP: a reset, the literal that was captured, or nothing. -/
def restoreWinhttpRow (target : ProxySnapshot) (dryRun : Bool) (runner : Runner) :
    Option CommandRow :=
  if target.winhttpDirectAccess then some (runNetshWinhttpResetProxy dryRun runner)
  else (target.winhttpProxyServerLiteral.filter (!·.isEmpty)).map fun literal =>
    runNetshWinhttpSetProxy literal dryRun runner

/-! ## The executors -/

/-- What an executor returns. -/
structure RollbackExec where
  rollbackKind : String
  skipped : Bool
  reason : Option String := none
  success : Option Bool := none
  wininetReg : List CommandRow := []
  winhttpRestore : Option CommandRow := none
  gitAudits : List CommandRow := []
  npmAudits : List CommandRow := []
  userEnvAudits : List CommandRow := []
  deriving DecidableEq

/-- WinINET and WinHTTP went through. -/
def RollbackExec.coreOk (wininet : List CommandRow) (winhttp : Option CommandRow) : Bool :=
  wininet.all (·.returncode == 0) && winhttp.all (·.returncode == 0)

/-- `execute_lkg_snapshot_rollback`, of a snapshot that is there. -/
def executeLkgSnapshotRollback (lkg : ProxySnapshot) (dryRun restoreWinhttp : Bool)
    (runner : Runner) (restoreGitNpmEnv : Bool) : RollbackExec :=
  if restoreGitNpmEnv then
    { rollbackKind := "lkg_denied_git_env_not_implemented_in_tooling"
      skipped := true
      reason := some "restore_git_npm_env_requires_separate_confirmation" }
  else
    let wininet := applyRegArgvSequences dryRun runner (buildWininetRestoreArgvList lkg)
    let winhttp := if restoreWinhttp then restoreWinhttpRow lkg dryRun runner else none
    { rollbackKind := "lkg_restore"
      skipped := false
      success := some (RollbackExec.coreOk wininet winhttp)
      wininetReg := wininet
      winhttpRestore := winhttp }

section Lower

variable (lower : List Char → List Char)

/-- `_git_restore_row`. -/
def gitRestoreRow (key : String) (value : Option String) (dryRun : Bool) (runner : Runner) :
    CommandRow :=
  runCommand "[dry-run] not executed" dryRun runner <| match strippedText value with
    | none => ["git", "config", "--global", "--unset-all", key]
    | some text => ["git", "config", "--global", key, text]

/-- `_git_row_ok`. The word looked for has no dashes, the argument it is meant
for has two: code 5, nothing to unset, counts as a failure. -/
def gitRowOk (row : CommandRow) : Bool :=
  let lowered := row.argv.map fun arg => lower arg.toList
  if "unset-all".toList ∈ lowered ∧ (row.returncode = 0 ∨ row.returncode = 5) then true
  else row.returncode == 0

/-- `_npm_restore_row`. -/
def npmRestoreRow (key : String) (value : Option String) (dryRun : Bool) (runner : Runner) :
    CommandRow :=
  let text := (strippedText value).filter fun text =>
    lower text.toList ≠ "null".toList ∧ lower text.toList ≠ "undefined".toList
  runCommand "[dry-run] not executed" dryRun runner <| match text with
    | none => ["npm", "config", "delete", key, "--global"]
    | some text => ["npm", "config", "set", key, text, "--global"]

/-- `_hkcu_env_restore_row`. -/
def hkcuEnvRestoreRow (name : String) (value : Option String) (dryRun : Bool) (runner : Runner) :
    CommandRow :=
  runCommand "[dry-run] not executed" dryRun runner (szOrDelete hkcuEnvironmentKey value name)

/-- `_env_reg_row_ok`: a value that was not there may be deleted. -/
def envRegRowOk (row : CommandRow) : Bool :=
  if "delete" ∈ row.argv then row.returncode == 0 || row.returncode == 1
  else row.returncode == 0

/-- `execute_known_good_proxy_restore`, of a target that is there. -/
def executeKnownGoodProxyRestore (target : ProxySnapshot) (dryRun restoreWinhttp : Bool)
    (runner : Runner) : RollbackExec :=
  let wininet := applyRegArgvSequences dryRun runner (buildWininetRestoreArgvList target)
  let winhttp := if restoreWinhttp then restoreWinhttpRow target dryRun runner else none
  let git := [gitRestoreRow "http.proxy" target.gitHttpProxy dryRun runner,
    gitRestoreRow "https.proxy" target.gitHttpsProxy dryRun runner]
  let npm := [npmRestoreRow lower "proxy" target.npmProxy dryRun runner,
    npmRestoreRow lower "https-proxy" target.npmHttpsProxy dryRun runner]
  let env := [hkcuEnvRestoreRow "HTTP_PROXY" target.userHttpProxy dryRun runner,
    hkcuEnvRestoreRow "HTTPS_PROXY" target.userHttpsProxy dryRun runner,
    hkcuEnvRestoreRow "ALL_PROXY" target.userAllProxy dryRun runner,
    hkcuEnvRestoreRow "NO_PROXY" target.userNoProxy dryRun runner]
  { rollbackKind := "known_good_restore"
    skipped := false
    success := some (RollbackExec.coreOk wininet winhttp && git.all (gitRowOk lower) &&
      npm.all (·.returncode == 0) && env.all envRegRowOk)
    wininetReg := wininet
    winhttpRestore := winhttp
    gitAudits := git
    npmAudits := npm
    userEnvAudits := env }

end Lower

/-! ## What was restored -/

/-- `wininet_argv_restored_fields`: the value names behind `-v`, or else `/v`,
each once. -/
def wininetArgvRestoredFields (rows : List CommandRow) : List String :=
  let nameOf (argv : List String) : Option String :=
    let marker := if "-v" ∈ argv then "-v" else "/v"
    ((argv.dropWhile (· ≠ marker)).drop 1).head?
  rows.foldl (fun fields row => match nameOf row.argv with
    | some name => if name ∈ fields then fields else fields ++ [name]
    | none => fields) []

/-- `verify_hkcu_core_matches_prior`: four of the five values, `ProxyOverride` is
not compared. -/
def verifyHkcuCoreMatchesPrior (observed : ProxyRegistrySnapshot) (priorTarget : ProxySnapshot) :
    Bool :=
  observed.proxyEnable == priorTarget.proxyEnable &&
    observed.proxyServer == priorTarget.proxyServer &&
    observed.autoConfigUrl == priorTarget.autoConfigUrl &&
    observed.autoDetect == priorTarget.autoDetect

end ProxyGuard
