import NetworkRecovery.Python.Builtins
import NetworkRecovery.Python.Substitution

/-!
# Task policy

What an approved coding task of OpenClaw may touch, and the branch it works on.
-/

namespace OpenClaw

open Python

/-! ## Tasks -/

/-- `OpenClawTask`. -/
structure OpenClawTask where
  taskId : String
  title : String
  description : String
  approved : Bool
  riskLevel : String
  allowedPaths : List String := []
  forbiddenPaths : List String := []
  requestedBranch : String := ""
  labels : List String := []
  deriving DecidableEq

/-- `PolicyDecision`. -/
inductive PolicyDecision where
  | allow
  | block
  deriving DecidableEq

/-- `PolicyResult`. -/
structure PolicyResult where
  decision : PolicyDecision
  reasons : List String := []
  limitations : List String :=
    ["Policy permission is not a safety guarantee.",
      "Passing tests does not prove production readiness.",
      "Draft PRs require human review before merge."]
  deriving DecidableEq

/-! ## Branch names -/

/-- A character that a branch name keeps. -/
def branchChar (c : Char) : Bool :=
  ('a' ≤ c && c ≤ 'z') || ('A' ≤ c && c ≤ 'Z') || ('0' ≤ c && c ≤ '9') ||
    c == '.' || c == '_' || c == '-'

/-- `_BRANCH_SLUG_RE`. -/
def branchSlugRe : Regex.Lookbehind := fun _ => Regex.many1 fun c => !branchChar c

/-- `sanitize_slug`. -/
def sanitizeSlug (text : String) (maxLen : Nat := 48) : List Char :=
  let cleaned := stripChars ['-', '.', '_']
    (Regex.sub branchSlugRe ['-'] (lower (strip text.toList)))
  (if cleaned.isEmpty then "task".toList else cleaned).take maxLen

/-- `sanitize_task_id`. -/
def sanitizeTaskId (taskId : String) : Except PyError (List Char) :=
  let cleaned := (strip taskId.toList).filter branchChar
  if cleaned.isEmpty then .error .value
  else .ok (cleaned.take 64)

/-- `expected_branch_name`. -/
def expectedBranchName (task : OpenClawTask) : Except PyError (List Char) := do
  let tid ← sanitizeTaskId task.taskId
  let slug := sanitizeSlug task.title
  return "agent/openclaw/".toList ++ tid ++ '-' :: slug

/-! ## Paths -/

/-- `DEFAULT_FORBIDDEN_PATHS`. -/
def defaultForbiddenPaths : List String :=
  [".env", ".env.local", "platform_data/", ".audit/", ".github/workflows/deploy.yml",
    ".github/workflows/build.yml"]

/-- `path.replace("\\", "/")`. -/
def unify (path : List Char) : List Char := path.map fun c => if c = '\\' then '/' else c

/-- The loop that takes `./` off the front. -/
def dropDots : List Char → List Char
  | '.' :: '/' :: rest => dropDots rest
  | s => s

/-- `_normalize_path`. -/
def normalizePath (path : List Char) : List Char := dropDots (strip (unify path))

/-- `item.rstrip("/")`. -/
def stem (item : List Char) : List Char := item.rdropWhile (· == '/')

end OpenClaw
