import NetworkRecovery.OpenClaw.Policy

/-!
# Branch names

The runner resets the branch that `expected_branch_name` gives a task (`git checkout -B`). The
name joins what sanitizing left of the id and of the title, and the hyphen between them may stand
in either, so two tasks share a branch when one id goes on where the other title begins
(`branches_isolated_iff`).
-/

namespace OpenClaw

open Python

/-! ## The runner's checkout -/

section Checkout

variable {Commit : Type}

/-- The branches of a clone and the commit that is checked out. -/
structure Repository (Commit : Type) where
  head : Commit
  refs : List Char → Option Commit

/-- What `git` does with the two commands of `git_create_branch`. -/
structure GitAnswers (Commit : Type) where
  /-- where `git checkout base` comes to, unless it is refused -/
  base : Option Commit
  /-- whether `git checkout -B branch` is carried out -/
  created : Bool

/-- `git checkout -B branch`. -/
def Repository.resetBranch (repo : Repository Commit) (branch : List Char) : Repository Commit :=
  { repo with refs := fun name => if name = branch then some repo.head else repo.refs name }

/-- `git_create_branch`, and whether it returns. Nobody looks at how the first command ends. -/
def gitCreateBranch (repo : Repository Commit) (branch : List Char)
    (answers : GitAnswers Commit) : Repository Commit × Bool :=
  let repo := { repo with head := answers.base.getD repo.head }
  if answers.created then (repo.resetBranch branch, true) else (repo, false)

/-- The branches of other names stay where they are. -/
theorem gitCreateBranch_refs (repo : Repository Commit) {branch name : List Char}
    (answers : GitAnswers Commit) (h : name ≠ branch) :
    (gitCreateBranch repo branch answers).1.refs name = repo.refs name := by
  unfold gitCreateBranch
  cases answers.created with
  | false => rfl
  | true => exact if_neg h

/-- The runs of the runner in one clone. -/
def createBranches (repo : Repository Commit)
    (runs : List (List Char × GitAnswers Commit)) : Repository Commit :=
  runs.foldl (fun repo run => (gitCreateBranch repo run.1 run.2).1) repo

/-- No run for a branch of another name moves a branch. -/
theorem createBranches_refs {name : List Char} (runs : List (List Char × GitAnswers Commit))
    (h : ∀ run ∈ runs, name ≠ run.1) (repo : Repository Commit) :
    (createBranches repo runs).refs name = repo.refs name := by
  induction runs generalizing repo with
  | nil => rfl
  | cons run runs ih =>
    have hrun := gitCreateBranch_refs repo run.2 (h run List.mem_cons_self)
    have hruns := ih (fun run' hrun' => h run' (List.mem_cons_of_mem _ hrun'))
      (gitCreateBranch repo run.1 run.2).1
    exact hruns.trans hrun

end Checkout

/-! ## The names -/

/-- Two tasks have branches of two names, and whatever is run for the one leaves the branch of
the other where it is. -/
def BranchesIsolated (task other : OpenClawTask) : Prop :=
  ∀ branch otherBranch, expectedBranchName task = .ok branch →
    expectedBranchName other = .ok otherBranch →
      branch ≠ otherBranch ∧
        ∀ (Commit : Type) (repo : Repository Commit) (runs : List (GitAnswers Commit)),
          (createBranches repo (runs.map fun answers => (branch, answers))).refs otherBranch =
            repo.refs otherBranch

/-- The second id is the first one and goes on where the first title begins. -/
def RunsOver (tid slug tid' slug' : List Char) : Prop :=
  ∃ middle, tid' = tid ++ '-' :: middle ∧ slug = middle ++ '-' :: slug'

/-- What sanitizing leaves of two tasks is the same, or the id of one runs over into the title of
the other. -/
def Clash (task other : OpenClawTask) : Prop :=
  ∃ tid tid', sanitizeTaskId task.taskId = .ok tid ∧ sanitizeTaskId other.taskId = .ok tid' ∧
    (tid = tid' ∧ sanitizeSlug task.title = sanitizeSlug other.title ∨
      RunsOver tid (sanitizeSlug task.title) tid' (sanitizeSlug other.title) ∨
      RunsOver tid' (sanitizeSlug other.title) tid (sanitizeSlug task.title))

/-- Two texts joined by a hyphen are the same when their parts are, or when the first part of one
goes on into the second part of the other. -/
theorem hyphen_join_eq_iff {tid slug tid' slug' : List Char} :
    tid ++ '-' :: slug = tid' ++ '-' :: slug' ↔
      tid = tid' ∧ slug = slug' ∨ RunsOver tid slug tid' slug' ∨ RunsOver tid' slug' tid slug := by
  constructor
  · intro h
    rcases List.append_eq_append_iff.mp h with ⟨gap, htid, hslug⟩ | ⟨gap, htid, hslug⟩
    · cases gap with
      | nil =>
        rw [List.append_nil] at htid
        exact .inl ⟨htid.symm, (List.cons.inj hslug).2⟩
      | cons c middle =>
        obtain ⟨rfl, hrest⟩ := List.cons.inj hslug
        exact .inr (.inl ⟨middle, htid, hrest⟩)
    · cases gap with
      | nil =>
        rw [List.append_nil] at htid
        exact .inl ⟨htid, (List.cons.inj hslug).2.symm⟩
      | cons c middle =>
        obtain ⟨rfl, hrest⟩ := List.cons.inj hslug
        exact .inr (.inr ⟨middle, htid, hrest⟩)
  · intro h
    rcases h with ⟨rfl, rfl⟩ | ⟨middle, rfl, rfl⟩ | ⟨middle, rfl, rfl⟩
    · rfl
    · simp only [List.append_assoc, List.cons_append]
    · simp only [List.append_assoc, List.cons_append]

theorem expectedBranchName_ok {task : OpenClawTask} {branch : List Char} :
    expectedBranchName task = .ok branch ↔ ∃ tid, sanitizeTaskId task.taskId = .ok tid ∧
      "agent/openclaw/".toList ++ (tid ++ '-' :: sanitizeSlug task.title) = branch := by
  unfold expectedBranchName
  rw [bind_ok]
  constructor
  · intro h
    obtain ⟨tid, htid, hname⟩ := h
    exact ⟨tid, htid, (List.append_assoc ..).symm.trans (Except.ok.inj hname)⟩
  · intro h
    obtain ⟨tid, htid, rfl⟩ := h
    refine ⟨tid, htid, ?_⟩
    rw [← List.append_assoc]
    rfl

/-- Two tasks share a branch exactly when they clash. -/
theorem branches_isolated_iff (task other : OpenClawTask) :
    BranchesIsolated task other ↔ ¬ Clash task other := by
  constructor
  · intro hisolated hclash
    obtain ⟨tid, tid', htid, htid', hclash⟩ := hclash
    have hsame := hyphen_join_eq_iff.mpr hclash
    have hnames := (hisolated _ _ (expectedBranchName_ok.mpr ⟨tid, htid, rfl⟩)
      (expectedBranchName_ok.mpr ⟨tid', htid', rfl⟩)).1
    exact hnames (congrArg ("agent/openclaw/".toList ++ ·) hsame)
  · intro hclash branch otherBranch hbranch hother
    obtain ⟨tid, htid, rfl⟩ := expectedBranchName_ok.mp hbranch
    obtain ⟨tid', htid', rfl⟩ := expectedBranchName_ok.mp hother
    have hnames : "agent/openclaw/".toList ++ (tid ++ '-' :: sanitizeSlug task.title) ≠
        "agent/openclaw/".toList ++ (tid' ++ '-' :: sanitizeSlug other.title) := by
      intro hsame
      have hjoined := hyphen_join_eq_iff.mp (List.append_cancel_left hsame)
      exact hclash ⟨tid, tid', htid, htid', hjoined⟩
    refine ⟨hnames, ?_⟩
    intro Commit repo runs
    apply createBranches_refs
    intro run hrun
    obtain ⟨answers, -, rfl⟩ := List.mem_map.mp hrun
    exact hnames.symm

/-- A coding task. -/
def codingTask (taskId title : String) : OpenClawTask where
  taskId := taskId
  title := title
  description := "Improve the docs"
  approved := true
  riskLevel := "low"

/-- An id that goes on in another task's title, and ids that differ in a character that is taken
out. -/
theorem branches_shared :
    ¬ (∀ task other : OpenClawTask, task.taskId ≠ other.taskId → BranchesIsolated task other) ∧
      ¬ BranchesIsolated (codingTask "WNRT" "7 fix docs") (codingTask "WNRT-7" "Fix docs") ∧
      ¬ BranchesIsolated (codingTask "ops/12" "Fix docs") (codingTask "ops12" "Fix docs") := by
  have hrun : ¬ BranchesIsolated (codingTask "WNRT" "7 fix docs")
      (codingTask "WNRT-7" "Fix docs") := by
    intro h
    exact (h "agent/openclaw/WNRT-7-fix-docs".toList _ (by decide +kernel) (by decide +kernel)).1 rfl
  have hdeleted : ¬ BranchesIsolated (codingTask "ops/12" "Fix docs")
      (codingTask "ops12" "Fix docs") := by
    intro h
    exact (h "agent/openclaw/ops12-fix-docs".toList _ (by decide +kernel) (by decide +kernel)).1 rfl
  refine ⟨?_, hrun, hdeleted⟩
  intro h
  exact hrun (h _ _ (by decide))

end OpenClaw
