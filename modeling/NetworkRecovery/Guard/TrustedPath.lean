import NetworkRecovery.Guard.Evaluation
import NetworkRecovery.Lib.Walks

/-!
# Trusted paths

`exe_path_trusted` takes a path for one below a trusted prefix if its text starts with
that of the prefix. It looks at no component: the text goes on in the name of a sibling
directory as well as in the directory itself, and a `..` behind it may lead out again.

So a trusted path lies below a prefix exactly when, component by component, it comes to
the directory of a prefix and does not climb out of it again (`trusted_contained_iff`).
-/

namespace ProxyGuard

open Python Walks

/-! ## Where a path leads -/

/-- The components of the part behind the drive. -/
def pathSteps (tail : List Char) : List (Step (List Char)) :=
  ((tail.splitOn '\\').filter fun part => part ≠ [] ∧ part ≠ ['.']).map fun part =>
    if part = ['.', '.'] then .up else .down part

/-- The drive of a path, or its share or device, with the root. -/
def windowsAnchor (path : List Char) : List Char :=
  path.take (path.length - (windowsTail path).length)

/-- Where a path leads: the drive, whether from its root, and the place below. -/
structure Location where
  drive : List Char
  rooted : Bool
  place : Place (List Char)
  deriving DecidableEq

def windowsDrive (path : List Char) : List Char := (windowsAnchor path).rdropWhile (· == '\\')

/-- A path with a root, or a drive that is named alone. -/
def isRooted (path : List Char) : Bool :=
  (windowsAnchor path).getLast? == some '\\' ||
    (!(windowsDrive path).isEmpty && (windowsTail path).isEmpty)

/-- The location of a path in normal form, its `.` and `..` resolved. -/
def locate (path : List Char) : Location where
  drive := windowsDrive path
  rooted := isRooted path
  place := walk (isRooted path) {} (pathSteps (windowsTail path))

/-- The inner location is the outer one, or lies below it. -/
structure Within (outer inner : Location) : Prop where
  drive : inner.drive = outer.drive
  rooted : inner.rooted = outer.rooted
  place : Below outer.place inner.place

instance (outer inner : Location) : Decidable (Within outer inner) :=
  decidable_of_iff (inner.drive = outer.drive ∧ inner.rooted = outer.rooted ∧
      Below outer.place inner.place)
    ⟨fun h => ⟨h.1, h.2.1, h.2.2⟩, fun h => ⟨h.drive, h.rooted, h.place⟩⟩

/-- A path on the drive of a location whose first components lead there, and whose others do not
climb above it. -/
structure Enters (outer : Location) (path : List Char) : Prop where
  drive : windowsDrive path = outer.drive
  rooted : isRooted path = outer.rooted
  steps : ∃ before after, pathSteps (windowsTail path) = before ++ after ∧
    walk outer.rooted {} before = outer.place ∧ (depth 0 after).isSome

theorem within_locate_iff {outer : Location} {path : List Char} :
    Within outer (locate path) ↔ Enters outer path := by
  constructor
  · rintro ⟨hdrive, hrooted, hplace⟩
    refine ⟨hdrive, hrooted, ?_⟩
    rw [← hrooted]
    exact (below_walk_iff _).mp hplace
  · rintro ⟨hdrive, hrooted, hsteps⟩
    refine ⟨hdrive, hrooted, ?_⟩
    rw [← hrooted] at hsteps
    exact (below_walk_iff _).mpr hsteps

/-! ## Trust -/

section Trust

variable (lower : List Char → List Char)

/-- A prefix as it is compared: without the separators at its end. -/
def trustRoot (pref : String) : List Char := (normalizedPath lower pref).rdropWhile (· == '\\')

/-- A path whose text starts with that of a prefix. -/
def TextMatches (pref candidate : String) : Prop :=
  trustRoot lower pref ≠ [] ∧ trustRoot lower pref <+: normalizedPath lower candidate

theorem exePathTrusted_iff (candidate : Option String) (prefixes : List String) :
    exePathTrusted lower candidate prefixes = true ↔
      ∃ path ∈ candidate, path ≠ "" ∧ ∃ pref ∈ prefixes, TextMatches lower pref path := by
  unfold exePathTrusted
  cases candidate with
  | none => simp
  | some path =>
    by_cases hempty : path = ""
    · have hfilter : (some "").filter (fun path : String => !path.isEmpty) = none := rfl
      subst hempty
      rw [hfilter]
      simp
    · have hfilter : (some path).filter (!·.isEmpty) = some path := by simp [hempty]
      rw [hfilter]
      simp [TextMatches, trustRoot, hempty]

/-- A path that is trusted lies below one of the prefixes that are not blank. -/
def TrustContained (candidate : Option String) (prefixes : List String) : Prop :=
  exePathTrusted lower candidate prefixes = true →
    ∃ path ∈ candidate, ∃ pref ∈ prefixes, normalizedPath lower pref ≠ [] ∧
      Within (locate (normalizedPath lower pref)) (locate (normalizedPath lower path))

instance (candidate : Option String) (prefixes : List String) :
    Decidable (TrustContained lower candidate prefixes) :=
  inferInstanceAs (Decidable (_ → _))

/-- Trust is containment exactly when no prefix matches the text of the path, or the path comes to
the directory of a prefix and does not climb out of it again. -/
theorem trusted_contained_iff (candidate : Option String) (prefixes : List String) :
    TrustContained lower candidate prefixes ↔
      ∀ path ∈ candidate, path ≠ "" →
        (∀ pref ∈ prefixes, ¬ TextMatches lower pref path) ∨
        ∃ pref ∈ prefixes, normalizedPath lower pref ≠ [] ∧
          Enters (locate (normalizedPath lower pref)) (normalizedPath lower path) := by
  unfold TrustContained
  rw [exePathTrusted_iff]
  simp only [within_locate_iff]
  constructor
  · intro h path hpath hne
    by_cases hmatch : ∃ pref ∈ prefixes, TextMatches lower pref path
    · obtain ⟨path', hpath', hcontained⟩ := h ⟨path, hpath, hne, hmatch⟩
      obtain rfl := Option.mem_unique hpath hpath'
      exact .inr hcontained
    · push Not at hmatch
      exact .inl hmatch
  · rintro h ⟨path, hpath, hne, pref, hpref, hmatch⟩
    rcases h path hpath hne with hnone | hcontained
    · exact absurd hmatch (hnone pref hpref)
    · exact ⟨path, hpath, hcontained⟩

end Trust

example : locate (normalizedPath Python.lower "\"C:/Trusted/./bin/../agent.exe\"") =
    locate (normalizedPath Python.lower "c:\\trusted\\agent.exe") := by decide +kernel

/-- A sibling of the trusted directory is trusted. -/
theorem sibling_trusted :
    ¬ TrustContained Python.lower (some "C:\\Trusted-evil\\agent.exe") ["C:\\Trusted"] := by
  decide +kernel

end ProxyGuard
