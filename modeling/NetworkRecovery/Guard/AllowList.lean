import NetworkRecovery.Guard.Evaluation
import NetworkRecovery.Lib.Precedence

/-!
# The allowlist, and its precedence

`ProxyGuardPolicy.evaluate` tries the exact rules and then the substring rules on each
row. Its docstring promises another order: the first row that an exact rule allows, and
only where there is none the first that a substring rule does. The two come to the same
unless a substring rule allows a row before the first that an exact rule allows
(`evaluate_asDocumented_iff`).
-/

namespace ProxyGuard

open Python Precedence

section Lower

variable (lower : List Char → List Char) (policy : ProxyGuardPolicy)

/-- The row has a name that is not blank, and the name is an exact rule, up to case. -/
def MatchesExact (row : Dict) : Prop :=
  ∃ name, rowName row = some name ∧ strip name.toList ≠ [] ∧
    ∃ exact ∈ policy.allowedProcessNamesExact, lower name.toList = lower exact.toList

/-- The row has a name that is not blank, and a substring rule is in it, up to case. -/
def MatchesSubstring (row : Dict) : Prop :=
  ∃ name, rowName row = some name ∧ strip name.toList ≠ [] ∧
    ∃ sub ∈ policy.allowedProcessNameSubstrings,
      contains (lower sub.toList) (lower name.toList) = true

/-- The name that a row is judged by. -/
def judgedName (row : Dict) : Option String :=
  (rowName row).filter fun name => !(strip name.toList).isEmpty

/-- What a row is allowed for: the reason, the rule and the name. -/
abbrev Hit : Type := (String × String) × Option String

/-- The first exact rule that allows the row. -/
def exactHit (row : Dict) : Option Hit :=
  (judgedName row).bind fun name =>
    (policy.allowedProcessNamesExact.find? fun exact => lower name.toList = lower exact.toList).map
      fun exact => (("exact_process_name_match", "exact:" ++ exact), some name)

/-- The first substring rule that allows the row. -/
def substringHit (row : Dict) : Option Hit :=
  (judgedName row).bind fun name =>
    (policy.allowedProcessNameSubstrings.find? fun sub =>
      contains (lower sub.toList) (lower name.toList)).map
        fun sub => (("substring_process_name_match", "substring:" ++ sub), some name)

/-- The decision on a row that is allowed, or on none. -/
def decisionOf (first : Dict) (hit : Option Hit) : PolicyDecision :=
  let primary := (rowName first).map fun name => String.ofList (lower name.toList)
  match hit with
  | some ((reason, rule), name) =>
    let lowered := name.map fun name => String.ofList (lower name.toList)
    ⟨true, reason, some rule, if primary.any (!·.isEmpty) then primary else lowered⟩
  | none => ⟨false, "no_whitelist_match_default_deny", none, primary⟩

/-- What the docstring says of the evaluation: some row is allowed, and it is the first
of the exact rules before the first of the substring rules. -/
structure AsDocumented (first : Dict) (rest : List Dict) : Prop where
  allows : (policy.evaluate lower (first :: rest)).allowed = true ↔
    ∃ row ∈ first :: rest, MatchesExact lower policy row ∨ MatchesSubstring lower policy row
  decides : policy.evaluate lower (first :: rest) =
    decisionOf lower first (inTurn (exactHit lower policy) (substringHit lower policy) (first :: rest))

variable {lower policy}

theorem judgedName_eq_some {row : Dict} {name : String} :
    judgedName row = some name ↔ rowName row = some name ∧ strip name.toList ≠ [] := by
  rw [judgedName, Option.filter_eq_some_iff, Bool.not_eq_true', List.isEmpty_eq_false_iff]

theorem exactHit_isSome_iff {row : Dict} :
    (exactHit lower policy row).isSome = true ↔ MatchesExact lower policy row := by
  unfold exactHit MatchesExact
  constructor
  · intro h
    obtain ⟨hit, hhit⟩ := Option.isSome_iff_exists.mp h
    obtain ⟨name, hname, hrule⟩ := Option.bind_eq_some_iff.mp hhit
    obtain ⟨exact, hexact, -⟩ := Option.map_eq_some_iff.mp hrule
    obtain ⟨hrow, hblank⟩ := judgedName_eq_some.mp hname
    have hfound := List.find?_some hexact
    exact ⟨name, hrow, hblank, exact, List.mem_of_find?_eq_some hexact, of_decide_eq_true hfound⟩
  · rintro ⟨name, hrow, hblank, exact, hmem, heq⟩
    rw [judgedName_eq_some.mpr ⟨hrow, hblank⟩, Option.bind_some, Option.isSome_map,
      List.find?_isSome]
    exact ⟨exact, hmem, decide_eq_true heq⟩

theorem substringHit_isSome_iff {row : Dict} :
    (substringHit lower policy row).isSome = true ↔ MatchesSubstring lower policy row := by
  unfold substringHit MatchesSubstring
  constructor
  · intro h
    obtain ⟨hit, hhit⟩ := Option.isSome_iff_exists.mp h
    obtain ⟨name, hname, hrule⟩ := Option.bind_eq_some_iff.mp hhit
    obtain ⟨sub, hsub, -⟩ := Option.map_eq_some_iff.mp hrule
    obtain ⟨hrow, hblank⟩ := judgedName_eq_some.mp hname
    have hfound := List.find?_some hsub
    exact ⟨name, hrow, hblank, sub, List.mem_of_find?_eq_some hsub, hfound⟩
  · rintro ⟨name, hrow, hblank, sub, hmem, hin⟩
    rw [judgedName_eq_some.mpr ⟨hrow, hblank⟩, Option.bind_some, Option.isSome_map,
      List.find?_isSome]
    exact ⟨sub, hmem, hin⟩

/-- A row is tried with the exact rules first. -/
theorem matchRow_eq (row : Dict) :
    (policy.matchRow lower row).map (fun rule => (rule, rowName row)) =
      (exactHit lower policy row).or (substringHit lower policy row) := by
  unfold ProxyGuardPolicy.matchRow exactHit substringHit judgedName
  cases rowName row with
  | none => rfl
  | some name =>
    rw [Option.filter_some]
    by_cases hblank : (strip name.toList).isEmpty = true
    · simp only [hblank, if_true, Bool.not_true, Bool.false_eq_true, if_false, Option.map_none,
        Option.bind_none, Option.or_none]
    · rw [Bool.not_eq_true] at hblank
      simp only [hblank, Bool.false_eq_true, if_false, Bool.not_false, if_true, Option.bind_some]
      cases policy.allowedProcessNamesExact.find? fun exact =>
          decide (lower name.toList = lower exact.toList) with
      | some exact => rfl
      | none =>
        cases policy.allowedProcessNameSubstrings.find? fun sub =>
          contains (lower sub.toList) (lower name.toList) <;> rfl

/-- The rows are searched with all the rules at once. -/
theorem evaluate_eq (first : Dict) (rest : List Dict) :
    policy.evaluate lower (first :: rest) =
      decisionOf lower first
        (atOnce (exactHit lower policy) (substringHit lower policy) (first :: rest)) := by
  have hsearch : (fun row => (policy.matchRow lower row).map fun rule => (rule, rowName row)) =
      fun row => (exactHit lower policy row).or (substringHit lower policy row) :=
    funext fun row => matchRow_eq row
  unfold ProxyGuardPolicy.evaluate atOnce
  dsimp only
  rw [hsearch]
  rfl

theorem decisionOf_allowed (first : Dict) (hit : Option Hit) :
    (decisionOf lower first hit).allowed = hit.isSome := by
  cases hit <;> rfl

/-- Some row is allowed where some rule allows it. -/
theorem evaluate_allowed_iff (first : Dict) (rest : List Dict) :
    (policy.evaluate lower (first :: rest)).allowed = true ↔
      ∃ row ∈ first :: rest, MatchesExact lower policy row ∨ MatchesSubstring lower policy row := by
  rw [evaluate_eq, decisionOf_allowed, atOnce_isSome_iff]
  simp only [exactHit_isSome_iff, substringHit_isSome_iff]

theorem exactHit_reason {row : Dict} {hit : Hit} (h : exactHit lower policy row = some hit) :
    hit.1.1 = "exact_process_name_match" := by
  obtain ⟨name, -, hrule⟩ := Option.bind_eq_some_iff.mp h
  obtain ⟨exact, -, rfl⟩ := Option.map_eq_some_iff.mp hrule
  rfl

theorem substringHit_reason {row : Dict} {hit : Hit} (h : substringHit lower policy row = some hit) :
    hit.1.1 = "substring_process_name_match" := by
  obtain ⟨name, -, hrule⟩ := Option.bind_eq_some_iff.mp h
  obtain ⟨sub, -, rfl⟩ := Option.map_eq_some_iff.mp hrule
  rfl

theorem decisionOf_reason (first : Dict) (hit : Hit) :
    (decisionOf lower first (some hit)).reason = hit.1.1 := rfl

/-- What is overtaken is decided for another reason. -/
theorem reason_ne_of_overtaken {rows : List Dict} (first : Dict)
    (h : Overtaken (exactHit lower policy) (substringHit lower policy) rows) :
    decisionOf lower first (atOnce (exactHit lower policy) (substringHit lower policy) rows) ≠
      decisionOf lower first (inTurn (exactHit lower policy) (substringHit lower policy) rows) := by
  obtain ⟨row, hit, hexact, hturn⟩ := h.inTurn
  obtain ⟨row', hit', hsub, honce⟩ := h.atOnce
  rw [hturn, honce]
  intro heq
  have hreason := congrArg PolicyDecision.reason heq
  rw [decisionOf_reason, decisionOf_reason, exactHit_reason hexact, substringHit_reason hsub]
    at hreason
  exact absurd hreason (by decide)

theorem overtaken_iff {rows : List Dict} :
    Overtaken (exactHit lower policy) (substringHit lower policy) rows ↔
      ∃ before row after, rows = before ++ row :: after ∧ MatchesExact lower policy row ∧
        (∀ b ∈ before, ¬ MatchesExact lower policy b) ∧
          ∃ b ∈ before, MatchesSubstring lower policy b := by
  simp only [Overtaken, ← exactHit_isSome_iff, ← substringHit_isSome_iff, Bool.not_eq_true,
    Option.isSome_eq_false_iff, Option.isNone_iff_eq_none]

/-- The evaluation is as documented where no row before the first that an exact rule
allows is allowed by a substring rule, and only there. -/
theorem evaluate_asDocumented_iff (first : Dict) (rest : List Dict) :
    AsDocumented lower policy first rest ↔
      ∀ before row after, first :: rest = before ++ row :: after → MatchesExact lower policy row →
        (∀ b ∈ before, ¬ MatchesExact lower policy b) →
          ∀ b ∈ before, ¬ MatchesSubstring lower policy b := by
  have hcondition : (∀ before row after, first :: rest = before ++ row :: after →
      MatchesExact lower policy row → (∀ b ∈ before, ¬ MatchesExact lower policy b) →
        ∀ b ∈ before, ¬ MatchesSubstring lower policy b) ↔
      ¬ Overtaken (exactHit lower policy) (substringHit lower policy) (first :: rest) := by
    rw [overtaken_iff]
    simp only [not_exists, not_and]
  rw [hcondition]
  constructor
  · intro h hovertaken
    exact reason_ne_of_overtaken first hovertaken ((evaluate_eq first rest).symm.trans h.decides)
  · intro h
    refine ⟨evaluate_allowed_iff first rest, ?_⟩
    rw [evaluate_eq, atOnce_eq_inTurn h]

end Lower

/-- A browser that a substring rule allows. -/
def browserRow : Dict := [("process_name", .str "chrome.exe"), ("pid", .int 4)]

/-- A process that an exact rule names. -/
def clashRow : Dict := [("process_name", .str "Clash-Win.exe"), ("pid", .int 8)]

def browserPolicy : ProxyGuardPolicy where
  allowedProcessNameSubstrings := ["chrome"]
  allowedProcessNamesExact := ["clash-win.exe"]

/-- The exact rule loses to the substring rule of an earlier row. -/
theorem exactRule_overtaken :
    (browserPolicy.evaluate Python.lower [browserRow, clashRow]).reason =
        "substring_process_name_match" ∧
      ¬ ∀ (lower : List Char → List Char) (policy : ProxyGuardPolicy) (first : Dict)
        (rest : List Dict), AsDocumented lower policy first rest := by
  refine ⟨by decide +kernel, fun h => ?_⟩
  have hreason := congrArg PolicyDecision.reason
    (h Python.lower browserPolicy browserRow [clashRow]).decides
  exact absurd hreason (by decide +kernel)

end ProxyGuard
