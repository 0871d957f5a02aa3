import NetworkRecovery.Python.Text

/-!
# Causal language

`narrative_passes_governance_language` refuses a text that speaks of causes where the evidence
does not carry it, unless it denies them: a phrase may stand behind a negation. The check looks
for the negation at the first place of a phrase and lets every later one pass with it
(`narrative_sound_iff`).
-/

namespace Governance

open Python

/-- `_CAUSAL_LANGUAGE_TIERS`. -/
def causalLanguageTiers : List String := ["attribution", "final_causation"]

/-- `causal_language_allowed`. -/
def causalLanguageAllowed (claimStrength : String) : Bool :=
  causalLanguageTiers.contains (String.ofList (lower claimStrength.toList))

/-- `_PROHIBITED_CAUSAL_PHRASES`. -/
def prohibitedCausalPhrases : List String :=
  ["caused by", "prove malware", "proved malware", "proves malware", "confirmed mitm",
    "confirms mitm", "prove mitm", "attacker", "compromised", "safe to execute automatically"]

/-- What makes a negation. -/
def negationMarkers : List String := ["does not ", "do not ", "not ", "never ", "without "]

/-- The 24 characters before a place of a text. -/
def window (text : List Char) (idx : Nat) : List Char := (text.take idx).drop (idx - 24)

/-- A negation in the 24 characters before a place. -/
def negatedAt (text : List Char) (idx : Nat) : Bool :=
  negationMarkers.any fun neg => contains neg.toList (window text idx)

/-- `text.find(phrase)`. -/
def find (text phrase : List Char) : Option Nat :=
  (List.range (text.length + 1)).find? fun idx => phrase.isPrefixOf (text.drop idx)

/-- `_negated`. -/
def negated (text phrase : List Char) : Bool :=
  match find text phrase with
  | none => false
  | some idx => negatedAt text idx

/-- The phrases that a classification is not to be told in. -/
def accusations (primaryClassification : Option String) : List String :=
  if primaryClassification = some "SUSPICIOUS_PROXY" then
    ["prove malware", "proved malware", "malware confirmed"]
  else if primaryClassification = some "POSSIBLE_MITM_RISK" then
    ["confirmed mitm", "confirms mitm", "prove mitm", "proven mitm"]
  else []

/-- `narrative_passes_governance_language`. -/
def narrativePassesGovernanceLanguage (text claimStrength : String)
    (primaryClassification : Option String := none) : Bool :=
  let lowered := lower text.toList
  if !causalLanguageAllowed claimStrength && prohibitedCausalPhrases.any (fun phrase =>
      contains phrase.toList lowered && !negated lowered phrase.toList) then false
  else !(accusations primaryClassification).any fun p => contains p.toList lowered

/-! ## Occurrences -/

/-- The phrase stands at a place of the text. -/
def Occurs (text phrase : List Char) (idx : Nat) : Prop :=
  idx ≤ text.length ∧ phrase <+: text.drop idx

instance (text phrase : List Char) (idx : Nat) : Decidable (Occurs text phrase idx) :=
  inferInstanceAs (Decidable (_ ∧ _))

theorem occurs_of_find {text phrase : List Char} {idx : Nat} (h : find text phrase = some idx) :
    Occurs text phrase idx := by
  obtain ⟨hmatch, hmem, -⟩ := List.find?_range_eq_some.mp h
  exact ⟨Nat.le_of_lt_succ (List.mem_range.mp hmem), List.isPrefixOf_iff_prefix.mp hmatch⟩

/-- A phrase that occurs is found. -/
theorem exists_find {text phrase : List Char} {idx : Nat} (h : Occurs text phrase idx) :
    ∃ first, find text phrase = some first := by
  apply Option.isSome_iff_exists.mp
  apply List.find?_isSome.mpr
  exact ⟨idx, List.mem_range.mpr (Nat.lt_succ_of_le h.1), List.isPrefixOf_iff_prefix.mpr h.2⟩

theorem contains_of_occurs {text phrase : List Char} {idx : Nat} (h : Occurs text phrase idx) :
    contains phrase text = true :=
  contains_iff.mpr (h.2.isInfix.trans (List.drop_suffix idx text).isInfix)

/-- A phrase that a text contains occurs in it. -/
theorem exists_occurs {text phrase : List Char} (h : contains phrase text = true) :
    ∃ idx, Occurs text phrase idx := by
  obtain ⟨front, back, rfl⟩ := contains_iff.mp h
  refine ⟨front.length, ?_, ?_⟩
  · simp only [List.length_append]
    omega
  · rw [List.append_assoc, List.drop_left]
    exact List.prefix_append phrase back

/-! ## The check -/

/-- Every prohibited phrase of a text that passes is denied, at each of its places. -/
def NarrativeSound (text claimStrength : String) (primaryClassification : Option String) : Prop :=
  causalLanguageAllowed claimStrength = false →
    narrativePassesGovernanceLanguage text claimStrength primaryClassification = true →
      ∀ phrase ∈ prohibitedCausalPhrases, ∀ idx, Occurs (lower text.toList) phrase.toList idx →
        negatedAt (lower text.toList) idx = true

/-- The phrase is first written without a negation. -/
def FirstBare (text phrase : List Char) : Prop :=
  ∃ idx, find text phrase = some idx ∧ negatedAt text idx = false

/-- The phrase is first written behind a negation, and later without one. -/
def LaterBare (text phrase : List Char) : Prop :=
  (∃ first, find text phrase = some first ∧ negatedAt text first = true) ∧
    ∃ idx, Occurs text phrase idx ∧ negatedAt text idx = false

/-- The text is told in words that accuse. -/
def Accuses (text : List Char) (primaryClassification : Option String) : Prop :=
  ∃ p ∈ accusations primaryClassification, contains p.toList text = true

/-- What the check refuses a phrase for. -/
theorem firstBare_iff {text phrase : List Char} :
    FirstBare text phrase ↔ contains phrase text = true ∧ negated text phrase = false := by
  unfold FirstBare negated
  constructor
  · intro hfirst
    obtain ⟨idx, hfind, hbare⟩ := hfirst
    refine ⟨contains_of_occurs (occurs_of_find hfind), ?_⟩
    rw [hfind]
    exact hbare
  · intro hrefused
    obtain ⟨hcontains, hbare⟩ := hrefused
    obtain ⟨idx, hidx⟩ := exists_occurs hcontains
    obtain ⟨first, hfirst⟩ := exists_find hidx
    rw [hfirst] at hbare
    exact ⟨first, hfirst, hbare⟩

/-- A text passes when no phrase is first written without a negation, or causes may be told, and
it does not accuse. -/
theorem narrativePasses_iff {text claimStrength : String} {primaryClassification : Option String} :
    narrativePassesGovernanceLanguage text claimStrength primaryClassification = true ↔
      (causalLanguageAllowed claimStrength = true ∨
        ∀ phrase ∈ prohibitedCausalPhrases, ¬ FirstBare (lower text.toList) phrase.toList) ∧
      ¬ Accuses (lower text.toList) primaryClassification := by
  simp only [firstBare_iff, Accuses]
  unfold narrativePassesGovernanceLanguage
  cases causalLanguageAllowed claimStrength with
  | true => simp
  | false => simp [List.any_eq_true]

/-- The check is sound where causes may be told or the text is refused, and else where no phrase
that is denied at its first place is told at a later one. -/
theorem narrative_sound_iff (text claimStrength : String) (primaryClassification : Option String) :
    NarrativeSound text claimStrength primaryClassification ↔
      causalLanguageAllowed claimStrength = true ∨
        Accuses (lower text.toList) primaryClassification ∨
        (∃ phrase ∈ prohibitedCausalPhrases, FirstBare (lower text.toList) phrase.toList) ∨
        ∀ phrase ∈ prohibitedCausalPhrases, ¬ LaterBare (lower text.toList) phrase.toList := by
  constructor
  · intro hsound
    by_cases hallowed : causalLanguageAllowed claimStrength = true
    · exact .inl hallowed
    by_cases haccuses : Accuses (lower text.toList) primaryClassification
    · exact .inr (.inl haccuses)
    by_cases hfirst : ∃ phrase ∈ prohibitedCausalPhrases,
        FirstBare (lower text.toList) phrase.toList
    · exact .inr (.inr (.inl hfirst))
    -- nothing refuses the text, so every place of a phrase is behind a negation
    have hpasses : narrativePassesGovernanceLanguage text claimStrength primaryClassification =
        true := by
      apply narrativePasses_iff.mpr
      exact ⟨.inr fun phrase hphrase hbare => hfirst ⟨phrase, hphrase, hbare⟩, haccuses⟩
    refine .inr (.inr (.inr ?_))
    intro phrase hphrase hlater
    obtain ⟨-, idx, hidx, hbare⟩ := hlater
    have hnegated := hsound (eq_false_of_ne_true hallowed) hpasses phrase hphrase idx hidx
    rw [hbare] at hnegated
    exact Bool.false_ne_true hnegated
  · intro hcases hdisallowed hpasses phrase hphrase idx hidx
    obtain ⟨hquiet, hgentle⟩ := narrativePasses_iff.mp hpasses
    have hnone : ∀ phrase ∈ prohibitedCausalPhrases,
        ¬ FirstBare (lower text.toList) phrase.toList := by
      apply hquiet.resolve_left
      rw [hdisallowed]
      exact Bool.false_ne_true
    have hcases := hcases.resolve_left (by rw [hdisallowed]; exact Bool.false_ne_true)
    have hcases := hcases.resolve_left hgentle
    have hlater := hcases.resolve_left fun hfirst => by
      obtain ⟨first, hmem, hbare⟩ := hfirst
      exact hnone first hmem hbare
    -- a bare place is the first one, or comes after a negated first one
    by_contra hbare
    have hbare := eq_false_of_ne_true hbare
    obtain ⟨first, hfirst⟩ := exists_find hidx
    cases hnegated : negatedAt (lower text.toList) first with
    | false => exact hnone phrase hphrase ⟨first, hfirst, hnegated⟩
    | true => exact hlater phrase hphrase ⟨⟨first, hfirst, hnegated⟩, idx, hidx, hbare⟩

/-- The denial of one cause lets another one pass. -/
theorem narrative_denied_then_told :
    ¬ NarrativeSound "It was not caused by the update. The whole outage was caused by the proxy."
      "observation" none := by
  intro h
  have hpassed := h (by decide) (by decide +kernel) "caused by" (by decide) 54 (by decide +kernel)
  exact absurd hpassed (by decide +kernel)

end Governance
