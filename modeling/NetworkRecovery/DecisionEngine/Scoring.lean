import NetworkRecovery.Lib.LastWriter
import NetworkRecovery.Python.Rounding

/-!
# Scores of candidate decisions

`score_candidate`: evidence for a decision raises its benefit, evidence against it its risk, and
what share of the evidence is for it, and how much of it there is, its confidence.

The formulas are written over the arithmetic they are computed in: the floats of the program, or
the rationals, in which they say what they mean (`binary`, `exact`).
-/

namespace DecisionEngine

open Python LastWriter

/-! ## Arithmetic -/

/-- What the formulas compute with. -/
structure Arithmetic (α : Type) where
  /-- a literal: digits and a power of ten -/
  lit : Nat → Int → α
  ofInt : Int → α
  add : α → α → α
  sub : α → α → α
  mul : α → α → α
  /-- by what is not zero -/
  div : α → α → α
  /-- `a / b` of two counts -/
  ratio : Nat → Nat → α
  /-- `sum` -/
  sum : List α → α
  le : α → α → Bool
  lt : α → α → Bool
  /-- `round(x, 4)` -/
  round4 : α → α
  /-- `int(round(x))` -/
  roundInt : α → Except PyError Int

/-- The floats. How `sum` adds them up has changed between versions of the interpreter, so it is a
parameter. -/
def binary (sum : List FloatVal → FloatVal) : Arithmetic FloatVal where
  lit digits exponent := .ofScientific digits exponent
  ofInt n := .ofRat false n
  add := .add
  sub := .sub
  mul := .mul
  div := .div
  ratio a b := .ofRat false (a / b)
  sum := sum
  le := FloatVal.le
  lt := FloatVal.lt
  round4 x := x.round 4
  roundInt := FloatVal.roundInt

/-- The rationals, rounded where the program rounds. -/
def exact : Arithmetic ℚ where
  lit digits exponent := digits * 10 ^ exponent
  ofInt n := n
  add := (· + ·)
  sub := (· - ·)
  mul := (· * ·)
  div := (· / ·)
  ratio a b := a / b
  sum := List.sum
  le x y := decide (x ≤ y)
  lt x y := decide (x < y)
  round4 x := roundEven (x * 10 ^ 4) / 10 ^ 4
  roundInt x := .ok (roundEven x)

namespace Arithmetic

variable {α : Type} (A : Arithmetic α)

def zero : α := A.lit 0 0

def one : α := A.lit 1 0

/-- `max(x, y)`. -/
def max (x y : α) : α := if A.lt x y then y else x

/-- `min(x, y)`. -/
def min (x y : α) : α := if A.lt y x then y else x

/-- `x == y`. -/
def eq (x y : α) : Bool := A.le x y && A.le y x

end Arithmetic

/-! ## Evidence and candidates -/

/-- A `dict[str, float]`. -/
structure Weights (α : Type) where
  items : List (String × α) := []
  nodup : (items.map Prod.fst).Nodup

section Models

variable {α : Type} (A : Arithmetic α)

/-- A number that a model lets through. -/
structure Bounded (lo hi : α) where
  value : α
  ge : A.le lo value = true
  le : A.le value hi = true

/-- `EvidenceItem`. -/
structure EvidenceItem where
  evidenceId : String
  label : String
  weight : Bounded A A.zero A.one
  supportsDecision : Bool := true
  detail : String := ""

/-- `CandidateDecision`. -/
structure CandidateDecision where
  decisionId : String
  label : String
  baseBenefit : Bounded A A.zero (A.lit 100 0)
  baseRisk : Bounded A A.zero (A.lit 100 0)
  evidenceRelevance : Weights α
  riskFactors : Weights α

end Models

/-- `ScoreBreakdown`, its confidence and its formulas as the rows they are. -/
structure ScoreBreakdown (α : Type) where
  benefitComponents : List (String × α)
  riskComponents : List (String × α)
  confidenceComponents : List (String × α)
  benefit : Int
  risk : Int
  confidence : α
  finalScore : Int
  formulas : List (String × String)

/-- `ScoredDecision`. -/
structure ScoredDecision (α : Type) where
  decisionId : String
  decision : String
  confidence : α
  benefit : Int
  risk : Int
  finalScore : Int
  breakdown : ScoreBreakdown α
  recommendation : String

/-- `formulas`. -/
def formulas : List (String × String) :=
  [("benefit", "benefit = clamp(round(sum(benefit_components)), 0, 100)"),
    ("risk", "risk = clamp(round(sum(risk_components)), 0, 100)"),
    ("confidence", "confidence = support_ratio * (0.5 + 0.5 * evidence_coverage)"),
    ("final_score", "final_score = clamp(round(benefit * confidence - risk * 0.35), 0, 100)")]

/-! ## Scoring -/

section Scoring

variable {α : Type} (A : Arithmetic α)

/-- `max(0, min(100, n))`. -/
def clampScore (n : Int) : Int := max 0 (min 100 n)

/-- `_clamp_int`. -/
def clampInt (value : α) : Except PyError Int := (A.roundInt value).map clampScore

/-- `_clamp_confidence`. -/
def clampConfidence (value : α) : α := A.round4 (A.max A.zero (A.min A.one value))

variable (candidate : CandidateDecision A)

/-- `_relevance`. -/
def relevance (evidenceId : String) : α :=
  if candidate.evidenceRelevance.items.isEmpty then A.one
  else (candidate.evidenceRelevance.items.lookup evidenceId).getD A.zero

/-- What the loop over the evidence has gathered. -/
structure Tally (α : Type) where
  benefitParts : List (String × α)
  riskParts : List (String × α)
  supportingWeight : α
  totalWeight : α
  matchedEvidence : Nat

def Tally.start : Tally α where
  benefitParts := [("base_benefit", candidate.baseBenefit.value)]
  riskParts := [("base_risk", candidate.baseRisk.value)]
  supportingWeight := A.zero
  totalWeight := A.zero
  matchedEvidence := 0

/-- One item of the evidence. -/
def Tally.item (tally : Tally α) (item : EvidenceItem A) : Tally α :=
  let rel := relevance A candidate item.evidenceId
  if A.le rel A.zero then tally
  else
    let contribution := A.mul item.weight.value rel
    let key := "evidence:" ++ item.evidenceId
    let tally := { tally with
      matchedEvidence := tally.matchedEvidence + 1
      totalWeight := A.add tally.totalWeight contribution }
    if item.supportsDecision then { tally with
      supportingWeight := A.add tally.supportingWeight contribution
      benefitParts := put tally.benefitParts key (A.mul contribution (A.lit 40 0)) }
    else { tally with
      riskParts := put tally.riskParts key (A.mul contribution (A.lit 35 0)) }

/-- `sorted(d.items())`. -/
def sortedItems (items : List (String × α)) : List (String × α) :=
  items.mergeSort fun a b => decide (a.1 ≤ b.1)

/-- The risk factors, after the evidence. -/
def addRiskFactors (parts : List (String × α)) : List (String × α) :=
  (sortedItems candidate.riskFactors.items).foldl
    (fun parts factor => put parts ("risk_factor:" ++ factor.1) factor.2) parts

/-- `_recommendation_text`. -/
def recommendationText (label : String) (finalScore : Int) (confidence : α) (risk : Int) : String :=
  if 70 ≤ finalScore && A.le (A.lit 7 (-1)) confidence && risk ≤ 30 then
    "Recommend '" ++ label ++ "' — strong benefit with acceptable risk."
  else if 50 ≤ finalScore && A.le (A.lit 5 (-1)) confidence then
    "Consider '" ++ label ++ "' — moderate score; review breakdown before action."
  else if 60 ≤ risk then "Defer '" ++ label ++ "' — elevated risk; gather more evidence."
  else "Monitor '" ++ label ++ "' — low confidence or weak final score."

/-- `score_candidate`. -/
def scoreCandidate (evidence : List (EvidenceItem A)) : Except PyError (ScoredDecision α) := do
  let tally := evidence.foldl (Tally.item A candidate) (Tally.start A candidate)
  let riskParts := addRiskFactors A candidate tally.riskParts
  let benefit ← clampInt A (A.sum (tally.benefitParts.map Prod.snd))
  let risk ← clampInt A (A.sum (riskParts.map Prod.snd))
  let supportRatio :=
    if A.lt A.zero tally.totalWeight then A.div tally.supportingWeight tally.totalWeight
    else A.zero
  let evidenceCoverage :=
    if evidence.isEmpty then A.zero else A.ratio tally.matchedEvidence evidence.length
  let confidence := clampConfidence A
    (A.mul supportRatio (A.add (A.lit 5 (-1)) (A.mul (A.lit 5 (-1)) evidenceCoverage)))
  let finalScore ← clampInt A
    (A.sub (A.mul (A.ofInt benefit) confidence) (A.mul (A.ofInt risk) (A.lit 35 (-2))))
  let rounded := fun parts : List (String × α) =>
    (sortedItems parts).map fun part => (part.1, A.round4 part.2)
  return {
    decisionId := candidate.decisionId
    decision := candidate.label
    confidence := confidence
    benefit := benefit
    risk := risk
    finalScore := finalScore
    breakdown := {
      benefitComponents := rounded tally.benefitParts
      riskComponents := rounded riskParts
      confidenceComponents :=
        [("support_ratio", A.round4 supportRatio), ("evidence_coverage", A.round4 evidenceCoverage),
          ("supporting_weight", A.round4 tally.supportingWeight),
          ("total_weight", A.round4 tally.totalWeight)]
      benefit := benefit
      risk := risk
      confidence := confidence
      finalScore := finalScore
      formulas := formulas }
    recommendation := recommendationText A candidate.label finalScore confidence risk }

end Scoring

/-- `score_candidates`. -/
def scoreCandidates {α : Type} (A : Arithmetic α) (evidence : List (EvidenceItem A))
    (candidates : List (CandidateDecision A)) : Except PyError (List (ScoredDecision α)) :=
  candidates.mapM fun candidate => scoreCandidate A candidate evidence

end DecisionEngine
