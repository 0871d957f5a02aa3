import NetworkRecovery.Python.Builtins

/-!
# Evidence tiers and proof inputs

`evidence/tiers.py` and `evidence/guards.py`: the order of the tiers, the
guard of each upgrade, and the proof a dict of signals amounts to. The tier
alone never unlocks a destructive action; the writer, its lineage, the
alignment in time and the path all have to be proved beside it.
-/

namespace Policy

open Python

/-- `EvidenceTier`. -/
inductive EvidenceTier where
  | observedOnly
  | correlated
  | provenRegistryWriter
  | provenNetworkImpact
  | finalCausation
  deriving DecidableEq, Repr

def EvidenceTier.value : EvidenceTier → String
  | .observedOnly => "OBSERVED_ONLY"
  | .correlated => "CORRELATED"
  | .provenRegistryWriter => "PROVEN_REGISTRY_WRITER"
  | .provenNetworkImpact => "PROVEN_NETWORK_IMPACT"
  | .finalCausation => "FINAL_CAUSATION"

/-- `EVIDENCE_TIER_ORDER`. -/
def evidenceTierOrder : List EvidenceTier :=
  [.observedOnly, .correlated, .provenRegistryWriter, .provenNetworkImpact, .finalCausation]

/-- `tier_rank` of a tier. -/
def tierRank (tier : EvidenceTier) : Nat := evidenceTierOrder.idxOf tier

/-- The tier a validated string names. -/
def EvidenceTier.ofString? (s : String) : Option EvidenceTier :=
  evidenceTierOrder.find? (·.value = s)

structure ProofInputs where
  hasRegistryWriterTelemetry : Bool := false
  hasProcessLineage : Bool := false
  hasTimestampAlignment : Bool := false
  hasPathValidation : Bool := false
  hasListenerCorrelationOnly : Bool := false
  hasReplayCertification : Bool := false
  manualTierOverride : Bool := false
  deriving DecidableEq

/-- `validate_tier_upgrade`. -/
def validateTierUpgrade (current proposed : EvidenceTier) (proof : ProofInputs) : Bool × String :=
  if proof.manualTierOverride ∧ proposed = .finalCausation then
    (false, "Manual FINAL_CAUSATION override forbidden")
  else if tierRank proposed ≤ tierRank current then
    (proposed = current, if proposed ≠ current then "No downgrade" else "unchanged")
  else match proposed with
    | .correlated => (proof.hasListenerCorrelationOnly || true, "correlation observed")
    | .provenNetworkImpact =>
      (proof.hasPathValidation, "PROVEN_NETWORK_IMPACT requires network path validation proof")
    | .provenRegistryWriter =>
      (proof.hasRegistryWriterTelemetry, "PROVEN_REGISTRY_WRITER requires writer telemetry")
    | .finalCausation =>
      if proof.hasRegistryWriterTelemetry && proof.hasProcessLineage &&
          proof.hasTimestampAlignment && proof.hasPathValidation then
        (true, "guarded proof satisfied")
      else (false, "FINAL_CAUSATION requires writer + lineage + alignment + path validation")
    | .observedOnly => (false, "Unknown tier transition to OBSERVED_ONLY")

/-- `can_unlock_destructive_remediation`. -/
def canUnlockDestructiveRemediation (tier : EvidenceTier) (proof : ProofInputs) : Bool :=
  if proof.hasListenerCorrelationOnly && !proof.hasRegistryWriterTelemetry then false
  else if tierRank tier < tierRank .finalCausation then false
  else (validateTierUpgrade .provenRegistryWriter .finalCausation proof).1

/-- The `truthy` of `proof_inputs_from_signals`: text counts only as a word for
yes. -/
def signalTruthy (v : Value) : Bool :=
  match v with
  | .bool b => b
  | .str s =>
    ["1".toList, "true".toList, "yes".toList, "on".toList].contains (lower (strip s.toList))
  | v => v.truthy

/-- `signals.get(k)`. -/
def signal (signals : Dict) (k : String) : Value := (signals.get? k).getD .none

/-- `signals.get(k₁) or signals.get(k₂) or …`. -/
def firstSignal (signals : Dict) : List String → Value
  | [] => .none
  | [k] => signal signals k
  | k :: ks => if (signal signals k).truthy then signal signals k else firstSignal signals ks

/-- `proof_inputs_from_signals`. -/
def proofInputsFromSignals (signals : Dict) : ProofInputs where
  hasRegistryWriterTelemetry :=
    signalTruthy (firstSignal signals ["sysmon_event_13", "registry_writer_observed"])
  hasProcessLineage := signalTruthy (firstSignal signals ["writer_process", "process_lineage"])
  hasTimestampAlignment := signalTruthy (signal signals "timestamp_alignment")
  hasPathValidation := signalTruthy (firstSignal signals
    ["proxy_bypass_succeeded", "direct_path_success", "path_validated"])
  hasListenerCorrelationOnly :=
    signalTruthy (firstSignal signals ["listener_on_proxy_port", "listener_correlation"]) &&
      !signalTruthy (signal signals "sysmon_event_13")
  hasReplayCertification := signalTruthy (signal signals "replay_certified")
  manualTierOverride := signalTruthy (signal signals "force_final_causation")

/-! ## What unlocks -/

/-- The upgrade to the highest tier: all four proofs, and no override. -/
theorem validateTierUpgrade_finalCausation (proof : ProofInputs) :
    (validateTierUpgrade .provenRegistryWriter .finalCausation proof).1 = true ↔
      proof.hasRegistryWriterTelemetry = true ∧ proof.hasProcessLineage = true ∧
        proof.hasTimestampAlignment = true ∧ proof.hasPathValidation = true ∧
        proof.manualTierOverride = false := by
  have hrank : ¬ tierRank .finalCausation ≤ tierRank .provenRegistryWriter := by decide
  unfold validateTierUpgrade
  cases hmanual : proof.manualTierOverride with
  | true => simp
  | false =>
    rw [if_neg (by simp), if_neg hrank]
    dsimp only
    split
    · rename_i hall
      simpa [and_assoc] using hall
    · rename_i hall
      simpa [and_assoc] using hall

/-- Destructive actions are unlocked by the highest tier with all four proofs,
and not when somebody forces the tier. -/
theorem canUnlockDestructiveRemediation_iff (tier : EvidenceTier) (proof : ProofInputs) :
    canUnlockDestructiveRemediation tier proof = true ↔
      tier = .finalCausation ∧ proof.hasRegistryWriterTelemetry = true ∧
        proof.hasProcessLineage = true ∧ proof.hasTimestampAlignment = true ∧
        proof.hasPathValidation = true ∧ proof.manualTierOverride = false := by
  rw [← validateTierUpgrade_finalCausation]
  unfold canUnlockDestructiveRemediation
  split
  · rename_i hlistener
    have hwriter : proof.hasRegistryWriterTelemetry = false := by
      simpa using (Bool.and_eq_true_iff.mp hlistener).2
    refine ⟨fun h => absurd h (by simp), fun h => ?_⟩
    have hproved := ((validateTierUpgrade_finalCausation proof).mp h.2).1
    exact absurd (hwriter.symm.trans hproved) (by simp)
  · split
    · rename_i hrank
      refine ⟨fun h => absurd h (by simp), fun h => ?_⟩
      rw [h.1] at hrank
      exact absurd hrank (Nat.lt_irrefl _)
    · rename_i hrank
      have htier : tier = .finalCausation := by
        revert hrank
        cases tier <;> decide
      exact ⟨fun h => ⟨htier, h⟩, fun h => h.2⟩

end Policy
