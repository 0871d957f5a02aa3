import NetworkRecovery.Lib.HighWater
import NetworkRecovery.Policy.Evidence

/-!
# The evidence tier machine

`evidence/state_machine.py`: a tier that is moved by proposals, each with its own
proof, and by dicts of signals, each of which proposes the tiers it speaks for one
after the other.

Whatever is asked of it, the machine is a high-water mark of the tiers that were
GRANTED (`runCalls_eq_highWater`): a tier is granted when its guard passes on the
proof of that one call. So the tier never goes down, the order of the signals does not
matter, and nothing adds up over several calls.
-/

namespace Policy

open Python

/-! ## The machine -/

/-- `EvidenceStateMachine.propose` of a machine at a tier: the tier afterwards, and what
is returned. -/
def propose (tier proposed : EvidenceTier) (proof : ProofInputs) : EvidenceTier × Bool × String :=
  let upgrade := validateTierUpgrade tier proposed proof
  (if upgrade.1 ∧ proposed ≠ tier then proposed else tier, upgrade)

/-- The candidates of `apply_signals`, in the order in which they are proposed. -/
def candidates (signals : Dict) : List EvidenceTier :=
  let proof := proofInputsFromSignals signals
  [EvidenceTier.observedOnly] ++
    (if proof.hasListenerCorrelationOnly ∨ "listener_on_proxy_port" ∈ signals.keys ∨
        "listener_process_name" ∈ signals.keys then [EvidenceTier.correlated] else []) ++
    (if proof.hasPathValidation then [EvidenceTier.provenNetworkImpact] else []) ++
    (if proof.hasRegistryWriterTelemetry then [EvidenceTier.provenRegistryWriter] else []) ++
    (if proof.hasRegistryWriterTelemetry ∧ proof.hasPathValidation then
      if proof.hasProcessLineage ∧ proof.hasTimestampAlignment then
        [EvidenceTier.finalCausation]
      else []
    else [])

/-- `EvidenceStateMachine.apply_signals` of a machine at a tier. -/
def applySignals (tier : EvidenceTier) (signals : Dict) : EvidenceTier :=
  (candidates signals).foldl
    (fun tier candidate => (propose tier candidate (proofInputsFromSignals signals)).1) tier

/-- A call on a machine. -/
inductive TierCall where
  | propose (proposed : EvidenceTier) (proof : ProofInputs)
  | applySignals (signals : Dict)

/-- The proof of a call. -/
def TierCall.proof : TierCall → ProofInputs
  | .propose _ proof => proof
  | .applySignals signals => proofInputsFromSignals signals

def TierCall.perform (tier : EvidenceTier) : TierCall → EvidenceTier
  | .propose proposed proof => (Policy.propose tier proposed proof).1
  | .applySignals signals => Policy.applySignals tier signals

/-- The tier after some calls. -/
def runCalls (tier : EvidenceTier) (calls : List TierCall) : EvidenceTier :=
  calls.foldl TierCall.perform tier

/-! ## Grants -/

theorem tierRank_injective : Function.Injective tierRank := by
  intro a b h
  revert h
  cases a <;> cases b <;> decide

/-- The order of the tiers is that of their ranks. -/
instance : LinearOrder EvidenceTier := LinearOrder.lift' tierRank tierRank_injective

theorem tier_le_iff {a b : EvidenceTier} : a ≤ b ↔ tierRank a ≤ tierRank b := Iff.rfl

/-- All four proofs, and nobody forces the tier. -/
def ProofInputs.Full (proof : ProofInputs) : Prop :=
  proof.hasRegistryWriterTelemetry = true ∧ proof.hasProcessLineage = true ∧
    proof.hasTimestampAlignment = true ∧ proof.hasPathValidation = true ∧
    proof.manualTierOverride = false

instance (proof : ProofInputs) : Decidable proof.Full := inferInstanceAs (Decidable (_ ∧ _))

/-- The guard of a tier, whatever the tier before it. -/
def Grants (proof : ProofInputs) : EvidenceTier → Prop
  | .observedOnly | .correlated => True
  | .provenNetworkImpact => proof.hasPathValidation = true
  | .provenRegistryWriter => proof.hasRegistryWriterTelemetry = true
  | .finalCausation => proof.Full

instance (proof : ProofInputs) : DecidablePred (Grants proof)
  | .observedOnly | .correlated => .isTrue trivial
  | .provenNetworkImpact | .provenRegistryWriter => inferInstanceAs (Decidable (_ = true))
  | .finalCausation => inferInstanceAs (Decidable proof.Full)

/-- What is no upgrade is at most allowed to change nothing. -/
theorem validateTierUpgrade_of_le {tier proposed : EvidenceTier} {proof : ProofInputs}
    (hle : proposed ≤ tier) (h : (validateTierUpgrade tier proposed proof).1 = true) :
    proposed = tier := by
  unfold validateTierUpgrade at h
  split at h
  · exact absurd h (by simp)
  · rw [if_pos (tier_le_iff.mp hle)] at h
    exact of_decide_eq_true h

/-- An upgrade is allowed by the guard of the new tier. -/
theorem validateTierUpgrade_of_lt {tier proposed : EvidenceTier} (hlt : tier < proposed)
    (proof : ProofInputs) :
    (validateTierUpgrade tier proposed proof).1 = true ↔ Grants proof proposed := by
  have hrank : ¬ tierRank proposed ≤ tierRank tier := fun hle => absurd hlt (not_lt.mpr hle)
  unfold validateTierUpgrade
  rw [if_neg hrank]
  cases proposed with
  | observedOnly => exact absurd (Nat.zero_le (tierRank tier)) hrank
  | correlated => simp [Grants]
  | provenRegistryWriter => simp [Grants]
  | provenNetworkImpact => simp [Grants]
  | finalCausation =>
    cases hmanual : proof.manualTierOverride with
    | true => simp [Grants, ProofInputs.Full, hmanual]
    | false =>
      rw [if_neg (by simp)]
      dsimp only
      split
      · rename_i hall
        simpa [Grants, ProofInputs.Full, hmanual, and_assoc] using hall
      · rename_i hall
        simpa [Grants, ProofInputs.Full, hmanual, and_assoc] using hall

/-- A proposal raises the tier to what it grants. -/
theorem propose_tier (tier proposed : EvidenceTier) (proof : ProofInputs) :
    (propose tier proposed proof).1 = if Grants proof proposed then max tier proposed else tier := by
  unfold propose
  rcases le_or_gt proposed tier with hle | hlt
  · have hstays : ¬ ((validateTierUpgrade tier proposed proof).1 = true ∧ proposed ≠ tier) :=
      fun ⟨hallowed, hne⟩ => hne (validateTierUpgrade_of_le hle hallowed)
    rw [max_eq_left hle, ite_self]
    exact if_neg hstays
  · have hne : proposed ≠ tier := hlt.ne'
    simp only [validateTierUpgrade_of_lt hlt, hne, ne_eq, not_false_eq_true, and_true,
      max_eq_right hlt.le]

/-- The tiers a call proposes. -/
def TierCall.proposals : TierCall → List EvidenceTier
  | .propose proposed _ => [proposed]
  | .applySignals signals => candidates signals

/-- The tiers a call grants. -/
def TierCall.granted (call : TierCall) : List EvidenceTier :=
  call.proposals.filter (Grants call.proof)

theorem foldl_propose (proof : ProofInputs) (proposals : List EvidenceTier) (tier : EvidenceTier) :
    proposals.foldl (fun tier proposed => (propose tier proposed proof).1) tier =
      highWater tier (proposals.filter (Grants proof)) := by
  induction proposals generalizing tier with
  | nil => rfl
  | cons proposed proposals ih =>
    rw [List.foldl_cons, ih, propose_tier, List.filter_cons]
    by_cases hgrants : Grants proof proposed
    · rw [if_pos hgrants, if_pos (decide_eq_true hgrants)]
      rfl
    · rw [if_neg hgrants, if_neg (by simpa using hgrants)]

theorem TierCall.perform_eq_highWater (tier : EvidenceTier) (call : TierCall) :
    call.perform tier = highWater tier call.granted := by
  cases call with
  | propose proposed proof => exact foldl_propose proof [proposed] tier
  | applySignals signals => exact foldl_propose _ (candidates signals) tier

/-- The machine is the high-water mark of what was granted. -/
theorem runCalls_eq_highWater (tier : EvidenceTier) (calls : List TierCall) :
    runCalls tier calls = highWater tier (calls.flatMap TierCall.granted) := by
  induction calls generalizing tier with
  | nil => rfl
  | cons call calls ih =>
    have hstep : runCalls tier (call :: calls) = runCalls (call.perform tier) calls := rfl
    rw [hstep, ih, call.perform_eq_highWater, List.flatMap_cons, highWater_append]

/-! ## Runs -/

theorem runCalls_append (tier : EvidenceTier) (calls more : List TierCall) :
    runCalls tier (calls ++ more) = runCalls (runCalls tier calls) more :=
  List.foldl_append

/-- The calls that apply signals. -/
def signalCalls (dicts : List Dict) : List TierCall := dicts.map .applySignals

/-- The tier never goes down; the highest tier rests on one call with a full proof; and of
several dicts of signals neither the order nor a repetition matters. -/
theorem tierMachine_sound (calls : List TierCall) :
    (∀ n, tierRank (runCalls .observedOnly (calls.take n)) ≤
      tierRank (runCalls .observedOnly (calls.take (n + 1)))) ∧
    (runCalls .observedOnly calls = .finalCausation → ∃ call ∈ calls, call.proof.Full) ∧
    ∀ (tier : EvidenceTier) (dicts dicts' : List Dict), (∀ d, d ∈ dicts ↔ d ∈ dicts') →
      runCalls tier (signalCalls dicts) = runCalls tier (signalCalls dicts') := by
  refine ⟨fun n => ?_, fun hfinal => ?_, fun tier dicts dicts' hsame => ?_⟩
  · rw [List.take_add_one, runCalls_append, ← tier_le_iff]
    rw [runCalls_eq_highWater (runCalls .observedOnly (calls.take n))]
    exact le_highWater _ _
  · rw [runCalls_eq_highWater] at hfinal
    have hmem := highWater_mem .observedOnly (calls.flatMap TierCall.granted)
    rw [hfinal] at hmem
    rcases hmem with hstart | hmem
    · exact absurd hstart (by decide)
    · obtain ⟨call, hcall, hgranted⟩ := List.mem_flatMap.mp hmem
      have hgrants : Grants call.proof .finalCausation :=
        of_decide_eq_true (List.mem_filter.mp hgranted).2
      exact ⟨call, hcall, hgrants⟩
  · rw [runCalls_eq_highWater, runCalls_eq_highWater]
    apply highWater_congr
    intro level
    simp only [signalCalls, List.mem_flatMap, List.mem_map, exists_exists_and_eq_and, hsame]

/-- A writer was seen, with everything that proves it. -/
def writerSeen : Dict :=
  [("sysmon_event_13", .bool true), ("process_lineage", .bool true),
    ("timestamp_alignment", .bool true), ("path_validated", .bool true)]

/-- Something listens on the port. -/
def listenerSeen : Dict := [("listener_on_proxy_port", .bool true)]

theorem tierMachine_sound_twoDicts :
    runCalls .observedOnly (signalCalls [listenerSeen, writerSeen, listenerSeen]) =
        runCalls .observedOnly (signalCalls [writerSeen, listenerSeen]) ∧
      runCalls .observedOnly (signalCalls [writerSeen, listenerSeen]) = .finalCausation :=
  ⟨(tierMachine_sound []).2.2 .observedOnly [listenerSeen, writerSeen, listenerSeen]
    [writerSeen, listenerSeen] (by simp [or_comm]), by decide +kernel⟩

end Policy
