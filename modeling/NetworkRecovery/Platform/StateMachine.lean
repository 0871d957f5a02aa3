import Mathlib.Data.List.Nodup
import NetworkRecovery.Lib.Trails
import NetworkRecovery.Python.Builtins
import NetworkRecovery.Python.Float

/-!
# The canonical state machine

`platform_core/state_machine.py`: the transitions of a scenario, projected onto five
states. The rules fire first and the scenario after them; what is emitted is a trail from
`NORMAL` to the state the loops end in (`inferLoop_trail`). Of the transitions with the
same states and the same rule only the first is then kept, and the path that is left is
connected exactly where each stretch of repetitions comes back to where it began
(`inferCanonicalTransitions_path_iff`).
-/

namespace Platform

open Python Trails
open scoped List

/-- `CanonicalState`. -/
inductive CanonicalState where
  | normal
  | suspicious
  | degraded
  | broken
  | recovering
  deriving DecidableEq

/-- `SCENARIO_TO_CANONICAL`. -/
def scenarioToCanonical : List (String × CanonicalState) :=
  [("healthy_browser_path", .normal), ("proxy_drift_detected", .suspicious),
    ("browser_path_failure_suspected", .degraded), ("proxy_path_failure_confirmed", .broken),
    ("remediation_preview_ready", .broken), ("resolved", .recovering), ("unresolved", .broken)]

/-- `map_scenario_state`. -/
def mapScenarioState (scenarioState : String) : CanonicalState :=
  (scenarioToCanonical.lookup scenarioState).getD .suspicious

/-! ## Rules -/

/-- An entry of `CANONICAL_TRANSITION_RULES`. -/
structure CanonicalRule where
  ruleId : String
  fromState : CanonicalState
  toState : CanonicalState
  triggerEvents : List String := []
  triggerSignals : List String := []
  confidence : FloatVal

/-- `CANONICAL_TRANSITION_RULES`. -/
def canonicalTransitionRules : List CanonicalRule :=
  [{ ruleId := "canonical_proxy_drift"
     fromState := .normal
     toState := .suspicious
     triggerEvents := ["wininet_proxy_changed", "wininet_proxy_enabled", "localhost_proxy_detected"]
     confidence := .ofScientific 72 (-2) },
    { ruleId := "canonical_path_degraded"
      fromState := .suspicious
      toState := .degraded
      triggerEvents :=
        ["ping_ok", "dns_ok", "tcp443_ok", "browser_https_failed", "wininet_proxy_enabled"]
      confidence := .ofScientific 84 (-2) },
    { ruleId := "canonical_path_broken"
      fromState := .degraded
      toState := .broken
      triggerEvents := ["proxy_bypass_succeeded", "proxied_path_failed"]
      confidence := .ofScientific 92 (-2) },
    { ruleId := "canonical_recovering"
      fromState := .broken
      toState := .recovering
      triggerSignals := ["endpoint_health_restored", "proxy_restored"]
      confidence := .ofScientific 88 (-2) },
    { ruleId := "canonical_restored"
      fromState := .recovering
      toState := .normal
      triggerSignals := ["browser_https_ok", "wininet_proxy_disabled"]
      confidence := .ofScientific 90 (-2) }]

/-- `EndpointEvent`, as far as the machine reads it. -/
structure EndpointEvent where
  id : String
  eventType : String

/-- `StateTransition`, as far as the machine reads it. -/
structure StateTransition where
  fromState : String
  toState : String
  eventIds : List String := []
  ruleId : String := ""
  confidence : FloatVal := .zero

/-- `CanonicalStateTransition`, without its id and its time. -/
structure CanonicalStateTransition where
  fromState : CanonicalState
  toState : CanonicalState
  ruleId : String
  scenarioRuleId : String := ""
  eventIds : List String := []
  confidence : FloatVal := .zero
  details : Dict := []

/-- `_has_signal`. -/
def hasSignal (signals : Dict) (name : String) : Bool :=
  match signals.fetch name with
  | .none => false
  | .bool b => b
  | value => value.truthy

/-- `_event_ids_for_types`. -/
def eventIdsForTypes (required : List String) (events : List EndpointEvent) : List String :=
  (events.filter fun event => required.contains event.eventType).map (·.id)

/-- What a rule asks for has been observed. -/
def triggered (rule : CanonicalRule) (events : List EndpointEvent) (signals : Dict) : Bool :=
  (rule.triggerEvents.all fun name => events.any fun event => event.eventType == name) &&
    rule.triggerSignals.all (hasSignal signals)

/-- The state of the inference: where the machine is, and what has been emitted. -/
structure Inference where
  current : CanonicalState := .normal
  canonical : List CanonicalStateTransition := []

/-- A transition is emitted, and the machine is where it leads. -/
def Inference.emit (i : Inference) (transition : CanonicalStateTransition) : Inference :=
  ⟨transition.toState, i.canonical ++ [transition]⟩

/-- The first loop, for one rule. -/
def ruleStep (events : List EndpointEvent) (signals : Dict) (i : Inference) (rule : CanonicalRule) :
    Inference :=
  if triggered rule events signals && i.current == rule.fromState then
    i.emit {
      fromState := rule.fromState
      toState := rule.toState
      ruleId := rule.ruleId
      confidence := rule.confidence
      eventIds := if rule.triggerEvents.isEmpty then [] else eventIdsForTypes rule.triggerEvents events
      details := [("trigger", .str "explicit_rule")] }
  else i

/-- `f"canonical_map_{transition.rule_id or 'scenario'}"`. -/
def mapRuleId (ruleId : String) : String :=
  "canonical_map_" ++ if ruleId = "" then "scenario" else ruleId

/-- The second loop, for one transition of the scenario. -/
def scenarioStep (i : Inference) (transition : StateTransition) : Inference :=
  let mappedFrom := mapScenarioState transition.fromState
  let mappedTo := mapScenarioState transition.toState
  if mappedTo = i.current then i
  else if mappedFrom ≠ i.current ∧ i.canonical ≠ [] then i
  else i.emit {
    fromState := i.current
    toState := mappedTo
    ruleId := mapRuleId transition.ruleId
    scenarioRuleId := transition.ruleId
    confidence := transition.confidence
    eventIds := transition.eventIds
    details := [("scenario_from", .str transition.fromState),
      ("scenario_to", .str transition.toState), ("trigger", .str "scenario_projection")] }

/-- The two loops of `infer_canonical_transitions`. -/
def inferLoop (scenarioTransitions : List StateTransition) (events : List EndpointEvent)
    (signals : Dict) : Inference :=
  scenarioTransitions.foldl scenarioStep
    (canonicalTransitionRules.foldl (ruleStep events signals) {})

/-- The triple that a transition is known by. -/
def CanonicalStateTransition.key (t : CanonicalStateTransition) :
    CanonicalState × CanonicalState × String := (t.fromState, t.toState, t.ruleId)

/-- `_dedupe_canonical_transitions`. -/
def dedupeCanonicalTransitions (transitions : List CanonicalStateTransition) :
    List CanonicalStateTransition := keepFirst CanonicalStateTransition.key [] transitions

/-- `infer_canonical_transitions`. -/
def inferCanonicalTransitions (scenarioTransitions : List StateTransition)
    (events : List EndpointEvent) (signals : Dict) : List CanonicalStateTransition :=
  dedupeCanonicalTransitions (inferLoop scenarioTransitions events signals).canonical

/-- One transition of `canonical_state_path`; the states come last first. -/
def pathStep (path : List CanonicalState) (t : CanonicalStateTransition) : List CanonicalState :=
  if path.head? ≠ some t.toState then t.toState :: path else path

/-- `canonical_state_path`. -/
def canonicalStatePath : List CanonicalStateTransition → List CanonicalState
  | [] => [.normal]
  | t :: ts => ((t :: ts).foldl pathStep [t.fromState]).reverse

/-! ## The loops -/

/-- The transitions are a trail from a state. -/
abbrev Connected (s : CanonicalState) (ts : List CanonicalStateTransition) : Prop :=
  Trail CanonicalStateTransition.fromState CanonicalStateTransition.toState s ts

/-- Where the transitions lead. -/
abbrev leadsTo (s : CanonicalState) (ts : List CanonicalStateTransition) : CanonicalState :=
  endOf CanonicalStateTransition.toState s ts

/-- What the loops keep: a trail from `NORMAL` to the current state, every transition of
which goes somewhere else. -/
structure Inference.Sound (i : Inference) : Prop where
  connected : Connected .normal i.canonical
  ends : leadsTo .normal i.canonical = i.current
  moves : ∀ t ∈ i.canonical, t.fromState ≠ t.toState

theorem Inference.Sound.emit {i : Inference} (h : i.Sound) {t : CanonicalStateTransition}
    (hfrom : t.fromState = i.current) (hmoves : t.fromState ≠ t.toState) : (i.emit t).Sound := by
  refine ⟨trail_concat.mpr ⟨h.connected, hfrom.trans h.ends.symm⟩, endOf_concat _ _, fun u hu => ?_⟩
  obtain hu | hu := List.mem_append.mp hu
  · exact h.moves u hu
  · obtain rfl := List.mem_singleton.mp hu
    exact hmoves

theorem rules_move : ∀ rule ∈ canonicalTransitionRules, rule.fromState ≠ rule.toState := by
  decide

theorem ruleStep_sound {events : List EndpointEvent} {signals : Dict} {i : Inference} (h : i.Sound)
    {rule : CanonicalRule} (hrule : rule ∈ canonicalTransitionRules) :
    (ruleStep events signals i rule).Sound := by
  unfold ruleStep
  split
  next hfires =>
    rw [Bool.and_eq_true, beq_iff_eq] at hfires
    exact h.emit hfires.2.symm (rules_move rule hrule)
  next => exact h

theorem scenarioStep_sound {i : Inference} (h : i.Sound) (transition : StateTransition) :
    (scenarioStep i transition).Sound := by
  unfold scenarioStep
  dsimp only
  split
  next => exact h
  next hmoves =>
    split
    next => exact h
    next => exact h.emit rfl (Ne.symm hmoves)

/-- What is emitted is a trail from `NORMAL` to the state the loops end in. -/
theorem inferLoop_sound (scenarioTransitions : List StateTransition) (events : List EndpointEvent)
    (signals : Dict) : (inferLoop scenarioTransitions events signals).Sound := by
  have hrules : ∀ rules : List CanonicalRule, (∀ rule ∈ rules, rule ∈ canonicalTransitionRules) →
      ∀ i : Inference, i.Sound → (rules.foldl (ruleStep events signals) i).Sound := by
    intro rules
    induction rules with
    | nil => exact fun _ i h => h
    | cons rule rules ih =>
      intro hmem i h
      obtain ⟨hrule, hrest⟩ := List.forall_mem_cons.mp hmem
      exact ih hrest _ (ruleStep_sound h hrule)
  have hscenario : ∀ i : Inference, i.Sound → (scenarioTransitions.foldl scenarioStep i).Sound := by
    induction scenarioTransitions with
    | nil => exact fun i h => h
    | cons transition rest ih => exact fun i h => ih _ (scenarioStep_sound h transition)
  exact hscenario _ (hrules _ (fun rule h => h) _ ⟨trivial, rfl, fun t ht => absurd ht List.not_mem_nil⟩)

/-! ## The path -/

/-- The transitions make a path of the machine, from `NORMAL` to the state that the loops
have ended in. -/
structure IsCanonicalPath (ts : List CanonicalStateTransition) (current : CanonicalState) : Prop where
  connected : Connected .normal ts
  walk : (canonicalStatePath ts).IsChain fun a b => ∃ t ∈ ts, t.fromState = a ∧ t.toState = b
  begins : (canonicalStatePath ts).head? = some .normal
  ends : (canonicalStatePath ts).getLast? = some current

/-- Transitions that go somewhere else are all on the path. -/
theorem foldl_pathStep {s : CanonicalState} {ts : List CanonicalStateTransition}
    (h : Connected s ts) (hmoves : ∀ t ∈ ts, t.fromState ≠ t.toState) (behind : List CanonicalState) :
    ts.foldl pathStep (s :: behind) =
      (ts.map CanonicalStateTransition.toState).reverse ++ s :: behind := by
  induction ts generalizing s behind with
  | nil => rfl
  | cons t ts ih =>
    obtain ⟨rfl, hrest⟩ := h
    obtain ⟨hmove, hmoves⟩ := List.forall_mem_cons.mp hmoves
    have hnew : (t.fromState :: behind).head? ≠ some t.toState :=
      fun heq => hmove (Option.some.inj heq)
    rw [List.foldl_cons, pathStep, if_pos hnew, ih hrest hmoves, List.map_cons, List.reverse_cons,
      List.append_assoc, List.singleton_append]

theorem canonicalStatePath_eq {ts : List CanonicalStateTransition} (h : Connected .normal ts)
    (hmoves : ∀ t ∈ ts, t.fromState ≠ t.toState) :
    canonicalStatePath ts = .normal :: ts.map CanonicalStateTransition.toState := by
  cases ts with
  | nil => rfl
  | cons t ts =>
    have hfrom : t.fromState = .normal := h.1
    rw [canonicalStatePath, hfrom, foldl_pathStep h hmoves, List.reverse_append,
      List.reverse_reverse]
    rfl

/-- Transitions that go somewhere else make a path where they are connected and lead to
the current state. -/
theorem isCanonicalPath_iff {ts : List CanonicalStateTransition} {current : CanonicalState}
    (hmoves : ∀ t ∈ ts, t.fromState ≠ t.toState) :
    IsCanonicalPath ts current ↔ Connected .normal ts ∧ leadsTo .normal ts = current := by
  constructor
  · intro h
    have hends := h.ends
    rw [canonicalStatePath_eq h.connected hmoves, getLast?_map_tgt] at hends
    exact ⟨h.connected, Option.some.inj hends⟩
  · rintro ⟨hconnected, rfl⟩
    have hpath := canonicalStatePath_eq hconnected hmoves
    refine ⟨hconnected, ?_, ?_, ?_⟩
    · rw [hpath]
      exact hconnected.isChain fun t ht => ⟨t, ht, rfl, rfl⟩
    · rw [hpath]
      rfl
    · rw [hpath]
      exact getLast?_map_tgt ts

/-- What is returned makes a path to the state the loops have ended in where each stretch
of repetitions among what they have emitted comes back to where it began. -/
theorem inferCanonicalTransitions_path_iff (scenarioTransitions : List StateTransition)
    (events : List EndpointEvent) (signals : Dict) :
    IsCanonicalPath (inferCanonicalTransitions scenarioTransitions events signals)
        (inferLoop scenarioTransitions events signals).current ↔
      RepeatsReturn CanonicalStateTransition.toState CanonicalStateTransition.key .normal
        (inferLoop scenarioTransitions events signals).canonical := by
  have hsound := inferLoop_sound scenarioTransitions events signals
  have hmoves : ∀ t ∈ inferCanonicalTransitions scenarioTransitions events signals,
      t.fromState ≠ t.toState :=
    fun t ht => hsound.moves t ((keepFirst_sublist _ _).subset ht)
  rw [isCanonicalPath_iff hmoves, ← hsound.ends]
  exact trail_keepFirst_iff hsound.connected

/-! ## Scenarios that repeat no rule -/

/-- A step emits at most one transition, under the given rule. -/
theorem ruleIds_ruleStep (events : List EndpointEvent) (signals : Dict) (i : Inference)
    (rule : CanonicalRule) :
    (ruleStep events signals i rule).canonical.map (·.ruleId) <+
      i.canonical.map (·.ruleId) ++ [rule.ruleId] := by
  unfold ruleStep
  split
  next =>
    rw [Inference.emit, List.map_append]
    exact List.Sublist.refl _
  next => exact List.sublist_append_left _ _

theorem ruleIds_scenarioStep (i : Inference) (transition : StateTransition) :
    (scenarioStep i transition).canonical.map (·.ruleId) <+
      i.canonical.map (·.ruleId) ++ [mapRuleId transition.ruleId] := by
  unfold scenarioStep
  dsimp only
  split
  next => exact List.sublist_append_left _ _
  next =>
    split
    next => exact List.sublist_append_left _ _
    next =>
      rw [Inference.emit, List.map_append]
      exact List.Sublist.refl _

/-- Steps that emit at most one transition each, under the given rules. -/
theorem ruleIds_foldl {α : Type} {step : Inference → α → Inference} {ruleId : α → String}
    (hstep : ∀ i a, (step i a).canonical.map (·.ruleId) <+ i.canonical.map (·.ruleId) ++ [ruleId a])
    (l : List α) (i : Inference) :
    (l.foldl step i).canonical.map (·.ruleId) <+ i.canonical.map (·.ruleId) ++ l.map ruleId := by
  induction l generalizing i with
  | nil =>
    rw [List.map_nil, List.append_nil]
    exact List.Sublist.refl _
  | cons a l ih =>
    have hfirst := (hstep i a).append_right (l.map ruleId)
    rw [List.append_assoc, List.singleton_append] at hfirst
    exact (ih (step i a)).trans hfirst

/-- The rules that can have been applied, each once. -/
theorem ruleIds_inferLoop (scenarioTransitions : List StateTransition) (events : List EndpointEvent)
    (signals : Dict) :
    (inferLoop scenarioTransitions events signals).canonical.map (·.ruleId) <+
      canonicalTransitionRules.map (·.ruleId) ++
        scenarioTransitions.map fun transition => mapRuleId transition.ruleId := by
  have hrules := ruleIds_foldl (ruleIds_ruleStep events signals) canonicalTransitionRules {}
  exact (ruleIds_foldl ruleIds_scenarioStep scenarioTransitions _).trans (hrules.append_right _)

theorem mapRuleId_mark (ruleId : String) :
    (mapRuleId ruleId).toList.take 14 = "canonical_map_".toList := by
  have happend : (mapRuleId ruleId).toList =
      "canonical_map_".toList ++ (if ruleId = "" then "scenario" else ruleId).toList :=
    String.toList_append
  rw [happend]
  exact List.take_left' rfl

/-- A scenario that applies no rule twice makes a path. -/
theorem isCanonicalPath_of_nodup {scenarioTransitions : List StateTransition}
    (h : (scenarioTransitions.map fun transition => mapRuleId transition.ruleId).Nodup)
    (events : List EndpointEvent) (signals : Dict) :
    IsCanonicalPath (inferCanonicalTransitions scenarioTransitions events signals)
      (inferLoop scenarioTransitions events signals).current := by
  have hrules : (canonicalTransitionRules.map (·.ruleId)).Nodup := by decide
  have hmark : ∀ rule ∈ canonicalTransitionRules,
      rule.ruleId.toList.take 14 ≠ "canonical_map_".toList := by decide
  have hall : (canonicalTransitionRules.map (·.ruleId) ++
      scenarioTransitions.map fun transition => mapRuleId transition.ruleId).Nodup := by
    refine List.nodup_append.mpr ⟨hrules, h, ?_⟩
    rintro _ hrule _ hmapped rfl
    obtain ⟨rule, hmem, hid⟩ := List.mem_map.mp hrule
    obtain ⟨transition, -, hid'⟩ := List.mem_map.mp hmapped
    refine hmark rule hmem ?_
    rw [hid, ← hid']
    exact mapRuleId_mark transition.ruleId
  have hkeys : (keys CanonicalStateTransition.key
      (inferLoop scenarioTransitions events signals).canonical).Nodup := by
    refine List.Nodup.of_map (fun key => key.2.2) ?_
    rw [keys, List.map_map]
    exact (ruleIds_inferLoop scenarioTransitions events signals).nodup hall
  exact (inferCanonicalTransitions_path_iff scenarioTransitions events signals).mpr
    (repeatsReturn_of_nodup hkeys)

/-- A drift that comes, goes, comes again and gets worse. -/
def flapping : List StateTransition :=
  [{ fromState := "healthy_browser_path", toState := "proxy_drift_detected", ruleId := "drift" },
    { fromState := "proxy_drift_detected", toState := "healthy_browser_path", ruleId := "clear" },
    { fromState := "healthy_browser_path", toState := "proxy_drift_detected", ruleId := "drift" },
    { fromState := "proxy_drift_detected", toState := "browser_path_failure_suspected",
      ruleId := "worse" }]

/-- The drift that comes again is dropped, and the path with it. -/
theorem flapping_disconnected :
    canonicalStatePath (inferCanonicalTransitions flapping [] []) =
        [.normal, .suspicious, .normal, .degraded] ∧
      ¬ ∀ (scenarioTransitions : List StateTransition) (events : List EndpointEvent) (signals : Dict),
        IsCanonicalPath (inferCanonicalTransitions scenarioTransitions events signals)
          (inferLoop scenarioTransitions events signals).current := by
  refine ⟨by decide +kernel, fun h => ?_⟩
  have hcut : ¬ Connected .normal (inferCanonicalTransitions flapping [] []) := by decide +kernel
  exact hcut (h flapping [] []).connected

end Platform
