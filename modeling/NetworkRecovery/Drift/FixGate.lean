import NetworkRecovery.Drift.FixOutcome

/-!
# Who calls the fix, and what it takes

Two gates stand in front of the registry. `run_dead_proxy_guardian_once` calls `apply_proxy_fix`
only for an enabled local proxy, with the phrase that belongs to what it found, and writes one row
of its log whatever it decides (`guardian_calls_fix_iff`).

`apply_proxy_fix` has a gate of its own: it announces the phrase it wants, compares it, and hands
it on to `validate_action_confirmation`, which compares again, with the phrase of the allowlist.
The two are one phrase only without `clear_pac`. With it the announced phrase is refused behind the
gate it has just opened (`confirmationGate_iff`).
-/

namespace ProxyDrift

open Python Interaction
open ProxyGuard (ProxyRegistrySnapshot parseProxyServer)

/-! ## What a trace shows -/

/-- The `dry_run` of a call of `apply_proxy_fix`. -/
def Request.fixCall : Request → Option Bool
  | .proxyFix dryRun => some dryRun
  | _ => none

/-- A row of the guardian's log. -/
def Request.logRow : Request → Option (String × GuardianResult)
  | .guardianRow event row => some (event, row)
  | _ => none

/-- A command of `apply_mutations`. -/
def Request.regCommand : Request → Option RegCommand
  | .reg command => some command
  | _ => none

/-- The requests that change the registry. -/
def Request.writes : Request → Bool
  | .reg _ | .setConnection _ _ => true
  | _ => false

/-- The calls of `apply_proxy_fix` in a trace, by their `dry_run`. -/
def fixCalls (trace : List (Event Answer)) : List Bool := requested Request.fixCall trace

/-- The rows of the guardian's log in a trace. -/
def logRows (trace : List (Event Answer)) : List (String × GuardianResult) :=
  requested Request.logRow trace

/-- The `reg` commands in a trace. -/
def regCommands (trace : List (Event Answer)) : List RegCommand :=
  requested Request.regCommand trace

theorem Tidies.fixCall {r : Request} (h : Tidies r) : r.fixCall = none := by
  cases r <;> first | rfl | exact absurd h (by simp [Tidies, Request.tidies, Request.looks])

theorem Tidies.logRow {r : Request} (h : Tidies r) : r.logRow = none := by
  cases r <;> first | rfl | exact absurd h (by simp [Tidies, Request.tidies, Request.looks])

theorem Tidies.regCommand {r : Request} (h : Tidies r) : r.regCommand = none := by
  cases r <;> first | rfl | exact absurd h (by simp [Tidies, Request.tidies, Request.looks])

/-! ## The fix -/

/-- A request of the fix behind its read of the registry. -/
def Fixes (r : Request) : Prop := Tidies r ∨ ∃ command, r = .reg command

theorem Fixes.fixCall {r : Request} (h : Fixes r) : r.fixCall = none := by
  rcases h with h | ⟨command, rfl⟩
  · exact h.fixCall
  · rfl

theorem Fixes.logRow {r : Request} (h : Fixes r) : r.logRow = none := by
  rcases h with h | ⟨command, rfl⟩
  · exact h.logRow
  · rfl

theorem withCustody_tidies (event : String) (confirmationSupplied : Bool) (payload : FixPayload) :
    Asks Tidies (withCustody event confirmationSupplied payload) := ⟨rfl, fun _ => trivial⟩

theorem applyMutations_fixes (commands : List RegCommand) :
    Asks Fixes (applyMutations false commands) :=
  asks_applyMutations fun command _ => .inr ⟨command, rfl⟩

theorem mutateProxy_fixes (reg : ProxyRegistrySnapshot) (clearPac : Bool) :
    Asks Fixes (mutateProxy reg clearPac) := by
  apply (applyMutations_fixes _).bind
  exact fun _ => (finishFix_tidies reg clearPac).mono fun _ => .inl

theorem decideFix_fixes (dryRun : Bool) (confirm : String) (clearPac : Bool)
    (reg : ProxyRegistrySnapshot) : Asks Fixes (decideFix dryRun confirm clearPac reg) := by
  have hcustody : ∀ event supplied payload,
      Asks Fixes (withCustody event supplied payload) := fun event supplied payload =>
    (withCustody_tidies event supplied payload).mono fun _ => .inl
  unfold decideFix
  dsimp only
  split
  · exact hcustody _ _ _
  · split
    · exact hcustody _ _ _
    · split
      · split
        · trivial
        · exact mutateProxy_fixes reg clearPac
      · trivial

/-- A call of the fix is one call. -/
theorem applyProxyFix_fixCalls (env : Nat → Tick) (dryRun : Bool) (confirm : String)
    (clearPac : Bool) (w : World) :
    fixCalls (runOn env (applyProxyFix dryRun confirm clearPac) w).trace = [dryRun] := by
  have hread : fixCalls (runOn env (readForFix dryRun) w).trace = [dryRun] := rfl
  have hdecide := fun reg => Asks.requested_eq_nil
    ((decideFix_fixes dryRun confirm clearPac reg).mono fun _ => Fixes.fixCall) (answer env)
    (runOn env (readForFix dryRun) w).state
  rw [applyProxyFix, runOn, trace_bind, fixCalls, requested_append, hdecide, List.append_nil]
  exact hread

/-- The fix does not write to the guardian's log. -/
theorem applyProxyFix_logRows (env : Nat → Tick) (dryRun : Bool) (confirm : String)
    (clearPac : Bool) (w : World) :
    logRows (runOn env (applyProxyFix dryRun confirm clearPac) w).trace = [] := by
  have hread : logRows (runOn env (readForFix dryRun) w).trace = [] := rfl
  have hdecide := fun reg => Asks.requested_eq_nil
    ((decideFix_fixes dryRun confirm clearPac reg).mono fun _ => Fixes.logRow) (answer env)
    (runOn env (readForFix dryRun) w).state
  rw [applyProxyFix, runOn, trace_bind, logRows, requested_append, hdecide, List.append_nil]
  exact hread

/-! ## The guardian -/

/-- The path has been probed: the proxy did not answer, and it is known whether a direct request
does. -/
def ProbeFailed (path : Dict) : Prop :=
  path.get? "proxy_probe_ok" = some (.bool false) ∧
    ∃ direct, path.get? "direct_probe_ok" = some direct ∧ direct ≠ .none

theorem not_probeFailed_nil : ¬ ProbeFailed [] := by
  rintro ⟨h, -⟩
  cases h

/-- What must be the case for the guardian to call the fix, of its arguments and of what it has
seen: the registry, the listener and the probe of the path. -/
structure GuardianFlags.Opens (flags : GuardianFlags) (look : Look) : Prop where
  live : flags.dryRun = false
  enabled : look.reg.proxyEnable = some 1
  localhost : (parseProxyServer look.reg.proxyServer).isLocalhostProxy = true
  port : ∃ port, (parseProxyServer look.reg.proxyServer).localhostPort = some port ∧ port ≠ 0
  confirmed :
    (look.listener = false ∧ flags.confirm = "CLEAR_DEAD_LOCALHOST_PROXY") ∨
    (look.listener = true ∧
      (flags.holdDirect = true ∨ (flags.clearBroken = true ∧ ProbeFailed look.path)) ∧
      flags.confirmBroken = "PREFER_DIRECT_WININET")

theorem brokenPath_iff (path : Dict) : brokenPath path = true ↔ ProbeFailed path := by
  have hproxy : boolField path "proxy_probe_ok" = some false ↔
      path.get? "proxy_probe_ok" = some (.bool false) := by
    unfold boolField
    split
    · rename_i b h
      simp [h]
    · rename_i h
      simpa using h false
  unfold brokenPath ProbeFailed
  rw [Bool.and_eq_true, beq_iff_eq, hproxy]
  refine and_congr_right fun _ => ?_
  split
  · rename_i h
    simp [h]
  · rename_i h
    simp [h]
  · rename_i direct hnone h
    have hdirect : direct ≠ .none := fun hd => hnone hd
    simp [h, hdirect]

theorem lookAtPath_broken_iff (env : Nat → Tick) (flags : GuardianFlags)
    (reg : ProxyRegistrySnapshot) (listener : Bool) (w : World) :
    let seen := (runOn env (lookAtPath flags reg listener) w).value
    seen.1 = true ↔ flags.clearBroken = true ∧ ProbeFailed seen.2 := by
  dsimp only
  unfold lookAtPath
  dsimp only
  split
  · rename_i hclear
    rw [hclear]
    unfold assessBroken
    split
    · split
      · rw [runOn, value_bind, exec_pure]
        simpa using brokenPath_iff _
      · exact iff_of_false Bool.false_ne_true fun h => not_probeFailed_nil h.2
    · exact iff_of_false Bool.false_ne_true fun h => not_probeFailed_nil h.2
  · rename_i hclear
    exact iff_of_false Bool.false_ne_true fun h => hclear h.1

theorem guardianLook_broken_iff (env : Nat → Tick) (flags : GuardianFlags) (w : World) :
    let look := (runOn env (guardianLook flags) w).value
    look.broken = true ↔ flags.clearBroken = true ∧ ProbeFailed look.path := by
  dsimp only
  unfold guardianLook lookFurther
  simp only [runOn, value_bind, exec_pure]
  exact lookAtPath_broken_iff env flags _ _ _

theorem Look.localhostEnabled_iff (look : Look) :
    look.localhostEnabled = true ↔ look.reg.proxyEnable = some 1 ∧
      (parseProxyServer look.reg.proxyServer).isLocalhostProxy = true ∧
      ∃ port, (parseProxyServer look.reg.proxyServer).localhostPort = some port ∧ port ≠ 0 := by
  have hport : look.port.isSome = true ↔
      ∃ port, (parseProxyServer look.reg.proxyServer).localhostPort = some port ∧ port ≠ 0 := by
    simp [Look.port, Look.parsed, Option.any_eq_true]
  rw [Look.localhostEnabled, Bool.and_eq_true, Bool.and_eq_true, hport, Look.enabled,
    isEnabled_iff, and_assoc]
  rfl

/-- The guardian's own gate, for what it has seen. -/
theorem gate_iff_opens (env : Nat → Tick) (flags : GuardianFlags) (w : World) :
    let look := (runOn env (guardianLook flags) w).value
    flags.Gate look ↔ flags.Opens look := by
  have hbroken := guardianLook_broken_iff env flags w
  dsimp only at hbroken ⊢
  unfold GuardianFlags.Gate
  rw [Look.localhostEnabled_iff, hbroken]
  constructor
  · rintro ⟨hlive, ⟨henabled, hlocal, hport⟩, hconfirmed⟩
    exact ⟨hlive, henabled, hlocal, hport, hconfirmed⟩
  · rintro ⟨hlive, henabled, hlocal, hport, hconfirmed⟩
    exact ⟨hlive, ⟨henabled, hlocal, hport⟩, hconfirmed⟩

theorem guardianLook_fixCalls (env : Nat → Tick) (flags : GuardianFlags) (w : World) :
    fixCalls (runOn env (guardianLook flags) w).trace = [] :=
  ((guardianLook_looks flags).mono fun _ h => h.tidies.fixCall).requested_eq_nil (answer env) w

theorem guardianLook_logRows (env : Nat → Tick) (flags : GuardianFlags) (w : World) :
    logRows (runOn env (guardianLook flags) w).trace = [] :=
  ((guardianLook_looks flags).mono fun _ h => h.tidies.logRow).requested_eq_nil (answer env) w

/-- The guardian calls the fix for good exactly through its gate, and leaves one row. -/
theorem guardian_calls_fix_iff (env : Nat → Tick) (flags : GuardianFlags) (w : World) :
    let look := (runOn env (guardianLook flags) w).value
    let trace := (runOn env (runDeadProxyGuardianOnce flags) w).trace
    (false ∈ fixCalls trace ↔ flags.Opens look) ∧ (logRows trace).length = 1 := by
  dsimp only
  have hcalls := guardianLook_fixCalls env flags w
  have hrows := guardianLook_logRows env flags w
  have hopens := gate_iff_opens env flags w
  dsimp only at hopens
  rw [← hopens, runDeadProxyGuardianOnce, runOn, trace_bind, fixCalls, logRows,
    requested_append, requested_append]
  rw [fixCalls] at hcalls
  rw [logRows] at hrows
  rw [hcalls, hrows, List.nil_append, List.nil_append]
  by_cases hgate : flags.Gate (runOn env (guardianLook flags) w).value
  · obtain ⟨finding, hact⟩ := guardianAct_gate hgate
    have hfix := applyProxyFix_fixCalls env false confirmationPhrase false
      (runOn env (guardianLook flags) w).state
    have hlog := applyProxyFix_logRows env false confirmationPhrase false
      (runOn env (guardianLook flags) w).state
    rw [fixCalls] at hfix
    rw [logRows] at hlog
    rw [hact, trace_bind, requested_append, requested_append, hfix, hlog]
    exact ⟨⟨fun _ => hgate, fun _ => List.mem_cons_self⟩, rfl⟩
  · obtain ⟨event, row, hact, -⟩ := guardianAct_idle (guardianLook_sound env flags w) hgate
    rw [hact]
    exact ⟨⟨fun h => absurd h List.not_mem_nil, fun h => absurd h hgate⟩, rfl⟩

/-! ## The confirmation -/

/-- The fix reports to have acted, and has run the commands of its plan. -/
def Applies (clearPac : Bool) (o : Outcome Answer World FixPayload) : Prop :=
  o.value.actionAllowed = true ∧ regCommands o.trace = o.value.planned clearPac

/-- The phrase that is announced as required is the one that is accepted, and without it the
registry stays as it is. -/
structure ConfirmationGate (confirm : String) (clearPac : Bool) (w : World)
    (o : Outcome Answer World FixPayload) : Prop where
  applies_iff : Applies clearPac o ↔ confirm = requiredConfirm clearPac
  unchanged : ¬ Applies clearPac o → (∀ e ∈ o.trace, e.1.writes = false) ∧
    o.state.registry = w.registry ∧ o.state.connections = w.connections

theorem regCommands_applyMutations (env : Nat → Tick) (commands : List RegCommand) (w : World) :
    regCommands (runOn env (applyMutations false commands) w).trace = commands := by
  induction commands generalizing w with
  | nil => rfl
  | cons command rest ih =>
    have hrest := ih (answer env w (.reg command)).2
    rw [trace_applyMutations, regCommands, requested, List.filterMap_cons]
    exact congrArg (command :: ·) hrest

/-- With the phrase, and without the PAC, the fix applies its plan. -/
theorem applies_of_confirmed (env : Nat → Tick) (w : World) :
    Applies false (runOn env (applyProxyFix false confirmationPhrase false) w) := by
  refine ⟨applyProxyFix_allowed env w, ?_⟩
  have hread : regCommands (runOn env (readForFix false) w).trace = [] := rfl
  have hfinish := fun reg => Asks.requested_eq_nil
    ((finishFix_tidies reg false).mono fun _ => Tidies.regCommand) (answer env)
  rw [applyProxyFix_planned, applyProxyFix_live, runOn, trace_bind, mutateProxy, trace_bind,
    regCommands, requested_append, requested_append, hfinish, List.append_nil]
  rw [regCommands] at hread
  rw [hread, List.nil_append]
  exact regCommands_applyMutations env _ _

/-- A fix that is refused writes nothing. -/
theorem decideFix_refused {confirm : String} {clearPac : Bool}
    (h : clearPac = true ∨ confirm ≠ confirmationPhrase) (reg : ProxyRegistrySnapshot) :
    Asks (fun r => r.writes = false) (decideFix false confirm clearPac reg) := by
  obtain ⟨text, hblocked | hblocked⟩ := decideFix_blocked h reg
  · rw [hblocked]
    exact ⟨rfl, fun _ => trivial⟩
  · rw [hblocked]
    trivial

theorem applyProxyFix_refused {confirm : String} {clearPac : Bool}
    (h : clearPac = true ∨ confirm ≠ confirmationPhrase) :
    Asks (fun r => r.writes = false) (applyProxyFix false confirm clearPac) := by
  have hread : Asks (fun r => r.writes = false) (readForFix false) :=
    ⟨rfl, fun _ => ⟨rfl, fun _ => ⟨rfl, fun _ => ⟨rfl, fun _ => ⟨rfl, fun _ => ⟨rfl, fun _ =>
      trivial⟩⟩⟩⟩⟩⟩
  exact hread.bind fun reg => decideFix_refused h reg

theorem not_applies_of_refused (env : Nat → Tick) {confirm : String} {clearPac : Bool}
    (h : clearPac = true ∨ confirm ≠ confirmationPhrase) (w : World) :
    ¬ Applies clearPac (runOn env (applyProxyFix false confirm clearPac) w) := by
  rintro ⟨hallowed, -⟩
  rw [applyProxyFix_blocked env h w] at hallowed
  exact absurd hallowed Bool.false_ne_true

section Alone

variable (probes : Nat → Probe) (answered : Nat → Bool)

theorem answer_alone {w : World} {r : Request} (h : r.writes = false) :
    (answer (alone probes answered) w r).2.registry = w.registry ∧
      (answer (alone probes answered) w r).2.connections = w.connections := by
  cases r with
  | reg command => exact absurd h (by simp [Request.writes])
  | setConnection name bytes => exact absurd h (by simp [Request.writes])
  | _ => exact ⟨rfl, rfl⟩

/-- A refused fix leaves the registry as it was. -/
theorem unchanged_of_refused {confirm : String} {clearPac : Bool}
    (h : clearPac = true ∨ confirm ≠ confirmationPhrase) (w : World) :
    let o := runOn (alone probes answered) (applyProxyFix false confirm clearPac) w
    (∀ e ∈ o.trace, e.1.writes = false) ∧ o.state.registry = w.registry ∧
      o.state.connections = w.connections := by
  have hasks := applyProxyFix_refused h
  refine ⟨fun e he => hasks.mem_trace he, ?_⟩
  refine hasks.keeps
    (I := fun v : World => v.registry = w.registry ∧ v.connections = w.connections) ?_ ⟨rfl, rfl⟩
  intro v r hr hv
  obtain ⟨hregistry, hconnections⟩ := answer_alone probes answered (w := v) hr
  exact ⟨hregistry.trans hv.1, hconnections.trans hv.2⟩

/-- The gate of the fix accepts the phrase it announces exactly if that is not the one for the
PAC. -/
theorem confirmationGate_iff (confirm : String) (clearPac : Bool) (w : World) :
    ConfirmationGate confirm clearPac w
        (runOn (alone probes answered) (applyProxyFix false confirm clearPac) w) ↔
      (clearPac = true → confirm ≠ confirmClearPac) := by
  constructor
  · rintro hgate rfl rfl
    exact not_applies_of_refused _ (.inl rfl) w (hgate.applies_iff.mpr rfl)
  · intro h
    by_cases hrefused : clearPac = true ∨ confirm ≠ confirmationPhrase
    · have hnot := not_applies_of_refused (alone probes answered) hrefused w
      have hconfirm : confirm ≠ requiredConfirm clearPac := by
        cases clearPac with
        | true => exact h rfl
        | false => exact hrefused.resolve_left Bool.false_ne_true
      exact ⟨iff_of_false hnot hconfirm, fun _ => unchanged_of_refused probes answered hrefused w⟩
    · obtain ⟨hpac, hconfirm⟩ := not_or.mp hrefused
      obtain rfl : clearPac = false := Bool.eq_false_iff.mpr hpac
      obtain rfl : confirm = confirmationPhrase := not_not.mp hconfirm
      have happlies := applies_of_confirmed (alone probes answered) w
      exact ⟨iff_of_true happlies rfl, fun hnot => absurd happlies hnot⟩

end Alone

/-- The announced phrase, refused. -/
theorem clearPac_phrase_refused :
    let o := runOn (alone (fun _ => {}) fun _ => true) (applyProxyFix false confirmClearPac true)
      deadProxy
    ¬ ConfirmationGate confirmClearPac true deadProxy o ∧ o.value.reason = "confirmation_mismatch" ∧
      requiredConfirm true = confirmClearPac := by
  refine ⟨fun hgate => ?_, by decide +kernel, rfl⟩
  exact not_applies_of_refused _ (.inl rfl) deadProxy (hgate.applies_iff.mpr rfl)

end ProxyDrift
