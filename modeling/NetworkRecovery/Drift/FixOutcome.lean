import NetworkRecovery.Drift.Guardian

/-!
# What a reported fix has done

`apply_proxy_fix` runs its `reg` commands through `apply_mutations`, which gives back the result of
each, and drops the list: behind the gate the report is `action_allowed`, and the guardian's is
`remediated`, whatever came of the commands. So a report is true exactly when it was not made or
every command of the plan succeeded (`reportedFix_iff`), for any pattern of failures, with queries
that fail as well. The machine is `alone`: nobody else writes, or nothing could be said about what
the registry holds afterwards.

The PAC is never cleared. `clear_pac` asks for one phrase at the front and for another in
`validate_action_confirmation`, so no confirmation passes both (`clearPac_refused`).
-/

namespace ProxyDrift

open Python Interaction
open ProxyGuard (ProxyRegistrySnapshot parseProxyServer)

/-! ## Honest reports -/

/-- A machine nobody else writes to, whose queries and commands may fail. -/
def alone (probes : Nat → Probe) (answered : Nat → Bool) (n : Nat) : Tick :=
  { toProbe := probes n, answered := answered n }

/-- The command was run, and exited with 0. -/
def Succeeded (command : RegCommand) (trace : List (Event Answer)) : Prop :=
  ∃ result : CommandResult, result.succeeded = true ∧ ⟨.reg command, result⟩ ∈ trace

/-- Every planned command succeeded, and the registry shows it. -/
structure Fixed (planned : List RegCommand) (trace : List (Event Answer))
    (after : ProxyRegistrySnapshot) : Prop where
  succeeded : ∀ command ∈ planned, Succeeded command trace
  disabled : after.proxyEnable = some 0
  deleted : ∀ name, .delete name ∈ planned → valueOf after name = none

/-- The commands a fix planned, from the registry it reports to have read. -/
def FixPayload.planned (fix : FixPayload) (clearPac : Bool) : List RegCommand :=
  (buildProxyFixMutations fix.before.proxyServer clearPac).1

/-- What a run of `apply_proxy_fix` reports as applied is. -/
def HonestFix (clearPac : Bool) (o : Outcome Answer World FixPayload) : Prop :=
  o.value.actionAllowed = true → Fixed (o.value.planned clearPac) o.trace o.state.registry

/-- What a run of the guardian reports as remediated is. -/
def HonestGuardian (o : Outcome Answer World GuardianResult) : Prop :=
  o.value.actionTaken = .remediated →
    ∃ fix, o.value.remediation = some fix ∧ Fixed (fix.planned false) o.trace o.state.registry

/-! ## Commands in a row -/

/-- From tick `n` on, each of the commands succeeds. -/
def CommandsSucceed (env : Nat → Tick) (n : Nat) (commands : List RegCommand) : Prop :=
  ∀ i < commands.length, (env (n + i)).command.succeeded = true

theorem commandsSucceed_cons {env : Nat → Tick} {n : Nat} {command : RegCommand}
    {rest : List RegCommand} :
    CommandsSucceed env n (command :: rest) ↔
      (env n).command.succeeded = true ∧ CommandsSucceed env (n + 1) rest := by
  unfold CommandsSucceed
  rw [List.length_cons, Nat.forall_lt_succ_left]
  simp only [Nat.add_zero, Nat.add_assoc, Nat.add_comm 1]

theorem succeeded_append {command : RegCommand} {t t' : List (Event Answer)} :
    Succeeded command (t ++ t') ↔ Succeeded command t ∨ Succeeded command t' := by
  simp only [Succeeded, List.mem_append, and_or_left, exists_or]

theorem succeeded_singleton {command command' : RegCommand} {result : CommandResult} :
    Succeeded command [⟨.reg command', result⟩] ↔
      command = command' ∧ result.succeeded = true := by
  constructor
  · rintro ⟨result', hok, hmem⟩
    obtain ⟨hreg, hresult⟩ := Sigma.mk.inj (List.mem_singleton.mp hmem)
    obtain rfl := Request.reg.inj hreg
    obtain rfl := eq_of_heq hresult
    exact ⟨rfl, hok⟩
  · rintro ⟨rfl, hok⟩
    exact ⟨result, hok, List.mem_singleton.mpr rfl⟩

theorem KeepsValues.not_succeeded {α : Type} (env : Nat → Tick) {p : Repair α}
    (hp : Asks KeepsValues p) (w : World) (command : RegCommand) :
    ¬ Succeeded command (runOn env p w).trace := by
  rintro ⟨result, -, hmem⟩
  exact hp.mem_trace hmem command rfl

/-- A command that is not in the list is not run. -/
theorem not_succeeded_applyMutations (env : Nat → Tick) {command : RegCommand}
    {commands : List RegCommand} (h : command ∉ commands) (w : World) :
    ¬ Succeeded command (runOn env (applyMutations false commands) w).trace := by
  induction commands generalizing w with
  | nil => exact fun ⟨_, _, hmem⟩ => absurd hmem List.not_mem_nil
  | cons c rest ih =>
    rw [List.mem_cons, not_or] at h
    rw [trace_applyMutations, ← List.singleton_append, succeeded_append, succeeded_singleton]
    rintro (⟨heq, -⟩ | hrest)
    · exact h.1 heq
    · exact ih h.2 _ hrest

theorem clock_answer_reg (env : Nat → Tick) (w : World) (command : RegCommand) :
    (answer env w (.reg command)).2.clock = w.clock + 1 := by
  show (if _ then _ else _ : World).clock = _
  split <;> rfl

/-- Commands that are all different succeed when the machine lets each of them. -/
theorem succeeded_applyMutations_iff (env : Nat → Tick) {commands : List RegCommand}
    (hnodup : commands.Nodup) (w : World) :
    (∀ command ∈ commands,
      Succeeded command (runOn env (applyMutations false commands) w).trace) ↔
      CommandsSucceed env w.clock commands := by
  induction commands generalizing w with
  | nil => exact ⟨fun _ i hi => absurd hi (Nat.not_lt_zero i), fun _ _ h => absurd h List.not_mem_nil⟩
  | cons c rest ih =>
    obtain ⟨hc, hrest⟩ := List.nodup_cons.mp hnodup
    have hlater := ih hrest (answer env w (.reg c)).2
    rw [clock_answer_reg] at hlater
    rw [commandsSucceed_cons, List.forall_mem_cons, trace_applyMutations, ← List.singleton_append,
      succeeded_append, succeeded_singleton,
      or_iff_left (not_succeeded_applyMutations env hc _), ← hlater]
    refine and_congr ⟨fun h => h.2, fun h => ⟨rfl, h⟩⟩ ?_
    refine forall₂_congr fun command hcommand => ?_
    rw [succeeded_append, succeeded_singleton, or_iff_right]
    rintro ⟨rfl, -⟩
    exact hc hcommand

/-! ## The registry -/

section Alone

variable (probes : Nat → Probe) (answered : Nat → Bool)

/-- On a machine of its own the tool changes the values by `reg` commands only. -/
theorem KeepsValues.registry {α : Type} {p : Repair α} (hp : Asks KeepsValues p) (w : World) :
    (runOn (alone probes answered) p w).state.registry = w.registry := by
  refine hp.keeps (I := fun v : World => v.registry = w.registry) ?_ rfl
  intro v r hr hv
  cases r with
  | reg command => exact absurd rfl (hr command)
  | setConnection name bytes =>
    rw [← hv]
    unfold answer
    dsimp only
    split <;> rfl
  | _ => exact hv

theorem registry_applyMutations {commands : List RegCommand} {w : World}
    (h : CommandsSucceed (alone probes answered) w.clock commands) :
    (runOn (alone probes answered) (applyMutations false commands) w).state.registry =
      commands.foldl RegCommand.perform w.registry := by
  induction commands generalizing w with
  | nil => rfl
  | cons c rest ih =>
    obtain ⟨hc, hrest⟩ := commandsSucceed_cons.mp h
    have hworld : (answer (alone probes answered) w (.reg c)).2 =
        { w.pass (alone probes answered w.clock) with
          registry := c.perform w.registry } := if_pos hc
    show (runOn (alone probes answered) (applyMutations false rest >>= _) _).state.registry = _
    rw [runOn, state_bind, exec_pure]
    show (runOn (alone probes answered) (applyMutations false rest) _).state.registry = _
    rw [hworld, ih hrest]
    rfl

/-! ## The fix -/

theorem planned_eq (server : Option String) :
    (buildProxyFixMutations server false).1 =
      .disableProxy :: (if clearsServer server then [.delete .proxyServer] else []) := by
  simp [buildProxyFixMutations]

theorem planned_nodup (server : Option String) : (buildProxyFixMutations server false).1.Nodup := by
  rw [planned_eq]
  split <;> simp

/-- The plan, carried out, disables the proxy and deletes what it says. -/
theorem foldl_planned (server : Option String) (reg : ProxyRegistrySnapshot) :
    let after := (buildProxyFixMutations server false).1.foldl RegCommand.perform reg
    after.proxyEnable = some 0 ∧
      ∀ name, .delete name ∈ (buildProxyFixMutations server false).1 → valueOf after name = none := by
  rw [planned_eq]
  split
  · refine ⟨rfl, ?_⟩
    intro name hname
    obtain rfl : name = .proxyServer := by simpa using hname
    rfl
  · exact ⟨rfl, fun name hname => absurd hname (by simp)⟩

/-- The commands of the fix that starts in `w` all succeed: it has read `ProxyServer` two ticks
on, and runs its first command six ticks on. -/
def FixSucceeds (env : Nat → Tick) (w : World) : Prop :=
  CommandsSucceed env (w.clock + 6) (buildProxyFixMutations (w.seen env 2 .proxyServer) false).1

theorem finishFix_allowed (env : Nat → Tick) (reg : ProxyRegistrySnapshot) (clearPac : Bool)
    (w : World) : (runOn env (finishFix reg clearPac) w).value.actionAllowed = true := by
  rw [finishFix, runOn, value_bind, value_bind]
  rfl

/-- Behind its gate the fix reports success. -/
theorem applyProxyFix_allowed (env : Nat → Tick) (w : World) :
    (runOn env (applyProxyFix false confirmationPhrase false) w).value.actionAllowed = true := by
  rw [applyProxyFix_live, runOn, value_bind, mutateProxy, value_bind]
  exact finishFix_allowed env _ false _

theorem applyProxyFix_planned (env : Nat → Tick) (w : World) :
    (runOn env (applyProxyFix false confirmationPhrase false) w).value.planned false =
      (buildProxyFixMutations (w.seen env 2 .proxyServer) false).1 := by
  rw [FixPayload.planned, applyProxyFix_before]

/-- The `reg` commands of a fix are those of its plan, run in a row. -/
theorem applyProxyFix_succeeded (env : Nat → Tick) (w : World) (command : RegCommand) :
    Succeeded command (runOn env (applyProxyFix false confirmationPhrase false) w).trace ↔
      Succeeded command (runOn env (applyMutations false
        (buildProxyFixMutations (w.seen env 2 .proxyServer) false).1)
        (runOn env (readForFix false) w).state).trace := by
  rw [applyProxyFix_live, runOn, trace_bind, succeeded_append,
    or_iff_right (KeepsValues.not_succeeded env (readForFix_keepsValues false) w command),
    mutateProxy, trace_bind, succeeded_append,
    or_iff_left (KeepsValues.not_succeeded env (finishFix_keepsValues _ false) _ command)]
  rfl

theorem applyProxyFix_succeeded_iff (env : Nat → Tick) (w : World) :
    (∀ command ∈ (buildProxyFixMutations (w.seen env 2 .proxyServer) false).1,
      Succeeded command (runOn env (applyProxyFix false confirmationPhrase false) w).trace) ↔
      FixSucceeds env w := by
  rw [forall₂_congr fun command _ => applyProxyFix_succeeded env w command]
  exact succeeded_applyMutations_iff env (planned_nodup _) _

theorem applyProxyFix_registry {w : World} (h : FixSucceeds (alone probes answered) w) :
    (runOn (alone probes answered) (applyProxyFix false confirmationPhrase false) w).state.registry =
      (buildProxyFixMutations (w.seen (alone probes answered) 2 .proxyServer) false).1.foldl
        RegCommand.perform w.registry := by
  rw [applyProxyFix_live, runOn, state_bind, mutateProxy, state_bind]
  refine (KeepsValues.registry probes answered (finishFix_keepsValues _ false) _).trans ?_
  refine (registry_applyMutations probes answered
    (w := (runOn (alone probes answered) (readForFix false) w).state) h).trans ?_
  rw [KeepsValues.registry probes answered (readForFix_keepsValues false) w]

/-- A fix has done what it reports exactly when its commands succeeded. -/
theorem applyProxyFix_fixed_iff (w : World) :
    let fix := runOn (alone probes answered) (applyProxyFix false confirmationPhrase false) w
    Fixed (fix.value.planned false) fix.trace fix.state.registry ↔
      FixSucceeds (alone probes answered) w := by
  dsimp only
  rw [applyProxyFix_planned]
  constructor
  · intro h
    exact (applyProxyFix_succeeded_iff _ w).mp h.succeeded
  · intro h
    obtain ⟨hdisabled, hdeleted⟩ := foldl_planned
      (w.seen (alone probes answered) 2 .proxyServer) w.registry
    rw [← applyProxyFix_registry probes answered h] at hdisabled hdeleted
    exact ⟨(applyProxyFix_succeeded_iff _ w).mpr h, hdisabled, hdeleted⟩

end Alone

/-! ## The gate of the fix -/

/-- What is allowed was confirmed with the phrase of its row. -/
theorem validate_allow {actionId confirmation : String} {fields : List String}
    (h : (validateActionConfirmation actionId false confirmation fields).1 = .allow) :
    ∃ action, allowlist.find? (·.actionId == actionId) = some action ∧
      strip confirmation.toList = action.requiredConfirmation.toList := by
  unfold validateActionConfirmation at h
  split at h
  · cases h
  · rename_i action hfind
    refine ⟨action, hfind, ?_⟩
    by_contra hphrase
    revert h
    split
    · exact nofun
    · split
      · rw [if_neg Bool.false_ne_true]
        split <;> exact nofun
      · exact nofun

/-- The phrase for the PAC is not that of the row, which asks for the one without it. -/
theorem validate_clearPac {fields : List String} :
    (validateActionConfirmation "disable_wininet_proxy" false confirmClearPac fields).1 ≠ .allow := by
  intro hallow
  obtain ⟨action, hfind, hphrase⟩ := validate_allow hallow
  have hrow : (allowlist.find? (·.actionId == "disable_wininet_proxy")).map
      AllowlistedRemediationAction.requiredConfirmation = some confirmationPhrase := rfl
  rw [hfind] at hrow
  rw [Option.some.inj hrow] at hphrase
  exact absurd hphrase (by decide)

/-- A fix of the PAC, or without the phrase, is refused, with or without a custody row. -/
theorem decideFix_blocked {confirm : String} {clearPac : Bool}
    (h : clearPac = true ∨ confirm ≠ confirmationPhrase) (reg : ProxyRegistrySnapshot) :
    ∃ text, decideFix false confirm clearPac reg =
        withCustody "proxy_fix_blocked" false (fixPayload false reg clearPac text) ∨
      decideFix false confirm clearPac reg = pure (fixPayload false reg clearPac text) := by
  unfold decideFix
  dsimp only
  rw [if_neg Bool.false_ne_true]
  split
  · exact ⟨_, .inl rfl⟩
  · next hconfirm =>
    rw [ne_eq, not_not] at hconfirm
    cases clearPac with
    | false => exact absurd hconfirm (h.resolve_left Bool.false_ne_true)
    | true =>
      split
      · next hallow =>
        rw [if_pos rfl, show confirm = confirmClearPac from hconfirm] at hallow
        exact absurd (congrArg Prod.fst hallow) validate_clearPac
      · exact ⟨_, .inr rfl⟩

theorem applyProxyFix_blocked (env : Nat → Tick) {confirm : String} {clearPac : Bool}
    (h : clearPac = true ∨ confirm ≠ confirmationPhrase) (w : World) :
    (runOn env (applyProxyFix false confirm clearPac) w).value.actionAllowed = false := by
  rw [applyProxyFix, runOn, value_bind]
  obtain ⟨text, hblocked | hblocked⟩ :=
    decideFix_blocked h (exec (answer env) (readForFix false) w).value
  · rw [hblocked]
    rfl
  · rw [hblocked]
    rfl

/-- No confirmation clears the PAC. -/
theorem clearPac_refused (env : Nat → Tick) (confirm : String) (w : World) :
    (runOn env (applyProxyFix false confirm true) w).value.actionAllowed = false :=
  applyProxyFix_blocked env (.inl rfl) w

/-! ## Both reports -/

/-- Through its gate the guardian reports, runs and leaves behind what its fix does. -/
theorem guardian_fix (probes : Nat → Probe) (answered : Nat → Bool) {flags : GuardianFlags}
    {w : World}
    (hgate : flags.Gate (runOn (alone probes answered) (guardianLook flags) w).value) :
    let look := runOn (alone probes answered) (guardianLook flags) w
    let fix := runOn (alone probes answered) (applyProxyFix false confirmationPhrase false) look.state
    let o := runOn (alone probes answered) (runDeadProxyGuardianOnce flags) w
    o.value.actionTaken = .remediated ∧ o.value.remediation = some fix.value ∧
      (∀ command, Succeeded command o.trace ↔ Succeeded command fix.trace) ∧
      o.state.registry = fix.state.registry := by
  obtain ⟨finding, hact⟩ := guardianAct_gate hgate
  have hlook := KeepsValues.not_succeeded (alone probes answered)
    (Harmless.keepsValues (guardianLook_harmless flags)) w
  dsimp only
  refine ⟨?_, ?_, fun command => ?_, ?_⟩
  · have hallowed := applyProxyFix_allowed (alone probes answered)
      (runOn (alone probes answered) (guardianLook flags) w).state
    rw [runDeadProxyGuardianOnce, runOn, value_bind, hact, value_bind]
    exact if_pos hallowed
  · rw [runDeadProxyGuardianOnce, runOn, value_bind, hact, value_bind]
    rfl
  · rw [runDeadProxyGuardianOnce, runOn, trace_bind, hact, trace_bind, succeeded_append,
      succeeded_append, or_iff_right (hlook command), or_iff_left]
    exact KeepsValues.not_succeeded _ (record_keepsValues _ _) _ command
  · rw [runDeadProxyGuardianOnce, runOn, state_bind, hact, state_bind]
    exact KeepsValues.registry probes answered (record_keepsValues _ _) _

theorem honestFix_iff (probes : Nat → Probe) (answered : Nat → Bool) (w : World)
    (confirm : String) (clearPac : Bool) :
    HonestFix clearPac (runOn (alone probes answered) (applyProxyFix false confirm clearPac) w) ↔
      (clearPac = false ∧ confirm = confirmationPhrase → FixSucceeds (alone probes answered) w) := by
  cases clearPac with
  | true =>
    refine ⟨fun _ h => absurd h.1 (by simp), fun _ hallowed => ?_⟩
    rw [clearPac_refused] at hallowed
    cases hallowed
  | false =>
    by_cases hconfirm : confirm = confirmationPhrase
    · have hfixed := applyProxyFix_fixed_iff probes answered w
      dsimp only at hfixed
      rw [hconfirm]
      unfold HonestFix
      rw [forall_prop_of_true (applyProxyFix_allowed _ w), hfixed, forall_prop_of_true ⟨rfl, rfl⟩]
    · refine ⟨fun _ h => absurd h.2 hconfirm, fun _ hallowed => ?_⟩
      rw [applyProxyFix_blocked _ (.inr hconfirm)] at hallowed
      cases hallowed

theorem honestGuardian_iff (probes : Nat → Probe) (answered : Nat → Bool) (w : World)
    (flags : GuardianFlags) :
    let look := runOn (alone probes answered) (guardianLook flags) w
    HonestGuardian (runOn (alone probes answered) (runDeadProxyGuardianOnce flags) w) ↔
      (flags.Gate look.value → FixSucceeds (alone probes answered) look.state) := by
  dsimp only
  by_cases hgate : flags.Gate (runOn (alone probes answered) (guardianLook flags) w).value
  · obtain ⟨haction, hremediation, htrace, hregistry⟩ := guardian_fix probes answered hgate
    have hfix := applyProxyFix_fixed_iff probes answered
      (runOn (alone probes answered) (guardianLook flags) w).state
    have hsame : ∀ planned after, Fixed planned
        (runOn (alone probes answered) (runDeadProxyGuardianOnce flags) w).trace after ↔
        Fixed planned (runOn (alone probes answered)
          (applyProxyFix false confirmationPhrase false)
          (runOn (alone probes answered) (guardianLook flags) w).state).trace after := by
      intro planned after
      constructor
      · rintro ⟨hsucceeded, hdisabled, hdeleted⟩
        exact ⟨fun c hc => (htrace c).mp (hsucceeded c hc), hdisabled, hdeleted⟩
      · rintro ⟨hsucceeded, hdisabled, hdeleted⟩
        exact ⟨fun c hc => (htrace c).mpr (hsucceeded c hc), hdisabled, hdeleted⟩
    dsimp only at hfix
    rw [forall_prop_of_true hgate, ← hfix, ← hsame, ← hregistry]
    unfold HonestGuardian
    rw [forall_prop_of_true haction, hremediation]
    constructor
    · rintro ⟨fix, hfixed, h⟩
      obtain rfl := Option.some.inj hfixed
      exact h
    · intro h
      exact ⟨_, rfl, h⟩
  · refine ⟨fun _ h => absurd h hgate, fun _ haction => ?_⟩
    exact absurd haction (guardian_idle hgate).2

/-- For every registry, and whatever comes of every command and query: `apply_proxy_fix` has done
what it reports exactly if it is not confirmed or all its commands succeed, and so has the
guardian, exactly if its gate stays shut or all commands of its fix succeed. -/
theorem reportedFix_iff (probes : Nat → Probe) (answered : Nat → Bool) (w : World) :
    (∀ (confirm : String) (clearPac : Bool),
      HonestFix clearPac (runOn (alone probes answered) (applyProxyFix false confirm clearPac) w) ↔
        (clearPac = false ∧ confirm = confirmationPhrase →
          FixSucceeds (alone probes answered) w)) ∧
    ∀ flags : GuardianFlags,
      let look := runOn (alone probes answered) (guardianLook flags) w
      HonestGuardian (runOn (alone probes answered) (runDeadProxyGuardianOnce flags) w) ↔
        (flags.Gate look.value → FixSucceeds (alone probes answered) look.state) :=
  ⟨honestFix_iff probes answered w, honestGuardian_iff probes answered w⟩

/-- A machine on which `reg` may read and not write. -/
def accessDenied : Nat → Tick :=
  alone (fun _ => { command := .exited 1 "" "ERROR: Access is denied." }) fun _ => true

/-- There the dead proxy stays as it was, and is reported as remediated. -/
theorem deniedFix_reported :
    let fix := runOn accessDenied (applyProxyFix false confirmationPhrase false) deadProxy
    let o := runOn accessDenied (runDeadProxyGuardianOnce clearDead) deadProxy
    ¬ HonestFix false fix ∧ ¬ HonestGuardian o ∧ fix.value.actionAllowed = true ∧
      o.value.actionTaken = .remediated ∧ o.state.registry = deadProxy.registry := by
  dsimp only
  have hfix : (runOn accessDenied (applyProxyFix false confirmationPhrase false)
      deadProxy).state.registry.proxyEnable = some 1 := by decide +kernel
  have hstate : (runOn accessDenied (runDeadProxyGuardianOnce clearDead)
      deadProxy).state.registry = deadProxy.registry := by decide +kernel
  have hallowed := applyProxyFix_allowed accessDenied deadProxy
  have haction : (runOn accessDenied (runDeadProxyGuardianOnce clearDead)
      deadProxy).value.actionTaken = .remediated := by decide +kernel
  refine ⟨fun h => ?_, fun h => ?_, hallowed, haction, hstate⟩
  · have := (h hallowed).disabled
    rw [hfix] at this
    exact absurd this (by decide)
  · obtain ⟨fix, -, hfixed⟩ := h haction
    have := hfixed.disabled
    rw [hstate] at this
    exact absurd this (by decide)

end ProxyDrift
