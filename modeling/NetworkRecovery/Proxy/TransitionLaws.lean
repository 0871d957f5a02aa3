import NetworkRecovery.Proxy.Normalized
import NetworkRecovery.Proxy.Entries

/-!
# What the ladder of transitions covers

`classify_transition` asks some sixteen questions in a fixed order. Two things can go wrong with
that. A change may pass them all, and is then called insufficient data although both snapshots are
there (`classifier_complete_iff`). And an answer may hide a graver one further down: with the
mismatch flag set, a remote proxy is a mismatch (`mismatch_keeps_risk_iff`).

Both results rest on what the mode of a normalized state says of its fields (`OfSnapshot`).
-/

namespace StateMachine

open Python ProxyGuard

/-! ## Modes -/

theorem not_malformed_of_localhost {raw : Option String}
    (h : (parseProxyServer raw).isLocalhostProxy = true) :
    (parseProxyServer raw).isMalformed = false := by
  rcases parseProxyServer_cases raw with hp | hp | ⟨s, e, -, hp⟩ | ⟨s, host, port, rfl, hpairs, hbare⟩
  · rw [hp] at h
    cases h
  · rw [hp] at h
    cases h
  · rw [hp] at h ⊢
    unfold Entries.parsed at h ⊢
    split at h
    · cases h
    · next hok =>
      rw [if_neg hok]
  · rw [parseProxyServer_bare hpairs hbare]
    rfl

theorem serverEmpty_of_localhost {raw : Option String}
    (h : (parseProxyServer raw).isLocalhostProxy = true) : serverEmpty raw = false := by
  cases raw with
  | none => cases h
  | some s =>
    unfold parseProxyServer at h
    cases hstrip : strip s.toList with
    | nil =>
      simp only [hstrip] at h
      cases h
    | cons c cs => simp [serverEmpty, hstrip]

/-- A local proxy has a port that is true in a condition. -/
theorem port_of_localhost {raw : Option String}
    (h : (parseProxyServer raw).isLocalhostProxy = true) :
    ∃ port : Int, port ≠ 0 ∧ (parseProxyServer raw).localhostPort = some port := by
  have hreads := parseProxyServer_reads raw
  rw [hreads.isLocalhostProxy] at h
  obtain ⟨port, hport⟩ := firstLocalPort_isSome h
  refine ⟨port, ?_, (hreads.localhostPort h).trans hport⟩
  rintro rfl
  exact firstLocalPort_ne_zero (fun e he => one_le_port he) hport

/-- What ties the fields of a normalized state together. -/
structure OfSnapshot (st : ProxyWininetState) : Prop where
  mode : st.proxyMode = modeOf (parseProxyServer st.proxyServer) st.proxyEnable st.proxyServer
    st.autoConfigUrl st.autoDetect st.parsedPort
  pac : truthyText st.autoConfigUrl = !serverEmpty st.autoConfigUrl
  port : (parseProxyServer st.proxyServer).isLocalhostProxy = true →
    st.parsedPort.any (· != 0) = true

theorem truthyText_textOf (v : Value) : truthyText (textOf v) = !serverEmpty (textOf v) := by
  rcases textOf_stripped v with hnone | ⟨t, ht⟩
  · rw [hnone]
    rfl
  · rw [ht]
    unfold truthyText serverEmpty
    dsimp only [Option.any_some]
    rw [String.toList_ofList, strip_strip]
    cases strip t <;> simp

theorem ofSnapshot {raw : Dict} {st : ProxyWininetState}
    (h : normalizeProxyState (some raw) = .ok st) : OfSnapshot st := by
  obtain ⟨enable, autoDetect, port, -, -, hport, rfl⟩ := normalizeProxyState_ok_iff.mp h
  refine ⟨rfl, truthyText_textOf _, fun hlocal => ?_⟩
  obtain ⟨found, hne, hfound⟩ := port_of_localhost hlocal
  have hparsed : (parseProxyServer (serverOfRaw raw)).localhostPort = some found := hfound
  rw [resolvePort, hparsed] at hport
  obtain rfl := Except.ok.inj hport
  show Option.any (· != 0) (some found) = true
  simpa using hne

variable {st : ProxyWininetState}

theorem OfSnapshot.localhost_iff (h : OfSnapshot st) : st.proxyMode = .localhostProxy ↔
    st.proxyEnable = true ∧ serverEmpty st.autoConfigUrl = true ∧
      (parseProxyServer st.proxyServer).isLocalhostProxy = true := by
  have hpac := h.pac
  have hport := h.port
  have hwell := @not_malformed_of_localhost st.proxyServer
  rw [h.mode]
  unfold modeOf
  grind

/-- A PAC sets the mode, but for a malformed server that is switched on. -/
theorem OfSnapshot.pac_mode (h : OfSnapshot st) (hpac : serverEmpty st.autoConfigUrl = false) :
    st.proxyMode = .pacConfigured ∨ st.proxyEnable = true ∧ st.proxyMode = .inconsistent := by
  have hurl := h.pac
  rw [h.mode]
  unfold modeOf
  grind

theorem OfSnapshot.pac_of_mode (h : OfSnapshot st) (hmode : st.proxyMode = .pacConfigured) :
    serverEmpty st.autoConfigUrl = false := by
  have hurl := h.pac
  rw [h.mode] at hmode
  unfold modeOf at hmode
  grind

/-- A server that is switched on, without a PAC, is malformed, local or remote. -/
theorem OfSnapshot.on_mode (h : OfSnapshot st) (hon : st.proxyEnable = true)
    (hserver : serverEmpty st.proxyServer = false) (hpac : serverEmpty st.autoConfigUrl = true) :
    st.proxyMode = .inconsistent ∨ st.proxyMode = .localhostProxy ∨ st.proxyMode = .remoteProxy := by
  have hurl := h.pac
  have hport := h.port
  rw [h.mode]
  unfold modeOf
  grind

theorem OfSnapshot.remote (h : OfSnapshot st) (hmode : st.proxyMode = .remoteProxy) :
    st.proxyEnable = true ∧ serverEmpty st.proxyServer = false ∧
      serverEmpty st.autoConfigUrl = true := by
  have hurl := h.pac
  rw [h.mode] at hmode
  obtain ⟨-, hpac, hon, hserver, -⟩ := modeOf_remoteProxy hmode
  exact ⟨hon, hserver, by simpa [hurl] using hpac⟩

/-! ## The ladder in two halves -/

/-- The flag, or what the state after says. -/
def mismatchOf (winhttpMismatch : Option Bool) (after : ProxyWininetState) : Bool :=
  match winhttpMismatch with
  | some b => b
  | none => after.winhttpDirectAccess.any fun direct => after.proxyEnable && direct

def autodetectOn (before after : ProxyWininetState) : Bool :=
  before.autoDetect != some true && after.autoDetect == some true

/-- The rungs above the mismatch: nothing changed, or something was taken away. -/
def removals (before after : ProxyWininetState) (rest : TransitionClass) : TransitionClass :=
  let serverRemoved := !serverEmpty before.proxyServer && serverEmpty after.proxyServer
  let enableOff := before.proxyEnable && !after.proxyEnable
  if statesEqual before after then .noChange
  else if enableOff && serverRemoved then .proxyDisabledAndServerRemoved
  else if serverRemoved && after.proxyEnable then .proxyServerRemovedPartial
  else if serverRemoved && !after.proxyEnable then .proxyServerRemoved
  else if enableOff then .proxyDisabled
  else rest

/-- The rungs below it: what the state after configures. -/
def configurations (before after : ProxyWininetState) : TransitionClass :=
  let enableOn := !before.proxyEnable && after.proxyEnable
  let pacAdded := serverEmpty before.autoConfigUrl && !serverEmpty after.autoConfigUrl
  let pacRemoved := !serverEmpty before.autoConfigUrl && serverEmpty after.autoConfigUrl
  let pacChanged := !serverEmpty before.autoConfigUrl && !serverEmpty after.autoConfigUrl &&
    before.autoConfigUrl != after.autoConfigUrl
  if after.proxyEnable && serverEmpty after.proxyServer && !truthyText after.autoConfigUrl then
    .proxyEnabledWithNoServer
  else if after.proxyEnable && after.proxyMode == .inconsistent then .proxyEnabledWithNoServer
  else if pacRemoved then .pacRemoved
  else if pacAdded || pacChanged then .pacConfigured
  else if autodetectOn before after then .autodetectEnabled
  else if before.proxyMode == .localhostProxy && after.proxyMode == .localhostProxy &&
      before.parsedPort != after.parsedPort && before.parsedPort.isSome &&
      after.parsedPort.isSome then .localhostProxyPortChanged
  else if enableOn && after.proxyMode == .localhostProxy then .localhostProxyEnabled
  else if before.proxyMode == .localhostProxy && after.proxyMode == .remoteProxy &&
      !serverEmpty after.proxyServer then .proxyServerChangedToRemote
  else if after.proxyEnable && !serverEmpty after.proxyServer && after.proxyMode == .remoteProxy then
    .remoteOrNonLoopbackProxyConfigured
  else if after.proxyMode == .pacConfigured && !(pacAdded || pacChanged) then .pacConfigured
  else .errorInsufficientData

theorem classifyStates_eq (before after : ProxyWininetState) (winhttpMismatch : Option Bool) :
    classifyStates before after winhttpMismatch = removals before after
      (if mismatchOf winhttpMismatch after && after.proxyEnable then .wininetWinhttpMismatch
        else configurations before after) := rfl

variable {before after : ProxyWininetState} {winhttpMismatch : Option Bool}

/-- A rung with another label is passed. -/
theorem rung_iff {c : Prop} [Decidable c] {x y t : TransitionClass} (hx : x ≠ t) :
    (if c then x else y) = t ↔ ¬ c ∧ y = t := by
  by_cases hc : c
  · simp [hc, hx]
  · simp [hc]

/-- Nothing is taken away: the switch does not go off, and no server goes. -/
structure NothingRemoved (before after : ProxyWininetState) : Prop where
  changed : statesEqual before after = false
  switch : before.proxyEnable = true → after.proxyEnable = true
  server : serverEmpty before.proxyServer = true ∨ serverEmpty after.proxyServer = false

theorem removals_of_nothing (h : NothingRemoved before after) (rest : TransitionClass) :
    removals before after rest = rest := by
  obtain ⟨hchanged, hswitch, hserver⟩ := h
  unfold removals
  grind

theorem removals_eq_error_iff {rest : TransitionClass} :
    removals before after rest = .errorInsufficientData ↔
      NothingRemoved before after ∧ rest = .errorInsufficientData := by
  constructor
  · intro h
    have hnothing : NothingRemoved before after := by
      unfold removals at h
      refine ⟨?_, ?_, ?_⟩ <;> grind
    rw [removals_of_nothing hnothing] at h
    exact ⟨hnothing, h⟩
  · rintro ⟨hnothing, hrest⟩
    rw [removals_of_nothing hnothing, hrest]

theorem removals_eq_noChange_iff {rest : TransitionClass} (hrest : rest ≠ .noChange) :
    removals before after rest = .noChange ↔ statesEqual before after = true := by
  unfold removals
  grind

/-- Neither of the labels that other parts give. -/
theorem configurations_ne {label : TransitionClass}
    (hlabel : label = .noChange ∨ label = .reverterSuspectedLocalhostProxyLoop) :
    configurations before after ≠ label := by
  intro h
  unfold configurations at h
  dsimp only at h
  rcases hlabel with rfl | rfl
  all_goals
    iterate 10 replace h := ((rung_iff (by decide)).mp h).2
    cases h

/-! ## Changes without a name -/

/-- Nothing that a rung below the mismatch asks for: no PAC, no detection that is switched on; and
if the proxy is on, it was on and is a local one, with the port of a local one before. -/
structure Unconfigured (before after : ProxyWininetState) : Prop where
  noPac : serverEmpty before.autoConfigUrl = true ∧ serverEmpty after.autoConfigUrl = true
  noDetect : autodetectOn before after = false
  whenOn : after.proxyEnable = true → before.proxyEnable = true ∧
    after.proxyMode = .localhostProxy ∧
    (before.proxyMode = .localhostProxy → before.parsedPort = after.parsedPort)

theorem configurations_eq_error_iff (hbefore : OfSnapshot before) (hafter : OfSnapshot after) :
    configurations before after = .errorInsufficientData ↔ Unconfigured before after := by
  have hport : ∀ {st}, OfSnapshot st → st.proxyMode = .localhostProxy →
      st.parsedPort.isSome = true := by
    intro st hst hmode
    have hany := hst.port (hst.localhost_iff.mp hmode).2.2
    cases hparsed : st.parsedPort with
    | none =>
      rw [hparsed] at hany
      cases hany
    | some port => rfl
  have hbeforePort := hport hbefore
  have hafterPort := hport hafter
  unfold configurations
  dsimp only
  iterate 10 rw [rung_iff (by decide)]
  constructor
  · rintro ⟨hnoServer, hmalformed, hpacGone, hpacNew, hdetect, hlocalPort, hlocal, -, hremote, hpac, -⟩
    have hpacs : serverEmpty before.autoConfigUrl = true ∧
        serverEmpty after.autoConfigUrl = true := by
      have hpacMode := hafter.pac_mode
      grind
    refine ⟨hpacs, by simpa using hdetect, fun hon => ?_⟩
    have hurl := hafter.pac
    have hserver : serverEmpty after.proxyServer = false := by grind
    have hmode := hafter.on_mode hon hserver hpacs.2
    grind
  · rintro ⟨hnoPac, hnoDetect, hwhenOn⟩
    have hlocal := hafter.localhost_iff
    have hserver := @serverEmpty_of_localhost after.proxyServer
    have hremote := hafter.remote
    have hmode := hafter.pac_of_mode
    grind

/-- A change that no rung names. -/
structure Uncovered (before after : ProxyWininetState) (winhttpMismatch : Option Bool) : Prop extends
    NothingRemoved before after, Unconfigured before after where
  noMismatch : after.proxyEnable = true → mismatchOf winhttpMismatch after = false

theorem classifyStates_eq_error_iff (hbefore : OfSnapshot before) (hafter : OfSnapshot after) :
    classifyStates before after winhttpMismatch = .errorInsufficientData ↔
      Uncovered before after winhttpMismatch := by
  rw [classifyStates_eq, removals_eq_error_iff, rung_iff (by decide),
    configurations_eq_error_iff hbefore hafter]
  constructor
  · rintro ⟨hnothing, hmismatch, hunconfigured⟩
    exact ⟨hnothing, hunconfigured, fun hon => by simpa [hon] using hmismatch⟩
  · rintro ⟨hnothing, hunconfigured, hmismatch⟩
    refine ⟨hnothing, fun h => ?_, hunconfigured⟩
    obtain ⟨hflag, hon⟩ := Bool.and_eq_true_iff.mp h
    rw [hmismatch hon] at hflag
    cases hflag

theorem classifyStates_eq_noChange_iff :
    classifyStates before after winhttpMismatch = .noChange ↔ statesEqual before after = true := by
  rw [classifyStates_eq]
  apply removals_eq_noChange_iff
  rw [ne_eq, rung_iff (by decide), not_and]
  exact fun _ => configurations_ne (.inl rfl)

theorem classifyTransition_some {raw raw' : Dict} {b a : ProxyWininetState}
    (hb : normalizeProxyState (some raw) = .ok b) (ha : normalizeProxyState (some raw') = .ok a)
    (winhttpMismatch : Option Bool) :
    classifyTransition (some raw) (some raw') winhttpMismatch =
      .ok (classifyStates b a winhttpMismatch) := by
  simp only [classifyTransition, hb, ha, bind, Except.bind, pure, Except.pure]

/-- Two snapshots are classified: the label says no change exactly of equal states, and it is a
label. -/
def Classified (before after : Dict) (winhttpMismatch : Option Bool) : Prop :=
  ∃ b a transition, normalizeProxyState (some before) = .ok b ∧
    normalizeProxyState (some after) = .ok a ∧
    classifyTransition (some before) (some after) winhttpMismatch = .ok transition ∧
    transition ≠ .errorInsufficientData ∧ (transition = .noChange ↔ statesEqual b a = true)

/-- They are exactly when both normalize and some rung names the change. -/
theorem classifier_complete_iff (before after : Dict) (winhttpMismatch : Option Bool) :
    Classified before after winhttpMismatch ↔
      ∃ b a, normalizeProxyState (some before) = .ok b ∧ normalizeProxyState (some after) = .ok a ∧
        ¬ Uncovered b a winhttpMismatch := by
  constructor
  · rintro ⟨b, a, transition, hb, ha, htransition, hlabel, -⟩
    obtain rfl := Except.ok.inj ((classifyTransition_some hb ha _).symm.trans htransition)
    refine ⟨b, a, hb, ha, fun huncovered => hlabel ?_⟩
    exact (classifyStates_eq_error_iff (ofSnapshot hb) (ofSnapshot ha)).mpr huncovered
  · rintro ⟨b, a, hb, ha, huncovered⟩
    refine ⟨b, a, _, hb, ha, classifyTransition_some hb ha _, fun hlabel => huncovered ?_,
      classifyStates_eq_noChange_iff⟩
    exact (classifyStates_eq_error_iff (ofSnapshot hb) (ofSnapshot ha)).mp hlabel

/-- A remote proxy becomes a local one. -/
theorem remote_to_localhost_unnamed :
    ¬ Classified [("ProxyEnable", .int 1), ("ProxyServer", .str "proxy.corp.example:8080")]
      [("ProxyEnable", .int 1), ("ProxyServer", .str "127.0.0.1:8888")] none := by
  rintro ⟨b, a, transition, -, -, htransition, hlabel, -⟩
  have herror : classifyTransition
      (some [("ProxyEnable", .int 1), ("ProxyServer", .str "proxy.corp.example:8080")])
      (some [("ProxyEnable", .int 1), ("ProxyServer", .str "127.0.0.1:8888")]) none =
        .ok .errorInsufficientData := by
    decide +kernel
  exact hlabel (Except.ok.inj (htransition.symm.trans herror))

/-! ## What the mismatch hides -/

theorem removals_congr (h : ¬ NothingRemoved before after) (rest rest' : TransitionClass) :
    removals before after rest = removals before after rest' := by
  have hremoved : ¬ (statesEqual before after = false ∧
      (before.proxyEnable = true → after.proxyEnable = true) ∧
      (serverEmpty before.proxyServer = true ∨ serverEmpty after.proxyServer = false)) :=
    fun hall => h ⟨hall.1, hall.2.1, hall.2.2⟩
  unfold removals
  grind

/-- What follows of a remote proxy, below the mismatch. -/
theorem configurations_of_remote (hafter : OfSnapshot after)
    (hmode : after.proxyMode = .remoteProxy) :
    configurations before after =
      if serverEmpty before.autoConfigUrl = false then .pacRemoved
      else if autodetectOn before after then .autodetectEnabled
      else if before.proxyMode = .localhostProxy then .proxyServerChangedToRemote
      else .remoteOrNonLoopbackProxyConfigured := by
  obtain ⟨hon, hserver, hpac⟩ := hafter.remote hmode
  unfold configurations
  simp [hmode, hon, hserver, hpac]

/-- The order of risks. -/
def riskRank (risk : String) : Nat :=
  if risk = "INFO" then 0 else if risk = "LOW" then 1 else if risk = "MEDIUM" then 2 else 3

theorem riskRank_le_mismatch {transition : TransitionClass}
    (hreverter : transition ≠ .reverterSuspectedLocalhostProxyLoop) (trusted unknown : Bool) :
    riskRank (riskForTransition transition trusted unknown) ≤
        riskRank (riskForTransition .wininetWinhttpMismatch trusted unknown) ↔
      transition.value ∉ remoteLabels := by
  cases transition with
  | reverterSuspectedLocalhostProxyLoop => exact absurd rfl hreverter
  | _ =>
    simp only [riskForTransition]
    decide

/-- A remote proxy that nothing below the mismatch comes before. -/
structure Masked (before after : ProxyWininetState) : Prop where
  changed : statesEqual before after = false
  remote : after.proxyMode = .remoteProxy
  noPac : serverEmpty before.autoConfigUrl = true
  noDetect : autodetectOn before after = false

theorem Masked.nothingRemoved (h : Masked before after) (hafter : OfSnapshot after) :
    NothingRemoved before after := by
  obtain ⟨hon, hserver, -⟩ := hafter.remote h.remote
  exact ⟨h.changed, fun _ => hon, .inr hserver⟩

/-- Below the mismatch, a label says remote exactly of such a proxy. -/
theorem configurations_remote_iff (hafter : OfSnapshot after) (hnothing : NothingRemoved before after) :
    (configurations before after).value ∈ remoteLabels ↔ Masked before after := by
  constructor
  · intro hlabel
    have hmode : after.proxyMode = .remoteProxy := by
      refine @classifyStates_remote before after (some false) ?_
      rw [classifyStates_eq, removals_of_nothing hnothing]
      exact hlabel
    rw [configurations_of_remote hafter hmode] at hlabel
    cases hpac : serverEmpty before.autoConfigUrl with
    | false =>
      rw [if_pos hpac] at hlabel
      exact absurd hlabel (by decide)
    | true =>
      cases hdetect : autodetectOn before after with
      | true =>
        rw [if_neg (by simp [hpac]), if_pos hdetect] at hlabel
        exact absurd hlabel (by decide)
      | false => exact ⟨hnothing.changed, hmode, hpac, hdetect⟩
  · intro hmasked
    rw [configurations_of_remote hafter hmasked.remote, hmasked.noPac, hmasked.noDetect]
    simp only [Bool.true_eq_false, if_false, Bool.false_eq_true]
    split <;> decide

/-- The risk with the mismatch flag is no lower than without it. -/
theorem classifyStates_risk_iff (hafter : OfSnapshot after) (trusted unknown : Bool) :
    riskRank (riskForTransition (classifyStates before after (some false)) trusted unknown) ≤
        riskRank (riskForTransition (classifyStates before after (some true)) trusted unknown) ↔
      ¬ Masked before after := by
  rw [classifyStates_eq, classifyStates_eq]
  by_cases hnothing : NothingRemoved before after
  · rw [removals_of_nothing hnothing, removals_of_nothing hnothing]
    simp only [mismatchOf, Bool.false_and, Bool.true_and, Bool.false_eq_true, if_false]
    cases hon : after.proxyEnable with
    | true =>
      rw [if_pos rfl, riskRank_le_mismatch (configurations_ne (.inr rfl)),
        configurations_remote_iff hafter hnothing]
    | false =>
      refine ⟨fun _ hmasked => ?_, fun _ => le_rfl⟩
      rw [(hafter.remote hmasked.remote).1] at hon
      cases hon
  · refine ⟨fun _ hmasked => hnothing (hmasked.nothingRemoved hafter), fun _ => ?_⟩
    exact (congrArg (fun t => riskRank (riskForTransition t trusted unknown))
      (removals_congr hnothing _ _)).le

/-- Evidence of a mismatch does not lower the risk of what is seen. -/
def MismatchKeepsRisk (before after : Option Dict) (trusted unknown : Bool) : Prop :=
  ∀ without, classifyTransition before after (some false) = .ok without →
    ∀ mismatched, classifyTransition before after (some true) = .ok mismatched →
      riskRank (riskForTransition without trusted unknown) ≤
        riskRank (riskForTransition mismatched trusted unknown)

/-- It does not exactly when the snapshots show no change to a remote proxy that the mismatch
masks. -/
theorem mismatch_keeps_risk_iff (before after : Option Dict) (trusted unknown : Bool) :
    MismatchKeepsRisk before after trusted unknown ↔
      ∀ raw ∈ before, ∀ raw' ∈ after, ∀ b a, normalizeProxyState (some raw) = .ok b →
        normalizeProxyState (some raw') = .ok a → ¬ Masked b a := by
  constructor
  · rintro hkeeps raw rfl raw' rfl b a hb ha
    refine (classifyStates_risk_iff (ofSnapshot ha) trusted unknown).mp (hkeeps _ ?_ _ ?_)
    · exact classifyTransition_some hb ha _
    · exact classifyTransition_some hb ha _
  · intro hunmasked without hwithout mismatched hmismatched
    cases before with
    | none =>
      obtain rfl := Except.ok.inj hwithout
      obtain rfl := Except.ok.inj hmismatched
      exact le_rfl
    | some raw =>
      cases after with
      | none =>
        obtain rfl := Except.ok.inj hwithout
        obtain rfl := Except.ok.inj hmismatched
        exact le_rfl
      | some raw' =>
        obtain ⟨b, hb, hrest⟩ := bind_ok.mp hwithout
        obtain ⟨a, ha, -⟩ := bind_ok.mp hrest
        obtain rfl := Except.ok.inj ((classifyTransition_some hb ha _).symm.trans hwithout)
        obtain rfl := Except.ok.inj ((classifyTransition_some hb ha _).symm.trans hmismatched)
        exact (classifyStates_risk_iff (ofSnapshot ha) trusted unknown).mpr
          (hunmasked raw rfl raw' rfl b a hb ha)

/-- A remote proxy is switched on while WinHTTP is direct. -/
theorem remote_masked : ¬ MismatchKeepsRisk (some [("ProxyEnable", .int 0)])
    (some [("ProxyEnable", .int 1), ("ProxyServer", .str "proxy.corp.example:8080")])
    false false := by
  intro hkeeps
  have hrisk := hkeeps .remoteOrNonLoopbackProxyConfigured (by decide +kernel)
    .wininetWinhttpMismatch (by decide +kernel)
  exact absurd hrisk (by decide)

end StateMachine
