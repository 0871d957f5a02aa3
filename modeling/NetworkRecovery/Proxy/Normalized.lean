import NetworkRecovery.Proxy.Evidence

/-!
# Normalized states, read again

An evidence event holds normalized states as `to_dict` writes them, and both the replay and the
detector of loops hand them to `normalize_proxy_state` once more. What that gives is `reread`. It is
the same state but for two things (`normalization_idempotent_iff`): a port that came from the
snapshot is written under `parsed_port` and looked for under `localhost_port`, and a PAC or an
override of white space is kept as an empty string, which reads as none.
-/

namespace StateMachine

open Python ProxyGuard

/-! ## What normalizes -/

/-- `int()` of the value raises `OverflowError`. -/
def Infinite (v : Value) : Prop := ∃ neg, v = .float (.inf neg)

theorem tryInt_ok_iff {v : Value} : (∃ n, tryInt v = .ok n) ↔ ¬ Infinite v := by
  constructor
  · rintro ⟨n, hn⟩ ⟨neg, rfl⟩
    cases hn
  · intro hfinite
    cases v with
    | float x =>
      cases x with
      | inf neg => exact absurd ⟨neg, rfl⟩ hfinite
      | finite d => exact ⟨_, rfl⟩
      | nan => exact ⟨_, rfl⟩
    | str s =>
      unfold tryInt Value.toInt
      dsimp only
      cases intOfText s.toList with
      | some n => exact ⟨_, rfl⟩
      | none => exact ⟨_, rfl⟩
    | _ => exact ⟨_, rfl⟩

theorem flagOf_ok_iff {v : Value} : (∃ flag, flagOf v = .ok flag) ↔ ¬ Infinite v := by
  rw [← tryInt_ok_iff]
  unfold flagOf
  split
  · exact ⟨fun _ => ⟨none, rfl⟩, fun _ => ⟨none, rfl⟩⟩
  · next b => exact ⟨fun _ => ⟨some _, rfl⟩, fun _ => ⟨some b, rfl⟩⟩
  · constructor
    · rintro ⟨flag, hflag⟩
      obtain ⟨n, hn, -⟩ := bind_ok.mp hflag
      exact ⟨n, hn⟩
    · rintro ⟨n, hn⟩
      rw [hn]
      cases n with
      | none => exact ⟨_, rfl⟩
      | some n => exact ⟨_, rfl⟩

def enableKeys : List String := ["proxy_enable", "ProxyEnable", "wininet_proxy_enabled"]

def autoDetectKeys : List String := ["auto_detect", "AutoDetect"]

def pacKeys : List String := ["auto_config_url", "AutoConfigURL", "wininet_auto_config_url"]

def overrideKeys : List String := ["proxy_override", "ProxyOverride", "wininet_proxy_override"]

/-- An infinite float stands where a number is read. -/
inductive Overflows (raw : Dict) : Prop
  | enable (h : Infinite (firstKey raw enableKeys))
  | autoDetect (h : Infinite (firstKey raw autoDetectKeys))
  | port (unparsed : (parseProxyServer (serverOfRaw raw)).localhostPort = none)
      (h : Infinite (firstKey raw ["localhost_port"]))

theorem resolvePort_ok_iff {raw : Dict} {parsed : ParsedProxy} :
    (∃ port, resolvePort raw parsed = .ok port) ↔
      ¬ (parsed.localhostPort = none ∧ Infinite (firstKey raw ["localhost_port"])) := by
  unfold resolvePort
  cases parsed.localhostPort with
  | some port => exact ⟨fun _ h => absurd h.1 (by simp), fun _ => ⟨some port, rfl⟩⟩
  | none => simpa using tryInt_ok_iff

theorem normalizeProxyState_ok_iff {raw : Dict} {st : ProxyWininetState} :
    normalizeProxyState (some raw) = .ok st ↔ ∃ enable autoDetect port,
      flagOf (firstKey raw enableKeys) = .ok enable ∧
      flagOf (firstKey raw autoDetectKeys) = .ok autoDetect ∧
      resolvePort raw (parseProxyServer (serverOfRaw raw)) = .ok port ∧
      stateOf raw (enable.getD false) autoDetect port = st := by
  constructor
  · intro h
    obtain ⟨enable, henable, h⟩ := bind_ok.mp h
    obtain ⟨autoDetect, hdetect, h⟩ := bind_ok.mp h
    obtain ⟨port, hport, h⟩ := bind_ok.mp h
    exact ⟨enable, autoDetect, port, henable, hdetect, hport, Except.ok.inj h⟩
  · rintro ⟨enable, autoDetect, port, henable, hdetect, hport, rfl⟩
    exact bind_ok.mpr ⟨enable, henable, bind_ok.mpr ⟨autoDetect, hdetect,
      bind_ok.mpr ⟨port, hport, rfl⟩⟩⟩

theorem normalizes_iff {raw : Dict} : Normalizes raw ↔ ¬ Overflows raw := by
  constructor
  · rintro ⟨st, hst⟩ hover
    obtain ⟨enable, autoDetect, port, henable, hdetect, hport, -⟩ := normalizeProxyState_ok_iff.mp hst
    cases hover with
    | enable h => exact flagOf_ok_iff.mp ⟨enable, henable⟩ h
    | autoDetect h => exact flagOf_ok_iff.mp ⟨autoDetect, hdetect⟩ h
    | port unparsed h => exact resolvePort_ok_iff.mp ⟨port, hport⟩ ⟨unparsed, h⟩
  · intro hover
    obtain ⟨enable, henable⟩ := flagOf_ok_iff.mpr fun h => hover (.enable h)
    obtain ⟨autoDetect, hdetect⟩ := flagOf_ok_iff.mpr fun h => hover (.autoDetect h)
    obtain ⟨port, hport⟩ := resolvePort_ok_iff.mpr fun h => hover (.port h.1 h.2)
    exact ⟨_, normalizeProxyState_ok_iff.mpr ⟨enable, autoDetect, port, henable, hdetect, hport, rfl⟩⟩

/-! ## Texts, read again -/

/-- A string of white space, not empty. -/
def BlankText (v : Value) : Prop := ∃ s : String, v = .str s ∧ s ≠ "" ∧ strip s.toList = []

theorem strip_repr_ne_nil (v : Value) : strip v.repr ≠ [] := by
  obtain ⟨c, hc, hspace⟩ := exists_nonSpace_repr v
  exact strip_ne_nil hc hspace

/-- A text that was stripped is read again as it is. -/
theorem serverOf_reread (v : Value) : serverOf (optionalText (serverOf v)) = serverOf v := by
  have hread : ∀ t : List Char, strip t ≠ [] →
      serverOf (.str (.ofList (strip t))) = some (.ofList (strip t)) := by
    intro t ht
    unfold serverOf
    dsimp only
    rw [String.toList_ofList, strip_strip]
    split
    · next hnil => exact absurd hnil ht
    · rfl
  cases v with
  | none => rfl
  | str s =>
    cases hstrip : strip s.toList with
    | nil =>
      have hnone : serverOf (.str s) = none := by simp [serverOf, hstrip]
      rw [hnone]
      rfl
    | cons c t =>
      have hsome : serverOf (.str s) = some (.ofList (strip s.toList)) := by simp [serverOf, hstrip]
      rw [hsome]
      exact hread s.toList (by simp [hstrip])
  | _ => exact hread _ (by simpa [Value.toText] using strip_repr_ne_nil _)

theorem textOf_str {s : String} (hs : s ≠ "") :
    textOf (.str s) = some (.ofList (strip s.toList)) := by
  simp [textOf, hs, Value.toText]

theorem textOf_blank {v : Value} : textOf v = some "" ↔ BlankText v := by
  constructor
  · intro h
    cases v with
    | none => cases h
    | str s =>
      by_cases hs : s = ""
      · subst hs
        cases h
      · rw [textOf_str hs] at h
        exact ⟨s, rfl, hs, by simpa using congrArg (Option.map String.toList) h⟩
    | _ =>
      have hstrip := congrArg (Option.map String.toList) h
      simp [textOf, Value.toText] at hstrip
      exact absurd hstrip (strip_repr_ne_nil _)
  · rintro ⟨s, rfl, hs, hstrip⟩
    rw [textOf_str hs, hstrip]

theorem textOf_stripped (v : Value) :
    textOf v = none ∨ ∃ t, textOf v = some (.ofList (strip t)) := by
  unfold textOf
  split
  · exact .inl rfl
  · exact .inl rfl
  · exact .inr ⟨_, rfl⟩

/-- An empty text is the one that is not read again as it is. -/
theorem textOf_reread_iff {v : Value} :
    textOf (optionalText (textOf v)) = textOf v ↔ ¬ BlankText v := by
  rw [← textOf_blank]
  rcases textOf_stripped v with hnone | ⟨t, ht⟩
  · rw [hnone]
    exact ⟨fun _ h => (by cases h), fun _ => rfl⟩
  · rw [ht]
    by_cases hempty : String.ofList (strip t) = ""
    · rw [hempty]
      exact ⟨fun h => (by cases h), fun h => absurd rfl h⟩
    · refine ⟨fun _ h => hempty (Option.some.inj h), fun _ => ?_⟩
      rw [optionalText, textOf_str hempty, String.toList_ofList, strip_strip]

/-! ## States, read again -/

/-- What is read of a normalized state that was written. -/
def ProxyWininetState.reread (st : ProxyWininetState) : ProxyWininetState :=
  stateOf st.toDict st.proxyEnable st.autoDetect
    (parseProxyServer (serverOf (optionalText st.proxyServer))).localhostPort

theorem normalizeProxyState_reread (st : ProxyWininetState) :
    normalizeProxyState (some st.toDict) = .ok st.reread := by
  have hdetect : flagOf (optionalBool st.autoDetect) = .ok st.autoDetect := by
    cases st.autoDetect with
    | none => rfl
    | some b => rfl
  have hport : resolvePort st.toDict (parseProxyServer (serverOf (optionalText st.proxyServer))) =
      .ok (parseProxyServer (serverOf (optionalText st.proxyServer))).localhostPort := by
    unfold resolvePort
    cases (parseProxyServer (serverOf (optionalText st.proxyServer))).localhostPort with
    | some port => rfl
    | none => rfl
  exact normalizeProxyState_ok_iff.mpr
    ⟨some st.proxyEnable, st.autoDetect, _, rfl, hdetect, hport, rfl⟩

/-- What of a snapshot is read again when its state was written: the port that the parser finds,
and a PAC and an override that are not blank. -/
structure Stable (raw : Dict) : Prop where
  port : (parseProxyServer (serverOfRaw raw)).localhostPort ≠ none ∨
    tryInt (firstKey raw ["localhost_port"]) = .ok none
  pac : ¬ BlankText (firstKey raw pacKeys)
  override : ¬ BlankText (firstKey raw overrideKeys)

/-- All of it is read again but the texts that are empty and the port that the parser does not
find. -/
theorem ProxyWininetState.reread_eq {st : ProxyWininetState}
    (hserver : serverOf (optionalText st.proxyServer) = st.proxyServer) :
    let parsed := parseProxyServer st.proxyServer
    let pac := textOf (optionalText st.autoConfigUrl)
    st.reread =
      { st with
        autoConfigUrl := pac
        proxyOverride := textOf (optionalText st.proxyOverride)
        parsedHost := if parsed.isLocalhostProxy then parsed.localhostHost else none
        parsedPort := parsed.localhostPort
        proxyMode := modeOf parsed st.proxyEnable st.proxyServer pac st.autoDetect
          parsed.localhostPort } := by
  have hserverDict : serverOfRaw st.toDict = st.proxyServer := hserver
  unfold ProxyWininetState.reread stateOf
  simp only [hserver, hserverDict]
  obtain ⟨_, _, _, _, _, _, _, _, direct⟩ := st
  cases direct <;> rfl

theorem stateOf_reread_iff {raw : Dict} {enable : Bool} {autoDetect : Option Bool}
    {port : Option Int}
    (hport : resolvePort raw (parseProxyServer (serverOfRaw raw)) = .ok port) :
    (stateOf raw enable autoDetect port).reread = stateOf raw enable autoDetect port ↔
      Stable raw := by
  rw [ProxyWininetState.reread_eq (serverOf_reread _)]
  constructor
  · intro h
    refine ⟨?_, textOf_reread_iff.mp (congrArg ProxyWininetState.autoConfigUrl h),
      textOf_reread_iff.mp (congrArg ProxyWininetState.proxyOverride h)⟩
    have hsame : (parseProxyServer (serverOfRaw raw)).localhostPort = port :=
      congrArg ProxyWininetState.parsedPort h
    cases hparsed : (parseProxyServer (serverOfRaw raw)).localhostPort with
    | some found => exact .inl (by simp)
    | none =>
      rw [hparsed] at hsame
      rw [resolvePort, hparsed, ← hsame] at hport
      exact .inr hport
  · intro hstable
    have hsame : (parseProxyServer (serverOfRaw raw)).localhostPort = port := by
      unfold resolvePort at hport
      cases hparsed : (parseProxyServer (serverOfRaw raw)).localhostPort with
      | some found =>
        rw [hparsed] at hport
        exact Except.ok.inj hport
      | none =>
        rw [hparsed] at hport
        rcases hstable.port with hsome | hnone
        · exact absurd hparsed hsome
        · exact Except.ok.inj (hnone.symm.trans hport)
    have hpac : textOf (optionalText (stateOf raw enable autoDetect port).autoConfigUrl) =
        (stateOf raw enable autoDetect port).autoConfigUrl := textOf_reread_iff.mpr hstable.pac
    have hoverride : textOf (optionalText (stateOf raw enable autoDetect port).proxyOverride) =
        (stateOf raw enable autoDetect port).proxyOverride :=
      textOf_reread_iff.mpr hstable.override
    rw [hpac, hoverride, show (stateOf raw enable autoDetect port).proxyServer = serverOfRaw raw
      from rfl, hsame]
    rfl

/-- The state of a snapshot, read again, is the same. -/
def Idempotent (raw : Dict) : Prop :=
  (normalizeProxyState (some raw) >>= fun st => normalizeProxyState (some st.toDict)) =
    normalizeProxyState (some raw)

/-- So it is exactly when its port is the parser's and neither PAC nor override is blank, or there
is no state. -/
theorem normalization_idempotent_iff (raw : Dict) :
    Idempotent raw ↔ Overflows raw ∨ Stable raw := by
  unfold Idempotent
  by_cases hover : Overflows raw
  · have hraises : ¬ Normalizes raw := fun h => normalizes_iff.mp h hover
    cases hstate : normalizeProxyState (some raw) with
    | error e => exact ⟨fun _ => .inl hover, fun _ => rfl⟩
    | ok st => exact absurd ⟨st, hstate⟩ hraises
  · obtain ⟨st, hst⟩ := normalizes_iff.mpr hover
    obtain ⟨enable, autoDetect, port, -, -, hport, rfl⟩ := normalizeProxyState_ok_iff.mp hst
    rw [hst, or_iff_right hover, ← stateOf_reread_iff hport]
    constructor
    · intro h
      exact Except.ok.inj ((normalizeProxyState_reread _).symm.trans h)
    · intro h
      exact (normalizeProxyState_reread _).trans (congrArg Except.ok h)

/-- A port that the snapshot brings is written under one key and read under another. -/
theorem port_lost : ¬ Idempotent [("localhost_port", .int 8080)] := by
  intro h
  exact absurd h (by unfold Idempotent; decide +kernel)

end StateMachine
