import NetworkRecovery.Policy.Evidence

/-!
# Proof inputs as disjunctions

Several signals can stand for one proof. `evidence/conflicts.py` tests each of them by itself;
`evidence/guards.py` takes the first that is not falsy and tests that one alone. To `or`, text is
true as soon as it is not empty, so a signal that says `"False"` is what `or` stops at, and hides a
later one that says yes. `proofDisjoins_iff` says that this is all the two modules differ in: the
proof inputs are the disjunction of their signals, and a listener without a writer is reported as a
conflict exactly when they hold no writer, unless some signal is `Masked`.
-/

namespace Policy

open Python

/-! ## `detect_conflicts` -/

structure EvidenceConflict where
  code : String
  description : String
  severity : String
  deriving DecidableEq

/-- `detect_conflicts`. -/
def detectConflicts (signals : Dict) : List EvidenceConflict :=
  let truthy (k : String) : Bool := signalTruthy (signal signals k)
  let dnsOk := truthy "dns_ok"
  let httpFail := truthy "browser_https_failed" || truthy "http_failed"
  let tcpOk := truthy "tcp_ok" || truthy "tcp_443_ok"
  let browserFail := truthy "browser_https_failed"
  let proxyOn := truthy "wininet_proxy_enabled" || truthy "proxy_enable"
  let noListener := truthy "proxy_enabled_no_listener"
  let hasListener := truthy "listener_on_proxy_port" || truthy "listener_correlation"
  let noWriter := !truthy "sysmon_event_13" && !truthy "registry_writer_observed"
  (if dnsOk && httpFail then
    [{ code := "DNS_OK_HTTP_FAIL"
       description := "DNS resolves but HTTP path fails — likely L7/proxy/TLS, not DNS."
       severity := "medium" }]
  else []) ++
  (if tcpOk && browserFail then
    [{ code := "TCP_OK_BROWSER_FAIL"
       description := "TCP succeeds but browser path fails — inspect proxy/TLS/app layer."
       severity := "medium" }]
  else []) ++
  (if proxyOn && noListener then
    [{ code := "PROXY_ON_NO_LISTENER"
       description :=
        "Proxy enabled but no localhost listener observed — stale config or remote proxy."
       severity := "high" }]
  else []) ++
  (if hasListener && noWriter then
    [{ code := "LISTENER_NO_WRITER_PROOF"
       description :=
        "Listener correlated but registry writer telemetry missing — not causation proof."
       severity := "high" }]
  else [])

/-! ## What `or` hides -/

/-- The value `or` stops at is no yes, and a later one is. -/
def Masked : List Value → Prop
  | [] => False
  | v :: vs =>
    if v.truthy = true then signalTruthy v = false ∧ ∃ w ∈ vs, signalTruthy w = true else Masked vs

/-- A word for yes is not empty. -/
theorem truthy_of_signalTruthy {v : Value} (h : signalTruthy v = true) : v.truthy = true := by
  cases v with
  | str s =>
    by_contra hempty
    obtain rfl : s = "" := by simpa [Value.truthy] using hempty
    exact absurd h (by decide)
  | bool b => exact h
  | _ => exact h

/-- What hides a yes is text, and not empty. -/
theorem text_of_truthy {v : Value} (h : v.truthy = true) (hno : signalTruthy v = false) :
    ∃ s, v = .str s ∧ s ≠ "" := by
  cases v with
  | str s => exact ⟨s, rfl, by simpa [Value.truthy] using h⟩
  | bool b => exact absurd (hno.symm.trans h) Bool.false_ne_true
  | _ => exact absurd (hno.symm.trans h) Bool.false_ne_true

theorem firstSignal_cons {signals : Dict} {k : String} {ks : List String} (h : ks ≠ []) :
    firstSignal signals (k :: ks) =
      if (signal signals k).truthy then signal signals k else firstSignal signals ks := by
  obtain ⟨k', ks, rfl⟩ := List.exists_cons_of_ne_nil h
  rfl

/-- `or` gives a yes exactly if there is one and it is not masked. -/
theorem signalTruthy_firstSignal (signals : Dict) (ks : List String) :
    signalTruthy (firstSignal signals ks) = true ↔
      (∃ k ∈ ks, signalTruthy (signal signals k) = true) ∧ ¬ Masked (ks.map (signal signals)) := by
  induction ks with
  | nil => simp [firstSignal, signalTruthy, Value.truthy]
  | cons k ks ih =>
    rw [List.map_cons, Masked]
    by_cases hlast : ks = []
    · subst hlast
      simp [firstSignal, Masked]
    · rw [firstSignal_cons hlast]
      by_cases htruthy : (signal signals k).truthy = true
      · rw [if_pos htruthy, if_pos htruthy]
        cases hyes : signalTruthy (signal signals k) with
        | true => simp [hyes]
        | false => simp [hyes]
      · have hno : signalTruthy (signal signals k) ≠ true := fun h =>
          htruthy (truthy_of_signalTruthy h)
        rw [if_neg htruthy, if_neg htruthy, ih]
        simp [hno]

/-- A masked yes is a yes. -/
theorem Masked.exists_yes {vs : List Value} (h : Masked vs) : ∃ v ∈ vs, signalTruthy v = true := by
  induction vs with
  | nil => exact h.elim
  | cons v vs ih =>
    rw [Masked] at h
    split at h
    · obtain ⟨-, w, hw, hyes⟩ := h
      exact ⟨w, List.mem_cons_of_mem v hw, hyes⟩
    · obtain ⟨w, hw, hyes⟩ := ih h
      exact ⟨w, List.mem_cons_of_mem v hw, hyes⟩

/-- In full: behind values that are not truthy comes a text that is not empty and no word for yes,
and somewhere behind that comes a yes. -/
theorem masked_iff (vs : List Value) :
    Masked vs ↔ ∃ front s back, vs = front ++ .str s :: back ∧
      (∀ v ∈ front, v.truthy = false) ∧ s ≠ "" ∧ signalTruthy (.str s) = false ∧
      ∃ w ∈ back, signalTruthy w = true := by
  constructor
  · intro h
    induction vs with
    | nil => exact h.elim
    | cons v vs ih =>
      rw [Masked] at h
      split at h
      · rename_i htruthy
        obtain ⟨s, rfl, hs⟩ := text_of_truthy htruthy h.1
        exact ⟨[], s, vs, rfl, fun v hv => absurd hv List.not_mem_nil, hs, h.1, h.2⟩
      · rename_i hfalsy
        obtain ⟨front, s, back, rfl, hfront, hs⟩ := ih h
        refine ⟨v :: front, s, back, rfl, ?_, hs⟩
        rw [List.forall_mem_cons]
        exact ⟨Bool.eq_false_iff.mpr hfalsy, hfront⟩
  · rintro ⟨front, s, back, rfl, hfront, hs, hno, hyes⟩
    induction front with
    | nil =>
      have htruthy : (Value.str s).truthy = true := by simpa [Value.truthy] using hs
      rw [List.nil_append, Masked, if_pos htruthy]
      exact ⟨hno, hyes⟩
    | cons v front ih =>
      rw [List.forall_mem_cons] at hfront
      rw [List.cons_append, Masked, if_neg (Bool.eq_false_iff.mp hfront.1)]
      exact ih hfront.2

/-- So `or` agrees with testing each signal exactly where nothing is masked. -/
theorem signalTruthy_firstSignal_iff (signals : Dict) (ks : List String) :
    (signalTruthy (firstSignal signals ks) = true ↔
      ∃ k ∈ ks, signalTruthy (signal signals k) = true) ↔
      ¬ Masked (ks.map (signal signals)) := by
  rw [signalTruthy_firstSignal]
  constructor
  · intro h hmasked
    obtain ⟨v, hv, hyes⟩ := hmasked.exists_yes
    obtain ⟨k, hk, rfl⟩ := List.mem_map.mp hv
    exact (h.mpr ⟨k, hk, hyes⟩).2 hmasked
  · exact fun h => and_iff_left h

/-! ## The two modules together -/

/-- The signals of a writer, and those of a working path. -/
def writerSignals : List String := ["sysmon_event_13", "registry_writer_observed"]

def pathSignals : List String := ["proxy_bypass_succeeded", "direct_path_success", "path_validated"]

/-- Each proof input is the disjunction of its signals, and the conflict is reported for a listener
without a writer. -/
structure ProofDisjoins (signals : Dict) : Prop where
  writer : (proofInputsFromSignals signals).hasRegistryWriterTelemetry = true ↔
    ∃ k ∈ writerSignals, signalTruthy (signal signals k) = true
  path : (proofInputsFromSignals signals).hasPathValidation = true ↔
    ∃ k ∈ pathSignals, signalTruthy (signal signals k) = true
  conflict : (∃ c ∈ detectConflicts signals, c.code = "LISTENER_NO_WRITER_PROOF") ↔
    (signalTruthy (signal signals "listener_on_proxy_port") = true ∨
      signalTruthy (signal signals "listener_correlation") = true) ∧
    (proofInputsFromSignals signals).hasRegistryWriterTelemetry = false

/-- The conflict goes by the signals themselves. -/
theorem conflict_iff (signals : Dict) :
    (∃ c ∈ detectConflicts signals, c.code = "LISTENER_NO_WRITER_PROOF") ↔
      (signalTruthy (signal signals "listener_on_proxy_port") = true ∨
        signalTruthy (signal signals "listener_correlation") = true) ∧
      ¬ ∃ k ∈ writerSignals, signalTruthy (signal signals k) = true := by
  have hcode : ∀ (b : Bool) (c : EvidenceConflict),
      (∃ c' ∈ (if b then [c] else []), c'.code = "LISTENER_NO_WRITER_PROOF") ↔
        b = true ∧ c.code = "LISTENER_NO_WRITER_PROOF" := by
    intro b c
    cases b <;> simp
  unfold detectConflicts
  simp only [List.mem_append, or_and_right, exists_or, hcode]
  simp [writerSignals]
  exact or_and_right

/-- The proof inputs are disjunctions exactly where no signal is masked. -/
theorem proofDisjoins_iff (signals : Dict) :
    ProofDisjoins signals ↔ ¬ Masked (writerSignals.map (signal signals)) ∧
      ¬ Masked (pathSignals.map (signal signals)) := by
  constructor
  · intro h
    exact ⟨(signalTruthy_firstSignal_iff signals _).mp h.writer,
      (signalTruthy_firstSignal_iff signals _).mp h.path⟩
  · rintro ⟨hwriter, hpath⟩
    have hdisjoint := (signalTruthy_firstSignal_iff signals writerSignals).mpr hwriter
    refine ⟨hdisjoint, (signalTruthy_firstSignal_iff signals pathSignals).mpr hpath, ?_⟩
    rw [conflict_iff, ← hdisjoint, Bool.not_eq_true]
    rfl

/-- A writer that one source denies in words: the proof inputs miss it, and no conflict says so. -/
theorem denied_writer_masked :
    let signals : Dict := [("sysmon_event_13", .str "False"),
      ("registry_writer_observed", .bool true), ("listener_on_proxy_port", .bool true)]
    ¬ ProofDisjoins signals ∧
      (proofInputsFromSignals signals).hasRegistryWriterTelemetry = false ∧
      detectConflicts signals = [] := by
  have hmissed : (proofInputsFromSignals [("sysmon_event_13", .str "False"),
      ("registry_writer_observed", .bool true),
      ("listener_on_proxy_port", .bool true)]).hasRegistryWriterTelemetry = false := by
    decide +kernel
  refine ⟨fun h => ?_, hmissed, by decide +kernel⟩
  have hwriter := h.writer.mpr
    ⟨"registry_writer_observed", List.mem_cons_of_mem _ List.mem_cons_self, by decide +kernel⟩
  exact absurd (hmissed.symm.trans hwriter) Bool.false_ne_true

end Policy
