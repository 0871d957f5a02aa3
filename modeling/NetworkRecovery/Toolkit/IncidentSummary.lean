import Mathlib.Data.Finset.Sort
import NetworkRecovery.Lib.LastWriter
import NetworkRecovery.Proxy.Evidence
import NetworkRecovery.Timing.Calendar

/-!
# Incident summaries

`update_or_write_incident_summary` of the event log appends a row that merges the last
summary of the same incident with a patch: numbers add up, ports are united, what was seen
first stays, the symptom is overwritten key by key. Nothing but the log carries the sums from
one call to the next, so the last row of an incident is the fold of all its updates, whatever
was appended between them (`latestSummary_isFold`).

A call raises, and appends nothing, on a counter that is no number or a port that is an
infinite one. Which calls do is a matter of their own patch (`acceptable`).
-/

namespace EventLog

open Python
open StateMachine (updateDict get?_updateDict)
open Timing (isoformatUtc isoformatUtc_ne_empty)

/-- `SCHEMA_VERSION`. -/
def schemaVersion : String := "2.0"

/-- `DEFAULT_TITLE`. -/
def defaultTitle : String := "Repeated WinINET localhost proxy re-enable"

/-- A row of `incidents.jsonl`, as it is appended and read back. -/
structure SummaryRow where
  schemaVersion : String
  eventType : String
  eventId : String
  timestampUtc : String
  incidentId : String
  correlationKey : String
  title : String
  status : String
  firstSeenUtc : String
  lastSeenUtc : String
  symptom : Dict
  counters : Dict
  assessment : Dict
  recommendedNextActions : List String

/-- A call of `update_or_write_incident_summary`, with what `utc_now` and `new_event_id`
return to it. -/
structure Call where
  incidentId : String
  correlationKeyVal : String
  symptom : Dict
  countersPatch : Dict
  assessment : Dict
  recommendedNextActions : List String
  title : String := defaultTitle
  status : String := "open"
  now : Int
  eventId : String

/-- `_tail_incident_summary`. -/
def tailIncidentSummary (log : List SummaryRow) (incidentId : String) : Option SummaryRow :=
  LastWriter.scan (fun o => (o.eventType, o.incidentId)) ("incident_summary", incidentId) log

/-! ## Merging counters -/

/-- The keys of the numbers that add up. -/
def countKeys : List String := ["repair_attempts", "successful_repairs", "drift_events"]

/-- `base_counters` before the last summary is merged. -/
def zeroCounters : Dict :=
  [("repair_attempts", .int 0), ("successful_repairs", .int 0), ("drift_events", .int 0),
    ("unique_ports", .list [])]

/-- `del patch[k]`. -/
def delKey (patch : Dict) (k : String) : Dict := patch.filter fun e => e.1 != k

/-- The body of the loop over the numbers: the merged counters, and what is left of the patch. -/
def addCounter (s : Dict × Dict) (k : String) : Except PyError (Dict × Dict) :=
  match s.2.get? k with
  | none => .ok s
  | some v => do
    let had ← (orElse (s.1.get? k) (.int 0)).toInt
    let more ← v.toInt
    return (s.1.set k (.int (had + more)), delKey s.2 k)

/-- The loop that adds `int(x)` to a set, and skips what is no number. -/
def addPorts (ports : Finset Int) : List Value → Except PyError (Finset Int)
  | [] => .ok ports
  | x :: xs => match x.toInt with
    | .ok n => addPorts (insert n ports) xs
    | .error .type | .error .value => addPorts ports xs
    | .error e => .error e

/-- `merged["unique_ports"] = sorted(ports)`, where the patch has a list of them. -/
def mergePorts (merged : Dict) (up : Option Value) : Except PyError Dict :=
  match up with
  | some (.list up) => do
    let had ← (orElse (merged.get? "unique_ports") (.list [])).items
    let ports ← addPorts ∅ had
    let ports ← addPorts ports up
    return merged.set "unique_ports" (.list (ports.sort.map .int))
  | _ => .ok merged

/-- `merged`: the base counters with the patch. -/
def mergeCounters (base patch : Dict) : Except PyError Dict := do
  let s ← countKeys.foldlM addCounter (base, patch)
  let merged ← mergePorts s.1 (s.2.get? "unique_ports")
  return updateDict merged (delKey s.2 "unique_ports")

/-! ## The call -/

/-- `base_counters`. -/
def baseCounters (prev : Option SummaryRow) : Dict :=
  match prev with
  | none => zeroCounters
  | some prev => updateDict zeroCounters prev.counters

/-- `first_seen`. -/
def firstSeen (prev : Option SummaryRow) (nowTs : String) : String :=
  match prev with
  | none => nowTs
  | some prev => (orElse (some (.str prev.firstSeenUtc))
      (orElse (some (.str prev.timestampUtc)) (.str nowTs))).toText

/-- `merged_symptom`. -/
def mergedSymptom (prev : Option SummaryRow) (symptom : Dict) : Dict :=
  match prev with
  | none => updateDict [] symptom
  | some prev => updateDict prev.symptom symptom

/-- The row that `update_or_write_incident_summary` appends. -/
def updateOrWrite (log : List SummaryRow) (c : Call) : Except PyError SummaryRow :=
  let prev := tailIncidentSummary log c.incidentId
  let nowTs := isoformatUtc c.now
  (mergeCounters (baseCounters prev) c.countersPatch).map fun merged =>
    { schemaVersion := schemaVersion
      eventType := "incident_summary"
      eventId := c.eventId
      timestampUtc := nowTs
      incidentId := c.incidentId
      correlationKey := c.correlationKeyVal
      title := c.title
      status := c.status
      firstSeenUtc := firstSeen prev nowTs
      lastSeenUtc := nowTs
      symptom := mergedSymptom prev c.symptom
      counters := merged
      assessment := c.assessment
      recommendedNextActions := c.recommendedNextActions }

/-- The log after a call: one that raises appends nothing. -/
def step (log : List SummaryRow) (c : Call) : List SummaryRow :=
  match updateOrWrite log c with
  | .ok row => log ++ [row]
  | .error _ => log

/-- The log after a sequence of calls. -/
def run (log : List SummaryRow) (calls : List Call) : List SummaryRow := calls.foldl step log

/-! ## What an incident's updates say -/

/-- `int(v)` returns. -/
def converts (v : Value) : Bool := v.toInt.toOption.isSome

/-- `int(v)` returns, or its exception is caught. -/
def convertsOrSkipped (v : Value) : Bool :=
  match v.toInt with
  | .ok _ | .error .type | .error .value => true
  | .error _ => false

/-- What the patch adds to a counter. -/
def amount (patch : Dict) (k : String) : Int :=
  ((patch.get? k).bind fun v => v.toInt.toOption).getD 0

/-- The items of a list, and none of anything else. -/
def listed (up : Option Value) : List Value :=
  match up with
  | some (.list up) => up
  | _ => []

/-- The ports of a patch, as they are given; ports that are in no list are ignored. -/
def givenPorts (patch : Dict) : List Value := listed (patch.get? "unique_ports")

/-- The patch is one that can be merged. -/
def acceptable (patch : Dict) : Bool :=
  countKeys.all (fun k => (patch.get? k).all converts) && (givenPorts patch).all convertsOrSkipped

/-- The updates of an incident, in their order. -/
def updates (incidentId : String) (calls : List Call) : List Call :=
  calls.filter fun c => c.incidentId == incidentId && acceptable c.countersPatch

/-- Counters that are the sums of the patches, and the union of their ports. -/
structure CountersOf (patches : List Dict) (counters : Dict) : Prop where
  nodup : counters.keys.Nodup
  sums : ∀ k ∈ countKeys, counters.get? k = some (.int (patches.map fun p => amount p k).sum)
  ports : ∃ ports : List Int, counters.get? "unique_ports" = some (.list (ports.map .int)) ∧
    ports.Pairwise (· < ·) ∧
    ∀ n, n ∈ ports ↔ ∃ p ∈ patches, ∃ x ∈ givenPorts p, x.toInt = .ok n

/-- A row that is the fold of the updates. -/
structure IsFold (us : List Call) (row : SummaryRow) : Prop where
  counters : CountersOf (us.map (·.countersPatch)) row.counters
  firstSeen : us.head?.map (fun c => isoformatUtc c.now) = some row.firstSeenUtc
  symptom : row.symptom = us.foldl (fun symptom c => updateDict symptom c.symptom) []

/-! ## Dictionaries -/

theorem get?_delKey_self (d : Dict) (k : String) : (delKey d k).get? k = none := by
  unfold delKey Dict.get?
  rw [List.lookup_eq_none_iff]
  intro e he
  have hne : e.1 ≠ k := by simpa using (List.mem_filter.mp he).2
  exact bne_iff_ne.mpr (Ne.symm hne)

theorem get?_delKey_of_ne {k k' : String} (h : k' ≠ k) (d : Dict) :
    (delKey d k).get? k' = d.get? k' := by
  unfold delKey
  exact Dict.get?_filter (p := fun key => key != k) (bne_iff_ne.mpr h) d

theorem nodup_keys_updateDict {d : Dict} (h : d.keys.Nodup) (other : Dict) :
    (updateDict d other).keys.Nodup := by
  unfold updateDict
  induction other generalizing d with
  | nil => exact h
  | cons e other ih => exact ih (Dict.nodup_keys_set e.1 e.2 h)

/-- A dictionary keeps what it holds when it is merged into another. -/
theorem get?_updateDict_of_get? {other : Dict} {k : String} {v : Value} (hnodup : other.keys.Nodup)
    (h : other.get? k = some v) (d : Dict) : (updateDict d other).get? k = some v := by
  induction other generalizing d with
  | nil => cases h
  | cons e other ih =>
    obtain ⟨k₀, v₀⟩ := e
    obtain ⟨hnew, hnodup⟩ := List.nodup_cons.mp hnodup
    change (updateDict (d.set k₀ v₀) other).get? k = some v
    by_cases hk : k = k₀
    · subst hk
      rw [get?_updateDict hnew, Dict.get?_set_self]
      simpa [Dict.get?] using h
    · apply ih hnodup
      unfold Dict.get? at h ⊢
      rwa [List.lookup_cons, beq_eq_false_iff_ne.mpr hk] at h

/-! ## The numbers -/

/-- Between the two the numbers under `keys` were added, and taken from the patch. -/
structure Added (keys : List String) (s s' : Dict × Dict) : Prop where
  sums : ∀ k ∈ keys, ∀ n, s.1.get? k = some (.int n) →
    s'.1.get? k = some (.int (n + amount s.2 k))
  others : ∀ k ∉ keys, s'.1.get? k = s.1.get? k
  left : ∀ k ∉ keys, s'.2.get? k = s.2.get? k
  nodup : s.1.keys.Nodup → s'.1.keys.Nodup
  taken : ∀ k ∈ keys, s'.2.get? k = none

theorem converts_iff {v : Value} : converts v = true ↔ ∃ n, v.toInt = .ok n := by
  unfold converts
  cases v.toInt with
  | error e => simp [Except.toOption]
  | ok n => simp [Except.toOption]

theorem amount_of_toInt {patch : Dict} {k : String} {v : Value} {n : Int}
    (hget : patch.get? k = some v) (hv : v.toInt = .ok n) : amount patch k = n := by
  simp [amount, hget, hv, Except.toOption]

theorem amount_of_none {patch : Dict} {k : String} (hget : patch.get? k = none) :
    amount patch k = 0 := by
  simp [amount, hget]

theorem amount_congr {patch patch' : Dict} {k : String} (h : patch.get? k = patch'.get? k) :
    amount patch k = amount patch' k := by
  simp [amount, h]

theorem orElse_int (n : Int) : orElse (some (.int n)) (.int 0) = .int n := by
  by_cases hn : n = 0
  · rw [hn]
    rfl
  · have htrue : (Value.int n).truthy = true := bne_iff_ne.mpr hn
    exact orElse_true htrue _

/-- A number that is there and a patch that converts. -/
theorem addCounter_added {s : Dict × Dict} {k : String} {n : Int} (hhad : s.1.get? k = some (.int n))
    (hconverts : (s.2.get? k).all converts = true) :
    ∃ s', addCounter s k = .ok s' ∧ Added [k] s s' := by
  unfold addCounter
  cases hget : s.2.get? k with
  | none =>
    refine ⟨s, rfl, ?_, fun _ _ => rfl, fun _ _ => rfl, id, ?_⟩
    · intro k' hk' m hm
      rw [List.mem_singleton.mp hk'] at hm ⊢
      rw [hm, amount_of_none hget, Int.add_zero]
    · intro k' hk'
      rw [List.mem_singleton.mp hk', hget]
  | some v =>
    rw [hget] at hconverts
    obtain ⟨more, hmore⟩ := converts_iff.mp hconverts
    refine ⟨(s.1.set k (.int (n + more)), delKey s.2 k), ?_, ?_, ?_, ?_, ?_, ?_⟩
    · dsimp only
      rw [hhad, orElse_int, hmore]
      rfl
    · intro k' hk' m hm
      rw [List.mem_singleton.mp hk'] at hm ⊢
      obtain rfl : n = m := by simpa [hhad] using hm
      rw [Dict.get?_set_self, amount_of_toInt hget hmore]
    · intro k' hk'
      exact Dict.get?_set_of_ne _ (Ne.symm (List.mem_singleton.not.mp hk'))
    · intro k' hk'
      exact get?_delKey_of_ne (List.mem_singleton.not.mp hk') _
    · exact Dict.nodup_keys_set k _
    · intro k' hk'
      rw [List.mem_singleton.mp hk']
      exact get?_delKey_self _ _

/-- A body that returns has converted what the patch has, and left the other keys of it. -/
theorem converts_of_addCounter {s s' : Dict × Dict} {k : String} (h : addCounter s k = .ok s') :
    (s.2.get? k).all converts = true ∧ ∀ k' ≠ k, s'.2.get? k' = s.2.get? k' := by
  unfold addCounter at h
  cases hget : s.2.get? k with
  | none =>
    rw [hget] at h
    cases h
    exact ⟨rfl, fun _ _ => rfl⟩
  | some v =>
    rw [hget] at h
    obtain ⟨had, -, h⟩ := bind_ok.mp h
    obtain ⟨more, hmore, h⟩ := bind_ok.mp h
    cases h
    exact ⟨converts_iff.mpr ⟨more, hmore⟩, fun k' hk' => get?_delKey_of_ne hk' _⟩

/-- One key, and then the others. -/
theorem Added.cons {k : String} {keys : List String} {s s₁ s' : Dict × Dict} (hk : k ∉ keys)
    (hhead : Added [k] s s₁) (hrest : Added keys s₁ s') : Added (k :: keys) s s' := by
  refine ⟨?_, ?_, ?_, fun h => hrest.nodup (hhead.nodup h), ?_⟩
  · intro k' hmem n hn
    rcases List.mem_cons.mp hmem with rfl | hk'
    · rw [hrest.others _ hk]
      exact hhead.sums _ (List.mem_singleton_self _) n hn
    · have hne : k' ∉ [k] := by
        rw [List.mem_singleton]
        rintro rfl
        exact hk hk'
      rw [hrest.sums k' hk' n (by rw [hhead.others k' hne, hn]),
        amount_congr (hhead.left k' hne)]
  · intro k' hk'
    obtain ⟨hne, hk'⟩ := not_or.mp (List.mem_cons.not.mp hk')
    rw [hrest.others k' hk', hhead.others k' (List.mem_singleton.not.mpr hne)]
  · intro k' hk'
    obtain ⟨hne, hk'⟩ := not_or.mp (List.mem_cons.not.mp hk')
    rw [hrest.left k' hk', hhead.left k' (List.mem_singleton.not.mpr hne)]
  · intro k' hk'
    by_cases hmem : k' ∈ keys
    · exact hrest.taken k' hmem
    · rcases List.mem_cons.mp hk' with rfl | hk'
      · rw [hrest.left _ hmem, hhead.taken _ (List.mem_singleton_self _)]
      · exact absurd hk' hmem

/-- The loop over the numbers, where each is there and the patch converts. -/
theorem addCounters_added {keys : List String} {s : Dict × Dict} (hnodup : keys.Nodup)
    (hhad : ∀ k ∈ keys, ∃ n, s.1.get? k = some (.int n))
    (hconverts : ∀ k ∈ keys, (s.2.get? k).all converts = true) :
    ∃ s', keys.foldlM addCounter s = .ok s' ∧ Added keys s s' := by
  induction keys generalizing s with
  | nil => exact ⟨s, rfl, by simp, fun _ _ => rfl, fun _ _ => rfl, id, by simp⟩
  | cons k keys ih =>
    obtain ⟨hk, hnodup⟩ := List.nodup_cons.mp hnodup
    obtain ⟨⟨n, hn⟩, hhad⟩ := List.forall_mem_cons.mp hhad
    obtain ⟨hfirst, hconverts⟩ := List.forall_mem_cons.mp hconverts
    obtain ⟨s₁, hs₁, hhead⟩ := addCounter_added hn hfirst
    have hne : ∀ k' ∈ keys, k' ∉ [k] := by
      intro k' hk'
      rw [List.mem_singleton]
      rintro rfl
      exact hk hk'
    obtain ⟨s', hs', hrest⟩ := ih hnodup
      (fun k' hk' => by rw [hhead.others k' (hne k' hk')]; exact hhad k' hk')
      (fun k' hk' => by rw [hhead.left k' (hne k' hk')]; exact hconverts k' hk')
    exact ⟨s', by rw [List.foldlM_cons, hs₁]; exact hs', hhead.cons hk hrest⟩

/-- A loop that returns has converted all that the patch has, and left the other keys of it. -/
theorem converts_of_addCounters {keys : List String} {s s' : Dict × Dict} (hnodup : keys.Nodup)
    (h : keys.foldlM addCounter s = .ok s') :
    (∀ k ∈ keys, (s.2.get? k).all converts = true) ∧ ∀ k ∉ keys, s'.2.get? k = s.2.get? k := by
  induction keys generalizing s with
  | nil =>
    cases h
    exact ⟨by simp, fun _ _ => rfl⟩
  | cons k keys ih =>
    obtain ⟨hk, hnodup⟩ := List.nodup_cons.mp hnodup
    rw [List.foldlM_cons] at h
    obtain ⟨s₁, hs₁, h⟩ := bind_ok.mp h
    obtain ⟨hfirst, hleft⟩ := converts_of_addCounter hs₁
    obtain ⟨hconverts, hothers⟩ := ih hnodup h
    constructor
    · refine List.forall_mem_cons.mpr ⟨hfirst, fun k' hk' => ?_⟩
      have hne : k' ≠ k := by
        rintro rfl
        exact hk hk'
      rw [← hleft k' hne]
      exact hconverts k' hk'
    · intro k' hk'
      obtain ⟨hne, hk'⟩ := not_or.mp (List.mem_cons.not.mp hk')
      rw [hothers k' hk', hleft k' hne]

/-! ## The ports -/

theorem mem_of_addPorts {ports q : Finset Int} {xs : List Value} (h : addPorts ports xs = .ok q)
    (n : Int) : n ∈ q ↔ n ∈ ports ∨ ∃ x ∈ xs, x.toInt = .ok n := by
  induction xs generalizing ports with
  | nil =>
    cases h
    simp
  | cons x xs ih =>
    unfold addPorts at h
    rw [List.exists_mem_cons_iff]
    split at h
    · next m hm =>
      rw [ih h, Finset.mem_insert, hm, Except.ok.injEq, eq_comm (a := m), or_assoc]
      exact or_left_comm
    · next hx =>
      rw [ih h, hx]
      simp
    · next hx =>
      rw [ih h, hx]
      simp
    · cases h

theorem exists_addPorts_iff {ports : Finset Int} {xs : List Value} :
    (∃ q, addPorts ports xs = .ok q) ↔ xs.all convertsOrSkipped = true := by
  induction xs generalizing ports with
  | nil => exact ⟨fun _ => rfl, fun _ => ⟨ports, rfl⟩⟩
  | cons x xs ih =>
    unfold addPorts
    rw [List.all_cons, Bool.and_eq_true, convertsOrSkipped]
    cases hx : x.toInt with
    | ok n => simp [ih]
    | error e => cases e <;> simp [ih]

theorem orElse_list (xs : List Value) : orElse (some (.list xs)) (.list []) = .list xs := by
  cases xs with
  | nil => rfl
  | cons x xs => rfl

theorem all_convertsOrSkipped_int (ports : List Int) :
    (ports.map Value.int).all convertsOrSkipped = true := by
  rw [List.all_map]
  exact List.all_eq_true.mpr fun _ _ => rfl

/-- Ports that are there and a patch whose ports convert. -/
theorem mergePorts_ok (merged : Dict) (up : Option Value) {had : List Int}
    (hhad : merged.get? "unique_ports" = some (.list (had.map .int)))
    (hsorted : had.Pairwise (· < ·)) (hup : (listed up).all convertsOrSkipped = true) :
    ∃ (merged' : Dict) (ports : List Int), mergePorts merged up = .ok merged' ∧
      merged'.get? "unique_ports" = some (.list (ports.map Value.int)) ∧
      ports.Pairwise (· < ·) ∧
      (∀ n, n ∈ ports ↔ n ∈ had ∨ ∃ x ∈ listed up, x.toInt = .ok n) ∧
      (∀ k ≠ "unique_ports", merged'.get? k = merged.get? k) ∧
      (merged.keys.Nodup → merged'.keys.Nodup) := by
  unfold mergePorts
  split
  · next xs =>
    obtain ⟨first, hfirst⟩ := exists_addPorts_iff.mpr (all_convertsOrSkipped_int had)
    obtain ⟨ports, hports⟩ := exists_addPorts_iff.mpr hup
    refine ⟨merged.set "unique_ports" (.list (ports.sort.map .int)), ports.sort, ?_,
      Dict.get?_set_self _ _ _, ports.sortedLT_sort.pairwise, ?_, ?_, Dict.nodup_keys_set _ _⟩
    · rw [hhad, orElse_list, Value.items, bind_ok]
      exact ⟨_, rfl, bind_ok.mpr ⟨first, hfirst, bind_ok.mpr ⟨ports, hports, rfl⟩⟩⟩
    · intro n
      rw [Finset.mem_sort, mem_of_addPorts hports, mem_of_addPorts hfirst]
      simp [Value.toInt, listed]
    · intro k hk
      exact Dict.get?_set_of_ne _ (Ne.symm hk)
  · next hnone =>
    refine ⟨merged, had, rfl, hhad, hsorted, fun n => ?_, fun _ _ => rfl, id⟩
    have hempty : listed up = [] := by
      unfold listed
      split
      · next xs => exact absurd rfl (hnone xs)
      · rfl
    simp [hempty]

/-- Ports that were merged were converted or skipped. -/
theorem convertsOrSkipped_of_mergePorts {merged merged' : Dict} {up : Option Value}
    (h : mergePorts merged up = .ok merged') : (listed up).all convertsOrSkipped = true := by
  unfold mergePorts at h
  split at h
  · obtain ⟨had, -, h⟩ := bind_ok.mp h
    obtain ⟨first, -, h⟩ := bind_ok.mp h
    obtain ⟨ports, hports, -⟩ := bind_ok.mp h
    exact exists_addPorts_iff.mp ⟨ports, hports⟩
  · next hnone =>
    unfold listed
    split
    · next xs => exact absurd rfl (hnone xs)
    · rfl

/-! ## One call -/

theorem countKeys_nodup : countKeys.Nodup := by decide

theorem uniquePorts_not_mem_countKeys : "unique_ports" ∉ countKeys := by decide

theorem ne_uniquePorts {k : String} (hk : k ∈ countKeys) : k ≠ "unique_ports" := by
  rintro rfl
  exact uniquePorts_not_mem_countKeys hk

/-- What is not among the entries that are merged in stays. -/
theorem get?_updateDict_of_none {other : Dict} {k : String} (h : other.get? k = none) (d : Dict) :
    (updateDict d other).get? k = d.get? k := by
  apply get?_updateDict
  intro hmem
  obtain ⟨e, he, hkey⟩ := List.mem_map.mp hmem
  exact absurd hkey.symm (by simpa using List.lookup_eq_none_iff.mp h e he)

theorem zeroCounters_countersOf : CountersOf [] zeroCounters := by
  refine ⟨by decide, ?_, [], rfl, List.Pairwise.nil, by simp⟩
  intro k hk
  fin_cases hk <;> rfl

/-- The counters that are read back stand over the zeros. -/
theorem CountersOf.over_zero {patches : List Dict} {counters : Dict}
    (h : CountersOf patches counters) : CountersOf patches (updateDict zeroCounters counters) := by
  obtain ⟨ports, hports, hrest⟩ := h.ports
  refine ⟨nodup_keys_updateDict zeroCounters_countersOf.nodup _, ?_, ports, ?_, hrest⟩
  · intro k hk
    exact get?_updateDict_of_get? h.nodup (h.sums k hk) _
  · exact get?_updateDict_of_get? h.nodup hports _

theorem acceptable_iff {patch : Dict} : acceptable patch = true ↔
    (∀ k ∈ countKeys, (patch.get? k).all converts = true) ∧
      (givenPorts patch).all convertsOrSkipped = true := by
  unfold acceptable
  rw [Bool.and_eq_true, List.all_eq_true]

/-- An acceptable patch is merged, and counts. -/
theorem mergeCounters_countersOf {patches : List Dict} {base patch : Dict}
    (hbase : CountersOf patches base) (hpatch : acceptable patch = true) :
    ∃ merged, mergeCounters base patch = .ok merged ∧ CountersOf (patches ++ [patch]) merged := by
  obtain ⟨hconverts, hskipped⟩ := acceptable_iff.mp hpatch
  obtain ⟨s, hs, hadded⟩ := @addCounters_added countKeys (base, patch) countKeys_nodup
    (fun k hk => ⟨_, hbase.sums k hk⟩) hconverts
  have hup : s.2.get? "unique_ports" = patch.get? "unique_ports" :=
    hadded.left _ uniquePorts_not_mem_countKeys
  obtain ⟨had, hhad, hsorted, hmem⟩ := hbase.ports
  obtain ⟨merged, ports, hmerged, hports, hsorted', hmem', hothers, hnodup⟩ :=
    mergePorts_ok s.1 (s.2.get? "unique_ports")
      (by rw [hadded.others _ uniquePorts_not_mem_countKeys]; exact hhad) hsorted
      (by rw [hup]; exact hskipped)
  refine ⟨updateDict merged (delKey s.2 "unique_ports"), ?_,
    nodup_keys_updateDict (hnodup (hadded.nodup hbase.nodup)) _, ?_, ports, ?_, hsorted', ?_⟩
  · exact bind_ok.mpr ⟨s, hs, bind_ok.mpr ⟨merged, hmerged, rfl⟩⟩
  · intro k hk
    have hgone : (delKey s.2 "unique_ports").get? k = none := by
      rw [get?_delKey_of_ne (ne_uniquePorts hk), hadded.taken k hk]
    rw [get?_updateDict_of_none hgone, hothers k (ne_uniquePorts hk),
      hadded.sums k hk _ (hbase.sums k hk)]
    simp
  · rw [get?_updateDict_of_none (get?_delKey_self _ _), hports]
  · intro n
    rw [hmem', hmem, hup]
    simp [or_and_right, exists_or, givenPorts]

/-- A patch that is merged is acceptable. -/
theorem acceptable_of_mergeCounters {base patch merged : Dict}
    (h : mergeCounters base patch = .ok merged) : acceptable patch = true := by
  obtain ⟨s, hs, h⟩ := bind_ok.mp h
  obtain ⟨merged', hmerged, -⟩ := bind_ok.mp h
  obtain ⟨hconverts, hleft⟩ := converts_of_addCounters countKeys_nodup hs
  have hskipped := convertsOrSkipped_of_mergePorts hmerged
  rw [hleft _ uniquePorts_not_mem_countKeys] at hskipped
  exact acceptable_iff.mpr ⟨hconverts, hskipped⟩

/-- The last summary of an incident, after the updates: none yet, or their fold. -/
inductive TailOf : List Call → Option SummaryRow → Prop where
  | none : TailOf [] none
  | some {us : List Call} {row : SummaryRow} : us ≠ [] → IsFold us row → TailOf us (some row)

/-- An acceptable call appends the fold of the updates with its own. -/
theorem updateOrWrite_isFold {log : List SummaryRow} {us : List Call} {c : Call}
    (htail : TailOf us (tailIncidentSummary log c.incidentId))
    (hc : acceptable c.countersPatch = true) :
    ∃ row, updateOrWrite log c = .ok row ∧ IsFold (us ++ [c]) row := by
  unfold updateOrWrite
  generalize tailIncidentSummary log c.incidentId = prev at htail
  cases htail with
  | none =>
    obtain ⟨merged, hmerged, hcounters⟩ := mergeCounters_countersOf zeroCounters_countersOf hc
    refine ⟨_, map_ok.mpr ⟨merged, hmerged, rfl⟩, ?_, rfl, rfl⟩
    exact hcounters
  | @some us prev hne hfold =>
    obtain ⟨merged, hmerged, hcounters⟩ := mergeCounters_countersOf hfold.counters.over_zero hc
    refine ⟨_, map_ok.mpr ⟨merged, hmerged, rfl⟩, ?_, ?_, ?_⟩
    · rw [List.map_append]
      exact hcounters
    · obtain ⟨first, rest, rfl⟩ := List.exists_cons_of_ne_nil hne
      have hfirst : isoformatUtc first.now = prev.firstSeenUtc := by simpa using hfold.firstSeen
      have hseen : prev.firstSeenUtc ≠ "" := by
        rw [← hfirst]
        exact isoformatUtc_ne_empty _
      rw [List.cons_append, List.head?_cons, Option.map_some, hfirst, firstSeen, orElse_str hseen]
      rfl
    · rw [List.foldl_append, ← hfold.symptom]
      rfl

/-- What a call appends is a summary of its incident, and it returns only where it accepts. -/
theorem updateOrWrite_ok {log : List SummaryRow} {c : Call} {row : SummaryRow}
    (h : updateOrWrite log c = .ok row) :
    row.eventType = "incident_summary" ∧ row.incidentId = c.incidentId ∧
      acceptable c.countersPatch = true := by
  obtain ⟨merged, hmerged, rfl⟩ := map_ok.mp h
  exact ⟨rfl, rfl, acceptable_of_mergeCounters hmerged⟩

/-! ## Runs of calls -/

theorem updates_concat (incidentId : String) (calls : List Call) (c : Call) :
    updates incidentId (calls ++ [c]) = updates incidentId calls ++
      if c.incidentId = incidentId ∧ acceptable c.countersPatch = true then [c] else [] := by
  simp [updates, List.filter_cons]

theorem run_concat (log : List SummaryRow) (calls : List Call) (c : Call) :
    run log (calls ++ [c]) = step (run log calls) c := by
  simp [run]

/-- A call changes the last summary of its own incident, and only where it accepts. -/
theorem tail_step {log : List SummaryRow} {us : List Call} {incidentId : String} (c : Call)
    (htail : TailOf us (tailIncidentSummary log incidentId)) :
    TailOf (us ++ if c.incidentId = incidentId ∧ acceptable c.countersPatch = true then [c] else [])
      (tailIncidentSummary (step log c) incidentId) := by
  by_cases hown : c.incidentId = incidentId ∧ acceptable c.countersPatch = true
  · rw [if_pos hown]
    obtain ⟨rfl, hc⟩ := hown
    obtain ⟨row, hrow, hfold⟩ := updateOrWrite_isFold htail hc
    obtain ⟨htype, hid, -⟩ := updateOrWrite_ok hrow
    rw [step, hrow, tailIncidentSummary]
    rw [LastWriter.scan_concat_self log (by rw [htype, hid])]
    exact .some (by simp) hfold
  · rw [if_neg hown, List.append_nil, step]
    cases hrow : updateOrWrite log c with
    | error e => exact htail
    | ok row =>
      obtain ⟨-, hid, hc⟩ := updateOrWrite_ok hrow
      have hother : (row.eventType, row.incidentId) ≠ ("incident_summary", incidentId) := by
        rw [hid]
        intro heq
        exact hown ⟨(Prod.mk.inj heq).2, hc⟩
      rw [tailIncidentSummary, LastWriter.scan_concat_of_ne log hother]
      exact htail

/-- Over a log without a summary of the incident, any calls leave its last summary as the fold
of its own updates, and none where there are none. -/
theorem latestSummary_isFold {log : List SummaryRow} {incidentId : String}
    (hfresh : tailIncidentSummary log incidentId = none) (calls : List Call) :
    TailOf (updates incidentId calls) (tailIncidentSummary (run log calls) incidentId) := by
  induction calls using List.reverseRecOn with
  | nil =>
    rw [run, List.foldl_nil, hfresh]
    exact .none
  | append_singleton calls c ih =>
    rw [updates_concat, run_concat]
    exact tail_step c ih

/-- Two updates of an incident, with one of another between them. -/
def interleaved : List Call :=
  [{ incidentId := "inc-1", correlationKeyVal := "k1", symptom := [("proxy_mode", .str "localhost")],
     countersPatch := [("repair_attempts", .int 1), ("unique_ports", .list [.str "8080"])],
     assessment := [], recommendedNextActions := [], now := 0, eventId := "e1" },
   { incidentId := "inc-2", correlationKeyVal := "k2", symptom := [], countersPatch := [],
     assessment := [], recommendedNextActions := [], now := 1, eventId := "e2" },
   { incidentId := "inc-1", correlationKeyVal := "k1", symptom := [],
     countersPatch := [("repair_attempts", .str "2"), ("unique_ports", .list [.int 80, .none])],
     assessment := [], recommendedNextActions := [], now := 2, eventId := "e3" }]

theorem latestSummary_isFold_interleaved :
    TailOf (updates "inc-1" interleaved) (tailIncidentSummary (run [] interleaved) "inc-1") :=
  @latestSummary_isFold [] _ rfl interleaved

example : (updates "inc-1" interleaved).map (·.eventId) = ["e1", "e3"] := by decide

end EventLog
