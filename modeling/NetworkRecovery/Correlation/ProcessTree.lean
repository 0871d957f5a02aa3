import Mathlib.Tactic.Common
import NetworkRecovery.Correlation.Causation
import NetworkRecovery.Lib.PointerWalk

/-!
# The processes above a process

`build_process_chain_nodes` follows the parent ids of an inventory, and
`ProcessTreeBuilder.ancestor_chain` the parent guids of create events. Both take the pointers as they
are recorded, and these may run in circles; both remember where they have been, which is all that ends
the first one. Either is a first part of a walk along pointers (`climb_eq`, `ancestors_eq`), turned
around.
-/

namespace Correlation

open Python PointerWalk

/-! ## By process id -/

/-- `int(v) if isinstance(v, int) else None`; a `bool` is an `int`. -/
def intInstance : Value → Option Int
  | .int n => some n
  | .bool b => some (if b then 1 else 0)
  | _ => none

/-- A process of a chain. -/
structure ChainNode where
  pid : Int
  processName : Value
  executablePath : Value
  commandLine : Value
  parentPid : Value
  listensOnLocalhostPort : Option Int

/-- `by_pid.get(pid) or {}`, where a later row replaces an earlier one. -/
def rowOf (processRows : List Dict) (pid : Int) : Dict :=
  ((processRows.filter fun r => intInstance (r.fetch "pid") = some pid).getLast?).getD []

/-- The process that the row of a process names as its parent. -/
def recordedParent (processRows : List Dict) (pid : Int) : Option Int :=
  intInstance ((rowOf processRows pid).fetch "parent_pid")

def chainNode (processRows : List Dict) (focusPid : Int) (matchedPort : Option Int) (pid : Int) :
    ChainNode :=
  let row := rowOf processRows pid
  { pid := pid
    processName := orElse (row.get? "process_name") (row.fetch "parent_process_name")
    executablePath := row.fetch "executable_path"
    commandLine := row.fetch "command_line"
    parentPid := row.fetch "parent_pid"
    listensOnLocalhostPort := if pid = focusPid then matchedPort else none }

theorem recordedParent_mem {processRows : List Dict} {pid parent : Int}
    (h : recordedParent processRows pid = some parent) :
    pid ∈ processRows.filterMap fun r => intInstance (r.fetch "pid") := by
  unfold recordedParent rowOf at h
  cases hrow : (processRows.filter fun r => intInstance (r.fetch "pid") = some pid).getLast? with
  | none =>
    rw [hrow] at h
    cases h
  | some row =>
    obtain ⟨hmem, hpid⟩ := List.mem_filter.mp (List.mem_of_getLast? hrow)
    exact List.mem_filterMap.mpr ⟨row, hmem, of_decide_eq_true hpid⟩

/-- The parent ids of an inventory. -/
def parentPids (processRows : List Dict) : Pointers Int Int where
  key := id
  next := recordedParent processRows
  known := processRows.filterMap fun r => intInstance (r.fetch "pid")
  key_mem := recordedParent_mem

section Chain

variable (processRows : List Dict) (focusPid : Int) (matchedPort : Option Int)

/-- The loop of `build_process_chain_nodes`, from the focus up; `seen` are the processes met. -/
def climb (seen : List Int) (pid : Option Int) : List ChainNode :=
  match pid with
  | none => []
  | some pid =>
    if _ : pid ∈ seen then []
    else if pid > 4 then
      chainNode processRows focusPid matchedPort pid ::
        climb (pid :: seen) (recordedParent processRows pid)
    else []
termination_by stepsLeft (parentPids processRows).known seen pid
decreasing_by exact stepsLeft_lt (parentPids processRows) ‹_›

/-- It goes along the parents for as long as they are not processes of the system. -/
theorem climb_eq (seen : List Int) (pid : Option Int) :
    climb processRows focusPid matchedPort seen pid =
      ((walk (parentPids processRows) seen pid).takeWhile fun p => p > 4).map
        (chainNode processRows focusPid matchedPort) := by
  induction seen, pid using walk.induct (parentPids processRows) with
  | case1 seen =>
    rw [climb, walk_none]
    rfl
  | case2 seen p hp =>
    have hseen : p ∈ seen := hp
    rw [climb, dif_pos hseen, walk_seen hp]
    rfl
  | case3 seen p hp ih =>
    have hseen : p ∉ seen := hp
    have hwalk : walk (parentPids processRows) seen (some p) =
        p :: walk (parentPids processRows) (p :: seen) (recordedParent processRows p) :=
      walk_fresh hp
    rw [climb, dif_neg hseen, hwalk, List.takeWhile_cons]
    by_cases hsystem : p > 4
    · rw [if_pos hsystem, if_pos (decide_eq_true hsystem), List.map_cons]
      exact congrArg _ ih
    · rw [if_neg hsystem, if_neg (by simpa using hsystem), List.map_nil]

end Chain

/-- `build_process_chain_nodes`. -/
def buildProcessChainNodes (focusPid : Option Int) (processRows : List Dict)
    (matchedPort : Option Int) : List ChainNode :=
  match focusPid with
  | none => []
  | some focusPid => (climb processRows focusPid matchedPort [] (some focusPid)).reverse

/-! ## By process guid -/

section Lower

variable (lower : List Char → List Char)

/-- `ProcessTreeBuilder.ancestor_chain` with any `max_depth`. -/
def ancestorChainTo (events : List SysmonEvent) (maxDepth : Int) (guid : Option String) :
    List LineageNode :=
  (ancestors lower events maxDepth.toNat [] guid).reverse

/-- What was read from the events goes up six processes. -/
theorem ancestorChain_eq (events : List SysmonEvent) (guid : Option String) :
    ancestorChain lower events guid = ancestorChainTo lower events 6 guid := rfl

/-- The process that the create event of a process names as its parent. -/
def recordedParentGuid (events : List SysmonEvent) (guid : String) : Option String :=
  (getCreation lower events guid).bind (·.parentProcessGuid)

/-- The node of a process, with nothing but its guid if it has no create event. -/
def lineageNode (events : List SysmonEvent) (guid : String) : LineageNode :=
  match getCreation lower events guid with
  | none => { processGuid := some guid, createEventMissing := true }
  | some ev =>
    { processGuid := ev.processGuid
      processId := ev.processId
      image := ev.image
      commandLine := ev.commandLine
      parentProcessGuid := ev.parentProcessGuid
      parentImage := ev.parentImage
      parentCommandLine := ev.parentCommandLine }

/-- The guids of the create events, in lower case. -/
def createdGuids (events : List SysmonEvent) : List (List Char) :=
  (events.filterMap (·.processGuid)).map (lowered lower)

variable {lower}

theorem getCreation_some {events : List SysmonEvent} {guid : String} {ev : SysmonEvent}
    (h : getCreation lower events guid = some ev) :
    ev ∈ events ∧ ∃ g, ev.processGuid = some g ∧ lowered lower g = lowered lower guid := by
  obtain ⟨hmem, hguid⟩ := List.mem_filter.mp (List.mem_of_getLast? h)
  obtain ⟨g, hg, hsame⟩ := (Option.any_eq_true _ _).mp (of_decide_eq_true hguid).2
  simp only [Bool.and_eq_true, beq_iff_eq] at hsame
  exact ⟨hmem, g, hg, hsame.2⟩

theorem getCreation_congr {events : List SysmonEvent} {guid guid' : String}
    (h : lowered lower guid = lowered lower guid') :
    getCreation lower events guid = getCreation lower events guid' := by
  unfold getCreation
  rw [h]

theorem recordedParentGuid_mem {events : List SysmonEvent} {guid parent : String}
    (h : recordedParentGuid lower events guid = some parent) :
    lowered lower guid ∈ createdGuids lower events := by
  obtain ⟨ev, hev, -⟩ := Option.bind_eq_some_iff.mp h
  obtain ⟨hmem, g, hg, hsame⟩ := getCreation_some hev
  exact List.mem_map.mpr ⟨g, List.mem_filterMap.mpr ⟨ev, hmem, hg⟩, hsame⟩

variable (lower)

/-- The parent guids of the create events. -/
def parentGuids (events : List SysmonEvent) : Pointers String (List Char) where
  key := lowered lower
  next := recordedParentGuid lower events
  known := createdGuids lower events
  key_mem := recordedParentGuid_mem

variable {lower}

theorem ancestors_none (events : List SysmonEvent) (depth : Nat) (seen : List (List Char)) :
    ancestors lower events depth seen none = [] := by
  cases depth with
  | zero => rfl
  | succ depth => rfl

/-- No step is made to a guid that is empty or has been met. -/
theorem ancestors_stop (events : List SysmonEvent) (depth : Nat) {seen : List (List Char)}
    {guid : String} (h : guid.isEmpty = true ∨ lowered lower guid ∈ seen) :
    ancestors lower events depth seen (some guid) = [] := by
  cases depth with
  | zero => rfl
  | succ depth =>
    have hstop : (!guid.isEmpty && !seen.contains (lowered lower guid)) = false := by
      rcases h with h | h
      · simp [h]
      · simp [h]
    rw [ancestors, Option.filter_some, hstop, if_neg Bool.false_ne_true]

/-- A step: the node of a process, and then its recorded parent. -/
theorem ancestors_step (events : List SysmonEvent) (depth : Nat) {seen : List (List Char)}
    {guid : String} (hguid : ¬ guid.isEmpty = true) (hseen : lowered lower guid ∉ seen) :
    ancestors lower events (depth + 1) seen (some guid) =
      lineageNode lower events guid ::
        ancestors lower events depth (lowered lower guid :: seen)
          (recordedParentGuid lower events guid) := by
  have hgoes : (!guid.isEmpty && !seen.contains (lowered lower guid)) = true := by
    simp [hguid, hseen]
  rw [ancestors, Option.filter_some, hgoes, if_pos rfl]
  cases hcreation : getCreation lower events guid with
  | none =>
    have hparent : recordedParentGuid lower events guid = none := by
      rw [recordedParentGuid, hcreation, Option.bind_none]
    rw [hparent, ancestors_none]
    simp only [lineageNode, hcreation]
  | some ev =>
    have hparent : recordedParentGuid lower events guid = ev.parentProcessGuid := by
      rw [recordedParentGuid, hcreation, Option.bind_some]
    rw [hparent]
    simp only [lineageNode, hcreation]

/-- It goes along the parents for as long as they have a guid, and no further than the depth. -/
theorem ancestors_eq (events : List SysmonEvent) (depth : Nat) (seen : List (List Char))
    (guid : Option String) :
    ancestors lower events depth seen guid =
      (((walk (parentGuids lower events) seen guid).takeWhile fun g => !g.isEmpty).take depth).map
        (lineageNode lower events) := by
  induction depth generalizing seen guid with
  | zero => rfl
  | succ depth ih =>
    cases guid with
    | none =>
      rw [ancestors_none, walk_none]
      rfl
    | some guid =>
      by_cases hseen : lowered lower guid ∈ seen
      · have hwalk : walk (parentGuids lower events) seen (some guid) = [] := walk_seen hseen
        rw [ancestors_stop events _ (.inr hseen), hwalk]
        rfl
      · have hwalk : walk (parentGuids lower events) seen (some guid) =
            guid :: walk (parentGuids lower events) (lowered lower guid :: seen)
              (recordedParentGuid lower events guid) := walk_fresh hseen
        rw [hwalk, List.takeWhile_cons]
        by_cases hempty : guid.isEmpty = true
        · rw [ancestors_stop events _ (.inl hempty), if_neg (by simp [hempty])]
          rfl
        · rw [ancestors_step events depth hempty hseen, if_pos (by simp [hempty]),
            List.take_succ_cons, List.map_cons, ih]

/-! ## What the chains are -/

/-- The guid of a node, in lower case. -/
def guidKey (lower : List Char → List Char) (node : LineageNode) : Option (List Char) :=
  node.processGuid.map (lowered lower)

/-- A chain of processes of which each is the recorded parent of the next, up to the focus; a process
of the system is not followed. -/
structure PidChain (processRows : List Dict) (focusPid : Int) (chain : List ChainNode) : Prop where
  distinct : (chain.map (·.pid)).Nodup
  recorded : chain.IsChain fun parent child =>
    recordedParent processRows child.pid = some parent.pid
  focus : (chain.map (·.pid)).getLast? = if focusPid > 4 then some focusPid else none
  bounded : chain.length ≤ processRows.length + 1

/-- The same by guid, of a limited length; without a guid there is no focus. -/
structure GuidChain (lower : List Char → List Char) (events : List SysmonEvent) (maxDepth : Int)
    (guid : Option String) (chain : List LineageNode) : Prop where
  distinct : (chain.map (guidKey lower)).Nodup
  recorded : chain.IsChain fun parent child => ∃ g,
    child.processGuid.bind (recordedParentGuid lower events) = some g ∧
      guidKey lower parent = some (lowered lower g)
  focus : (chain.map (guidKey lower)).getLast? =
    if maxDepth ≥ 1 then (guid.filter fun g => !g.isEmpty).map (some ∘ lowered lower) else none
  bounded : chain.length ≤ maxDepth.toNat

theorem pidChain_build (processRows : List Dict) (focusPid : Int) (matchedPort : Option Int) :
    PidChain processRows focusPid
      (buildProcessChainNodes (some focusPid) processRows matchedPort) := by
  let path := (walk (parentPids processRows) [] (some focusPid)).takeWhile fun p => p > 4
  have hchain : buildProcessChainNodes (some focusPid) processRows matchedPort =
      (path.map (chainNode processRows focusPid matchedPort)).reverse :=
    congrArg List.reverse (climb_eq processRows focusPid matchedPort [] (some focusPid))
  have hpids : (path.map (chainNode processRows focusPid matchedPort)).map (·.pid) = path := by
    rw [List.map_map]
    exact List.map_id path
  have hprefix : path <+: walk (parentPids processRows) [] (some focusPid) :=
    List.takeWhile_prefix _
  obtain ⟨hnodup, hsteps⟩ := prefix_walk hprefix
  rw [hchain]
  refine ⟨?_, ?_, ?_, ?_⟩
  · rw [List.map_reverse, List.nodup_reverse, hpids]
    rwa [← List.map_id path]
  · rw [List.isChain_reverse, List.isChain_map]
    exact hsteps
  · have hwalk : walk (parentPids processRows) [] (some focusPid) =
        focusPid :: walk (parentPids processRows) [focusPid] (recordedParent processRows focusPid) :=
      walk_fresh (List.not_mem_nil)
    have hhead : path.head? = if focusPid > 4 then some focusPid else none := by
      show (List.takeWhile _ (walk (parentPids processRows) [] (some focusPid))).head? = _
      rw [hwalk, List.takeWhile_cons]
      by_cases hsystem : focusPid > 4
      · rw [if_pos hsystem, if_pos (decide_eq_true hsystem), List.head?_cons]
      · rw [if_neg hsystem, if_neg (by simpa using hsystem), List.head?_nil]
    rw [List.map_reverse, List.getLast?_reverse, hpids, hhead]
  · have hwalk : (walk (parentPids processRows) [] (some focusPid)).length ≤ _ :=
      length_walk_le [] (some focusPid)
    have hle := hprefix.length_le
    have hknown : stepsLeft (parentPids processRows).known [] (some focusPid) ≤
        processRows.length + 1 := by
      unfold stepsLeft fresh
      have hfilter := List.length_filter_le (fun k : Int => k ∉ [])
        (parentPids processRows).known
      have hrows : (parentPids processRows).known.length ≤ processRows.length :=
        List.length_filterMap_le _ _
      rw [if_pos Option.isSome_some]
      omega
    rw [List.length_reverse, List.length_map]
    omega

/-- A node bears the guid of its process, in some spelling. -/
theorem processGuid_lineageNode (events : List SysmonEvent) (guid : String) :
    ∃ g, (lineageNode lower events guid).processGuid = some g ∧
      lowered lower g = lowered lower guid := by
  unfold lineageNode
  cases hcreation : getCreation lower events guid with
  | none => exact ⟨guid, rfl, rfl⟩
  | some ev =>
    obtain ⟨-, g, hg, hsame⟩ := getCreation_some hcreation
    exact ⟨g, hg, hsame⟩

theorem guidKey_lineageNode (events : List SysmonEvent) (guid : String) :
    guidKey lower (lineageNode lower events guid) = some (lowered lower guid) := by
  obtain ⟨g, hg, hsame⟩ := @processGuid_lineageNode lower events guid
  rw [guidKey, hg, Option.map_some, hsame]

/-- A node has the recorded parent of its process, under whichever spelling of its guid. -/
theorem recordedParentGuid_lineageNode (events : List SysmonEvent) (guid : String) :
    (lineageNode lower events guid).processGuid.bind (recordedParentGuid lower events) =
      recordedParentGuid lower events guid := by
  obtain ⟨g, hg, hsame⟩ := @processGuid_lineageNode lower events guid
  rw [hg, Option.bind_some, recordedParentGuid, recordedParentGuid, getCreation_congr hsame]

theorem guidChain_ancestorChain (events : List SysmonEvent) (maxDepth : Int)
    (guid : Option String) :
    GuidChain lower events maxDepth guid (ancestorChainTo lower events maxDepth guid) := by
  let followed := (walk (parentGuids lower events) [] guid).takeWhile fun g => !g.isEmpty
  let path := followed.take maxDepth.toNat
  have hchain : ancestorChainTo lower events maxDepth guid =
      (path.map (lineageNode lower events)).reverse :=
    congrArg List.reverse (ancestors_eq events maxDepth.toNat [] guid)
  have hkeys : (path.map (lineageNode lower events)).map (guidKey lower) =
      (path.map (lowered lower)).map some := by
    rw [List.map_map, List.map_map]
    exact List.map_congr_left fun g _ => guidKey_lineageNode events g
  have hprefix : path <+: walk (parentGuids lower events) [] guid :=
    (List.take_prefix _ _).trans (List.takeWhile_prefix _)
  obtain ⟨hnodup, hsteps⟩ := prefix_walk hprefix
  rw [hchain]
  refine ⟨?_, ?_, ?_, ?_⟩
  · rw [List.map_reverse, List.nodup_reverse, hkeys]
    exact hnodup.map (Option.some_injective _)
  · rw [List.isChain_reverse, List.isChain_map]
    refine hsteps.imp fun g parent hparent => ⟨parent, ?_, guidKey_lineageNode events parent⟩
    rw [recordedParentGuid_lineageNode]
    exact hparent
  · have hhead : followed.head? = guid.filter fun g => !g.isEmpty := by
      show (List.takeWhile _ (walk (parentGuids lower events) [] guid)).head? = _
      cases guid with
      | none =>
        rw [walk_none]
        rfl
      | some guid =>
        rw [walk_fresh (List.not_mem_nil), List.takeWhile_cons, Option.filter_some]
        split_ifs <;> rfl
    rw [List.map_reverse, List.getLast?_reverse, hkeys, List.head?_map, List.head?_map,
      List.head?_take, hhead, Option.map_map]
    split_ifs with hzero hdepth hdepth
    · omega
    · rfl
    · rfl
    · omega
  · rw [List.length_reverse, List.length_map]
    exact List.length_take_le _ _

/-- Whatever parents are recorded, the chains are well formed: no process twice, each the recorded
parent of the next, up to the focus. -/
theorem process_chains_well_formed (lower : List Char → List Char) :
    (∀ (processRows : List Dict) (focusPid : Int) (matchedPort : Option Int),
      PidChain processRows focusPid
        (buildProcessChainNodes (some focusPid) processRows matchedPort)) ∧
    ∀ (events : List SysmonEvent) (maxDepth : Int) (guid : Option String),
      GuidChain lower events maxDepth guid (ancestorChainTo lower events maxDepth guid) :=
  ⟨pidChain_build, guidChain_ancestorChain⟩

end Lower

end Correlation
