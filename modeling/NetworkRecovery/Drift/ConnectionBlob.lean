import NetworkRecovery.Drift.ProxyFix
import NetworkRecovery.Lib.Wire

/-!
# What is left of a Connections value

`DefaultConnectionSettings` and `SavedLegacySettings` hold the proxy settings a
second time, as one binary record: a version, a counter and the flags, then
three strings behind their lengths (the proxy server, the bypass list, the PAC
URL), then bytes whose meaning is Windows' own. `ConnectionBlob.read` reads a
value so. The layout is Windows', not the repository's.

`clear_wininet_connection_proxy_blob` patches four bytes at a fixed place: the
LENGTH of the proxy server. The bytes of the server stay, and where there were
any, the bypass list is from then on read out of them. So the other fields
survive exactly when there was no server to remove (`blobIntact_iff`).
-/

namespace ProxyDrift

open Interaction Wire
open ProxyGuard (ProxyRegistrySnapshot)

/-! ## The record -/

/-- A Connections value, read. -/
structure ConnectionBlob where
  version : Word
  counter : Word
  flags : Word
  proxyServer : List UInt8
  bypassList : List UInt8
  pacUrl : List UInt8
  trailer : List UInt8
  deriving DecidableEq

/-- The reading of a value, if it is well formed. -/
def ConnectionBlob.read (raw : List UInt8) : Option ConnectionBlob := do
  let (version, raw) ← readWord raw
  let (counter, raw) ← readWord raw
  let (flags, raw) ← readWord raw
  let (proxyServer, raw) ← readField raw
  let (bypassList, raw) ← readField raw
  let (pacUrl, trailer) ← readField raw
  return ⟨version, counter, flags, proxyServer, bypassList, pacUrl, trailer⟩

/-- `_PROXY_TYPE_PROXY`. -/
def proxyTypeProxy : Word := 2

/-- A record that differs from another in its manual proxy alone, which it has
not; the counter is free. -/
structure ConnectionBlob.ClearedOf (before after : ConnectionBlob) : Prop where
  version : after.version = before.version
  flags : after.flags = before.flags &&& ~~~proxyTypeProxy
  proxyServer : after.proxyServer = []
  bypassList : after.bypassList = before.bypassList
  pacUrl : after.pacUrl = before.pacUrl
  trailer : after.trailer = before.trailer

/-- The parts a value is read in, one after the other. -/
theorem ConnectionBlob.read_eq_some {raw : List UInt8} {blob : ConnectionBlob} :
    read raw = some blob ↔ ∃ raw₁ raw₂ raw₃ raw₄ raw₅,
      readWord raw = some (blob.version, raw₁) ∧ readWord raw₁ = some (blob.counter, raw₂) ∧
      readWord raw₂ = some (blob.flags, raw₃) ∧ readField raw₃ = some (blob.proxyServer, raw₄) ∧
      readField raw₄ = some (blob.bypassList, raw₅) ∧
      readField raw₅ = some (blob.pacUrl, blob.trailer) := by
  obtain ⟨version, counter, flags, proxyServer, bypassList, pacUrl, trailer⟩ := blob
  simp only [read, Option.pure_def, Option.bind_eq_bind, Option.bind_eq_some_iff, Prod.exists,
    Option.some.injEq, ConnectionBlob.mk.injEq]
  constructor
  · rintro ⟨v, r₁, h₁, c, r₂, h₂, f, r₃, h₃, s, r₄, h₄, b, r₅, h₅, p, t, h₆, rfl, rfl, rfl, rfl, rfl,
      rfl, rfl⟩
    exact ⟨r₁, r₂, r₃, r₄, r₅, h₁, h₂, h₃, h₄, h₅, h₆⟩
  · rintro ⟨r₁, r₂, r₃, r₄, r₅, h₁, h₂, h₃, h₄, h₅, h₆⟩
    exact ⟨_, r₁, h₁, _, r₂, h₂, _, r₃, h₃, _, r₄, h₄, _, r₅, h₅, _, _, h₆, rfl, rfl, rfl, rfl, rfl,
      rfl, rfl⟩

/-- A value is as long as its fields, their lengths and the three words. -/
theorem ConnectionBlob.length_of_read {raw : List UInt8} {blob : ConnectionBlob}
    (h : read raw = some blob) :
    raw.length = blob.proxyServer.length + blob.bypassList.length + blob.pacUrl.length +
      blob.trailer.length + 24 := by
  obtain ⟨raw₁, raw₂, raw₃, raw₄, raw₅, h₁, h₂, h₃, h₄, h₅, h₆⟩ := read_eq_some.mp h
  have := length_of_readWord h₁
  have := length_of_readWord h₂
  have := length_of_readWord h₃
  have := length_of_readField h₄
  have := length_of_readField h₅
  have := length_of_readField h₆
  omega

/-! ## Patching the bytes -/

theorem length_clearProxyBits (raw : List UInt8) : (clearProxyBits raw).length = raw.length := by
  simp [clearProxyBits]

/-- Patching a well-formed value: the words before the flags stay, the flags
lose their bit, and the next length is zero. -/
theorem readWord_clearProxyBits {raw raw₁ raw₂ raw₃ raw₄ : List UInt8}
    {version counter flags size : Word}
    (h₁ : readWord raw = some (version, raw₁)) (h₂ : readWord raw₁ = some (counter, raw₂))
    (h₃ : readWord raw₂ = some (flags, raw₃)) (h₄ : readWord raw₃ = some (size, raw₄)) :
    ∃ raw₁' raw₂' raw₃', readWord (clearProxyBits raw) = some (version, raw₁') ∧
      readWord raw₁' = some (counter, raw₂') ∧
      readWord raw₂' = some (flags &&& ~~~proxyTypeProxy, raw₃') ∧
      readWord raw₃' = some (0, raw₄) := by
  obtain ⟨v, v', v'', v''', rfl, rfl⟩ := readWord_eq_some.mp h₁
  obtain ⟨c, c', c'', c''', rfl, rfl⟩ := readWord_eq_some.mp h₂
  obtain ⟨f, f', f'', f''', rfl, rfl⟩ := readWord_eq_some.mp h₃
  obtain ⟨l, l', l'', l''', rfl, rfl⟩ := readWord_eq_some.mp h₄
  have hflags : word (f &&& ~~~2) f' f'' f''' = word f f' f'' f''' &&& ~~~proxyTypeProxy :=
    word_and_low f f' f'' f''' (~~~2)
  refine ⟨c :: c' :: c'' :: c''' :: (f &&& ~~~2) :: f' :: f'' :: f''' :: 0 :: 0 :: 0 :: 0 :: raw₄,
    (f &&& ~~~2) :: f' :: f'' :: f''' :: 0 :: 0 :: 0 :: 0 :: raw₄, 0 :: 0 :: 0 :: 0 :: raw₄,
    rfl, rfl, ?_, rfl⟩
  rw [← hflags]
  rfl

/-- Without a proxy server nothing moves. -/
theorem ConnectionBlob.cleared_of_noServer {raw : List UInt8} {blob : ConnectionBlob}
    (h : read raw = some blob) (hserver : blob.proxyServer = []) :
    ∃ after, read (clearProxyBits raw) = some after ∧ blob.ClearedOf after := by
  obtain ⟨raw₁, raw₂, raw₃, raw₄, raw₅, h₁, h₂, h₃, h₄, h₅, h₆⟩ := read_eq_some.mp h
  rw [hserver] at h₄
  obtain ⟨size, hsize, -⟩ := readField_eq_some.mp h₄
  obtain ⟨raw₁', raw₂', raw₃', h₁', h₂', h₃', h₄'⟩ := readWord_clearProxyBits h₁ h₂ h₃ hsize
  have hempty : readField raw₃' = some ([], raw₄) := readField_eq_some.mpr ⟨0, h₄', rfl⟩
  refine ⟨⟨blob.version, blob.counter, blob.flags &&& ~~~proxyTypeProxy, [], blob.bypassList,
    blob.pacUrl, blob.trailer⟩, ?_, rfl, rfl, rfl, rfl, rfl, rfl⟩
  exact read_eq_some.mpr ⟨raw₁', raw₂', raw₃', raw₄, raw₅, h₁', h₂', h₃', hempty, h₅, h₆⟩

/-- A server whose bytes stay is as much too long. -/
theorem ConnectionBlob.noServer_of_cleared {raw : List UInt8} {blob after : ConnectionBlob}
    (h : read raw = some blob) (hafter : read (clearProxyBits raw) = some after)
    (hcleared : blob.ClearedOf after) : blob.proxyServer = [] := by
  have hlen := length_of_read h
  have hlen' := length_of_read hafter
  rw [length_clearProxyBits, hcleared.proxyServer, hcleared.bypassList, hcleared.pacUrl,
    hcleared.trailer, List.length_nil] at hlen'
  exact List.eq_nil_of_length_eq_zero (by omega)

/-- A value that patching does not change has no server. -/
theorem ConnectionBlob.noServer_of_unpatched {raw : List UInt8} {blob : ConnectionBlob}
    (h : read raw = some blob) (hkeep : clearProxyBits raw = raw) : blob.proxyServer = [] := by
  obtain ⟨raw₁, raw₂, raw₃, raw₄, raw₅, h₁, h₂, h₃, h₄, -, -⟩ := read_eq_some.mp h
  obtain ⟨size, hsize, hlen⟩ := readField_eq_some.mp h₄
  obtain ⟨raw₁', raw₂', raw₃', h₁', h₂', h₃', h₄'⟩ := readWord_clearProxyBits h₁ h₂ h₃ hsize
  rw [hkeep, h₁] at h₁'
  obtain ⟨-, rfl⟩ := Prod.mk.inj (Option.some.inj h₁')
  rw [h₂] at h₂'
  obtain ⟨-, rfl⟩ := Prod.mk.inj (Option.some.inj h₂')
  rw [h₃] at h₃'
  obtain ⟨-, rfl⟩ := Prod.mk.inj (Option.some.inj h₃')
  rw [hsize] at h₄'
  obtain ⟨rfl, -⟩ := Prod.mk.inj (Option.some.inj h₄')
  exact List.eq_nil_of_length_eq_zero hlen.symm

/-! ## What a run writes -/

/-- The run finds these bytes in a value. -/
def Reads (trace : List (Event Answer)) (name : ConnectionValue) (raw : List UInt8) : Prop :=
  ⟨.queryConnection name, some ⟨true, raw⟩⟩ ∈ trace

/-- The run writes these bytes to a value. -/
def Writes (trace : List (Event Answer)) (name : ConnectionValue) (bytes : List UInt8) : Prop :=
  ∃ result, ⟨.setConnection name bytes, result⟩ ∈ trace

/-- The value is written, and only so, if there is something to clear in it. -/
def Patched (trace : List (Event Answer)) (name : ConnectionValue) : Prop :=
  ∀ raw, Reads trace name raw → ∀ bytes, Writes trace name bytes ↔
    bytes = clearProxyBits raw ∧ ¬ (raw.length < 16 ∨ clearProxyBits raw = raw)

/-- A request about one of the two values. -/
def About (name : ConnectionValue) (r : Request) : Prop :=
  r = .queryConnection name ∨ ∃ bytes, r = .setConnection name bytes

theorem clearConnectionValue_about (name : ConnectionValue) :
    Asks (About name) (clearConnectionValue name) := by
  refine ⟨.inl rfl, fun answer => ?_⟩
  match answer with
  | none | some ⟨false, _⟩ => exact trivial
  | some ⟨true, raw⟩ =>
    show Asks _ (if _ then _ else _)
    split
    · exact trivial
    · refine ⟨.inr ⟨_, rfl⟩, fun result => ?_⟩
      cases result with
      | ok => exact trivial
      | error e => exact trivial

/-- The run has nothing to do with the value. -/
def Silent (trace : List (Event Answer)) (name : ConnectionValue) : Prop :=
  (∀ raw, ¬ Reads trace name raw) ∧ ∀ bytes, ¬ Writes trace name bytes

/-- A trace about other values is silent about this one. -/
theorem silent_of_about {trace : List (Event Answer)} {name : ConnectionValue}
    {names : List ConnectionValue} (h : ∀ e ∈ trace, ∃ other ∈ names, About other e.1)
    (hname : name ∉ names) : Silent trace name := by
  have hother : ∀ e ∈ trace, ¬ About name e.1 := by
    intro e he habout
    obtain ⟨other, hmem, hother⟩ := h e he
    obtain rfl : name = other := by
      rcases habout with heq | ⟨bytes, heq⟩ <;> rcases hother with heq' | ⟨bytes', heq'⟩
      · exact Request.queryConnection.inj (heq.symm.trans heq')
      · exact absurd (heq.symm.trans heq') (by simp)
      · exact absurd (heq.symm.trans heq') (by simp)
      · exact (Request.setConnection.inj (heq.symm.trans heq')).1
    exact hname hmem
  exact ⟨fun raw hread => hother _ hread (.inl rfl),
    fun bytes ⟨_, hwrite⟩ => hother _ hwrite (.inr ⟨bytes, rfl⟩)⟩

theorem Patched.append_silent {first second : List (Event Answer)} {name : ConnectionValue}
    (h : Patched first name) (hsilent : Silent second name) : Patched (first ++ second) name := by
  intro raw hread bytes
  have hread : Reads first name raw :=
    (List.mem_append.mp hread).resolve_right (hsilent.1 raw)
  rw [← h raw hread bytes]
  constructor
  · rintro ⟨result, hwrite⟩
    exact ⟨result, (List.mem_append.mp hwrite).resolve_right fun h => hsilent.2 bytes ⟨result, h⟩⟩
  · rintro ⟨result, hwrite⟩
    exact ⟨result, List.mem_append_left _ hwrite⟩

theorem Patched.silent_append {first second : List (Event Answer)} {name : ConnectionValue}
    (hsilent : Silent first name) (h : Patched second name) : Patched (first ++ second) name := by
  intro raw hread bytes
  have hread : Reads second name raw :=
    (List.mem_append.mp hread).resolve_left (hsilent.1 raw)
  rw [← h raw hread bytes]
  constructor
  · rintro ⟨result, hwrite⟩
    exact ⟨result, (List.mem_append.mp hwrite).resolve_left fun h => hsilent.2 bytes ⟨result, h⟩⟩
  · rintro ⟨result, hwrite⟩
    exact ⟨result, List.mem_append_right _ hwrite⟩

theorem patched_nil (name : ConnectionValue) : Patched [] name :=
  fun _ hread => absurd hread List.not_mem_nil

/-- The requests of one pass. -/
theorem trace_clearConnectionValue (env : Nat → Tick) (name : ConnectionValue) (w : World) :
    ∃ data result, (runOn env (clearConnectionValue name) w).trace =
      ⟨.queryConnection name, data⟩ ::
        match data with
        | some ⟨true, raw⟩ =>
          if raw.length < 16 ∨ clearProxyBits raw = raw then []
          else [⟨.setConnection name (clearProxyBits raw), result⟩]
        | _ => [] := by
  let read := answer env w (.queryConnection name)
  match hdata : read.1 with
  | none | some ⟨false, _⟩ =>
    refine ⟨read.1, .ok (), ?_⟩
    show ⟨_, read.1⟩ :: (exec _ _ read.2).trace = _
    rw [hdata]
    rfl
  | some ⟨true, raw⟩ =>
    let written := answer env read.2 (.setConnection name (clearProxyBits raw))
    refine ⟨read.1, written.1, ?_⟩
    show ⟨_, read.1⟩ :: (exec _ _ read.2).trace = _
    rw [hdata]
    show _ :: (exec _ (if _ then _ else _) read.2).trace = _ :: if _ then _ else _
    split
    · rfl
    · show _ :: ⟨_, _⟩ :: (exec _ _ written.2).trace = _
      cases written.1 with
      | ok => rfl
      | error e => rfl

/-- One pass writes the patched value, or sees nothing to patch. -/
theorem clearConnectionValue_patched (env : Nat → Tick) (name : ConnectionValue) (w : World) :
    Patched (runOn env (clearConnectionValue name) w).trace name := by
  intro raw hread bytes
  obtain ⟨data, result, htrace⟩ := trace_clearConnectionValue env name w
  rw [Reads, htrace] at hread
  rw [Writes, htrace]
  have hdata : data = some ⟨true, raw⟩ := by
    rcases List.mem_cons.mp hread with heq | htail
    · simpa using heq.symm
    · exfalso
      match data with
      | none | some ⟨false, _⟩ => exact absurd htail List.not_mem_nil
      | some ⟨true, raw'⟩ =>
        dsimp only at htail
        split at htail
        · exact absurd htail List.not_mem_nil
        · exact absurd (List.mem_singleton.mp htail) (by simp)
  subst hdata
  dsimp only
  by_cases hkeep : raw.length < 16 ∨ clearProxyBits raw = raw
  · simp [hkeep]
  · rw [if_neg hkeep, and_iff_left hkeep]
    constructor
    · rintro ⟨result', hmem⟩
      rcases List.mem_cons.mp hmem with heq | htail
      · exact absurd heq (by simp)
      · have heq := congrArg Sigma.fst (List.mem_singleton.mp htail)
        exact (Request.setConnection.inj heq).2
    · rintro rfl
      exact ⟨result, List.mem_cons_of_mem _ (List.mem_singleton.mpr rfl)⟩

theorem clearConnectionValues_about (names : List ConnectionValue) : ∀ cleared : List String,
    Asks (fun r => ∃ name ∈ names, About name r) (clearConnectionValues names cleared) := by
  induction names with
  | nil => exact fun _ => trivial
  | cons first rest ih =>
    intro cleared
    refine ((clearConnectionValue_about first).mono fun r hr => ⟨first, List.mem_cons_self, hr⟩).bind
      fun outcome => ?_
    cases outcome with
    | error e => exact Asks.pure _
    | ok written =>
      refine (ih _).mono fun r ⟨name, hmem, hr⟩ => ⟨name, List.mem_cons_of_mem _ hmem, hr⟩

/-- The loop goes over each value once. -/
theorem clearConnectionValues_patched (env : Nat → Tick) (name : ConnectionValue)
    (names : List ConnectionValue) (hnodup : names.Nodup) : ∀ (cleared : List String) (w : World),
      Patched (runOn env (clearConnectionValues names cleared) w).trace name := by
  induction names with
  | nil => exact fun _ _ => patched_nil name
  | cons first rest ih =>
    intro cleared w
    obtain ⟨hfirst, hrest⟩ := List.nodup_cons.mp hnodup
    show Patched (exec _ (clearConnectionValue first >>= _) w).trace name
    rw [trace_bind]
    set pass := runOn env (clearConnectionValue first) w with hpass
    by_cases hname : first = name
    · subst hname
      refine (clearConnectionValue_patched env first w).append_silent ?_
      cases pass.value with
      | error e => exact ⟨fun _ h => absurd h List.not_mem_nil, fun _ ⟨_, h⟩ => absurd h List.not_mem_nil⟩
      | ok written =>
        exact silent_of_about (fun e he => (clearConnectionValues_about rest _).mem_trace he) hfirst
    · refine Patched.silent_append ?_ ?_
      · have hother : name ∉ [first] := by simpa using Ne.symm hname
        refine silent_of_about (fun e he => ?_) hother
        exact ⟨first, List.mem_singleton_self _, (clearConnectionValue_about first).mem_trace he⟩
      · cases pass.value with
        | error e => exact patched_nil name
        | ok written => exact ih hrest _ _

/-- The run of the function, on any machine. -/
theorem clearWininetConnectionProxyBlob_patched (env : Nat → Tick) (name : ConnectionValue)
    (w : World) : Patched (runOn env clearWininetConnectionProxyBlob w).trace name := by
  show Patched (exec _ (call .openConnections >>= _) w).trace name
  rw [trace_bind]
  refine Patched.silent_append ?_ ?_
  · have hopen : (runOn env (call .openConnections) w).trace =
      [⟨.openConnections, (answer env w .openConnections).1⟩] := rfl
    rw [hopen]
    exact ⟨fun raw h => absurd (List.mem_singleton.mp h) (by simp),
      fun bytes ⟨_, h⟩ => absurd (List.mem_singleton.mp h) (by simp)⟩
  · cases (runOn env (call .openConnections) w).value with
    | error e => exact patched_nil name
    | ok =>
      show Patched (exec _ (_ >>= _) _).trace name
      rw [trace_bind]
      exact (clearConnectionValues_patched env name _ (by decide) [] _).append_silent
        ⟨fun _ h => absurd h List.not_mem_nil, fun _ ⟨_, h⟩ => absurd h List.not_mem_nil⟩

/-- In every run of `clear_wininet_connection_proxy_blob`, on any machine: what
it writes over a well-formed value reads as that value without its manual
proxy, exactly when the value had no proxy server to begin with. -/
theorem blobIntact_iff (env : Nat → Tick) (w : World) {name : ConnectionValue} {raw : List UInt8}
    {blob : ConnectionBlob}
    (hread : Reads (runOn env clearWininetConnectionProxyBlob w).trace name raw)
    (hblob : ConnectionBlob.read raw = some blob) :
    (∀ bytes, Writes (runOn env clearWininetConnectionProxyBlob w).trace name bytes →
      ∃ after, ConnectionBlob.read bytes = some after ∧ blob.ClearedOf after) ↔
      blob.proxyServer = [] := by
  have hwrites := clearWininetConnectionProxyBlob_patched env name w raw hread
  constructor
  · intro h
    by_cases hkeep : clearProxyBits raw = raw
    · exact ConnectionBlob.noServer_of_unpatched hblob hkeep
    · have hlong : ¬ raw.length < 16 := by
        rw [ConnectionBlob.length_of_read hblob]
        omega
      have hwrite := (hwrites (clearProxyBits raw)).mpr ⟨rfl, not_or.mpr ⟨hlong, hkeep⟩⟩
      obtain ⟨after, hafter, hcleared⟩ := h _ hwrite
      exact ConnectionBlob.noServer_of_cleared hblob hafter hcleared
  · intro hserver bytes hwrite
    obtain ⟨rfl, -⟩ := (hwrites bytes).mp hwrite
    exact ConnectionBlob.cleared_of_noServer hblob hserver

/-! ## Two machines -/

/-- A value with this proxy server, a bypass list of one byte, and no PAC URL. -/
def connectionValue (server : List UInt8) : List UInt8 :=
  [0x46, 0, 0, 0, 1, 0, 0, 0, 3, 0, 0, 0] ++ (UInt8.ofNat server.length :: 0 :: 0 :: 0 :: server) ++
    [1, 0, 0, 0, 0x2A, 0, 0, 0, 0]

/-- A machine nobody else writes to, with that value in both places. -/
def machineWith (server : List UInt8) : World where
  registry := { proxyEnable := some 1 }
  connections := fun _ => some ⟨true, connectionValue server⟩

/-- The value without a server is left intact. -/
theorem blobIntact_iff_noServer :
    (∀ bytes, Writes (runOn (calm fun _ => {}) clearWininetConnectionProxyBlob (machineWith [])).trace
        .defaultConnectionSettings bytes →
      ∃ after, ConnectionBlob.read bytes = some after ∧
        (⟨0x46, 1, 3, [], [0x2A], [], []⟩ : ConnectionBlob).ClearedOf after) ↔
      ([] : List UInt8) = [] := by
  have hread : Reads (runOn (calm fun _ => {}) clearWininetConnectionProxyBlob
      (machineWith [])).trace .defaultConnectionSettings (connectionValue []) :=
    List.mem_cons_of_mem _ List.mem_cons_self
  exact blobIntact_iff (calm fun _ => {}) (machineWith []) hread (by decide)

/-- The server `a:1` is removed, and the value can no longer be read: `a:1` and
the byte behind it are now the length of the bypass list. -/
theorem blob_unreadable :
    ¬ ∀ (env : Nat → Tick) (w : World) (name : ConnectionValue) (raw : List UInt8)
        (blob : ConnectionBlob),
      Reads (runOn env clearWininetConnectionProxyBlob w).trace name raw →
      ConnectionBlob.read raw = some blob →
      ∀ bytes, Writes (runOn env clearWininetConnectionProxyBlob w).trace name bytes →
        ∃ after, ConnectionBlob.read bytes = some after ∧ blob.ClearedOf after := by
  intro h
  obtain ⟨after, hafter, -⟩ := h (calm fun _ => {}) (machineWith [0x61, 0x3A, 0x31])
    .defaultConnectionSettings (connectionValue [0x61, 0x3A, 0x31])
    ⟨0x46, 1, 3, [0x61, 0x3A, 0x31], [0x2A], [], []⟩
    (List.mem_cons_of_mem _ List.mem_cons_self) (by decide)
    (clearProxyBits (connectionValue [0x61, 0x3A, 0x31]))
    ⟨_, List.mem_cons_of_mem _ (List.mem_cons_of_mem _ List.mem_cons_self)⟩
  have hnone : ConnectionBlob.read (clearProxyBits (connectionValue [0x61, 0x3A, 0x31])) = none := by
    decide
  rw [hnone] at hafter
  exact absurd hafter (by simp)

end ProxyDrift
