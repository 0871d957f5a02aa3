import Mathlib.Logic.Relation
import NetworkRecovery.Lib.Interaction

/-!
# Exclusive transactions

Clients run programs on one store. A transaction takes the store's only write
lock, works on a DRAFT of the store, and ends by keeping the draft or throwing
it away. Between any two requests of a transaction the others may do what they
can, which under the lock is nothing to the store; a client may also fail in
the middle, and its draft is lost.

So the store is at all times what the ended calls would have made of it one
after the other, each in one go (`reachable_replays`), and a fact about all
interleavings is a fact about `perform` (`Replays.rule`).
-/

namespace Transactions

open Interaction Relation

variable {R : Type} {A : R → Type} {σ ι α Pid : Type}

/-- How a transaction ends: with a value, its draft kept or not. -/
structure Verdict (α : Type) where
  keep : Bool
  value : α

/-- A transaction on its way. -/
structure Active (A : R → Type) (σ ι α Pid : Type) where
  pid : Pid
  call : ι
  rest : Prog A (Verdict α)
  draft : σ

structure System (A : R → Type) (σ ι α Pid : Type) where
  stored : σ
  active : Option (Active A σ ι α Pid)
  /-- the calls that ended, with what they returned, in the order they ended -/
  ended : List (ι × α)

/-- Nobody has called yet. -/
def System.init (s : σ) : System A σ ι α Pid := ⟨s, none, []⟩

section Steps

variable (answer : σ → (r : R) → A r × σ) (body : ι → Prog A (Verdict α))

/-- One move of one client. -/
inductive Step : System A σ ι α Pid → System A σ ι α Pid → Prop where
  /-- The lock is free and taken. -/
  | start {sys} (p : Pid) (c : ι) : sys.active = none →
      Step sys { sys with active := some ⟨p, c, body c, sys.stored⟩ }
  | ask {sys p c r next draft} : sys.active = some ⟨p, c, .ask r next, draft⟩ →
      Step sys
        { sys with active := some ⟨p, c, next (answer draft r).1, (answer draft r).2⟩ }
  | finish {sys p c verdict draft} : sys.active = some ⟨p, c, .done verdict, draft⟩ →
      Step sys
        ⟨if verdict.keep then draft else sys.stored, none, sys.ended ++ [(c, verdict.value)]⟩
  /-- The client is gone, and its draft with it. -/
  | fail {sys a} : sys.active = some a → Step sys { sys with active := none }

/-- The whole call in one go: the store after it, and what it returns. -/
def perform (s : σ) (c : ι) : σ × α :=
  let run := exec answer (body c) s
  (if run.value.keep then run.state else s, run.value.value)

/-- The calls, one after the other, return this and lead from one store to the
other. -/
def Replays : σ → List (ι × α) → σ → Prop
  | s, [], t => t = s
  | s, (c, a) :: rest, t => (perform answer body s c).2 = a ∧
      Replays (perform answer body s c).1 rest t

variable {answer body}

theorem Replays.concat {s t : σ} {done : List (ι × α)} (h : Replays answer body s done t) (c : ι) :
    Replays answer body s (done ++ [(c, (perform answer body t c).2)])
      (perform answer body t c).1 := by
  induction done generalizing s with
  | nil =>
    obtain rfl : t = s := h
    exact ⟨rfl, rfl⟩
  | cons e rest ih => exact ⟨h.1, ih h.2⟩

/-- What holds of the first store and is kept by every whole call holds after
any of them. -/
theorem Replays.rule {I : List (ι × α) → σ → Prop} {s t : σ} {done : List (ι × α)}
    (h : Replays answer body s done t) (hinit : I [] s)
    (hstep : ∀ done t c, I done t →
      I (done ++ [(c, (perform answer body t c).2)]) (perform answer body t c).1) : I done t := by
  suffices hgen : ∀ before, I before s → I (before ++ done) t by simpa using hgen [] hinit
  clear hinit
  induction done generalizing s with
  | nil =>
    intro before hbefore
    obtain rfl : t = s := h
    simpa using hbefore
  | cons e rest ih =>
    intro before hbefore
    obtain ⟨c, a⟩ := e
    obtain ⟨rfl, hrest⟩ := h
    have hnext := ih hrest _ (hstep before s c hbefore)
    rwa [List.append_assoc, List.singleton_append] at hnext

/-- What holds between any two steps: the ended calls explain the store, and
what is left of the active one on its draft is the whole of it on the store. -/
structure Serial (answer : σ → (r : R) → A r × σ) (body : ι → Prog A (Verdict α)) (init : σ)
    (sys : System A σ ι α Pid) : Prop where
  replays : Replays answer body init sys.ended sys.stored
  active : ∀ a, sys.active = some a →
    (exec answer a.rest a.draft).value = (exec answer (body a.call) sys.stored).value ∧
      (exec answer a.rest a.draft).state = (exec answer (body a.call) sys.stored).state

/-- A call that ends has done what it does in one go. -/
theorem Serial.finish {init : σ} {sys : System A σ ι α Pid} (h : Serial answer body init sys)
    {p : Pid} {c : ι} {verdict : Verdict α} {draft : σ}
    (hactive : sys.active = some ⟨p, c, .done verdict, draft⟩) :
    perform answer body sys.stored c =
      (if verdict.keep then draft else sys.stored, verdict.value) := by
  obtain ⟨hvalue, hstate⟩ := h.active _ hactive
  dsimp only at hvalue hstate
  unfold perform
  dsimp only
  rw [← hvalue, ← hstate]
  rfl

theorem Serial.step {init : σ} {sys sys' : System A σ ι α Pid} (h : Serial answer body init sys)
    (hstep : Step answer body sys sys') : Serial answer body init sys' := by
  cases hstep with
  | start p c hfree =>
    refine ⟨h.replays, fun a ha => ?_⟩
    obtain rfl := Option.some.inj ha
    exact ⟨rfl, rfl⟩
  | @ask p c r next draft hactive =>
    refine ⟨h.replays, fun a ha => ?_⟩
    obtain rfl := Option.some.inj ha
    exact h.active ⟨p, c, .ask r next, draft⟩ hactive
  | @finish p c verdict draft hactive =>
    refine ⟨?_, fun a ha => absurd ha (by simp)⟩
    have hconcat := h.replays.concat c
    rwa [h.finish hactive] at hconcat
  | fail hactive => exact ⟨h.replays, fun a ha => absurd ha (by simp)⟩

/-- Whatever the interleaving, the store is what the ended calls made of it. -/
theorem reachable_serial {init : σ} {sys : System A σ ι α Pid}
    (h : ReflTransGen (Step answer body) (System.init init) sys) :
    Serial answer body init sys := by
  induction h with
  | refl => exact ⟨rfl, fun a ha => absurd ha (by simp [System.init])⟩
  | tail _ hstep ih => exact ih.step hstep

/-- A step leaves the store and the returned calls alone, or is the end of one
call, done in one go. -/
theorem Serial.step_cases {init : σ} {sys sys' : System A σ ι α Pid}
    (h : Serial answer body init sys) (hstep : Step answer body sys sys') :
    (sys'.stored = sys.stored ∧ sys'.ended = sys.ended) ∨
      ∃ c, sys'.stored = (perform answer body sys.stored c).1 ∧
        sys'.ended = sys.ended ++ [(c, (perform answer body sys.stored c).2)] := by
  cases hstep with
  | start p c hfree => exact .inl ⟨rfl, rfl⟩
  | ask hactive => exact .inl ⟨rfl, rfl⟩
  | @finish p c verdict draft hactive =>
    refine .inr ⟨c, ?_, ?_⟩
    · rw [h.finish hactive]
    · rw [h.finish hactive]
  | fail hactive => exact .inl ⟨rfl, rfl⟩

/-- A transaction that nobody disturbs comes to its end. -/
theorem active_ends {p : Pid} {c : ι} (prog : Prog A (Verdict α)) : ∀ (sys : System A σ ι α Pid)
    (draft : σ), sys.active = some ⟨p, c, prog, draft⟩ →
      ReflTransGen (Step answer body) sys
        ⟨if (exec answer prog draft).value.keep then (exec answer prog draft).state else sys.stored,
          none, sys.ended ++ [(c, (exec answer prog draft).value.value)]⟩ := by
  induction prog with
  | done verdict => exact fun sys draft hactive => .single (.finish hactive)
  | ask r next ih =>
    intro sys draft hactive
    exact .head (.ask hactive) (ih (answer draft r).1 _ _ rfl)

/-- Every call can be made, when the lock is free. -/
theorem reaches_perform (p : Pid) (c : ι) {sys : System A σ ι α Pid} (hfree : sys.active = none) :
    ReflTransGen (Step answer body) sys
      ⟨(perform answer body sys.stored c).1, none,
        sys.ended ++ [(c, (perform answer body sys.stored c).2)]⟩ :=
  .head (.start p c hfree) (active_ends (body c) _ _ rfl)

end Steps

end Transactions
