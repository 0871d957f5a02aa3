import Mathlib.Data.List.Basic

/-!
# Programs that ask

A program is a tree: it is done, or it asks a request and goes on with the
answer. What the answers are is up to the WORLD, a state that every request
may read and change; `exec` runs a program against a world and keeps the
requests with their answers, in order.

A world that changes between two requests is one whose answers depend on more
than the program's own requests, so nothing here says that asking twice gets
the same answer twice. The run of a program is the run of its parts
(`exec_bind`), and there are two ways to say what a run does:

* `Asks P p`: whatever the answers, `p` asks nothing outside `P`. Its trace
  then holds `P` alone (`mem_trace`), and what no request of `P` breaks still
  holds at the end (`Asks.keeps`);
* `Within I P p Q`: from a state in `I` the run asks `P` alone, stays in `I`
  and returns a value in `Q`. This is for programs that would leave `P` on some
  answers, but not on those a state in `I` gives; it composes by
  `Within.bind`.
-/

namespace Interaction

variable {R : Type} {A : R → Type} {σ α β γ : Type}

/-- A program over the requests `R`, a request `r` being answered in `A r`. -/
inductive Prog {R : Type} (A : R → Type) (α : Type) : Type where
  | done (value : α)
  | ask (r : R) (next : A r → Prog A α)

namespace Prog

def bind : Prog A α → (α → Prog A β) → Prog A β
  | .done a, f => f a
  | .ask r next, f => .ask r fun a => (next a).bind f

instance : Monad (Prog A) where
  pure := .done
  bind := bind

end Prog

def request (r : R) : Prog A (A r) := .ask r .done

/-- A request with its answer. -/
abbrev Event (A : R → Type) := (r : R) × A r

structure Outcome (A : R → Type) (σ α : Type) where
  value : α
  state : σ
  trace : List (Event A)

/-! ## Runs -/

/-- The run of a program in a world that answers by `answer`. -/
def exec (answer : σ → (r : R) → A r × σ) : Prog A α → σ → Outcome A σ α
  | .done a, s => ⟨a, s, []⟩
  | .ask r next, s =>
    let now := answer s r
    let later := exec answer (next now.1) now.2
    ⟨later.value, later.state, ⟨r, now.1⟩ :: later.trace⟩

section Exec

variable (answer : σ → (r : R) → A r × σ)

@[simp]
theorem exec_pure (a : α) (s : σ) :
    exec answer (pure a : Prog A α) s = ⟨a, s, []⟩ := rfl

/-- The run of two programs, one after the other. -/
theorem exec_bind (p : Prog A α) (f : α → Prog A β) (s : σ) :
    exec answer (p >>= f) s =
      let first := exec answer p s
      let second := exec answer (f first.value) first.state
      ⟨second.value, second.state, first.trace ++ second.trace⟩ := by
  show exec answer (p.bind f) s = _
  induction p generalizing s with
  | done a => rfl
  | ask r next ih =>
    show (⟨(exec answer ((next _).bind f) _).value, _, _⟩ : Outcome A σ β) = _
    rw [ih]
    rfl

@[simp]
theorem value_bind (p : Prog A α) (f : α → Prog A β) (s : σ) :
    (exec answer (p >>= f) s).value =
      (exec answer (f (exec answer p s).value) (exec answer p s).state).value := by
  rw [exec_bind]

@[simp]
theorem state_bind (p : Prog A α) (f : α → Prog A β) (s : σ) :
    (exec answer (p >>= f) s).state =
      (exec answer (f (exec answer p s).value) (exec answer p s).state).state := by
  rw [exec_bind]

@[simp]
theorem trace_bind (p : Prog A α) (f : α → Prog A β) (s : σ) :
    (exec answer (p >>= f) s).trace =
      (exec answer p s).trace ++
        (exec answer (f (exec answer p s).value) (exec answer p s).state).trace := by
  rw [exec_bind]

end Exec

/-! ## What a program can ask -/

/-- Whatever the answers, the program asks nothing outside `P`. -/
def Asks (P : R → Prop) : Prog A α → Prop
  | .done _ => True
  | .ask r next => P r ∧ ∀ a, Asks P (next a)

namespace Asks

variable {P : R → Prop}

theorem pure (a : α) : Asks P (Pure.pure a : Prog A α) := trivial

theorem request {r : R} (h : P r) : Asks P (request r : Prog A (A r)) := ⟨h, fun _ => trivial⟩

theorem bind {p : Prog A α} {f : α → Prog A β} (hp : Asks P p) (hf : ∀ a, Asks P (f a)) :
    Asks P (p >>= f) := by
  show Asks P (p.bind f)
  induction p with
  | done a => exact hf a
  | ask r next ih => exact ⟨hp.1, fun a => ih a (hp.2 a)⟩

theorem mono {Q : R → Prop} (h : ∀ r, P r → Q r) {p : Prog A α} (hp : Asks P p) : Asks Q p := by
  induction p with
  | done a => trivial
  | ask r next ih => exact ⟨h r hp.1, fun a => ih a (hp.2 a)⟩

variable {answer : σ → (r : R) → A r × σ}

/-- The trace of a run holds what the program may ask. -/
theorem mem_trace {p : Prog A α} (hp : Asks P p) {s : σ} {e : Event A}
    (he : e ∈ (exec answer p s).trace) : P e.1 := by
  induction p generalizing s with
  | done a => exact absurd he List.not_mem_nil
  | ask r next ih =>
    rcases List.mem_cons.mp he with rfl | he
    · exact hp.1
    · exact ih _ (hp.2 _) he

/-- What no request of `P` breaks, no program over `P` breaks. -/
theorem keeps {I : σ → Prop} (hstep : ∀ s r, P r → I s → I (answer s r).2)
    {p : Prog A α} (hp : Asks P p) {s : σ} (hs : I s) : I (exec answer p s).state := by
  induction p generalizing s with
  | done a => exact hs
  | ask r next ih => exact ih _ (hp.2 _) (hstep s r hp.1 hs)

end Asks

/-! ## The requests of one kind -/

/-- What `f` keeps of the requests of a trace, in order. -/
def requested (f : R → Option β) (trace : List (Event A)) : List β :=
  trace.filterMap fun e => f e.1

@[simp]
theorem requested_append (f : R → Option β) (t t' : List (Event A)) :
    requested f (t ++ t') = requested f t ++ requested f t' := List.filterMap_append

/-- Where `f` keeps nothing of what a program may ask, it keeps nothing of its runs. -/
theorem Asks.requested_eq_nil {f : R → Option β} {p : Prog A α}
    (hp : Asks (fun r => f r = none) p) (answer : σ → (r : R) → A r × σ) (s : σ) :
    requested f (exec answer p s).trace = [] :=
  List.filterMap_eq_nil_iff.mpr fun _ he => hp.mem_trace he

/-! ## What a program does from some states -/

/-- From a state in `I` the run asks `P` alone, stays in `I` and returns a value
in `Q`. -/
def Within (answer : σ → (r : R) → A r × σ) (I : σ → Prop) (P : R → Prop) (p : Prog A α)
    (Q : α → Prop) : Prop :=
  ∀ s, I s → (∀ e ∈ (exec answer p s).trace, P e.1) ∧ I (exec answer p s).state ∧
    Q (exec answer p s).value

namespace Within

variable {answer : σ → (r : R) → A r × σ} {I : σ → Prop} {P : R → Prop}

theorem of_asks (hstep : ∀ s r, P r → I s → I (answer s r).2) {p : Prog A α} (hp : Asks P p) :
    Within answer I P p fun _ => True :=
  fun _ hs => ⟨fun _ he => hp.mem_trace he, hp.keeps hstep hs, trivial⟩

theorem pure {a : α} {Q : α → Prop} (h : Q a) : Within answer I P (Pure.pure a) Q :=
  fun _ hs => ⟨fun _ he => absurd he List.not_mem_nil, hs, h⟩

theorem bind {p : Prog A α} {f : α → Prog A β} {Q : α → Prop} {Q' : β → Prop}
    (hp : Within answer I P p Q) (hf : ∀ a, Q a → Within answer I P (f a) Q') :
    Within answer I P (p >>= f) Q' := by
  intro s hs
  obtain ⟨htrace, hstate, hvalue⟩ := hp s hs
  obtain ⟨htrace', hstate', hvalue'⟩ := hf _ hvalue _ hstate
  rw [exec_bind]
  refine ⟨?_, hstate', hvalue'⟩
  intro e he
  rcases List.mem_append.mp he with he | he
  · exact htrace e he
  · exact htrace' e he

end Within

end Interaction
