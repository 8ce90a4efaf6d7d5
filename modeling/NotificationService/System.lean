import NotificationService.Service.Admission
import NotificationService.Service.Scheduler
import NotificationService.Worker.Processor

/-! # The service as an interleaving of threads

The running server (`cmd/server/main.go`) is request handlers, one scheduler and a pool of
`n` workers, each worker bound to a channel, all sharing the store and the queue. `Sys n`
holds the shared state and every thread's program counter; request threads are indexed by
`Nat` (any number of requests), workers by `Fin n`.

* **`Sys.step`** — a request arrives at an idle request slot, or one thread takes one atomic
  step (`createStep`, `batchStep`, `cancelStep`, `sweepStep`, `workerStep`). Every thread
  step reads the clock no earlier than the last reading (`Choice.Timely`) and moves it on.
* **`Reachable`** — the states some interleaving reaches from the empty system.
* **`Sys.run`**, **`exists_reachable_of_run`** — replaying a list of actions, the way the
  counterexamples exhibit a reachable state. -/

namespace NotificationService

/-- The deployment: the template repository, `RetryConfig.MaxCount`, and each worker's
channel. -/
structure Config (n : Nat) where
  templates : String → Option Template
  maxCount : Int
  workerChannel : Fin n → Channel

/-- The system with `n` workers. -/
structure Sys (n : Nat) where
  sh : Shared
  creates : Nat → CreatePc
  batches : Nat → BatchPc
  cancels : Nat → CancelPc
  sweep : SweepPc
  workers : Fin n → WorkerPc

/-- An empty store and queue, every thread idle, the clock at `t₀`. -/
def Sys.init (n : Nat) (t₀ : Int) : Sys n :=
  ⟨Shared.init t₀, fun _ => .idle, fun _ => .idle, fun _ => .idle, .idle,
    fun _ => .idle⟩

/-- What can happen next. -/
inductive Action (n : Nat)
  | createArrives (i : Nat) (req : CreateRequest)
  | batchArrives (i : Nat) (reqs : List CreateRequest)
  | cancelArrives (i : Nat) (id : Nat)
  | create (i : Nat) (ch : Choice)
  | batch (i : Nat) (ch : Choice)
  | cancel (i : Nat) (ch : Choice)
  | sweep (ch : Choice)
  | worker (i : Fin n) (ch : Choice)

namespace Sys

variable {n : Nat}

/-- A thread step: under a timely choice, the thread's step `r` gives the new shared state,
whose clock moves to the later reading, and `put` installs the thread's new pc. -/
def thread {α : Type} (s : Sys n) (ch : Choice) (r : Option (Shared × α))
    (put : α → Sys n → Sys n) : Option (Sys n) :=
  if ch.Timely s.sh then r.map fun p => put p.2 { s with sh := { p.1 with clock := ch.t₂ } }
  else none

/-- One step of the system. -/
def step (cfg : Config n) (s : Sys n) : Action n → Option (Sys n)
  | .createArrives i req =>
    if s.creates i = .idle then some { s with creates := Function.update s.creates i (.start req) }
    else none
  | .batchArrives i reqs =>
    if s.batches i = .idle then some { s with batches := Function.update s.batches i (.start reqs) }
    else none
  | .cancelArrives i id =>
    if s.cancels i = .idle then some { s with cancels := Function.update s.cancels i (.start id) }
    else none
  | .create i ch => s.thread ch (createStep cfg.templates s.sh ch (s.creates i))
      fun pc s => { s with creates := Function.update s.creates i pc }
  | .batch i ch => s.thread ch (batchStep cfg.templates s.sh ch (s.batches i))
      fun pc s => { s with batches := Function.update s.batches i pc }
  | .cancel i ch => s.thread ch (cancelStep s.sh ch (s.cancels i))
      fun pc s => { s with cancels := Function.update s.cancels i pc }
  | .sweep ch => s.thread ch (sweepStep s.sh ch s.sweep) fun pc s => { s with sweep := pc }
  | .worker i ch => s.thread ch (workerStep cfg.maxCount (cfg.workerChannel i) s.sh ch (s.workers i))
      fun pc s => { s with workers := Function.update s.workers i pc }

/-- Replay a list of actions. -/
def run (cfg : Config n) : Sys n → List (Action n) → Option (Sys n)
  | s, [] => some s
  | s, a :: as => (s.step cfg a).bind fun s' => s'.run cfg as

theorem thread_eq_some {α : Type} {s s' : Sys n} {ch : Choice} {r : Option (Shared × α)}
    {put : α → Sys n → Sys n} :
    s.thread ch r put = some s' ↔
      ch.Timely s.sh ∧ ∃ p, r = some p ∧ s' = put p.2 { s with sh := { p.1 with clock := ch.t₂ } } := by
  unfold thread
  split
  · rename_i ht
    rw [Option.map_eq_some']
    exact ⟨fun ⟨p, hr, hs⟩ => ⟨ht, p, hr, hs.symm⟩, fun ⟨_, p, hr, hs⟩ => ⟨p, hr, hs.symm⟩⟩
  · simp [*]

/-- **Frame: only its own step moves a worker.** -/
theorem step_workers {cfg : Config n} {s s' : Sys n} {a : Action n} {i : Fin n}
    (h : s.step cfg a = some s') (ha : ∀ ch, a ≠ .worker i ch) : s'.workers i = s.workers i := by
  cases a with
  | createArrives | batchArrives | cancelArrives =>
    simp only [step] at h
    split at h <;> cases h
    rfl
  | create | batch | cancel | sweep =>
    simp only [step] at h
    obtain ⟨-, p, -, rfl⟩ := thread_eq_some.1 h
    rfl
  | worker j ch =>
    simp only [step] at h
    obtain ⟨-, p, -, rfl⟩ := thread_eq_some.1 h
    have hj : i ≠ j := by rintro rfl; exact ha ch rfl
    exact Function.update_noteq hj _ _

end Sys

/-- The states some interleaving reaches. -/
inductive Reachable {n : Nat} (cfg : Config n) : Sys n → Prop
  | init (t₀ : Int) : Reachable cfg (Sys.init n t₀)
  | step {s s' : Sys n} (a : Action n) : Reachable cfg s → s.step cfg a = some s' → Reachable cfg s'

theorem Reachable.run {n : Nat} {cfg : Config n} :
    ∀ {s s' : Sys n} (as : List (Action n)), Reachable cfg s → s.run cfg as = some s' →
      Reachable cfg s'
  | _, _, [], hs, h => by cases h; exact hs
  | s, _, a :: as, hs, h => by
    cases hstep : s.step cfg a with
    | none => simp [Sys.run, hstep] at h
    | some s₁ =>
      simp only [Sys.run, hstep, Option.bind_some] at h
      exact Reachable.run as (.step a hs hstep) h

theorem Sys.exists_run_of_any {n : Nat} {cfg : Config n} {s : Sys n} {as : List (Action n)}
    {p : Sys n → Bool} (h : (s.run cfg as).any p = true) : ∃ s', s.run cfg as = some s' ∧ p s' = true := by
  cases hr : s.run cfg as with
  | none => simp [hr] at h
  | some s' => exact ⟨s', rfl, by simpa [hr] using h⟩

/-- A replay that ends where `p` holds, after which action `a` leads where `q` holds, exhibits
both states. -/
theorem Sys.exists_run_step_of_any {n : Nat} {cfg : Config n} {s : Sys n} {as : List (Action n)}
    {a : Action n} {p q : Sys n → Bool}
    (h : (s.run cfg as).any (fun s₁ => p s₁ && (s₁.step cfg a).any q) = true) :
    ∃ s₁ s₂, s.run cfg as = some s₁ ∧ p s₁ = true ∧ s₁.step cfg a = some s₂ ∧ q s₂ = true := by
  obtain ⟨s₁, hrun, hp⟩ := Sys.exists_run_of_any h
  rw [Bool.and_eq_true] at hp
  cases hst : s₁.step cfg a with
  | none => simp [hst] at hp
  | some s₂ => exact ⟨s₁, s₂, hrun, hp.1, hst, by simpa [hst] using hp.2⟩

/-- A replay from the empty system that ends where `p` holds exhibits a reachable state
where `p` holds. -/
theorem exists_reachable_of_run {n : Nat} {cfg : Config n} {t₀ : Int} {as : List (Action n)}
    {p : Sys n → Bool} (h : ((Sys.init n t₀).run cfg as).any p = true) :
    ∃ s, Reachable cfg s ∧ p s = true :=
  let ⟨s, hr, hp⟩ := Sys.exists_run_of_any h
  ⟨s, (Reachable.init t₀).run as hr, hp⟩

/-- The state a replay from the empty system ends in, when it runs to the end. -/
theorem reachable_run_getD {n : Nat} {cfg : Config n} {t₀ : Int} {as : List (Action n)}
    (h : ((Sys.init n t₀).run cfg as).isSome) :
    Reachable cfg (((Sys.init n t₀).run cfg as).getD (Sys.init n t₀)) := by
  cases hr : (Sys.init n t₀).run cfg as with
  | none => simp [hr] at h
  | some s => exact (Reachable.init t₀).run as hr

end NotificationService
