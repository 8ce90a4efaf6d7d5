import NotificationService.Invariants.Pickup

/-! # Each notification reaches the provider once

A worker calls `provider.Send` only with the notification of the token it popped, after writing
its copy back processing, and a call the provider accepts is followed by the final `Update` and
the end of the hold. So while every sweep call succeeds, which keeps one token or one holder per
notification at most (`workers_hold_exclusively`), the provider accepts each notification at most
once: from the accepted call on, the notification is held by the worker that made it until its
final `Update`, and is then stranded (`Sys.Stranded`) for good.

* **`Sys.accepted`**, **`Sys.acceptedAlong`** — the notification the provider accepts at a step,
  and those it accepts along a replay.
* **`Sys.SendingInv`** — no worker at its `Send` or its final `Update` has a scheduled row.
* **`provider_accepts_each_once`** — along every replay whose sweep calls succeed, no
  notification is accepted twice.

The bound on successful sweep calls is needed: a failed sweep `Update` lets two workers hold one
notification (`failed_sweep_update_double_hold`), and the provider then accepts both calls (the
example after `provider_accepts_each_once`). -/

namespace NotificationService

variable {n : Nat} {cfg : Config n}

/-- The notification the provider accepts at a step: a worker's `Send` that returns success. -/
def Sys.accepted (s : Sys n) : Action n → Option Nat
  | .worker i ch =>
    match s.workers i, ch.outcome with
    | .send m, .success _ => some m.id
    | _, _ => none
  | _ => none

/-- The notifications the provider accepts along a replay, in order, up to the first action that
is not enabled. -/
def Sys.acceptedAlong (cfg : Config n) : Sys n → List (Action n) → List Nat
  | _, [] => []
  | s, a :: as =>
    match s.step cfg a with
    | some s' => (s.accepted a).toList ++ s'.acceptedAlong cfg as
    | none => []

/-- No worker at its `Send` or its final `Update` has a scheduled row. -/
def Sys.SendingInv (s : Sys n) : Prop :=
  ∀ i x, (s.workers i).sending = true → (s.workers i).held = some x → ¬ s.Scheduled x

theorem sendingInv_init (t₀ : Int) : (Sys.init n t₀).SendingInv :=
  fun _ _ hs => by cases hs

/-- **One step keeps `SendingInv`**, if it is not a sweep step with a failing call. A row
scheduled after the step was scheduled before, since the worker holds the notification and
nobody holds a newly scheduled one; and a worker that comes to its `Send` wrote its copy back. -/
theorem Sys.SendingInv.step {s s' : Sys n} {a : Action n} (hp : s.SendingInv) (hi : HoldInv s)
    (hrow : RowInv s) (h : s.step cfg a = some s') (hok : a.SweepOk) : s'.SendingInv := by
  intro i x hsend hheld hsch
  have hclaim : x ∈ tokenClaims s' (.worker i) := by simp [tokenClaims, hheld]
  have hsch₀ : s.Scheduled x :=
    ((hi.step hrow h hok).2.scheduled x hsch).resolve_right fun ⟨_, hfree⟩ => hfree _ hclaim
  by_cases hw : ∃ ch, a = .worker i ch
  · obtain ⟨ch, rfl⟩ := hw
    simp only [Sys.step] at h
    obtain ⟨-, ⟨sh', pc'⟩, hr, rfl⟩ := Sys.thread_eq_some.1 h
    simp only [Function.update_same] at hsend hheld
    rcases workerStep_sending hr (hrow.workers i) hsend with ⟨hsend₀, hheld₀⟩ | hfree
    · exact hp i x hsend₀ (hheld₀ ▸ hheld) hsch₀
    · obtain ⟨r, hr', rfl, hs⟩ := hsch
      exact hfree r hr' hheld.symm hs
  · push_neg at hw
    rw [Sys.step_workers h hw] at hsend hheld
    exact hp i x hsend hheld hsch₀

/-- The provider accepts only at a worker's `Send` whose call succeeds. -/
theorem Sys.accepted_eq_some {s : Sys n} {a : Action n} {x : Nat} (h : s.accepted a = some x) :
    ∃ i ch m mid, a = .worker i ch ∧ s.workers i = .send m ∧ ch.outcome = .success mid ∧
      m.id = x := by
  cases a with
  | worker i ch =>
    simp only [Sys.accepted] at h
    split at h
    · rename_i m mid hpc hout
      exact ⟨i, ch, m, mid, rfl, hpc, hout, Option.some.inj h⟩
    · cases h
  | _ => cases h

/-- A worker whose `Send` the provider accepts goes on to its final `Update`. -/
theorem Sys.accepted_step {s s' : Sys n} {a : Action n} {x : Nat} (h : s.step cfg a = some s')
    (hx : s.accepted a = some x) : ∃ i m, s'.workers i = .persist m ∧ m.id = x := by
  obtain ⟨i, ch, m, mid, rfl, hpc, hout, rfl⟩ := Sys.accepted_eq_some hx
  simp only [Sys.step] at h
  obtain ⟨-, ⟨sh', pc'⟩, hr, rfl⟩ := Sys.thread_eq_some.1 h
  rw [hpc] at hr
  simp only [workerStep, afterSend, hout, Option.some.injEq, Prod.mk.injEq] at hr
  obtain ⟨-, rfl⟩ := hr
  exact ⟨i, _, Function.update_same _ _ _, rfl⟩

/-- What follows an accepted `Send` of `x`: the worker that made it is at its final `Update`, or
`x` is stranded. -/
def Sys.Sent (s : Sys n) (x : Nat) : Prop :=
  s.Stranded x ∨ ∃ i m, s.workers i = .persist m ∧ m.id = x

/-- **A sent notification is not accepted again**: the provider accepts only the notification of
a worker at its `Send`, which holds it, and a sent one is held by a worker at its final `Update`
or by nobody. -/
theorem Sys.Sent.not_accepted {s : Sys n} {x : Nat} (hx : s.Sent x) (hi : HoldInv s)
    (a : Action n) : s.accepted a ≠ some x := by
  intro hacc
  obtain ⟨j, -, m, -, rfl, hpc, -, rfl⟩ := Sys.accepted_eq_some hacc
  have hj : m.id ∈ tokenClaims s (.worker j) := by simp [tokenClaims, hpc, WorkerPc.held]
  rcases hx with ⟨-, -, hfree⟩ | ⟨i, m', hpc', hid⟩
  · exact hfree _ hj
  · have hi' : m.id ∈ tokenClaims s (.worker i) := by
      simp [tokenClaims, hpc', WorkerPc.held, hid]
    cases hi.exclusive.unique hj hi'
    rw [hpc] at hpc'
    cases hpc'

/-- **A sent notification stays sent** across a step that is not a sweep step with a failing
call: the final `Update` ends the hold and leaves the notification stranded, since no row of it
is scheduled. -/
theorem Sys.Sent.step {s s' : Sys n} {a : Action n} {x : Nat} (hx : s.Sent x) (hi : HoldInv s)
    (hrow : RowInv s) (hp : s.SendingInv) (h : s.step cfg a = some s') (hok : a.SweepOk) :
    s'.Sent x := by
  have hf := (hi.step hrow h hok).2
  rcases hx with hx | ⟨i, m, hpc, rfl⟩
  · exact .inl (hx.step hf)
  by_cases hw : ∃ ch, a = .worker i ch
  · obtain ⟨ch, rfl⟩ := hw
    have hxi : m.id ∈ tokenClaims s (.worker i) := by simp [tokenClaims, hpc, WorkerPc.held]
    have hns : ¬ s.Scheduled m.id :=
      hp i m.id (by simp [hpc, WorkerPc.sending]) (by simp [hpc, WorkerPc.held])
    simp only [Sys.step] at h
    obtain ⟨-, ⟨sh', pc'⟩, hr, rfl⟩ := Sys.thread_eq_some.1 h
    obtain ⟨-, -, -, hst⟩ := workerStep_sound hr hrow.store (hrow.workers i)
    rw [hpc] at hr
    obtain ⟨rfl, hq⟩ := workerStep_persist hr
    refine .inl ⟨lt_of_lt_of_le (hi.bound _ _ hxi) hf.next, fun hs => hns (hs.of_rewrites hst),
      hi.release hxi (by simp [tokenClaims, WorkerPc.held]) fun h hw => ?_⟩
    cases h with
    | shared => simp [tokenClaims, Shared.tokens, hq]
    | worker j => simp [tokenClaims, Function.update_noteq (fun e => hw (congrArg _ e))]
    | _ => rfl
  · push_neg at hw
    exact .inr ⟨i, m, (Sys.step_workers h hw).trans hpc, rfl⟩

/-- Along a replay from a reachable state, whose sweep calls succeed, the provider accepts only
new notifications: none of `L`, which are sent, and none twice. -/
theorem acceptedAlong_nodup {s : Sys n} {L : List Nat} (hs : Reachable cfg s) (hi : HoldInv s)
    (hp : s.SendingInv) (hL : L.Nodup) (hsent : ∀ x ∈ L, s.Sent x) :
    ∀ {as : List (Action n)}, (∀ a ∈ as, a.SweepOk) → (L ++ s.acceptedAlong cfg as).Nodup
  | [], _ => by simpa [Sys.acceptedAlong] using hL
  | a :: as, hok => by
    have ha := hok a (List.mem_cons_self _ _)
    have hrow := reachable_rowInv hs
    cases hst : s.step cfg a with
    | none => simpa [Sys.acceptedAlong, hst] using hL
    | some s' =>
      -- the notification accepted at this step, if any, is new, and is sent after it
      have hL' : (L ++ (s.accepted a).toList).Nodup := by
        cases hx : s.accepted a with
        | none => simpa using hL
        | some x =>
          exact List.nodup_append.2 ⟨hL, List.nodup_singleton _,
            List.disjoint_singleton.2 fun hxL => (hsent x hxL).not_accepted hi a hx⟩
      have hsent' : ∀ x ∈ L ++ (s.accepted a).toList, s'.Sent x := by
        intro x hx
        rcases List.mem_append.1 hx with hx | hx
        · exact (hsent x hx).step hi hrow hp hst ha
        · exact .inr (Sys.accepted_step hst (Option.mem_toList.1 hx))
      have := acceptedAlong_nodup (.step a hs hst) (hi.step hrow hst ha).1 (hp.step hi hrow hst ha)
        hL' hsent' fun b hb => hok b (List.mem_cons_of_mem _ hb)
      simpa [Sys.acceptedAlong, hst, List.append_assoc] using this

/-- **While every sweep call succeeds, the provider accepts each notification at most once**,
along every replay of the system: admissions, batches, cancels, one scheduler and any number of
workers, in any interleaving, with any store or queue failure and any provider answer. -/
theorem provider_accepts_each_once {t₀ : Int} {as : List (Action n)}
    (hok : ∀ a ∈ as, a.SweepOk) : ((Sys.init n t₀).acceptedAlong cfg as).Nodup := by
  simpa using acceptedAlong_nodup (.init t₀) (holdInv_init t₀) (sendingInv_init t₀)
    List.nodup_nil nofun hok

/-- A pending notification created and sent: the provider accepts it once. -/
theorem provider_accepts_each_once_sent :
    (Sys.init 1 0).acceptedAlong ⟨fun _ => none, 3, fun _ => .sms⟩
        [.createArrives 0 ⟨"r", "sms", "hi", "", none, none, none, []⟩, .create 0 (.at 1),
          .create 0 (.at 1), .create 0 (.at 1), .create 0 (.at 1), .worker 0 (.at 2),
          .worker 0 (.at 2), .worker 0 (.at 2), .worker 0 (.at 2), .worker 0 (.at 2)] = [0] ∧
      ((Sys.init 1 0).acceptedAlong ⟨fun _ => none, 3, fun _ => .sms⟩
        [.createArrives 0 ⟨"r", "sms", "hi", "", none, none, none, []⟩, .create 0 (.at 1),
          .create 0 (.at 1), .create 0 (.at 1), .create 0 (.at 1), .worker 0 (.at 2),
          .worker 0 (.at 2), .worker 0 (.at 2), .worker 0 (.at 2), .worker 0 (.at 2)]).Nodup :=
  ⟨by decide, provider_accepts_each_once (by decide)⟩

/-- The scheduler's `Update` of a swept row fails and the next sweep enqueues it again; the two
workers that pop its tokens both read it before either writes it back, and the provider accepts
both calls. -/
example :
    (Sys.init 2 0).acceptedAlong ⟨fun _ => none, 3, fun _ => .sms⟩
      [.createArrives 0 ⟨"r", "sms", "hi", "", some 5, none, none, []⟩, .create 0 (.at 1),
        .create 0 (.at 1), .sweep (.at 5), .sweep (.at 5), .sweep { Choice.at 5 with ok := false },
        .worker 0 (.at 5), .worker 0 (.at 5), .sweep (.at 6), .sweep (.at 6), .sweep (.at 6),
        .worker 1 (.at 6), .worker 0 (.at 6), .worker 1 (.at 6), .worker 0 (.at 6),
        .worker 1 (.at 6), .worker 1 (.at 6)] = [0, 0] := by
  decide

end NotificationService
