import NotificationService.Invariants.Holding

/-! # Rows no worker will pick up

A worker sends a notification only after popping a token of it, and tokens come from three
places only: the admission path enqueues one for each notification it creates pending, a worker
re-enqueues the one it holds, and the sweep enqueues one for each due scheduled row. So a row
that is not scheduled and of which nobody has a token is never sent again.

* **`Sys.Stranded`**, **`Sys.Stranded.step`** — such a row stays so after any step that claims
  only fresh ids (`Sys.Fresh`), which is every step but a sweep step with a failing call.
* **`failed_enqueue_never_picked_up`** — `Create` returns success when its `Enqueue` fails (the
  error is only logged), and when the `ZADD` did not land either, leaves its pending row stranded
  for good: the specification's open question about enqueue failures at admission, over every
  continuation. (A `ZADD` whose reply was lost may have landed: then the token is in the
  queue.) -/

namespace NotificationService

variable {n : Nat} {cfg : Config n}

/-- Notification `x` has an id already taken, no scheduled row, and nobody has a token of it. -/
def Sys.Stranded (s : Sys n) (x : Nat) : Prop :=
  x < s.sh.nextId ∧ ¬ s.Scheduled x ∧ ∀ h, x ∉ tokenClaims s h

/-- **A stranded notification stays stranded** across a step that claims only fresh ids: its
id is not fresh, and a row becomes scheduled only by an insert of an id someone claimed. -/
theorem Sys.Stranded.step {s s' : Sys n} {x : Nat} (hx : s.Stranded x) (hf : s.Fresh s') :
    s'.Stranded x := by
  obtain ⟨hlt, hns, hfree⟩ := hx
  refine ⟨lt_of_lt_of_le hlt hf.next, fun hs => ?_, fun h hh => ?_⟩
  · rcases hf.scheduled x hs with hs | ⟨⟨h₀, hh⟩, -⟩
    exacts [hns hs, hfree h₀ hh]
  · rcases hf.claims h x hh with ⟨h₀, hh⟩ | hle | hs
    exacts [hfree h₀ hh, absurd hlt (not_lt.2 hle), hns hs]

/-- The notification a `Create` is about to enqueue has no scheduled row: its row agrees with it
on `scheduled_at`, which is empty, and a scheduled row has one. -/
theorem RowInv.not_scheduled_of_enqueue {s : Sys n} (hrow : RowInv s) {i : Nat}
    {req : CreateRequest} {m : Notification} (hpc : s.creates i = .enqueue req m) :
    ¬ s.Scheduled m.id := by
  rintro ⟨r, hr, hid, hs⟩
  have hm := hrow.creates i
  rw [hpc] at hm
  have hfix := hrow.store.fixed_eq hm.1 hr hid
  have hsch : r.scheduledAt.map timestamptz = m.scheduledAt.map timestamptz :=
    congrArg (fun p => p.2.2.2.2.2.1) hfix
  rw [hm.2.2, Option.map_none', Option.map_eq_none'] at hsch
  have := hrow.schedules r hr hs
  rw [hsch] at this
  cases this

/-- **A `Create` whose `Enqueue` fails and did not land leaves its notification stranded for
good.** The `Create` returns the notification as created, and along any continuation whose sweep
calls succeed no thread claims it again: no token of it is enqueued, so no worker pops one and
it is never sent. -/
theorem failed_enqueue_never_picked_up {t₀ : Int} {as bs : List (Action n)} {s s₁ s' : Sys n}
    {i : Nat} {ch : Choice} {req : CreateRequest} {m : Notification}
    (hrun : (Sys.init n t₀).run cfg as = some s) (hok : ∀ a ∈ as, a.SweepOk)
    (hpc : s.creates i = .enqueue req m) (hfail : ch.ok = false)
    (hlost : ch.applied m.channel = false) (hstep : s.step cfg (.create i ch) = some s₁)
    (hrest : s₁.run cfg bs = some s') (hok' : ∀ a ∈ bs, a.SweepOk) :
    s₁.creates i = .done req (.ok m) ∧ ∀ h, m.id ∉ tokenClaims s' h := by
  have hs := (Reachable.init t₀).run as hrun
  have hi := (holdInv_init t₀).run (Reachable.init t₀) hrun hok
  have hrow := reachable_rowInv hs
  have hmi : m.id ∈ tokenClaims s (.create i) := by simp [tokenClaims, hpc, CreatePc.admits]
  have hi₁ := (hi.step hrow hstep trivial).1
  have hs₁ : Reachable cfg s₁ := .step _ hs hstep
  simp only [Sys.step] at hstep
  obtain ⟨-, ⟨sh', pc'⟩, hr, hs₁eq⟩ := Sys.thread_eq_some.1 hstep
  rw [hpc] at hr
  simp only [createStep, hfail, hlost, Bool.false_eq_true, if_false] at hr
  cases hr
  -- the failed `Enqueue` leaves the queue alone, and the `Create` lets go of the id
  have hstr : s₁.Stranded m.id := by
    subst hs₁eq
    refine ⟨hi.bound _ _ hmi, hrow.not_scheduled_of_enqueue hpc,
      hi.release hmi (by simp [tokenClaims, CreatePc.admits]) fun h hc => ?_⟩
    cases h with
    | create j => simp [tokenClaims, Function.update_noteq (fun e => hc (congrArg _ e))]
    | _ => rfl
  refine ⟨by subst hs₁eq; simp, (@Sys.run_induction n cfg (Sys.Stranded · m.id)
    (fun hs hi h hok hp => hp.step (hi.step (reachable_rowInv hs) h hok).2) _ _ _ hs₁ hi₁ hstr
    hrest hok').2.2⟩

/-- A pending request whose `Enqueue` fails without landing: the `Create` returns it, and after a
sweep and two polls of the worker nobody has a token of it. -/
theorem failed_enqueue_never_picked_up_pending :
    ∃ s s₁ s', (Sys.init 1 0).run ⟨fun _ => none, 3, fun _ => .sms⟩
        [.createArrives 0 ⟨"r", "sms", "hi", "", none, none, none, []⟩, .create 0 (.at 1),
          .create 0 (.at 1)] = some s ∧
      s.creates 0 = .enqueue ⟨"r", "sms", "hi", "", none, none, none, []⟩
        (Notification.newNotification 0 "r" .sms "hi" 1) ∧
      s.step ⟨fun _ => none, 3, fun _ => .sms⟩
        (.create 0 { Choice.at 1 with ok := false, applied := fun _ => false }) = some s₁ ∧
      s₁.run ⟨fun _ => none, 3, fun _ => .sms⟩
        [.sweep (.at 2), .worker 0 (.at 2), .worker 0 (.at 3)] = some s' ∧
      (s₁.creates 0 = .done ⟨"r", "sms", "hi", "", none, none, none, []⟩
          (.ok (Notification.newNotification 0 "r" .sms "hi" 1)) ∧
        ∀ h, (Notification.newNotification 0 "r" .sms "hi" 1).id ∉ tokenClaims s' h) := by
  obtain ⟨s, s₁, hrun, hpc, hstep, hrest⟩ := @Sys.exists_run_step_of_any 1
    ⟨fun _ => none, 3, fun _ => .sms⟩ (Sys.init 1 0)
    [.createArrives 0 ⟨"r", "sms", "hi", "", none, none, none, []⟩, .create 0 (.at 1),
      .create 0 (.at 1)] (.create 0 { Choice.at 1 with ok := false, applied := fun _ => false })
    (fun s => decide (s.creates 0 = .enqueue ⟨"r", "sms", "hi", "", none, none, none, []⟩
      (Notification.newNotification 0 "r" .sms "hi" 1)))
    (fun s₁ => (s₁.run ⟨fun _ => none, 3, fun _ => .sms⟩
      [.sweep (.at 2), .worker 0 (.at 2), .worker 0 (.at 3)]).isSome)
    (by decide)
  obtain ⟨s', hrest⟩ := Option.isSome_iff_exists.1 hrest
  exact ⟨s, s₁, s', hrun, of_decide_eq_true hpc, hstep, hrest, failed_enqueue_never_picked_up hrun
    (by decide) (of_decide_eq_true hpc) rfl rfl hstep hrest (by decide)⟩

end NotificationService
