import NotificationService.Invariants.Holding

/-! # The retry bound

Only a worker changes a row's `retry_count`: `handleSendError` increments the count of the copy
it sent and fails the row once the count reaches `MaxCount`. Every other writer writes back a
copy whose count it read or built (0). So the count of a row stays within
`retryBound MaxCount = max MaxCount 1`, as long as no worker sends a row that already failed at
the bound: which holds while a row at the bound has no token, and so while every sweep call
succeeds (`workers_hold_exclusively`).

* **`RetryInv`** — every row is below the bound, or at it, failed and claimed by nobody; every
  thread's copies are below the bound (a worker's final copy may be at it, failed).
* **`retry_count_bounded`** — invariant 1 of section 8 of the specification, over every run whose
  sweep calls succeed.

Each thread kind contributes one lemma, beside its step function (`createStep_retry`,
`batchStep_retry`, `cancelStep_retry`, `sweepStep_retry`, `workerStep_retry`). -/

namespace NotificationService

variable {n : Nat} {cfg : Config n}

/-- The bound on `retry_count`: `MaxCount`, or 1 when `MaxCount` is below 1, since a first
retryable failure always increments the count. -/
def retryBound (maxCount : Int) : Int := max maxCount 1

/-- Every row is below `K`, or at `K`, failed and claimed by nobody; every thread's copies are
within the bound. -/
structure RetryInv (K : Int) (s : Sys n) : Prop where
  rows : ∀ r ∈ s.sh.store, r.retryCount < K ∨
    r.retryCount = K ∧ r.status = .failed ∧ ∀ h, r.id ∉ tokenClaims s h
  creates : ∀ i, (s.creates i).RetryBelow K
  batches : ∀ i, (s.batches i).RetryBelow K
  cancels : ∀ i, (s.cancels i).RetryBelow K
  sweep : s.sweep.RetryBelow K
  workers : ∀ i, (s.workers i).RetryBelow K

section

variable {K : Int}

theorem retryInv_init (t₀ : Int) : RetryInv K (Sys.init n t₀) :=
  ⟨(fun _ hr => by cases hr), fun _ => trivial, fun _ => trivial, fun _ => trivial,
    SweepPc.retryBelow_idle K, fun _ => trivial⟩

/-- A row some thread has a token of is below `K`. -/
theorem RetryInv.claimed {s : Sys n} (hi : RetryInv K s) {h : Holder n} {x : Nat}
    (hx : x ∈ tokenClaims s h) {r : Notification} (hr : r ∈ s.sh.store) (hid : r.id = x) :
    r.retryCount < K :=
  (hi.rows r hr).resolve_right fun ⟨_, _, hfree⟩ => hfree h (hid ▸ hx)

/-- A row that has not failed is below `K`. -/
theorem RetryInv.below {s : Sys n} (hi : RetryInv K s) {r : Notification} (hr : r ∈ s.sh.store)
    (hs : r.status ≠ .failed) : r.retryCount < K :=
  (hi.rows r hr).resolve_right fun ⟨_, hf, _⟩ => hs hf

/-- **The rows after a step that claims only fresh ids** stay within the bound, if every row it
wrote is below `K` or at `K`, failed and claimed by nobody: a row at `K` is failed, so neither
fresh nor scheduled, and nobody claims it again. -/
theorem RetryInv.rows_step {s s' : Sys n} (hi : RetryInv K s) (hh : HoldInv s)
    (hwf : s.sh.store.WellFormed) (hf : s.Fresh s')
    (hrows : ∀ r ∈ s'.sh.store, r ∈ s.sh.store ∨ r.retryCount < K ∨
      r.retryCount = K ∧ r.status = .failed ∧ ∀ h, r.id ∉ tokenClaims s' h) :
    ∀ r ∈ s'.sh.store, r.retryCount < K ∨
      r.retryCount = K ∧ r.status = .failed ∧ ∀ h, r.id ∉ tokenClaims s' h := by
  intro r hr
  rcases hrows r hr with hr₀ | hr' | hr'
  · rcases hi.rows r hr₀ with hlt | ⟨hK, hfail, hfree⟩
    · exact .inl hlt
    refine .inr ⟨hK, hfail, fun h hx => ?_⟩
    rcases hf.claims h _ hx with ⟨h₀, hx₀⟩ | hle | ⟨r', hr', hid, hs⟩
    · exact hfree h₀ hx₀
    · exact absurd (hh.rows r hr₀) (not_lt.2 hle)
    -- the scheduled row with that id is `r`, which failed
    · have hr'r : r' = r := Option.some.inj <|
        (Store.getById_of_mem hwf hr').symm.trans (hid ▸ Store.getById_of_mem hwf hr₀)
      rw [hr'r, hfail] at hs
      cases hs
  · exact .inl hr'
  · exact .inr hr'

/-- **One step keeps the invariant**, for a bound `K ≥ max MaxCount 1`, if it is not a sweep
step with a failing call. -/
theorem RetryInv.step {s s' : Sys n} {a : Action n} (hi : RetryInv K s) (hh : HoldInv s)
    (hrow : RowInv s) (hK : 1 ≤ K) (hKM : cfg.maxCount ≤ K) (h : s.step cfg a = some s')
    (hok : a.SweepOk) : RetryInv K s' := by
  have hf := (hh.step hrow h hok).2
  cases a with
  | createArrives i req =>
    simp only [Sys.step] at h
    split at h <;> cases h
    exact { hi with rows := hi.rows_step hh hrow.store hf fun r hr => .inl hr
                    creates := sound_update trivial hi.creates }
  | batchArrives i reqs =>
    simp only [Sys.step] at h
    split at h <;> cases h
    exact { hi with rows := hi.rows_step hh hrow.store hf fun r hr => .inl hr
                    batches := sound_update trivial hi.batches }
  | cancelArrives i id =>
    simp only [Sys.step] at h
    split at h <;> cases h
    exact { hi with rows := hi.rows_step hh hrow.store hf fun r hr => .inl hr
                    cancels := sound_update trivial hi.cancels }
  | create i ch =>
    simp only [Sys.step] at h
    obtain ⟨-, ⟨sh', pc'⟩, hr, rfl⟩ := Sys.thread_eq_some.1 h
    obtain ⟨hpc, hst⟩ := createStep_retry hr (by omega) (hi.creates i)
    exact { hi with rows := hi.rows_step hh hrow.store hf fun r hr => (hst r hr).imp_right .inl
                    creates := sound_update hpc hi.creates }
  | batch i ch =>
    simp only [Sys.step] at h
    obtain ⟨-, ⟨sh', pc'⟩, hr, rfl⟩ := Sys.thread_eq_some.1 h
    obtain ⟨hpc, hst⟩ := batchStep_retry hr (by omega) (hi.batches i)
    exact { hi with rows := hi.rows_step hh hrow.store hf fun r hr => (hst r hr).imp_right .inl
                    batches := sound_update hpc hi.batches }
  | cancel i ch =>
    simp only [Sys.step] at h
    obtain ⟨-, ⟨sh', pc'⟩, hr, rfl⟩ := Sys.thread_eq_some.1 h
    obtain ⟨hpc, hst⟩ := cancelStep_retry hr (hi.cancels i) fun r hr hc => hi.below hr <| by
      rcases (Notification.canCancel_iff r).1 hc with hs | hs | hs <;> simp [hs]
    exact { hi with rows := hi.rows_step hh hrow.store hf fun r hr => (hst r hr).imp_right .inl
                    cancels := sound_update hpc hi.cancels }
  | sweep ch =>
    simp only [Sys.step] at h
    obtain ⟨-, ⟨sh', pc'⟩, hr, rfl⟩ := Sys.thread_eq_some.1 h
    obtain ⟨hpc, hst⟩ := sweepStep_retry hr hi.sweep fun r hr hs => hi.below hr (by simp [hs])
    exact { hi with rows := hi.rows_step hh hrow.store hf fun r hr => (hst r hr).imp_right .inl
                    sweep := hpc }
  | worker i ch =>
    simp only [Sys.step] at h
    obtain ⟨-, ⟨sh', pc'⟩, hr, rfl⟩ := Sys.thread_eq_some.1 h
    obtain ⟨hpc, hst⟩ := workerStep_retry hr hKM (hi.workers i) fun x hx r hr hid =>
      hi.claimed (show x ∈ tokenClaims s (.worker i) by simp [tokenClaims, hx]) hr hid
    refine { hi with rows := hi.rows_step hh hrow.store hf fun r hr => ?_
                     workers := sound_update hpc hi.workers }
    rcases hst r hr with hr₀ | hlt | ⟨hK', hfail, hheld, hidle, hq⟩
    · exact .inl hr₀
    · exact .inr (.inl hlt)
    -- the worker persisted the failure and let go: nobody else had a token of it
    · refine .inr (.inr ⟨hK', hfail, hh.release (show r.id ∈ tokenClaims s (.worker i) by
        simp [tokenClaims, hheld]) (by simp [tokenClaims, hidle, WorkerPc.held]) fun h hw => ?_⟩)
      cases h with
      | shared => simp [tokenClaims, Shared.tokens, hq]
      | worker j => simp [tokenClaims, Function.update_noteq (fun e => hw (congrArg _ e))]
      | _ => rfl

end

/-- **Every row's retry count stays within `max MaxCount 1`**, and a row at the bound has failed
(invariant 1 of section 8 of the specification, for `MaxCount ≥ 1`), in every state of a run
whose sweep calls all succeed. -/
theorem retry_count_bounded {t₀ : Int} {as : List (Action n)} {s : Sys n}
    (hrun : (Sys.init n t₀).run cfg as = some s) (hok : ∀ a ∈ as, a.SweepOk) :
    ∀ r ∈ s.sh.store, r.retryCount ≤ retryBound cfg.maxCount ∧
      (r.retryCount = retryBound cfg.maxCount → r.status = .failed) := by
  have hK : 1 ≤ retryBound cfg.maxCount := le_max_right _ _
  have hKM : cfg.maxCount ≤ retryBound cfg.maxCount := le_max_left _ _
  have hi := @Sys.run_induction n cfg (RetryInv (retryBound cfg.maxCount))
    (fun hs hh h hok hp => hp.step hh (reachable_rowInv hs) hK hKM h hok) _ _ _
    (.init t₀) (holdInv_init t₀) (retryInv_init t₀) hrun hok
  intro r hr
  rcases hi.rows r hr with hlt | ⟨heq, hfail, -⟩
  · exact ⟨hlt.le, fun he => absurd he hlt.ne⟩
  · exact ⟨heq.le, fun _ => hfail⟩

/-- With `MaxCount` 1, one retryable failure fails the notification at the bound. -/
theorem retry_count_bounded_at_bound :
    ∃ s, (Sys.init 1 0).run ⟨fun _ => none, 1, fun _ => .sms⟩
        [.createArrives 0 ⟨"r", "sms", "hi", "", none, none, none, []⟩, .create 0 (.at 1),
          .create 0 (.at 1), .create 0 (.at 1), .create 0 (.at 1), .worker 0 (.at 2),
          .worker 0 (.at 2), .worker 0 (.at 2),
          .worker 0 { Choice.at 2 with outcome := .transportError }, .worker 0 (.at 2)] = some s ∧
      (∃ r ∈ s.sh.store, r.retryCount = 1 ∧ r.status = .failed) ∧
      ∀ r ∈ s.sh.store, r.retryCount ≤ retryBound 1 ∧
        (r.retryCount = retryBound 1 → r.status = .failed) := by
  obtain ⟨s, hrun, hp⟩ := @Sys.exists_run_of_any 1 ⟨fun _ => none, 1, fun _ => .sms⟩
    (Sys.init 1 0) [.createArrives 0 ⟨"r", "sms", "hi", "", none, none, none, []⟩,
      .create 0 (.at 1), .create 0 (.at 1), .create 0 (.at 1), .create 0 (.at 1),
      .worker 0 (.at 2), .worker 0 (.at 2), .worker 0 (.at 2),
      .worker 0 { Choice.at 2 with outcome := .transportError }, .worker 0 (.at 2)]
    (fun s => decide (∃ r ∈ s.sh.store, r.retryCount = 1 ∧ r.status = .failed)) (by decide)
  exact ⟨s, hrun, of_decide_eq_true hp, retry_count_bounded hrun (by decide)⟩

/-- The bound needs the sweep's calls to succeed. A failed sweep `Update` lets two workers hold one
notification (`failed_sweep_update_double_hold`); with `MaxCount` 1 the first fails it at the
bound, and the second, which popped the second token, reads the failed row, which
`processNext` does not skip, sends it again and fails it past the bound. -/
example :
    ∃ s, Reachable (⟨fun _ => none, 1, fun _ => .sms⟩ : Config 2) s ∧
      ∃ r ∈ s.sh.store, retryBound 1 < r.retryCount := by
  obtain ⟨s, hs, hp⟩ := @exists_reachable_of_run 2 ⟨fun _ => none, 1, fun _ => .sms⟩ 0
    [.createArrives 0 ⟨"r", "sms", "hi", "", some 5, none, none, []⟩, .create 0 (.at 1),
      .create 0 (.at 1), .sweep (.at 5), .sweep (.at 5), .sweep { Choice.at 5 with ok := false },
      .worker 0 (.at 5), .worker 0 (.at 5), .sweep (.at 6), .sweep (.at 6), .sweep (.at 6),
      .worker 1 (.at 6), .worker 0 (.at 6), .worker 0 { Choice.at 6 with outcome := .transportError },
      .worker 0 (.at 6), .worker 1 (.at 7), .worker 1 (.at 7),
      .worker 1 { Choice.at 7 with outcome := .transportError }, .worker 1 (.at 7)]
    (fun s => decide (∃ r ∈ s.sh.store, retryBound 1 < r.retryCount)) (by decide)
  exact ⟨s, hs, of_decide_eq_true hp⟩

end NotificationService
