import NotificationService.Service.Shared
import NotificationService.Go.Numeric

/-! # A worker's `processNext`

`Processor` (`internal/worker`): each worker is bound to one channel and runs `processNext` in
a loop. One iteration pops a token, reads the row it names, skips rows that are sent, delivered
or cancelled, writes the row back as processing, calls the provider, and then, from the same
in-memory copy:

* on success writes it back sent, with the provider's message id;
* on a non-retryable `ProviderError` writes it back failed, with the error's message;
* otherwise increments the retry count, and writes it back failed with
  `"max retries exceeded"` once the count reaches `MaxCount`; below that it writes it back
  queued, waits the backoff delay and enqueues a new token. A context cancelled during the
  wait returns before the enqueue.

Any store or queue error ends the iteration (`processNext` returns it and the loop goes on). A
failed store call changes nothing, but a single Redis command reported failed may have run on
the server (`Choice.applied`): a `ZPOPMIN` whose reply was lost has taken the token with it, and
a backoff `Enqueue` reported failed may have added the token all the same.
The rate limiter's `Wait` before the `Dequeue` and the status broadcasts are left out: neither
touches the store or the queue. The backoff delay is a wait, so it is the environment choosing
when the worker leaves `backoff`; how long the worker waits there is `calculateBackoff` of its
copy's retry count (`WorkerPc.backoffDelay`). -/

namespace NotificationService

/-- Where a worker is in `processNext`. -/
inductive WorkerPc
  | idle
  /-- Popped this token; next: `GetByID`. -/
  | read (item : QueueItem)
  /-- Read the row and marked the copy processing; next: its `Update`. -/
  | markProcessing (n : Notification)
  /-- Persisted processing; next: `provider.Send`. -/
  | send (n : Notification)
  /-- Decided the final copy (sent or failed); next: its `Update`. -/
  | persist (n : Notification)
  /-- Decided to retry, the copy marked queued; next: its `Update`. -/
  | requeue (n : Notification)
  /-- Persisted queued; next: the backoff wait, then `Enqueue` of a new token. -/
  | backoff (n : Notification)
  deriving DecidableEq, Repr

/-- Whether `processNext` skips a row it read: already sent, delivered or cancelled. -/
def skipsRow (n : Notification) : Bool :=
  n.status == .sent || n.status == .delivered || n.status == .cancelled

/-- What `processNotification` and `handleSendError` make of the provider's answer: the copy
to write back and whether it is a retry (`requeue`) or final (`persist`). -/
def afterSend (maxCount : Int) (n : Notification) (now : Int) : SendOutcome → WorkerPc
  | .success messageId => .persist (n.markAsSent messageId now)
  | .providerError _ message false => .persist (n.markAsFailed message)
  | _ =>
    let n := n.incrementRetry
    if maxCount ≤ n.retryCount then .persist (n.markAsFailed "max retries exceeded")
    else .requeue { n with status := .queued }

/-- Whether `handleSendError` retries after this answer: every error but a non-retryable
`ProviderError`. -/
def SendOutcome.retries : SendOutcome → Bool
  | .success _ => false
  | .providerError _ _ retryable => retryable
  | .transportError => true

/-- A retried answer increments the retry count, and fails the copy once it reaches
`MaxCount`. -/
theorem afterSend_of_retries {maxCount : Int} {n : Notification} {now : Int} {o : SendOutcome}
    (h : o.retries = true) :
    afterSend maxCount n now o =
      if maxCount ≤ ((n.retryCount + 1 : Nat) : Int) then .persist (n.incrementRetry.markAsFailed "max retries exceeded")
      else .requeue { n.incrementRetry with status := .queued } := by
  rcases o with m | ⟨s, e, _ | _⟩ | _ <;> first | rfl | cases h

/-- One step of a worker bound to `channel`. -/
def workerStep (maxCount : Int) (channel : Channel) (sh : Shared) (ch : Choice) :
    WorkerPc → Option (Shared × WorkerPc)
  | .idle =>
    match dequeue sh.queue channel with
    | (some item, r) =>
      if ch.ok then some ({ sh with queue := r }, .read item)
      -- the `ZPOPMIN` failed after Redis popped the token: the token is lost
      else if ch.applied channel then some ({ sh with queue := r }, .idle)
      else some (sh, .idle)
    | (none, _) => some (sh, .idle)
  | .read item =>
    match (if ch.ok then sh.store.getById item.notificationId else none) with
    | some n => some (sh, if skipsRow n then .idle else .markProcessing n.markAsProcessing)
    | none => some (sh, .idle)
  | .markProcessing n =>
    match (if ch.ok then sh.store.update n else none) with
    | some st => some ({ sh with store := st }, .send n)
    | none => some (sh, .idle)
  | .send n => some (sh, afterSend maxCount n ch.t₁ ch.outcome)
  | .persist n =>
    match (if ch.ok then sh.store.update n else none) with
    | some st => some ({ sh with store := st }, .idle)
    | none => some (sh, .idle)
  | .requeue n =>
    match (if ch.ok then sh.store.update n else none) with
    | some st => some ({ sh with store := st }, .backoff n)
    | none => some (sh, .idle)
  | .backoff n =>
    if ch.cancelled then some (sh, .idle)
    -- a failed `ZADD` Redis applied leaves the token as a successful one does
    else if ch.ok || ch.applied n.channel then
      some ({ sh with queue := enqueue sh.queue n.queueItem ch.t₂ }, .idle)
    else some (sh, .idle)

/-- What a worker's poll does: it pops a token and goes on to read it, or loses it (a failed
`ZPOPMIN` Redis applied), or changes nothing; the table is left alone. -/
theorem workerStep_idle {maxCount : Int} {channel : Channel} {sh sh' : Shared} {ch : Choice}
    {pc' : WorkerPc} (h : workerStep maxCount channel sh ch .idle = some (sh', pc')) :
    sh'.store = sh.store ∧ sh'.nextId = sh.nextId ∧ sh'.admitted = sh.admitted ∧
      (sh' = sh ∧ pc' = .idle ∨ ∃ item, (dequeue sh.queue channel).1 = some item ∧
        sh'.queue = (dequeue sh.queue channel).2 ∧ (pc' = .read item ∨ pc' = .idle)) := by
  simp only [workerStep] at h
  split at h
  · rename_i item r hd
    split_ifs at h <;> cases h
    · exact ⟨rfl, rfl, rfl, .inr ⟨item, by rw [hd], by rw [hd], .inl rfl⟩⟩
    · exact ⟨rfl, rfl, rfl, .inr ⟨item, by rw [hd], by rw [hd], .inr rfl⟩⟩
    · exact ⟨rfl, rfl, rfl, .inl ⟨rfl, rfl⟩⟩
  · cases h; exact ⟨rfl, rfl, rfl, .inl ⟨rfl, rfl⟩⟩

/-- The backoff's `Enqueue` leaves a new token, unless the context was cancelled or the `ZADD`
failed before Redis applied it; the table is left alone. -/
theorem workerStep_backoff {maxCount : Int} {channel : Channel} {sh sh' : Shared} {ch : Choice}
    {n : Notification} {pc' : WorkerPc}
    (h : workerStep maxCount channel sh ch (.backoff n) = some (sh', pc')) :
    pc' = .idle ∧ sh'.store = sh.store ∧ sh'.nextId = sh.nextId ∧ sh'.admitted = sh.admitted ∧
      (sh'.queue = sh.queue ∨ sh'.queue = enqueue sh.queue n.queueItem ch.t₂) := by
  simp only [workerStep] at h
  split_ifs at h <;> cases h
  · exact ⟨rfl, rfl, rfl, rfl, .inl rfl⟩
  · exact ⟨rfl, rfl, rfl, rfl, .inr rfl⟩
  · exact ⟨rfl, rfl, rfl, rfl, .inl rfl⟩

/-! ## What a worker keeps of the table -/

/-- A worker's copy is a row of the table; the copy it will write back may be written back. -/
def WorkerPc.Sound (st : Store) : WorkerPc → Prop
  | .idle | .read _ => True
  | .send n | .backoff n => st.Holds n
  | .markProcessing n | .persist n | .requeue n => st.Holds n ∧ n.Writable

theorem WorkerPc.Sound.of_extends {st st' : Store} {pc : WorkerPc} (h : pc.Sound st)
    (he : st.Extends st') : pc.Sound st' := by
  cases pc with
  | idle | read => trivial
  | send | backoff => exact Store.Holds.of_extends h he
  | markProcessing | persist | requeue => exact ⟨h.1.of_extends he, h.2⟩

/-- The copy decided after a `Send` is the copy sent, with another status: sent with the
provider's message id and the send time, failed, or queued. -/
theorem afterSend_sound {st : Store} {n : Notification} (hn : st.Holds n) (maxCount : Int)
    (now : Int) (o : SendOutcome) : (afterSend maxCount n now o).Sound st := by
  unfold afterSend
  split
  · exact ⟨hn.congr rfl rfl, Notification.markAsSent_writable _ _ _⟩
  · exact ⟨hn.congr rfl rfl, Notification.writable_of_status (by simp) (by simp) (by simp)⟩
  · dsimp only
    split
    · exact ⟨hn.congr rfl rfl, Notification.writable_of_status (by simp) (by simp) (by simp)⟩
    · exact ⟨hn.congr rfl rfl, Notification.writable_of_status (by simp) (by simp) (by simp)⟩

/-- **One worker step.** It keeps the table well formed, loses no row, leaves the worker sound,
and at most rewrites the table. -/
theorem workerStep_sound {maxCount : Int} {channel : Channel} {sh sh' : Shared} {ch : Choice}
    {pc pc' : WorkerPc} (h : workerStep maxCount channel sh ch pc = some (sh', pc'))
    (hwf : sh.store.WellFormed) (hpc : pc.Sound sh.store) :
    sh'.store.WellFormed ∧ sh.store.Extends sh'.store ∧ pc'.Sound sh'.store ∧
      sh.store.Rewrites sh'.store := by
  cases pc with
  | idle =>
    obtain ⟨hst, -, -, hq⟩ := workerStep_idle h
    refine ⟨hst ▸ hwf, hst ▸ .refl _, ?_, hst ▸ .refl _⟩
    rcases hq with ⟨-, rfl⟩ | ⟨item, -, -, rfl | rfl⟩ <;> trivial
  | read item =>
    simp only [workerStep] at h
    split at h <;> cases h
    · rename_i n hn
      refine ⟨hwf, .refl _, ?_, .refl _⟩
      split
      · trivial
      · split at hn
        · exact ⟨(Store.holds_of_mem (Store.getById_eq_some hn).1).congr rfl rfl,
            Notification.writable_of_status (by simp) (by simp) (by simp)⟩
        · cases hn
    · exact ⟨hwf, .refl _, trivial, .refl _⟩
  | markProcessing n | requeue n =>
    simp only [workerStep] at h
    split at h <;> cases h
    · obtain ⟨hwf', he⟩ := hwf.update_if hpc.1 ‹_›
      exact ⟨hwf', he, hpc.1.of_extends he, .of_update_if hpc.2 ‹_›⟩
    · exact ⟨hwf, .refl _, trivial, .refl _⟩
  | persist n =>
    simp only [workerStep] at h
    split at h <;> cases h
    · obtain ⟨hwf', he⟩ := hwf.update_if hpc.1 ‹_›
      exact ⟨hwf', he, trivial, .of_update_if hpc.2 ‹_›⟩
    · exact ⟨hwf, .refl _, trivial, .refl _⟩
  | send n =>
    simp only [workerStep, Option.some.injEq, Prod.mk.injEq] at h
    obtain ⟨rfl, rfl⟩ := h
    exact ⟨hwf, .refl _, afterSend_sound hpc _ _ _, .refl _⟩
  | backoff n =>
    obtain ⟨rfl, hst, -⟩ := workerStep_backoff h
    exact ⟨hst ▸ hwf, hst ▸ .refl _, trivial, hst ▸ .refl _⟩

/-! ## The backoff delay -/

/-- `5 * time.Minute`, in nanoseconds. -/
def maxBackoff : Int := 300000000000

/-- `calculateBackoff`: `BaseDelay · 2^(retryCount − 1)` computed in `float64` and converted to
a `Duration`, then capped at five minutes. -/
def calculateBackoff (baseDelay retryCount : Int) : Int :=
  let delay := scaledDuration baseDelay (retryCount - 1)
  if maxBackoff < delay then maxBackoff else delay

/-- The wait of a worker in its backoff: `calculateBackoff` of its copy's retry count, as
`handleSendError` computes it after `IncrementRetry`. -/
def WorkerPc.backoffDelay (baseDelay : Int) : WorkerPc → Option Int
  | .backoff n => some (calculateBackoff baseDelay n.retryCount)
  | _ => none

/-- With `RETRY_BASE_DELAY` one second, the delay at retry count 35 is `2^34` s past `int64`:
the conversion gives `math.MinInt64`, which is below the cap, so the worker that requeues a
copy at that count (possible once `MAX_RETRY_COUNT ≥ 36`) waits a negative time instead of five
minutes. -/
theorem backoff_overflow_negative :
    calculateBackoff 1000000000 35 = minInt64 ∧ minInt64 < 0 ∧
      min (1000000000 * 2 ^ (35 - 1)) maxBackoff = maxBackoff ∧
      ∀ (n : Notification) (now : Int),
        afterSend 36 { n with retryCount := 34 } now .transportError =
            .requeue { n with retryCount := 35, status := .queued } ∧
          (WorkerPc.backoff { n with retryCount := 35, status := .queued }).backoffDelay
            1000000000 = some minInt64 :=
  ⟨rfl, by decide, by decide, fun _ _ => ⟨rfl, rfl⟩⟩

/-- A worker touches the table and the queue only. -/
theorem workerStep_frame {maxCount : Int} {channel : Channel} {sh sh' : Shared} {ch : Choice}
    {pc pc' : WorkerPc} (h : workerStep maxCount channel sh ch pc = some (sh', pc')) :
    sh'.nextId = sh.nextId ∧ sh'.admitted = sh.admitted := by
  cases pc with
  | idle => exact ⟨(workerStep_idle h).2.1, (workerStep_idle h).2.2.1⟩
  | backoff n => exact ⟨(workerStep_backoff h).2.2.1, (workerStep_backoff h).2.2.2.1⟩
  | send n =>
    simp only [workerStep, Option.some.injEq, Prod.mk.injEq] at h
    obtain ⟨rfl, rfl⟩ := h
    simp
  | _ =>
    simp only [workerStep] at h
    split at h <;> cases h <;> simp

/-! ## What a worker does to the tokens -/

/-- The notification a worker holds: from the `Dequeue` that popped its token to the end of
the iteration, the backoff wait included. -/
def WorkerPc.held : WorkerPc → Option Nat
  | .idle => none
  | .read item => some item.notificationId
  | .markProcessing m | .send m | .persist m | .requeue m | .backoff m => some m.id

theorem afterSend_held (maxCount : Int) (n : Notification) (now : Int) (o : SendOutcome) :
    (afterSend maxCount n now o).held = some n.id := by
  unfold afterSend
  split
  · rfl
  · rfl
  · dsimp only
    split <;> rfl

/-- **A worker moves tokens only between itself and the queue.** -/
theorem workerStep_moves {maxCount : Int} {channel : Channel} {sh sh' : Shared} {ch : Choice}
    {pc pc' : WorkerPc} (h : workerStep maxCount channel sh ch pc = some (sh', pc'))
    (hk : sh.queue.Keyed) : sh.Moves sh' pc.held.toList pc'.held.toList [] := by
  cases pc with
  | idle =>
    obtain ⟨-, -, -, ⟨rfl, rfl⟩ | ⟨item, hd, hq, rfl | rfl⟩⟩ := workerStep_idle h
    · exact Shared.moves_nil hk rfl
    · exact Shared.moves_dequeue hk hq hd
    · exact (Shared.moves_dequeue hk hq hd).forget
  | read item =>
    simp only [workerStep] at h
    split at h <;> cases h
    · rename_i n hn
      refine Shared.moves_of_sublist hk rfl ?_
      split
      · exact List.nil_sublist _
      · split at hn
        · simp [WorkerPc.held, Notification.markAsProcessing, (Store.getById_eq_some hn).2]
        · cases hn
    · exact Shared.moves_nil hk rfl
  | markProcessing n | requeue n =>
    simp only [workerStep] at h
    split at h <;> cases h
    · exact Shared.moves_of_sublist hk rfl (by simp [WorkerPc.held])
    · exact Shared.moves_nil hk rfl
  | persist n =>
    simp only [workerStep] at h
    split at h <;> cases h <;> exact Shared.moves_nil hk rfl
  | send n =>
    simp only [workerStep, Option.some.injEq, Prod.mk.injEq] at h
    obtain ⟨rfl, rfl⟩ := h
    exact Shared.moves_of_sublist hk rfl (by rw [afterSend_held]; simp [WorkerPc.held])
  | backoff n =>
    obtain ⟨rfl, -, -, -, hq | hq⟩ := workerStep_backoff h
    · exact Shared.moves_nil hk hq
    · exact Shared.moves_enqueue hk hq (by simp [WorkerPc.held])

/-! ## Retry counts

`processNext` increments the retry count of the copy it sent, and persists it failed once the
count reaches `MaxCount`. So a worker whose copy is below a bound `K ≥ MaxCount` writes a row
at `K` only as that final failure, in the step that ends its hold. -/

/-- A worker's copies are below `K`, except the one it will persist, which may be at `K` as a
failure. -/
def WorkerPc.RetryBelow (K : Int) : WorkerPc → Prop
  | .idle | .read _ => True
  | .markProcessing n | .send n | .requeue n | .backoff n => n.retryCount < K
  | .persist n => n.retryCount < K ∨ n.retryCount = K ∧ n.status = .failed

/-- After a `Send` of a copy below `K ≥ MaxCount`, the decided copy is below `K` or at `K` and
failed: only a retry grows the count, by one, and a count at `MaxCount` fails the row. -/
theorem afterSend_retry {maxCount K : Int} (hK : maxCount ≤ K) {n : Notification}
    (hn : n.retryCount < K) (now : Int) (o : SendOutcome) :
    (afterSend maxCount n now o).RetryBelow K := by
  unfold afterSend
  split
  · exact Or.inl hn
  · exact Or.inl hn
  · dsimp only
    have hinc : n.incrementRetry.retryCount = n.retryCount + 1 := rfl
    split
    · rcases (show (n.incrementRetry.retryCount : Int) ≤ K by omega).lt_or_eq with hlt | heq
      exacts [Or.inl hlt, Or.inr ⟨heq, rfl⟩]
    · show (n.incrementRetry.retryCount : Int) < K
      omega

/-- **A worker step writes a row at `K` only when persisting a failure**, a step that ends its
hold and leaves the queue alone; its copies stay within the bound while the row it holds is
below `K`. -/
theorem workerStep_retry {maxCount K : Int} {channel : Channel} {sh sh' : Shared} {ch : Choice}
    {pc pc' : WorkerPc} (h : workerStep maxCount channel sh ch pc = some (sh', pc'))
    (hK : maxCount ≤ K) (hpc : pc.RetryBelow K)
    (hheld : ∀ x, pc.held = some x → ∀ r ∈ sh.store, r.id = x → r.retryCount < K) :
    pc'.RetryBelow K ∧ ∀ r ∈ sh'.store, r ∈ sh.store ∨ r.retryCount < K ∨
      r.retryCount = K ∧ r.status = .failed ∧ pc.held = some r.id ∧ pc' = .idle ∧
        sh'.queue = sh.queue := by
  cases pc with
  | idle =>
    obtain ⟨hst, -, -, hq⟩ := workerStep_idle h
    refine ⟨?_, fun r hr => .inl (hst ▸ hr)⟩
    rcases hq with ⟨-, rfl⟩ | ⟨item, -, -, rfl | rfl⟩ <;> trivial
  | read item =>
    simp only [workerStep] at h
    split at h <;> cases h
    · rename_i n hn
      refine ⟨?_, fun r hr => .inl hr⟩
      split
      · trivial
      · split at hn
        · obtain ⟨hmem, hid⟩ := Store.getById_eq_some hn
          exact hheld _ rfl n hmem hid
        · cases hn
    · exact ⟨trivial, fun r hr => .inl hr⟩
  | markProcessing n | requeue n =>
    simp only [workerStep] at h
    split at h <;> cases h
    · refine ⟨hpc, fun r hr => ?_⟩
      rcases Store.mem_update_if ‹_› hr with hr | ⟨t, rfl⟩
      exacts [.inl hr, .inr (.inl hpc)]
    · exact ⟨trivial, fun r hr => .inl hr⟩
  | persist n =>
    simp only [workerStep] at h
    split at h <;> cases h
    · refine ⟨trivial, fun r hr => ?_⟩
      rcases Store.mem_update_if ‹_› hr with hr | ⟨t, rfl⟩
      · exact .inl hr
      · rcases hpc with hlt | ⟨heq, hs⟩
        exacts [.inr (.inl hlt), .inr (.inr ⟨heq, hs, rfl, rfl, rfl⟩)]
    · exact ⟨trivial, fun r hr => .inl hr⟩
  | send n =>
    simp only [workerStep, Option.some.injEq, Prod.mk.injEq] at h
    obtain ⟨rfl, rfl⟩ := h
    exact ⟨afterSend_retry hK hpc _ _, fun r hr => .inl hr⟩
  | backoff n =>
    obtain ⟨rfl, hst, -⟩ := workerStep_backoff h
    exact ⟨trivial, fun r hr => .inl (hst ▸ hr)⟩

/-! ## The provider call

A worker comes to its `Send` only through the `Update` that writes its copy back processing,
and keeps the notification from the `Send` to its final `Update`, which ends the iteration. -/

/-- Whether the worker is at its provider call or at the final `Update` of the outcome. -/
def WorkerPc.sending : WorkerPc → Bool
  | .send _ | .persist _ => true
  | _ => false

/-- **A worker comes to its `Send` only by writing its copy back**, which leaves no row of the
notification scheduled; from the `Send` to the final `Update` it keeps the notification. -/
theorem workerStep_sending {maxCount : Int} {channel : Channel} {sh sh' : Shared} {ch : Choice}
    {pc pc' : WorkerPc} (h : workerStep maxCount channel sh ch pc = some (sh', pc'))
    (hpc : pc.Sound sh.store) (hs : pc'.sending = true) :
    pc.sending = true ∧ pc'.held = pc.held ∨
      ∀ r ∈ sh'.store, some r.id = pc'.held → r.status ≠ .scheduled := by
  cases pc with
  | markProcessing n =>
    simp only [workerStep] at h
    split at h <;> cases h
    · rename_i st hst
      refine .inr fun r hr hid => ?_
      split at hst
      · rcases Store.mem_update hst hr with ⟨-, hne⟩ | ⟨t, rfl⟩
        exacts [absurd (Option.some.inj hid) hne, hpc.2.1]
      · cases hst
    · cases hs
  | send n =>
    simp only [workerStep, Option.some.injEq, Prod.mk.injEq] at h
    obtain ⟨rfl, rfl⟩ := h
    exact .inl ⟨rfl, afterSend_held _ _ _ _⟩
  | idle =>
    obtain ⟨-, -, -, ⟨-, rfl⟩ | ⟨item, -, -, rfl | rfl⟩⟩ := workerStep_idle h <;> cases hs
  | read item =>
    simp only [workerStep] at h
    split at h <;> cases h
    · split at hs <;> cases hs
    · cases hs
  | backoff n => obtain ⟨rfl, -⟩ := workerStep_backoff h; cases hs
  | persist n | requeue n =>
    simp only [workerStep] at h
    split at h <;> cases h <;> cases hs

/-- The final `Update` ends the iteration and leaves the queue alone. -/
theorem workerStep_persist {maxCount : Int} {channel : Channel} {sh sh' : Shared} {ch : Choice}
    {n : Notification} {pc' : WorkerPc}
    (h : workerStep maxCount channel sh ch (.persist n) = some (sh', pc')) :
    pc' = .idle ∧ sh'.queue = sh.queue := by
  simp only [workerStep] at h
  split at h <;> cases h <;> exact ⟨rfl, rfl⟩

end NotificationService
