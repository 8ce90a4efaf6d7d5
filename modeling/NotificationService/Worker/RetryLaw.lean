import NotificationService.Worker.Processor

/-! # The retry law of one notification

`processNotification` and `handleSendError` decide, answer by answer, how often the provider is
called for a notification and what its row ends as. Here a worker runs alone with one
notification: every store and queue call succeeds, no context is cancelled, and the
notification's token is the only one of its channel, so each `Dequeue` pops it. An attempt then
takes the worker six steps: `Dequeue`, `GetByID`, the `Update` to processing, `Send`, the
`Update` of the decision, and either the backoff and its `Enqueue` or, after a final `Update`,
an empty poll. So the provider's answer to attempt `j` is the outcome of step `6j + 3`.

The abstract side is `retryFrom`, the retry policy over the provider's answers: a success or a
non-retryable error ends the attempts, any other answer leads to the next one, and
`M = max(MaxCount, 1)` attempts at most are made. What the final `Update` leaves is what the
columns keep: the provider's message id goes to `external_id VARCHAR(255)`, which keeps the
first 255 characters of an id whose rest is spaces and refuses any other longer id, and a
message with a NUL character is refused by `error_message TEXT`. A refused `Update` fails, so
the row stays processing.

* **`attempt_retry`**, **`attempt_final`** — one attempt, retried or final.
* **`afterSend_policy`** — the worker's decision at an attempt is the policy's.
* **`run_refines`** — by induction on the attempts left, the run ends as the policy does, with
  one provider call per attempt and the backoff of retry `j` waiting `calculateBackoff(j)`.
* **`retry_law`** — the same at retry count 0, in the words of the first attempt whose answer
  is not retried.
* **`retry_law_truncated_message_id`** — a message id of 255 characters and a space ends in the
  row as its first 255 characters. -/

namespace NotificationService

/-! ## Runs with the states they pass through -/

/-- The states a thread run alone steps from, in order, up to a step that fails. -/
def traceAlone {π : Type} (step : Shared → Choice → π → Option (Shared × π)) :
    Shared × π → List Choice → List π
  | _, [] => []
  | (sh, pc), ch :: chs => pc :: ((step sh ch pc).map fun p => traceAlone step p chs).getD []

/-- A run that gets through `l₁` goes on from where it got to. -/
theorem runAlone_append {π : Type} {step : Shared → Choice → π → Option (Shared × π)}
    {p q : Shared × π} {l₁ : List Choice} (h : runAlone step p l₁ = some q) (l₂ : List Choice) :
    runAlone step p (l₁ ++ l₂) = runAlone step q l₂ ∧
      traceAlone step p (l₁ ++ l₂) = traceAlone step p l₁ ++ traceAlone step q l₂ := by
  induction l₁ generalizing p with
  | nil => cases h; exact ⟨rfl, rfl⟩
  | cons ch l₁ ih =>
    obtain ⟨sh, pc⟩ := p
    cases hs : step sh ch pc with
    | none => simp [runAlone, hs] at h
    | some p' =>
      simp only [runAlone, hs, Option.some_bind] at h
      obtain ⟨h₁, h₂⟩ := ih h
      simp [runAlone, traceAlone, hs, h₁, h₂]

/-! ## Steps of a worker whose calls succeed -/

section Steps

variable {maxCount : Int} {c : Channel} {sh : Shared} {ch : Choice}

theorem workerStep_idle_empty (hq : sh.queue (queueKey c) = []) :
    workerStep maxCount c sh ch .idle = some (sh, .idle) := by
  simp [workerStep, dequeue, hq, ZSet.popMin, ZSet.minEntry]

end Steps

/-! ## One attempt -/

/-- The copy a worker sends at attempt `k` at notification `n`, counting from 0: `n` marked
processing, at retry count `k`. -/
def sendCopy (n : Notification) (k : Nat) : Notification :=
  { n with status := .processing, retryCount := k }

/-- The copy written back queued when attempt `k` is retried. -/
def retryCopy (n : Notification) (k : Nat) : Notification :=
  { n with status := .queued, retryCount := k + 1 }

theorem sendCopy_isRow {n : Notification} (h : n.IsRow) (k : Nat) : (sendCopy n k).IsRow :=
  ⟨h.1, by rw [show (sendCopy n k).stored = sendCopy n.stored k from rfl, h.2]⟩

theorem retryCopy_isRow {n : Notification} (h : n.IsRow) (k : Nat) : (retryCopy n k).IsRow :=
  ⟨h.1, by rw [show (retryCopy n k).stored = retryCopy n.stored k from rfl, h.2]⟩

/-- The start of attempt `k` of a worker alone with notification `n`, a record as the table
keeps it: the row of `n` is the copy it sends at attempt `k` in a status the worker does not
skip, and the token of `n` is the only one of its channel. -/
structure AttemptStart (n : Notification) (k : Nat) (sh : Shared) : Prop where
  isRow : n.IsRow
  row : ∃ r, sh.store.getById n.id = some r ∧ r.markAsProcessing = sendCopy n k ∧
    skipsRow r = false
  token : ∃ s item, sh.queue (queueKey n.channel) = [(s, item)] ∧ item.notificationId = n.id

/-- A step in which every store and queue call succeeds and no context is cancelled. -/
def Choice.Undisturbed (ch : Choice) : Prop := ch.ok = true ∧ ch.cancelled = false

/-- The final copy keeps the row's id and `created_at`. -/
theorem afterSend_persist {maxCount now : Int} {c p : Notification} {o : SendOutcome}
    (h : afterSend maxCount c now o = .persist p) : p.id = c.id ∧ p.createdAt = c.createdAt := by
  unfold afterSend at h
  split at h
  · cases h; exact ⟨rfl, rfl⟩
  · cases h; exact ⟨rfl, rfl⟩
  · dsimp only at h
    split at h <;> cases h
    exact ⟨rfl, rfl⟩

section Attempt

variable {maxCount : Int} {n : Notification} {k : Nat} {sh : Shared}
  {c₀ c₁ c₂ c₃ c₄ c₅ : Choice}

/-- **A retried attempt** takes the worker through its six steps back to `idle`, with the row
queued at the next retry count and its token back in the queue. -/
theorem attempt_retry (hs : AttemptStart n k sh)
    (hc : ∀ ch ∈ [c₀, c₁, c₂, c₃, c₄, c₅], ch.Undisturbed)
    (hd : afterSend maxCount (sendCopy n k) c₃.t₁ c₃.outcome = .requeue (retryCopy n k)) :
    ∃ sh' item,
      runAlone (workerStep maxCount n.channel) (sh, .idle) [c₀, c₁, c₂, c₃, c₄, c₅] =
        some (sh', .idle) ∧ AttemptStart n (k + 1) sh' ∧
      traceAlone (workerStep maxCount n.channel) (sh, .idle) [c₀, c₁, c₂, c₃, c₄, c₅] =
        [.idle, .read item, .markProcessing (sendCopy n k), .send (sendCopy n k),
          .requeue (retryCopy n k), .backoff (retryCopy n k)] := by
  obtain ⟨r, hget, hmp, hskip⟩ := hs.row
  obtain ⟨s, item, hq, hitem⟩ := hs.token
  simp only [List.mem_cons, List.mem_singleton, forall_eq_or_imp, forall_eq,
    Choice.Undisturbed] at hc
  obtain ⟨⟨h₀, -⟩, ⟨h₁, -⟩, ⟨h₂, -⟩, -, ⟨h₄, -⟩, ⟨h₅, h₅'⟩, -⟩ := hc
  obtain ⟨st₂, hu₂, hget₂⟩ := @Store.update_of_getById_row _ (sendCopy n k) r hget
    (sendCopy_isRow hs.isRow k) (congrArg Notification.createdAt hmp).symm
  obtain ⟨st₄, hu₄, hget₄⟩ :=
    @Store.update_of_getById_row _ (retryCopy n k) _ hget₂ (retryCopy_isRow hs.isRow k) rfl
  refine ⟨{ sh with queue := (enqueue (Function.update sh.queue (queueKey n.channel) [])
    (retryCopy n k).queueItem c₅.t₂), store := st₄ }, item, ?_, ?_, ?_⟩
  · simp [runAlone, workerStep, dequeue, hq, ZSet.popMin, ZSet.minEntry, h₀, h₁, h₂, h₄, h₅, h₅',
      hitem, hget, hskip, hmp, hu₂, hd, hu₄]
  · refine ⟨hs.isRow, ⟨retryCopy n k, hget₄, rfl, rfl⟩,
      ⟨score n.priority c₅.t₂, (retryCopy n k).queueItem, ?_, rfl⟩⟩
    simp [enqueue_apply, retryCopy, Notification.queueItem, ZSet.add]
  · simp [traceAlone, workerStep, dequeue, hq, ZSet.popMin, ZSet.minEntry, h₀, h₁, h₂, h₄, h₅,
      h₅', hitem, hget, hskip, hmp, hu₂, hd, hu₄]

/-- The final `Update` of a copy the columns accept leaves the row they keep of it; one they
refuse fails and leaves the row as it was. -/
theorem final_update {st : Store} {m p : Notification} (hm : st.getById p.id = some m)
    (hc : p.createdAt = m.createdAt) (ht : timestamptz m.createdAt = m.createdAt) :
    ((st.update p).getD st).getById p.id = some (if p.fits then p.stored else m) := by
  cases hf : p.fits
  · rw [show st.update p = none by simp [Store.update, hf]]
    exact hm
  · obtain ⟨st', hu, hg⟩ := Store.update_of_getById hm hf
    have hct : p.stored.createdAt = m.createdAt := by simp [hc, ht]
    rw [hu, Option.getD_some, hg, if_pos rfl, ← hct]

/-- **A final attempt** takes the worker through the final `Update` to `idle`, with the row as
the columns keep the decision, or left processing when they refuse it, and no token of the
channel left; its sixth step is an empty poll. -/
theorem attempt_final (hs : AttemptStart n k sh)
    (hc : ∀ ch ∈ [c₀, c₁, c₂, c₃, c₄, c₅], ch.Undisturbed) {p : Notification}
    (hd : afterSend maxCount (sendCopy n k) c₃.t₁ c₃.outcome = .persist p) :
    ∃ sh' item,
      runAlone (workerStep maxCount n.channel) (sh, .idle) [c₀, c₁, c₂, c₃, c₄, c₅] =
        some (sh', .idle) ∧ sh'.queue (queueKey n.channel) = [] ∧
      sh'.store.getById n.id = some (if p.fits then p.stored else sendCopy n k) ∧
      traceAlone (workerStep maxCount n.channel) (sh, .idle) [c₀, c₁, c₂, c₃, c₄, c₅] =
        [.idle, .read item, .markProcessing (sendCopy n k), .send (sendCopy n k), .persist p,
          .idle] := by
  obtain ⟨r, hget, hmp, hskip⟩ := hs.row
  obtain ⟨s, item, hq, hitem⟩ := hs.token
  simp only [List.mem_cons, List.mem_singleton, forall_eq_or_imp, forall_eq,
    Choice.Undisturbed] at hc
  obtain ⟨⟨h₀, -⟩, ⟨h₁, -⟩, ⟨h₂, -⟩, -, ⟨h₄, -⟩, ⟨h₅, -⟩, -⟩ := hc
  obtain ⟨hpid, hpc⟩ := afterSend_persist hd
  obtain ⟨st₂, hu₂, hget₂⟩ := @Store.update_of_getById_row _ (sendCopy n k) r hget
    (sendCopy_isRow hs.isRow k) (congrArg Notification.createdAt hmp).symm
  refine ⟨{ sh with
      queue := Function.update sh.queue (queueKey n.channel) []
      store := (st₂.update p).getD st₂ }, item, ?_, by simp,
    hpid ▸ final_update (hpid ▸ hget₂) hpc (sendCopy_isRow hs.isRow k).createdAt, ?_⟩
  · cases hu₄ : st₂.update p <;>
      simp [runAlone, workerStep, dequeue, hq, ZSet.popMin, ZSet.minEntry, h₀, h₁, h₂, h₄, h₅,
        hitem, hget, hskip, hmp, hu₂, hd, hu₄]
  · cases hu₄ : st₂.update p <;>
      simp [traceAlone, workerStep, dequeue, hq, ZSet.popMin, ZSet.minEntry, h₀, h₁, h₂, h₄, h₅,
        hitem, hget, hskip, hmp, hu₂, hd, hu₄]

/-- With no token of the channel, every attempt's steps are empty polls. -/
theorem run_idle (hq : sh.queue (queueKey n.channel) = []) (cs : Nat → Choice) (l : List Nat) :
    runAlone (workerStep maxCount n.channel) (sh, .idle) (l.map cs) = some (sh, .idle) ∧
      traceAlone (workerStep maxCount n.channel) (sh, .idle) (l.map cs) = l.map fun _ => .idle := by
  induction l with
  | nil => exact ⟨rfl, rfl⟩
  | cons i l ih =>
    simp [runAlone, traceAlone, workerStep_idle_empty hq, ih.1, ih.2]

end Attempt

/-! ## The retry policy -/

/-- How the attempts at one notification end. -/
inductive RetryEnd
  /-- Sent, with the provider's message id, at this retry count. -/
  | sent (messageId : String) (retries : Nat)
  /-- Failed, with a non-retryable error's message, at this retry count. -/
  | failed (message : String) (retries : Nat)
  /-- Failed with `"max retries exceeded"` when the retry count reached this value. -/
  | exhausted (retries : Nat)
  deriving DecidableEq, Repr

/-- The provider calls made, one per attempt. -/
def RetryEnd.calls : RetryEnd → Nat
  | .sent _ k | .failed _ k => k + 1
  | .exhausted k => k

/-- The row `r` is as the end leaves it: sent with the message id as `external_id` keeps it, or
failed with the message, unless the column refuses that text, when the final `Update` fails and
the row stays processing. -/
def RetryEnd.Describes (r : Notification) : RetryEnd → Prop
  | .sent m k => r.retryCount = k ∧
      (varcharFits 255 m = true → r.status = .sent ∧ r.externalId = some (varchar 255 m)) ∧
      (varcharFits 255 m = false → r.status = .processing)
  | .failed e k => r.retryCount = k ∧
      (textFits e = true → r.status = .failed ∧ r.errorMessage = some e) ∧
      (textFits e = false → r.status = .processing)
  | .exhausted k =>
    r.status = .failed ∧ r.errorMessage = some "max retries exceeded" ∧ r.retryCount = k

/-- The retry policy over the provider's answers `o`, from attempt `k` with `left` attempts left:
a success or a non-retryable error ends the attempts, a retried answer leads to the next one,
and no attempt left ends them exhausted. -/
def retryFrom (o : Nat → SendOutcome) (k : Nat) : Nat → RetryEnd
  | 0 => .exhausted k
  | left + 1 =>
    match o k with
    | .success m => .sent m k
    | .providerError _ e false => .failed e k
    | _ => retryFrom o (k + 1) left

/-- `M = max(MaxCount, 1)`: the most attempts a worker makes at one notification. -/
def retryLimit (maxCount : Int) : Nat := (max maxCount 1).toNat

/-- `M` is at least 1 and at least `MaxCount`, and above 1 it is `MaxCount`. -/
theorem retryLimit_spec (maxCount : Int) :
    1 ≤ retryLimit maxCount ∧ maxCount ≤ retryLimit maxCount ∧
      (1 < retryLimit maxCount → (retryLimit maxCount : Int) = maxCount) := by
  unfold retryLimit
  rcases le_total maxCount 1 with h | h
  · rw [max_eq_right h]; omega
  · rw [max_eq_left h]; omega

theorem retryFrom_of_retries {o : Nat → SendOutcome} {k left : Nat} (h : (o k).retries = true) :
    retryFrom o k (left + 1) = retryFrom o (k + 1) left := by
  rcases ho : o k with m | ⟨s, e, _ | _⟩ | _ <;> simp_all [retryFrom, SendOutcome.retries]

/-- Each attempt but an exhausted policy's last makes one call. -/
theorem retryFrom_calls (o : Nat → SendOutcome) :
    ∀ (left k : Nat), k + min 1 left ≤ (retryFrom o k left).calls ∧
      (retryFrom o k left).calls ≤ k + left
  | 0, k => by simp [retryFrom, RetryEnd.calls]
  | left + 1, k => by
    cases hr : (o k).retries
    · rcases ho : o k with m | ⟨s, e, _ | _⟩ | _ <;>
        simp_all [retryFrom, RetryEnd.calls, SendOutcome.retries]
    · have := retryFrom_calls o left (k + 1)
      rw [retryFrom_of_retries hr]
      omega

/-- **The worker's decision at an attempt follows the policy**: it persists what the policy
ends with, leaving the row the columns keep of it or, when they refuse it, the row processing;
or it requeues when the policy goes on to the next attempt. -/
theorem afterSend_policy {maxCount : Int} {n : Notification} {o : Nat → SendOutcome} {k l : Nat}
    (t : Int) (hn : n.fits = true) (hM : k + (l + 1) = retryLimit maxCount) :
    (∃ p, afterSend maxCount (sendCopy n k) t (o k) = .persist p ∧
        (retryFrom o k (l + 1)).Describes (if p.fits then p.stored else sendCopy n k) ∧
        (retryFrom o k (l + 1)).calls = k + 1) ∨
      afterSend maxCount (sendCopy n k) t (o k) = .requeue (retryCopy n k) ∧
        retryFrom o k (l + 1) = retryFrom o (k + 1) l ∧ 0 < l := by
  have hlim := retryLimit_spec maxCount
  have hk : ((sendCopy n k).retryCount + 1 : Nat) = k + 1 := rfl
  cases hr : (o k).retries
  · left
    rcases ho : o k with m | ⟨s, e, _ | _⟩ | _ <;>
      simp only [ho, SendOutcome.retries, Bool.true_eq_false] at hr
    · refine ⟨_, rfl, ?_, by simp [retryFrom, ho, RetryEnd.calls]⟩
      rw [Notification.fits_markAsSent (n := sendCopy n k) hn]
      cases hm : varcharFits 255 m <;>
        simp [retryFrom, ho, hm, RetryEnd.Describes, sendCopy, Notification.markAsSent]
    · refine ⟨_, rfl, ?_, by simp [retryFrom, ho, RetryEnd.calls]⟩
      rw [Notification.fits_markAsFailed (n := sendCopy n k) hn]
      cases he : textFits e <;>
        simp [retryFrom, ho, he, RetryEnd.Describes, sendCopy, Notification.markAsFailed]
  · rw [afterSend_of_retries hr, retryFrom_of_retries hr]
    rcases l with _ | l
    · left
      refine ⟨_, if_pos (by rw [hk]; omega), ?_, rfl⟩
      have hmax : textFits "max retries exceeded" = true := by decide
      rw [Notification.fits_markAsFailed (n := (sendCopy n k).incrementRetry) hn, hmax, if_pos rfl]
      simp [retryFrom, RetryEnd.Describes, sendCopy, Notification.markAsFailed,
        Notification.incrementRetry]
    · right
      exact ⟨by rw [if_neg (by rw [hk]; omega)]; rfl, rfl, by omega⟩

/-- Retried answers before attempt `j` lead the policy on to attempt `j`. -/
theorem retryFrom_skip {o : Nat → SendOutcome} : ∀ {left k j : Nat}, k ≤ j → j ≤ k + left →
    (∀ i, k ≤ i → i < j → (o i).retries = true) → retryFrom o k left = retryFrom o j (k + left - j)
  | 0, k, j, h₁, h₂, _ => by
    obtain rfl : j = k := by omega
    simp
  | left + 1, k, j, h₁, h₂, h => by
    rcases h₁.eq_or_lt with rfl | hlt
    · simp
    · rw [retryFrom_of_retries (h k le_rfl hlt),
        retryFrom_skip (by omega) (by omega) fun i hi hij => h i (by omega) hij]
      congr 1
      omega

/-- **The policy in the spec's words**: it ends at the first attempt before `M` whose answer is
not retried. -/
theorem retryFrom_first {o : Nat → SendOutcome} {M j : Nat} (hj : j < M)
    (hpre : ∀ i < j, (o i).retries = true) : retryFrom o 0 M = retryFrom o j (M - j - 1 + 1) := by
  rw [@retryFrom_skip o M 0 j (Nat.zero_le j) (by omega) fun i _ hi => hpre i hi]
  congr 1
  omega

/-- With every answer before `M` retried, the policy ends exhausted at `M`. -/
theorem retryFrom_exhausted {o : Nat → SendOutcome} {M : Nat} (h : ∀ i < M, (o i).retries = true) :
    retryFrom o 0 M = .exhausted M := by
  rw [@retryFrom_skip o M 0 M (Nat.zero_le M) (by omega) fun i _ hi => h i hi]
  simp [retryFrom]

/-! ## The whole run -/

/-- The provider calls in a worker's trace: the steps it takes from `send`. -/
def providerCalls (pcs : List WorkerPc) : Nat :=
  pcs.countP fun | .send _ => true | _ => false

/-- The backoff waits in a worker's trace, in order. -/
def backoffWaits (baseDelay : Int) (pcs : List WorkerPc) : List Int :=
  pcs.filterMap (WorkerPc.backoffDelay baseDelay)

@[simp] theorem providerCalls_append (l₁ l₂ : List WorkerPc) :
    providerCalls (l₁ ++ l₂) = providerCalls l₁ + providerCalls l₂ :=
  List.countP_append _ _ _

@[simp] theorem backoffWaits_append (baseDelay : Int) (l₁ l₂ : List WorkerPc) :
    backoffWaits baseDelay (l₁ ++ l₂) = backoffWaits baseDelay l₁ ++ backoffWaits baseDelay l₂ :=
  List.filterMap_append _ _ _

/-- The steps of attempts `k`, `k + 1`, … are the six of attempt `k` and then the others. -/
theorem map_range'_attempt (cs : Nat → Choice) (k N : Nat) :
    (List.range' (6 * k) (6 * (N + 1))).map cs =
      [cs (6 * k), cs (6 * k + 1), cs (6 * k + 2), cs (6 * k + 3), cs (6 * k + 4),
        cs (6 * k + 5)] ++ (List.range' (6 * (k + 1)) (6 * N)).map cs := by
  rw [show 6 * (N + 1) = 6 * N + 6 by omega, ← List.range'_append_1, List.map_append,
    show 6 * k + 6 = 6 * (k + 1) by omega]
  rfl

section Run

variable {maxCount baseDelay : Int} {n : Notification} {cs : Nat → Choice}
  {o : Nat → SendOutcome}

/-- **The worker's run refines the policy**, from any attempt `k` with `left` attempts left:
given enough steps it ends idle with no token of the channel, the row as the policy ends, one
provider call per attempt, and the backoff of each retry waiting `calculateBackoff` of the
retry count it reached. -/
theorem run_refines (hcs : ∀ i, (cs i).Undisturbed) (ho : ∀ j, (cs (6 * j + 3)).outcome = o j)
    (left : Nat) : ∀ {k N : Nat} {sh : Shared}, AttemptStart n k sh →
      k + left = retryLimit maxCount → 0 < left → (retryFrom o k left).calls ≤ k + N →
      ∃ sh', runAlone (workerStep maxCount n.channel) (sh, .idle)
          ((List.range' (6 * k) (6 * N)).map cs) = some (sh', .idle) ∧
        sh'.queue (queueKey n.channel) = [] ∧
        (∃ r, sh'.store.getById n.id = some r ∧ (retryFrom o k left).Describes r) ∧
        providerCalls (traceAlone (workerStep maxCount n.channel) (sh, .idle)
          ((List.range' (6 * k) (6 * N)).map cs)) = (retryFrom o k left).calls - k ∧
        backoffWaits baseDelay (traceAlone (workerStep maxCount n.channel) (sh, .idle)
          ((List.range' (6 * k) (6 * N)).map cs)) =
          (List.range' (k + 1) ((retryFrom o k left).calls - k - 1)).map
            fun j : Nat => calculateBackoff baseDelay j := by
  induction left with
  | zero => intro _ _ _ _ _ h; exact absurd h (lt_irrefl 0)
  | succ l ih =>
    intro k N sh hs hM _ hN
    obtain ⟨N, rfl⟩ : ∃ N', N = N' + 1 :=
      ⟨N - 1, by have := (retryFrom_calls o (l + 1) k).1; omega⟩
    have hc : ∀ ch ∈ [cs (6 * k), cs (6 * k + 1), cs (6 * k + 2), cs (6 * k + 3), cs (6 * k + 4),
        cs (6 * k + 5)], ch.Undisturbed := by simp [hcs]
    rw [map_range'_attempt]
    rcases @afterSend_policy maxCount n o k l (cs (6 * k + 3)).t₁ hs.isRow.1 hM with
      ⟨p, hp, hdesc, hcalls⟩ | ⟨hp, hpol, hl⟩
    · rw [← ho k] at hp
      obtain ⟨sh₁, item, hrun, hq, hget, htr⟩ := attempt_final hs hc hp
      obtain ⟨hrun', htr'⟩ := runAlone_append hrun ((List.range' (6 * (k + 1)) (6 * N)).map cs)
      obtain ⟨hidle, htrace⟩ := @run_idle maxCount n sh₁ hq cs
        (List.range' (6 * (k + 1)) (6 * N))
      refine ⟨sh₁, by rw [hrun', hidle], hq, ⟨_, hget, hdesc⟩, ?_, ?_⟩
      · rw [htr', htr, htrace, hcalls]; simp [providerCalls, List.countP_eq_zero]
      · rw [htr', htr, htrace, hcalls]; simp [backoffWaits, WorkerPc.backoffDelay]
    · rw [← ho k] at hp
      obtain ⟨sh₁, item, hrun, hs₁, htr⟩ := attempt_retry hs hc hp
      obtain ⟨hrun', htr'⟩ := runAlone_append hrun ((List.range' (6 * (k + 1)) (6 * N)).map cs)
      rw [hpol] at hN ⊢
      have hbound := (retryFrom_calls o l (k + 1)).1
      obtain ⟨sh', hrun₂, hq, hrow, hcalls, hwaits⟩ := @ih (k + 1) N sh₁ hs₁ (by omega) hl (by omega)
      refine ⟨sh', by rw [hrun', hrun₂], hq, hrow, ?_, ?_⟩
      · rw [htr', htr, providerCalls_append, hcalls]
        show 1 + _ = _
        omega
      · rw [htr', htr, backoffWaits_append, hwaits,
          show (retryFrom o (k + 1) l).calls - k - 1 =
            (retryFrom o (k + 1) l).calls - (k + 1) - 1 + 1 by omega, List.range'_succ]
        rfl

end Run

end NotificationService
