import NotificationService.Service.Admission
import NotificationService.Handler.Pagination

/-! # Error responses

`HandleError` (`internal/handler`) turns a service error into the API's error response. It tests
the domain's sentinel errors with `errors.Is`, which sees through the wrappers the service adds
(`fmt.Errorf("notification %d: %w", i, err)` and `"failed to create batch: %w"` in
`CreateBatch`), then a `ValidationError` with `errors.As`, and answers 500 to anything else.
Only the `MISSING_VARIABLES` answer quotes the error's own text (`err.Error()`), wrappers
included. `ErrAlreadyExists` and `ValidationErrors`, which the notification service never
returns, are left out.

* **`batch_rejection_response`** — a `CreateBatch` whose loop rejects a request is answered 400,
  with one response whatever the position of that request: the response never says which
  notification failed.
* **`create_rejection_response`** — a `Create` its validation block rejects is answered 400, as
  `VALIDATION_ERROR` naming the field, `TEMPLATE_NOT_FOUND` or `MISSING_VARIABLES`, or 500 when
  its template lookup failed. -/

namespace NotificationService

/-- The sentinel errors of `internal/domain/errors.go` that `HandleError` tests. -/
inductive Sentinel
  | notFound
  | cannotCancel
  | batchSizeExceeded
  | templateNotFound
  | missingVariables
  | idempotencyConflict
  deriving DecidableEq, Repr

/-- Go's `%v` of a `[]string`: the elements between brackets, separated by spaces. -/
def goSliceText (l : List String) : String := "[" ++ " ".intercalate l ++ "]"

namespace ServiceError

/-- `errors.Is(err, sentinel)`: under its wrappers, the error is the sentinel. -/
def is : ServiceError → Sentinel → Bool
  | .notFound, s => s == .notFound
  | .cannotCancel, s => s == .cannotCancel
  | .batchSizeExceeded, s => s == .batchSizeExceeded
  | .templateNotFound, s => s == .templateNotFound
  | .missingVariables _, s => s == .missingVariables
  | .idempotencyConflict, s => s == .idempotencyConflict
  | .validation _ _, _ | .backend _, _ => false
  | .wrapped _ e, s | .inBatch _ e, s => e.is s

/-- `errors.As(err, &validationErr)`: the field and message of the `ValidationError` under the
wrappers. -/
def asValidation : ServiceError → Option (String × String)
  | .validation field message => some (field, message)
  | .wrapped _ e | .inBatch _ e => e.asValidation
  | _ => none

/-- `err.Error()`; a store or queue failure reads as its context (the driver's own text after
it is left out). -/
def text : ServiceError → String
  | .validation field message => field ++ ": " ++ message
  | .notFound => "resource not found"
  | .cannotCancel => "notification cannot be cancelled"
  | .templateNotFound => "template not found"
  | .missingVariables names => "missing template variables: " ++ goSliceText names
  | .batchSizeExceeded => "batch size exceeded maximum limit"
  | .idempotencyConflict => "idempotency key conflict"
  | .backend context => context
  | .wrapped context e => context ++ ": " ++ e.text
  | .inBatch i e => "notification " ++ toString i ++ ": " ++ e.text

/-- A store or queue failure, under the wrappers. -/
def isBackend : ServiceError → Bool
  | .backend _ => true
  | .wrapped _ e | .inBatch _ e => e.isBackend
  | _ => false

@[simp] theorem is_inBatch (i : Nat) (e : ServiceError) (s : Sentinel) :
    (ServiceError.inBatch i e).is s = e.is s := rfl

@[simp] theorem asValidation_inBatch (i : Nat) (e : ServiceError) :
    (ServiceError.inBatch i e).asValidation = e.asValidation := rfl

end ServiceError

/-- `HandleError`: the response and its `details` (the field of a validation error). -/
def handleError (e : ServiceError) : ApiError × Option String :=
  if e.is .notFound then (⟨404, "NOT_FOUND", "Resource not found"⟩, none)
  else if e.is .cannotCancel then
    (⟨400, "CANNOT_CANCEL", "Notification cannot be cancelled"⟩, none)
  else if e.is .batchSizeExceeded then
    (⟨400, "BATCH_SIZE_EXCEEDED", "Batch size exceeds maximum limit of 1000"⟩, none)
  else if e.is .templateNotFound then (⟨400, "TEMPLATE_NOT_FOUND", "Template not found"⟩, none)
  else if e.is .missingVariables then (⟨400, "MISSING_VARIABLES", e.text⟩, none)
  else if e.is .idempotencyConflict then
    (⟨409, "IDEMPOTENCY_CONFLICT", "Idempotency key already used"⟩, none)
  else match e.asValidation with
    | some (field, message) => (⟨400, "VALIDATION_ERROR", message⟩, some field)
    | none => (⟨500, "INTERNAL_ERROR", "An internal error occurred"⟩, none)

example : handleError (.missingVariables ["a", "b"]) =
    (⟨400, "MISSING_VARIABLES", "missing template variables: [a b]"⟩, none) := by decide

/-- A wrapper changes the answer only in the text a `MISSING_VARIABLES` answer quotes. -/
theorem handleError_inBatch (i : Nat) (e : ServiceError) :
    (handleError (.inBatch i e)).1.status = (handleError e).1.status ∧
      (handleError (.inBatch i e)).1.code = (handleError e).1.code ∧
      (handleError (.inBatch i e)).2 = (handleError e).2 ∧
      (e.is .missingVariables = false → handleError (.inBatch i e) = handleError e) := by
  unfold handleError
  simp only [ServiceError.is_inBatch, ServiceError.asValidation_inBatch]
  split_ifs <;> simp_all

/-- The errors `CreateBatch`'s loop rejects a request with. -/
theorem batchNotification_eq_error {templates : String → Option Template} {ok : Bool}
    {batchId i id : Nat} {req : CreateRequest} {t : Int} {e : ServiceError}
    (h : batchNotification templates ok batchId i req id t = .error e) :
    ∃ e', e = .inBatch i e' ∧
      (Channel.ofText req.channel = none ∧ e' = .validation "channel" "invalid channel" ∨
        e' = .templateNotFound ∨ e' = .validation "content" "content is required") := by
  unfold batchNotification at h
  cases hc : Channel.ofText req.channel with
  | none => simp [hc, Except.mapError] at h; exact ⟨_, h.symm, .inl ⟨rfl, rfl⟩⟩
  | some ch =>
    cases hb : batchContent templates ok req with
    | error e' =>
      have : e' = .templateNotFound := by
        unfold batchContent at hb
        split at hb
        · cases hb
        · split at hb <;> cases hb; rfl
      simp [hc, hb, this, Except.mapError, bind, Except.bind] at h
      exact ⟨_, h.symm, .inr (.inl rfl)⟩
    | ok content =>
      by_cases he : content = ""
      · simp [hc, hb, he, requireContent, Except.mapError, bind, Except.bind, throw,
          throwThe, MonadExceptOf.throw] at h
        exact ⟨_, h.symm, .inr (.inr rfl)⟩
      · simp [hc, hb, he, requireContent, Except.mapError, bind, Except.bind, pure,
          Except.pure] at h

theorem batchNotifications_eq_error {templates : String → Option Template} {lookupOk : Nat → Bool}
    {batchId firstId : Nat} {t : Int} : ∀ {i : Nat} {reqs : List CreateRequest} {e : ServiceError},
    batchNotifications templates lookupOk batchId firstId t i reqs = .error e →
      ∃ k < reqs.length, ∃ e', e = .inBatch (i + k) e' ∧
        ((∃ req ∈ reqs, Channel.ofText req.channel = none) ∧
            e' = .validation "channel" "invalid channel" ∨
          e' = .templateNotFound ∨ e' = .validation "content" "content is required")
  | _, [], _, h => by cases h
  | i, req :: reqs, e, h => by
    simp only [batchNotifications] at h
    cases hn : batchNotification templates (lookupOk i) batchId i req (firstId + i) t with
    | error e₀ =>
      simp only [hn, bind, Except.bind, Except.error.injEq] at h
      obtain ⟨e', rfl, he'⟩ := batchNotification_eq_error hn
      exact ⟨0, by simp, e', by rw [← h, Nat.add_zero],
        he'.imp_left fun ⟨hc, he⟩ => ⟨⟨req, List.mem_cons_self _ _, hc⟩, he⟩⟩
    | ok n =>
      cases hns : batchNotifications templates lookupOk batchId firstId t (i + 1) reqs with
      | error e₁ =>
        simp only [hn, hns, bind, Except.bind, Except.error.injEq] at h
        obtain ⟨k, hk, e', rfl, he'⟩ := batchNotifications_eq_error hns
        exact ⟨k + 1, by simp; omega, e', by rw [← h, Nat.add_assoc, Nat.add_comm 1 k],
          he'.imp_left fun ⟨⟨r, hr, hc⟩, he⟩ => ⟨⟨r, List.mem_cons_of_mem _ hr, hc⟩, he⟩⟩
      | ok ns => simp [hn, hns, bind, Except.bind, pure, Except.pure] at h

/-- **A rejected batch does not say which notification failed.** For every template repository,
outcome of the template lookups and list of requests, when `CreateBatch`'s loop rejects the
request at some position, the answer is a 400 — `VALIDATION_ERROR` for the channel or the
content, or `TEMPLATE_NOT_FOUND` — and is the same response whatever that position. -/
theorem batch_rejection_response {templates : String → Option Template} {lookupOk : Nat → Bool}
    {batchId firstId : Nat} {t : Int} {reqs : List CreateRequest} {e : ServiceError}
    (h : batchNotifications templates lookupOk batchId firstId t 0 reqs = .error e) :
    ∃ i < reqs.length, ∃ e', e = .inBatch i e' ∧ (handleError e).1.status = 400 ∧
      ((handleError e).1.code = "VALIDATION_ERROR" ∨
        (handleError e).1.code = "TEMPLATE_NOT_FOUND") ∧
      ∀ j, handleError (.inBatch j e') = handleError e := by
  obtain ⟨i, hi, e', he, he'⟩ := batchNotifications_eq_error h
  replace he' := he'.imp_left And.right
  rw [Nat.zero_add] at he
  subst he
  have hmv : e'.is .missingVariables = false := by
    rcases he' with rfl | rfl | rfl <;> rfl
  refine ⟨i, hi, e', rfl, ?_, ?_, fun j => ?_⟩
  · rw [(handleError_inBatch _ e').1]
    rcases he' with rfl | rfl | rfl <;> rfl
  · rw [(handleError_inBatch _ e').2.1]
    rcases he' with rfl | rfl | rfl <;> simp [handleError, ServiceError.is, ServiceError.asValidation]
  · rw [(handleError_inBatch j e').2.2.2 hmv, (handleError_inBatch _ e').2.2.2 hmv]

/-- A channel `"fax"` at position 1 of a batch. -/
theorem batch_rejection_response_fax :
    let reqs : List CreateRequest :=
      [⟨"r", "sms", "a", "", none, none, none, []⟩, ⟨"r", "fax", "b", "", none, none, none, []⟩]
    batchNotifications (fun _ => none) (fun _ => true) 0 1 0 0 reqs =
      .error (.inBatch 1 (.validation "channel" "invalid channel")) ∧
    ∃ i < reqs.length, ∃ e', ServiceError.inBatch 1 (.validation "channel" "invalid channel") =
        .inBatch i e' ∧
      (handleError (.inBatch 1 (.validation "channel" "invalid channel"))).1.status = 400 ∧
      ((handleError (.inBatch 1 (.validation "channel" "invalid channel"))).1.code =
          "VALIDATION_ERROR" ∨
        (handleError (.inBatch 1 (.validation "channel" "invalid channel"))).1.code =
          "TEMPLATE_NOT_FOUND") ∧
      ∀ j, handleError (.inBatch j e') =
        handleError (.inBatch 1 (.validation "channel" "invalid channel")) :=
  ⟨rfl, @batch_rejection_response (fun _ => none) (fun _ => true) 0 1 0 _ _ rfl⟩

theorem requireContent_eq_error {c : String} {e : ServiceError}
    (h : requireContent c = .error e) : e = .validation "content" "content is required" := by
  unfold requireContent at h
  split at h
  · exact (Except.error.inj h).symm
  · cases h

theorem validateContentLength_eq_error {ch : Channel} {c : String} {e : ServiceError}
    (h : validateContentLength ch c = .error e) : ∃ message, e = .validation "content" message := by
  unfold validateContentLength at h
  dsimp only at h
  split at h
  · exact ⟨_, (Except.error.inj h).symm⟩
  · cases h

theorem scheduleAt_eq_error {n : Notification} {sch : Option Int} {now : Int} {e : ServiceError}
    (h : n.scheduleAt sch now = .error e) :
    e = .validation "scheduled_at" "scheduled time must be in the future" := by
  unfold Notification.scheduleAt at h
  split at h
  · cases h
  · split at h
    · exact (Except.error.inj h).symm
    · cases h

theorem bind_eq_error {ε α β : Type} {x : Except ε α} {f : α → Except ε β} {e : ε} :
    x >>= f = .error e ↔ x = .error e ∨ ∃ a, x = .ok a ∧ f a = .error e := by
  cases x <;> simp [bind, Except.bind]

theorem createContent_eq_error {templates : String → Option Template} {ok : Bool}
    {req : CreateRequest} {e : ServiceError} (h : createContent templates ok req = .error e) :
    e = .templateNotFound ∨ (∃ names, e = .missingVariables names) ∨
      ok = false ∧ req.templateName.isSome ∧ e = .backend "failed to get template" := by
  unfold createContent at h
  split at h
  · cases h
  · rename_i name hname
    split at h
    · split at h
      · exact .inl (Except.error.inj h).symm
      · dsimp only at h
        split at h
        · cases h
        · exact .inr (.inl ⟨_, (Except.error.inj h).symm⟩)
    · exact .inr (.inr ⟨by simpa using ‹¬ok = true›, by simp [hname], (Except.error.inj h).symm⟩)

/-- The errors `Create`'s validation block rejects a request with. -/
theorem createNotification_eq_error {templates : String → Option Template} {ok : Bool}
    {req : CreateRequest} {id : Nat} {t₁ t₂ : Int} {e : ServiceError}
    (h : createNotification templates ok req id t₁ t₂ = .error e) :
    Channel.ofText req.channel = none ∧ e = .validation "channel" "invalid channel" ∨
      (∃ message, e = .validation "content" message) ∨
      e = .validation "scheduled_at" "scheduled time must be in the future" ∨
      e = .templateNotFound ∨ (∃ names, e = .missingVariables names) ∨
      ok = false ∧ req.templateName.isSome ∧ e = .backend "failed to get template" := by
  unfold createNotification at h
  cases hc : Channel.ofText req.channel with
  | none =>
    simp only [hc] at h
    exact .inl ⟨rfl, (Except.error.inj h).symm⟩
  | some ch =>
    simp only [hc, bind_eq_error] at h
    rcases h with h | ⟨_, -, h | ⟨_, -, h | ⟨_, -, h | ⟨_, -, h⟩⟩⟩⟩
    · exact .inr (.inr (.inr (createContent_eq_error h)))
    · exact .inr (.inl ⟨_, requireContent_eq_error h⟩)
    · exact .inr (.inl (validateContentLength_eq_error h))
    · exact .inr (.inr (.inl (scheduleAt_eq_error h)))
    · cases h

/-- **A `Create` its validation rejects is a client error, unless its template lookup
failed.** For every template repository, lookup outcome and request, an error of `Create`'s
validation block is answered 400: `VALIDATION_ERROR` with the field in the details,
`TEMPLATE_NOT_FOUND`, or `MISSING_VARIABLES`. The one exception is a request naming a template
whose `GetByName` call failed: `"failed to get template"`, answered 500. -/
theorem create_rejection_response {templates : String → Option Template} {ok : Bool}
    {req : CreateRequest} {id : Nat} {t₁ t₂ : Int} {e : ServiceError}
    (h : createNotification templates ok req id t₁ t₂ = .error e) :
    ((handleError e).1.status = 400 ∧
      ((∃ field, (handleError e).1.code = "VALIDATION_ERROR" ∧ (handleError e).2 = some field) ∨
        (handleError e).1.code = "TEMPLATE_NOT_FOUND" ∨
        (handleError e).1.code = "MISSING_VARIABLES")) ∨
      ok = false ∧ req.templateName.isSome ∧
        handleError e = (⟨500, "INTERNAL_ERROR", "An internal error occurred"⟩, none) := by
  rcases createNotification_eq_error h with
    ⟨-, rfl⟩ | ⟨message, rfl⟩ | rfl | rfl | ⟨names, rfl⟩ | ⟨hok, hname, rfl⟩
  all_goals first
    | exact .inr ⟨hok, hname, rfl⟩
    | exact .inl (by simp [handleError, ServiceError.is, ServiceError.asValidation])

/-- A request for the channel `"fax"`. -/
theorem create_rejection_response_fax :
    createNotification (fun _ => none) true ⟨"r", "fax", "hi", "", none, none, none, []⟩ 0 0 0 =
        .error (.validation "channel" "invalid channel") ∧
      (((handleError (.validation "channel" "invalid channel")).1.status = 400 ∧
        ((∃ field, (handleError (.validation "channel" "invalid channel")).1.code =
            "VALIDATION_ERROR" ∧ (handleError (.validation "channel" "invalid channel")).2 =
              some field) ∨
          (handleError (.validation "channel" "invalid channel")).1.code = "TEMPLATE_NOT_FOUND" ∨
          (handleError (.validation "channel" "invalid channel")).1.code = "MISSING_VARIABLES")) ∨
        true = false ∧ (none : Option String).isSome ∧
          handleError (.validation "channel" "invalid channel") =
            (⟨500, "INTERNAL_ERROR", "An internal error occurred"⟩, none)) :=
  ⟨rfl, @create_rejection_response (fun _ => none) true
    ⟨"r", "fax", "hi", "", none, none, none, []⟩ 0 0 0 _ rfl⟩

end NotificationService
