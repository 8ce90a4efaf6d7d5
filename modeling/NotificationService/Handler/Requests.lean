import NotificationService.Handler.Errors
import Mathlib.Logic.Relation

/-! # The notification routes: request checks and answers

`NotificationHandler.Create` and `CreateBatch` (`internal/handler`) decode the body with
`DecodeJSON`, check it with go-playground's validator (`validate.Struct`), call the service, and
answer with `HandleError`'s response to a service error, or with `201` and the notification or
the batch. `CreateBatch` reads `notifications[0].BatchID` for its answer. That read panics on an
empty list, and the recovery middleware then answers a plain-text 500.

The validator checks a struct's fields in order, and each field's tags in order, stopping at
the first tag that fails. The tags used here are:
* `required`: a non-empty string, or a non-nil slice;
* `omitempty`: an empty value skips the tags after it;
* `oneof`;
* `min` and `max`: bounds on a slice's length, or on a string's number of characters;
* `dive`: checks every element with its own tags.

The JSON decoder is a parameter: the body as it decodes, or the decoder's error text.
`DecodeJSON`'s nil-body branch is left out, because the server gives every request a body.

* **`createRequestErrors_eq_nil`**, **`batchRequestErrors_eq_nil`** — when the validator lets a
  request through.
* **`create_http_answers`** — over every run of the `Create` thread on a request the validator
  lets through, in any interleaving, the answer is one of seven: `201`; a `VALIDATION_ERROR`
  naming the content or the schedule; `TEMPLATE_NOT_FOUND`; `MISSING_VARIABLES`; a 404 from the
  idempotency read-back; or a 500. Neither the service's channel check nor
  `IDEMPOTENCY_CONFLICT` is ever the answer.
* **`batch_http_answers`** — the validator lets through batches of 1 to 1000 requests, so
  `BATCH_SIZE_EXCEEDED` is never the answer. Over every run of the `CreateBatch` thread on a
  batch it lets through, the answer is one of five: `201` with one notification per request,
  all of one batch; a `VALIDATION_ERROR` for content; `TEMPLATE_NOT_FOUND`;
  `IDEMPOTENCY_CONFLICT`, when an insert of the batch hits a used key; or a 500. It is never
  the recovery middleware's. -/

namespace NotificationService

/-! ## The validator -/

/-- A tag of go-playground's validator on a string field. -/
inductive StringTag
  | required
  | omitempty
  | oneof (values : List String)
  | min (n : Nat)
  | max (n : Nat)
  deriving DecidableEq, Repr

/-- A failed tag (`validator.FieldError`): the field's namespace, its name and the tag. -/
structure FieldError where
  ns : String
  field : String
  tag : String
  deriving DecidableEq, Repr

/-- `FieldError.Error()`: `Key: '%s' Error:Field validation for '%s' failed on the '%s' tag`. -/
def FieldError.text (e : FieldError) : String :=
  "Key: \x27" ++ e.ns ++ "\x27 Error:Field validation for \x27" ++ e.field ++
    "\x27 failed on the \x27" ++ e.tag ++ "\x27 tag"

/-- `ValidationErrors.Error()`: the field errors, one per line. -/
def fieldErrorsText (es : List FieldError) : String := "\n".intercalate (es.map FieldError.text)

/-- One string field's tags, checked in order: the first that fails is the field's error. -/
def checkString (ns field value : String) : List StringTag → List FieldError
  | [] => []
  | .required :: tags =>
    if value = "" then [⟨ns ++ "." ++ field, field, "required"⟩]
    else checkString ns field value tags
  | .omitempty :: tags => if value = "" then [] else checkString ns field value tags
  | .oneof values :: tags =>
    if value ∈ values then checkString ns field value tags
    else [⟨ns ++ "." ++ field, field, "oneof"⟩]
  | .min n :: tags =>
    if value.length < n then [⟨ns ++ "." ++ field, field, "min"⟩]
    else checkString ns field value tags
  | .max n :: tags =>
    if n < value.length then [⟨ns ++ "." ++ field, field, "max"⟩]
    else checkString ns field value tags

section CheckString

variable {ns field value : String} {tags : List StringTag}

@[simp] theorem checkString_nil : checkString ns field value [] = [] := rfl

theorem checkString_required_eq_nil :
    checkString ns field value (.required :: tags) = [] ↔
      value ≠ "" ∧ checkString ns field value tags = [] := by
  simp only [checkString]; split_ifs <;> simp_all

theorem checkString_oneof_eq_nil {values : List String} :
    checkString ns field value (.oneof values :: tags) = [] ↔
      value ∈ values ∧ checkString ns field value tags = [] := by
  simp only [checkString]; split_ifs <;> simp_all

theorem checkString_min_eq_nil {n : Nat} :
    checkString ns field value (.min n :: tags) = [] ↔
      n ≤ value.length ∧ checkString ns field value tags = [] := by
  simp only [checkString]; split_ifs <;> simp_all

theorem checkString_max_eq_nil {n : Nat} :
    checkString ns field value (.max n :: tags) = [] ↔
      value.length ≤ n ∧ checkString ns field value tags = [] := by
  simp only [checkString]; split_ifs <;> simp_all

end CheckString

/-- The tags of `CreateNotificationRequest` under the namespace `ns`: `Recipient` is `required`,
`Channel` `required,oneof=sms email push` and `Priority` `omitempty,oneof=high normal low`; the
other fields have none. -/
def createRequestErrors (ns : String) (req : CreateRequest) : List FieldError :=
  checkString ns "Recipient" req.recipient [.required] ++
    checkString ns "Channel" req.channel [.required, .oneof ["sms", "email", "push"]] ++
    checkString ns "Priority" req.priority [.omitempty, .oneof ["high", "normal", "low"]]

/-- The tags of `BatchCreateRequest`: `Notifications` is `required,min=1,max=1000,dive`; `none`
is a missing or `null` list. -/
def batchRequestErrors : Option (List CreateRequest) → List FieldError
  | none => [⟨"BatchCreateRequest.Notifications", "Notifications", "required"⟩]
  | some reqs =>
    if reqs.length < 1 then [⟨"BatchCreateRequest.Notifications", "Notifications", "min"⟩]
    else if 1000 < reqs.length then
      [⟨"BatchCreateRequest.Notifications", "Notifications", "max"⟩]
    else reqs.enum.flatMap fun (i, req) =>
      createRequestErrors ("BatchCreateRequest.Notifications[" ++ toString i ++ "]") req

/-- A request whose fields pass their tags. -/
def CreateRequest.PassesTags (req : CreateRequest) : Prop :=
  req.recipient ≠ "" ∧ req.channel ∈ ["sms", "email", "push"] ∧
    (req.priority = "" ∨ req.priority ∈ ["high", "normal", "low"])

theorem createRequestErrors_eq_nil (ns : String) (req : CreateRequest) :
    createRequestErrors ns req = [] ↔ req.PassesTags := by
  simp only [createRequestErrors, checkString, List.append_eq_nil, CreateRequest.PassesTags]
  split_ifs <;> simp_all

theorem batchRequestErrors_eq_nil (reqs : List CreateRequest) :
    batchRequestErrors (some reqs) = [] ↔
      1 ≤ reqs.length ∧ reqs.length ≤ maxBatchSize ∧ ∀ req ∈ reqs, req.PassesTags := by
  simp only [batchRequestErrors, maxBatchSize]
  split_ifs with h₁ h₂
  · simp; omega
  · simp; omega
  · simp only [List.flatMap_eq_nil_iff, createRequestErrors_eq_nil, Prod.forall,
      List.mem_enum_iff_getElem?]
    simp only [List.mem_iff_getElem?, forall_exists_index,
      show 1 ≤ reqs.length ∧ reqs.length ≤ 1000 by omega, true_and]
    exact forall_swap

theorem CreateRequest.PassesTags.channel {req : CreateRequest} (h : req.PassesTags) :
    ∃ c, Channel.ofText req.channel = some c := by
  obtain ⟨-, h, -⟩ := h
  simp only [List.mem_cons, List.mem_singleton, List.not_mem_nil, or_false] at h
  rcases h with h | h | h <;> simp [h, Channel.ofText]

/-! ## Answers -/

/-- The `details` of an error answer: none, `{"field": name}` from `HandleError`, or the
validator's text from a handler's `validate.Struct` check. -/
inductive ErrorDetails
  | none
  | field (name : String)
  | text (s : String)
  deriving DecidableEq, Repr

/-- What a handler writes: `JSON(w, status, data)`, `JSONError(w, status, code, message,
details)`, or, after a panic, the recovery middleware's plain-text 500. -/
inductive Answer (α : Type)
  | json (status : Nat) (data : α)
  | jsonError (error : ApiError) (details : ErrorDetails)
  | recovered
  deriving DecidableEq, Repr

/-- `HandleError(w, err)`. -/
def errorAnswer {α : Type} (e : ServiceError) : Answer α :=
  .jsonError (handleError e).1 ((handleError e).2.elim .none .field)

/-- A handler's answer to a body the validator rejects. -/
def validationFailed {α : Type} (es : List FieldError) : Answer α :=
  .jsonError ⟨400, "VALIDATION_ERROR", "Validation failed"⟩ (.text (fieldErrorsText es))

/-- `DecodeJSON` on a body that decodes to `a`, or fails with the decoder's text `err`. -/
def decodeJson {α : Type} : Except String α → Except ServiceError α
  | .error err => .error (.validation "body" ("invalid JSON: " ++ err))
  | .ok a => .ok a

/-! ## `Create` -/

/-- `Create` up to the service call: the body decoded and checked by the validator; an `error`
is the answer written instead. -/
def createAdmit (body : Except String CreateRequest) : Except (Answer Notification) CreateRequest :=
  match decodeJson body with
  | .error e => .error (errorAnswer e)
  | .ok req =>
    match createRequestErrors "CreateNotificationRequest" req with
    | [] => .ok req
    | es => .error (validationFailed es)

/-- `Create` after the service call. -/
def createAnswer : Except ServiceError Notification → Answer Notification
  | .error e => errorAnswer e
  | .ok n => .json 201 n

theorem createAdmit_eq_ok {body : Except String CreateRequest} {req : CreateRequest}
    (h : createAdmit body = .ok req) : req.PassesTags := by
  rcases body with err | req'
  · cases h
  · simp only [createAdmit, decodeJson] at h
    split at h
    · cases h
      rwa [← createRequestErrors_eq_nil "CreateNotificationRequest"]
    · cases h

/-- A step of a `Create` thread, from any shared state and with any choice of the environment:
between two of its steps the other threads only change the shared state. -/
def CreatePc.Steps (templates : String → Option Template) (pc pc' : CreatePc) : Prop :=
  ∃ sh ch sh', createStep templates sh ch pc = some (sh', pc')

/-- The errors `Create` returns for a request with a known channel. -/
def CreateFailure (e : ServiceError) : Prop :=
  (∃ message, e = .validation "content" message) ∨
    e = .validation "scheduled_at" "scheduled time must be in the future" ∨
    e = .templateNotFound ∨ (∃ names, e = .missingVariables names) ∨ e = .notFound ∨
    ∃ context, e = .backend context

/-- A `Create` thread on a request with a known channel: the request's channel is known, and an
error it returns is a `CreateFailure`. -/
def CreatePc.Answerable : CreatePc → Prop
  | .start req => ∃ c, Channel.ofText req.channel = some c
  | .done _ (.error e) => CreateFailure e
  | _ => True

theorem idempotencyLookup_eq_error {sh : Shared} {ok : Bool} {req : CreateRequest}
    {e : ServiceError} (h : idempotencyLookup sh ok req = some (.error e)) :
    e = .backend "failed to check idempotency" := by
  unfold idempotencyLookup at h
  split at h
  · cases h
  · split_ifs at h
    · simp at h
    · exact (Except.error.inj (Option.some.inj h)).symm

theorem CreateFailure.backend (context : String) : CreateFailure (.backend context) :=
  .inr (.inr (.inr (.inr (.inr ⟨_, rfl⟩))))

theorem CreateFailure.notFound : CreateFailure .notFound := .inr (.inr (.inr (.inr (.inl rfl))))

theorem CreatePc.Answerable.step {templates : String → Option Template} {pc pc' : CreatePc}
    (hpc : pc.Answerable) (h : CreatePc.Steps templates pc pc') : pc'.Answerable := by
  obtain ⟨sh, ch, sh', h⟩ := h
  cases pc with
  | idle | done => cases h
  | start req =>
    obtain ⟨c, hc⟩ := hpc
    simp only [createStep] at h
    split at h
    · cases h
      rename_i r hr
      rcases r with e | n
      · exact idempotencyLookup_eq_error hr ▸ CreateFailure.backend _
      · trivial
    · split at h
      · cases h
        rename_i e he
        rcases createNotification_eq_error he with ⟨hc', -⟩ | h' | h' | h' | h' | ⟨-, -, rfl⟩
        · simp [hc] at hc'
        · exact .inl h'
        · exact .inr (.inl h')
        · exact .inr (.inr (.inl h'))
        · exact .inr (.inr (.inr (.inl h')))
        · exact CreateFailure.backend _
      · cases h; trivial
  | insert req n =>
    simp only [createStep] at h
    by_cases hok : ch.ok = true
    · rw [if_pos hok] at h
      split at h <;> simp only [Option.some.injEq, Prod.mk.injEq] at h <;> obtain ⟨-, rfl⟩ := h
      · trivial
      · exact CreateFailure.backend _
      · split_ifs <;> trivial
    · rw [if_neg hok, Option.some.injEq, Prod.mk.injEq] at h
      obtain ⟨-, rfl⟩ := h
      exact CreateFailure.backend _
  | conflict req =>
    simp only [createStep, Option.some.injEq, Prod.mk.injEq] at h
    obtain ⟨-, rfl⟩ := h
    cases hk : req.idempotencyKey with
    | none => simpa only [hk] using CreateFailure.notFound
    | some k =>
      simp only [hk]
      split_ifs
      · split
        · trivial
        · exact CreateFailure.notFound
      · exact CreateFailure.backend _
  | enqueue req n =>
    simp only [createStep] at h
    split_ifs at h <;> cases h <;> trivial
  | update req n =>
    simp only [createStep] at h
    split at h <;> cases h <;> trivial

theorem CreatePc.Answerable.run {templates : String → Option Template} {pc pc' : CreatePc}
    (hpc : pc.Answerable) (h : Relation.ReflTransGen (CreatePc.Steps templates) pc pc') :
    pc'.Answerable := by
  induction h with
  | refl => exact hpc
  | tail _ hstep ih => exact ih.step hstep

/-- **What `POST /notifications` answers.** For every body the validator lets through and every
run of the `Create` thread on it, in any interleaving with the other threads, the answer is
`201` with the notification the service returns, or one of six error answers: a
`VALIDATION_ERROR` for the content or the schedule, `TEMPLATE_NOT_FOUND`, `MISSING_VARIABLES`,
`NOT_FOUND` (a conflicting insert whose read-back finds nothing), or `INTERNAL_ERROR`. The
service's channel check is never the answer, because the validator's `oneof` rejects every
unknown channel first. Neither is `IDEMPOTENCY_CONFLICT`, because the service reads a
conflicting record back instead of returning the conflict. -/
theorem create_http_answers {templates : String → Option Template}
    {body : Except String CreateRequest} {req : CreateRequest} (hreq : createAdmit body = .ok req)
    {r : Except ServiceError Notification}
    (hrun : Relation.ReflTransGen (CreatePc.Steps templates) (.start req) (.done req r)) :
    (∃ n, r = .ok n ∧ createAnswer r = .json 201 n) ∨
      (∃ message, createAnswer r =
        .jsonError ⟨400, "VALIDATION_ERROR", message⟩ (.field "content")) ∨
      createAnswer r = .jsonError ⟨400, "VALIDATION_ERROR", "scheduled time must be in the future"⟩
        (.field "scheduled_at") ∨
      createAnswer r = .jsonError ⟨400, "TEMPLATE_NOT_FOUND", "Template not found"⟩ .none ∨
      (∃ names, createAnswer r = .jsonError
        ⟨400, "MISSING_VARIABLES", "missing template variables: " ++ goSliceText names⟩ .none) ∨
      createAnswer r = .jsonError ⟨404, "NOT_FOUND", "Resource not found"⟩ .none ∨
      createAnswer r = .jsonError ⟨500, "INTERNAL_ERROR", "An internal error occurred"⟩ .none := by
  have hstart : (CreatePc.start req).Answerable := (createAdmit_eq_ok hreq).channel
  rcases r with e | n
  · right
    rcases hstart.run hrun with ⟨m, rfl⟩ | rfl | rfl | ⟨names, rfl⟩ | rfl | ⟨c, rfl⟩
    · exact .inl ⟨m, rfl⟩
    · exact .inr (.inl rfl)
    · exact .inr (.inr (.inl rfl))
    · exact .inr (.inr (.inr (.inl ⟨names, rfl⟩)))
    · exact .inr (.inr (.inr (.inr (.inl rfl))))
    · exact .inr (.inr (.inr (.inr (.inr rfl))))
  · exact .inl ⟨n, rfl, rfl⟩

/-- A request naming a template the repository does not have, answered `TEMPLATE_NOT_FOUND`
after one step. -/
theorem create_http_answers_unknown_template :
    let req : CreateRequest := ⟨"r", "sms", "", "", none, none, some "welcome", []⟩
    createAdmit (.ok req) = .ok req ∧
      Relation.ReflTransGen (CreatePc.Steps fun _ => none) (.start req)
        (.done req (.error .templateNotFound)) ∧
      ((∃ n, (.error .templateNotFound : Except ServiceError Notification) = .ok n ∧
          createAnswer (.error .templateNotFound) = .json 201 n) ∨
        (∃ message, createAnswer (.error .templateNotFound) =
          .jsonError ⟨400, "VALIDATION_ERROR", message⟩ (.field "content")) ∨
        createAnswer (.error .templateNotFound) =
          .jsonError ⟨400, "VALIDATION_ERROR", "scheduled time must be in the future"⟩
            (.field "scheduled_at") ∨
        createAnswer (.error .templateNotFound) =
          .jsonError ⟨400, "TEMPLATE_NOT_FOUND", "Template not found"⟩ .none ∨
        (∃ names, createAnswer (.error .templateNotFound) = .jsonError
          ⟨400, "MISSING_VARIABLES", "missing template variables: " ++ goSliceText names⟩ .none) ∨
        createAnswer (.error .templateNotFound) =
          .jsonError ⟨404, "NOT_FOUND", "Resource not found"⟩ .none ∨
        createAnswer (.error .templateNotFound) =
          .jsonError ⟨500, "INTERNAL_ERROR", "An internal error occurred"⟩ .none) :=
  have h₁ : createAdmit (.ok ⟨"r", "sms", "", "", none, none, some "welcome", []⟩) =
      .ok ⟨"r", "sms", "", "", none, none, some "welcome", []⟩ := rfl
  have h₂ : Relation.ReflTransGen (CreatePc.Steps fun _ => none)
      (.start ⟨"r", "sms", "", "", none, none, some "welcome", []⟩)
      (.done ⟨"r", "sms", "", "", none, none, some "welcome", []⟩ (.error .templateNotFound)) :=
    .single ⟨Shared.init 0, Choice.at 0, _, rfl⟩
  ⟨h₁, h₂, create_http_answers h₁ h₂⟩

/-! ## `CreateBatch` -/

/-- The data of `CreateBatch`'s answer: `batch_id`, `count` and `notifications`. -/
structure BatchCreated where
  batchId : Option Nat
  count : Nat
  notifications : List Notification
  deriving DecidableEq, Repr

/-- `CreateBatch` up to the service call: the body decoded and checked by the validator; an
`error` is the answer written instead. -/
def batchAdmit (body : Except String (Option (List CreateRequest))) :
    Except (Answer BatchCreated) (List CreateRequest) :=
  match decodeJson body with
  | .error e => .error (errorAnswer e)
  | .ok list =>
    match list, batchRequestErrors list with
    | some reqs, [] => .ok reqs
    | _, es => .error (validationFailed es)

/-- `CreateBatch` after the service call: `notifications[0]` of an empty list panics. -/
def batchAnswer : Except ServiceError (List Notification) → Answer BatchCreated
  | .error e => errorAnswer e
  | .ok [] => .recovered
  | .ok (n :: ns) => .json 201 ⟨n.batchId, (n :: ns).length, n :: ns⟩

theorem batchAdmit_eq_ok {body : Except String (Option (List CreateRequest))}
    {reqs : List CreateRequest} (h : batchAdmit body = .ok reqs) :
    1 ≤ reqs.length ∧ reqs.length ≤ maxBatchSize ∧ ∀ req ∈ reqs, req.PassesTags := by
  rcases body with err | list
  · cases h
  · simp only [batchAdmit, decodeJson] at h
    split at h
    · cases h
      rwa [← batchRequestErrors_eq_nil]
    · cases h

/-- A step of a `CreateBatch` thread, from any shared state and with any choice. -/
def BatchPc.Steps (templates : String → Option Template) (pc pc' : BatchPc) : Prop :=
  ∃ sh ch sh', batchStep templates sh ch pc = some (sh', pc')

/-- `n` notifications, all of one batch. -/
def OneBatch (n : Nat) (ns : List Notification) : Prop :=
  ns.length = n ∧ ∃ b, ∀ m ∈ ns, m.batchId = some b

/-- A `CreateBatch` thread on `n` requests the validator let through: at most 1000 requests of
known channels, then one notification per request, all of one batch, and only the loop's
content and template errors or a store failure. -/
def BatchPc.Answerable (n : Nat) : BatchPc → Prop
  | .idle => True
  | .start reqs => reqs.length = n ∧ n ≤ maxBatchSize ∧
      ∀ req ∈ reqs, ∃ c, Channel.ofText req.channel = some c
  | .insert ns | .enqueue ns | .done (.ok ns) => OneBatch n ns
  | .done (.error e) => (∃ i, e = .inBatch i (.validation "content" "content is required")) ∨
      (∃ i, e = .inBatch i .templateNotFound) ∨
      e = .wrapped "failed to create batch" .idempotencyConflict ∨ ∃ context, e = .backend context

theorem BatchPc.Answerable.step {templates : String → Option Template} {n : Nat}
    {pc pc' : BatchPc} (hpc : pc.Answerable n) (h : BatchPc.Steps templates pc pc') :
    pc'.Answerable n := by
  obtain ⟨sh, ch, sh', h⟩ := h
  cases pc with
  | idle | done => cases h
  | start reqs =>
    obtain ⟨rfl, hmax, hc⟩ := hpc
    simp only [batchStep, if_neg (Nat.not_lt.2 hmax)] at h
    split at h <;> simp only [Option.some.injEq, Prod.mk.injEq] at h <;> obtain ⟨-, rfl⟩ := h
    · rename_i e he
      obtain ⟨k, -, e', rfl, he'⟩ := batchNotifications_eq_error he
      rcases he' with ⟨⟨req, hreq, hnone⟩, -⟩ | rfl | rfl
      · obtain ⟨c, hc'⟩ := hc req hreq
        simp [hc'] at hnone
      · exact .inr (.inl ⟨_, rfl⟩)
      · exact .inl ⟨_, rfl⟩
    · rename_i ns hns
      obtain ⟨hids, hall⟩ := batchNotifications_eq_ok hns
      exact ⟨by simpa using congrArg List.length hids, _, fun m hm => (hall m hm).1⟩
  | insert ns =>
    simp only [batchStep] at h
    by_cases hok : ch.ok = true
    · rw [if_pos hok] at h
      split at h <;> simp only [Option.some.injEq, Prod.mk.injEq] at h <;> obtain ⟨-, rfl⟩ := h
      · exact .inr (.inr (.inl rfl))
      · exact .inr (.inr (.inr ⟨_, rfl⟩))
      · split_ifs <;> exact hpc
    · rw [if_neg hok, Option.some.injEq, Prod.mk.injEq] at h
      obtain ⟨-, rfl⟩ := h
      exact .inr (.inr (.inr ⟨_, rfl⟩))
  | enqueue ns =>
    simp only [batchStep] at h
    split_ifs at h <;> simp only [Option.some.injEq, Prod.mk.injEq] at h <;> obtain ⟨-, rfl⟩ := h
    · obtain ⟨hlen, b, hb⟩ := hpc
      refine ⟨by simpa using hlen, b, ?_⟩
      simp only [List.mem_map]
      rintro _ ⟨m, hm, rfl⟩
      split_ifs <;> exact hb m hm
    · exact hpc

theorem BatchPc.Answerable.run {templates : String → Option Template} {n : Nat}
    {pc pc' : BatchPc} (hpc : pc.Answerable n)
    (h : Relation.ReflTransGen (BatchPc.Steps templates) pc pc') : pc'.Answerable n := by
  induction h with
  | refl => exact hpc
  | tail _ hstep ih => exact ih.step hstep

/-- **What `POST /notifications/batch` answers.** The validator lets through only batches of 1
to 1000 requests (the `max` tag refuses larger ones before the service is called), so
`BATCH_SIZE_EXCEEDED` is never the answer. For every batch it lets through and every run of the
`CreateBatch` thread on it, in any interleaving, the answer is one of five. It is `201` with one
notification per request, all carrying the `batch_id` of the answer. Otherwise it is a
`VALIDATION_ERROR` for empty content, `TEMPLATE_NOT_FOUND`, `IDEMPOTENCY_CONFLICT` (the
transaction's insert hit a key in use, which `errors.Is` finds under the service's
`"failed to create batch"`), or `INTERNAL_ERROR`: never the service's channel check, never the
index of the failing request, and never the recovery middleware's 500 after a panic at
`notifications[0]`. -/
theorem batch_http_answers {templates : String → Option Template}
    {body : Except String (Option (List CreateRequest))} {reqs : List CreateRequest}
    (hreq : batchAdmit body = .ok reqs) {r : Except ServiceError (List Notification)}
    (hrun : Relation.ReflTransGen (BatchPc.Steps templates) (.start reqs) (.done r)) :
    1 ≤ reqs.length ∧ reqs.length ≤ maxBatchSize ∧
      ((∃ ns b, r = .ok ns ∧ batchAnswer r = .json 201 ⟨some b, reqs.length, ns⟩ ∧
          ∀ m ∈ ns, m.batchId = some b) ∨
        batchAnswer r =
          .jsonError ⟨400, "VALIDATION_ERROR", "content is required"⟩ (.field "content") ∨
        batchAnswer r = .jsonError ⟨400, "TEMPLATE_NOT_FOUND", "Template not found"⟩ .none ∨
        batchAnswer r =
          .jsonError ⟨409, "IDEMPOTENCY_CONFLICT", "Idempotency key already used"⟩ .none ∨
        batchAnswer r =
          .jsonError ⟨500, "INTERNAL_ERROR", "An internal error occurred"⟩ .none) := by
  obtain ⟨h₁, h₂, hreqs⟩ := batchAdmit_eq_ok hreq
  refine ⟨h₁, h₂, ?_⟩
  have hstart : (BatchPc.start reqs).Answerable reqs.length :=
    ⟨rfl, h₂, fun req hr => (hreqs req hr).channel⟩
  rcases r with e | ns
  · right
    rcases hstart.run hrun with ⟨i, rfl⟩ | ⟨i, rfl⟩ | rfl | ⟨c, rfl⟩
    · exact .inl rfl
    · exact .inr (.inl rfl)
    · exact .inr (.inr (.inl rfl))
    · exact .inr (.inr (.inr rfl))
  · obtain ⟨hlen, b, hb⟩ := hstart.run hrun
    cases ns with
    | nil => simp at hlen; omega
    | cons m ms =>
      exact .inl ⟨_, b, rfl, by simp [batchAnswer, hb m (List.mem_cons_self _ _), hlen], hb⟩

/-- A batch of one request with no content and no template, answered `VALIDATION_ERROR` for
the content after one step. -/
theorem batch_http_answers_empty_content :
    let req : CreateRequest := ⟨"r", "sms", "", "", none, none, none, []⟩
    let r : Except ServiceError (List Notification) :=
      .error (.inBatch 0 (.validation "content" "content is required"))
    batchAdmit (.ok (some [req])) = .ok [req] ∧
      Relation.ReflTransGen (BatchPc.Steps fun _ => none) (.start [req]) (.done r) ∧
      1 ≤ [req].length ∧ [req].length ≤ maxBatchSize ∧
      ((∃ ns b, r = .ok ns ∧ batchAnswer r = .json 201 ⟨some b, [req].length, ns⟩ ∧
          ∀ m ∈ ns, m.batchId = some b) ∨
        batchAnswer r =
          .jsonError ⟨400, "VALIDATION_ERROR", "content is required"⟩ (.field "content") ∨
        batchAnswer r = .jsonError ⟨400, "TEMPLATE_NOT_FOUND", "Template not found"⟩ .none ∨
        batchAnswer r =
          .jsonError ⟨409, "IDEMPOTENCY_CONFLICT", "Idempotency key already used"⟩ .none ∨
        batchAnswer r =
          .jsonError ⟨500, "INTERNAL_ERROR", "An internal error occurred"⟩ .none) :=
  have h₁ : batchAdmit (.ok (some [⟨"r", "sms", "", "", none, none, none, []⟩])) =
      .ok [⟨"r", "sms", "", "", none, none, none, []⟩] := rfl
  have h₂ : Relation.ReflTransGen (BatchPc.Steps fun _ => none)
      (.start [⟨"r", "sms", "", "", none, none, none, []⟩])
      (.done (.error (.inBatch 0 (.validation "content" "content is required")))) :=
    .single ⟨Shared.init 0, Choice.at 0, _, rfl⟩
  ⟨h₁, h₂, batch_http_answers h₁ h₂⟩

end NotificationService
