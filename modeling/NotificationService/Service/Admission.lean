import NotificationService.Service.Shared
import NotificationService.Domain.Template

/-! # The admission path: `Create`, `CreateBatch` and `Cancel`

`NotificationService` (`internal/service/notification.go`). Each request runs as a thread of
its own; its program counter (`CreatePc`, `BatchPc`, `CancelPc`) sits between the store and
queue calls, which are the atomic steps other threads interleave with. Local computation is
folded into the step that precedes it.

* **`createNotification`** — `Create`'s validation block, from the channel check to the
  idempotency key: template expansion (`GetByName`, `Validate` then `Render`), the
  empty-content and length checks, `NewNotification`, the priority, and the past-schedule check.
* **`batchNotification`** — the same block in `CreateBatch`'s loop. It is not the same code:
  it skips `Template.Validate`, `validateContentLength` and the past-schedule check, treats
  every template lookup error as `ErrTemplateNotFound`, and wraps errors with the position.
* **`createStep`**, **`batchStep`**, **`cancelStep`** — one step of a request thread.

Status broadcasts to the WebSocket hub and log lines are left out: they touch neither the store
nor the queue. The template catalogue is a fixed lookup (templates are only read here); whether
a lookup's call succeeds is the step's `Choice.lookupOk`. -/

namespace NotificationService

/-- `maxBatchSize`. -/
def maxBatchSize : Nat := 1000

/-- A create request (`CreateRequest`, without `Metadata`); channel and priority are the
request's texts, `templateVars` the variables map in one iteration order. -/
structure CreateRequest where
  recipient : String
  channel : String
  content : String
  priority : String
  scheduledAt : Option Int
  idempotencyKey : Option String
  templateName : Option String
  templateVars : List (String × String)
  deriving DecidableEq, Repr

/-- The priority a request gets: its own when it names a valid one, else `normal`. -/
def Notification.withPriority (n : Notification) (p : String) : Notification :=
  match Priority.ofText p with
  | some q => { n with priority := q }
  | none => n

/-! ## Reading `Except` computations -/

theorem bind_eq_ok {ε α β : Type} {x : Except ε α} {f : α → Except ε β} {b : β} :
    x >>= f = .ok b ↔ ∃ a, x = .ok a ∧ f a = .ok b := by
  cases x <;> simp [bind, Except.bind]

@[simp] theorem ok_bind {ε α β : Type} (a : α) (f : α → Except ε β) :
    (Except.ok a : Except ε α) >>= f = f a := rfl

@[simp] theorem map_ok {ε α β : Type} (a : α) (f : α → β) :
    f <$> (Except.ok a : Except ε α) = .ok (f a) := rfl

@[simp] theorem pure_eq_ok {ε α : Type} {a b : α} : (pure a : Except ε α) = .ok b ↔ a = b := by
  simp [pure, Except.pure]

/-! ## The validation blocks -/

/-- `Create`'s template block: the request's own content, or its template's content once
`Template.Validate` finds every variable; `ok` is whether the `GetByName` call succeeds. -/
def createContent (templates : String → Option Template) (ok : Bool) (req : CreateRequest) :
    Except ServiceError String :=
  match req.templateName with
  | none => pure req.content
  | some name =>
    if ok then
      match templates name with
      | none => throw .templateNotFound
      | some tpl =>
        let missing := tpl.validate req.templateVars
        if missing.isEmpty then pure (tpl.render req.templateVars)
        else throw (.missingVariables missing)
    else throw (.backend "failed to get template")

/-- The empty-content check. -/
def requireContent (content : String) : Except ServiceError Unit :=
  if content = "" then throw (.validation "content" "content is required") else pure ()

/-- `Create`'s schedule block: a schedule before the reading `now` is rejected. -/
def Notification.scheduleAt (n : Notification) (scheduledAt : Option Int) (now : Int) :
    Except ServiceError Notification :=
  match scheduledAt with
  | none => pure n
  | some sch =>
    if sch < now then throw (.validation "scheduled_at" "scheduled time must be in the future")
    else pure { n with scheduledAt := some sch, status := .scheduled }

theorem withPriority_eq (n : Notification) (p : String) :
    n.withPriority p = { n with priority := (Priority.ofText p).getD n.priority } := by
  unfold Notification.withPriority; split <;> simp_all

/-- `Create`'s validation and construction block for a new notification `id`, created at
reading `t₁`, its schedule checked against reading `t₂`; `ok` is whether its template lookup
succeeds. -/
def createNotification (templates : String → Option Template) (ok : Bool) (req : CreateRequest)
    (id : Nat) (t₁ t₂ : Int) : Except ServiceError Notification := do
  let some ch := Channel.ofText req.channel | throw (.validation "channel" "invalid channel")
  let content ← createContent templates ok req
  requireContent content
  validateContentLength ch content
  let n ← ((Notification.newNotification id req.recipient ch content t₁).withPriority
    req.priority).scheduleAt req.scheduledAt t₂
  pure { n with idempotencyKey := req.idempotencyKey }

/-- `CreateBatch`'s template block: any lookup failure is `ErrTemplateNotFound`, and the
variables are not validated. -/
def batchContent (templates : String → Option Template) (ok : Bool) (req : CreateRequest) :
    Except ServiceError String :=
  match req.templateName with
  | none => pure req.content
  | some name =>
    match (if ok then templates name else none) with
    | none => throw .templateNotFound
    | some tpl => pure (tpl.render req.templateVars)

/-- `CreateBatch`'s schedule block: any schedule is taken. -/
def Notification.withSchedule (n : Notification) : Option Int → Notification
  | none => n
  | some sch => { n with scheduledAt := some sch, status := .scheduled }

/-- The block of `CreateBatch`'s loop for request number `i`, a new notification `id` of batch
`batchId`, created at reading `t`; its errors are wrapped with the position, and `ok` is
whether its template lookup succeeds. -/
def batchNotification (templates : String → Option Template) (ok : Bool) (batchId i : Nat)
    (req : CreateRequest) (id : Nat) (t : Int) : Except ServiceError Notification :=
  Except.mapError (.inBatch i) do
    let some ch := Channel.ofText req.channel | throw (.validation "channel" "invalid channel")
    let content ← batchContent templates ok req
    requireContent content
    let n := { Notification.newNotification id req.recipient ch content t with
      batchId := some batchId }.withPriority req.priority
    pure { n.withSchedule req.scheduledAt with idempotencyKey := req.idempotencyKey }

/-- `CreateBatch`'s loop from position `i` on: notification `firstId + i` for request `i`,
stopping at the first request that fails; `lookupOk i` is whether the template lookup of
request `i` succeeds. -/
def batchNotifications (templates : String → Option Template) (lookupOk : Nat → Bool)
    (batchId firstId : Nat) (t : Int) :
    Nat → List CreateRequest → Except ServiceError (List Notification)
  | _, [] => pure []
  | i, req :: reqs => do
    let n ← batchNotification templates (lookupOk i) batchId i req (firstId + i) t
    let ns ← batchNotifications templates lookupOk batchId firstId t (i + 1) reqs
    pure (n :: ns)

/-- One variables map, `a ↦ "{{b}}"` and `b ↦ "X"`, in its two iteration orders, on a template
with content `{{a}}`: `Render` rewrites its own output, so one order gives `"X"` and the other
`"{{b}}"`, and `Create` and `CreateBatch` persist either content. -/
theorem render_depends_on_order :
    let tpl : Template := newTemplate "t" .sms (placeholder "a")
    let req : List (String × String) → CreateRequest := fun vars =>
      ⟨"r", "sms", "", "normal", none, none, some "t", vars⟩
    [("a", placeholder "b"), ("b", "X")].Perm [("b", "X"), ("a", placeholder "b")] ∧
      tpl.render [("a", placeholder "b"), ("b", "X")] = "X" ∧
      tpl.render [("b", "X"), ("a", placeholder "b")] = placeholder "b" ∧
      (createNotification (fun _ => some tpl) true (req [("a", placeholder "b"), ("b", "X")]) 0 0
        0).map (·.content) = .ok "X" ∧
      (createNotification (fun _ => some tpl) true (req [("b", "X"), ("a", placeholder "b")]) 0 0
        0).map (·.content) = .ok (placeholder "b") ∧
      (batchNotification (fun _ => some tpl) true 0 0 (req [("a", placeholder "b"), ("b", "X")]) 0
        0).map (·.content) = .ok "X" ∧
      (batchNotification (fun _ => some tpl) true 0 0 (req [("b", "X"), ("a", placeholder "b")]) 0
        0).map (·.content) = .ok (placeholder "b") :=
  ⟨List.Perm.swap _ _ _, rfl, rfl, rfl, rfl, rfl, rfl⟩

/-- The queue items `CreateBatch` prepares: one per notification that is not scheduled, with
retry count 0. -/
def batchItems (ns : List Notification) : List QueueItem :=
  (ns.filter fun n => n.status == .pending).map fun n => ⟨n.id, n.channel, n.priority, 0⟩

theorem scheduleAt_eq_ok {n m : Notification} {sch : Option Int} {now : Int}
    (h : n.scheduleAt sch now = .ok m) : m = n.withSchedule sch ∧ ∀ s, sch = some s → now ≤ s := by
  unfold Notification.scheduleAt at h
  split at h
  · simp_all [Notification.withSchedule]
  · split at h
    · cases h
    · simp_all [Notification.withSchedule]

theorem createNotification_eq_ok {templates : String → Option Template} {ok : Bool}
    {req : CreateRequest} {id : Nat} {t₁ t₂ : Int} {n : Notification}
    (h : createNotification templates ok req id t₁ t₂ = .ok n) :
    ∃ ch content, Channel.ofText req.channel = some ch ∧ createContent templates ok req = .ok content ∧
      content ≠ "" ∧ content.utf8ByteSize ≤ ch.maxContentLength ∧
      (∀ sch, req.scheduledAt = some sch → t₂ ≤ sch) ∧
      n = { ((Notification.newNotification id req.recipient ch content t₁).withPriority
          req.priority).withSchedule req.scheduledAt with idempotencyKey := req.idempotencyKey } := by
  unfold createNotification at h
  cases hc : Channel.ofText req.channel with
  | none => simp [hc] at h
  | some ch =>
    simp only [hc, bind_eq_ok, pure_eq_ok] at h
    obtain ⟨content, hcontent, u, hreq, v, hlen, m, hsch, rfl⟩ := h
    obtain ⟨rfl, hlate⟩ := scheduleAt_eq_ok hsch
    have hne : content ≠ "" := by
      intro he; simp [requireContent, he] at hreq
    have hle := (validateContentLength_ok_iff ch content).1 hlen
    exact ⟨ch, content, rfl, hcontent, hne, hle, hlate, rfl⟩

theorem mapError_eq_ok {ε ε' α : Type} {f : ε → ε'} {x : Except ε α} {a : α} :
    x.mapError f = .ok a ↔ x = .ok a := by
  cases x <;> simp [Except.mapError]

theorem batchNotification_eq_ok {templates : String → Option Template} {ok : Bool}
    {batchId i id : Nat} {req : CreateRequest} {t : Int} {n : Notification}
    (h : batchNotification templates ok batchId i req id t = .ok n) :
    ∃ ch content, Channel.ofText req.channel = some ch ∧ batchContent templates ok req = .ok content ∧
      n = { ({ Notification.newNotification id req.recipient ch content t with
        batchId := some batchId }.withPriority req.priority).withSchedule req.scheduledAt with
        idempotencyKey := req.idempotencyKey } := by
  unfold batchNotification at h
  rw [mapError_eq_ok] at h
  cases hc : Channel.ofText req.channel with
  | none => simp [hc] at h
  | some ch =>
    simp only [hc, bind_eq_ok, pure_eq_ok] at h
    obtain ⟨content, hcontent, -, -, rfl⟩ := h
    exact ⟨ch, content, rfl, hcontent, rfl⟩

theorem batchNotification_fields {templates : String → Option Template} {ok : Bool}
    {batchId i id : Nat} {req : CreateRequest} {t : Int} {n : Notification}
    (h : batchNotification templates ok batchId i req id t = .ok n) :
    n.id = id ∧ n.batchId = some batchId ∧ n.retryCount = 0 ∧
      (n.status = .pending ∨ n.status = .scheduled) ∧ n.ScheduleRecorded := by
  obtain ⟨ch, content, -, -, rfl⟩ := batchNotification_eq_ok h
  cases req.scheduledAt <;> simp [Notification.withSchedule, withPriority_eq,
    Notification.newNotification, Notification.ScheduleRecorded]

theorem batchNotifications_eq_ok {templates : String → Option Template} {lookupOk : Nat → Bool}
    {batchId firstId : Nat} {t : Int} : ∀ {i : Nat} {reqs : List CreateRequest} {ns : List Notification},
    batchNotifications templates lookupOk batchId firstId t i reqs = .ok ns →
      ns.map (·.id) = List.range' (firstId + i) reqs.length ∧
      ∀ n ∈ ns, n.batchId = some batchId ∧ n.retryCount = 0 ∧
        (n.status = .pending ∨ n.status = .scheduled) ∧ n.ScheduleRecorded
  | _, [], ns, h => by cases h; simp
  | i, req :: reqs, ns, h => by
    simp only [batchNotifications, bind_eq_ok, pure_eq_ok] at h
    obtain ⟨n, hn, ns', hns', rfl⟩ := h
    obtain ⟨hid, hspec⟩ := batchNotifications_eq_ok hns'
    obtain ⟨hnid, hn'⟩ := batchNotification_fields hn
    refine ⟨?_, ?_⟩
    · simp [hnid, hid, List.range'_succ, Nat.add_assoc]
    · simpa using ⟨hn', hspec⟩

/-! ## `Create` -/

/-- Results are compared as values (Lean's core gives `Except` no `DecidableEq`). -/
instance decEqExcept {ε α : Type} [DecidableEq ε] [DecidableEq α] : DecidableEq (Except ε α)
  | .error x, .error y => decidable_of_iff (x = y) (by simp)
  | .ok x, .ok y => decidable_of_iff (x = y) (by simp)
  | .error _, .ok _ => isFalse (by simp)
  | .ok _, .error _ => isFalse (by simp)

/-- Where a `Create` request is. -/
inductive CreatePc
  | idle
  /-- Received; next: the idempotency lookup and the validation block. -/
  | start (req : CreateRequest)
  /-- Validated; next: `repo.Create`. -/
  | insert (req : CreateRequest) (n : Notification)
  /-- The insert hit the idempotency constraint; next: the read-back. -/
  | conflict (req : CreateRequest)
  /-- Persisted as pending; next: `enqueueNotification`'s `Enqueue`. -/
  | enqueue (req : CreateRequest) (n : Notification)
  /-- Enqueued and marked queued; next: `enqueueNotification`'s `Update`. -/
  | update (req : CreateRequest) (n : Notification)
  /-- Returned. -/
  | done (req : CreateRequest) (result : Except ServiceError Notification)
  deriving DecidableEq, Repr

/-- What `GetByIdempotencyKey` at the start of `Create` decides: a result to return at once,
or nothing (no key, or no record with it). -/
def idempotencyLookup (sh : Shared) (ok : Bool) (req : CreateRequest) :
    Option (Except ServiceError Notification) :=
  match req.idempotencyKey with
  | none => none
  | some k =>
    if ok then (sh.store.getByIdempotencyKey k).map .ok
    else some (.error (.backend "failed to check idempotency"))

/-- One step of a `Create` request. -/
def createStep (templates : String → Option Template) (sh : Shared) (ch : Choice) :
    CreatePc → Option (Shared × CreatePc)
  | .idle | .done _ _ => none
  | .start req =>
    match idempotencyLookup sh ch.ok req with
    | some r => some (sh, .done req r)
    | none =>
      let sh' := { sh with nextId := sh.nextId + 1 }
      match createNotification templates (ch.lookupOk 0) req sh.nextId ch.t₁ ch.t₂ with
      | .error e => some (sh', .done req (.error e))
      | .ok n => some (sh', .insert req n)
  | .insert req n =>
    if ch.ok then
      match sh.store.create n with
      | .error .idempotencyConflict => some (sh, .conflict req)
      | .error _ => some (sh, .done req (.error (.backend "failed to create notification")))
      | .ok st =>
        some ({ sh with store := st },
          if n.status = .pending then .enqueue req n else .done req (.ok n))
    else some (sh, .done req (.error (.backend "failed to create notification")))
  | .conflict req =>
    some (sh, .done req <|
      match req.idempotencyKey with
      | none => .error .notFound   -- unreachable: only a keyed insert conflicts
      | some k =>
        if ch.ok then
          match sh.store.getByIdempotencyKey k with
          | some r => .ok r
          | none => .error .notFound
        else .error (.backend "failed to scan notification"))
  | .enqueue req n =>
    let sh' := { sh with
      queue := enqueue sh.queue n.queueItem ch.t₂
      admitted := sh.admitted ++ [n.id] }
    if ch.ok then some (sh', .update req n.markAsQueued)
    -- the `ZADD` failed: its error is logged and the notification returned as it is
    else if ch.applied n.channel then some (sh', .done req (.ok n))
    else some (sh, .done req (.ok n))
  | .update req n =>
    match (if ch.ok then sh.store.update n else none) with
    | some st => some ({ sh with store := st }, .done req (.ok n))
    | none => some (sh, .done req (.ok n))

/-! ## `CreateBatch` -/

/-- Where a `CreateBatch` request is. -/
inductive BatchPc
  | idle
  /-- Received; next: the size check and the validation loop. -/
  | start (reqs : List CreateRequest)
  /-- Validated; next: `repo.CreateBatch`. -/
  | insert (ns : List Notification)
  /-- Persisted; next: `EnqueueBatch` of the items of the pending notifications. The groups
  that reach Redis are `Choice.applied`; `pipe.Exec` reports success only when all of them
  did and the reply arrived (`Choice.ok`). -/
  | enqueue (ns : List Notification)
  /-- Returned. -/
  | done (result : Except ServiceError (List Notification))
  deriving DecidableEq, Repr

/-- One step of a `CreateBatch` request. -/
def batchStep (templates : String → Option Template) (sh : Shared) (ch : Choice) :
    BatchPc → Option (Shared × BatchPc)
  | .idle | .done _ => none
  | .start reqs =>
    if reqs.length > maxBatchSize then some (sh, .done (.error .batchSizeExceeded))
    else
      let sh' := { sh with nextId := sh.nextId + 1 + reqs.length }
      match batchNotifications templates ch.lookupOk sh.nextId (sh.nextId + 1) ch.t₂ 0 reqs with
      | .error e => some (sh', .done (.error e))
      | .ok ns => some (sh', .insert ns)
  | .insert ns =>
    if ch.ok then
      match sh.store.createBatch ns with
      | .error .idempotencyConflict =>
        some (sh, .done (.error (.wrapped "failed to create batch" .idempotencyConflict)))
      | .error _ => some (sh, .done (.error (.backend "failed to create batch")))
      | .ok st =>
        some ({ sh with store := st }, if batchItems ns = [] then .done (.ok ns) else .enqueue ns)
    else some (sh, .done (.error (.backend "failed to create batch")))
  | .enqueue ns =>
    let items := batchItems ns
    let sh' := { sh with
      queue := enqueueApplied sh.queue items ch.applied ch.t₂
      admitted := sh.admitted ++ ((items.filter fun it => ch.applied it.channel).map (·.notificationId)) }
    if ch.ok && pipelineOk items ch.applied then
      some (sh', .done (.ok (ns.map fun n => if n.status = .pending then n.markAsQueued else n)))
    else some (sh', .done (.ok ns))

/-! ## `Cancel` -/

/-- Where a `Cancel` request is. -/
inductive CancelPc
  | idle
  /-- Received; next: `GetByID`. -/
  | start (id : Nat)
  /-- Read and cancellable; next: `Update` of the copy marked cancelled. -/
  | update (id : Nat) (n : Notification)
  /-- Returned. -/
  | done (id : Nat) (result : Except ServiceError Unit)
  deriving DecidableEq, Repr

/-- One step of a `Cancel` request. -/
def cancelStep (sh : Shared) (ch : Choice) : CancelPc → Option (Shared × CancelPc)
  | .idle | .done _ _ => none
  | .start id =>
    if ch.ok then
      match sh.store.getById id with
      | none => some (sh, .done id (.error .notFound))
      | some n =>
        if n.canCancel then some (sh, .update id n.markAsCancelled)
        else some (sh, .done id (.error .cannotCancel))
    else some (sh, .done id (.error (.backend "failed to scan notification")))
  | .update id n =>
    match (if ch.ok then sh.store.update n else none) with
    | some st => some ({ sh with store := st }, .done id (.ok ()))
    | none => some (sh, .done id (.error (.backend "failed to cancel notification")))

/-! ## What a request served alone persists

`runAlone` runs one request's steps with no other thread in between. Where the code and the
spec part ways, a theorem after the general fact shows it on one request. -/

/-- **What `Create` builds.** A notification with the new id, created at the first reading,
with non-empty content within the channel's cap and the request's idempotency key; pending,
or scheduled no earlier than the second reading. -/
theorem createNotification_spec {templates : String → Option Template} {ok : Bool}
    {req : CreateRequest} {id : Nat} {t₁ t₂ : Int} {n : Notification}
    (h : createNotification templates ok req id t₁ t₂ = .ok n) :
    n.id = id ∧ n.createdAt = t₁ ∧ n.content ≠ "" ∧
      n.content.utf8ByteSize ≤ n.channel.maxContentLength ∧
      n.idempotencyKey = req.idempotencyKey ∧ n.batchId = none ∧ n.retryCount = 0 ∧
      (n.status = .pending ∧ n.scheduledAt = none ∨
        n.status = .scheduled ∧ ∃ sch, n.scheduledAt = some sch ∧ t₂ ≤ sch) := by
  obtain ⟨ch, content, -, -, hne, hle, hlate, rfl⟩ := createNotification_eq_ok h
  cases hs : req.scheduledAt with
  | none => simp [Notification.withSchedule, withPriority_eq, Notification.newNotification, hne, hle]
  | some sch =>
    simpa [Notification.withSchedule, withPriority_eq, Notification.newNotification, hne, hle]
      using hlate sch hs

/-- The past-schedule test is strict (`ScheduledAt.Before(now)`), and both readings may fall
on the same instant: a request scheduled at that instant is persisted scheduled, with
`scheduled_at` equal to `created_at`. -/
theorem create_persists_schedule_equal_to_creation :
    (runAlone (createStep fun _ => none)
        (Shared.init 0, .start ⟨"r", "sms", "hi", "", some 5000, none, none, []⟩)
        [.at 5000, .at 5000]).map (·.1.store) =
      some [{ Notification.newNotification 0 "r" .sms "hi" 5000 with
        status := .scheduled, scheduledAt := some 5000 }] := by
  decide

/-- `CreateBatch` skips the past-schedule check, so a request `Create` rejects is persisted by
`CreateBatch`, scheduled before its creation. -/
theorem batch_accepts_past_schedule :
    let req : CreateRequest := ⟨"r", "sms", "hi", "", some 0, none, none, []⟩
    (runAlone (createStep fun _ => none) (Shared.init 0, .start req) [.at 5]).map (·.2) =
        some (.done req (.error (.validation "scheduled_at" "scheduled time must be in the future"))) ∧
      (runAlone (batchStep fun _ => none) (Shared.init 0, .start [req]) [.at 5, .at 5]).map
        (·.2) =
        some (.done (.ok [{ Notification.newNotification 1 "r" .sms "hi" 5 with
          batchId := some 0, status := .scheduled, scheduledAt := some 0 }])) := by
  decide

/-- `CreateBatch` marks its pending notifications queued after the `EnqueueBatch`, in memory
only: served alone with every call succeeding, it returns them queued while the table holds
them pending. -/
theorem batch_returns_queued_but_persists_pending :
    (runAlone (batchStep fun _ => none)
        (Shared.init 0, .start [⟨"r", "sms", "hi", "", none, none, none, []⟩])
        [.at 5000, .at 5000, .at 5000]).map (fun p => (p.1.store, p.2)) =
      some ([{ Notification.newNotification 1 "r" .sms "hi" 5000 with batchId := some 0 }],
        .done (.ok [{ Notification.newNotification 1 "r" .sms "hi" 5000 with
          batchId := some 0, status := .queued }])) := by
  decide

/-! ## What the steps keep of the table

A request thread that will write a row back holds a copy of it, and a `Create` that returned a
notification returned a row: `Sound` says these are rows of the table (`Store.Holds`), and that
the copy an `Update` will write is not scheduled. Every step keeps the table well formed, loses
no row (`Store.Extends`) and leaves its thread sound. -/

/-- A `Create` thread's copies are rows of the table and carry the request's key; the
notification it will insert has no send data to miss and, if scheduled, its schedule time (if
pending, none); the notification it will enqueue has no schedule time; and the copy it will
write back may be written back. -/
def CreatePc.Sound (st : Store) : CreatePc → Prop
  | .insert req n => n.idempotencyKey = req.idempotencyKey ∧ n.SentRecorded ∧
      n.ScheduleRecorded ∧ (n.status = .pending → n.scheduledAt = none)
  | .enqueue req n => st.Holds n ∧ n.idempotencyKey = req.idempotencyKey ∧ n.scheduledAt = none
  | .done req (.ok n) => st.Holds n ∧ n.idempotencyKey = req.idempotencyKey
  | .update req n => st.Holds n ∧ n.idempotencyKey = req.idempotencyKey ∧ n.Writable
  | _ => True

/-- A `CreateBatch` thread's notifications have no send data to miss, and their schedule time
if scheduled. -/
def BatchPc.Sound : BatchPc → Prop
  | .insert ns => ∀ m ∈ ns, m.SentRecorded ∧ m.ScheduleRecorded
  | _ => True

/-- A `Cancel` thread's copy is a row of the table, and may be written back. -/
def CancelPc.Sound (st : Store) : CancelPc → Prop
  | .update _ n => st.Holds n ∧ n.Writable
  | _ => True

theorem CreatePc.Sound.of_extends {st st' : Store} {pc : CreatePc} (h : pc.Sound st)
    (he : st.Extends st') : pc.Sound st' := by
  cases pc with
  | enqueue => exact ⟨h.1.of_extends he, h.2⟩
  | update => exact ⟨h.1.of_extends he, h.2⟩
  | done req r =>
    cases r with
    | ok => exact ⟨h.1.of_extends he, h.2⟩
    | error => trivial
  | _ => exact h

theorem CancelPc.Sound.of_extends {st st' : Store} {pc : CancelPc} (h : pc.Sound st)
    (he : st.Extends st') : pc.Sound st' := by
  cases pc with
  | update => exact ⟨h.1.of_extends he, h.2⟩
  | _ => exact h

theorem idempotencyLookup_sound {sh : Shared} {ok : Bool} {req : CreateRequest}
    {r : Except ServiceError Notification} (h : idempotencyLookup sh ok req = some r) :
    (CreatePc.done req r).Sound sh.store := by
  unfold idempotencyLookup at h
  split at h
  · cases h
  · rename_i k hk
    split at h
    · obtain ⟨m, hm, rfl⟩ := Option.map_eq_some'.1 h
      obtain ⟨hmem, hkey⟩ := Store.getByIdempotencyKey_eq_some hm
      exact ⟨Store.holds_of_mem hmem, hkey.trans hk.symm⟩
    · cases h; trivial

/-- **One `Create` step.** It keeps the table well formed, loses no row and leaves the thread
sound; its effect on the table is a rewrite, or the insert of its notification, after which it
enqueues a pending one and returns a scheduled one. -/
theorem createStep_sound {templates : String → Option Template} {sh sh' : Shared} {ch : Choice}
    {pc pc' : CreatePc} (h : createStep templates sh ch pc = some (sh', pc'))
    (hwf : sh.store.WellFormed) (hpc : pc.Sound sh.store) :
    sh'.store.WellFormed ∧ sh.store.Extends sh'.store ∧ pc'.Sound sh'.store ∧
      (sh.store.Rewrites sh'.store ∨ ∃ req n, pc = .insert req n ∧ sh'.store = sh.store ++ [n.stored] ∧
        sh'.queue = sh.queue ∧ pc' = if n.status = .pending then .enqueue req n else .done req (.ok n)) := by
  cases pc with
  | idle | done => cases h
  | start req =>
    simp only [createStep] at h
    split at h
    · cases h; exact ⟨hwf, .refl _, idempotencyLookup_sound ‹_›, .inl (.refl _)⟩
    · split at h <;> cases h
      · exact ⟨hwf, .refl _, trivial, .inl (.refl _)⟩
      · rename_i n hn
        have hspec := createNotification_spec hn
        refine ⟨hwf, .refl _, ⟨hspec.2.2.2.2.1, ?_⟩, .inl (.refl _)⟩
        rcases hspec.2.2.2.2.2.2.2 with ⟨hs, hsch⟩ | ⟨hs, sch, hsch, -⟩ <;>
          simp [hs, hsch, Notification.SentRecorded, Notification.ScheduleRecorded]
  | insert req n =>
    simp only [createStep] at h
    split at h
    · split at h <;> cases h
      · exact ⟨hwf, .refl _, trivial, .inl (.refl _)⟩
      · exact ⟨hwf, .refl _, trivial, .inl (.refl _)⟩
      · obtain ⟨hwf', he, hn⟩ := hwf.create ‹_›
        exact ⟨hwf', he, by split; exacts [⟨hn, hpc.1, hpc.2.2.2 ‹_›⟩, ⟨hn, hpc.1⟩],
          .inr ⟨req, n, rfl, (Store.create_eq_ok ‹_›).1, rfl, rfl⟩⟩
    · cases h; exact ⟨hwf, .refl _, trivial, .inl (.refl _)⟩
  | conflict req =>
    simp only [createStep, Option.some.injEq, Prod.mk.injEq] at h
    obtain ⟨rfl, rfl⟩ := h
    refine ⟨hwf, .refl _, ?_, .inl (.refl _)⟩
    split
    · trivial
    · rename_i k hk
      split
      · split
        · rename_i r hr
          obtain ⟨hmem, hkey⟩ := Store.getByIdempotencyKey_eq_some hr
          exact ⟨Store.holds_of_mem hmem, hkey.trans hk.symm⟩
        · trivial
      · trivial
  | enqueue req n =>
    simp only [createStep] at h
    split_ifs at h <;> cases h
    · exact ⟨hwf, .refl _, ⟨hpc.1.congr rfl rfl, hpc.2.1, Notification.writable_of_status (by simp)
        (by simp) (by simp)⟩, .inl (.refl _)⟩
    all_goals exact ⟨hwf, .refl _, ⟨hpc.1, hpc.2.1⟩, .inl (.refl _)⟩
  | update req n =>
    simp only [createStep] at h
    split at h <;> cases h
    · obtain ⟨hwf', he⟩ := hwf.update_if hpc.1 ‹_›
      exact ⟨hwf', he, ⟨hpc.1.of_extends he, hpc.2.1⟩, .inl (.of_update_if hpc.2.2 ‹_›)⟩
    · exact ⟨hwf, .refl _, ⟨hpc.1, hpc.2.1⟩, .inl (.refl _)⟩

/-- **One `CreateBatch` step.** It keeps the table well formed, loses no row and leaves the thread
sound; it changes the table only by inserting its notifications, after which it enqueues the
pending ones, if any. -/
theorem batchStep_sound {templates : String → Option Template} {sh sh' : Shared} {ch : Choice}
    {pc pc' : BatchPc} (h : batchStep templates sh ch pc = some (sh', pc'))
    (hwf : sh.store.WellFormed) (hpc : pc.Sound) :
    sh'.store.WellFormed ∧ sh.store.Extends sh'.store ∧ pc'.Sound ∧
      (sh'.store = sh.store ∨ ∃ ns, pc = .insert ns ∧ sh'.store = sh.store ++ ns.map (·.stored) ∧
        sh'.queue = sh.queue ∧ pc' = if batchItems ns = [] then .done (.ok ns) else .enqueue ns) := by
  cases pc with
  | idle | done => cases h
  | start reqs =>
    simp only [batchStep] at h
    split at h
    · cases h; exact ⟨hwf, .refl _, trivial, .inl rfl⟩
    · split at h <;> cases h
      · exact ⟨hwf, .refl _, trivial, .inl rfl⟩
      · rename_i hns
        exact ⟨hwf, .refl _, fun m hm => have hm := (batchNotifications_eq_ok hns).2 m hm
          ⟨Notification.sentRecorded_of_admitted hm.2.2.1, hm.2.2.2⟩, .inl rfl⟩
  | insert ns =>
    simp only [batchStep] at h
    split at h
    · split at h <;> cases h
      · exact ⟨hwf, .refl _, trivial, .inl rfl⟩
      · exact ⟨hwf, .refl _, trivial, .inl rfl⟩
      · obtain ⟨hwf', he, -⟩ := hwf.createBatch ‹_›
        exact ⟨hwf', he, by split <;> trivial, .inr ⟨ns, rfl, Store.createBatch_eq_ok ‹_›, rfl, rfl⟩⟩
    · cases h; exact ⟨hwf, .refl _, trivial, .inl rfl⟩
  | enqueue ns =>
    simp only [batchStep] at h
    split at h <;> cases h <;> exact ⟨hwf, .refl _, trivial, .inl rfl⟩

/-- **One `Cancel` step.** It keeps the table well formed, loses no row, leaves the thread sound,
and at most rewrites the table. -/
theorem cancelStep_sound {sh sh' : Shared} {ch : Choice} {pc pc' : CancelPc}
    (h : cancelStep sh ch pc = some (sh', pc')) (hwf : sh.store.WellFormed)
    (hpc : pc.Sound sh.store) :
    sh'.store.WellFormed ∧ sh.store.Extends sh'.store ∧ pc'.Sound sh'.store ∧
      sh.store.Rewrites sh'.store := by
  cases pc with
  | idle | done => cases h
  | start id =>
    simp only [cancelStep] at h
    split at h
    · split at h
      · cases h; exact ⟨hwf, .refl _, trivial, .refl _⟩
      · rename_i hn
        split at h <;> cases h
        · exact ⟨hwf, .refl _, ⟨(Store.holds_of_mem (Store.getById_eq_some hn).1).congr rfl rfl,
            Notification.writable_of_status (by simp) (by simp) (by simp)⟩, .refl _⟩
        · exact ⟨hwf, .refl _, trivial, .refl _⟩
    · cases h; exact ⟨hwf, .refl _, trivial, .refl _⟩
  | update id n =>
    simp only [cancelStep] at h
    split at h <;> cases h
    · obtain ⟨hwf', he⟩ := hwf.update_if hpc.1 ‹_›
      exact ⟨hwf', he, trivial, .of_update_if hpc.2 ‹_›⟩
    · exact ⟨hwf, .refl _, trivial, .refl _⟩

/-! ## What the steps admit

The admission log `Shared.admitted` grows only by `Enqueue`s of the admission path. A
`Create` can add its new notification's id until its `Enqueue` step, a `CreateBatch` the ids
of its pending notifications until its `EnqueueBatch` step (`admits`); a step adds to the log
only ids its thread could add, and takes new ids only from `nextId` on (`Shared.Admits`). -/

/-- The ids a `Create` thread may still add to the admission log. -/
def CreatePc.admits : CreatePc → List Nat
  | .insert _ n | .enqueue _ n => [n.id]
  | _ => []

/-- The ids a `CreateBatch` thread may still add to the admission log. -/
def BatchPc.admits : BatchPc → List Nat
  | .insert ns | .enqueue ns => (batchItems ns).map (·.notificationId)
  | _ => []

/-- A step from `sh` to `sh'` of a thread that could add `before` to the log and can add
`after`: the new log entries and `after` come from `before` and the ids just taken. -/
def Shared.Admits (sh sh' : Shared) (before after : List Nat) : Prop :=
  sh.nextId ≤ sh'.nextId ∧ ∃ Δ, sh'.admitted = sh.admitted ++ Δ ∧
    List.Sublist (Δ ++ after) (before ++ List.range' sh.nextId (sh'.nextId - sh.nextId))

theorem Shared.admits_of_sublist {sh : Shared} {before after : List Nat}
    (h : List.Sublist after before) :
    sh.Admits sh before after :=
  ⟨le_refl _, [], by simp, by simpa using h⟩

theorem Shared.admits_store {sh : Shared} {st : Store} {before after : List Nat}
    (h : List.Sublist after before) : sh.Admits { sh with store := st } before after :=
  Shared.admits_of_sublist h

theorem batchItems_ids_sublist (ns : List Notification) :
    List.Sublist ((batchItems ns).map (·.notificationId)) (ns.map (·.id)) := by
  simpa [batchItems, Function.comp_def] using (List.filter_sublist ns).map (·.id)

theorem createStep_admits {templates : String → Option Template} {sh sh' : Shared} {ch : Choice}
    {pc pc' : CreatePc} (h : createStep templates sh ch pc = some (sh', pc')) :
    sh.Admits sh' pc.admits pc'.admits := by
  cases pc with
  | idle | done => cases h
  | start req =>
    simp only [createStep] at h
    split at h
    · cases h; exact Shared.admits_of_sublist (List.nil_sublist _)
    · split at h <;> cases h
      · exact ⟨by simp, [], by simp, by simp [CreatePc.admits]⟩
      · rename_i n hn
        exact ⟨by simp, [], by simp, by simp [CreatePc.admits, (createNotification_spec hn).1]⟩
  | insert req n =>
    simp only [createStep] at h
    split at h
    · split at h <;> cases h
      · exact Shared.admits_of_sublist (List.nil_sublist _)
      · exact Shared.admits_of_sublist (List.nil_sublist _)
      · apply Shared.admits_store
        split <;> simp [CreatePc.admits]
    · cases h; exact Shared.admits_of_sublist (List.nil_sublist _)
  | conflict req =>
    simp only [createStep, Option.some.injEq, Prod.mk.injEq] at h
    obtain ⟨rfl, rfl⟩ := h
    exact Shared.admits_of_sublist (List.nil_sublist _)
  | enqueue req n =>
    simp only [createStep] at h
    split_ifs at h <;> cases h
    iterate 2 exact ⟨le_refl _, [n.id], rfl, by simp [CreatePc.admits]⟩
    exact Shared.admits_of_sublist (List.nil_sublist _)
  | update req n =>
    simp only [createStep] at h
    split at h <;> cases h
    · exact Shared.admits_store (List.nil_sublist _)
    · exact Shared.admits_of_sublist (List.nil_sublist _)

theorem batchStep_admits {templates : String → Option Template} {sh sh' : Shared} {ch : Choice}
    {pc pc' : BatchPc} (h : batchStep templates sh ch pc = some (sh', pc')) :
    sh.Admits sh' pc.admits pc'.admits := by
  cases pc with
  | idle | done => cases h
  | start reqs =>
    simp only [batchStep] at h
    split at h
    · cases h; exact Shared.admits_of_sublist (List.nil_sublist _)
    · split at h <;> cases h
      · exact ⟨by dsimp only; omega, [], by simp, by simp [BatchPc.admits]⟩
      · rename_i ns hns
        refine ⟨by dsimp only; omega, [], by simp, ?_⟩
        have hids := (batchNotifications_eq_ok hns).1
        simp only [BatchPc.admits, List.nil_append]
        calc List.Sublist ((batchItems ns).map (·.notificationId)) (ns.map (·.id)) :=
              batchItems_ids_sublist ns
          _ = List.range' (sh.nextId + 1) reqs.length := by simpa using hids
          List.Sublist _ (List.range' sh.nextId (sh.nextId + 1 + reqs.length - sh.nextId)) := by
            rw [show sh.nextId + 1 + reqs.length - sh.nextId = reqs.length + 1 by omega,
              List.range'_succ]
            exact List.sublist_cons_self _ _
  | insert ns =>
    simp only [batchStep] at h
    split at h
    · split at h <;> cases h
      · exact Shared.admits_of_sublist (List.nil_sublist _)
      · exact Shared.admits_of_sublist (List.nil_sublist _)
      · apply Shared.admits_store
        split <;> simp [BatchPc.admits]
    · cases h; exact Shared.admits_of_sublist (List.nil_sublist _)
  | enqueue ns =>
    simp only [batchStep] at h
    split at h <;> cases h <;>
      exact ⟨le_refl _, _, rfl, by simpa [BatchPc.admits] using
        ((List.filter_sublist (batchItems ns)).map (·.notificationId))⟩

/-- `Cancel` touches only the table. -/
theorem cancelStep_frame {sh sh' : Shared} {ch : Choice} {pc pc' : CancelPc}
    (h : cancelStep sh ch pc = some (sh', pc')) :
    sh'.queue = sh.queue ∧ sh'.nextId = sh.nextId ∧ sh'.admitted = sh.admitted := by
  cases pc with
  | idle | done => cases h
  | start id =>
    simp only [cancelStep] at h
    split at h
    · split at h
      · cases h; simp
      · split at h <;> cases h <;> simp
    · cases h; simp
  | update id n =>
    simp only [cancelStep] at h
    split at h <;> cases h <;> simp

/-! ## What the steps do to the tokens

A request thread has tokens to enqueue from the ids it takes to its `Enqueue`: a `Create` its
notification's (`CreatePc.admits`), a `CreateBatch` all of its notifications' until the insert
and then those of the pending ones (`BatchPc.reserved`). A step moves tokens only between its
thread and the queue (`Shared.Moves`). -/

/-- The ids a `CreateBatch` thread holds: all of its notifications' until the insert, then
those it has to enqueue. -/
def BatchPc.reserved : BatchPc → List Nat
  | .insert ns => ns.map (·.id)
  | .enqueue ns => (batchItems ns).map (·.notificationId)
  | _ => []

theorem createStep_moves {templates : String → Option Template} {sh sh' : Shared} {ch : Choice}
    {pc pc' : CreatePc} (h : createStep templates sh ch pc = some (sh', pc'))
    (hk : sh.queue.Keyed) :
    sh.Moves sh' pc.admits pc'.admits (List.range' sh.nextId (sh'.nextId - sh.nextId)) := by
  cases pc with
  | idle | done => cases h
  | start req =>
    simp only [createStep] at h
    split at h
    · cases h; exact Shared.moves_nil hk rfl
    · split at h <;> cases h
      · exact Shared.moves_nil hk rfl
      · rename_i n hn
        refine Shared.moves_of_sublist hk rfl ?_
        simp [CreatePc.admits, (createNotification_spec hn).1]
  | insert req n =>
    simp only [createStep] at h
    split at h
    · split at h <;> cases h
      · exact Shared.moves_nil hk rfl
      · exact Shared.moves_nil hk rfl
      · refine Shared.moves_of_sublist hk rfl ?_
        split <;> simp [CreatePc.admits]
    · cases h; exact Shared.moves_nil hk rfl
  | conflict req =>
    simp only [createStep, Option.some.injEq, Prod.mk.injEq] at h
    obtain ⟨rfl, rfl⟩ := h
    exact Shared.moves_nil hk rfl
  | enqueue req n =>
    simp only [createStep] at h
    split_ifs at h <;> cases h
    iterate 2 exact Shared.moves_enqueue hk rfl (by simp [CreatePc.admits])
    exact Shared.moves_nil hk rfl
  | update req n =>
    simp only [createStep] at h
    split at h <;> cases h <;> exact Shared.moves_nil hk rfl

theorem batchStep_moves {templates : String → Option Template} {sh sh' : Shared} {ch : Choice}
    {pc pc' : BatchPc} (h : batchStep templates sh ch pc = some (sh', pc'))
    (hk : sh.queue.Keyed) :
    sh.Moves sh' pc.reserved pc'.reserved (List.range' sh.nextId (sh'.nextId - sh.nextId)) := by
  cases pc with
  | idle | done => cases h
  | start reqs =>
    simp only [batchStep] at h
    split at h
    · cases h; exact Shared.moves_nil hk rfl
    · split at h <;> cases h
      · exact Shared.moves_nil hk rfl
      · rename_i ns hns
        refine Shared.moves_of_sublist hk rfl ?_
        have hids := (batchNotifications_eq_ok hns).1
        simp only [BatchPc.reserved, List.nil_append, hids]
        rw [show sh.nextId + 1 + reqs.length - sh.nextId = reqs.length + 1 by omega,
          List.range'_succ]
        exact List.sublist_cons_self _ _
  | insert ns =>
    simp only [batchStep] at h
    split at h
    · split at h <;> cases h
      · exact Shared.moves_nil hk rfl
      · exact Shared.moves_nil hk rfl
      · refine Shared.moves_of_sublist hk rfl ?_
        split
        · exact List.nil_sublist _
        · simpa [BatchPc.reserved] using batchItems_ids_sublist ns
    · cases h; exact Shared.moves_nil hk rfl
  | enqueue ns =>
    simp only [batchStep] at h
    have happ : List.Sublist (((batchItems ns).filter fun it => ch.applied it.channel).map
        (·.notificationId)) (BatchPc.enqueue ns).reserved :=
      (List.filter_sublist (batchItems ns)).map _
    split at h <;> cases h <;>
      exact Shared.moves_enqueueBatch hk rfl (by simpa [BatchPc.reserved, Function.comp_def] using happ)

/-! ## Retry counts

A request thread's copies are notifications it built, whose retry count is 0, or, for a
`Cancel`, a row it read as cancellable. The workers' retry bound (`Invariants.Retry`) asks of
them only that every row they write is below the bound. -/

/-- Every copy the `Create` holds has a retry count below `K`. -/
def CreatePc.RetryBelow (K : Int) : CreatePc → Prop
  | .insert _ n | .enqueue _ n | .update _ n => n.retryCount < K
  | _ => True

/-- Every notification the `CreateBatch` will insert has a retry count below `K`. -/
def BatchPc.RetryBelow (K : Int) : BatchPc → Prop
  | .insert ns => ∀ m ∈ ns, m.retryCount < K
  | _ => True

/-- The copy the `Cancel` will write has a retry count below `K`. -/
def CancelPc.RetryBelow (K : Int) : CancelPc → Prop
  | .update _ n => n.retryCount < K
  | _ => True

/-- **A `Create` step writes only rows below a positive `K`**, and its copies stay below it. -/
theorem createStep_retry {templates : String → Option Template} {sh sh' : Shared} {ch : Choice}
    {pc pc' : CreatePc} {K : Int} (h : createStep templates sh ch pc = some (sh', pc'))
    (hK : 0 < K) (hpc : pc.RetryBelow K) :
    pc'.RetryBelow K ∧ ∀ r ∈ sh'.store, r ∈ sh.store ∨ r.retryCount < K := by
  cases pc with
  | idle | done => cases h
  | start req =>
    simp only [createStep] at h
    split at h
    · cases h; exact ⟨trivial, fun r hr => .inl hr⟩
    · split at h <;> cases h
      · exact ⟨trivial, fun r hr => .inl hr⟩
      · rename_i n hn
        have h0 : n.retryCount = 0 := (createNotification_spec hn).2.2.2.2.2.2.1
        exact ⟨show (n.retryCount : Int) < K by rw [h0]; exact hK, fun r hr => .inl hr⟩
  | insert req n =>
    simp only [createStep] at h
    split at h
    · split at h <;> cases h
      · exact ⟨trivial, fun r hr => .inl hr⟩
      · exact ⟨trivial, fun r hr => .inl hr⟩
      · rename_i hc
        refine ⟨by split <;> first | exact hpc | trivial, fun r hr => ?_⟩
        rw [(Store.create_eq_ok hc).1, List.mem_append, List.mem_singleton] at hr
        rcases hr with hr | rfl
        exacts [.inl hr, .inr hpc]
    · cases h; exact ⟨trivial, fun r hr => .inl hr⟩
  | conflict req =>
    simp only [createStep, Option.some.injEq, Prod.mk.injEq] at h
    obtain ⟨rfl, rfl⟩ := h
    exact ⟨trivial, fun r hr => .inl hr⟩
  | enqueue req n =>
    simp only [createStep] at h
    split_ifs at h <;> cases h
    · exact ⟨hpc, fun r hr => .inl hr⟩
    all_goals exact ⟨trivial, fun r hr => .inl hr⟩
  | update req n =>
    simp only [createStep] at h
    split at h <;> cases h
    · refine ⟨trivial, fun r hr => ?_⟩
      rcases Store.mem_update_if ‹_› hr with hr | ⟨t, rfl⟩
      exacts [.inl hr, .inr hpc]
    · exact ⟨trivial, fun r hr => .inl hr⟩

/-- **A `CreateBatch` step writes only rows below a positive `K`**, and its notifications stay
below it. -/
theorem batchStep_retry {templates : String → Option Template} {sh sh' : Shared} {ch : Choice}
    {pc pc' : BatchPc} {K : Int} (h : batchStep templates sh ch pc = some (sh', pc'))
    (hK : 0 < K) (hpc : pc.RetryBelow K) :
    pc'.RetryBelow K ∧ ∀ r ∈ sh'.store, r ∈ sh.store ∨ r.retryCount < K := by
  cases pc with
  | idle | done => cases h
  | start reqs =>
    simp only [batchStep] at h
    split at h
    · cases h; exact ⟨trivial, fun r hr => .inl hr⟩
    · split at h <;> cases h
      · exact ⟨trivial, fun r hr => .inl hr⟩
      · refine ⟨fun m hm => ?_, fun r hr => .inl hr⟩
        rw [((batchNotifications_eq_ok ‹_›).2 m hm).2.1]
        exact hK
  | insert ns =>
    simp only [batchStep] at h
    split at h
    · split at h <;> cases h
      · exact ⟨trivial, fun r hr => .inl hr⟩
      · exact ⟨trivial, fun r hr => .inl hr⟩
      · rename_i hc
        refine ⟨by split <;> trivial, fun r hr => ?_⟩
        rw [Store.createBatch_eq_ok hc, List.mem_append, List.mem_map] at hr
        rcases hr with hr | ⟨m, hm, rfl⟩
        exacts [.inl hr, .inr (hpc m hm)]
    · cases h; exact ⟨trivial, fun r hr => .inl hr⟩
  | enqueue ns =>
    simp only [batchStep] at h
    split at h <;> cases h <;> exact ⟨trivial, fun r hr => .inl hr⟩

/-- **A `Cancel` step writes only rows below `K`** when every cancellable row is below `K`. -/
theorem cancelStep_retry {sh sh' : Shared} {ch : Choice} {pc pc' : CancelPc} {K : Int}
    (h : cancelStep sh ch pc = some (sh', pc')) (hpc : pc.RetryBelow K)
    (hread : ∀ r ∈ sh.store, r.canCancel = true → r.retryCount < K) :
    pc'.RetryBelow K ∧ ∀ r ∈ sh'.store, r ∈ sh.store ∨ r.retryCount < K := by
  cases pc with
  | idle | done => cases h
  | start id =>
    simp only [cancelStep] at h
    split at h
    · split at h
      · cases h; exact ⟨trivial, fun r hr => .inl hr⟩
      · rename_i n hn
        split at h <;> cases h
        · exact ⟨hread n (Store.getById_eq_some hn).1 ‹_›, fun r hr => .inl hr⟩
        · exact ⟨trivial, fun r hr => .inl hr⟩
    · cases h; exact ⟨trivial, fun r hr => .inl hr⟩
  | update id n =>
    simp only [cancelStep] at h
    split at h <;> cases h
    · refine ⟨trivial, fun r hr => ?_⟩
      rcases Store.mem_update_if ‹_› hr with hr | ⟨t, rfl⟩
      exacts [.inl hr, .inr hpc]
    · exact ⟨trivial, fun r hr => .inl hr⟩

end NotificationService
