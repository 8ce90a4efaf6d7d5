import Mathlib.Data.List.Basic

/-! # The notification domain: channels, priorities, statuses and the record

The value types of `internal/domain/notification.go` and `internal/domain/queue.go`.
`Channel`, `Priority` and `Status` are Go string types whose only values the service ever
stores are the named constants, so each is an inductive here; the text a request carries is
kept as a `String` and read through `Channel.ofText`/`Priority.ofText`, which are the code's
`IsValid` checks returning the constant they accept. Identifiers (`uuid.UUID`) are natural
numbers and instants (`time.Time`) are Unix nanoseconds.

The record's `Metadata` map and its `UpdatedAt` field are left out. The service never
decides anything on either: `Metadata` is written as JSON and read back, and `updated_at` is
set by the table's defaults and its `BEFORE UPDATE` trigger; the reads return both, so a record
here is a row without these two columns.

What the table keeps of a record is `Notification.stored`: the `VARCHAR(255)` texts as the
column keeps them (PostgreSQL drops an overflow made only of spaces, and refuses any other
overflow), and the instants at the microseconds of `TIMESTAMP WITH TIME ZONE` (pgx sends
`time.Time` truncated to the microsecond). `Notification.fits` is whether the columns accept
the record's texts at all. -/

namespace NotificationService

/-! ## Channels -/

/-- A delivery channel (`domain.Channel`). -/
inductive Channel
  | sms
  | email
  | push
  deriving DecidableEq, Repr

namespace Channel

/-- The wire text of a channel constant (`ChannelSMS = "sms"`, …). -/
def text : Channel → String
  | sms => "sms"
  | email => "email"
  | push => "push"

/-- `Channel.IsValid` on a request's channel text, returning the constant it accepts. -/
def ofText (s : String) : Option Channel :=
  if s = "sms" then some sms
  else if s = "email" then some email
  else if s = "push" then some push
  else none

@[simp] theorem ofText_text (c : Channel) : ofText c.text = some c := by
  cases c <;> decide

/-- The per-channel content cap of `validateContentLength`: four 160-byte SMS segments,
100 KB of email, 4 KB of push payload. -/
def maxContentLength : Channel → Nat
  | sms => 160 * 4
  | email => 100000
  | push => 4096

end Channel

/-! ## Priorities -/

/-- A queue priority (`domain.Priority`). -/
inductive Priority
  | high
  | normal
  | low
  deriving DecidableEq, Repr

namespace Priority

/-- The wire text of a priority constant. -/
def text : Priority → String
  | high => "high"
  | normal => "normal"
  | low => "low"

/-- `Priority.IsValid` on a request's priority text, returning the constant it accepts. -/
def ofText (s : String) : Option Priority :=
  if s = "high" then some high
  else if s = "normal" then some normal
  else if s = "low" then some low
  else none

/-- `Priority.Weight`: the queue weight, lower is served first. -/
def weight : Priority → Int
  | high => 0
  | normal => 1000000
  | low => 2000000

theorem weight_nonneg (p : Priority) : 0 ≤ p.weight := by
  cases p <;> decide

theorem weight_le (p : Priority) : p.weight ≤ 2000000 := by
  cases p <;> decide

/-- Two distinct weights are at least `10^6` apart. -/
theorem weight_gap {p q : Priority} (h : p.weight < q.weight) :
    p.weight + 1000000 ≤ q.weight := by
  cases p <;> cases q <;> simp_all [weight]

end Priority

/-! ## Lifecycle statuses -/

/-- A lifecycle status (`domain.Status`). -/
inductive Status
  | pending
  | scheduled
  | queued
  | processing
  | sent
  | delivered
  | failed
  | cancelled
  deriving DecidableEq, Repr

/-- The wire text of a status constant, as the `status` column stores it. -/
def Status.text : Status → String
  | .pending => "pending"
  | .scheduled => "scheduled"
  | .queued => "queued"
  | .processing => "processing"
  | .sent => "sent"
  | .delivered => "delivered"
  | .failed => "failed"
  | .cancelled => "cancelled"

/-- The statuses the specification calls terminal: no transition leaves them. -/
def Status.IsTerminal (s : Status) : Prop :=
  s = .sent ∨ s = .delivered ∨ s = .failed ∨ s = .cancelled

instance (s : Status) : Decidable s.IsTerminal :=
  inferInstanceAs (Decidable (s = .sent ∨ s = .delivered ∨ s = .failed ∨ s = .cancelled))

/-! ## What the columns keep -/

/-- Whether a text column accepts a value: PostgreSQL refuses the NUL character in text. -/
def textFits (s : String) : Bool := s.data.all (·.toNat ≠ 0)

/-- Whether a value is short enough for `VARCHAR(n)`: its characters past the `n`th, if any, are
all spaces, which the column drops. -/
def lengthFits (n : Nat) (s : String) : Bool := (s.data.drop n).all (· = ' ')

/-- Whether a `VARCHAR(n)` column accepts a value: a text short enough for it. -/
def varcharFits (n : Nat) (s : String) : Bool := textFits s && lengthFits n s

/-- The value a `VARCHAR(n)` column keeps of a value it accepts: its first `n` characters. -/
def varchar (n : Nat) (s : String) : String := ⟨s.data.take n⟩

/-- The instant a `TIMESTAMP WITH TIME ZONE` column keeps, in nanoseconds: pgx sends the
microseconds since the epoch, rounded down. -/
def timestamptz (t : Int) : Int := t / 1000 * 1000

@[simp] theorem varchar_varchar (n : Nat) (s : String) : varchar n (varchar n s) = varchar n s :=
  congrArg String.mk (by rw [varchar, List.take_take, min_self])

@[simp] theorem timestamptz_timestamptz (t : Int) : timestamptz (timestamptz t) = timestamptz t := by
  rw [timestamptz, timestamptz, Int.mul_ediv_cancel _ (by decide)]

theorem varchar_of_length_le {n : Nat} {s : String} (h : s.length ≤ n) : varchar n s = s :=
  congrArg String.mk (List.take_of_length_le h)

theorem lengthFits_of_length_le {n : Nat} {s : String} (h : s.length ≤ n) : lengthFits n s := by
  simp [lengthFits, List.drop_eq_nil_of_le (show s.data.length ≤ n from h)]

theorem length_varchar_le (n : Nat) (s : String) : (varchar n s).length ≤ n :=
  List.length_take_le n s.data

theorem varcharFits_varchar {n : Nat} {s : String} (h : varcharFits n s) :
    varcharFits n (varchar n s) := by
  simp only [varcharFits, lengthFits, textFits, Bool.and_eq_true, List.all_eq_true,
    decide_eq_true_eq] at h ⊢
  exact ⟨fun c hc => h.1 c (List.mem_of_mem_take hc), by simp [varchar, List.drop_take]⟩

example : varcharFits 3 "abc  " ∧ varchar 3 "abc  " = "abc" ∧ !varcharFits 3 "abcd" := by decide

/-- A text as long as its column with a space after it: the column accepts it and keeps the text
without the space. -/
theorem varchar_push_space {n : Nat} {s : String} (hs : textFits s = true) (hl : s.length = n) :
    varcharFits n ⟨s.data ++ [' ']⟩ = true ∧ varchar n ⟨s.data ++ [' ']⟩ = s := by
  have hl' : s.data.length = n := hl
  refine ⟨?_, congrArg String.mk (List.take_left' hl')⟩
  simp only [textFits, List.all_eq_true, decide_eq_true_eq] at hs
  simpa [varcharFits, lengthFits, textFits, List.drop_left' hl'] using hs

/-! ## The notification record -/

/-- A notification row (`domain.Notification`, without `Metadata` and `UpdatedAt`). -/
structure Notification where
  id : Nat
  batchId : Option Nat
  recipient : String
  channel : Channel
  content : String
  priority : Priority
  status : Status
  scheduledAt : Option Int
  sentAt : Option Int
  externalId : Option String
  retryCount : Nat
  idempotencyKey : Option String
  errorMessage : Option String
  createdAt : Int
  deriving DecidableEq, Repr

namespace Notification

/-- `NewNotification`: a fresh identifier, priority `normal`, status `pending`, created now. -/
def newNotification (id : Nat) (recipient : String) (channel : Channel) (content : String)
    (now : Int) : Notification :=
  { id, batchId := none, recipient, channel, content, priority := .normal, status := .pending,
    scheduledAt := none, sentAt := none, externalId := none, retryCount := 0,
    idempotencyKey := none, errorMessage := none, createdAt := now }

/-- `CanCancel`: only `pending`, `scheduled` and `queued` notifications can be cancelled. -/
def canCancel (n : Notification) : Bool :=
  n.status == .pending || n.status == .scheduled || n.status == .queued

/-- `MarkAsQueued`. -/
def markAsQueued (n : Notification) : Notification := { n with status := .queued }

/-- `MarkAsProcessing`. -/
def markAsProcessing (n : Notification) : Notification := { n with status := .processing }

/-- `MarkAsSent`: records the provider's message id and the send time. -/
def markAsSent (n : Notification) (externalId : String) (now : Int) : Notification :=
  { n with status := .sent, externalId := some externalId, sentAt := some now }

/-- `MarkAsFailed`. -/
def markAsFailed (n : Notification) (errorMsg : String) : Notification :=
  { n with status := .failed, errorMessage := some errorMsg }

/-- `MarkAsCancelled`. -/
def markAsCancelled (n : Notification) : Notification := { n with status := .cancelled }

/-- `IncrementRetry`. -/
def incrementRetry (n : Notification) : Notification := { n with retryCount := n.retryCount + 1 }

@[simp] theorem markAsQueued_status (n : Notification) : n.markAsQueued.status = .queued := rfl
@[simp] theorem markAsProcessing_status (n : Notification) :
    n.markAsProcessing.status = .processing := rfl
@[simp] theorem markAsSent_status (n : Notification) (e : String) (t : Int) :
    (n.markAsSent e t).status = .sent := rfl
@[simp] theorem markAsFailed_status (n : Notification) (m : String) :
    (n.markAsFailed m).status = .failed := rfl
@[simp] theorem markAsCancelled_status (n : Notification) :
    n.markAsCancelled.status = .cancelled := rfl
@[simp] theorem incrementRetry_status (n : Notification) : n.incrementRetry.status = n.status := rfl

/-- The fields no writer changes once the row is inserted, as the columns keep them: every
`Update` writes back a copy of a row read earlier, and no `Mark…` method touches them. -/
def fixed (n : Notification) :
    Option Nat × String × Channel × String × Priority × Option Int × Option String :=
  (n.batchId, varchar 255 n.recipient, n.channel, n.content, n.priority,
    n.scheduledAt.map timestamptz, n.idempotencyKey.map (varchar 255))

@[simp] theorem markAsQueued_fixed (n : Notification) : n.markAsQueued.fixed = n.fixed := rfl
@[simp] theorem markAsProcessing_fixed (n : Notification) : n.markAsProcessing.fixed = n.fixed :=
  rfl
@[simp] theorem markAsSent_fixed (n : Notification) (e : String) (t : Int) :
    (n.markAsSent e t).fixed = n.fixed := rfl
@[simp] theorem markAsFailed_fixed (n : Notification) (m : String) :
    (n.markAsFailed m).fixed = n.fixed := rfl
@[simp] theorem markAsCancelled_fixed (n : Notification) : n.markAsCancelled.fixed = n.fixed := rfl
@[simp] theorem incrementRetry_fixed (n : Notification) : n.incrementRetry.fixed = n.fixed := rfl

/-- Whether the columns accept the record's texts: `recipient`, `external_id` and
`idempotency_key` are `VARCHAR(255)`, `content` and `error_message` are `TEXT`. -/
def fits (n : Notification) : Bool :=
  varcharFits 255 n.recipient && textFits n.content && n.externalId.all (varcharFits 255) &&
    n.idempotencyKey.all (varcharFits 255) && n.errorMessage.all textFits

/-- The row a write of the record leaves: its `VARCHAR(255)` texts as the columns keep them,
its instants at microseconds. -/
def stored (n : Notification) : Notification :=
  { n with
    recipient := varchar 255 n.recipient
    externalId := n.externalId.map (varchar 255)
    idempotencyKey := n.idempotencyKey.map (varchar 255)
    scheduledAt := n.scheduledAt.map timestamptz
    sentAt := n.sentAt.map timestamptz
    createdAt := timestamptz n.createdAt }

/-- A row as the table holds it: its texts fit their columns and are as the columns keep them. -/
def IsRow (n : Notification) : Prop := n.fits = true ∧ n.stored = n

instance instDecidableIsRow (n : Notification) : Decidable n.IsRow :=
  inferInstanceAs (Decidable (_ ∧ _))

@[simp] theorem stored_id (n : Notification) : n.stored.id = n.id := rfl
@[simp] theorem stored_status (n : Notification) : n.stored.status = n.status := rfl
@[simp] theorem stored_retryCount (n : Notification) : n.stored.retryCount = n.retryCount := rfl
@[simp] theorem stored_channel (n : Notification) : n.stored.channel = n.channel := rfl
@[simp] theorem stored_priority (n : Notification) : n.stored.priority = n.priority := rfl
@[simp] theorem stored_content (n : Notification) : n.stored.content = n.content := rfl
@[simp] theorem stored_errorMessage (n : Notification) : n.stored.errorMessage = n.errorMessage :=
  rfl
@[simp] theorem stored_batchId (n : Notification) : n.stored.batchId = n.batchId := rfl

@[simp] theorem stored_recipient (n : Notification) :
    n.stored.recipient = varchar 255 n.recipient := rfl
@[simp] theorem stored_externalId (n : Notification) :
    n.stored.externalId = n.externalId.map (varchar 255) := rfl
@[simp] theorem stored_idempotencyKey (n : Notification) :
    n.stored.idempotencyKey = n.idempotencyKey.map (varchar 255) := rfl
@[simp] theorem stored_scheduledAt (n : Notification) :
    n.stored.scheduledAt = n.scheduledAt.map timestamptz := rfl
@[simp] theorem stored_sentAt (n : Notification) : n.stored.sentAt = n.sentAt.map timestamptz :=
  rfl
@[simp] theorem stored_createdAt (n : Notification) :
    n.stored.createdAt = timestamptz n.createdAt := rfl

@[simp] theorem stored_fixed (n : Notification) : n.stored.fixed = n.fixed := by
  simp [fixed, Option.map_map, Function.comp_def]

@[simp] theorem stored_stored (n : Notification) : n.stored.stored = n.stored := by
  simp [stored, Option.map_map, Function.comp_def]

theorem fits_stored {n : Notification} (h : n.fits = true) : n.stored.fits = true := by
  simp only [fits, stored, Bool.and_eq_true] at h ⊢
  refine ⟨⟨⟨⟨varcharFits_varchar h.1.1.1.1, h.1.1.1.2⟩, ?_⟩, ?_⟩, h.2⟩
  · cases he : n.externalId <;> simp_all [varcharFits_varchar]
  · cases hk : n.idempotencyKey <;> simp_all [varcharFits_varchar]

theorem isRow_stored {n : Notification} (h : n.fits = true) : n.stored.IsRow :=
  ⟨fits_stored h, stored_stored n⟩

theorem IsRow.createdAt {n : Notification} (h : n.IsRow) : timestamptz n.createdAt = n.createdAt :=
  congrArg Notification.createdAt h.2

/-- What an `Update` leaves: the row the columns keep of the copy, under a row's `created_at`. -/
theorem isRow_withCreatedAt {m : Notification} (h : m.fits = true) {t : Int}
    (ht : timestamptz t = t) : { m.stored with createdAt := t }.IsRow :=
  ⟨fits_stored h, by simp [stored, Option.map_map, Function.comp_def, ht]⟩

/-- Two rows with the same `fixed` fields have the same idempotency key and schedule time. -/
theorem IsRow.key_eq {r₁ r₂ : Notification} (h₁ : r₁.IsRow) (h₂ : r₂.IsRow)
    (h : r₁.fixed = r₂.fixed) :
    r₁.idempotencyKey = r₂.idempotencyKey ∧ r₁.scheduledAt = r₂.scheduledAt := by
  have e₁ := congrArg (fun n => (n.idempotencyKey, n.scheduledAt)) h₁.2
  have e₂ := congrArg (fun n => (n.idempotencyKey, n.scheduledAt)) h₂.2
  simp only [fixed, Prod.mk.injEq] at h
  simp only [stored, Prod.mk.injEq] at e₁ e₂
  rw [← e₁.1, ← e₂.1, ← e₁.2, ← e₂.2]
  exact ⟨h.2.2.2.2.2.2, h.2.2.2.2.2.1⟩

/-- What the columns accept of a sent copy of a record they accept: the provider's message id
in `VARCHAR(255)`. -/
theorem fits_markAsSent {n : Notification} (h : n.fits = true) (m : String) (t : Int) :
    (n.markAsSent m t).fits = varcharFits 255 m := by
  simp only [fits, Bool.and_eq_true] at h
  simp [fits, markAsSent, h.1.1.1.1, h.1.1.1.2, h.1.2, h.2]

/-- What the columns accept of a failed copy of a record they accept: the error message in
`TEXT`. -/
theorem fits_markAsFailed {n : Notification} (h : n.fits = true) (e : String) :
    (n.markAsFailed e).fits = textFits e := by
  simp only [fits, Bool.and_eq_true] at h
  simp [fits, markAsFailed, h.1.1.1.1, h.1.1.1.2, h.1.1.2, h.1.2]

/-- A row's `VARCHAR(255)` texts have at most 255 characters. -/
theorem IsRow.key_length {n : Notification} (h : n.IsRow) {k : String}
    (hk : n.idempotencyKey = some k) : k.length ≤ 255 := by
  have h₁ : some (varchar 255 k) = some k := by
    simpa only [stored, hk, Option.map_some'] using congrArg idempotencyKey h.2
  exact Option.some.inj h₁ ▸ length_varchar_le 255 k

/-- Invariant 1 of the specification, for one record: a sent or delivered notification has its
send time and the provider's message id. -/
def SentRecorded (n : Notification) : Prop :=
  n.status = .sent ∨ n.status = .delivered → n.sentAt.isSome ∧ n.externalId.isSome

/-- A scheduled notification has its schedule time, which the sweep's due test reads. -/
def ScheduleRecorded (n : Notification) : Prop := n.status = .scheduled → n.scheduledAt.isSome

/-- A copy a writer writes back: not scheduled, and with its send data if it is sent. -/
def Writable (n : Notification) : Prop := n.status ≠ .scheduled ∧ n.SentRecorded

theorem sentRecorded_of_status {n : Notification} (h₁ : n.status ≠ .sent)
    (h₂ : n.status ≠ .delivered) : n.SentRecorded := by
  rintro (h | h) <;> contradiction

/-- A notification as admitted, pending or scheduled, has no send data to miss. -/
theorem sentRecorded_of_admitted {n : Notification}
    (h : n.status = .pending ∨ n.status = .scheduled) : n.SentRecorded :=
  sentRecorded_of_status (by rcases h with h | h <;> simp [h]) (by rcases h with h | h <;> simp [h])

theorem writable_of_status {n : Notification} (h₀ : n.status ≠ .scheduled)
    (h₁ : n.status ≠ .sent) (h₂ : n.status ≠ .delivered) : n.Writable :=
  ⟨h₀, sentRecorded_of_status h₁ h₂⟩

theorem markAsSent_writable (n : Notification) (e : String) (t : Int) :
    (n.markAsSent e t).Writable :=
  ⟨by simp, fun _ => by simp [markAsSent]⟩

/-- The row the columns keep of a copy has the copy's send data. -/
theorem SentRecorded.stored {n : Notification} (h : n.SentRecorded) : n.stored.SentRecorded :=
  fun hs => by simpa using h (by simpa using hs)

theorem ScheduleRecorded.stored {n : Notification} (h : n.ScheduleRecorded) :
    n.stored.ScheduleRecorded :=
  fun hs => by simpa using h (by simpa using hs)

theorem canCancel_iff (n : Notification) :
    n.canCancel = true ↔ n.status = .pending ∨ n.status = .scheduled ∨ n.status = .queued := by
  simp [canCancel, or_assoc]

end Notification

/-! ## Queue tokens -/

/-- A dequeue token (`domain.QueueItem`). -/
structure QueueItem where
  notificationId : Nat
  channel : Channel
  priority : Priority
  retryCount : Nat
  deriving DecidableEq, Repr

/-- The token every enqueueing site builds from a record (`enqueueNotification`, the
scheduler's sweep and `handleSendError` all copy these four fields). -/
def Notification.queueItem (n : Notification) : QueueItem :=
  ⟨n.id, n.channel, n.priority, n.retryCount⟩

@[simp] theorem Notification.queueItem_notificationId (n : Notification) :
    n.queueItem.notificationId = n.id := rfl

@[simp] theorem Notification.queueItem_channel (n : Notification) :
    n.queueItem.channel = n.channel := rfl

/-! ## Errors -/

/-- The errors the service returns (`internal/domain/errors.go`); `backend` is a store or
queue failure wrapped with the code's "failed to …" context, `wrapped` a domain error under
such a context (`fmt.Errorf("failed to create batch: %w", err)`), and `inBatch` the batch's
"notification %d: %w" wrapper. -/
inductive ServiceError
  | validation (field message : String)
  | notFound
  | cannotCancel
  | templateNotFound
  | missingVariables (names : List String)
  | batchSizeExceeded
  | idempotencyConflict
  | backend (context : String)
  | wrapped (context : String) (err : ServiceError)
  | inBatch (index : Nat) (err : ServiceError)
  deriving DecidableEq, Repr

/-- `validateContentLength`: content longer (in bytes) than the channel's cap is rejected. -/
def validateContentLength (channel : Channel) (content : String) : Except ServiceError Unit :=
  let maxLen := channel.maxContentLength
  let name := channel.text
  if content.utf8ByteSize > maxLen then
    .error (.validation "content"
      s!"content exceeds maximum length of {maxLen} characters for {name} channel")
  else .ok ()

theorem validateContentLength_ok_iff (channel : Channel) (content : String) :
    validateContentLength channel content = .ok () ↔
      content.utf8ByteSize ≤ channel.maxContentLength := by
  simp only [validateContentLength]
  split <;> simp_all

end NotificationService
