import NotificationService.Service.Store
import NotificationService.Redis.Queue

/-! # What the service's threads share

Request handlers, the scheduler and the workers coordinate only through Postgres and Redis
(there is no in-process lock on business state). `Shared` holds the `notifications` table, the
queue's Redis keys, the last clock reading and the source of fresh identifiers (`uuid.New`,
modelled as a counter), plus `admitted`, the identifiers the admission path has enqueued, kept
for the statements about admission.

A thread's step reads what the environment decides at that step from a `Choice`: whether the
store or queue call succeeds (`ok`), which channel groups of a pipelined `EnqueueBatch` apply
(`applied`: a go-redis pipeline is not a transaction), whether each template lookup of the step
succeeds (`lookupOk`), the clock readings taken (`t₁ ≤ t₂`, never behind earlier readings), the
provider's answer to a `Send`, and whether the worker's context is cancelled during a backoff
wait. A single Redis command that fails may still have been applied: Redis ran it and the reply
was lost (go-redis then retries it, and the retry may fail too). For such a command on a
channel's key, `applied` of the channel says whether it took effect. A failed Postgres call
changes nothing.

Tokens are counted per notification over all channels' queues (`Shared.tokens`); a thread's
step that trades tokens with the queue satisfies `Shared.Moves`, which is what the ownership
invariant of the workers is built from. -/

theorem List.Subperm.map {α β : Type} (f : α → β) {l₁ l₂ : List α} (h : List.Subperm l₁ l₂) :
    List.Subperm (l₁.map f) (l₂.map f) :=
  let ⟨l, hp, hs⟩ := h
  ⟨l.map f, hp.map f, hs.map f⟩

theorem List.Subperm.nodup {α : Type} {l₁ l₂ : List α} (h : List.Subperm l₁ l₂) (hn : l₂.Nodup) :
    l₁.Nodup :=
  let ⟨_, hp, hs⟩ := h
  hp.nodup_iff.1 (hs.nodup hn)

namespace NotificationService

/-- The store, the queue, the clock, the identifier source and the admission log. -/
structure Shared where
  store : Store
  queue : Keyspace
  clock : Int
  nextId : Nat
  admitted : List Nat

/-- An empty store and queue, the clock at `t₀`. -/
def Shared.init (t₀ : Int) : Shared := ⟨[], Keyspace.empty, t₀, 0, []⟩

/-- The notifications the queue holds tokens of, one entry per token, whatever the channel. -/
def Shared.tokens (sh : Shared) : List Nat := sh.queue.allItems.map (·.notificationId)

/-- A step from `sh` to `sh'` of a thread that had tokens of `before` to enqueue and then has
tokens of `after`: the queue stays keyed, and its tokens and `after` come from its tokens,
`before` and the `fresh` ids. -/
def Shared.Moves (sh sh' : Shared) (before after fresh : List Nat) : Prop :=
  sh'.queue.Keyed ∧ List.Subperm (sh'.tokens ++ after) (sh.tokens ++ before ++ fresh)

theorem Shared.moves_of_sublist {sh sh' : Shared} {before after fresh : List Nat}
    (hk : sh.queue.Keyed) (hq : sh'.queue = sh.queue) (h : List.Sublist after (before ++ fresh)) :
    sh.Moves sh' before after fresh := by
  refine ⟨hq ▸ hk, ?_⟩
  rw [Shared.tokens, Shared.tokens, hq, List.append_assoc]
  exact (h.append_left _).subperm

theorem Shared.moves_nil {sh sh' : Shared} {before fresh : List Nat} (hk : sh.queue.Keyed)
    (hq : sh'.queue = sh.queue) : sh.Moves sh' before [] fresh :=
  Shared.moves_of_sublist hk hq (List.nil_sublist _)

/-- An `Enqueue` turns what the thread had to enqueue into tokens. -/
theorem Shared.moves_enqueue {sh sh' : Shared} {before after fresh : List Nat} {item : QueueItem}
    {t : Int} (hk : sh.queue.Keyed) (hq : sh'.queue = enqueue sh.queue item t)
    (h : List.Sublist (item.notificationId :: after) before) : sh.Moves sh' before after fresh := by
  refine ⟨hq ▸ keyed_enqueue hk item t, ?_⟩
  have hsub : List.Subperm (sh'.tokens ++ after) (sh.tokens ++ item.notificationId :: after) := by
    rw [Shared.tokens, Shared.tokens, hq, ← List.singleton_append, ← List.append_assoc]
    simpa using (List.subperm_append_right after).2 ((allItems_enqueue hk item t).map _)
  exact hsub.trans ((h.append_left _).trans (List.sublist_append_left _ _)).subperm

/-- An `EnqueueBatch` turns what the thread had to enqueue into tokens. -/
theorem Shared.moves_enqueueBatch {sh sh' : Shared} {before after fresh : List Nat}
    {entries : List (QueueItem × Int)} (hk : sh.queue.Keyed)
    (hq : sh'.queue = enqueueBatch sh.queue entries)
    (h : List.Sublist (entries.map (·.1.notificationId) ++ after) before) :
    sh.Moves sh' before after fresh := by
  obtain ⟨hk', hall⟩ := allItems_enqueueBatch hk entries
  refine ⟨hq ▸ hk', ?_⟩
  have hsub : List.Subperm (sh'.tokens ++ after)
      (sh.tokens ++ (entries.map (·.1.notificationId) ++ after)) := by
    rw [Shared.tokens, Shared.tokens, hq, ← List.append_assoc]
    simpa using (List.subperm_append_right after).2 (hall.map (·.notificationId))
  exact hsub.trans ((h.append_left _).trans (List.sublist_append_left _ _)).subperm

/-- A `Dequeue` hands the token it pops to the thread. -/
theorem Shared.moves_dequeue {sh sh' : Shared} {fresh : List Nat} {c : Channel} {item : QueueItem}
    (hk : sh.queue.Keyed) (hq : sh'.queue = (dequeue sh.queue c).2)
    (hd : (dequeue sh.queue c).1 = some item) : sh.Moves sh' [] [item.notificationId] fresh := by
  refine ⟨hq ▸ keyed_dequeue hk c, ?_⟩
  have hp := (allItems_dequeue hk c).map (·.notificationId)
  rw [hd] at hp
  rw [Shared.tokens, Shared.tokens, hq, List.append_nil]
  exact (by simpa using hp.subperm : List.Subperm _ _).trans (List.sublist_append_left _ _).subperm

/-- A thread may drop tokens a step hands it: a pop whose reply was lost. -/
theorem Shared.Moves.forget {sh sh' : Shared} {before after fresh : List Nat}
    (h : sh.Moves sh' before after fresh) : sh.Moves sh' before [] fresh :=
  ⟨h.1, (by simpa using (List.sublist_append_left sh'.tokens after).subperm.trans h.2)⟩

/-- What `provider.Send` answers. -/
inductive SendOutcome
  /-- A 200/202 response with this message id. -/
  | success (messageId : String)
  /-- A `domain.ProviderError`. -/
  | providerError (statusCode : Nat) (message : String) (retryable : Bool)
  /-- Any other error (no response). -/
  | transportError
  deriving DecidableEq, Repr

/-- What the environment decides at one step. -/
structure Choice where
  ok : Bool
  applied : Channel → Bool
  lookupOk : Nat → Bool
  t₁ : Int
  t₂ : Int
  outcome : SendOutcome
  cancelled : Bool

/-- Everything succeeds at clock reading `t`, the provider answering `"m"`. -/
def Choice.at (t : Int) : Choice := ⟨true, fun _ => true, fun _ => true, t, t, .success "m", false⟩

/-- Every call the step makes succeeds, every group of a pipeline included. -/
def Choice.Succeeds (ch : Choice) : Prop := ch.ok = true ∧ ∀ c, ch.applied c = true

instance Choice.decSucceeds (ch : Choice) : Decidable ch.Succeeds :=
  decidable_of_iff (ch.ok = true ∧ ch.applied .sms = true ∧ ch.applied .email = true ∧
      ch.applied .push = true)
    ⟨fun ⟨h, a, b, c⟩ => ⟨h, fun | .sms => a | .email => b | .push => c⟩,
      fun ⟨h, hc⟩ => ⟨h, hc _, hc _, hc _⟩⟩

/-- The clock readings of a step follow the earlier ones. -/
def Choice.Timely (ch : Choice) (sh : Shared) : Prop := sh.clock ≤ ch.t₁ ∧ ch.t₁ ≤ ch.t₂

instance (ch : Choice) (sh : Shared) : Decidable (ch.Timely sh) :=
  inferInstanceAs (Decidable (_ ∧ _))

/-- A thread run alone: its steps under the given choices, one after the other, with no other
thread stepping in between. -/
def runAlone {π : Type} (step : Shared → Choice → π → Option (Shared × π)) :
    Shared × π → List Choice → Option (Shared × π)
  | p, [] => some p
  | (sh, pc), ch :: chs => (step sh ch pc).bind fun p => runAlone step p chs

/-- A thread with no step left stays where it is. -/
theorem runAlone_stuck {π : Type} {step : Shared → Choice → π → Option (Shared × π)}
    {sh : Shared} {pc : π} (hstuck : ∀ ch, step sh ch pc = none) :
    ∀ {chs : List Choice} {q : Shared × π}, runAlone step (sh, pc) chs = some q → q = (sh, pc)
  | [], _, h => (Option.some.inj h).symm
  | ch :: _, _, h => by simp [runAlone, hstuck ch] at h

/-- `EnqueueBatch` of `items` at reading `t` when only the groups of the channels `applied`
accepts reach Redis. -/
def enqueueApplied (r : Keyspace) (items : List QueueItem) (applied : Channel → Bool) (t : Int) :
    Keyspace :=
  enqueueBatch r ((items.filter fun it => applied it.channel).map fun it => (it, t))

/-- Whether every group of a pipelined `EnqueueBatch` applied (`pipe.Exec` returned no error). -/
def pipelineOk (items : List QueueItem) (applied : Channel → Bool) : Bool :=
  items.all fun it => applied it.channel

end NotificationService
