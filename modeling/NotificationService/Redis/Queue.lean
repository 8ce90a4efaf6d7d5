import NotificationService.Domain.Notification
import NotificationService.Go.Numeric
import NotificationService.Redis.SortedSet

/-! # The Redis priority queue

`internal/repository/redis/queue.go`: one sorted set per channel, under the key
`queueKey c = "notification:queue:" ++ c`, whose members are the JSON texts of the queued
`QueueItem`s.

* **`score p t`** — `Queue.Enqueue` scores an item `float64(p.Weight()) + float64(t)/1e18`:
  three roundings to the nearest double (`float64(t)`, the quotient, the sum). Scaled by
  `2^112` every double this can give is an integer, so the model's score is that integer.
  The weights are `10^6` apart and the quotient is below 10, so the doubles keep the order of
  priorities (`score_lt_of_weight_lt`). Within a priority they are coarse: near the weights
  `10^6` and `2·10^6` neighbouring doubles are `2^-33` and `2^-32` apart, so readings less
  than about 116 ms and 233 ms apart can get one score, and `ZPOPMIN` then returns the smaller
  JSON member first. What is proved here about the order of items rests only on the order of
  priorities.
* **`enqueue`**, **`enqueueBatch`**, **`dequeue`** — `Queue.Enqueue`, `Queue.EnqueueBatch`
  (grouping by channel, one `ZADD` per group) and `Queue.Dequeue` (`ZPOPMIN`).
* **`runQueue`** — a sequence of calls, recording what each `Dequeue` saw and returned;
  `runQueue_sound` is what the queue guarantees over every such sequence.

The member of a set is the item itself: `json.Marshal` is injective on `QueueItem` and
`json.Unmarshal` inverts it, so a set of JSON texts and the set of the items they encode
change in lockstep, and `Dequeue`'s decoding error path is never taken. -/

namespace NotificationService

/-! ## Scores and keys -/

/-- The unit of the model's scores, `2^-112`: a nonzero `float64(t)` is at least 1 in size, its
quotient by `1e18` at least `2^-60`, and the doubles there are `2^-112` apart. -/
def scoreScale : Nat := 2 ^ 112

/-- The score `Queue.Enqueue` gives an item of priority `p` at clock reading `t` (Unix ns),
`float64(p.Weight()) + float64(t)/1e18`, in units of `2^-112`: `float64(t)`, its quotient by
the double `1e18`, and the sum, each rounded to the nearest double. -/
def score (p : Priority) (t : Int) : Int :=
  let f := roundToFloat64 t
  roundToFloat64 (p.weight * scoreScale + f.sign * roundQuotient (f.natAbs * scoreScale) (10 ^ 18))

/-- Readings of a 64-bit clock, `|t| < 2^63`. -/
def ClockReading (t : Int) : Prop := -9223372036854775808 < t ∧ t < 9223372036854775808

instance : DecidablePred ClockReading := fun _ => inferInstanceAs (Decidable (_ ∧ _))

/-- A score lies within `12` of its weight: the quotient by `1e18` is below 10, and each
rounding moves a value by a small fraction of 1. -/
theorem score_near {p : Priority} {t : Int} (ht : ClockReading t) :
    |score p t - p.weight * scoreScale| < 12 * scoreScale := by
  unfold ClockReading at ht
  have hw₀ := p.weight_nonneg
  have hw₁ := p.weight_le
  have hf := roundToFloat64_near (d := t) (by omega) (by omega)
  unfold score
  dsimp only
  have hs : (scoreScale : Int) = 2 ^ 112 := by norm_num [scoreScale]
  rw [hs]
  simp only [scoreScale]
  generalize roundToFloat64 t = f at hf ⊢
  -- the quotient is below `10`, and rounding it adds at most one spacing
  have hm : f.natAbs * 2 ^ 112 / 10 ^ 18 < 10 * 2 ^ 112 := by omega
  have hR := (roundQuotient_near (f.natAbs * 2 ^ 112) (10 ^ 18)).2
  have hg := two_pow_log2_sub_le (f.natAbs * 2 ^ 112 / 10 ^ 18)
  have hb := abs_sign_mul_le f (roundQuotient (f.natAbs * 2 ^ 112) (10 ^ 18))
  generalize roundQuotient (f.natAbs * 2 ^ 112) (10 ^ 18) = R at hR hb ⊢
  generalize 2 ^ ((f.natAbs * 2 ^ 112 / 10 ^ 18).log2 - 52) = g at hR hg
  -- rounding the sum moves it by far less than `1`
  have hx := roundToFloat64_sub_le_rel (p.weight * 2 ^ 112 + f.sign * R)
  generalize roundToFloat64 (p.weight * 2 ^ 112 + f.sign * R) = y at hx ⊢
  generalize f.sign * (R : Int) = b at hb hx ⊢
  rw [abs_le] at hb hx
  rw [abs_lt]
  omega

/-- **Priority classes never interleave.** A score stays within 12 of its weight and the
weights are `10^6` apart, so a lighter weight always scores lower, whatever the two clock
readings are. -/
theorem score_lt_of_weight_lt {p q : Priority} {s t : Int} (hs : ClockReading s)
    (ht : ClockReading t) (h : p.weight < q.weight) : score p s < score q t := by
  have := Priority.weight_gap h
  have h₁ := abs_lt.1 (score_near (p := p) hs)
  have h₂ := abs_lt.1 (score_near (p := q) ht)
  have hscale : (scoreScale : Int) = 2 ^ 112 := by norm_num [scoreScale]
  rw [hscale] at h₁ h₂
  omega

/-- Two normal items enqueued at readings 0 and 50 ms get one score. -/
example : score .normal 0 = score .normal 50000000 := by decide

/-- The key of a channel's set (`queueKey`). -/
def queueKey (c : Channel) : String := "notification:queue:" ++ c.text

theorem queueKey_injective : Function.Injective queueKey := by
  intro c d h
  cases c <;> cases d <;> first | rfl | exact absurd h (by decide)

/-- The queue's part of the Redis keyspace. -/
abbrev Keyspace := String → ZSet QueueItem

/-- Nothing is queued. -/
def Keyspace.empty : Keyspace := fun _ => []

/-- The queued items of a channel. -/
def Keyspace.items (r : Keyspace) (c : Channel) : List QueueItem := (r (queueKey c)).members

/-! ## The three calls -/

/-- `Queue.Enqueue` with clock reading `now`. -/
def enqueue (r : Keyspace) (item : QueueItem) (now : Int) : Keyspace :=
  Function.update r (queueKey item.channel)
    ((r (queueKey item.channel)).add (score item.priority now) item)

/-- The per-channel `redis.Z` lists `EnqueueBatch` builds, each item scored with its own
clock reading, in the order of the batch. -/
def groupByChannel (entries : List (QueueItem × Int)) (c : Channel) : List (Int × QueueItem) :=
  (entries.filter fun e => e.1.channel = c).map fun e => (score e.1.priority e.2, e.1)

/-- `Queue.EnqueueBatch`: one `ZADD` per channel group in a pipeline. The groups touch
distinct keys, so the order the Go map yields them in does not matter. -/
def enqueueBatch (r : Keyspace) (entries : List (QueueItem × Int)) : Keyspace :=
  [Channel.sms, .email, .push].foldl
    (fun r c => Function.update r (queueKey c) ((r (queueKey c)).addAll (groupByChannel entries c)))
    r

/-- `Queue.Dequeue`: `ZPOPMIN` on the channel's key; `none` is the code's `(nil, nil)`. -/
def dequeue (r : Keyspace) (c : Channel) : Option QueueItem × Keyspace :=
  match (r (queueKey c)).popMin with
  | none => (none, r)
  | some (item, z) => (some item, Function.update r (queueKey c) z)

theorem enqueue_apply (r : Keyspace) (item : QueueItem) (t : Int) (c : Channel) :
    (enqueue r item t) (queueKey c) =
      if item.channel = c then (r (queueKey c)).add (score item.priority t) item
      else r (queueKey c) := by
  by_cases h : item.channel = c
  · subst h; simp [enqueue]
  · simp [enqueue, h, Function.update_noteq (queueKey_injective.ne (Ne.symm h))]

/-- **`EnqueueBatch` is a run of `Enqueue`s.** Grouping the batch by channel and adding each
group with one `ZADD` leaves every channel's set as adding the items one at a time would. -/
theorem enqueueBatch_eq_foldl (r : Keyspace) (entries : List (QueueItem × Int)) (c : Channel) :
    (enqueueBatch r entries) (queueKey c) =
      (entries.foldl (fun r e => enqueue r e.1 e.2) r) (queueKey c) := by
  have key : ∀ (es : List (QueueItem × Int)) (r : Keyspace),
      (es.foldl (fun r e => enqueue r e.1 e.2) r) (queueKey c) =
        (r (queueKey c)).addAll (groupByChannel es c) := by
    intro es
    induction es with
    | nil => intro r; rfl
    | cons e es ih =>
      intro r
      rw [List.foldl_cons, ih, enqueue_apply]
      by_cases h : e.1.channel = c <;> simp [groupByChannel, h, ZSet.addAll]
  rw [key]
  cases c <;> simp [enqueueBatch, Function.update_apply, queueKey_injective.eq_iff]

/-! ## What one call does to the queue -/

/-- Each channel's members are distinct items of that channel. -/
def Keyspace.Keyed (r : Keyspace) : Prop :=
  ∀ c, (r.items c).Nodup ∧ ∀ e ∈ r (queueKey c), e.2.channel = c

/-- The queue is well formed: keyed, and each member scored at a 64-bit clock reading. -/
def Keyspace.WellFormed (r : Keyspace) : Prop :=
  r.Keyed ∧ ∀ c, ∀ e ∈ r (queueKey c), ∃ t, ClockReading t ∧ e.1 = score e.2.priority t

theorem wellFormed_empty : Keyspace.empty.WellFormed :=
  ⟨fun c => by simp [Keyspace.empty, Keyspace.items], fun c => by simp [Keyspace.empty]⟩

theorem Keyspace.items_enqueue (r : Keyspace) (item : QueueItem) (t : Int) (c : Channel) :
    (enqueue r item t).items c =
      if item.channel = c then ((r (queueKey c)).add (score item.priority t) item).members
      else r.items c := by
  simp only [items, enqueue_apply]; split <;> rfl

theorem keyed_enqueue {r : Keyspace} (hr : r.Keyed) (item : QueueItem) (t : Int) :
    (enqueue r item t).Keyed := by
  intro c
  rw [Keyspace.items_enqueue, enqueue_apply]
  by_cases hc : item.channel = c
  · simp only [hc, if_true]
    refine ⟨ZSet.nodup_add _ _ (hr c).1, fun e he => ?_⟩
    rcases ZSet.mem_add_entry he with he | rfl
    exacts [(hr c).2 e he, hc]
  · simpa [hc] using hr c

theorem wellFormed_enqueue {r : Keyspace} (hr : r.WellFormed) (item : QueueItem) {t : Int}
    (ht : ClockReading t) : (enqueue r item t).WellFormed := by
  refine ⟨keyed_enqueue hr.1 item t, fun c e he => ?_⟩
  rw [enqueue_apply] at he
  split at he
  · rcases ZSet.mem_add_entry he with he | rfl
    exacts [hr.2 c e he, ⟨t, ht, rfl⟩]
  · exact hr.2 c e he

/-- How often an item is queued: once or not at all. -/
def Keyspace.stock (r : Keyspace) (x : QueueItem) : Nat := (r.items x.channel).count x

theorem stock_enqueue {r : Keyspace} (hr : r.Keyed) (item : QueueItem) (t : Int)
    (x : QueueItem) : (enqueue r item t).stock x ≤ r.stock x + [item].count x := by
  simp only [Keyspace.stock, Keyspace.items_enqueue]
  split
  · rename_i hc
    rw [ZSet.count_add _ _ _ _ (by simpa [Keyspace.items, hc] using (hr item.channel).1)]
    by_cases hx : x = item <;> simp_all [Keyspace.items]
  · simp

theorem dequeue_none {r r' : Keyspace} {c : Channel} (h : dequeue r c = (none, r')) :
    r' = r ∧ r.items c = [] := by
  unfold dequeue at h
  split at h
  · rename_i hp
    cases h; exact ⟨rfl, by simp [Keyspace.items, ZSet.popMin_eq_none.1 hp]⟩
  · cases h

/-- What a successful `Dequeue` takes: an item of the channel, of least score. -/
theorem dequeue_some {r r' : Keyspace} {c : Channel} {x : QueueItem}
    (h : dequeue r c = (some x, r')) :
    ∃ s, (s, x) ∈ r (queueKey c) ∧ r' = Function.update r (queueKey c) ((r (queueKey c)).erase (s, x)) ∧
      ∀ d ∈ r (queueKey c), s ≤ d.1 := by
  unfold dequeue at h
  split at h
  · cases h
  · rename_i item z hp
    cases h
    obtain ⟨s, hs, rfl, hle⟩ := ZSet.popMin_eq_some hp
    exact ⟨s, hs, rfl, hle⟩

theorem Keyspace.items_update_erase (r : Keyspace) {c : Channel} {e : Int × QueueItem}
    (he : e ∈ r (queueKey c)) (hr : (r.items c).Nodup) (d : Channel) :
    Keyspace.items (Function.update r (queueKey c) ((r (queueKey c)).erase e)) d =
      if d = c then (r.items c).erase e.2 else r.items d := by
  by_cases hd : d = c
  · subst hd; simp [Keyspace.items, ZSet.members_erase he hr]
  · simp [Keyspace.items, hd, Function.update_noteq (queueKey_injective.ne hd)]

/-- A `Dequeue` only takes members out. -/
theorem mem_of_dequeue {r : Keyspace} {c d : Channel} {e : Int × QueueItem}
    (he : e ∈ (dequeue r c).2 (queueKey d)) : e ∈ r (queueKey d) := by
  rcases h : dequeue r c with ⟨_ | x, r'⟩ <;> rw [h] at he
  · rwa [(dequeue_none h).1] at he
  · obtain ⟨s, -, rfl, -⟩ := dequeue_some h
    by_cases hd : d = c
    · subst hd
      exact List.erase_subset _ _ (by simpa using he)
    · simpa [Function.update_noteq (queueKey_injective.ne hd)] using he

theorem keyed_dequeue {r : Keyspace} (hr : r.Keyed) (c : Channel) : (dequeue r c).2.Keyed := by
  intro d
  refine ⟨?_, fun e he => (hr d).2 e (mem_of_dequeue he)⟩
  rcases h : dequeue r c with ⟨_ | x, r'⟩
  · rw [(dequeue_none h).1]; exact (hr d).1
  · obtain ⟨s, hs, rfl, -⟩ := dequeue_some h
    rw [Keyspace.items_update_erase r hs (hr c).1]
    split
    · exact (hr c).1.erase x
    · exact (hr d).1

/-- A `Dequeue` takes out once what it returns. -/
theorem stock_dequeue {r : Keyspace} (hr : r.Keyed) (c : Channel) (y : QueueItem) :
    (dequeue r c).2.stock y + (dequeue r c).1.toList.count y = r.stock y := by
  rcases h : dequeue r c with ⟨_ | x, r'⟩
  · simp [(dequeue_none h).1]
  · obtain ⟨s, hs, rfl, -⟩ := dequeue_some h
    have hxc : x.channel = c := (hr c).2 _ hs
    have hmem : x ∈ r.items c := ZSet.mem_members.2 ⟨s, hs⟩
    have hitems := Keyspace.items_update_erase r hs (hr c).1
    by_cases hy : y = x
    · subst hy
      have := List.count_pos_iff.2 hmem
      simp only [Keyspace.stock, hxc, hitems, if_true, Option.toList_some,
        List.count_singleton_self, List.count_erase_self]
      omega
    · simp only [Keyspace.stock, hitems, Option.toList_some, List.count_singleton, beq_iff_eq,
        Ne.symm hy, if_false, Nat.add_zero]
      split <;> simp_all [List.count_erase_of_ne hy]

/-- **One `Dequeue`.** On a well-formed queue it keeps the queue well formed; it returns
nothing only when the channel's set is empty; what it returns is an item of the channel whose
priority weight no queued item of the channel undercuts; and it takes that item out once. -/
theorem dequeue_spec {r : Keyspace} (hr : r.WellFormed) (c : Channel) :
    (dequeue r c).2.WellFormed ∧
    ((dequeue r c).1 = none → r.items c = []) ∧
    (∀ x, (dequeue r c).1 = some x →
      x.channel = c ∧ x ∈ r.items c ∧ ∀ y ∈ r.items c, x.priority.weight ≤ y.priority.weight) ∧
    ∀ x, (dequeue r c).2.stock x + (dequeue r c).1.toList.count x = r.stock x := by
  refine ⟨⟨keyed_dequeue hr.1 c, fun d e he => hr.2 d e (mem_of_dequeue he)⟩, ?_, ?_,
    stock_dequeue hr.1 c⟩
  · intro h
    exact (dequeue_none (Prod.ext h rfl)).2
  · intro x hx
    obtain ⟨s, hs, -, hle⟩ := dequeue_some (Prod.ext hx rfl)
    obtain ⟨tx, htx, hsx⟩ := hr.2 c _ hs
    refine ⟨(hr.1 c).2 _ hs, ZSet.mem_members.2 ⟨s, hs⟩, fun y hy => not_lt.1 fun hw => ?_⟩
    obtain ⟨sy, hsy⟩ := ZSet.mem_members.1 hy
    obtain ⟨ty, hty, hsy'⟩ := hr.2 c _ hsy
    have := hle _ hsy
    simp only at hsy' this hsx
    exact absurd (hsx ▸ hsy' ▸ this) (not_le.2 (score_lt_of_weight_lt hty htx hw))

/-! ## Runs of calls -/

/-- A call on the queue. -/
inductive QueueOp
  | enqueue (item : QueueItem) (now : Int)
  | enqueueBatch (entries : List (QueueItem × Int))
  | dequeue (c : Channel)

/-- The items a call enqueues. -/
def QueueOp.enqueued : QueueOp → List QueueItem
  | enqueue item _ => [item]
  | enqueueBatch entries => entries.map Prod.fst
  | dequeue _ => []

/-- The clock readings a call scores its items with. -/
def QueueOp.readings : QueueOp → List Int
  | enqueue _ t => [t]
  | enqueueBatch entries => entries.map Prod.snd
  | dequeue _ => []

/-- What one `Dequeue` saw (the channel's items before the pop) and returned. -/
structure DequeueRecord where
  channel : Channel
  before : List QueueItem
  result : Option QueueItem

/-- Run a sequence of calls, recording every `Dequeue`. -/
def runQueue : Keyspace → List QueueOp → Keyspace × List DequeueRecord
  | r, [] => (r, [])
  | r, .enqueue item t :: ops => runQueue (enqueue r item t) ops
  | r, .enqueueBatch entries :: ops => runQueue (enqueueBatch r entries) ops
  | r, .dequeue c :: ops =>
    ((runQueue (dequeue r c).2 ops).1,
      ⟨c, r.items c, (dequeue r c).1⟩ :: (runQueue (dequeue r c).2 ops).2)

/-- The items a run's `Dequeue`s returned. -/
def returned (log : List DequeueRecord) : List QueueItem := log.flatMap fun d => d.result.toList

theorem Keyspace.wellFormed_congr {r₁ r₂ : Keyspace} (h : ∀ c, r₁ (queueKey c) = r₂ (queueKey c)) :
    r₁.WellFormed ↔ r₂.WellFormed := by
  simp only [Keyspace.WellFormed, Keyspace.Keyed, Keyspace.items, h]

theorem Keyspace.stock_congr {r₁ r₂ : Keyspace} (h : ∀ c, r₁ (queueKey c) = r₂ (queueKey c)) :
    r₁.stock = r₂.stock := by
  funext x; simp [Keyspace.stock, Keyspace.items, h]

/-- Enqueueing items one at a time keeps the queue well formed and queues each of them at
most once more. -/
theorem foldl_enqueue_spec {r : Keyspace} (hr : r.WellFormed) (entries : List (QueueItem × Int))
    (ht : ∀ t ∈ entries.map Prod.snd, ClockReading t) :
    (entries.foldl (fun r e => enqueue r e.1 e.2) r).WellFormed ∧
      ∀ x, (entries.foldl (fun r e => enqueue r e.1 e.2) r).stock x ≤
        r.stock x + (entries.map Prod.fst).count x := by
  induction entries generalizing r with
  | nil => exact ⟨hr, by simp⟩
  | cons e es ih =>
    simp only [List.map_cons, List.mem_cons, forall_eq_or_imp] at ht
    obtain ⟨hwf, hst⟩ := ih (wellFormed_enqueue hr e.1 ht.1) ht.2
    refine ⟨hwf, fun x => (hst x).trans ?_⟩
    have := stock_enqueue hr.1 e.1 e.2 x
    rw [List.map_cons, ← List.singleton_append, List.count_append]
    omega

/-- A batch keeps the queue well formed and queues each of its items at most once more. -/
theorem enqueueBatch_spec {r : Keyspace} (hr : r.WellFormed) (entries : List (QueueItem × Int))
    (ht : ∀ t ∈ entries.map Prod.snd, ClockReading t) :
    (enqueueBatch r entries).WellFormed ∧
      ∀ x, (enqueueBatch r entries).stock x ≤ r.stock x + (entries.map Prod.fst).count x := by
  rw [Keyspace.wellFormed_congr (enqueueBatch_eq_foldl r entries),
    Keyspace.stock_congr (enqueueBatch_eq_foldl r entries)]
  exact foldl_enqueue_spec hr entries ht

/-- The invariant of a run from a well-formed queue: the run's records are sound, and an
item is returned or still queued no more often than it was queued or enqueued. -/
theorem runQueue_sound_from {r : Keyspace} (hr : r.WellFormed) (ops : List QueueOp)
    (hops : ∀ op ∈ ops, ∀ t ∈ op.readings, ClockReading t) :
    (∀ d ∈ (runQueue r ops).2, ∀ x, d.result = some x → x.channel = d.channel ∧ x ∈ d.before ∧
      ∀ y ∈ d.before, x.priority.weight ≤ y.priority.weight) ∧
    (∀ d ∈ (runQueue r ops).2, d.result = none → d.before = []) ∧
    ∀ x, (returned (runQueue r ops).2).count x + (runQueue r ops).1.stock x ≤
      r.stock x + (ops.flatMap QueueOp.enqueued).count x := by
  induction ops generalizing r with
  | nil => simp [runQueue, returned]
  | cons op ops ih =>
    simp only [List.mem_cons, forall_eq_or_imp] at hops
    simp only [List.flatMap_cons, List.count_append]
    cases op with
    | enqueue item t =>
      obtain ⟨h1, h2, h3⟩ := ih (wellFormed_enqueue hr item (hops.1 t (by simp [QueueOp.readings])))
        hops.2
      refine ⟨h1, h2, fun x => (h3 x).trans ?_⟩
      have := stock_enqueue hr.1 item t x
      simp only [QueueOp.enqueued]
      omega
    | enqueueBatch entries =>
      obtain ⟨hwf, hst⟩ := enqueueBatch_spec hr entries (hops.1 · ·)
      obtain ⟨h1, h2, h3⟩ := ih hwf hops.2
      refine ⟨h1, h2, fun x => (h3 x).trans ?_⟩
      have := hst x
      simp only [QueueOp.enqueued]
      omega
    | dequeue c =>
      obtain ⟨hwf, hnone, hsome, hstock⟩ := dequeue_spec hr c
      obtain ⟨h1, h2, h3⟩ := ih hwf hops.2
      simp only [runQueue, List.mem_cons, forall_eq_or_imp, returned, List.flatMap_cons,
        List.count_append, QueueOp.enqueued, List.count_nil]
      refine ⟨⟨hsome, h1⟩, ⟨hnone, h2⟩, fun x => ?_⟩
      have := h3 x
      have := hstock x
      simp only [returned] at *
      omega

/-- **The queue serves what was enqueued, by priority.** Over every sequence of `Enqueue`,
`EnqueueBatch` and `Dequeue` calls from the empty queue, with 64-bit clock readings: each
item a `Dequeue(c)` returns belongs to channel `c`, was in the queue, and no queued item of
`c` has a strictly smaller priority weight; a `Dequeue` returns nothing only when the
channel's set is empty; and no item is returned more often than it was enqueued. -/
theorem runQueue_sound (ops : List QueueOp)
    (hops : ∀ op ∈ ops, ∀ t ∈ op.readings, ClockReading t) :
    (∀ d ∈ (runQueue .empty ops).2, ∀ x, d.result = some x → x.channel = d.channel ∧
      x ∈ d.before ∧ ∀ y ∈ d.before, x.priority.weight ≤ y.priority.weight) ∧
    (∀ d ∈ (runQueue .empty ops).2, d.result = none → d.before = []) ∧
    ∀ x, (returned (runQueue .empty ops).2).count x ≤ (ops.flatMap QueueOp.enqueued).count x := by
  obtain ⟨h1, h2, h3⟩ := runQueue_sound_from wellFormed_empty ops hops
  refine ⟨h1, h2, fun x => ?_⟩
  have := h3 x
  simp only [Keyspace.stock, Keyspace.items, Keyspace.empty, ZSet.members_nil,
    List.count_nil] at this
  omega

/-- A low item of `sms` enqueued before a high one: the `Dequeue` returns the high one. -/
theorem runQueue_sound_high_before_low :
    let ops := [QueueOp.enqueue ⟨1, .sms, .low, 0⟩ 0, .enqueue ⟨2, .sms, .high, 0⟩ 1, .dequeue .sms]
    (runQueue .empty ops).2.map (·.result) = [some ⟨2, .sms, .high, 0⟩] ∧
    (∀ d ∈ (runQueue .empty ops).2, ∀ x, d.result = some x → x.channel = d.channel ∧
      x ∈ d.before ∧ ∀ y ∈ d.before, x.priority.weight ≤ y.priority.weight) ∧
    (∀ d ∈ (runQueue .empty ops).2, d.result = none → d.before = []) ∧
    ∀ x, (returned (runQueue .empty ops).2).count x ≤ (ops.flatMap QueueOp.enqueued).count x :=
  ⟨by decide, runQueue_sound _ (by decide)⟩

/-! ## Tokens over all channels

The service reasons about the tokens of a notification whatever the channel's set they are in:
`allItems` lists the three sets' members, and on a keyed queue it counts each item as `stock`
does. Each call then changes that list by what it adds or returns, up to order. -/

/-- Every queued item, channel by channel. -/
def Keyspace.allItems (r : Keyspace) : List QueueItem := [Channel.sms, .email, .push].flatMap r.items

theorem keyed_empty : Keyspace.empty.Keyed := wellFormed_empty.1

theorem Keyspace.keyed_congr {r₁ r₂ : Keyspace} (h : ∀ c, r₁ (queueKey c) = r₂ (queueKey c)) :
    r₁.Keyed ↔ r₂.Keyed := by
  simp only [Keyspace.Keyed, Keyspace.items, h]

theorem Keyspace.allItems_congr {r₁ r₂ : Keyspace} (h : ∀ c, r₁ (queueKey c) = r₂ (queueKey c)) :
    r₁.allItems = r₂.allItems := by
  simp [Keyspace.allItems, Keyspace.items, h]

theorem count_allItems {r : Keyspace} (hr : r.Keyed) (x : QueueItem) :
    r.allItems.count x = r.stock x := by
  have h0 : ∀ c, c ≠ x.channel → (r.items c).count x = 0 := by
    intro c hc
    refine List.count_eq_zero.2 fun hx => hc ?_
    obtain ⟨s, hs⟩ := ZSet.mem_members.1 hx
    exact ((hr c).2 _ hs).symm
  simp only [Keyspace.allItems, List.flatMap_cons, List.flatMap_nil, List.append_nil,
    List.count_append, Keyspace.stock]
  cases hc : x.channel <;> simp [h0, hc]

theorem allItems_enqueue {r : Keyspace} (hr : r.Keyed) (item : QueueItem) (t : Int) :
    List.Subperm (enqueue r item t).allItems (r.allItems ++ [item]) :=
  List.subperm_ext_iff.2 fun x _ => by
    rw [count_allItems (keyed_enqueue hr item t), List.count_append, count_allItems hr]
    exact stock_enqueue hr item t x

/-- **A batch adds at most its items.** -/
theorem allItems_enqueueBatch {r : Keyspace} (hr : r.Keyed) (entries : List (QueueItem × Int)) :
    (enqueueBatch r entries).Keyed ∧
      List.Subperm (enqueueBatch r entries).allItems (r.allItems ++ entries.map Prod.fst) := by
  rw [Keyspace.keyed_congr (enqueueBatch_eq_foldl r entries),
    Keyspace.allItems_congr (enqueueBatch_eq_foldl r entries)]
  induction entries generalizing r with
  | nil => exact ⟨hr, by simpa using List.Subperm.refl _⟩
  | cons e es ih =>
    obtain ⟨hk, hsub⟩ := ih (keyed_enqueue hr e.1 e.2)
    refine ⟨hk, hsub.trans ?_⟩
    simpa using (List.subperm_append_right (es.map Prod.fst)).2 (allItems_enqueue hr e.1 e.2)

/-- **A `Dequeue` moves what it returns out of the queue.** -/
theorem allItems_dequeue {r : Keyspace} (hr : r.Keyed) (c : Channel) :
    List.Perm ((dequeue r c).2.allItems ++ (dequeue r c).1.toList) r.allItems :=
  List.perm_iff_count.2 fun x => by
    rw [List.count_append, count_allItems (keyed_dequeue hr c), count_allItems hr]
    exact stock_dequeue hr c x

end NotificationService
