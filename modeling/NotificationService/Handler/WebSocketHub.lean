import NotificationService.Domain.Notification
import Mathlib.Data.List.Nodup

/-! # The WebSocket status hub

`WebSocketHub.Run` (`internal/handler/websocket.go`) is one goroutine that serves three
channels: `register` (a connection handler hands over a freshly made client), `unregister` (a
client's read pump leaves: the hub deletes it and closes its `send` channel if it is still
registered) and `broadcast` (a buffered channel of 256 status updates filled by
`BroadcastStatus`, which drops an update when it is full). For each update it takes, the hub
encodes it once and offers the message to every registered client whose filter accepts the
notification, without blocking: a client whose 256-message buffer is full misses it.

The model is the hub's state and one event per thing that can happen next: a `connect`
(`HandleWebSocket` registering a new client), a `disconnect` (the read pump's deferred
unregister), a filter change (`subscribe`/`unsubscribe`, written by the read pump), a
`publish` (`BroadcastStatus`), a `dispatch` (the hub taking the oldest update) and a `drain`
(a write pump taking a message out of a buffer). `Hub.step` returns the runtime panic text
when the hub would send on, or close, a closed channel; `placed` records every message ever put
into each client's buffer.

What the hub is for is stated without it, by `Bus`: a set of registered clients with their
filters, the waiting updates, the number of messages each buffer holds, and the messages each
client has been given, where a taken update goes at once to every registered client whose
filter accepts it and whose buffer has room.

* **`hub_step_sound`** — from a state satisfying `HubInv` and related to a `Bus` state by
  `Simulates`, no event panics, and the hub's and the bus's steps keep both.
* **`hub_run_sound`** — over every run from the initial hub in which each client connects at
  most once, the hub never panics and each client's buffer receives exactly what the bus gives
  it: the encodings of the updates dispatched while it was registered, accepted by its filter
  and with room in its buffer, in the order they were taken. -/

namespace NotificationService

/-- A subscription filter (`ClientFilter`); channels are the texts the client sent. -/
structure ClientFilter where
  notificationIds : List Nat
  batchIds : List Nat
  channels : List String
  deriving DecidableEq, Repr

/-- A status update (`StatusUpdate`, of type `"status_update"`). -/
structure StatusUpdate where
  notification : Notification
  timestamp : Int
  deriving DecidableEq, Repr

/-- `WebSocketClient.shouldReceive`: no filter receives everything; a filter receives an
update matching one of its notification ids, batch ids or channels, and everything when all
three lists are empty. -/
def shouldReceive : Option ClientFilter → Notification → Bool
  | none, _ => true
  | some f, n =>
    if f.notificationIds.any (· == n.id) then true
    else if (match n.batchId with
        | some b => f.batchIds.any (· == b)
        | none => false) then true
    else if f.channels.any (· == n.channel.text) then true
    else if f.notificationIds ≠ [] ∨ f.batchIds ≠ [] ∨ f.channels ≠ [] then false
    else true

/-- The size of a client's `send` buffer and of the hub's `broadcast` channel. -/
def bufferSize : Nat := 256

/-- The hub and its clients. -/
structure Hub where
  /-- The keys of `h.clients`: the registered clients. -/
  clients : List Nat
  /-- The clients whose `send` channel the hub has closed. -/
  closed : List Nat
  /-- Every client ever registered. -/
  seen : List Nat
  filters : Nat → Option ClientFilter
  buffers : Nat → List String
  /-- The updates waiting in the `broadcast` channel, oldest first. -/
  pending : List StatusUpdate
  /-- Every message ever put into each client's buffer, in order. -/
  placed : Nat → List String

/-- No client, nothing pending. -/
def Hub.init : Hub := ⟨[], [], [], fun _ => none, fun _ => [], [], fun _ => []⟩

/-- What can happen next. -/
inductive HubEvent
  | connect (c : Nat)
  | disconnect (c : Nat)
  | subscribe (c : Nat) (f : ClientFilter)
  | unsubscribe (c : Nat)
  | publish (u : StatusUpdate)
  | dispatch
  | drain (c : Nat)

/-- The client a `connect` registers. -/
def HubEvent.connected : HubEvent → Option Nat
  | connect c => some c
  | _ => none

namespace Hub

/-- Put a message into client `c`'s buffer. -/
def push (h : Hub) (c : Nat) (m : String) : Hub :=
  { h with buffers := Function.update h.buffers c (h.buffers c ++ [m])
           placed := Function.update h.placed c (h.placed c ++ [m]) }

/-- The loop over `h.clients` for one encoded update `m` of notification `n`. -/
def deliver (m : String) (n : Notification) : Hub → List Nat → Except String Hub
  | h, [] => .ok h
  | h, c :: cs =>
    if shouldReceive (h.filters c) n then
      if c ∈ h.closed then .error "send on closed channel"
      else if (h.buffers c).length < bufferSize then deliver m n (h.push c m) cs
      else deliver m n h cs
    else deliver m n h cs

/-- One event; an error is the runtime panic it would raise. -/
def step (marshal : StatusUpdate → Option String) (h : Hub) : HubEvent → Except String Hub
  | .connect c =>
    .ok { h with clients := if c ∈ h.clients then h.clients else h.clients ++ [c],
                 seen := h.seen ++ [c] }
  | .disconnect c =>
    if c ∈ h.clients then
      if c ∈ h.closed then .error "close of closed channel"
      else .ok { h with clients := h.clients.erase c, closed := h.closed ++ [c] }
    else .ok h
  | .subscribe c f => .ok { h with filters := Function.update h.filters c (some f) }
  | .unsubscribe c => .ok { h with filters := Function.update h.filters c none }
  | .publish u =>
    .ok (if h.pending.length < bufferSize then { h with pending := h.pending ++ [u] } else h)
  | .dispatch =>
    match h.pending with
    | [] => .ok h
    | u :: rest =>
      match marshal u with
      | none => .ok { h with pending := rest }
      | some m => deliver m u.notification { h with pending := rest } h.clients
  | .drain c =>
    .ok { h with buffers := Function.update h.buffers c (h.buffers c).tail }

/-- Run a sequence of events, stopping at a panic. -/
def run (marshal : StatusUpdate → Option String) : Hub → List HubEvent → Except String Hub
  | h, [] => .ok h
  | h, e :: es => (h.step marshal e).bind (run marshal · es)

end Hub

/-! ## What the hub is for -/

/-- The status bus the hub implements: which clients are registered and with what filter, the
updates waiting to be taken, how many messages each client's buffer holds, and every message
each client has been given. -/
structure Bus where
  registered : Nat → Bool
  filters : Nat → Option ClientFilter
  waiting : List StatusUpdate
  held : Nat → Nat
  given : Nat → List String

/-- No client, nothing waiting. -/
def Bus.init : Bus := ⟨fun _ => false, fun _ => none, [], fun _ => 0, fun _ => []⟩

/-- Client `c` gets update `u` when it is taken: it is registered, its filter accepts the
notification, and its buffer holds fewer than 256 messages. -/
def Bus.gets (b : Bus) (c : Nat) (u : StatusUpdate) : Bool :=
  b.registered c && shouldReceive (b.filters c) u.notification && decide (b.held c < bufferSize)

/-- One event on the bus: a taken update that encodes to `m` goes to every client that gets
it, all at once. -/
def Bus.step (marshal : StatusUpdate → Option String) (b : Bus) : HubEvent → Bus
  | .connect c => { b with registered := Function.update b.registered c true }
  | .disconnect c => { b with registered := Function.update b.registered c false }
  | .subscribe c f => { b with filters := Function.update b.filters c (some f) }
  | .unsubscribe c => { b with filters := Function.update b.filters c none }
  | .publish u => if b.waiting.length < bufferSize then { b with waiting := b.waiting ++ [u] } else b
  | .dispatch =>
    match b.waiting with
    | [] => b
    | u :: rest =>
      match marshal u with
      | none => { b with waiting := rest }
      | some m =>
        { b with
          waiting := rest
          held := fun c => if b.gets c u then b.held c + 1 else b.held c
          given := fun c => if b.gets c u then b.given c ++ [m] else b.given c }
  | .drain c => { b with held := Function.update b.held c (b.held c - 1) }

/-- The bus after a sequence of events. -/
def Bus.run (marshal : StatusUpdate → Option String) (b : Bus) (es : List HubEvent) : Bus :=
  es.foldl (Bus.step marshal) b

/-- The hub's invariant: each registered client once, with an open channel, and seen. -/
structure HubInv (h : Hub) : Prop where
  nodup : h.clients.Nodup
  open_ : ∀ c ∈ h.clients, c ∉ h.closed
  clients_seen : ∀ c ∈ h.clients, c ∈ h.seen
  closed_seen : ∀ c ∈ h.closed, c ∈ h.seen

theorem hubInv_init : HubInv Hub.init := ⟨List.nodup_nil, by simp [Hub.init],
  by simp [Hub.init], by simp [Hub.init]⟩

/-- The hub implements the bus: its registered clients are the bus's, with the same filters
and waiting updates, each buffer holds as many messages as the bus counts, and every message
placed in a buffer is one the bus gave that client. -/
structure Simulates (h : Hub) (b : Bus) : Prop where
  clients : ∀ c, c ∈ h.clients ↔ b.registered c = true
  filters : h.filters = b.filters
  waiting : h.pending = b.waiting
  held : ∀ c, (h.buffers c).length = b.held c
  given : ∀ c, h.placed c = b.given c

theorem simulates_init : Simulates Hub.init Bus.init :=
  ⟨fun _ => by simp [Hub.init, Bus.init], rfl, rfl, fun _ => rfl, fun _ => rfl⟩

/-- The hub's test for a client at a dispatch is the bus's `gets`. -/
theorem Simulates.gets {h : Hub} {b : Bus} (hsim : Simulates h b) (c : Nat) (u : StatusUpdate) :
    (c ∈ h.clients ∧ shouldReceive (h.filters c) u.notification ∧
      (h.buffers c).length < bufferSize) ↔ b.gets c u = true := by
  simp [Bus.gets, hsim.clients c, hsim.filters, hsim.held c, and_assoc]

@[simp] theorem Hub.push_clients (h : Hub) (c : Nat) (m : String) : (h.push c m).clients = h.clients := rfl
@[simp] theorem Hub.push_closed (h : Hub) (c : Nat) (m : String) : (h.push c m).closed = h.closed := rfl
@[simp] theorem Hub.push_seen (h : Hub) (c : Nat) (m : String) : (h.push c m).seen = h.seen := rfl
@[simp] theorem Hub.push_filters (h : Hub) (c : Nat) (m : String) : (h.push c m).filters = h.filters := rfl
@[simp] theorem Hub.push_pending (h : Hub) (c : Nat) (m : String) : (h.push c m).pending = h.pending := rfl

/-- **The delivery loop.** Over a duplicate-free list of open clients, the loop does not
panic, changes nothing but buffers, and gives each client `d` the message once exactly when
`d` is in the list, its filter accepts the notification and its buffer has room. -/
theorem deliver_spec (m : String) (n : Notification) :
    ∀ (cs : List Nat) (h : Hub), cs.Nodup → (∀ c ∈ cs, c ∉ h.closed) →
      ∃ h', Hub.deliver m n h cs = .ok h' ∧ h'.clients = h.clients ∧ h'.closed = h.closed ∧
        h'.seen = h.seen ∧ h'.filters = h.filters ∧ h'.pending = h.pending ∧
        ∀ d, let got :=
            if d ∈ cs ∧ shouldReceive (h.filters d) n ∧ (h.buffers d).length < bufferSize
            then [m] else []
          h'.buffers d = h.buffers d ++ got ∧ h'.placed d = h.placed d ++ got
  | [], h, _, _ => ⟨h, rfl, rfl, rfl, rfl, rfl, rfl, by simp⟩
  | c :: cs, h, hnd, hopen => by
    rw [List.nodup_cons] at hnd
    -- the loop goes on over `cs` from `h₁`: `h` with the message pushed to `c` if `c` gets it
    let h₁ := if shouldReceive (h.filters c) n ∧ (h.buffers c).length < bufferSize
      then h.push c m else h
    have hstep : Hub.deliver m n h (c :: cs) = Hub.deliver m n h₁ cs := by
      simp only [Hub.deliver, hopen c (List.mem_cons_self _ _), if_false, h₁]
      split_ifs <;> simp_all
    have hframe : h₁.clients = h.clients ∧ h₁.closed = h.closed ∧ h₁.seen = h.seen ∧
        h₁.filters = h.filters ∧ h₁.pending = h.pending := by
      simp only [h₁]; split <;> simp
    obtain ⟨h', hrun, h1, h2, h3, h4, h5, h6⟩ := deliver_spec m n cs h₁ hnd.2
      fun d hd => hframe.2.1 ▸ hopen d (List.mem_cons_of_mem _ hd)
    refine ⟨h', hstep ▸ hrun, h1.trans hframe.1, h2.trans hframe.2.1, h3.trans hframe.2.2.1,
      h4.trans hframe.2.2.2.1, h5.trans hframe.2.2.2.2, fun d => ?_⟩
    have hd := h6 d
    by_cases hdc : d = c
    · subst hdc
      by_cases hget : shouldReceive (h.filters d) n ∧ (h.buffers d).length < bufferSize <;>
        simp_all [h₁, Hub.push]
    · by_cases hget : shouldReceive (h.filters c) n ∧ (h.buffers c).length < bufferSize <;>
        simp_all [h₁, Hub.push, Function.update_noteq hdc]

/-- An event that leaves the registered and closed clients and `seen` alone keeps `HubInv`. -/
theorem HubInv.of_frame {h h' : Hub} (hinv : HubInv h) (hc : h'.clients = h.clients)
    (hcl : h'.closed = h.closed) (hs : h'.seen = h.seen) : HubInv h' :=
  ⟨hc ▸ hinv.1, hc ▸ hcl ▸ hinv.2, hc ▸ hs ▸ hinv.3, hcl ▸ hs ▸ hinv.4⟩

section Events

variable (marshal : StatusUpdate → Option String) {h : Hub} {b : Bus}

/-- A `connect` of a client never seen registers it once, with an open channel. -/
theorem hub_connect_sound (hinv : HubInv h) (hsim : Simulates h b) {c : Nat} (hc : c ∉ h.seen) :
    ∃ h', h.step marshal (.connect c) = .ok h' ∧ HubInv h' ∧
      Simulates h' (b.step marshal (.connect c)) ∧ h'.seen = h.seen ++ [c] := by
  have hcl : c ∉ h.clients := fun h' => hc (hinv.clients_seen c h')
  refine ⟨_, rfl, ⟨?_, ?_, ?_, ?_⟩, ⟨fun d => ?_, hsim.2, hsim.3, hsim.4, hsim.5⟩, rfl⟩ <;>
    simp only [hcl, if_false]
  · exact List.nodup_append.2 ⟨hinv.nodup, List.nodup_singleton c, List.disjoint_singleton.2 hcl⟩
  · intro d hd
    rcases List.mem_append.1 hd with hd | hd
    · exact hinv.open_ d hd
    · rw [List.mem_singleton.1 hd]; exact fun h' => hc (hinv.closed_seen c h')
  · intro d hd
    rcases List.mem_append.1 hd with hd | hd
    · exact List.mem_append_left _ (hinv.clients_seen d hd)
    · exact List.mem_append_right _ hd
  · exact fun d hd => List.mem_append_left _ (hinv.closed_seen d hd)
  · by_cases hdc : d = c
    · subst hdc; simp [Bus.step]
    · simp [Bus.step, Function.update_noteq hdc, hdc, hsim.clients d]

/-- A `disconnect` closes a registered client's channel, once; of any other client it does
nothing. -/
theorem hub_disconnect_sound (hinv : HubInv h) (hsim : Simulates h b) (c : Nat) :
    ∃ h', h.step marshal (.disconnect c) = .ok h' ∧ HubInv h' ∧
      Simulates h' (b.step marshal (.disconnect c)) ∧ h'.seen = h.seen := by
  simp only [Hub.step]
  split
  · rename_i hc
    simp only [hinv.open_ c hc, if_false]
    refine ⟨_, rfl, ⟨hinv.nodup.erase c, fun d hd => ?_, fun d hd => hinv.clients_seen d
      (List.mem_of_mem_erase hd), fun d hd => ?_⟩, ⟨fun d => ?_, hsim.2, hsim.3, hsim.4, hsim.5⟩,
      rfl⟩
    · simp only [List.mem_append, List.mem_singleton, not_or]
      exact ⟨hinv.open_ d (List.mem_of_mem_erase hd),
        fun hdc => (hinv.nodup.mem_erase_iff.1 hd).1 hdc⟩
    · rcases List.mem_append.1 hd with hd | hd
      · exact hinv.closed_seen d hd
      · rw [List.mem_singleton.1 hd]; exact hinv.clients_seen c hc
    · by_cases hdc : d = c
      · subst hdc; simp [Bus.step, hinv.nodup.mem_erase_iff]
      · simp [Bus.step, Function.update_noteq hdc, hinv.nodup.mem_erase_iff, hdc, hsim.clients d]
  · rename_i hc
    refine ⟨h, rfl, hinv, ⟨fun d => ?_, hsim.2, hsim.3, hsim.4, hsim.5⟩, rfl⟩
    by_cases hdc : d = c
    · subst hdc; simp [Bus.step, hc]
    · simp [Bus.step, Function.update_noteq hdc, hsim.clients d]

/-- A `dispatch` takes the oldest update and, through the delivery loop, gives each client the
message exactly when the bus does. -/
theorem hub_dispatch_sound (hinv : HubInv h) (hsim : Simulates h b) :
    ∃ h', h.step marshal .dispatch = .ok h' ∧ HubInv h' ∧
      Simulates h' (b.step marshal .dispatch) ∧ h'.seen = h.seen := by
  simp only [Hub.step, Bus.step, ← hsim.waiting]
  rcases h.pending with _ | ⟨u, rest⟩
  · exact ⟨h, rfl, hinv, hsim, rfl⟩
  dsimp only
  rcases marshal u with _ | m
  · exact ⟨_, rfl, hinv.of_frame rfl rfl rfl, ⟨hsim.1, hsim.2, rfl, hsim.4, hsim.5⟩, rfl⟩
  obtain ⟨h', hrun, h1, h2, h3, h4, h5, h6⟩ :=
    deliver_spec m u.notification h.clients { h with pending := rest } hinv.nodup hinv.open_
  refine ⟨h', hrun, hinv.of_frame h1 h2 h3,
    ⟨fun d => h1 ▸ hsim.1 d, h4.trans hsim.2, h5, fun d => ?_, fun d => ?_⟩, h3⟩ <;>
    dsimp only
  · rw [(h6 d).1, List.length_append]
    by_cases hg : b.gets d u = true
    · rw [if_pos ((hsim.gets d u).2 hg), if_pos hg, hsim.held d]; rfl
    · rw [if_neg (mt (hsim.gets d u).1 hg), if_neg hg, hsim.held d]; rfl
  · rw [(h6 d).2, hsim.given d]
    by_cases hg : b.gets d u = true
    · rw [if_pos ((hsim.gets d u).2 hg), if_pos hg]
    · rw [if_neg (mt (hsim.gets d u).1 hg), if_neg hg, List.append_nil]

/-- **One event.** From a state satisfying `HubInv` and implementing a bus state, an event that
registers no client a second time does not panic, keeps `HubInv`, adds to `seen` only the
client it connects, and the hub after it implements the bus after it. -/
theorem hub_step_sound (hinv : HubInv h) (hsim : Simulates h b) (e : HubEvent)
    (hfresh : ∀ c, e.connected = some c → c ∉ h.seen) :
    ∃ h', h.step marshal e = .ok h' ∧ HubInv h' ∧ Simulates h' (b.step marshal e) ∧
      h'.seen = h.seen ++ e.connected.toList := by
  cases e with
  | connect c => exact hub_connect_sound marshal hinv hsim (hfresh c rfl)
  | disconnect c =>
    simpa only [HubEvent.connected, Option.toList, List.append_nil] using
      hub_disconnect_sound marshal hinv hsim c
  | dispatch =>
    simpa only [HubEvent.connected, Option.toList, List.append_nil] using
      hub_dispatch_sound marshal hinv hsim
  | subscribe c f =>
    exact ⟨_, rfl, hinv.of_frame rfl rfl rfl,
      ⟨hsim.1, by simp [Bus.step, hsim.2], hsim.3, hsim.4, hsim.5⟩, by simp [HubEvent.connected]⟩
  | unsubscribe c =>
    exact ⟨_, rfl, hinv.of_frame rfl rfl rfl,
      ⟨hsim.1, by simp [Bus.step, hsim.2], hsim.3, hsim.4, hsim.5⟩, by simp [HubEvent.connected]⟩
  | publish u =>
    refine ⟨_, rfl, hinv.of_frame (by split <;> rfl) (by split <;> rfl) (by split <;> rfl), ?_,
      by simp only [HubEvent.connected]; split <;> simp⟩
    simp only [Hub.step, Bus.step, hsim.waiting]
    split
    · exact ⟨hsim.1, hsim.2, by simp [hsim.waiting], hsim.4, hsim.5⟩
    · exact hsim
  | drain c =>
    refine ⟨_, rfl, hinv.of_frame rfl rfl rfl,
      ⟨hsim.1, hsim.2, hsim.3, fun d => ?_, hsim.5⟩, by simp [HubEvent.connected]⟩
    by_cases hdc : d = c
    · subst hdc; simp [Bus.step, hsim.held]
    · simp [Bus.step, Function.update_noteq hdc, hsim.held]

end Events

/-- A run from a state satisfying `HubInv` and implementing a bus state, in which each client
connects at most once and none that was seen before, does not panic and ends implementing the
bus after the same events. -/
theorem hub_run_sound_from (marshal : StatusUpdate → Option String) :
    ∀ (es : List HubEvent) (h : Hub) (b : Bus), HubInv h → Simulates h b →
      (es.filterMap HubEvent.connected).Nodup →
      (∀ c ∈ es.filterMap HubEvent.connected, c ∉ h.seen) →
      ∃ h', h.run marshal es = .ok h' ∧ Simulates h' (b.run marshal es)
  | [], h, _, _, hsim, _, _ => ⟨h, rfl, hsim⟩
  | e :: es, h, b, hinv, hsim, hnd, hfresh => by
    obtain ⟨h₁, hstep, hinv₁, hsim₁, hseen⟩ := hub_step_sound marshal hinv hsim e
      (fun c hc => hfresh c (by simp [List.filterMap_cons, hc]))
    have hconn : (e :: es).filterMap HubEvent.connected =
        e.connected.toList ++ es.filterMap HubEvent.connected := by
      rw [List.filterMap_cons]; cases e.connected <;> rfl
    rw [hconn] at hnd hfresh
    have hfresh' : ∀ c ∈ es.filterMap HubEvent.connected, c ∉ h₁.seen := by
      intro c hc hc₁
      rw [hseen, List.mem_append] at hc₁
      exact hc₁.elim (hfresh c (List.mem_append_right _ hc))
        fun he => List.disjoint_of_nodup_append hnd he hc
    obtain ⟨h', hrun, hsim'⟩ :=
      hub_run_sound_from marshal es h₁ (b.step marshal e) hinv₁ hsim₁
        (List.Nodup.of_append_right hnd) hfresh'
    exact ⟨h', by simp only [Hub.run, hstep]; exact hrun, hsim'⟩

/-- **The hub never panics, and each buffer gets exactly what the bus gives, in order.** Over
every run from the initial hub in which each client connects at most once (`HandleWebSocket`
makes a new client per connection), `Run` never sends on or closes a closed `send` channel, and
the messages placed in each client's buffer are exactly those `Bus` gives it: the encodings of
the updates taken from the `broadcast` channel while the client was registered, accepted by
`shouldReceive` under its filter at that moment and finding its buffer under 256 messages, in
the order taken. -/
theorem hub_run_sound (marshal : StatusUpdate → Option String) (es : List HubEvent)
    (hes : (es.filterMap HubEvent.connected).Nodup) :
    ∃ h, Hub.init.run marshal es = .ok h ∧
      ∀ c, h.placed c = (Bus.init.run marshal es).given c := by
  obtain ⟨h, hrun, hsim⟩ :=
    hub_run_sound_from marshal es Hub.init Bus.init hubInv_init simulates_init hes
      (by simp [Hub.init])
  exact ⟨h, hrun, hsim.given⟩

/-- Two clients connect, one notification is published and dispatched. -/
theorem hub_run_sound_two_clients :
    (([.connect 0, .connect 1, .publish ⟨.newNotification 7 "r" .sms "hello" 0, 0⟩, .dispatch] :
      List HubEvent).filterMap HubEvent.connected).Nodup ∧
    ∃ h, Hub.init.run (fun u => some u.notification.content)
        [.connect 0, .connect 1, .publish ⟨.newNotification 7 "r" .sms "hello" 0, 0⟩, .dispatch] =
          .ok h ∧
      ∀ c, h.placed c = (Bus.init.run (fun u => some u.notification.content)
        [.connect 0, .connect 1, .publish ⟨.newNotification 7 "r" .sms "hello" 0, 0⟩,
          .dispatch]).given c :=
  ⟨by decide, hub_run_sound _ _ (by decide)⟩

end NotificationService
