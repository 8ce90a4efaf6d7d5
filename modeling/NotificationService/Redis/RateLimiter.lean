import Mathlib.Data.List.Perm.Subperm
import NotificationService.Domain.Notification
import NotificationService.Go.Numeric
import NotificationService.Redis.SortedSet

/-! # The sliding-window rate limiter

`RateLimiter.Allow` (`internal/repository/redis/ratelimiter.go`) keeps, per channel, a sorted
set of markers under `ratelimit:<channel>`: it reads the clock, evicts the markers scored from
0 to `now − 1s` and counts the rest in one pipeline, and, when the count is under
`limitPerSec`, adds a marker with score `float64(now)` and member `"%d" now` with a second
round trip.

A go-redis pipeline is not a `MULTI` transaction, so each of the three commands is an atomic
server step of its own, and the calls of concurrent workers interleave between them. The model
gives each caller a program counter (`AllowPc`) and lets any caller take its next step
(`Limiter.step`). A marker's member is the decimal text of the reading, which the model keeps
as the reading itself. Scores are doubles: the marker's is `float64(now)`, and Redis parses the
decimal bound `now − 1s` of the eviction to the nearest double, so both are `roundToFloat64` of
the reading. The key's two-second expiry only removes markers older than any window and is left
out, and so are the error returns, which admit nothing.

* **`allow_race_admits_two`** — the interleaving in which two callers both count zero markers
  against a limit of one and both add theirs.
* **`Limiter.allowAlone`**, **`Limiter.runCalls`** — calls that do not overlap: each call's
  steps run with no other caller stepping in.
* **`serial_allow_within_limit`** — such calls, with strictly increasing readings, never put
  more than `limitPerSec` admitted calls of a channel in one window shorter than a second by the
  1024 ns the two roundings to doubles can take off it. The readings must differ: calls in one
  nanosecond share one marker, and all of them are admitted (the example after it). -/

namespace NotificationService

/-- `rateLimitWindow`, one second in nanoseconds. -/
def rateLimitWindow : Int := 1000000000

/-- The key of a channel's markers (`rateLimitKey`). -/
def rateLimitKey (c : Channel) : String := "ratelimit:" ++ c.text

/-- Where one caller of `Allow` is. -/
inductive AllowPc
  /-- Not inside `Allow`. -/
  | idle
  /-- The clock was read; next is `ZREMRANGEBYSCORE key 0 (now − 1s)`. -/
  | evict (c : Channel) (now : Int)
  /-- Next is `ZCARD key`. -/
  | count (c : Channel) (now : Int)
  /-- The count was under the limit; next is `ZADD key now "now"`. -/
  | add (c : Channel) (now : Int)
  deriving DecidableEq, Repr

/-- The limiter's Redis keys, the last clock reading, every caller's position, and the channel
and reading of each call that returned `true`, which no step reads. -/
structure Limiter where
  sets : String → ZSet Int
  clock : Int
  callers : Nat → AllowPc
  admitted : List (Channel × Int)

/-- No markers, no caller inside `Allow`, the clock at `t₀`. -/
def Limiter.init (t₀ : Int) : Limiter := ⟨fun _ => [], t₀, fun _ => .idle, []⟩

/-- A step of one caller. -/
inductive LimiterAct
  /-- Caller `i` enters `Allow` for channel `c` and reads `now` off the clock. -/
  | start (i : Nat) (c : Channel) (now : Int)
  /-- Caller `i` sends its next command. -/
  | next (i : Nat)
  deriving DecidableEq, Repr

namespace Limiter

/-- Set caller `i`'s position. -/
def setCaller (s : Limiter) (i : Nat) (pc : AllowPc) : Limiter :=
  { s with callers := Function.update s.callers i pc }

/-- One step; `none` when the step is not enabled (caller busy, clock going back). -/
def step (limitPerSec : Nat) (s : Limiter) : LimiterAct → Option Limiter
  | .start i c now =>
    if s.callers i = .idle ∧ s.clock ≤ now then some { s.setCaller i (.evict c now) with clock := now }
    else none
  | .next i =>
    match s.callers i with
    | .idle => none
    | .evict c now =>
      let key := rateLimitKey c
      some { s.setCaller i (.count c now) with
        sets := Function.update s.sets key
          ((s.sets key).removeRangeByScore 0 (roundToFloat64 (now - rateLimitWindow))) }
    | .count c now =>
      if (s.sets (rateLimitKey c)).card ≥ limitPerSec then some (s.setCaller i .idle)
      else some (s.setCaller i (.add c now))
    | .add c now =>
      let key := rateLimitKey c
      some { s.setCaller i .idle with
        sets := Function.update s.sets key ((s.sets key).add (roundToFloat64 now) now)
        admitted := s.admitted ++ [(c, now)] }

/-- Run a schedule of steps; `none` if one of them is not enabled. -/
def run (limitPerSec : Nat) : Limiter → List LimiterAct → Option Limiter
  | s, [] => some s
  | s, a :: as => (s.step limitPerSec a).bind (run limitPerSec · as)

end Limiter

/-- The calls admitted for channel `c` whose reading lies in the window `(t − w, t]`. -/
def admittedWithin (s : Limiter) (c : Channel) (w t : Int) : Nat :=
  (s.admitted.filter fun a => a.1 = c ∧ t - w < a.2 ∧ a.2 ≤ t).length

/-- The calls admitted for channel `c` whose reading lies in the window `(t − 1s, t]`. -/
def admittedIn (s : Limiter) (c : Channel) (t : Int) : Nat := admittedWithin s c rateLimitWindow t

/-- Two callers interleave on `sms`: both read the clock (10 ns, then 11 ns), both evict and
count zero markers, then both add theirs. -/
def allowRace : List LimiterAct :=
  [.start 0 .sms 10, .start 1 .sms 11, .next 0, .next 1, .next 0, .next 1, .next 0, .next 1]

/-- **The check-then-insert race.** With `limitPerSec = 1`, the interleaving `allowRace`
admits both calls, and both readings lie in the one-second window ending at 11 ns. -/
theorem allow_race_admits_two :
    ((Limiter.init 0).run 1 allowRace).map (admittedIn · .sms 11) = some 2 := by
  decide


/-! ## Calls that do not overlap

When no two calls interleave, the window check holds: a call admitted in a window ending at `t`
left a marker that every later call within that window counts. The marker's member is its
reading, so this needs distinct readings. Its score and the eviction bound are rounded to
doubles, each by at most 512 ns within the `int64` range, so a marker is counted for sure only
while its reading is more than 1024 ns inside the window. -/

namespace Limiter

/-- One `Allow` call by caller `i` on channel `c` at reading `now` with no other caller stepping
in: the clock read, the eviction, the count, and the add when the count was under the limit. -/
def allowAlone (L : Nat) (s : Limiter) (i : Nat) (c : Channel) (now : Int) : Option Limiter :=
  (s.run L [.start i c now, .next i, .next i]).bind fun s' =>
    match s'.callers i with
    | .add .. => s'.step L (.next i)
    | _ => some s'

/-- Non-overlapping `Allow` calls `(caller, channel, reading)`, one after the other. -/
def runCalls (L : Nat) : Limiter → List (Nat × Channel × Int) → Option Limiter
  | s, [] => some s
  | s, (i, c, now) :: calls => (s.allowAlone L i c now).bind (runCalls L · calls)

/-- The markers of channel `c` that a call at reading `now` counts, after its eviction. -/
def evicted (s : Limiter) (c : Channel) (now : Int) : ZSet Int :=
  (s.sets (rateLimitKey c)).removeRangeByScore 0 (roundToFloat64 (now - rateLimitWindow))

/-- **What a call served alone does.** It evicts the channel's markers up to `now − 1s`; when
fewer than `L` remain it adds the marker `now` and admits the call, else it admits nothing. The
caller ends idle and the clock at `now`. -/
theorem allowAlone_spec {L : Nat} {s s' : Limiter} {i : Nat} {c : Channel} {now : Int}
    (h : s.allowAlone L i c now = some s') :
    s.callers i = .idle ∧ s.clock ≤ now ∧ s'.clock = now ∧ s'.callers = s.callers ∧
      ((s.evicted c now).card < L ∧
        s'.sets = Function.update s.sets (rateLimitKey c)
          ((s.evicted c now).add (roundToFloat64 now) now) ∧
        s'.admitted = s.admitted ++ [(c, now)] ∨
      L ≤ (s.evicted c now).card ∧
        s'.sets = Function.update s.sets (rateLimitKey c) (s.evicted c now) ∧
        s'.admitted = s.admitted) := by
  unfold allowAlone at h
  simp only [run, step] at h
  split at h
  · obtain ⟨hidle, hle⟩ := ‹_ ∧ _›
    simp only [setCaller, Function.update_same, Option.some_bind] at h
    split at h
    · rename_i hL
      simp only [Option.some_bind, Function.update_same] at h
      cases h
      exact ⟨hidle, hle, rfl, by simp [Function.update_idem, hidle], .inr ⟨hL, rfl, rfl⟩⟩
    · rename_i hL
      simp only [Option.some_bind, Function.update_same] at h
      cases h
      exact ⟨hidle, hle, rfl, by simp [Function.update_idem, hidle],
        .inl ⟨by simpa [evicted] using hL, by simp [evicted, Function.update_idem], rfl⟩⟩
  · simp at h

end Limiter

theorem rateLimitKey_injective : Function.Injective rateLimitKey := by
  intro a b h
  cases a <;> cases b <;> first | rfl | exact absurd h (by decide)


/-- What non-overlapping calls keep: a marker's score is its member as a double; the admitted
readings are distinct, not after the clock, and in the range where `now − 1s` is an `int64`; an
admitted reading more than `1s − 1024ns` before the clock is a marker of its channel; and no
window of `1s − 1024ns` holds more than `L` admitted calls of a channel. -/
structure SerialInv (L : Nat) (s : Limiter) : Prop where
  score : ∀ k, ∀ e ∈ s.sets k, e.1 = roundToFloat64 e.2
  distinct : (s.admitted.map (·.2)).Nodup
  past : ∀ a ∈ s.admitted, a.2 ≤ s.clock
  range : ∀ a ∈ s.admitted, rateLimitWindow - 2 ^ 63 < a.2 ∧ a.2 < 2 ^ 63
  marked : ∀ a ∈ s.admitted, s.clock - rateLimitWindow + 1024 < a.2 →
    a.2 ∈ ZSet.members (s.sets (rateLimitKey a.1))
  window : ∀ c t, admittedWithin s c (rateLimitWindow - 1024) t ≤ L

theorem serialInv_init (L : Nat) (t₀ : Int) : SerialInv L (Limiter.init t₀) :=
  ⟨(fun _ _ he => by cases he), List.nodup_nil, nofun, nofun, nofun, fun _ _ => Nat.zero_le _⟩

/-- A marker of channel `c` more than `1s − 1024ns` before `now` survives the eviction of a call
at `now`: the two roundings move the marker's score and the bound by at most 512 each. -/
theorem SerialInv.mem_evicted {L : Nat} {s : Limiter} (hi : SerialInv L s) {c : Channel}
    {now a : Int} (ha : a ∈ ZSet.members (s.sets (rateLimitKey c)))
    (hnow : rateLimitWindow - 2 ^ 63 < now ∧ now < 2 ^ 63)
    (hra : rateLimitWindow - 2 ^ 63 < a ∧ a < 2 ^ 63) (hlt : now - rateLimitWindow + 1024 < a) :
    a ∈ ZSet.members (s.evicted c now) := by
  obtain ⟨sc, hsc⟩ := ZSet.mem_members.1 ha
  have hsa : sc = roundToFloat64 a := hi.score _ _ hsc
  have hW : rateLimitWindow = 1000000000 := rfl
  have h₁ := roundToFloat64_near (by omega : -2 ^ 63 < a) hra.2
  have h₂ := roundToFloat64_near (by omega : -2 ^ 63 < now - rateLimitWindow)
    (by omega : now - rateLimitWindow < 2 ^ 63)
  exact ZSet.mem_members.2 ⟨sc, List.mem_filter.2 ⟨hsc, by simp; omega⟩⟩

/-- The admitted calls of channel `c` in a window of `1s − 1024ns` that ends at or after a call
at `now` are markers that call counts, so there are at most as many as its count. -/
theorem SerialInv.admittedWithin_le_card {L : Nat} {s : Limiter} (hi : SerialInv L s)
    {c : Channel} {now t : Int} (hle : s.clock ≤ now) (hnow : now ≤ t)
    (hr : rateLimitWindow - 2 ^ 63 < now ∧ now < 2 ^ 63) :
    admittedWithin s c (rateLimitWindow - 1024) t ≤ (s.evicted c now).card := by
  let P : Channel × Int → Bool :=
    fun a => a.1 = c ∧ t - (rateLimitWindow - 1024) < a.2 ∧ a.2 ≤ t
  have hnd : ((s.admitted.filter P).map (·.2)).Nodup :=
    ((List.filter_sublist _).map _).nodup hi.distinct
  have hsub : (s.admitted.filter P).map (·.2) ⊆ ZSet.members (s.evicted c now) := by
    intro a ha
    obtain ⟨x, hx, rfl⟩ := List.mem_map.1 ha
    obtain ⟨hxa, hP⟩ := List.mem_filter.1 hx
    simp only [P, decide_eq_true_eq] at hP
    obtain ⟨rfl, hlo, -⟩ := hP
    exact hi.mem_evicted (hi.marked x hxa (by omega)) hr (hi.range x hxa) (by omega)
  calc admittedWithin s c (rateLimitWindow - 1024) t
      = ((s.admitted.filter P).map (·.2)).length := by simp [admittedWithin, P]
    _ ≤ (ZSet.members (s.evicted c now)).length := (hnd.subperm hsub).length_le
    _ = (s.evicted c now).card := by simp [ZSet.members, ZSet.card]

/-- **One call served alone keeps the invariant**, if its reading is in range and after every
reading admitted so far. When it admits, the calls it adds to a window that holds it are those
it counted, fewer than `L`, and itself. -/
theorem SerialInv.allowAlone {L : Nat} {s s' : Limiter} {i : Nat} {c : Channel} {now : Int}
    (hi : SerialInv L s) (h : s.allowAlone L i c now = some s')
    (hr : rateLimitWindow - 2 ^ 63 < now ∧ now < 2 ^ 63)
    (hnew : ∀ a ∈ s.admitted, a.2 < now) : SerialInv L s' := by
  obtain ⟨-, hle, hclock, -, hcase⟩ := Limiter.allowAlone_spec h
  -- either way the channel's set becomes the evicted one, perhaps with the marker `now`
  obtain ⟨X, hsets, hXe, hXm⟩ : ∃ X, s'.sets = Function.update s.sets (rateLimitKey c) X ∧
      (∀ e ∈ X, e ∈ s.evicted c now ∨ e = (roundToFloat64 now, now)) ∧
      ∀ a ∈ ZSet.members (s.evicted c now), a ∈ ZSet.members X := by
    rcases hcase with ⟨-, hsets, -⟩ | ⟨-, hsets, -⟩
    exacts [⟨_, hsets, fun _ => ZSet.mem_add_entry, fun _ ha => ZSet.mem_add.2 (.inr ha)⟩,
      ⟨_, hsets, fun _ => .inl, fun _ => id⟩]
  have hscore : ∀ k, ∀ e ∈ s'.sets k, e.1 = roundToFloat64 e.2 := by
    intro k e he
    rw [hsets] at he
    by_cases hk : k = rateLimitKey c
    · subst hk
      rw [Function.update_same] at he
      rcases hXe e he with he | rfl
      exacts [hi.score _ e (List.mem_filter.1 he).1, rfl]
    · exact hi.score k e (by rwa [Function.update_noteq hk] at he)
  -- an earlier admitted call more than a window before `now` keeps its marker
  have hmarked : ∀ a ∈ s.admitted, now - rateLimitWindow + 1024 < a.2 →
      a.2 ∈ ZSet.members (s'.sets (rateLimitKey a.1)) := by
    intro a ha hlt
    rw [hsets]
    by_cases hk : a.1 = c
    · rw [hk, Function.update_same]
      exact hXm _ (hi.mem_evicted (hk ▸ hi.marked a ha (by omega)) hr (hi.range a ha) hlt)
    · rw [Function.update_noteq fun e => hk (rateLimitKey_injective e)]
      exact hi.marked a ha (by omega)
  -- an admitted call is an earlier one, or this one with its marker
  have hadm : ∀ a ∈ s'.admitted, a ∈ s.admitted ∨
      a = (c, now) ∧ now ∈ ZSet.members (s'.sets (rateLimitKey c)) := by
    rcases hcase with ⟨-, hsets₁, hadm⟩ | ⟨-, -, hadm⟩ <;> intro a ha <;> rw [hadm] at ha
    · rcases List.mem_append.1 ha with ha | ha
      exacts [.inl ha, .inr ⟨List.mem_singleton.1 ha, by simp [hsets₁, ZSet.mem_add]⟩]
    · exact .inl ha
  refine ⟨hscore, ?_, fun a ha => ?_, fun a ha => ?_, fun a ha hlt => ?_, fun c' t => ?_⟩
  · rcases hcase with ⟨-, -, hadm⟩ | ⟨-, -, hadm⟩ <;> rw [hadm]
    · rw [List.map_append, List.nodup_append]
      exact ⟨hi.distinct, List.nodup_singleton _, by
        simpa [List.disjoint_singleton] using fun a ha => lt_irrefl _ (hnew (a, now) ha)⟩
    · exact hi.distinct
  · rcases hadm a ha with ha | ⟨rfl, -⟩
    exacts [hclock ▸ (hi.past a ha).trans hle, hclock.ge]
  · rcases hadm a ha with ha | ⟨rfl, -⟩
    exacts [hi.range a ha, hr]
  · rw [hclock] at hlt
    rcases hadm a ha with ha | ⟨rfl, hm⟩
    exacts [hmarked a ha hlt, hm]
  -- a window gains this call only if it holds `now`; the calls it had there were counted
  · rcases hcase with ⟨hL, -, hadm⟩ | ⟨-, -, hadm⟩
    · have hcount : admittedWithin s' c' (rateLimitWindow - 1024) t =
          admittedWithin s c' (rateLimitWindow - 1024) t +
            if c = c' ∧ t - (rateLimitWindow - 1024) < now ∧ now ≤ t then 1 else 0 := by
        simp only [admittedWithin, hadm, List.filter_append, List.length_append,
          List.filter_singleton, cond_eq_if, Bool.and_eq_true, decide_eq_true_eq]
        split_ifs <;> rfl
      split_ifs at hcount with hin
      · obtain ⟨rfl, -, hhi⟩ := hin
        have := hi.admittedWithin_le_card (c := c) hle hhi hr
        omega
      · have := hi.window c' t
        omega
    · simpa only [admittedWithin, hadm] using hi.window c' t

/-- Along non-overlapping calls with increasing readings in range the invariant holds
throughout. -/
theorem SerialInv.runCalls {L : Nat} : ∀ {s s' : Limiter} {calls : List (Nat × Channel × Int)},
    SerialInv L s → s.runCalls L calls = some s' → (calls.map (·.2.2)).Pairwise (· < ·) →
    (∀ x ∈ calls, rateLimitWindow - 2 ^ 63 < x.2.2 ∧ x.2.2 < 2 ^ 63) →
    (∀ x ∈ calls, ∀ a ∈ s.admitted, a.2 < x.2.2) → SerialInv L s'
  | _, _, [], hi, h, _, _, _ => by cases h; exact hi
  | s, _, (i, c, now) :: calls, hi, h, hinc, hrange, hlater => by
    simp only [Limiter.runCalls] at h
    cases hs : s.allowAlone L i c now with
    | none => rw [hs] at h; cases h
    | some s₁ =>
      rw [hs, Option.some_bind] at h
      have hi₁ := hi.allowAlone hs (hrange _ (List.mem_cons_self _ _))
        (hlater _ (List.mem_cons_self _ _))
      rw [List.map_cons, List.pairwise_cons] at hinc
      refine SerialInv.runCalls hi₁ h hinc.2 (fun x hx => hrange x (List.mem_cons_of_mem _ hx))
        fun x hx a ha => ?_
      have hpast := hi₁.past a ha
      rw [(Limiter.allowAlone_spec hs).2.2.1] at hpast
      have : now < x.2.2 := hinc.1 x.2.2 (List.mem_map_of_mem _ hx)
      omega

/-- **`Allow` calls that do not overlap stay within the limit.** With readings strictly
increasing and in the range where `now − 1s` is an `int64`, no window `(t − w, t]` with
`w = 1s − 1024ns` holds more than `limitPerSec` admitted calls of a channel. The 1024 ns are what
rounding the marker's score and the eviction bound to doubles can take off the second. -/
theorem serial_allow_within_limit {L : Nat} {t₀ : Int} {calls : List (Nat × Channel × Int)}
    {s : Limiter} (h : (Limiter.init t₀).runCalls L calls = some s)
    (hinc : (calls.map (·.2.2)).Pairwise (· < ·))
    (hrange : ∀ x ∈ calls, rateLimitWindow - 2 ^ 63 < x.2.2 ∧ x.2.2 < 2 ^ 63) (c : Channel)
    (t : Int) : admittedWithin s c (rateLimitWindow - 1024) t ≤ L :=
  ((serialInv_init L t₀).runCalls h hinc hrange fun _ _ _ ha => by cases ha).window c t

/-- With `limitPerSec = 2`, the third of three calls within one second is refused. -/
theorem serial_allow_refuses_third :
    ∃ s, (Limiter.init 0).runCalls 2 [(0, .sms, 10), (1, .sms, 11), (0, .sms, 12)] = some s ∧
      admittedIn s .sms 12 = 2 ∧ ∀ c t, admittedWithin s c (rateLimitWindow - 1024) t ≤ 2 := by
  cases h : (Limiter.init 0).runCalls 2 [(0, .sms, 10), (1, .sms, 11), (0, .sms, 12)] with
  | none =>
    have : ((Limiter.init 0).runCalls 2 [(0, .sms, 10), (1, .sms, 11), (0, .sms, 12)]).isSome :=
      by decide
    rw [h] at this
    cases this
  | some s =>
    have h2 : ((Limiter.init 0).runCalls 2 [(0, .sms, 10), (1, .sms, 11), (0, .sms, 12)]).map
        (admittedIn · .sms 12) = some 2 := by decide
    rw [h] at h2
    exact ⟨s, rfl, Option.some.inj h2, serial_allow_within_limit h (by decide) (by decide)⟩

/-- Readings must differ: a marker's member is its reading, so three calls in one nanosecond
write one marker, and with `limitPerSec = 2` all three are admitted although none overlaps
another. -/
example : ((Limiter.init 0).runCalls 2 [(0, .sms, 10), (1, .sms, 10), (0, .sms, 10)]).map
    (admittedIn · .sms 10) = some 3 := by
  decide

end NotificationService
