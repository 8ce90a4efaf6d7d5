import NotificationService.Invariants.Ownership
import NotificationService.Invariants.Table

/-! # Holding a notification

A worker holds a notification from the `Dequeue` that returned its token to the end of that
`processNext`, the backoff wait included (`WorkerPc.held`). The queue hands a token to one
worker only, since `ZPOPMIN` is atomic; whether a notification is then held by one worker only,
and whether a queued row always has a token or a holder, depends on how many tokens the rest of
the system creates and drops.

* **`HoldInv`**, **`workers_hold_exclusively`** — over runs in which every call of the sweep
  succeeds, tokens and holders are exclusive: at most one token per notification, none for
  a held one, and no notification held by two workers.

Two interleavings show where the rest of the system breaks the picture: a cancelled backoff
wait strands a queued row, and a failed sweep `Update` lets two workers hold one
notification. -/

namespace NotificationService

variable {n : Nat} {cfg : Config n}

/-- The backoff wait is cancelled (`Processor.Stop`) after the worker wrote the row queued:
the row stays queued with no token in its channel's queue and no worker holding it. -/
theorem backoff_cancel_strands_queued_row :
    ∃ s, Reachable (⟨fun _ => none, 3, fun _ => .sms⟩ : Config 1) s ∧
      ∃ r ∈ s.sh.store, r.status = .queued ∧
        (∀ it ∈ s.sh.queue.items r.channel, it.notificationId ≠ r.id) ∧
        ∀ i, (s.workers i).held ≠ some r.id := by
  obtain ⟨s, hs, hp⟩ := @exists_reachable_of_run 1 ⟨fun _ => none, 3, fun _ => .sms⟩ 0
    [.createArrives 0 ⟨"r", "sms", "hi", "", none, none, none, []⟩, .create 0 (.at 1),
      .create 0 (.at 1), .create 0 (.at 1), .create 0 (.at 1), .worker 0 (.at 2),
      .worker 0 (.at 2), .worker 0 (.at 2), .worker 0 { Choice.at 2 with outcome := .transportError },
      .worker 0 (.at 2), .worker 0 { Choice.at 2 with cancelled := true }]
    (fun s => decide (∃ r ∈ s.sh.store, r.status = .queued ∧
      (∀ it ∈ s.sh.queue.items r.channel, it.notificationId ≠ r.id) ∧
      ∀ i, (s.workers i).held ≠ some r.id)) (by decide)
  exact ⟨s, hs, of_decide_eq_true hp⟩

/-! ## Tokens while every sweep call succeeds

Since `ZPOPMIN` is atomic, two workers hold one notification only if the system made two tokens
of it. The admission path makes one per notification, a worker re-enqueues only the one it
holds, and the sweep makes one for each scheduled row it reads. `HoldInv` counts every token
with whoever will enqueue it or holds it (`tokenClaims`): the count is exclusive, and a
notification with a token and a scheduled row is one the sweep is working on. A sweep `Update`
that fails breaks the second part, and the next sweep then makes a second token
(`failed_sweep_update_double_hold`). -/

/-- Who has a token of which notification: the queue, one entry per token; a `Create` or
`CreateBatch` that will enqueue one; the sweep between its read and its `EnqueueBatch`; a worker
that popped one, until the end of its iteration. -/
def tokenClaims (s : Sys n) : Holder n → List Nat
  | .shared => s.sh.tokens
  | .create i => (s.creates i).admits
  | .batch i => (s.batches i).reserved
  | .sweep => s.sweep.reserved
  | .worker i => (s.workers i).held.toList

/-- The row of notification `x` is scheduled. -/
def Sys.Scheduled (s : Sys n) (x : Nat) : Prop :=
  ∃ r ∈ s.sh.store, r.id = x ∧ r.status = .scheduled

theorem Sys.Scheduled.of_rewrites {s s' : Sys n} {x : Nat} (hx : s'.Scheduled x)
    (h : s.sh.store.Rewrites s'.sh.store) : s.Scheduled x :=
  let ⟨r, hr, hid, hs⟩ := hx
  ⟨r, h.scheduled hr hs, hid, hs⟩

/-- The tokens are exclusive, every id involved was taken from `nextId`, and a notification
with a token and a scheduled row is one the sweep is working on. -/
structure HoldInv (s : Sys n) : Prop where
  /-- Each channel's set holds distinct items of that channel. -/
  keyed : s.sh.queue.Keyed
  /-- No notification has two tokens, counting those still to be enqueued and those held. -/
  exclusive : Exclusive (tokenClaims s)
  /-- Every token is of an id already taken. -/
  bound : ∀ h, ∀ x ∈ tokenClaims s h, x < s.sh.nextId
  /-- So is every row's. -/
  rows : ∀ r ∈ s.sh.store, r.id < s.sh.nextId
  /-- A notification with a token and a scheduled row is one the sweep is working on. -/
  scheduled : ∀ h, ∀ x ∈ tokenClaims s h, s.Scheduled x → x ∈ s.sweep.rows.map (·.id)

theorem holdInv_init (t₀ : Int) : HoldInv (Sys.init n t₀) := by
  have h0 : ∀ h, tokenClaims (Sys.init n t₀) h = [] := by intro h; cases h <;> rfl
  refine ⟨keyed_empty, ⟨fun h => by simp [h0], fun hx _ => by simp [h0] at hx⟩, ?_, ?_, ?_⟩
  · intro h x hx; simp [h0] at hx
  · intro r hr; cases hr
  · intro h x hx; simp [h0] at hx

/-- What one step can newly claim or schedule: a token after the step was one before, or is of
an id no row had yet (`nextId` on) or of a row that was scheduled; a row scheduled after the
step was scheduled before, or had its id claimed before and by nobody after; and `nextId` only
grows. -/
structure Sys.Fresh (s s' : Sys n) : Prop where
  next : s.sh.nextId ≤ s'.sh.nextId
  claims : ∀ h, ∀ x ∈ tokenClaims s' h,
    (∃ h₀, x ∈ tokenClaims s h₀) ∨ s.sh.nextId ≤ x ∨ s.Scheduled x
  scheduled : ∀ x, s'.Scheduled x →
    s.Scheduled x ∨ (∃ h₀, x ∈ tokenClaims s h₀) ∧ ∀ h, x ∉ tokenClaims s' h

/-- A step that leaves every holder's tokens, the queue, `nextId` and the sweep as they were,
and at most rewrites the table, keeps the invariant and claims nothing new. -/
theorem HoldInv.rewrite {s s' : Sys n} (hi : HoldInv s)
    (hc : ∀ h, tokenClaims s' h = tokenClaims s h) (hq : s'.sh.queue = s.sh.queue)
    (hn : s'.sh.nextId = s.sh.nextId) (hsw : s'.sweep = s.sweep)
    (hst : s.sh.store.Rewrites s'.sh.store) : HoldInv s' ∧ s.Fresh s' := by
  refine ⟨⟨hq ▸ hi.keyed, ⟨fun h => hc h ▸ hi.exclusive.nodup h,
    fun h₁ h₂ => hi.exclusive.unique (hc _ ▸ h₁) (hc _ ▸ h₂)⟩, fun h x hx => ?_, fun r hr => ?_,
    fun h x hx hs => ?_⟩, hn.ge, fun h x hx => .inl ⟨h, hc h ▸ hx⟩,
    fun x hx => .inl (hx.of_rewrites hst)⟩
  · exact hn ▸ hi.bound h x (hc h ▸ hx)
  · obtain ⟨r₀, h₀, hid⟩ := hst.exists_id hr
    exact hn ▸ hid ▸ hi.rows r₀ h₀
  · exact hsw ▸ hi.scheduled h x (hc h ▸ hx) (hs.of_rewrites hst)

/-- What a step of `b` did to the table: a rewrite, or the insert of rows whose ids `b` held,
leaving the queue alone and `b` holding none of the scheduled ones. -/
def TableEffect (s s' : Sys n) (b : Holder n) : Prop :=
  s.sh.store.Rewrites s'.sh.store ∨ ∃ ins, s'.sh.store = s.sh.store ++ ins ∧
    s'.sh.tokens = s.sh.tokens ∧ ∀ m ∈ ins, m.id ∈ tokenClaims s b ∧
      (m.status = .scheduled → m.id ∉ tokenClaims s' b)

/-- A row scheduled after a step with a `TableEffect` was scheduled before, or `b` inserted it
scheduled and let go of its id, leaving the queue's tokens alone. -/
theorem TableEffect.scheduled {s s' : Sys n} {b : Holder n} (heff : TableEffect s s' b) {x : Nat}
    (hx : s'.Scheduled x) :
    s.Scheduled x ∨ x ∈ tokenClaims s b ∧ x ∉ tokenClaims s' b ∧ s'.sh.tokens = s.sh.tokens := by
  obtain ⟨r, hr, rfl, hs⟩ := hx
  rcases heff with hst | ⟨ins, hst, htok, hins⟩
  · exact .inl (Sys.Scheduled.of_rewrites ⟨r, hr, rfl, hs⟩ hst)
  · rcases List.mem_append.1 (hst ▸ hr) with hr | hr
    exacts [.inl ⟨r, hr, rfl, hs⟩, .inr ⟨(hins r hr).1, (hins r hr).2 hs, htok⟩]

/-- After a step in which only `b` and the queue trade tokens, taking `fresh` ones, a token was
one before or is fresh. -/
theorem tokenClaims_of_moves {s s' : Sys n} {b : Holder n} {fresh : List Nat}
    (hsame : ∀ h, h ≠ .shared → h ≠ b → tokenClaims s' h = tokenClaims s h)
    (hmoves : s.sh.Moves s'.sh (tokenClaims s b) (tokenClaims s' b) fresh) :
    ∀ h, ∀ x ∈ tokenClaims s' h, (∃ h₀, x ∈ tokenClaims s h₀) ∨ x ∈ fresh := by
  intro h x hx
  by_cases hh : h = .shared ∨ h = b
  · have hx' : x ∈ tokenClaims s' .shared ++ tokenClaims s' b := by
      rcases hh with rfl | rfl <;> simp [hx]
    rcases List.mem_append.1 (hmoves.2.subset hx') with h' | h'
    · rcases List.mem_append.1 h' with h' | h'
      exacts [.inl ⟨.shared, h'⟩, .inl ⟨b, h'⟩]
    · exact .inr h'
  · push_neg at hh
    exact .inl ⟨h, hsame h hh.1 hh.2 ▸ hx⟩

/-- **Letting go of a token.** If `b` had the token of `x` and has it no longer, while every
other holder keeps its tokens, nobody has a token of `x`: the token was `b`'s alone. -/
theorem HoldInv.release {s s' : Sys n} (hi : HoldInv s) {b : Holder n} {x : Nat}
    (hx : x ∈ tokenClaims s b) (hx' : x ∉ tokenClaims s' b)
    (hsame : ∀ h, h ≠ b → tokenClaims s' h = tokenClaims s h) : ∀ h, x ∉ tokenClaims s' h := by
  intro h hh
  by_cases hb : h = b
  · exact hx' (hb ▸ hh)
  · exact hb (hi.exclusive.unique (hsame h hb ▸ hh) hx)

/-- **A step between one thread and the queue keeps the invariant.** The thread `b` and the
queue trade tokens and take `fresh` ones (`Shared.Moves`); its effect on the table is a
`TableEffect`; the sweep keeps working on a scheduled row; and a fresh id is above every id in
use or is one of the sweep's rows. -/
theorem HoldInv.thread {s s' : Sys n} (hi : HoldInv s) {b : Holder n} (hb : Holder.shared ≠ b)
    (hsame : ∀ h, h ≠ .shared → h ≠ b → tokenClaims s' h = tokenClaims s h)
    {fresh : List Nat} (hfresh : fresh.Nodup) (hnew : ∀ x ∈ fresh, ∀ h, x ∉ tokenClaims s h)
    (hmoves : s.sh.Moves s'.sh (tokenClaims s b) (tokenClaims s' b) fresh)
    (hnext : s.sh.nextId ≤ s'.sh.nextId) (hfreshlt : ∀ x ∈ fresh, x < s'.sh.nextId)
    (heff : TableEffect s s' b)
    (hlist : ∀ x, s'.Scheduled x → x ∈ s.sweep.rows.map (·.id) → x ∈ s'.sweep.rows.map (·.id))
    (hfreshRows : ∀ x ∈ fresh, s.sh.nextId ≤ x ∨ (s'.Scheduled x → x ∈ s'.sweep.rows.map (·.id)))
    (hfreshNew : ∀ x ∈ fresh, s.sh.nextId ≤ x ∨ s.Scheduled x) :
    HoldInv s' ∧ s.Fresh s' := by
  have hfrom := tokenClaims_of_moves hsame hmoves
  -- a row scheduled after the step was scheduled before, or `b` inserted it and let go of it,
  -- so that nobody holds it now
  have hsched : ∀ x, s'.Scheduled x →
      s.Scheduled x ∨ x ∈ tokenClaims s b ∧ ∀ h, x ∉ tokenClaims s' h := by
    refine fun x hx => (heff.scheduled hx).imp_right fun ⟨hxb, hxb', htok⟩ =>
      ⟨hxb, hi.release hxb hxb' fun h' hb' => ?_⟩
    by_cases hsh : h' = .shared
    · subst hsh; exact htok
    · exact hsame h' hsh hb'
  -- a row after the step has an old row's id or one `b` held
  have hrows : ∀ r ∈ s'.sh.store, (∃ r₀ ∈ s.sh.store, r₀.id = r.id) ∨ r.id ∈ tokenClaims s b := by
    intro r hr
    rcases heff with hst | ⟨ins, hst, -, hins⟩
    · exact .inl (hst.exists_id hr)
    · rcases List.mem_append.1 (hst ▸ hr) with hr | hr
      exacts [.inl ⟨r, hr, rfl⟩, .inr (hins r hr).1]
  refine ⟨⟨hmoves.1, hi.exclusive.transfer hb hfresh hnew hsame hmoves.2, fun h x hx => ?_,
    fun r hr => ?_, fun h x hx hs => ?_⟩, hnext, fun h x hx => (hfrom h x hx).imp_right (hfreshNew x),
    fun x hx => (hsched x hx).imp_right fun hb' => ⟨⟨b, hb'.1⟩, hb'.2⟩⟩
  · rcases hfrom h x hx with ⟨h₀, hx₀⟩ | hf
    exacts [lt_of_lt_of_le (hi.bound h₀ x hx₀) hnext, hfreshlt x hf]
  · rcases hrows r hr with ⟨r₀, h₀, hid⟩ | hb'
    exacts [lt_of_lt_of_le (hid ▸ hi.rows r₀ h₀) hnext, lt_of_lt_of_le (hi.bound b _ hb') hnext]
  · rcases hsched x hs with hs₀ | ⟨-, hfree⟩
    · rcases hfrom h x hx with ⟨h₀, hx₀⟩ | hf
      · exact hlist x hs (hi.scheduled h₀ x hx₀ hs₀)
      · rcases hfreshRows x hf with hle | hrow
        · obtain ⟨r, hr, rfl, -⟩ := hs₀
          exact absurd (hi.rows r hr) (not_lt.2 hle)
        · exact hrow hs
    · exact absurd hx (hfree h)

/-- **A request thread's step keeps the invariant**: it trades tokens with the queue, takes
fresh ids from `nextId` on, leaves the sweep alone, and inserts only its own notifications. -/
theorem HoldInv.request {s s' : Sys n} (hi : HoldInv s) {b : Holder n} (hb : Holder.shared ≠ b)
    (hsame : ∀ h, h ≠ .shared → h ≠ b → tokenClaims s' h = tokenClaims s h)
    (hmoves : s.sh.Moves s'.sh (tokenClaims s b) (tokenClaims s' b)
      (List.range' s.sh.nextId (s'.sh.nextId - s.sh.nextId)))
    (hnext : s.sh.nextId ≤ s'.sh.nextId) (hsw : s'.sweep = s.sweep) (heff : TableEffect s s' b) :
    HoldInv s' ∧ s.Fresh s' :=
  hi.thread hb hsame (List.nodup_range' _ _)
    (fun x hx h hh => by have := hi.bound h x hh; simp at hx; omega) hmoves hnext
    (fun x hx => by simp at hx; omega) heff (fun _ _ hx => hsw ▸ hx)
    (fun x hx => .inl (by simp at hx; omega)) (fun x hx => .inl (by simp at hx; omega))

/-- The calls of a sweep step all succeed; every other action qualifies. -/
def Action.SweepOk : Action n → Prop
  | .sweep ch => ch.Succeeds
  | _ => True

instance Action.decSweepOk : (a : Action n) → Decidable a.SweepOk
  | .sweep ch => Choice.decSucceeds ch
  | .createArrives .. | .batchArrives .. | .cancelArrives .. | .create .. | .batch .. | .cancel ..
  | .worker .. => isTrue trivial

/-- **A sweep's read takes fresh ids**: those of distinct scheduled rows, which nobody
holds. -/
theorem HoldInv.sweep_fresh {s : Sys n} {t : Int} {pc' : SweepPc} (hi : HoldInv s)
    (hrow : RowInv s) (hidle : s.sweep = .idle →
      pc' = .idle ∨ pc' = .enqueue (s.sh.store.getScheduledNotifications t schedulerBatchSize)) :
    (if s.sweep = .idle then pc'.reserved else []).Nodup ∧
      ∀ x ∈ (if s.sweep = .idle then pc'.reserved else []), s.Scheduled x ∧
        x ∈ pc'.rows.map (·.id) ∧ ∀ h, x ∉ tokenClaims s h := by
  split
  · rename_i hsw
    rcases hidle hsw with rfl | rfl
    · simp [SweepPc.reserved]
    · refine ⟨Store.nodup_getScheduledNotifications hrow.store.ids _ _, fun x hx => ?_⟩
      obtain ⟨r, hr, rfl⟩ := List.mem_map.1 hx
      obtain ⟨hmem, hdue⟩ := Store.mem_getScheduledNotifications hr
      have hs : s.Scheduled r.id := ⟨r, hmem, rfl, Store.isDue_status hdue⟩
      refine ⟨hs, SweepPc.reserved_subset_rows _ hx, fun h hh => ?_⟩
      simpa [hsw, SweepPc.rows] using hi.scheduled h _ hh hs
  · simp

/-- **One step keeps the invariant**, if it is not a sweep step with a failing call, and claims
only fresh ids. -/
theorem HoldInv.step {s s' : Sys n} {a : Action n} (hi : HoldInv s) (hrow : RowInv s)
    (h : s.step cfg a = some s') (hok : a.SweepOk) : HoldInv s' ∧ s.Fresh s' := by
  cases a with
  | createArrives i req =>
    simp only [Sys.step] at h
    split at h <;> cases h
    refine hi.rewrite (fun h => ?_) rfl rfl rfl (.refl _)
    cases h with
    | create j =>
      by_cases hj : j = i
      · subst hj; simp [tokenClaims, *, CreatePc.admits]
      · simp [tokenClaims, Function.update_noteq hj]
    | _ => rfl
  | batchArrives i reqs =>
    simp only [Sys.step] at h
    split at h <;> cases h
    refine hi.rewrite (fun h => ?_) rfl rfl rfl (.refl _)
    cases h with
    | batch j =>
      by_cases hj : j = i
      · subst hj; simp [tokenClaims, *, BatchPc.reserved]
      · simp [tokenClaims, Function.update_noteq hj]
    | _ => rfl
  | cancelArrives i id =>
    simp only [Sys.step] at h
    split at h <;> cases h
    exact hi.rewrite (fun h => by cases h <;> rfl) rfl rfl rfl (.refl _)
  | create i ch =>
    simp only [Sys.step] at h
    obtain ⟨-, ⟨sh', pc'⟩, hr, rfl⟩ := Sys.thread_eq_some.1 h
    obtain ⟨-, -, -, heff⟩ := createStep_sound hr hrow.store (hrow.creates i)
    refine hi.request (show Holder.shared ≠ .create i by nofun)
      (fun h h₁ h₂ => by cases h <;> simp_all [tokenClaims, Function.update_noteq])
      (by simpa [tokenClaims] using createStep_moves hr hi.keyed) (createStep_admits hr).1 rfl ?_
    rcases heff with hst | ⟨req, m, hpc, hst, hq, hpc'⟩
    · exact .inl hst
    -- a scheduled insert returns at once: the `Create` lets go of its id
    · refine .inr ⟨[m.stored], hst, by simp [Shared.tokens, hq], fun m' hm' => ?_⟩
      simp only [List.mem_singleton] at hm'
      subst hm'
      exact ⟨by simp [tokenClaims, hpc, CreatePc.admits],
        fun hs => by simp_all [tokenClaims, hpc', CreatePc.admits]⟩
  | batch i ch =>
    simp only [Sys.step] at h
    obtain ⟨-, ⟨sh', pc'⟩, hr, rfl⟩ := Sys.thread_eq_some.1 h
    obtain ⟨-, -, -, heff⟩ := batchStep_sound hr hrow.store (hrow.batches i)
    refine hi.request (show Holder.shared ≠ .batch i by nofun)
      (fun h h₁ h₂ => by cases h <;> simp_all [tokenClaims, Function.update_noteq])
      (by simpa [tokenClaims] using batchStep_moves hr hi.keyed) (batchStep_admits hr).1 rfl ?_
    rcases heff with hst | ⟨ns, hpc, hst, hq, hpc'⟩
    · exact .inl (.inl hst)
    -- the batch's ids are distinct, so the pending notification with a scheduled one's id is it
    · have hnd : (ns.map (·.id)).Nodup := by
        simpa [tokenClaims, hpc, BatchPc.reserved] using hi.exclusive.nodup (.batch i)
      refine .inr ⟨ns.map (·.stored), hst, by simp [Shared.tokens, hq], fun m' hm' => ?_⟩
      obtain ⟨m, hm, rfl⟩ := List.mem_map.1 hm'
      refine ⟨by simp [tokenClaims, hpc, BatchPc.reserved]; exact ⟨m, hm, rfl⟩, fun hs hx => ?_⟩
      simp only [Notification.stored_status, Notification.stored_id] at hs hx
      simp only [tokenClaims, Function.update_same, hpc'] at hx
      split at hx
      · cases hx
      · simp only [BatchPc.reserved, batchItems, List.map_map, List.mem_map, List.mem_filter,
          beq_iff_eq, Function.comp_apply] at hx
        obtain ⟨m', ⟨hm', hp⟩, hid⟩ := hx
        rw [List.inj_on_of_nodup_map hnd hm' hm hid, hs] at hp
        cases hp
  | cancel i ch =>
    simp only [Sys.step] at h
    obtain ⟨-, ⟨sh', pc'⟩, hr, rfl⟩ := Sys.thread_eq_some.1 h
    obtain ⟨hq, hid, -⟩ := cancelStep_frame hr
    obtain ⟨-, -, -, hst⟩ := cancelStep_sound hr hrow.store (hrow.cancels i)
    exact hi.rewrite (fun h => by cases h <;> simp [tokenClaims, Shared.tokens, hq]) hq hid rfl hst
  | sweep ch =>
    simp only [Sys.step] at h
    obtain ⟨-, ⟨sh', pc'⟩, hr, rfl⟩ := Sys.thread_eq_some.1 h
    obtain ⟨hmoves, hidle, hlist⟩ := sweepStep_moves hr hi.keyed hok hrow.sweep
    obtain ⟨-, -, -, hst⟩ := sweepStep_sound hr hrow.store hrow.sweep
    have hnext := (sweepStep_frame hr).1
    have hfresh := hi.sweep_fresh hrow fun hsw => (hidle hsw).2
    refine hi.thread (show Holder.shared ≠ .sweep by nofun)
      (fun h h₁ h₂ => by cases h <;> simp_all [tokenClaims]) hfresh.1
      (fun x hx => (hfresh.2 x hx).2.2) (by simpa [tokenClaims] using hmoves) (le_of_eq hnext.symm)
      (fun x hx => ?_) (.inl hst) (fun x hx hm => ?_) (fun x hx => .inr fun _ => (hfresh.2 x hx).2.1)
      (fun x hx => .inr (hfresh.2 x hx).1)
    · obtain ⟨r, hr, rfl, -⟩ := (hfresh.2 x hx).1
      exact hnext ▸ hi.rows r hr
    · obtain ⟨r, hr, rfl, hs⟩ := hx
      exact hlist r hr hs hm
  | worker i ch =>
    simp only [Sys.step] at h
    obtain ⟨-, ⟨sh', pc'⟩, hr, rfl⟩ := Sys.thread_eq_some.1 h
    have hmoves := workerStep_moves hr hi.keyed
    obtain ⟨-, -, -, hst⟩ := workerStep_sound hr hrow.store (hrow.workers i)
    exact hi.thread (show Holder.shared ≠ .worker i by nofun)
      (fun h h₁ h₂ => by cases h <;> simp_all [tokenClaims, Function.update_noteq])
      List.nodup_nil (by simp) (by simpa [tokenClaims] using hmoves)
      (le_of_eq (workerStep_frame hr).1.symm) (by simp) (.inl hst) (fun _ _ hx => hx) (by simp)
      (by simp)

/-- **Runs whose sweep calls succeed.** A property that every such step keeps, in a reachable
state with the invariant, holds at the end of every such run from one. -/
theorem Sys.run_induction {P : Sys n → Prop}
    (hstep : ∀ {s s' : Sys n} {a : Action n}, Reachable cfg s → HoldInv s →
      s.step cfg a = some s' → a.SweepOk → P s → P s') :
    ∀ {s s' : Sys n} {as : List (Action n)}, Reachable cfg s → HoldInv s → P s →
      s.run cfg as = some s' → (∀ a ∈ as, a.SweepOk) → P s'
  | _, _, [], _, _, hp, h, _ => by cases h; exact hp
  | s, _, a :: as, hs, hi, hp, h, hok => by
    cases hst : s.step cfg a with
    | none => simp [Sys.run, hst] at h
    | some s₁ =>
      simp only [Sys.run, hst, Option.bind_some] at h
      have ha := hok a (List.mem_cons_self a as)
      exact Sys.run_induction hstep (.step a hs hst) (hi.step (reachable_rowInv hs) hst ha).1
        (hstep hs hi hst ha hp) h fun b hb => hok b (List.mem_cons_of_mem a hb)

/-- The invariant holds along every run from a reachable state whose sweep steps succeed. -/
theorem HoldInv.run {s s' : Sys n} {as : List (Action n)} (hi : HoldInv s) (hs : Reachable cfg s)
    (h : s.run cfg as = some s') (hok : ∀ a ∈ as, a.SweepOk) : HoldInv s' :=
  Sys.run_induction (fun hs hi h hok _ => (hi.step (reachable_rowInv hs) h hok).1) hs hi hi h hok

/-- **While every sweep call succeeds, a notification has one token or one holder at most.** In
every state of a run whose sweep steps all succeed, the queue holds at most one token of each
notification, and a notification a worker holds has no token in the queue and no other
worker holding it. -/
theorem workers_hold_exclusively {t₀ : Int} {as : List (Action n)} {s : Sys n}
    (hrun : (Sys.init n t₀).run cfg as = some s) (hok : ∀ a ∈ as, a.SweepOk) :
    s.sh.tokens.Nodup ∧ ∀ i x, (s.workers i).held = some x →
      x ∉ s.sh.tokens ∧ ∀ j, (s.workers j).held = some x → j = i := by
  have hi := (holdInv_init t₀).run (Reachable.init t₀) hrun hok
  have hw : ∀ {i x}, (s.workers i).held = some x → x ∈ tokenClaims s (.worker i) := by
    intro i x hx; simp [tokenClaims, hx]
  refine ⟨hi.exclusive.nodup .shared, fun i x hx => ⟨fun ht => ?_, fun j hj => ?_⟩⟩
  · cases hi.exclusive.unique (show x ∈ tokenClaims s .shared from ht) (hw hx)
  · cases hi.exclusive.unique (hw hj) (hw hx); rfl

/-- A scheduled notification swept, then popped by worker `0`: worker `1` cannot hold it. -/
theorem workers_hold_exclusively_swept :
    ∃ s, (Sys.init 2 0).run ⟨fun _ => none, 3, fun _ => .sms⟩
        [.createArrives 0 ⟨"r", "sms", "hi", "", some 5, none, none, []⟩, .create 0 (.at 1),
          .create 0 (.at 1), .sweep (.at 5), .sweep (.at 5), .sweep (.at 5), .worker 0 (.at 5)] =
        some s ∧ (s.workers 0).held = some 0 ∧
      (s.sh.tokens.Nodup ∧ ∀ i x, (s.workers i).held = some x →
        x ∉ s.sh.tokens ∧ ∀ j, (s.workers j).held = some x → j = i) := by
  obtain ⟨s, hrun, hp⟩ := @Sys.exists_run_of_any 2 ⟨fun _ => none, 3, fun _ => .sms⟩
    (Sys.init 2 0) [.createArrives 0 ⟨"r", "sms", "hi", "", some 5, none, none, []⟩,
      .create 0 (.at 1), .create 0 (.at 1), .sweep (.at 5), .sweep (.at 5), .sweep (.at 5),
      .worker 0 (.at 5)] (fun s => decide ((s.workers 0).held = some 0)) (by decide)
  exact ⟨s, hrun, of_decide_eq_true hp, workers_hold_exclusively hrun (by decide)⟩

/-- The scheduler's `Update` of a swept row fails, a worker pops the token and reads the row,
still scheduled; the next sweep enqueues it again, and a second worker pops that token: two
workers hold notification `0`. -/
theorem failed_sweep_update_double_hold :
    ∃ s, Reachable (⟨fun _ => none, 3, fun _ => .sms⟩ : Config 2) s ∧
      (s.workers 0).held = some 0 ∧ (s.workers 1).held = some 0 := by
  obtain ⟨s, hs, hp⟩ := @exists_reachable_of_run 2 ⟨fun _ => none, 3, fun _ => .sms⟩ 0
    [.createArrives 0 ⟨"r", "sms", "hi", "", some 5, none, none, []⟩, .create 0 (.at 1),
      .create 0 (.at 1), .sweep (.at 5), .sweep (.at 5), .sweep { Choice.at 5 with ok := false },
      .worker 0 (.at 5), .worker 0 (.at 5), .sweep (.at 6), .sweep (.at 6), .sweep (.at 6),
      .worker 1 (.at 6)]
    (fun s => decide ((s.workers 0).held = some 0 ∧ (s.workers 1).held = some 0)) (by decide)
  exact ⟨s, hs, of_decide_eq_true hp⟩

end NotificationService
