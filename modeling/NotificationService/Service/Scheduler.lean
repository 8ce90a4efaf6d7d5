import NotificationService.Service.Shared

/-! # The scheduler's sweep

`SchedulerService.processScheduledNotifications` (`internal/service/scheduler.go`): read the
due scheduled rows, enqueue one token per row with one `EnqueueBatch`, then write each row back
marked queued, one `Update` per row. There is one scheduler, so one sweep runs at a time; the
ticker that starts sweeps is the environment choosing when the sweep leaves `idle`.

The rows are written back from the copies read at the start of the sweep: a row that changed
in between (sent by a worker, cancelled) is overwritten. A failed `Update` is only logged, so
the sweep goes on with the next row. -/

namespace NotificationService

/-- The scheduler's `batchSize`. -/
def schedulerBatchSize : Nat := 100

/-- Where the sweep is. -/
inductive SweepPc
  | idle
  /-- Read these due rows; next: `EnqueueBatch` of their tokens. -/
  | enqueue (ns : List Notification)
  /-- Enqueued; next: `Update` of the head row marked queued. -/
  | update (ns : List Notification)
  deriving DecidableEq, Repr

/-- The tokens of a sweep (`NotificationID`, `Channel`, `Priority`, `RetryCount` of each row). -/
def sweepItems (ns : List Notification) : List QueueItem := ns.map Notification.queueItem

/-- One step of the sweep. -/
def sweepStep (sh : Shared) (ch : Choice) : SweepPc → Option (Shared × SweepPc)
  | .idle =>
    if ch.ok then
      match sh.store.getScheduledNotifications ch.t₁ schedulerBatchSize with
      | [] => some (sh, .idle)
      | ns => some (sh, .enqueue ns)
    else some (sh, .idle)
  | .enqueue ns =>
    let sh' := { sh with queue := enqueueApplied sh.queue (sweepItems ns) ch.applied ch.t₂ }
    if ch.ok && pipelineOk (sweepItems ns) ch.applied then some (sh', .update ns)
    else some (sh', .idle)
  | .update [] => some (sh, .idle)   -- unreachable: a sweep enqueues a non-empty list
  | .update (n :: rest) =>
    let sh' := match (if ch.ok then sh.store.update n.markAsQueued else none) with
      | some st => { sh with store := st }
      | none => sh
    some (sh', if rest = [] then .idle else .update rest)

/-! ## What a sweep keeps of the table -/

/-- The sweep's copies are rows of the table, whose texts the columns accept. -/
def SweepPc.Sound (st : Store) : SweepPc → Prop
  | .idle => True
  | .enqueue ns | .update ns => ∀ c ∈ ns, st.Holds c ∧ c.fits = true

theorem SweepPc.Sound.of_extends {st st' : Store} {pc : SweepPc} (h : pc.Sound st)
    (he : st.Extends st') : pc.Sound st' := by
  cases pc with
  | idle => trivial
  | enqueue | update => exact fun c hc => ⟨(h c hc).1.of_extends he, (h c hc).2⟩

/-- **One sweep step.** It keeps the table well formed, loses no row, leaves the sweep sound,
and at most rewrites the table. -/
theorem sweepStep_sound {sh sh' : Shared} {ch : Choice} {pc pc' : SweepPc}
    (h : sweepStep sh ch pc = some (sh', pc')) (hwf : sh.store.WellFormed)
    (hpc : pc.Sound sh.store) :
    sh'.store.WellFormed ∧ sh.store.Extends sh'.store ∧ pc'.Sound sh'.store ∧
      sh.store.Rewrites sh'.store := by
  cases pc with
  | idle =>
    simp only [sweepStep] at h
    split at h
    · split at h <;> cases h
      · exact ⟨hwf, .refl _, trivial, .refl _⟩
      · exact ⟨hwf, .refl _, fun c hc => have hmem := (Store.mem_getScheduledNotifications hc).1
          ⟨Store.holds_of_mem hmem, (hwf.rows c hmem).1⟩, .refl _⟩
    · cases h; exact ⟨hwf, .refl _, trivial, .refl _⟩
  | enqueue ns =>
    simp only [sweepStep] at h
    split at h <;> cases h
    · exact ⟨hwf, .refl _, hpc, .refl _⟩
    · exact ⟨hwf, .refl _, trivial, .refl _⟩
  | update ns =>
    cases ns with
    | nil => cases h; exact ⟨hwf, .refl _, trivial, .refl _⟩
    | cons n rest =>
      simp only [sweepStep, Option.some.injEq, Prod.mk.injEq] at h
      obtain ⟨rfl, rfl⟩ := h
      have hrest : ∀ st, sh.store.Extends st → (if rest = [] then SweepPc.idle else .update rest).Sound st :=
        fun st he => by
          split
          · trivial
          · exact fun c hc => have hc' := hpc c (List.mem_cons_of_mem n hc)
              ⟨hc'.1.of_extends he, hc'.2⟩
      have hq : sh.store.Holds n.markAsQueued := (hpc n (List.mem_cons_self n rest)).1.congr rfl rfl
      split
      · obtain ⟨hwf', he⟩ := hwf.update_if hq ‹_›
        exact ⟨hwf', he, hrest _ he,
          .of_update_if (@Notification.writable_of_status n.markAsQueued (by simp) (by simp) (by simp))
            ‹_›⟩
      · exact ⟨hwf, .refl _, hrest _ (.refl _), .refl _⟩

/-- A sweep touches the table and the queue only. -/
theorem sweepStep_frame {sh sh' : Shared} {ch : Choice} {pc pc' : SweepPc}
    (h : sweepStep sh ch pc = some (sh', pc')) :
    sh'.nextId = sh.nextId ∧ sh'.admitted = sh.admitted := by
  cases pc with
  | idle =>
    simp only [sweepStep] at h
    split at h
    · split at h <;> cases h <;> simp
    · cases h; simp
  | enqueue ns =>
    simp only [sweepStep] at h
    split at h <;> cases h <;> simp
  | update ns =>
    cases ns with
    | nil => cases h; simp
    | cons n rest =>
      simp only [sweepStep, Option.some.injEq, Prod.mk.injEq] at h
      obtain ⟨rfl, rfl⟩ := h
      split <;> simp

/-! ## What a sweep does to the tokens

The sweep holds the ids of the rows it read from the read to its `EnqueueBatch`
(`SweepPc.reserved`), and works on those rows until their `Update`s (`SweepPc.rows`). When
all its calls succeed, a row it works on leaves its list only once it is no longer
scheduled. -/

/-- The ids the sweep has tokens of to enqueue. -/
def SweepPc.reserved : SweepPc → List Nat
  | .enqueue ns => ns.map (·.id)
  | _ => []

/-- The rows the sweep read and has not written back yet. -/
def SweepPc.rows : SweepPc → List Notification
  | .idle => []
  | .enqueue ns | .update ns => ns

theorem SweepPc.reserved_subset_rows (pc : SweepPc) : pc.reserved ⊆ pc.rows.map (·.id) := by
  cases pc <;> simp [SweepPc.reserved, SweepPc.rows]

theorem sweepStep_moves {sh sh' : Shared} {ch : Choice} {pc pc' : SweepPc}
    (h : sweepStep sh ch pc = some (sh', pc')) (hk : sh.queue.Keyed) (hok : ch.Succeeds)
    (hpc : pc.Sound sh.store) :
    sh.Moves sh' pc.reserved pc'.reserved (if pc = .idle then pc'.reserved else []) ∧
    (pc = .idle → sh' = sh ∧
      (pc' = .idle ∨ pc' = .enqueue (sh.store.getScheduledNotifications ch.t₁ schedulerBatchSize))) ∧
    ∀ r ∈ sh'.store, r.status = .scheduled → r.id ∈ pc.rows.map (·.id) →
      r.id ∈ pc'.rows.map (·.id) := by
  cases pc with
  | idle =>
    simp only [sweepStep] at h
    split at h
    · split at h <;> cases h
      · exact ⟨Shared.moves_nil hk rfl, fun _ => ⟨rfl, .inl rfl⟩, by simp [SweepPc.rows]⟩
      · rename_i ns hns hne
        exact ⟨Shared.moves_of_sublist hk rfl (by simp), fun _ => ⟨rfl, .inr rfl⟩,
          by simp [SweepPc.rows]⟩
    · cases h; exact ⟨Shared.moves_nil hk rfl, fun _ => ⟨rfl, .inl rfl⟩, by simp [SweepPc.rows]⟩
  | enqueue ns =>
    simp only [sweepStep, hok.1, Bool.true_and] at h
    have hpipe : pipelineOk (sweepItems ns) ch.applied = true := by
      simp [pipelineOk, hok.2]
    rw [if_pos hpipe] at h
    cases h
    refine ⟨Shared.moves_enqueueBatch hk rfl ?_, nofun, fun r _ _ hr => hr⟩
    simpa [SweepPc.reserved, sweepItems, Function.comp_def] using
      (List.filter_sublist (ns.map Notification.queueItem)).map (·.notificationId)
  | update ns =>
    cases ns with
    | nil => cases h; exact ⟨Shared.moves_nil hk rfl, nofun, by simp [SweepPc.rows]⟩
    | cons m rest =>
      simp only [sweepStep, hok.1, if_true, Option.some.injEq, Prod.mk.injEq] at h
      obtain ⟨rfl, rfl⟩ := h
      have hrows : (if rest = [] then SweepPc.idle else .update rest).rows = rest := by
        split <;> simp_all [SweepPc.rows]
      have hres : (if rest = [] then SweepPc.idle else .update rest).reserved = [] := by
        split <;> rfl
      rw [hrows, hres]
      simp only [SweepPc.rows, SweepPc.reserved, List.map_cons, List.mem_cons, reduceCtorEq,
        if_false]
      split
      · rename_i st hst
        refine ⟨Shared.moves_nil hk rfl, nofun, fun r hr hs hx => ?_⟩
        rcases Store.mem_update hst hr with ⟨-, hne⟩ | ⟨t, rfl⟩
        · exact hx.resolve_left hne
        · simp at hs
      · rename_i hst
        exact ⟨Shared.moves_nil hk rfl, nofun, fun r hr _ hx =>
          hx.resolve_left (Store.update_eq_none hst (hpc m (List.mem_cons_self m rest)).2 r hr)⟩

/-! ## Retry counts -/

/-- Every row the sweep works on has a retry count below `K`. -/
def SweepPc.RetryBelow (K : Int) (pc : SweepPc) : Prop := ∀ c ∈ pc.rows, c.retryCount < K

theorem SweepPc.retryBelow_idle (K : Int) : SweepPc.idle.RetryBelow K := fun _ hc => by
  simp [SweepPc.rows] at hc

/-- **A sweep step writes only rows below `K`** when every scheduled row is below `K`: it writes
back, marked queued, the scheduled rows it read. -/
theorem sweepStep_retry {sh sh' : Shared} {ch : Choice} {pc pc' : SweepPc} {K : Int}
    (h : sweepStep sh ch pc = some (sh', pc')) (hpc : pc.RetryBelow K)
    (hread : ∀ r ∈ sh.store, r.status = .scheduled → r.retryCount < K) :
    pc'.RetryBelow K ∧ ∀ r ∈ sh'.store, r ∈ sh.store ∨ r.retryCount < K := by
  cases pc with
  | idle =>
    simp only [sweepStep] at h
    split at h
    · split at h <;> cases h
      · exact ⟨SweepPc.retryBelow_idle K, fun r hr => .inl hr⟩
      · refine ⟨fun c hc => ?_, fun r hr => .inl hr⟩
        obtain ⟨hmem, hdue⟩ := Store.mem_getScheduledNotifications hc
        exact hread c hmem (Store.isDue_status hdue)
    · cases h; exact ⟨SweepPc.retryBelow_idle K, fun r hr => .inl hr⟩
  | enqueue ns =>
    simp only [sweepStep] at h
    split at h <;> cases h
    · exact ⟨hpc, fun r hr => .inl hr⟩
    · exact ⟨SweepPc.retryBelow_idle K, fun r hr => .inl hr⟩
  | update ns =>
    cases ns with
    | nil => cases h; exact ⟨SweepPc.retryBelow_idle K, fun r hr => .inl hr⟩
    | cons m rest =>
      simp only [sweepStep, Option.some.injEq, Prod.mk.injEq] at h
      obtain ⟨rfl, rfl⟩ := h
      refine ⟨?_, fun r hr => ?_⟩
      · split
        · exact SweepPc.retryBelow_idle K
        · exact fun c hc => hpc c (List.mem_cons_of_mem m hc)
      · have hm : (m.markAsQueued.retryCount : Int) < K := hpc m (List.mem_cons_self m rest)
        split at hr
        · rcases Store.mem_update_if ‹_› hr with hr | ⟨t, rfl⟩
          exacts [.inl hr, .inr hm]
        · exact .inl hr

end NotificationService
