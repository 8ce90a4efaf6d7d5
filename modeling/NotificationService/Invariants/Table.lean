import NotificationService.System

/-! # The table's invariant

Every writer of the `notifications` table does a full-row `Update` from a copy it read (or
inserted) earlier. What keeps the table meaningful under any interleaving is that those copies
agree with the rows on the fields no writer changes:

* **`RowInv`** — the table is well formed (unique ids, unique set keys), its rows have the send
  data and the schedule time their status asks for, and every thread's copies, and every
  notification a `Create` returned, are rows of the table (`Store.Holds`).
* **`reachable_rowInv`** — it holds in every reachable state, whatever fails.
* **`reachable_sent_recorded`** — so every sent row has its send time and message id: writers
  write back only copies that are not scheduled and, if sent, carry their send data.
* **`Reachable.step_extends`** — so no step loses a row or changes its `fixed` fields.

Each thread kind contributes one lemma, proved beside its step function (`createStep_sound`,
`batchStep_sound`, `cancelStep_sound`, `sweepStep_sound`, `workerStep_sound`), which also says
what the step does to the table: a `Store.Rewrites`, or an insert of the thread's own
notifications.

What the invariant does not give is the spec's terminal statuses (`sent`, `delivered`, `failed`,
`cancelled`). The code guards its writes by reads: `processNext` skips a row it reads as sent,
delivered or cancelled (`skipsRow`), and `Cancel` writes only over a row it reads as pending,
scheduled or queued (`canCancel`). The write comes one step after the read and overwrites the
whole row, so another thread can change the row in between: `cancel_then_send` is such an
interleaving. -/

namespace NotificationService

variable {n : Nat} {cfg : Config n}

/-- The table is well formed, every row has the send data and the schedule time its status asks
for, and every thread is sound with respect to the table. -/
structure RowInv (s : Sys n) : Prop where
  store : s.sh.store.WellFormed
  records : ∀ r ∈ s.sh.store, r.SentRecorded
  schedules : ∀ r ∈ s.sh.store, r.ScheduleRecorded
  creates : ∀ i, (s.creates i).Sound s.sh.store
  batches : ∀ i, (s.batches i).Sound
  cancels : ∀ i, (s.cancels i).Sound s.sh.store
  sweep : s.sweep.Sound s.sh.store
  workers : ∀ i, (s.workers i).Sound s.sh.store

theorem rowInv_init (t₀ : Int) : RowInv (Sys.init n t₀) :=
  ⟨Store.wellFormed_nil, (fun _ hr => by cases hr), (fun _ hr => by cases hr), fun _ => trivial,
    fun _ => trivial, fun _ => trivial, trivial, fun _ => trivial⟩

/-- An update of one thread's pc keeps the others' soundness after a table change that loses
no row. -/
theorem sound_update {ι α : Type} [DecidableEq ι] {P : α → Prop} {f : ι → α} {i : ι} {a : α}
    (ha : P a) (hf : ∀ j, P (f j)) : ∀ j, P (Function.update f i a j) :=
  (Function.forall_update_iff f fun _ b => P b).2 ⟨ha, fun j _ => hf j⟩

/-- Every thread stays sound over a table that keeps the rows. -/
theorem RowInv.sound_of_extends {s : Sys n} (hi : RowInv s) {st : Store}
    (he : s.sh.store.Extends st) :
    (∀ i, (s.creates i).Sound st) ∧ (∀ i, (s.cancels i).Sound st) ∧ s.sweep.Sound st ∧
      ∀ i, (s.workers i).Sound st :=
  ⟨fun j => (hi.creates j).of_extends he, fun j => (hi.cancels j).of_extends he,
    hi.sweep.of_extends he, fun j => (hi.workers j).of_extends he⟩

/-- **One step keeps the invariant and loses no row.** -/
theorem RowInv.step {s s' : Sys n} {a : Action n} (hi : RowInv s)
    (h : s.step cfg a = some s') : RowInv s' ∧ s.sh.store.Extends s'.sh.store := by
  cases a with
  | createArrives i req =>
    simp only [Sys.step] at h
    split at h <;> cases h
    exact ⟨{ hi with creates := sound_update trivial hi.creates }, .refl _⟩
  | batchArrives i reqs =>
    simp only [Sys.step] at h
    split at h <;> cases h
    exact ⟨{ hi with batches := sound_update trivial hi.batches }, .refl _⟩
  | cancelArrives i id =>
    simp only [Sys.step] at h
    split at h <;> cases h
    exact ⟨{ hi with cancels := sound_update trivial hi.cancels }, .refl _⟩
  | create i ch =>
    simp only [Sys.step] at h
    obtain ⟨-, ⟨sh', pc'⟩, hr, rfl⟩ := Sys.thread_eq_some.1 h
    obtain ⟨hwf, he, hpc, heff⟩ := createStep_sound hr hi.store (hi.creates i)
    -- the row it inserts is a notification as admitted
    have hrec : (∀ r ∈ sh'.store, r.SentRecorded) ∧ ∀ r ∈ sh'.store, r.ScheduleRecorded := by
      rcases heff with hst | ⟨req, m, hpc₀, hst, -, -⟩
      · exact ⟨hst.sentRecorded hi.records, hst.scheduleRecorded hi.schedules⟩
      · have hm := hi.creates i
        rw [hpc₀] at hm
        rw [hst]
        exact ⟨List.forall_mem_append.2 ⟨hi.records, by simpa using hm.2.1.stored⟩,
          List.forall_mem_append.2 ⟨hi.schedules, by simpa using hm.2.2.1.stored⟩⟩
    obtain ⟨hc, hk, hsw, hw⟩ := hi.sound_of_extends he
    exact ⟨⟨hwf, hrec.1, hrec.2, sound_update hpc hc, hi.batches, hk, hsw, hw⟩, he⟩
  | batch i ch =>
    simp only [Sys.step] at h
    obtain ⟨-, ⟨sh', pc'⟩, hr, rfl⟩ := Sys.thread_eq_some.1 h
    obtain ⟨hwf, he, hpc, heff⟩ := batchStep_sound hr hi.store (hi.batches i)
    have hrec : (∀ r ∈ sh'.store, r.SentRecorded) ∧ ∀ r ∈ sh'.store, r.ScheduleRecorded := by
      rcases heff with hst | ⟨ns, hpc₀, hst, -, -⟩
      · exact hst ▸ ⟨hi.records, hi.schedules⟩
      · have hns := hi.batches i
        rw [hpc₀] at hns
        rw [hst]
        have hstored : ∀ m ∈ ns.map (·.stored), m.SentRecorded ∧ m.ScheduleRecorded := by
          simp only [List.forall_mem_map]
          exact fun m hm => ⟨(hns m hm).1.stored, (hns m hm).2.stored⟩
        exact ⟨List.forall_mem_append.2 ⟨hi.records, fun m hm => (hstored m hm).1⟩,
          List.forall_mem_append.2 ⟨hi.schedules, fun m hm => (hstored m hm).2⟩⟩
    obtain ⟨hc, hk, hsw, hw⟩ := hi.sound_of_extends he
    exact ⟨⟨hwf, hrec.1, hrec.2, hc, sound_update hpc hi.batches, hk, hsw, hw⟩, he⟩
  | cancel i ch =>
    simp only [Sys.step] at h
    obtain ⟨-, ⟨sh', pc'⟩, hr, rfl⟩ := Sys.thread_eq_some.1 h
    obtain ⟨hwf, he, hpc, hst⟩ := cancelStep_sound hr hi.store (hi.cancels i)
    obtain ⟨hc, hk, hsw, hw⟩ := hi.sound_of_extends he
    exact ⟨⟨hwf, hst.sentRecorded hi.records, hst.scheduleRecorded hi.schedules, hc, hi.batches,
      sound_update hpc hk, hsw, hw⟩, he⟩
  | sweep ch =>
    simp only [Sys.step] at h
    obtain ⟨-, ⟨sh', pc'⟩, hr, rfl⟩ := Sys.thread_eq_some.1 h
    obtain ⟨hwf, he, hpc, hst⟩ := sweepStep_sound hr hi.store hi.sweep
    obtain ⟨hc, hk, -, hw⟩ := hi.sound_of_extends he
    exact ⟨⟨hwf, hst.sentRecorded hi.records, hst.scheduleRecorded hi.schedules, hc, hi.batches,
      hk, hpc, hw⟩, he⟩
  | worker i ch =>
    simp only [Sys.step] at h
    obtain ⟨-, ⟨sh', pc'⟩, hr, rfl⟩ := Sys.thread_eq_some.1 h
    obtain ⟨hwf, he, hpc, hst⟩ := workerStep_sound hr hi.store (hi.workers i)
    obtain ⟨hc, hk, hsw, hw⟩ := hi.sound_of_extends he
    exact ⟨⟨hwf, hst.sentRecorded hi.records, hst.scheduleRecorded hi.schedules, hc, hi.batches,
      hk, hsw, sound_update hpc hw⟩, he⟩

theorem reachable_rowInv {s : Sys n} (hs : Reachable cfg s) : RowInv s := by
  induction hs with
  | init t₀ => exact rowInv_init t₀
  | step a _ h ih => exact (ih.step h).1

/-- **A sent or delivered notification has its send time and message id** (invariant 1 of the
specification), in every reachable state: the only copy written sent is `MarkAsSent`'s, and
every `Update` writes the copy's status with its send data. -/
theorem reachable_sent_recorded {s : Sys n} (hs : Reachable cfg s) :
    ∀ r ∈ s.sh.store, r.status = .sent ∨ r.status = .delivered →
      r.sentAt.isSome ∧ r.externalId.isSome :=
  (reachable_rowInv hs).records

/-- A notification created and sent: its row has the send time and the message id. -/
theorem reachable_sent_recorded_after_send :
    ∃ s, Reachable (⟨fun _ => none, 3, fun _ => .sms⟩ : Config 1) s ∧
      (∃ r ∈ s.sh.store, r.status = .sent) ∧
      ∀ r ∈ s.sh.store, r.status = .sent ∨ r.status = .delivered →
        r.sentAt.isSome ∧ r.externalId.isSome := by
  obtain ⟨s, hs, hp⟩ := @exists_reachable_of_run 1 ⟨fun _ => none, 3, fun _ => .sms⟩ 0
    [.createArrives 0 ⟨"r", "sms", "hi", "", none, none, none, []⟩, .create 0 (.at 1),
      .create 0 (.at 1), .create 0 (.at 1), .create 0 (.at 1), .worker 0 (.at 2),
      .worker 0 (.at 2), .worker 0 (.at 2), .worker 0 (.at 2), .worker 0 (.at 2)]
    (fun (s : Sys 1) => decide (∃ r ∈ s.sh.store, r.status = .sent)) (by decide)
  exact ⟨s, hs, of_decide_eq_true hp, reachable_sent_recorded hs⟩

/-- **No step loses a row or changes the fields no writer may change.** -/
theorem Reachable.step_extends {s s' : Sys n} {a : Action n} (hs : Reachable cfg s)
    (h : s.step cfg a = some s') : s.sh.store.Extends s'.sh.store :=
  ((reachable_rowInv hs).step h).2

/-! ## Terminal statuses -/

/-- A worker reads a queued row; a `Cancel` reads it too, writes it cancelled and returns nil;
the worker's `Update` then overwrites `cancelled` with `processing`, and its next step is the
provider `Send`. -/
theorem cancel_then_send :
    ∃ s s' a, Reachable (⟨fun _ => none, 3, fun _ => .sms⟩ : Config 1) s ∧
      s.step ⟨fun _ => none, 3, fun _ => .sms⟩ a = some s' ∧
      (s.sh.store.getById 0).map (·.status) = some .cancelled ∧
      (s'.sh.store.getById 0).map (·.status) = some .processing ∧
      s'.cancels 0 = .done 0 (.ok ()) ∧
      s'.workers 0 = .send { Notification.newNotification 0 "r" .sms "hi" 1000 with
        status := .processing } := by
  obtain ⟨s, s', hrun, hp, hst, hq⟩ := @Sys.exists_run_step_of_any 1
    ⟨fun _ => none, 3, fun _ => .sms⟩ (Sys.init 1 0)
    [.createArrives 0 ⟨"r", "sms", "hi", "", none, none, none, []⟩, .create 0 (.at 1000),
      .create 0 (.at 1000), .create 0 (.at 1000), .create 0 (.at 1000), .worker 0 (.at 2000),
      .worker 0 (.at 2000), .cancelArrives 0 0, .cancel 0 (.at 3000), .cancel 0 (.at 3000)]
    (.worker 0 (.at 4000)) (fun s => decide ((s.sh.store.getById 0).map (·.status) = some .cancelled))
    (fun s' => decide ((s'.sh.store.getById 0).map (·.status) = some .processing ∧
      s'.cancels 0 = .done 0 (.ok ()) ∧
      s'.workers 0 = .send { Notification.newNotification 0 "r" .sms "hi" 1000 with
        status := .processing }))
    (by decide)
  exact ⟨s, s', _, (Reachable.init 0).run _ hrun, hst, of_decide_eq_true hp, of_decide_eq_true hq⟩

end NotificationService
