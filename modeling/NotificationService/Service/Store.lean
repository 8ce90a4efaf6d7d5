import NotificationService.Domain.Notification
import Mathlib.Data.List.Sort

/-! # The notifications store

`NotificationRepository` (`internal/repository/postgres/postgres.go`) over the `notifications`
table, as the calls the service and the workers make:

* **`Store.create`** — `INSERT` of the row the columns keep (`Notification.stored`); a text the
  columns refuse fails the insert, a second row with a used idempotency key (as the column
  keeps it) fails with `ErrIdempotencyConflict` (the unique constraint), a used id with another
  error.
* **`Store.createBatch`** — the batch's inserts in one transaction: all rows or none.
* **`Store.getById`**, **`Store.getByIdempotencyKey`** — the single-row reads.
* **`Store.update`** — the full-row `UPDATE … WHERE id = $1`: every column but `created_at`
  (and `updated_at`, which the trigger sets and the model leaves out) is overwritten from the
  row the columns keep of the caller's copy; no row with the id is `ErrNotFound`, and a text
  the columns refuse fails the update.
* **`Store.getScheduledNotifications`** — `status = 'scheduled' AND scheduled_at <= before`,
  `before` sent at microseconds too, ascending `scheduled_at`, at most `limit` rows (ties in
  table order).

The lookups compare a text parameter with the column as it is: trailing spaces count, so a key
the column shortened is not found under the key the request sent.

A transport failure is not a case of these functions: the service model decides, at each call,
whether the call fails, and a failed call changes nothing. -/

namespace NotificationService

/-- The rows of the `notifications` table, in insertion order. -/
abbrev Store := List Notification

/-- Why an `INSERT` fails. -/
inductive InsertError
  /-- The unique constraint on `idempotency_key`: `ErrIdempotencyConflict`. -/
  | idempotencyConflict
  /-- The primary key: any other "failed to create notification". -/
  | duplicateId
  /-- A text the columns refuse (`value too long`, a NUL character). -/
  | valueTooLong
  deriving DecidableEq, Repr

namespace Store

/-- `GetByID`. -/
def getById (s : Store) (id : Nat) : Option Notification := s.find? (·.id == id)

/-- `GetByIdempotencyKey`. -/
def getByIdempotencyKey (s : Store) (key : String) : Option Notification :=
  s.find? (·.idempotencyKey == some key)

/-- `Create`: one `INSERT`. -/
def create (s : Store) (n : Notification) : Except InsertError Store :=
  if !n.fits then .error .valueTooLong
  else if n.idempotencyKey.isSome ∧ s.any (·.idempotencyKey == n.stored.idempotencyKey) then
    .error .idempotencyConflict
  else if s.any (·.id == n.id) then .error .duplicateId
  else .ok (s ++ [n.stored])

/-- `CreateBatch`: the inserts of one transaction, rolled back on the first failure. -/
def createBatch (s : Store) (ns : List Notification) : Except InsertError Store :=
  ns.foldlM create s

/-- `Update`: overwrite the row with the copy's id, keeping its `created_at`. -/
def update (s : Store) (n : Notification) : Option Store :=
  if s.any (·.id == n.id) && n.fits then
    some (s.map fun r => if r.id = n.id then { n.stored with createdAt := r.createdAt } else r)
  else none

/-- Whether a row is due: scheduled, with `scheduled_at <= before`. -/
def isDue (before : Int) (r : Notification) : Bool :=
  r.status == .scheduled && match r.scheduledAt with
    | some t => decide (t ≤ timestamptz before)
    | none => false

/-- `GetScheduledNotifications before limit`. -/
def getScheduledNotifications (s : Store) (before : Int) (limit : Nat) : List Notification :=
  ((s.filter (isDue before)).insertionSort fun a b => a.scheduledAt.getD 0 ≤ b.scheduledAt.getD 0).take
    limit

/-! ## What the writes keep

The facts every invariant of the service rests on: ids and set idempotency keys stay unique,
and no write loses a row or changes its `fixed` fields, provided that an `Update` writes a
copy that agrees with the row on them. -/

/-- Ids are unique, and so are the idempotency keys that are set (the table's primary key and
unique constraint); every row is as the columns keep it. -/
structure WellFormed (s : Store) : Prop where
  ids : (s.map (·.id)).Nodup
  keys : ∀ r₁ ∈ s, ∀ r₂ ∈ s, r₁.idempotencyKey.isSome →
    r₁.idempotencyKey = r₂.idempotencyKey → r₁.id = r₂.id
  rows : ∀ r ∈ s, r.IsRow

/-- The table has a row with the copy's id and `fixed` fields. -/
def Holds (s : Store) (c : Notification) : Prop := ∃ r ∈ s, r.id = c.id ∧ r.fixed = c.fixed

/-- Every row of `s` is still in `s'`, under its id and with its `fixed` fields. -/
def Extends (s s' : Store) : Prop := ∀ r ∈ s, s'.Holds r

theorem wellFormed_nil : WellFormed [] := ⟨List.nodup_nil, by simp, by simp⟩

theorem wellFormed_singleton {r : Notification} (h : r.IsRow) : WellFormed [r] :=
  ⟨List.nodup_singleton _, by simp, by simpa using h⟩

/-- **At most one row carries a given idempotency key.** -/
theorem WellFormed.length_filter_key_le {s : Store} (hs : s.WellFormed) (k : String) :
    (s.filter (·.idempotencyKey = some k)).length ≤ 1 := by
  have hnd : ((s.filter (·.idempotencyKey = some k)).map (·.id)).Nodup :=
    ((List.filter_sublist s).map _).nodup hs.ids
  rcases hl : s.filter (·.idempotencyKey = some k) with _ | ⟨a, _ | ⟨b, l⟩⟩
  · simp [hl]
  · simp [hl]
  · have hmem : ∀ r ∈ a :: b :: l, r ∈ s ∧ r.idempotencyKey = some k := fun r hr => by
      simpa using List.mem_filter.1 (hl ▸ hr : r ∈ s.filter (·.idempotencyKey = some k))
    have ha := hmem a (List.mem_cons_self a _)
    have hb := hmem b (List.mem_cons_of_mem a (List.mem_cons_self b l))
    have hab := hs.keys a ha.1 b hb.1 (by simp [ha.2]) (ha.2.trans hb.2.symm)
    rw [hl] at hnd
    simp [hab] at hnd

theorem holds_of_mem {s : Store} {r : Notification} (h : r ∈ s) : s.Holds r := ⟨r, h, rfl, rfl⟩

/-- A held copy stays held under any change that keeps its id and `fixed` fields. -/
theorem Holds.congr {s : Store} {c c' : Notification} (h : s.Holds c) (hid : c'.id = c.id)
    (hfix : c'.fixed = c.fixed) : s.Holds c' := by
  obtain ⟨r, hr, h₁, h₂⟩ := h
  exact ⟨r, hr, h₁.trans hid.symm, h₂.trans hfix.symm⟩

theorem getById_eq_some {s : Store} {id : Nat} {r : Notification} (h : s.getById id = some r) :
    r ∈ s ∧ r.id = id :=
  ⟨List.mem_of_find?_eq_some h, by simpa using List.find?_some h⟩

theorem getByIdempotencyKey_eq_some {s : Store} {k : String} {r : Notification}
    (h : s.getByIdempotencyKey k = some r) : r ∈ s ∧ r.idempotencyKey = some k :=
  ⟨List.mem_of_find?_eq_some h, by simpa using List.find?_some h⟩

theorem isDue_status {before : Int} {r : Notification} (h : isDue before r = true) :
    r.status = .scheduled := by
  simp only [isDue, Bool.and_eq_true, beq_iff_eq] at h
  exact h.1

theorem mem_getScheduledNotifications {s : Store} {before : Int} {limit : Nat} {r : Notification}
    (h : r ∈ s.getScheduledNotifications before limit) : r ∈ s ∧ isDue before r = true := by
  exact List.mem_filter.1 ((List.mem_insertionSort _).1 (List.mem_of_mem_take h))

/-- In a well-formed table `GetByID` finds every row under its id. -/
theorem getById_of_mem {s : Store} (hs : s.WellFormed) {r : Notification} (hr : r ∈ s) :
    s.getById r.id = some r := by
  cases hf : s.getById r.id with
  | none =>
    simp only [getById, List.find?_eq_none, beq_iff_eq] at hf
    exact absurd rfl (hf r hr)
  | some r' =>
    obtain ⟨hr', hid⟩ := getById_eq_some hf
    rw [List.inj_on_of_nodup_map hs.ids hr' hr hid]

theorem Extends.refl (s : Store) : s.Extends s := fun r hr => ⟨r, hr, rfl, rfl⟩

theorem Holds.of_extends {s s' : Store} {c : Notification} (h : s.Holds c) (he : s.Extends s') :
    s'.Holds c := by
  obtain ⟨r, hr, hid, hfix⟩ := h
  obtain ⟨r', hr', hid', hfix'⟩ := he r hr
  exact ⟨r', hr', hid'.trans hid, hfix'.trans hfix⟩

theorem Extends.trans {s₁ s₂ s₃ : Store} (h₁ : s₁.Extends s₂) (h₂ : s₂.Extends s₃) :
    s₁.Extends s₃ := fun r hr => (h₁ r hr).of_extends h₂

/-- In a well-formed table the row with a held copy's id is unique, so every row with that id
agrees with the copy. -/
theorem WellFormed.fixed_eq {s : Store} (hs : s.WellFormed) {c : Notification} (hc : s.Holds c)
    {r : Notification} (hr : r ∈ s) (hid : r.id = c.id) : r.fixed = c.fixed := by
  obtain ⟨r', hr', hid', hfix⟩ := hc
  rw [List.inj_on_of_nodup_map hs.ids hr hr' (hid.trans hid'.symm), hfix]

theorem create_eq_ok {s s' : Store} {n : Notification} (h : s.create n = .ok s') :
    s' = s ++ [n.stored] ∧ n.fits = true ∧ (∀ r ∈ s, r.id ≠ n.id) ∧
      (n.idempotencyKey.isSome → ∀ r ∈ s, r.idempotencyKey ≠ n.stored.idempotencyKey) := by
  unfold create at h
  split at h
  · cases h
  · split at h
    · cases h
    · split at h
      · cases h
      · cases h; simp_all

/-- An insert whose key the column keeps as a row's key hits the unique constraint. -/
theorem create_eq_conflict {s : Store} {n : Notification} (hn : n.fits = true)
    (hk : n.idempotencyKey.isSome) (hr : ∃ r ∈ s, r.idempotencyKey = n.stored.idempotencyKey) :
    s.create n = .error .idempotencyConflict := by
  have hany : s.any (·.idempotencyKey == n.stored.idempotencyKey) := by simpa using hr
  rw [create, if_neg (by simp [hn]), if_pos ⟨hk, hany⟩]

/-- No row's key is longer than its column, so `GetByIdempotencyKey` never finds a longer key. -/
theorem WellFormed.getByIdempotencyKey_of_length {s : Store} (hs : s.WellFormed) {k : String}
    (hk : 255 < k.length) : s.getByIdempotencyKey k = none := by
  cases h : s.getByIdempotencyKey k with
  | none => rfl
  | some r =>
    obtain ⟨hr, hkey⟩ := getByIdempotencyKey_eq_some h
    exact absurd ((hs.rows r hr).key_length hkey) (by omega)

/-- After an `INSERT`, `GetByID` finds the row the columns keep of the inserted record. -/
theorem getById_create {s s' : Store} {n : Notification} (h : s.create n = .ok s') :
    s'.getById n.id = some n.stored := by
  obtain ⟨rfl, -, hid, -⟩ := create_eq_ok h
  have hnone : s.find? (·.id == n.id) = none :=
    List.find?_eq_none.2 fun r hr => by simpa using hid r hr
  simp [getById, List.find?_append, hnone]

theorem WellFormed.create {s s' : Store} {n : Notification} (hs : s.WellFormed)
    (h : s.create n = .ok s') : s'.WellFormed ∧ s.Extends s' ∧ s'.Holds n := by
  obtain ⟨rfl, hfits, hid, hkey⟩ := create_eq_ok h
  refine ⟨⟨?_, ?_, ?_⟩, fun r hr => ⟨r, by simp [hr], rfl, rfl⟩, n.stored, by simp, rfl,
    n.stored_fixed⟩
  · simpa [List.nodup_append] using ⟨hs.ids, fun r hr e => hid r hr e⟩
  · simp only [List.mem_append, List.mem_singleton]
    rintro r₁ (h₁ | rfl) r₂ (h₂ | rfl) hsome heq
    · exact hs.keys r₁ h₁ r₂ h₂ hsome heq
    · exact absurd heq (hkey (by rw [heq] at hsome; simpa using hsome) r₁ h₁)
    · exact absurd heq.symm (hkey (by simpa using hsome) r₂ h₂)
    · rfl
  · simp only [List.mem_append, List.mem_singleton]
    rintro r (hr | rfl)
    exacts [hs.rows r hr, Notification.isRow_stored hfits]

theorem WellFormed.createBatch {s s' : Store} {ns : List Notification} (hs : s.WellFormed)
    (h : s.createBatch ns = .ok s') : s'.WellFormed ∧ s.Extends s' ∧ ∀ n ∈ ns, s'.Holds n := by
  induction ns generalizing s with
  | nil => cases h; exact ⟨hs, Extends.refl _, by simp⟩
  | cons n ns ih =>
    simp only [Store.createBatch, List.foldlM_cons] at h
    cases hc : s.create n with
    | error e => rw [hc] at h; cases h
    | ok s₁ =>
      rw [hc] at h
      obtain ⟨hs₁, he₁, hn⟩ := hs.create hc
      obtain ⟨hs', he', hns⟩ := ih hs₁ h
      refine ⟨hs', he₁.trans he', ?_⟩
      simpa using ⟨hn.of_extends he', hns⟩

theorem update_eq_some {s s' : Store} {c : Notification} (h : s.update c = some s') :
    c.fits = true ∧
      s' = s.map fun r => if r.id = c.id then { c.stored with createdAt := r.createdAt } else r := by
  unfold update at h
  split at h
  · rename_i hc
    exact ⟨(Bool.and_eq_true _ _ ▸ hc).2, (Option.some.inj h).symm⟩
  · cases h

/-- After an `Update`, `GetByID` of the copy's id finds the row the columns keep of the copy,
under the row's `created_at`. -/
theorem getById_update {s s' : Store} {c m : Notification} (h : s.update c = some s')
    (hm : s.getById c.id = some m) :
    s'.getById c.id = some { c.stored with createdAt := m.createdAt } := by
  have hid : m.id = c.id := (getById_eq_some hm).2
  have hp : (fun x : Notification => x.id == c.id) ∘
      (fun r : Notification => if r.id = c.id then { c.stored with createdAt := r.createdAt } else r) =
      (fun x : Notification => x.id == c.id) := by
    funext r
    by_cases hr : r.id = c.id <;> simp [hr]
  rw [(update_eq_some h).2, getById, List.find?_map, hp]
  simp only [getById] at hm
  simp [hm, hid]

theorem WellFormed.update {s s' : Store} {c : Notification} (hs : s.WellFormed) (hc : s.Holds c)
    (h : s.update c = some s') : s'.WellFormed ∧ s.Extends s' := by
  obtain ⟨hfits, rfl⟩ := update_eq_some h
  -- the replaced row keeps its id and, as the copy agrees with it, its fixed fields
  have hrow : ∀ r ∈ s,
      (if r.id = c.id then { c.stored with createdAt := r.createdAt } else r).id = r.id ∧
      (if r.id = c.id then { c.stored with createdAt := r.createdAt } else r).fixed = r.fixed ∧
      (if r.id = c.id then { c.stored with createdAt := r.createdAt } else r).IsRow := by
    intro r hr
    split
    · exact ⟨by simp_all, c.stored_fixed.trans (hs.fixed_eq hc hr ‹_›).symm,
        Notification.isRow_withCreatedAt hfits (hs.rows r hr).createdAt⟩
    · exact ⟨rfl, rfl, hs.rows r hr⟩
  refine ⟨⟨?_, ?_, ?_⟩, fun r hr => ⟨_, List.mem_map_of_mem _ hr, (hrow r hr).1, (hrow r hr).2.1⟩⟩
  · rw [List.map_map]
    exact (List.map_congr_left fun r hr => (hrow r hr).1).symm ▸ hs.ids
  · simp only [List.mem_map]
    rintro _ ⟨r₁, h₁, rfl⟩ _ ⟨r₂, h₂, rfl⟩ hsome heq
    have hk : ∀ r ∈ s,
        (if r.id = c.id then { c.stored with createdAt := r.createdAt } else r).idempotencyKey =
          r.idempotencyKey := fun r hr =>
      ((hrow r hr).2.2.key_eq (hs.rows r hr) (hrow r hr).2.1).1
    rw [(hrow r₁ h₁).1, (hrow r₂ h₂).1]
    rw [hk r₁ h₁, hk r₂ h₂] at heq
    exact hs.keys r₁ h₁ r₂ h₂ (hk r₁ h₁ ▸ hsome) heq
  · simp only [List.mem_map]
    rintro _ ⟨r, hr, rfl⟩
    exact (hrow r hr).2.2

/-- An `Update` that may fail: on success as `WellFormed.update`. -/
theorem WellFormed.update_if {s s' : Store} {c : Notification} {ok : Bool} (hs : s.WellFormed)
    (hc : s.Holds c) (h : (if ok then s.update c else none) = some s') :
    s'.WellFormed ∧ s.Extends s' := by
  split at h
  · exact hs.update hc h
  · cases h

/-! ## Rows that become scheduled

Only an `INSERT` makes a row scheduled: every `Update` of the service writes a copy marked
queued, processing, sent, failed or cancelled. `Rewrites` is what such a write, or no write,
does to the table. -/

theorem createBatch_eq_ok {s s' : Store} {ns : List Notification} (h : s.createBatch ns = .ok s') :
    s' = s ++ ns.map (·.stored) := by
  induction ns generalizing s with
  | nil => cases h; simp
  | cons n ns ih =>
    simp only [Store.createBatch, List.foldlM_cons] at h
    cases hc : s.create n with
    | error e => rw [hc] at h; cases h
    | ok s₁ =>
      rw [hc] at h
      rw [ih h, (create_eq_ok hc).1]
      simp

/-- A row after an `Update` is a row it left alone, or the row the columns keep of the copy,
under the row's `created_at`. -/
theorem mem_update {s s' : Store} {c r : Notification} (h : s.update c = some s') (hr : r ∈ s') :
    (r ∈ s ∧ r.id ≠ c.id) ∨ ∃ t, r = { c.stored with createdAt := t } := by
  rw [(update_eq_some h).2] at hr
  obtain ⟨r₀, h₀, rfl⟩ := List.mem_map.1 hr
  split
  · exact .inr ⟨_, rfl⟩
  · exact .inl ⟨h₀, ‹_›⟩

/-- A row after an `Update` that may fail is a row of before, or the row the columns keep of
the copy, under some `created_at`. -/
theorem mem_update_if {s s' : Store} {c r : Notification} {ok : Bool}
    (h : (if ok then s.update c else none) = some s') (hr : r ∈ s') :
    r ∈ s ∨ ∃ t, r = { c.stored with createdAt := t } := by
  split at h
  · exact (mem_update h hr).imp_left And.left
  · cases h

/-- An `Update` of a copy the columns accept finds no row only when no row has its id. -/
theorem update_eq_none {s : Store} {c : Notification} (h : s.update c = none)
    (hc : c.fits = true) : ∀ r ∈ s, r.id ≠ c.id := by
  unfold update at h
  split at h
  · cases h
  · simp_all

/-- An `Update` of a copy the columns accept, with the id of a row `GetByID` found, succeeds,
and `GetByID` then finds the row the columns keep of the copy. -/
theorem update_of_getById {s : Store} {c m : Notification} (hm : s.getById c.id = some m)
    (hc : c.fits = true) :
    ∃ s', s.update c = some s' ∧ s'.getById c.id = some { c.stored with createdAt := m.createdAt } := by
  cases hu : s.update c with
  | none =>
    obtain ⟨hmem, hid⟩ := getById_eq_some hm
    exact absurd hid (update_eq_none hu hc m hmem)
  | some s' => exact ⟨s', rfl, getById_update hu hm⟩

/-- An `Update` of a copy the table keeps as it is, with a row's id and `created_at`, leaves
the copy itself. -/
theorem update_of_getById_row {s : Store} {c m : Notification} (hm : s.getById c.id = some m)
    (hc : c.IsRow) (ht : c.createdAt = m.createdAt) :
    ∃ s', s.update c = some s' ∧ s'.getById c.id = some c := by
  obtain ⟨s', hu, hg⟩ := update_of_getById hm hc.1
  exact ⟨s', hu, by rw [hg, hc.2, ← ht]⟩

/-- `s'` is `s`, or `s` after an `Update` with a copy a writer may write back. -/
def Rewrites (s s' : Store) : Prop :=
  s' = s ∨ ∃ c, c.Writable ∧ s.update c = some s'

theorem Rewrites.refl (s : Store) : s.Rewrites s := .inl rfl

theorem Rewrites.of_update_if {s s' : Store} {c : Notification} {ok : Bool}
    (hc : c.Writable) (h : (if ok then s.update c else none) = some s') :
    s.Rewrites s' := by
  split at h
  · exact .inr ⟨c, hc, h⟩
  · cases h

/-- A rewrite keeps the ids. -/
theorem Rewrites.ids {s s' : Store} (h : s.Rewrites s') : s'.map (·.id) = s.map (·.id) := by
  rcases h with rfl | ⟨c, -, h⟩
  · rfl
  · rw [(update_eq_some h).2, List.map_map]
    refine List.map_congr_left fun r _ => ?_
    simp only [Function.comp_apply]
    split <;> simp_all

theorem Rewrites.exists_id {s s' : Store} (h : s.Rewrites s') {r : Notification} (hr : r ∈ s') :
    ∃ r₀ ∈ s, r₀.id = r.id :=
  List.mem_map.1 (h.ids ▸ List.mem_map_of_mem (·.id) hr)

/-- **A rewrite makes no row scheduled.** -/
theorem Rewrites.scheduled {s s' : Store} (h : s.Rewrites s') {r : Notification} (hr : r ∈ s')
    (hs : r.status = .scheduled) : r ∈ s := by
  rcases h with rfl | ⟨c, hc, h⟩
  · exact hr
  · rcases mem_update h hr with ⟨h₀, -⟩ | ⟨t, rfl⟩
    exacts [h₀, absurd hs hc.1]

/-- A rewrite keeps a property of every row that every copy a writer may write back leaves. -/
theorem Rewrites.forall {s s' : Store} (h : s.Rewrites s') {P : Notification → Prop}
    (hP : ∀ c : Notification, c.Writable → ∀ t, P { c.stored with createdAt := t })
    (hs : ∀ r ∈ s, P r) :
    ∀ r ∈ s', P r := by
  rcases h with rfl | ⟨c, hc, h⟩
  · exact hs
  · intro r hr
    rcases mem_update h hr with ⟨h₀, -⟩ | ⟨t, rfl⟩
    exacts [hs r h₀, hP c hc t]

/-- **A rewrite keeps every row's send data.** -/
theorem Rewrites.sentRecorded {s s' : Store} (h : s.Rewrites s')
    (hs : ∀ r ∈ s, r.SentRecorded) : ∀ r ∈ s', r.SentRecorded :=
  h.forall (fun _ hc _ => hc.2.stored) hs

/-- **A rewrite keeps every scheduled row's schedule time**: it writes no scheduled copy. -/
theorem Rewrites.scheduleRecorded {s s' : Store} (h : s.Rewrites s')
    (hs : ∀ r ∈ s, r.ScheduleRecorded) : ∀ r ∈ s', r.ScheduleRecorded :=
  h.forall (fun _ hc _ hsch => absurd hsch hc.1) hs

/-- The rows a sweep reads have distinct ids. -/
theorem nodup_getScheduledNotifications {s : Store} (hs : (s.map (·.id)).Nodup) (before : Int)
    (limit : Nat) : ((s.getScheduledNotifications before limit).map (·.id)).Nodup :=
  ((List.take_sublist _ _).map _).nodup
    (((List.perm_insertionSort _ _).map _).nodup_iff.2 (((List.filter_sublist s).map _).nodup hs))

end Store


end NotificationService
