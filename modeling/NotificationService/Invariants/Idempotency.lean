import NotificationService.Invariants.Table
import NotificationService.Invariants.Ownership

/-! # Idempotent admission

`Create` with an idempotency key first looks the key up, and if it misses, inserts; two
requests with one key can both miss and race to the insert. The table's unique constraint
turns the loser's insert into `ErrIdempotencyConflict`, and the loser then returns the
winner's row instead of enqueueing. Over every interleaving of all threads, with any call
failing, this gives what the key promises (`idempotent_admission`):

* at most one row carries the key (`Store.WellFormed.length_filter_key_le`);
* the admission path has enqueued that row's notification at most once
  (`Reachable.admitted_nodup`);
* every `Create` with the key that returned a notification returned that row's id and content
  (`RowInv`: a returned notification is a row of the table);
* no later step removes the row or changes its key or content (`Reachable.step_extends`). -/

namespace NotificationService

variable {n : Nat} {cfg : Config n}

/-- **Idempotent admission.** In every reachable state and for every key `k`, with `k'` what
the `VARCHAR(255)` column keeps of it: at most one row carries `k'`; the admission path has
enqueued its notification at most once; every `Create` with key `k` that returned a
notification returned the id and content of the row with `k'`; and no step from here loses that
row or changes its key or content. -/
theorem idempotent_admission {s : Sys n} (hs : Reachable cfg s) (k : String) :
    (s.sh.store.filter (·.idempotencyKey = some (varchar 255 k))).length ≤ 1 ∧
    (∀ r ∈ s.sh.store, r.idempotencyKey = some (varchar 255 k) → s.sh.admitted.count r.id ≤ 1) ∧
    (∀ i req m, s.creates i = .done req (.ok m) → req.idempotencyKey = some k →
      ∃ r ∈ s.sh.store, r.idempotencyKey = some (varchar 255 k) ∧ r.id = m.id ∧
        r.content = m.content) ∧
    ∀ a s', s.step cfg a = some s' → s.sh.store.Extends s'.sh.store := by
  have hi := reachable_rowInv hs
  refine ⟨hi.store.length_filter_key_le _,
    fun r _ _ => List.nodup_iff_count_le_one.1 hs.admitted_nodup r.id,
    fun i req m hdone hk => ?_, fun a s' h => hs.step_extends h⟩
  have hsound := hi.creates i
  rw [hdone] at hsound
  obtain ⟨⟨r, hr, hid, hfix⟩, hkey⟩ := hsound
  simp only [Notification.fixed, Prod.mk.injEq] at hfix
  -- the row keeps its key as the column does, and the copy's key is the request's
  have hrow := congrArg Notification.idempotencyKey (hi.store.rows r hr).2
  rw [Notification.stored_idempotencyKey] at hrow
  exact ⟨r, hr, by rw [← hrow, hfix.2.2.2.2.2.2, hkey, hk, Option.map_some'], hid, hfix.2.2.2.1⟩

/-- Two `Create`s with key `"k"` and different contents race: both miss the lookup, the
second insert conflicts and returns the first one's row. -/
theorem idempotent_admission_race :
    let cfg : Config 0 := ⟨fun _ => none, 3, Fin.elim0⟩
    let a : CreateRequest := ⟨"r", "sms", "a", "", none, some "k", none, []⟩
    let b : CreateRequest := { a with content := "b" }
    let s := ((Sys.init 0 0).run cfg [.createArrives 0 a, .createArrives 1 b, .create 0 (.at 1000),
      .create 1 (.at 1000), .create 0 (.at 1000), .create 1 (.at 1000), .create 1 (.at 1000),
      .create 0 (.at 1000), .create 0 (.at 1000)]).getD (Sys.init 0 0)
    s.creates 1 = .done b (.ok { Notification.newNotification 0 "r" .sms "a" 1000 with
        idempotencyKey := some "k" }) ∧
      ((s.sh.store.filter (·.idempotencyKey = some (varchar 255 "k"))).length ≤ 1 ∧
      (∀ r ∈ s.sh.store, r.idempotencyKey = some (varchar 255 "k") →
        s.sh.admitted.count r.id ≤ 1) ∧
      (∀ i req m, s.creates i = .done req (.ok m) → req.idempotencyKey = some "k" →
        ∃ r ∈ s.sh.store, r.idempotencyKey = some (varchar 255 "k") ∧ r.id = m.id ∧
          r.content = m.content) ∧
      ∀ a s', s.step cfg a = some s' → s.sh.store.Extends s'.sh.store) :=
  ⟨by decide, idempotent_admission (reachable_run_getD (by decide)) "k"⟩

/-- **A key its column shortens is never found again.** A `Create` whose key `k` runs past the
255 characters of the column by spaces only, against a table that holds the row the column
kept for an earlier `Create` with `k`: the lookup compares the whole of `k` and misses, the
insert keeps the same 255 characters and hits the unique constraint, and the read-back misses
again, so the request returns `ErrNotFound` where the key promises the earlier notification.
The table is well formed in every reachable state (`reachable_rowInv`), and the new record fits
its columns whenever the key does and its other texts are short. -/
theorem create_overlong_key_not_found {templates : String → Option Template} {sh : Shared}
    {req : CreateRequest} {k : String} {m : Notification} {ch₁ ch₂ ch₃ : Choice}
    (hwf : sh.store.WellFormed) (hk : req.idempotencyKey = some k) (hlen : 255 < k.length)
    (hrow : ∃ r ∈ sh.store, r.idempotencyKey = some (varchar 255 k))
    (hok : ch₁.ok = true ∧ ch₂.ok = true ∧ ch₃.ok = true)
    (hm : createNotification templates (ch₁.lookupOk 0) req sh.nextId ch₁.t₁ ch₁.t₂ = .ok m)
    (hfits : m.fits = true) :
    runAlone (createStep templates) (sh, .start req) [ch₁, ch₂, ch₃] =
      some ({ sh with nextId := sh.nextId + 1 }, .done req (.error .notFound)) := by
  have hmiss := hwf.getByIdempotencyKey_of_length hlen
  have hmk : m.idempotencyKey = some k := (createNotification_spec hm).2.2.2.2.1.trans hk
  have hconf : sh.store.create m = .error .idempotencyConflict :=
    Store.create_eq_conflict hfits (by simp [hmk]) (by simpa [hmk] using hrow)
  simp [runAlone, createStep, idempotencyLookup, hk, hok.1, hok.2.1, hok.2.2, hmiss, hm, hconf]

set_option maxRecDepth 2048 in
/-- A table holding the row of an earlier `Create` whose key was 255 letters and a space: the
same request again returns `ErrNotFound`. -/
theorem create_overlong_key_not_found_again :
    let k : String := ⟨List.replicate 255 'k' ++ [' ']⟩
    let r : Notification := ⟨0, none, "r", .sms, "a", .normal, .queued, none, none, none, 0,
      some ⟨List.replicate 255 'k'⟩, none, 0⟩
    let req : CreateRequest := ⟨"r", "sms", "a", "", none, some k, none, []⟩
    let sh : Shared := ⟨[r], Keyspace.empty, 1000, 1, [0]⟩
    runAlone (createStep fun _ => none) (sh, .start req) [.at 1000, .at 1000, .at 1000] =
      some ({ sh with nextId := 2 }, .done req (.error .notFound)) := by
  intro k r req sh
  have htext : textFits ⟨List.replicate 255 'k'⟩ = true := by
    unfold textFits; rw [List.all_replicate]; rfl
  have hlen : (⟨List.replicate 255 'k'⟩ : String).length = 255 := List.length_replicate 255 'k'
  obtain ⟨hfits, hkeep⟩ := varchar_push_space htext hlen
  have hkey : varcharFits 255 ⟨List.replicate 255 'k'⟩ = true := by
    rw [varcharFits, htext, lengthFits_of_length_le hlen.le]; rfl
  refine create_overlong_key_not_found (Store.wellFormed_singleton ⟨?_, ?_⟩) rfl ?_
    ⟨r, .head _, congrArg some hkeep.symm⟩ ⟨rfl, rfl, rfl⟩ rfl ?_
  · show (varcharFits 255 "r" && textFits "a" && true && varcharFits 255 _ && true) = true
    rw [hkey]; decide
  · show { r with idempotencyKey := some (varchar 255 ⟨List.replicate 255 'k'⟩) } = r
    rw [varchar_of_length_le hlen.le]
  · show 255 < (List.replicate 255 'k' ++ [' ']).length
    rw [List.length_append, List.length_replicate]; decide
  · show (varcharFits 255 "r" && textFits "a" && true && varcharFits 255 k && true) = true
    rw [hfits]; decide

end NotificationService
