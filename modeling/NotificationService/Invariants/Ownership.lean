import NotificationService.System

/-! # Exclusive holding of identifiers

Several statements about the service say that an identifier is in one place only: a
notification is admitted to the queue at most once, a notification is held by at most one
worker. Each is an `Exclusive` assignment of identifiers to holders (the shared state, or one
thread), kept by every step:

* **`Exclusive.transfer`** — a step that moves identifiers only between one thread and the
  shared state, and adds only fresh ones, keeps the assignment exclusive.
* **`AdmissionInv`**, **`reachable_admissionInv`** — the admission log, and the ids each
  `Create` and `CreateBatch` may still add to it, are exclusive and below `nextId`; so the log
  never names a notification twice (`Reachable.admitted_nodup`). -/

namespace NotificationService

/-! ## Exclusive assignments -/

/-- Each holder's identifiers are distinct, and no identifier has two holders. -/
structure Exclusive {H : Type} (claims : H → List Nat) : Prop where
  nodup : ∀ h, (claims h).Nodup
  unique : ∀ {h₁ h₂ x}, x ∈ claims h₁ → x ∈ claims h₂ → h₁ = h₂

section Transfer

variable {H : Type} {claims claims' : H → List Nat} {a b : H}

theorem Exclusive.nodup_append (hex : Exclusive claims) (hab : a ≠ b) :
    (claims a ++ claims b).Nodup :=
  List.nodup_append.2 ⟨hex.nodup a, hex.nodup b, fun _ ha hb => hab (hex.unique ha hb)⟩

/-- **A step between one thread and the shared state keeps holding exclusive.** If only the
claims of `a` and `b` change, and their new claims come from their old ones and from `fresh`
identifiers nobody held, the new assignment is exclusive. -/
theorem Exclusive.transfer (hex : Exclusive claims) (hab : a ≠ b) {fresh : List Nat}
    (hfresh : fresh.Nodup) (hnew : ∀ x ∈ fresh, ∀ h, x ∉ claims h)
    (hsame : ∀ h, h ≠ a → h ≠ b → claims' h = claims h)
    (hsub : List.Subperm (claims' a ++ claims' b) (claims a ++ claims b ++ fresh)) :
    Exclusive claims' := by
  have hnd : (claims' a ++ claims' b).Nodup := by
    refine hsub.nodup (List.nodup_append.2 ⟨hex.nodup_append hab, hfresh, fun x hx hf => ?_⟩)
    rcases List.mem_append.1 hx with h | h
    exacts [hnew x hf a h, hnew x hf b h]
  obtain ⟨hna, hnb, hdis⟩ := List.nodup_append.1 hnd
  -- an identifier now with `a` or `b` was with `a` or `b`, or is fresh
  have hother : ∀ h x, h ≠ a → h ≠ b → x ∈ claims h → x ∈ claims' a ∨ x ∈ claims' b → False := by
    intro h x ha hb hx hx'
    rcases List.mem_append.1 (hsub.subset (List.mem_append.2 hx')) with h' | h'
    · rcases List.mem_append.1 h' with h' | h'
      exacts [ha (hex.unique hx h'), hb (hex.unique hx h')]
    · exact hnew x h' h hx
  have hab' : ∀ h x, h = a ∨ h = b → x ∈ claims' h → x ∈ claims' a ∨ x ∈ claims' b := by
    rintro h x (rfl | rfl) hx
    exacts [.inl hx, .inr hx]
  refine ⟨fun h => ?_, fun {h₁ h₂ x} h₁x h₂x => ?_⟩
  · by_cases ha : h = a
    · exact ha ▸ hna
    by_cases hb : h = b
    · exact hb ▸ hnb
    rw [hsame h ha hb]; exact hex.nodup h
  · by_contra e
    by_cases h1 : h₁ = a ∨ h₁ = b <;> by_cases h2 : h₂ = a ∨ h₂ = b
    · rcases h1 with rfl | rfl <;> rcases h2 with rfl | rfl
      exacts [e rfl, hdis h₁x h₂x, hdis h₂x h₁x, e rfl]
    · push_neg at h2
      exact hother h₂ x h2.1 h2.2 (hsame h₂ h2.1 h2.2 ▸ h₂x) (hab' h₁ x h1 h₁x)
    · push_neg at h1
      exact hother h₁ x h1.1 h1.2 (hsame h₁ h1.1 h1.2 ▸ h₁x) (hab' h₂ x h2 h₂x)
    · push_neg at h1 h2
      exact e (hex.unique (hsame h₁ h1.1 h1.2 ▸ h₁x) (hsame h₂ h2.1 h2.2 ▸ h₂x))

end Transfer

/-! ## Holders in the service -/

/-- Who can hold an identifier: the shared state (the admission log, or the queue), or a
thread. -/
inductive Holder (n : Nat)
  | shared
  | create (i : Nat)
  | batch (i : Nat)
  | sweep
  | worker (i : Fin n)
  deriving DecidableEq

variable {n : Nat} {cfg : Config n}

/-! ## The admission log -/

/-- The admission log, and the ids each request thread may still add to it. -/
def admissionClaims (s : Sys n) : Holder n → List Nat
  | .shared => s.sh.admitted
  | .create i => (s.creates i).admits
  | .batch i => (s.batches i).admits
  | .sweep | .worker _ => []

/-- Admission is exclusive, and every id it involves was taken from `nextId`. -/
structure AdmissionInv (s : Sys n) : Prop where
  exclusive : Exclusive (admissionClaims s)
  bound : ∀ h, ∀ x ∈ admissionClaims s h, x < s.sh.nextId

theorem admissionInv_init (t₀ : Int) : AdmissionInv (Sys.init n t₀) := by
  have h0 : ∀ h, admissionClaims (Sys.init n t₀) h = [] := by intro h; cases h <;> rfl
  exact ⟨⟨fun h => by simp [h0], fun hx _ => by simp [h0] at hx⟩, fun h x hx => by simp [h0] at hx⟩

/-- A step that leaves every claim and `nextId` as they were keeps the invariant. -/
theorem AdmissionInv.congr {s s' : Sys n} (hi : AdmissionInv s)
    (hc : ∀ h, admissionClaims s' h = admissionClaims s h) (hn : s'.sh.nextId = s.sh.nextId) :
    AdmissionInv s' :=
  ⟨⟨fun h => hc h ▸ hi.exclusive.nodup h, fun h₁ h₂ => hi.exclusive.unique (hc _ ▸ h₁) (hc _ ▸ h₂)⟩,
    fun h x hx => hn ▸ hi.bound h x (hc h ▸ hx)⟩

/-- A step of the request thread `b` that admits as `Shared.Admits` says keeps the
invariant. -/
theorem AdmissionInv.thread {s s' : Sys n} (hi : AdmissionInv s) {b : Holder n}
    (hb : Holder.shared ≠ b)
    (hsame : ∀ h, h ≠ .shared → h ≠ b → admissionClaims s' h = admissionClaims s h)
    (hadm : s.sh.Admits s'.sh (admissionClaims s b) (admissionClaims s' b)) :
    AdmissionInv s' := by
  obtain ⟨hle, Δ, hlog, hsub⟩ := hadm
  have hsub' : List.Sublist (admissionClaims s' .shared ++ admissionClaims s' b)
      (admissionClaims s .shared ++ admissionClaims s b ++
        List.range' s.sh.nextId (s'.sh.nextId - s.sh.nextId)) := by
    simpa only [admissionClaims, hlog, List.append_assoc] using hsub.append_left s.sh.admitted
  refine ⟨hi.exclusive.transfer hb (List.nodup_range' _ _) ?_ hsame hsub'.subperm, fun h x hx => ?_⟩
  · intro x hx h hh
    have := hi.bound h x hh
    simp at hx; omega
  · by_cases h1 : h = .shared ∨ h = b
    · have hx' : x ∈ admissionClaims s' .shared ++ admissionClaims s' b := by
        rcases h1 with rfl | rfl <;> simp [hx]
      rcases List.mem_append.1 (hsub'.subset hx') with h' | h'
      · rcases List.mem_append.1 h' with h' | h'
        · exact lt_of_lt_of_le (hi.bound _ x h') hle
        · exact lt_of_lt_of_le (hi.bound _ x h') hle
      · simp at h'; omega
    · push_neg at h1
      rw [hsame h h1.1 h1.2] at hx
      exact lt_of_lt_of_le (hi.bound h x hx) hle

/-- **One step keeps admission exclusive.** -/
theorem AdmissionInv.step {s s' : Sys n} {a : Action n} (hi : AdmissionInv s)
    (h : s.step cfg a = some s') : AdmissionInv s' := by
  cases a with
  | createArrives i req =>
    simp only [Sys.step] at h
    split at h <;> cases h
    refine hi.congr (fun h => ?_) rfl
    cases h with
    | create j =>
      by_cases hj : j = i
      · subst hj; simp [admissionClaims, *, CreatePc.admits]
      · simp [admissionClaims, Function.update_noteq hj]
    | _ => rfl
  | batchArrives i reqs =>
    simp only [Sys.step] at h
    split at h <;> cases h
    refine hi.congr (fun h => ?_) rfl
    cases h with
    | batch j =>
      by_cases hj : j = i
      · subst hj; simp [admissionClaims, *, BatchPc.admits]
      · simp [admissionClaims, Function.update_noteq hj]
    | _ => rfl
  | cancelArrives i id =>
    simp only [Sys.step] at h
    split at h <;> cases h
    exact hi.congr (fun h => by cases h <;> rfl) rfl
  | create i ch =>
    simp only [Sys.step] at h
    obtain ⟨-, ⟨sh', pc'⟩, hr, rfl⟩ := Sys.thread_eq_some.1 h
    refine hi.thread (show Holder.shared ≠ .create i by intro e; cases e) (fun h h₁ h₂ => ?_) ?_
    · cases h <;> simp_all [admissionClaims, Function.update_noteq]
    · simpa [admissionClaims] using createStep_admits hr
  | batch i ch =>
    simp only [Sys.step] at h
    obtain ⟨-, ⟨sh', pc'⟩, hr, rfl⟩ := Sys.thread_eq_some.1 h
    refine hi.thread (show Holder.shared ≠ .batch i by intro e; cases e) (fun h h₁ h₂ => ?_) ?_
    · cases h <;> simp_all [admissionClaims, Function.update_noteq]
    · simpa [admissionClaims] using batchStep_admits hr
  | cancel i ch =>
    simp only [Sys.step] at h
    obtain ⟨-, ⟨sh', pc'⟩, hr, rfl⟩ := Sys.thread_eq_some.1 h
    obtain ⟨-, hid, hlog⟩ := cancelStep_frame hr
    exact hi.congr (fun h => by cases h <;> simp [admissionClaims, hlog]) hid
  | sweep ch =>
    simp only [Sys.step] at h
    obtain ⟨-, ⟨sh', pc'⟩, hr, rfl⟩ := Sys.thread_eq_some.1 h
    obtain ⟨hid, hlog⟩ := sweepStep_frame hr
    exact hi.congr (fun h => by cases h <;> simp [admissionClaims, hlog]) hid
  | worker i ch =>
    simp only [Sys.step] at h
    obtain ⟨-, ⟨sh', pc'⟩, hr, rfl⟩ := Sys.thread_eq_some.1 h
    obtain ⟨hid, hlog⟩ := workerStep_frame hr
    exact hi.congr (fun h => by cases h <;> simp [admissionClaims, hlog]) hid

theorem reachable_admissionInv {s : Sys n} (hs : Reachable cfg s) : AdmissionInv s := by
  induction hs with
  | init t₀ => exact admissionInv_init t₀
  | step a _ h ih => exact ih.step h

/-- **The admission path enqueues each notification at most once.** -/
theorem Reachable.admitted_nodup {s : Sys n} (hs : Reachable cfg s) : s.sh.admitted.Nodup :=
  (reachable_admissionInv hs).exclusive.nodup .shared

end NotificationService
