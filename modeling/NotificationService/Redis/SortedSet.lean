import Mathlib.Data.List.Nodup

/-! # Redis sorted sets

The queue and the rate limiter keep their state in Redis sorted sets (`ZADD`, `ZPOPMIN`,
`ZREMRANGEBYSCORE`, `ZCARD`). A sorted set is a list of `(score, member)` pairs whose
members are distinct; scores are integers (the queue's doubles are counted in units of
`2^-112`, see `score`).

* **`ZSet.add`** — `ZADD` of one pair: a member already present has its score replaced,
  a new member is appended; `addAll` is `ZADD` with several pairs, taken in order.
* **`ZSet.popMin`** — `ZPOPMIN … 1`: removes and returns a member of least score. Redis
  breaks score ties by the members' byte order, the model by insertion order; nothing below
  depends on the order among equal scores.
* **`ZSet.removeRangeByScore`**, **`ZSet.card`** — `ZREMRANGEBYSCORE` and `ZCARD`. -/

namespace NotificationService

/-- A Redis sorted set: `(score, member)` pairs, members distinct. -/
abbrev ZSet (α : Type) := List (Int × α)

namespace ZSet

variable {α : Type}

/-- The members of a sorted set. -/
def members (z : ZSet α) : List α := z.map Prod.snd

/-- `ZADD key score member`. -/
def add [DecidableEq α] (z : ZSet α) (score : Int) (m : α) : ZSet α :=
  z.filter (fun e => e.2 ≠ m) ++ [(score, m)]

/-- `ZADD key s₁ m₁ s₂ m₂ …`: the pairs are added in order. -/
def addAll [DecidableEq α] (z : ZSet α) (ps : List (Int × α)) : ZSet α :=
  ps.foldl (fun z p => z.add p.1 p.2) z

/-- The entry of least score, the earliest one among equal scores. -/
def minEntry : ZSet α → Option (Int × α)
  | [] => none
  | e :: z =>
    match minEntry z with
    | none => some e
    | some m => if m.1 < e.1 then some m else some e

/-- `ZPOPMIN key 1`: the member of least score, and the set without it. -/
def popMin [DecidableEq α] (z : ZSet α) : Option (α × ZSet α) :=
  (minEntry z).map fun e => (e.2, z.erase e)

/-- `ZREMRANGEBYSCORE key lo hi`: drop the entries with `lo ≤ score ≤ hi`. -/
def removeRangeByScore (z : ZSet α) (lo hi : Int) : ZSet α :=
  z.filter fun e => ¬(lo ≤ e.1 ∧ e.1 ≤ hi)

/-- `ZCARD key`. -/
def card (z : ZSet α) : Nat := z.length

@[simp] theorem members_nil : members ([] : ZSet α) = [] := rfl

theorem mem_members {z : ZSet α} {m : α} : m ∈ members z ↔ ∃ s, (s, m) ∈ z := by
  simp [members]

section Add

variable [DecidableEq α]

theorem mem_add {z : ZSet α} {s : Int} {m e : α} :
    e ∈ members (z.add s m) ↔ e = m ∨ e ∈ members z := by
  simp only [mem_members, add, List.mem_append, List.mem_filter, List.mem_singleton,
    Prod.mk.injEq, decide_eq_true_eq]
  constructor
  · rintro ⟨s', ⟨h, -⟩ | ⟨-, rfl⟩⟩
    · exact .inr ⟨s', h⟩
    · exact .inl rfl
  · rintro (rfl | ⟨s', h⟩)
    · exact ⟨s, .inr ⟨rfl, rfl⟩⟩
    · by_cases he : e = m
      · exact ⟨s, .inr ⟨rfl, he⟩⟩
      · exact ⟨s', .inl ⟨h, he⟩⟩

/-- Adding a member keeps the members distinct. -/
theorem nodup_add {z : ZSet α} (s : Int) (m : α) (h : (members z).Nodup) :
    (members (z.add s m)).Nodup := by
  simp only [members, add, List.map_append, List.map_cons, List.map_nil]
  refine List.nodup_append.2 ⟨?_, List.nodup_singleton _, ?_⟩
  · exact (List.filter_sublist z).map Prod.snd |>.nodup h
  · simp [List.disjoint_singleton, List.mem_filter]

/-- Every entry of a set after `ZADD` was in the set before, or is the new pair. -/
theorem mem_add_entry {z : ZSet α} {s : Int} {m : α} {e : Int × α} (he : e ∈ z.add s m) :
    e ∈ z ∨ e = (s, m) := by
  simp only [add, List.mem_append, List.mem_filter, List.mem_singleton] at he
  exact he.imp (·.1) id

/-- How often a member occurs after `ZADD`: once if it is the added one, else as before. -/
theorem count_add (z : ZSet α) (s : Int) (m e : α) (h : (members z).Nodup) :
    (members (z.add s m)).count e = if e = m then 1 else (members z).count e := by
  have hnd := nodup_add s m h
  split
  · subst e; exact List.count_eq_one_of_mem hnd (mem_add.2 (.inl rfl))
  · rename_i hem
    by_cases hz : e ∈ members z
    · rw [List.count_eq_one_of_mem hnd (mem_add.2 (.inr hz)), List.count_eq_one_of_mem h hz]
    · rw [List.count_eq_zero_of_not_mem hz, List.count_eq_zero_of_not_mem]
      simpa [mem_add, hem] using hz

/-- Removing the entry of a member removes that member once. -/
theorem members_erase {z : ZSet α} {e : Int × α} (he : e ∈ z) (h : (members z).Nodup) :
    members (z.erase e) = (members z).erase e.2 := by
  induction z with
  | nil => simp at he
  | cons d z ih =>
    simp only [members, List.map_cons, List.nodup_cons] at h ⊢
    by_cases hd : d = e
    · subst hd; simp
    · have he' : e ∈ z := (List.mem_cons.1 he).resolve_left (Ne.symm hd)
      have hne : d.2 ≠ e.2 := fun h' => h.1 (h' ▸ List.mem_map_of_mem Prod.snd he')
      simp only [List.erase_cons, beq_iff_eq, hd, hne, if_false, List.map_cons]
      exact congrArg _ (ih he' h.2)

end Add

/-! ## The entry `ZPOPMIN` takes -/

theorem minEntry_mem : ∀ {z : ZSet α} {e : Int × α}, minEntry z = some e → e ∈ z
  | [], _, h => by simp [minEntry] at h
  | d :: z, e, h => by
    simp only [minEntry] at h
    split at h
    · cases h; exact List.mem_cons_self _ _
    · rename_i m hm
      split at h <;> cases h
      · exact List.mem_cons_of_mem _ (minEntry_mem hm)
      · exact List.mem_cons_self _ _

theorem minEntry_cons_ne_none (e : Int × α) (z : ZSet α) : minEntry (e :: z) ≠ none := by
  simp only [minEntry]
  split
  · simp
  · split <;> simp

/-- The entry `ZPOPMIN` takes has the least score in the set. -/
theorem minEntry_le : ∀ {z : ZSet α} {e : Int × α}, minEntry z = some e → ∀ d ∈ z, e.1 ≤ d.1
  | [], _, h => by simp [minEntry] at h
  | d :: z, e, h => by
    simp only [minEntry] at h
    intro d' hd'
    split at h
    · rename_i hm
      cases h
      rcases List.mem_cons.1 hd' with rfl | hd'
      · exact le_rfl
      · cases z with
        | nil => simp at hd'
        | cons d'' z => exact absurd hm (minEntry_cons_ne_none d'' z)
    · rename_i m hm
      have ih := minEntry_le hm
      split at h <;> cases h <;> rcases List.mem_cons.1 hd' with rfl | hd'
      · exact le_of_lt ‹_›
      · exact ih _ hd'
      · exact le_rfl
      · exact le_trans (not_lt.1 ‹_›) (ih _ hd')

theorem minEntry_eq_none {z : ZSet α} : minEntry z = none ↔ z = [] := by
  cases z with
  | nil => simp [minEntry]
  | cons e z => simpa using minEntry_cons_ne_none e z

variable [DecidableEq α]

/-- `ZPOPMIN` finds nothing exactly when the set is empty. -/
theorem popMin_eq_none {z : ZSet α} : popMin z = none ↔ z = [] := by
  simp [popMin, minEntry_eq_none]

/-- What `ZPOPMIN` returns: an entry of least score, removed from the set. -/
theorem popMin_eq_some {z z' : ZSet α} {m : α} (h : popMin z = some (m, z')) :
    ∃ s, (s, m) ∈ z ∧ z' = z.erase (s, m) ∧ ∀ d ∈ z, s ≤ d.1 := by
  simp only [popMin, Option.map_eq_some', Prod.mk.injEq] at h
  obtain ⟨⟨s, m'⟩, he, rfl, rfl⟩ := h
  exact ⟨s, minEntry_mem he, rfl, minEntry_le he⟩

end ZSet

end NotificationService
