import NotificationService.Handler.Pagination
import NotificationService.Service.Store

/-! # Listing notifications

`NotificationHandler.List` (`internal/handler`) turns the query into a
`domain.NotificationFilter` (`parseListFilter`). `NotificationRepository.List`
(`internal/repository/postgres`) turns the filter into SQL: a `WHERE` clause of conjuncts
`<column> <op> $k`, numbered in the order it meets the filter's set fields, with their values as
the arguments; a `COUNT(*)` over it for `Total`; and a select `ORDER BY created_at DESC
LIMIT $n OFFSET $n+1` with the page size and offset appended to the arguments
(`listNotifications`).

The conjuncts are kept as data (`SqlCond`) with the meaning PostgreSQL gives them
(`SqlCond.eval`): `$k` is the `k`-th argument, and a `NULL` column selects nothing. PostgreSQL
returns rows of equal `created_at` in an order of its own, so the sort is a parameter: any order
by `created_at` descending. `uuid.Parse` and `time.Parse(time.RFC3339, ·)` are parameters too.
Both queries read one state of the table, and a transport failure is not a case here, as in
`Store`.

* **`listWhere_selects`** — the clause, under its own arguments, selects exactly the rows the
  filter describes: each `$k` is numbered as its argument is appended.
* **`list_returns_filtered_page`** — for a query the handler accepts, with an offset that fits in
  `int`, `List` answers with `Total` the number of matching rows and, as its rows, the page
  `(page − 1) · page_size …` of the matching rows in the order PostgreSQL sorts them.
* **`list_pages_cover`** — when the matching rows have distinct `created_at`, reading pages
  `1 … TotalPages` of one table lists every matching row exactly once, newest first. -/

namespace NotificationService

/-! ## The filter -/

/-- `domain.NotificationFilter`. The status is the query's text as it is: the handler does not
check `domain.Status(status)`. -/
structure NotificationFilter where
  status : Option String
  channel : Option Channel
  batchId : Option Nat
  startDate : Option Int
  endDate : Option Int
  page : Int
  pageSize : Int
  deriving DecidableEq, Repr

/-- The rows a filter describes: every field that is set holds of the row. -/
def NotificationFilter.matches (f : NotificationFilter) (r : Notification) : Bool :=
  f.status.all (r.status.text == ·) && f.channel.all (r.channel == ·) &&
    f.batchId.all (r.batchId == some ·) && f.startDate.all (· ≤ r.createdAt) &&
    f.endDate.all (r.createdAt ≤ ·)

/-! ## `NotificationHandler.List`'s query -/

/-- An optional query parameter of `NotificationHandler.List`: absent when empty, else parsed,
and answered with `err` when the parse fails. -/
def optionalParam {α : Type} (parse : String → Option α) (err : ApiError) (s : String) :
    Except ApiError (Option α) :=
  if s = "" then pure none else
    match parse s with
    | some v => pure (some v)
    | none => throw err

/-- `NotificationHandler.List`'s filter, where `query name` is `r.URL.Query().Get(name)`. -/
def parseListFilter (parseUuid : String → Option Nat) (parseTime : String → Option Int)
    (query : String → String) : Except ApiError NotificationFilter := do
  let status := if query "status" = "" then none else some (query "status")
  let channel ← optionalParam Channel.ofText ⟨400, "INVALID_CHANNEL", "Invalid channel"⟩
    (query "channel")
  let batchId ← optionalParam parseUuid ⟨400, "INVALID_BATCH_ID", "Invalid batch ID"⟩
    (query "batch_id")
  let startDate ← optionalParam parseTime
    ⟨400, "INVALID_START_DATE", "Invalid start date format (use RFC3339)"⟩ (query "start_date")
  let endDate ← optionalParam parseTime
    ⟨400, "INVALID_END_DATE", "Invalid end date format (use RFC3339)"⟩ (query "end_date")
  let (page, pageSize) ← parsePagination (query "page") (query "page_size")
  pure ⟨status, channel, batchId, startDate, endDate, page, pageSize⟩

/-- An accepted query carries its pagination into the filter. -/
theorem parseListFilter_pagination {parseUuid : String → Option Nat}
    {parseTime : String → Option Int} {query : String → String} {f : NotificationFilter}
    (h : parseListFilter parseUuid parseTime query = .ok f) :
    parsePagination (query "page") (query "page_size") = .ok (f.page, f.pageSize) := by
  revert h
  unfold parseListFilter
  cases optionalParam Channel.ofText _ (query "channel") <;>
    cases optionalParam parseUuid _ (query "batch_id") <;>
    cases optionalParam parseTime _ (query "start_date") <;>
    cases optionalParam parseTime _ (query "end_date") <;>
    cases parsePagination (query "page") (query "page_size") <;>
    simp only [bind, Except.bind, pure, Except.pure, reduceCtorEq, false_implies]
  rintro ⟨⟩
  rfl

/-! ## The SQL of `NotificationRepository.List` -/

/-- A query argument or a column value, by its PostgreSQL type. -/
inductive SqlValue
  | text (s : String)
  | uuid (id : Nat)
  | timestamp (t : Int)
  | bigint (v : Int)
  deriving DecidableEq, Repr

/-- The columns `List` filters on. -/
inductive Column
  | status
  | channel
  | batchId
  | createdAt
  deriving DecidableEq, Repr

/-- A column of a row; `batch_id` is `NULL` outside batches. -/
def Column.value (r : Notification) : Column → Option SqlValue
  | .status => some (.text r.status.text)
  | .channel => some (.text r.channel.text)
  | .batchId => r.batchId.map .uuid
  | .createdAt => some (.timestamp r.createdAt)

/-- The comparisons `List` writes: `=`, and `>=` and `<=` between timestamps. -/
inductive SqlOp
  | eq
  | ge
  | le
  deriving DecidableEq, Repr

/-- A comparison of two values. -/
def SqlOp.eval : SqlOp → SqlValue → SqlValue → Bool
  | .eq, a, b => a == b
  | .ge, .timestamp a, .timestamp b => decide (b ≤ a)
  | .le, .timestamp a, .timestamp b => decide (a ≤ b)
  | _, _, _ => false

/-- A row's column compared with a value; a `NULL` column passes no comparison. -/
def Column.compare (column : Column) (op : SqlOp) (r : Notification) (a : SqlValue) : Bool :=
  match column.value r with
  | some v => op.eval v a
  | none => false

/-- A conjunct of the clause: `1=1`, or `fmt.Sprintf("<column> <op> $%d", k)`. -/
inductive SqlCond
  | true_
  | cmp (column : Column) (op : SqlOp) (k : Nat)
  deriving DecidableEq, Repr

/-- A conjunct on a row, `$k` standing for the `k`-th argument (a `$k` with no argument, which
`List` never writes, selects nothing). -/
def SqlCond.eval (args : List SqlValue) (r : Notification) : SqlCond → Bool
  | .true_ => true
  | .cmp column op k =>
    match args[k - 1]? with
    | some a => column.compare op r a
    | none => false

/-- The rows a conjunction selects under the arguments `args`. -/
def selectsAll (conds : List SqlCond) (args : List SqlValue) (r : Notification) : Bool :=
  conds.all (·.eval args r)

/-- `conditions`, `args` and `argIndex` as `List` builds them. -/
structure WhereClause where
  conditions : List SqlCond
  args : List SqlValue
  argIndex : Nat
  deriving DecidableEq, Repr

namespace WhereClause

/-- The clause before any filter: `1=1`, no argument, and `argIndex := 1`. -/
def empty : WhereClause := ⟨[.true_], [], 1⟩

/-- One `if filter.X != nil` block of `List`: the conjunct on `$argIndex`, the filter's value
appended to the arguments, and the next index. -/
def add (w : WhereClause) : Column × SqlOp × Option SqlValue → WhereClause
  | (column, op, some a) =>
    ⟨w.conditions ++ [.cmp column op w.argIndex], w.args ++ [a], w.argIndex + 1⟩
  | (_, _, none) => w

/-- Every `$k` of the clause names one of its arguments, and `argIndex` is the next number. -/
structure Numbered (w : WhereClause) : Prop where
  argIndex_eq : w.argIndex = w.args.length + 1
  refs : ∀ column op k, SqlCond.cmp column op k ∈ w.conditions → 1 ≤ k ∧ k ≤ w.args.length

theorem numbered_empty : empty.Numbered :=
  ⟨rfl, fun _ _ _ h => by simp [empty] at h⟩

variable {w : WhereClause}

theorem Numbered.add (hw : w.Numbered) (b : Column × SqlOp × Option SqlValue) :
    (w.add b).Numbered := by
  obtain ⟨column, op, _ | a⟩ := b
  · exact hw
  · refine ⟨by simp [WhereClause.add, hw.argIndex_eq], fun c o k hk => ?_⟩
    simp only [WhereClause.add, List.mem_append, List.mem_singleton, SqlCond.cmp.injEq] at hk
    simp only [WhereClause.add, List.length_append, List.length_singleton]
    rcases hk with hk | ⟨-, -, rfl⟩
    · have := hw.refs c o k hk; omega
    · rw [hw.argIndex_eq]; omega

/-- Arguments appended after the clause's own do not change what it selects. -/
theorem Numbered.selectsAll_append (hw : w.Numbered) (more : List SqlValue) (r : Notification) :
    selectsAll w.conditions (w.args ++ more) r = selectsAll w.conditions w.args r := by
  have heval : ∀ c ∈ w.conditions, c.eval (w.args ++ more) r = c.eval w.args r := by
    rintro (_ | ⟨column, op, k⟩) hc
    · rfl
    · have := hw.refs column op k hc
      simp only [SqlCond.eval, List.getElem?_append_left (show k - 1 < w.args.length by omega)]
  rw [Bool.eq_iff_iff]
  simp only [selectsAll, List.all_eq_true]
  exact forall₂_congr fun c hc => by rw [heval c hc]

/-- One block adds its comparison to what the clause selects. -/
theorem Numbered.selectsAll_add (hw : w.Numbered) (column : Column) (op : SqlOp)
    (a : Option SqlValue) (r : Notification) :
    selectsAll (w.add (column, op, a)).conditions (w.add (column, op, a)).args r =
      (selectsAll w.conditions w.args r && a.all (column.compare op r)) := by
  cases a with
  | none => simp [WhereClause.add]
  | some a =>
    have hlast : (w.args ++ [a])[w.argIndex - 1]? = some a := by
      rw [hw.argIndex_eq, Nat.add_sub_cancel, List.getElem?_append_right le_rfl]; simp
    have hold := hw.selectsAll_append [a] r
    simp only [selectsAll, WhereClause.add, List.all_append, List.all_cons, List.all_nil,
      Bool.and_true, Option.all_some, SqlCond.eval, hlast] at hold ⊢
    rw [hold]

/-- The blocks `List` runs, one after another: each keeps the numbering and adds its
comparison. -/
theorem numbered_foldl (bs : List (Column × SqlOp × Option SqlValue)) (hw : w.Numbered) :
    (bs.foldl WhereClause.add w).Numbered ∧ ∀ r,
      selectsAll (bs.foldl WhereClause.add w).conditions (bs.foldl WhereClause.add w).args r =
        (selectsAll w.conditions w.args r && bs.all fun b => b.2.2.all (b.1.compare b.2.1 r)) := by
  induction bs generalizing w with
  | nil => simp [hw]
  | cons b bs ih =>
    obtain ⟨hnum, hsel⟩ := ih (hw.add b)
    refine ⟨hnum, fun r => ?_⟩
    rw [List.foldl_cons, hsel, hw.selectsAll_add, List.all_cons, Bool.and_assoc]

end WhereClause

/-- The five blocks of `List`, in the code's order. -/
def listBlocks (f : NotificationFilter) : List (Column × SqlOp × Option SqlValue) :=
  [(.status, .eq, f.status.map .text),
   (.channel, .eq, f.channel.map fun c => .text c.text),
   (.batchId, .eq, f.batchId.map .uuid),
   (.createdAt, .ge, f.startDate.map .timestamp),
   (.createdAt, .le, f.endDate.map .timestamp)]

/-- `List`'s `WHERE` clause for a filter. -/
def listWhere (f : NotificationFilter) : WhereClause :=
  (listBlocks f).foldl WhereClause.add WhereClause.empty

theorem listWhere_numbered (f : NotificationFilter) : (listWhere f).Numbered :=
  (WhereClause.numbered_foldl _ WhereClause.numbered_empty).1

@[simp] theorem compare_status (r : Notification) (s : String) :
    Column.status.compare .eq r (.text s) = (r.status.text == s) := by
  simp [Column.compare, Column.value, SqlOp.eval]

@[simp] theorem compare_channel (r : Notification) (c : Channel) :
    Column.channel.compare .eq r (.text c.text) = (r.channel == c) := by
  cases h : r.channel <;> cases c <;> simp [Column.compare, Column.value, SqlOp.eval, h, Channel.text]

@[simp] theorem compare_batchId (r : Notification) (b : Nat) :
    Column.batchId.compare .eq r (.uuid b) = (r.batchId == some b) := by
  cases h : r.batchId <;> simp [Column.compare, Column.value, SqlOp.eval, h]

@[simp] theorem compare_createdAt_ge (r : Notification) (t : Int) :
    Column.createdAt.compare .ge r (.timestamp t) = decide (t ≤ r.createdAt) := rfl

@[simp] theorem compare_createdAt_le (r : Notification) (t : Int) :
    Column.createdAt.compare .le r (.timestamp t) = decide (r.createdAt ≤ t) := rfl

private theorem option_all_map {α β : Type} (o : Option α) (g : α → β) (p : β → Bool) :
    (o.map g).all p = o.all fun a => p (g a) := by
  cases o <;> rfl

/-- **The clause means the filter**: under its own arguments, `List`'s `WHERE` clause selects
exactly the rows the filter describes. -/
theorem listWhere_selects (f : NotificationFilter) (r : Notification) :
    selectsAll (listWhere f).conditions (listWhere f).args r = f.matches r := by
  rw [listWhere, (WhereClause.numbered_foldl _ WhereClause.numbered_empty).2 r]
  simp only [listBlocks, selectsAll, WhereClause.empty, List.all_cons, List.all_nil, SqlCond.eval,
    option_all_map, compare_status, compare_channel, compare_batchId, compare_createdAt_ge,
    compare_createdAt_le, NotificationFilter.matches, Bool.true_and, Bool.and_true, Bool.and_assoc]

/-! ## The queries -/

/-- The select of `List`: `WHERE` the conjuncts, `ORDER BY created_at DESC` (by `sortDesc`),
`LIMIT $limitArg OFFSET $offsetArg`, over `args`. -/
structure SelectQuery where
  conditions : List SqlCond
  limitArg : Nat
  offsetArg : Nat
  args : List SqlValue
  deriving DecidableEq, Repr

/-- The rows of the select; PostgreSQL rejects a negative `LIMIT` or `OFFSET`. -/
def SelectQuery.run (sortDesc : List Notification → List Notification) (st : Store)
    (q : SelectQuery) : Option (List Notification) :=
  match q.args[q.limitArg - 1]?, q.args[q.offsetArg - 1]? with
  | some (.bigint limit), some (.bigint offset) =>
    if limit < 0 ∨ offset < 0 then none
    else some (((sortDesc (st.filter (selectsAll q.conditions q.args))).drop offset.toNat).take
      limit.toNat)
  | _, _ => none

/-- `domain.NotificationListResult`. -/
structure NotificationListResult where
  notifications : List Notification
  total : Int
  page : Int
  pageSize : Int
  totalPages : Int
  deriving DecidableEq, Repr

/-- `NotificationRepository.List`: the count, the paging of `listPage`, and the select with the
page size and the offset as its last two arguments. A rejected select is
"failed to query notifications". -/
def listNotifications (sortDesc : List Notification → List Notification) (st : Store)
    (f : NotificationFilter) : Except ServiceError NotificationListResult :=
  let w := listWhere f
  let total : Int := (st.filter (selectsAll w.conditions w.args)).length
  let p := listPage f.page f.pageSize total
  let q : SelectQuery :=
    ⟨w.conditions, w.argIndex, w.argIndex + 1, w.args ++ [.bigint p.pageSize, .bigint p.offset]⟩
  match q.run sortDesc st with
  | some rows => .ok ⟨rows, total, p.page, p.pageSize, p.totalPages⟩
  | none => .error (.backend "failed to query notifications")

/-- The paging of an in-range page and size. -/
theorem listPage_of_range {page pageSize total : Int} (hp : 1 ≤ page) (hs₁ : 1 ≤ pageSize)
    (hs₂ : pageSize ≤ 100) (hfit : (page - 1) * pageSize < 2 ^ 63) :
    listPage page pageSize total = ⟨page, pageSize, (page - 1) * pageSize,
      total.tdiv pageSize + if 0 < total.tmod pageSize then 1 else 0⟩ := by
  have hnn : 0 ≤ (page - 1) * pageSize := mul_nonneg (by omega) (by omega)
  simp only [listPage, if_neg (not_lt.2 hp), if_neg (not_lt.2 hs₁), if_neg (not_lt.2 hs₂),
    wrapInt64_eq_self (by omega) hfit]

/-- `List` for an in-range page and size: the count and the page of the rows the filter
describes. -/
theorem listNotifications_eq (sortDesc : List Notification → List Notification) (st : Store)
    {f : NotificationFilter} (hp : 1 ≤ f.page) (hs₁ : 1 ≤ f.pageSize) (hs₂ : f.pageSize ≤ 100)
    (hfit : (f.page - 1) * f.pageSize < 2 ^ 63) :
    listNotifications sortDesc st f = .ok
      ⟨((sortDesc (st.filter f.matches)).drop ((f.page - 1) * f.pageSize).toNat).take
          f.pageSize.toNat,
        (st.filter f.matches).length, f.page, f.pageSize,
        (listPage f.page f.pageSize (st.filter f.matches).length).totalPages⟩ := by
  have hw := listWhere_numbered f
  have hsel : ∀ more, st.filter (selectsAll (listWhere f).conditions ((listWhere f).args ++ more))
      = st.filter f.matches := fun more =>
    List.filter_congr fun r _ => by rw [hw.selectsAll_append, listWhere_selects]
  have hlim : ((listWhere f).args ++ [SqlValue.bigint f.pageSize,
      .bigint ((f.page - 1) * f.pageSize)])[(listWhere f).argIndex - 1]? =
        some (.bigint f.pageSize) := by
    rw [hw.argIndex_eq, Nat.add_sub_cancel, List.getElem?_append_right le_rfl]; simp
  have hoff : ((listWhere f).args ++ [SqlValue.bigint f.pageSize,
      .bigint ((f.page - 1) * f.pageSize)])[(listWhere f).argIndex + 1 - 1]? =
        some (.bigint ((f.page - 1) * f.pageSize)) := by
    rw [hw.argIndex_eq, Nat.add_sub_cancel, List.getElem?_append_right (by omega)]; simp
  have hnn : ¬(f.pageSize < 0 ∨ (f.page - 1) * f.pageSize < 0) := by
    have : 0 ≤ (f.page - 1) * f.pageSize := mul_nonneg (by omega) (by omega)
    omega
  have hcount := hsel []
  rw [List.append_nil] at hcount
  simp only [listNotifications, listPage_of_range hp hs₁ hs₂ hfit, SelectQuery.run, hlim, hoff,
    hnn, if_false, hsel, hcount]

/-- Pages `0 … n − 1` of `size` rows each, put back together, are the first `n · size` rows. -/
theorem flatMap_pages (L : List Notification) (size : Nat) : ∀ n : Nat,
    (List.range n).flatMap (fun i => (L.drop (i * size)).take size) = L.take (n * size)
  | 0 => by simp
  | n + 1 => by
    rw [List.range_succ, List.flatMap_append, flatMap_pages L size n, List.flatMap_singleton,
      ← List.take_add, Nat.succ_mul]

/-- `TotalPages` pages hold the rows, with less than a page to spare. -/
theorem totalPages_bounds {total size : Nat} (hs₁ : 1 ≤ size) (hs₂ : size ≤ 100) :
    total ≤ (listPage 1 size total).totalPages.toNat * size ∧
      (listPage 1 size total).totalPages.toNat * size < total + size := by
  rw [listPage_of_range le_rfl (by omega) (by omega) (by simp),
    Int.tdiv_eq_ediv (Int.natCast_nonneg _) (by omega),
    Int.tmod_eq_emod (Int.natCast_nonneg _) (by omega)]
  dsimp only
  have hqr := Int.ediv_add_emod (total : Int) size
  have hr₀ := Int.emod_nonneg (total : Int) (show (size : Int) ≠ 0 by omega)
  have hr₁ := Int.emod_lt_of_pos (total : Int) (show (0 : Int) < size by omega)
  have hq : 0 ≤ (total : Int) / size := Int.ediv_nonneg (by omega) (by omega)
  zify
  rw [Int.toNat_of_nonneg (by split_ifs <;> omega)]
  split_ifs with h <;> constructor <;> nlinarith

/-- Two orders of distinct instants by `created_at` descending are the same order. -/
theorem sortDesc_unique {l₁ l₂ l : List Notification} (h₁ : l₁.Perm l) (h₂ : l₂.Perm l)
    (s₁ : l₁.Pairwise fun a b => b.createdAt ≤ a.createdAt)
    (s₂ : l₂.Pairwise fun a b => b.createdAt ≤ a.createdAt)
    (hd : (l.map (·.createdAt)).Nodup) : l₁ = l₂ :=
  List.Perm.eq_of_sorted (fun _ _ ha hb hab hba => List.inj_on_of_nodup_map hd (h₁.subset ha)
    (h₂.subset hb) (le_antisymm hba hab)) s₁ s₂ (h₁.trans h₂.symm)

private theorem mapM_except_ok {α β ε : Type} {g : α → Except ε β} {h : α → β} :
    ∀ {l : List α}, (∀ a ∈ l, g a = .ok (h a)) → l.mapM g = .ok (l.map h)
  | [], _ => rfl
  | a :: l, hl => by
    rw [List.mapM_cons, hl a (List.mem_cons_self a l),
      mapM_except_ok fun b hb => hl b (List.mem_cons_of_mem a hb)]
    rfl

/-- **Reading every page lists every matching row once.** For any table of fewer than `2^62`
rows and any filter and page size from 1 to 100 under which the matching rows have distinct
`created_at`: requesting pages `1 … TotalPages` (the count page 1 reports), each sorted by
PostgreSQL in any order by `created_at` descending, succeeds, and the pages together hold the
matching rows, each exactly once, newest first. -/
theorem list_pages_cover (sorts : Nat → List Notification → List Notification)
    (hsorts : ∀ i l, (sorts i l).Perm l ∧ (sorts i l).Pairwise fun a b => b.createdAt ≤ a.createdAt)
    (st : Store) {f : NotificationFilter} (hs₁ : 1 ≤ f.pageSize) (hs₂ : f.pageSize ≤ 100)
    (hdistinct : ((st.filter f.matches).map (·.createdAt)).Nodup) (hsmall : st.length < 2 ^ 62) :
    ∃ pages : List NotificationListResult,
      (List.range (listPage 1 f.pageSize (st.filter f.matches).length).totalPages.toNat).mapM
          (fun i : Nat => listNotifications (sorts i) st { f with page := i + 1 }) = .ok pages ∧
      (pages.flatMap (·.notifications)).Perm (st.filter f.matches) ∧
      (pages.flatMap (·.notifications)).Pairwise fun a b => b.createdAt ≤ a.createdAt := by
  obtain ⟨s, hs⟩ : ∃ s : Nat, f.pageSize = s := ⟨f.pageSize.toNat, by omega⟩
  set M := st.filter f.matches
  set L := sorts 0 M
  have hT : M.length ≤ st.length := List.length_filter_le _ _
  obtain ⟨hcover, hspare⟩ := @totalPages_bounds M.length s (by omega) (by omega)
  rw [← hs] at hcover hspare
  set n := (listPage 1 f.pageSize M.length).totalPages.toNat
  have hpage : ∀ i ∈ List.range n, listNotifications (sorts i) st { f with page := i + 1 } =
      .ok ⟨(L.drop (i * s)).take s, M.length, (i : Int) + 1, s,
        (listPage ((i : Int) + 1) s M.length).totalPages⟩ := by
    intro i hi
    have hi : i < n := List.mem_range.1 hi
    have hfit : ((i + 1 : Nat) - 1 : Int) * f.pageSize < 2 ^ 63 := by
      rw [hs]; push_cast; simp only [add_sub_cancel_right]; norm_cast
      nlinarith
    have hm : st.filter ({ f with page := (i : Int) + 1 } : NotificationFilter).matches = M := rfl
    have hsame : sorts i M = L :=
      sortDesc_unique (hsorts i M).1 (hsorts 0 M).1 (hsorts i M).2 (hsorts 0 M).2 hdistinct
    rw [@listNotifications_eq (sorts i) st { f with page := i + 1 } (by simp)
      hs₁ hs₂ (by simpa using hfit)]
    simp only [hm, hsame]
    simp only [hs, Int.toNat_natCast, add_sub_cancel_right]
    norm_cast
  refine ⟨(List.range n).map fun i => ⟨(L.drop (i * s)).take s, M.length, (i : Int) + 1, s,
    (listPage ((i : Int) + 1) s M.length).totalPages⟩,
    mapM_except_ok hpage, ?_⟩
  have hjoin : ((List.range n).map fun i : Nat =>
      (⟨(L.drop (i * s)).take s, M.length, (i : Int) + 1, s,
        (listPage ((i : Int) + 1) s M.length).totalPages⟩ :
        NotificationListResult)).flatMap (·.notifications) = L := by
    rw [List.flatMap_map, flatMap_pages L s n,
      List.take_of_length_le (by rw [(hsorts 0 M).1.length_eq]; exact hcover)]
  rw [hjoin]
  exact hsorts 0 M

/-- The sort by `created_at` descending `List.mergeSort` gives. -/
def sortByCreatedDesc (l : List Notification) : List Notification :=
  l.mergeSort fun a b => decide (b.createdAt ≤ a.createdAt)

theorem sortByCreatedDesc_sorts (l : List Notification) :
    (sortByCreatedDesc l).Perm l ∧
      (sortByCreatedDesc l).Pairwise fun a b => b.createdAt ≤ a.createdAt :=
  ⟨List.mergeSort_perm l _, (List.sorted_mergeSort (fun a b c hab hbc => by simp at hab hbc ⊢; omega)
    (fun a b => by simpa using le_total b.createdAt a.createdAt) l).imp fun h => by simpa using h⟩

/-- Two rows, one to a page: page 1 holds the newer, page 2 the older. -/
theorem list_pages_cover_two_rows :
    let st : Store :=
      [⟨0, none, "r", .sms, "a", .normal, .queued, none, none, none, 0, none, none, 1⟩,
       ⟨1, none, "r", .sms, "b", .normal, .queued, none, none, none, 0, none, none, 2⟩]
    let f : NotificationFilter := ⟨none, none, none, none, none, 1, 1⟩
    (∀ l, (sortByCreatedDesc l).Perm l ∧
      (sortByCreatedDesc l).Pairwise fun a b => b.createdAt ≤ a.createdAt) ∧
    1 ≤ f.pageSize ∧ f.pageSize ≤ 100 ∧ ((st.filter f.matches).map (·.createdAt)).Nodup ∧
    st.length < 2 ^ 62 ∧
    ∃ pages : List NotificationListResult,
      (List.range (listPage 1 f.pageSize (st.filter f.matches).length).totalPages.toNat).mapM
          (fun i : Nat => listNotifications sortByCreatedDesc st { f with page := i + 1 }) = .ok pages ∧
      (pages.flatMap (·.notifications)).Perm (st.filter f.matches) ∧
      (pages.flatMap (·.notifications)).Pairwise fun a b => b.createdAt ≤ a.createdAt := by
  intro st f
  exact ⟨sortByCreatedDesc_sorts, by decide, by decide, by decide, by decide,
    @list_pages_cover (fun _ => sortByCreatedDesc) (fun _ => sortByCreatedDesc_sorts) st f
      (by decide) (by decide) (by decide) (by decide)⟩

end NotificationService
