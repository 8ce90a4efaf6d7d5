import NotificationService.Go.Numeric
import Mathlib.Data.Rat.Floor

/-! # Paging through notifications

`NotificationHandler.List` (`internal/handler`) reads `page` and `page_size` from the query over
the defaults 1 and 20, and rejects a value `strconv.Atoi` does not parse or that is out of range
(`parsePagination`); the other filters it parses first (status, channel, batch, dates) are left
out. `NotificationRepository.List` (`internal/repository/postgres`) clamps the two again,
queries with `LIMIT pageSize OFFSET (page − 1) * pageSize` computed in 64-bit `int`, and reports
`TotalPages` from the row count (`listPage`).

* **`listing_pages_exact`** — for an accepted query whose offset fits in `int`, the query is
  `LIMIT page_size OFFSET (page − 1) · page_size` and `TotalPages = ⌈total / page_size⌉`.
* **`huge_page_wraps_offset`** — `Atoi` accepts pages up to `2^63 − 1`, and from about
  `2^63 / page_size` on the offset wraps around to a negative number. -/

namespace NotificationService

/-- An error response of the API (`JSONError`): HTTP status, code and message. -/
structure ApiError where
  status : Nat
  code : String
  message : String
  deriving DecidableEq, Repr

/-- The answer to a bad `page`. -/
def invalidPage : ApiError := ⟨400, "INVALID_PAGE", "Invalid page number"⟩

/-- The answer to a bad `page_size`. -/
def invalidPageSize : ApiError :=
  ⟨400, "INVALID_PAGE_SIZE", "Page size must be between 1 and 100"⟩

/-- One integer query parameter of `NotificationHandler.List`: `default` when absent, and `err`
when `strconv.Atoi` fails or the value is `bad`. -/
def parseQueryInt (s : String) (default : Int) (bad : Int → Bool) (err : ApiError) :
    Except ApiError Int :=
  if s = "" then pure default else
    match strconvAtoi s with
    | some v => if bad v then throw err else pure v
    | none => throw err

/-- An accepted parameter is not bad, and it is the default or an `int`. -/
theorem parseQueryInt_eq_ok {s : String} {d v : Int} {bad : Int → Bool} {err : ApiError}
    (hd : bad d = false) (h : parseQueryInt s d bad err = .ok v) :
    bad v = false ∧ (v = d ∨ -2 ^ 63 ≤ v ∧ v < 2 ^ 63) := by
  unfold parseQueryInt at h
  split at h
  · cases h; exact ⟨hd, .inl rfl⟩
  · split at h
    · rename_i hs
      split at h
      · cases h
      · cases h; exact ⟨by simpa using ‹¬bad v = true›, .inr (strconvAtoi_eq_some hs)⟩
    · cases h

/-- The filter's `Page` and `PageSize` from the query's `page` and `page_size` (the empty
string when absent). -/
def parsePagination (pageStr pageSizeStr : String) : Except ApiError (Int × Int) := do
  let page ← parseQueryInt pageStr 1 (· < 1) invalidPage
  let pageSize ← parseQueryInt pageSizeStr 20 (fun q => q < 1 || 100 < q) invalidPageSize
  pure (page, pageSize)

example : parsePagination "" "" = .ok (1, 20) := rfl
example : parsePagination "0" "20" = .error invalidPage := rfl
example : parsePagination "2" "101" = .error invalidPageSize := rfl

/-- **An accepted query has a page of at least 1 within `int`, and a size from 1 to 100.** -/
theorem parsePagination_ok {pageStr pageSizeStr : String} {page pageSize : Int}
    (h : parsePagination pageStr pageSizeStr = .ok (page, pageSize)) :
    1 ≤ page ∧ page < 2 ^ 63 ∧ 1 ≤ pageSize ∧ pageSize ≤ 100 := by
  unfold parsePagination at h
  cases hp : parseQueryInt pageStr 1 (· < 1) invalidPage <;>
    cases hq : parseQueryInt pageSizeStr 20 (fun q => q < 1 || 100 < q) invalidPageSize <;>
    simp only [hp, hq, bind, Except.bind, pure, Except.pure, Except.ok.injEq,
      Prod.mk.injEq, reduceCtorEq] at h
  obtain ⟨rfl, rfl⟩ := h
  have hp' := parseQueryInt_eq_ok rfl hp
  have hq' := parseQueryInt_eq_ok rfl hq
  simp only [decide_eq_false_iff_not, Bool.or_eq_false_iff] at hp' hq'
  omega

/-- What `NotificationRepository.List` makes of the filter's `Page` and `PageSize` and the row
count. -/
structure PageQuery where
  /-- The page reported: `Page`, with anything below 1 read as 1. -/
  page : Int
  /-- The page size reported, and the query's `LIMIT`. -/
  pageSize : Int
  /-- The query's `OFFSET`. -/
  offset : Int
  /-- `TotalPages`. -/
  totalPages : Int
  deriving DecidableEq, Repr

/-- `NotificationRepository.List`'s paging: `(page − 1) * pageSize` is an `int` product and wraps
around; `int(total) / pageSize` and `%` truncate toward zero. -/
def listPage (filterPage filterPageSize total : Int) : PageQuery :=
  let page := if filterPage < 1 then 1 else filterPage
  let pageSize :=
    if filterPageSize < 1 then 20 else if 100 < filterPageSize then 100 else filterPageSize
  { page := page
    pageSize := pageSize
    offset := wrapInt64 ((page - 1) * pageSize)
    totalPages := total.tdiv pageSize + if 0 < total.tmod pageSize then 1 else 0 }

/-- The page count is the ceiling of the row count over the page size. -/
theorem totalPages_eq_ceil {total pageSize : Int} (ht : 0 ≤ total) (hs : 0 < pageSize) :
    total.tdiv pageSize + (if 0 < total.tmod pageSize then 1 else 0) =
      ⌈(total : ℚ) / pageSize⌉ := by
  rw [Int.tdiv_eq_ediv ht hs.le, Int.tmod_eq_emod ht hs.le, eq_comm, Int.ceil_eq_iff,
    lt_div_iff₀ (by exact_mod_cast hs), div_le_iff₀ (by exact_mod_cast hs)]
  have hqr := Int.ediv_add_emod total pageSize
  have hr₀ := Int.emod_nonneg total hs.ne'
  have hr₁ := Int.emod_lt_of_pos total hs
  split_ifs with hr <;> push_cast <;> constructor <;> norm_cast <;> nlinarith

/-- **For an accepted query whose offset fits in `int`, paging is exact**: the query reads
`page_size` rows from offset `(page − 1) · page_size`, which is not negative, and reports
`TotalPages = ⌈total / page_size⌉`, for every row count. -/
theorem listing_pages_exact {pageStr pageSizeStr : String} {page pageSize : Int}
    (h : parsePagination pageStr pageSizeStr = .ok (page, pageSize))
    (hfit : (page - 1) * pageSize < 2 ^ 63) {total : Int} (htotal : 0 ≤ total) :
    (listPage page pageSize total).pageSize = pageSize ∧
      (listPage page pageSize total).offset = (page - 1) * pageSize ∧
      0 ≤ (listPage page pageSize total).offset ∧
      (listPage page pageSize total).totalPages = ⌈(total : ℚ) / pageSize⌉ := by
  obtain ⟨hp, -, hs₁, hs₂⟩ := parsePagination_ok h
  have hpage : (if page < 1 then 1 else page) = page := if_neg (not_lt.2 hp)
  have hsize : (if pageSize < 1 then 20 else if 100 < pageSize then 100 else pageSize) =
      pageSize := by rw [if_neg (not_lt.2 hs₁), if_neg (not_lt.2 hs₂)]
  have hnn : 0 ≤ (page - 1) * pageSize := mul_nonneg (by omega) (by omega)
  have hoff : wrapInt64 ((page - 1) * pageSize) = (page - 1) * pageSize :=
    wrapInt64_eq_self (by omega) hfit
  simp only [listPage, hpage, hsize, hoff, true_and]
  exact ⟨hnn, totalPages_eq_ceil htotal (by omega)⟩

/-- Page 3 of 45 rows, 20 to a page. -/
theorem listing_pages_exact_third :
    parsePagination "3" "20" = .ok (3, 20) ∧ (3 - 1) * 20 < (2 : Int) ^ 63 ∧ (0 : Int) ≤ 45 ∧
      ((listPage 3 20 45).pageSize = 20 ∧ (listPage 3 20 45).offset = (3 - 1) * 20 ∧
        0 ≤ (listPage 3 20 45).offset ∧
        (listPage 3 20 45).totalPages = ⌈((45 : Int) : ℚ) / (20 : Int)⌉) :=
  ⟨rfl, by norm_num, by norm_num, @listing_pages_exact "3" "20" 3 20 rfl (by norm_num) 45 (by norm_num)⟩

/-- A page `Atoi` accepts, `92233720368547760`, with `page_size = 100`: the product
`9223372036854775900` is past `2^63 − 1`, and the offset wraps around to a negative number. -/
theorem huge_page_wraps_offset :
    parsePagination "92233720368547760" "100" = .ok (92233720368547760, 100) ∧
      ∀ total, (listPage 92233720368547760 100 total).offset = -9223372036854775716 ∧
        (92233720368547760 - 1) * 100 = (9223372036854775900 : Int) :=
  ⟨rfl, fun _ => ⟨rfl, rfl⟩⟩

end NotificationService
