import GoCleanArch.GoRuntime

/-!
The numbers of `SQLHandler.applyFindPageOption` and `FindPage` (part_003) and of
`NewPagination` (part_015): the page and page size after defaulting, the values handed
to gorm's `Offset` and `Limit`, the LIMIT and OFFSET clause gorm writes from them, and
the pagination `FindPage` reports for the count it read. `int` is 64 bits wide, so
`*`, `+` and `-` wrap (`wrap64`) and `/` truncates toward zero. The sort fields and
preloads only shape the query, and the rows it returns are not modelled.
-/

namespace GoCleanArch

structure FindPageOption where
  page : Int
  perPage : Int
  page_range : InInt64 page
  perPage_range : InInt64 perPage

structure PageQuery where
  page : Int
  perPage : Int
  offset : Int
  limit : Int
  deriving DecidableEq, Repr

structure Pagination where
  page : Int
  perPage : Int
  totalPages : Int
  totalItems : Int
  deriving DecidableEq, Repr

def applyFindPageOption (option : Option FindPageOption) : PageQuery :=
  let page := match option with
    | some option => if 0 < option.page then option.page else 1
    | none => 1
  let perPage := match option with
    | some option => if 0 < option.perPage then option.perPage else 10
    | none => 10
  ⟨page, perPage, wrap64 (wrap64 (page - 1) * perPage), perPage⟩

/-- gorm's `clause.Limit` after `Offset(offset).Limit(limit)`: the `Limit` call merges in
the earlier offset only when it is positive, and `Build` writes `LIMIT` for a
non-negative limit and `OFFSET` for a positive offset. -/
structure LimitClause where
  limit : Option Int
  offset : Option Int
  deriving DecidableEq, Repr

def PageQuery.limitClause (query : PageQuery) : LimitClause :=
  ⟨if 0 ≤ query.limit then some query.limit else none,
    if 0 < query.offset then some query.offset else none⟩

def LimitClause.skipped (clause : LimitClause) : Int := clause.offset.getD 0

def newPagination (page perPage totalItems : Int) : Pagination :=
  ⟨page, perPage, (wrap64 (wrap64 (totalItems + perPage) - 1)).tdiv perPage, totalItems⟩

-- What `FindPage` asks of the database, and the pagination it returns for the count.
def findPage (option : Option FindPageOption) (totalItems : Int) : PageQuery × Pagination :=
  let query := applyFindPageOption option
  (query, newPagination query.page query.perPage totalItems)

-- An exact page window: the SQL skips `(page - 1) * perPage` rows itself and takes `perPage`.
def OffsetExact (query : PageQuery) : Prop :=
  query.limitClause.skipped = (query.page - 1) * query.perPage ∧
    query.limitClause.limit = some query.perPage

-- `TotalPages` is the ceiling of `totalItems / perPage`: the fewest pages that hold them all.
def PagesExact (pagination : Pagination) : Prop :=
  (pagination.totalPages - 1) * pagination.perPage < pagination.totalItems ∧
    pagination.totalItems ≤ pagination.totalPages * pagination.perPage

theorem wrap64_eq_self_iff {x : Int} : wrap64 x = x ↔ InInt64 x :=
  ⟨fun same => same ▸ wrap64_inInt64 x, wrap64_of_inInt64⟩

theorem applyFindPageOption_ranges (option : Option FindPageOption) :
    1 ≤ (applyFindPageOption option).page ∧ (applyFindPageOption option).page ≤ int64Max ∧
      1 ≤ (applyFindPageOption option).perPage ∧ (applyFindPageOption option).perPage ≤ int64Max := by
  rcases option with _ | ⟨page, perPage, ⟨-, pageMax⟩, ⟨-, perPageMax⟩⟩
  · decide
  · simp only [applyFindPageOption]
    unfold int64Max at *
    split <;> split <;> omega

theorem applyFindPageOption_offset (option : Option FindPageOption) :
    (applyFindPageOption option).offset =
      wrap64 (((applyFindPageOption option).page - 1) * (applyFindPageOption option).perPage) := by
  obtain ⟨low, high, -⟩ := applyFindPageOption_ranges option
  have below : InInt64 ((applyFindPageOption option).page - 1) := by
    unfold InInt64 int64Min int64Max at *
    omega
  rw [← wrap64_of_inInt64 below]
  rfl

theorem newPagination_pagesExact {page perPage totalItems : Int} (positive : 0 < perPage)
    (counted : 0 ≤ totalItems) (fits : totalItems + perPage - 1 ≤ int64Max) :
    PagesExact (newPagination page perPage totalItems) := by
  have numerator : wrap64 (wrap64 (totalItems + perPage) - 1) = totalItems + perPage - 1 := by
    rw [Int.sub_eq_add_neg, wrap64_add_wrap64, ← Int.sub_eq_add_neg, wrap64_eq_self_iff]
    unfold InInt64 int64Min at *
    omega
  have pages : (newPagination page perPage totalItems).totalPages =
      (totalItems + perPage - 1) / perPage := by
    rw [newPagination, numerator, Int.tdiv_eq_ediv (by omega) (Int.le_of_lt positive)]
  have below := Int.ediv_mul_le (totalItems + perPage - 1) (Int.ne_of_gt positive)
  have above := Int.lt_ediv_add_one_mul_self (totalItems + perPage - 1) positive
  rw [Int.add_mul, Int.one_mul] at above
  refine ⟨?_, ?_⟩ <;> rw [pages] <;> dsimp only [newPagination]
  · rw [Int.sub_mul, Int.one_mul]
    omega
  · omega

theorem PageQuery.skipped_limitClause (query : PageQuery) :
    query.limitClause.skipped = if 0 < query.offset then query.offset else 0 := by
  show (if 0 < query.offset then some query.offset else none).getD 0 = _
  split <;> rfl

-- The page and page size are positive int64s; the SQL skips exactly `(page - 1) * perPage`
-- rows when that product fits in int64; and the page count is the ceiling whenever
-- `totalItems + perPage - 1` fits.
theorem find_page_exact_in_range (option : Option FindPageOption) (totalItems : Int)
    (counted : 0 ≤ totalItems) :
    (1 ≤ (findPage option totalItems).1.page ∧ (findPage option totalItems).1.page ≤ int64Max ∧
      1 ≤ (findPage option totalItems).1.perPage ∧
      (findPage option totalItems).1.perPage ≤ int64Max) ∧
    (OffsetExact (findPage option totalItems).1 ↔
      ((findPage option totalItems).1.page - 1) * (findPage option totalItems).1.perPage ≤ int64Max) ∧
    (totalItems + (findPage option totalItems).1.perPage - 1 ≤ int64Max →
      PagesExact (findPage option totalItems).2) := by
  simp only [findPage]
  have ranges := applyFindPageOption_ranges option
  have offset := applyFindPageOption_offset option
  have limit : (applyFindPageOption option).limit = (applyFindPageOption option).perPage := rfl
  generalize applyFindPageOption option = query at ranges offset limit ⊢
  obtain ⟨pageLow, -, perPageLow, -⟩ := id ranges
  refine ⟨ranges, ?_, fun fits => newPagination_pagesExact (by omega) counted fits⟩
  have clauseLimit : query.limitClause.limit = some query.perPage := by
    simp only [PageQuery.limitClause, limit, if_pos (show 0 ≤ query.perPage by omega)]
  have bounded := (wrap64_inInt64 ((query.page - 1) * query.perPage)).2
  rw [← offset] at bounded
  unfold OffsetExact
  rw [query.skipped_limitClause, clauseLimit]
  constructor
  · rintro ⟨skipped, -⟩
    unfold int64Max at *
    split at skipped <;> omega
  · intro fits
    have nonnegative : 0 ≤ (query.page - 1) * query.perPage := Int.mul_nonneg (by omega) (by omega)
    rw [offset, wrap64_of_inInt64 ⟨by unfold int64Min; omega, fits⟩]
    exact ⟨by split <;> omega, rfl⟩

theorem find_page_exact_in_range_third_page :
    0 ≤ (95 : Int) ∧
      (1 ≤ (findPage (some ⟨3, 20, by decide, by decide⟩) 95).1.page ∧
        (findPage (some ⟨3, 20, by decide, by decide⟩) 95).1.page ≤ int64Max ∧
        1 ≤ (findPage (some ⟨3, 20, by decide, by decide⟩) 95).1.perPage ∧
        (findPage (some ⟨3, 20, by decide, by decide⟩) 95).1.perPage ≤ int64Max) ∧
      (OffsetExact (findPage (some ⟨3, 20, by decide, by decide⟩) 95).1 ↔
        ((findPage (some ⟨3, 20, by decide, by decide⟩) 95).1.page - 1) *
          (findPage (some ⟨3, 20, by decide, by decide⟩) 95).1.perPage ≤ int64Max) ∧
      (95 + (findPage (some ⟨3, 20, by decide, by decide⟩) 95).1.perPage - 1 ≤ int64Max →
        PagesExact (findPage (some ⟨3, 20, by decide, by decide⟩) 95).2) :=
  ⟨by decide, find_page_exact_in_range (some ⟨3, 20, by decide, by decide⟩) 95 (by decide)⟩

-- Page 2^62 of 4 wraps the offset to -4, which gorm drops: the query runs LIMIT 4 with
-- no OFFSET, the first page. Page 2^61 + 1 of 8 wraps it to 0, the first page too. And
-- 2 items at MaxInt64 a page overflow the sum and report -1 pages.
theorem find_page_overflows :
    (findPage (some ⟨4611686018427387904, 4, by decide, by decide⟩) 0).1.offset = -4 ∧
      (findPage (some ⟨4611686018427387904, 4, by decide, by decide⟩) 0).1.limitClause =
        ⟨some 4, none⟩ ∧
      (findPage (some ⟨2305843009213693953, 8, by decide, by decide⟩) 0).1.limitClause =
        ⟨some 8, none⟩ ∧
      (findPage (some ⟨1, int64Max, by decide, by decide⟩) 2).2.totalPages = -1 := by
  decide

end GoCleanArch
