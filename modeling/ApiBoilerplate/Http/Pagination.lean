import ApiBoilerplate.Foundation.Windows

/-!
# Pagination

Page and size come from the query string as any `u64`. The size is clamped, the
page is not, and the offset is their product in 64 bits, which wraps round in a
release build.
-/

namespace ApiBoilerplate.Http

open Foundation

def defaultPerPage : UInt64 := 20
def maxPerPage : UInt64 := 100

structure PaginationParams where
  page : Option UInt64
  perPage : Option UInt64
  deriving DecidableEq, Repr

namespace PaginationParams

/-- `page()`: the resolved page number. -/
def resolvedPage (params : PaginationParams) : UInt64 := max (params.page.getD 1) 1

/-- `per_page()`: the resolved page size. -/
def resolvedPerPage (params : PaginationParams) : UInt64 :=
  min (max (params.perPage.getD defaultPerPage) 1) maxPerPage

def offset (params : PaginationParams) : UInt64 :=
  (params.resolvedPage - 1) * params.resolvedPerPage

end PaginationParams

/-- `total.div_ceil(per_page)` -/
def divCeil (total perPage : UInt64) : UInt64 :=
  if 0 < total % perPage then total / perPage + 1 else total / perPage

structure PaginatedResponse (T : Type) where
  data : List T
  total : UInt64
  page : UInt64
  perPage : UInt64
  totalPages : UInt64
  deriving DecidableEq, Repr

def PaginatedResponse.new {T : Type} (data : List T) (total : UInt64)
    (params : PaginationParams) : PaginatedResponse T :=
  let perPage := params.resolvedPerPage
  let totalPages := if perPage = 0 then 0 else divCeil total perPage
  { data := data
    total := total
    page := params.resolvedPage
    perPage := perPage
    totalPages := totalPages }

/-- The pages that exist. -/
def PaginatedResponse.pages {T : Type} (response : PaginatedResponse T) : Set UInt64 :=
  { page | 1 ≤ page ∧ page ≤ response.totalPages }

theorem PaginatedResponse.mem_pages {T : Type} {response : PaginatedResponse T} {page : UInt64} :
    page ∈ response.pages ↔ 1 ≤ page ∧ page ≤ response.totalPages := Iff.rfl

theorem toNat_max (a b : UInt64) : (max a b).toNat = max a.toNat b.toNat := by
  change (if a ≤ b then b else a).toNat = _
  by_cases below : a ≤ b
  · rw [if_pos below, Nat.max_eq_right (UInt64.le_iff_toNat_le.mp below)]
  · have above := mt UInt64.le_iff_toNat_le.mpr below
    rw [if_neg below, Nat.max_eq_left (by omega)]

theorem toNat_min (a b : UInt64) : (min a b).toNat = min a.toNat b.toNat := by
  change (if a ≤ b then a else b).toNat = _
  by_cases below : a ≤ b
  · rw [if_pos below, Nat.min_eq_left (UInt64.le_iff_toNat_le.mp below)]
  · have above := mt UInt64.le_iff_toNat_le.mpr below
    rw [if_neg below, Nat.min_eq_right (by omega)]

/-- The ceiling division is exact: it never overflows. -/
theorem divCeil_toNat (total : UInt64) {perPage : UInt64} (positive : 0 < perPage.toNat) :
    (divCeil total perPage).toNat = windowCount perPage.toNat total.toNat := by
  have bound := total.toNat_lt
  have quotient := Nat.div_add_mod' total.toNat perPage.toNat
  have small := Nat.mod_lt total.toNat positive
  rw [divCeil, windowCount]
  by_cases rest : 0 < total % perPage
  · have positive_rest : 0 < total.toNat % perPage.toNat := by
      simpa only [UInt64.lt_iff_toNat_lt, UInt64.toNat_mod, UInt64.toNat_zero] using rest
    have room : total.toNat / perPage.toNat ≤ total.toNat / perPage.toNat * perPage.toNat :=
      Nat.le_mul_of_pos_right _ positive
    rw [if_pos rest, UInt64.toNat_add, UInt64.toNat_div, UInt64.toNat_one,
      Nat.mod_eq_of_lt (by omega), eq_comm, Nat.div_eq_iff positive, Nat.add_mul]
    omega
  · have no_rest : total.toNat % perPage.toNat = 0 := by
      rw [UInt64.lt_iff_toNat_lt, UInt64.toNat_mod] at rest
      exact Nat.eq_zero_of_not_pos rest
    rw [if_neg rest, UInt64.toNat_div, eq_comm, Nat.div_eq_iff positive]
    omega

namespace PaginationParams
variable (params : PaginationParams)

theorem resolvedPage_toNat :
    params.resolvedPage.toNat = max (params.page.getD 1).toNat 1 := by
  rw [resolvedPage, toNat_max, UInt64.toNat_one]

theorem resolvedPerPage_toNat :
    params.resolvedPerPage.toNat =
      min (max (params.perPage.getD defaultPerPage).toNat 1) maxPerPage.toNat := by
  rw [resolvedPerPage, toNat_min, toNat_max, UInt64.toNat_one]

theorem one_le_resolvedPage : 1 ≤ params.resolvedPage.toNat := by
  rw [resolvedPage_toNat]
  exact le_max_right _ _

theorem resolvedPerPage_pos : 0 < params.resolvedPerPage.toNat := by
  rw [resolvedPerPage_toNat]
  exact lt_min (lt_of_lt_of_le Nat.zero_lt_one (le_max_right _ _)) (by decide)

/-- The offset wraps round 2^64. -/
theorem offset_toNat : params.offset.toNat =
    (params.resolvedPage.toNat - 1) * params.resolvedPerPage.toNat % 2 ^ 64 := by
  have one : (1 : UInt64) ≤ params.resolvedPage :=
    UInt64.le_iff_toNat_le.mpr params.one_le_resolvedPage
  rw [offset, UInt64.toNat_mul, UInt64.toNat_sub_of_le _ _ one, UInt64.toNat_one]

/-- The page asked for, times the size, stays below 2^64. -/
def Fits : Prop :=
  ((params.page.getD 1).toNat - 1) *
    min (max (params.perPage.getD defaultPerPage).toNat 1) maxPerPage.toNat < 2 ^ 64

theorem offset_exact_iff :
    params.offset.toNat = (params.resolvedPage.toNat - 1) * params.resolvedPerPage.toNat ↔
      params.Fits := by
  have page : params.resolvedPage.toNat - 1 = (params.page.getD 1).toNat - 1 := by
    rw [resolvedPage_toNat]
    omega
  have size := params.resolvedPerPage_toNat
  rw [offset_toNat, Fits, page, size]
  constructor
  · intro exact
    rw [← exact]
    exact Nat.mod_lt _ (by decide)
  · intro fits
    exact Nat.mod_eq_of_lt fits

/-- The positions the page's rows are asked at. -/
def rows : Set Nat :=
  Set.Ico params.offset.toNat (params.offset.toNat + params.resolvedPerPage.toNat)

variable {params}

theorem Fits.rows (fits : params.Fits) :
    params.rows = window params.resolvedPerPage.toNat (params.resolvedPage.toNat - 1) := by
  rw [PaginationParams.rows, params.offset_exact_iff.mpr fits, window]

/-- The same size, on another page. -/
def onPage (params : PaginationParams) (page : UInt64) : PaginationParams :=
  { params with page := some page }

@[simp] theorem resolvedPerPage_onPage (params : PaginationParams) (page : UInt64) :
    (params.onPage page).resolvedPerPage = params.resolvedPerPage := rfl

end PaginationParams

variable {T : Type}

theorem totalPages_toNat (data : List T) (total : UInt64) (params : PaginationParams) :
    (PaginatedResponse.new data total params).totalPages.toNat =
      windowCount params.resolvedPerPage.toNat total.toNat := by
  have positive := params.resolvedPerPage_pos
  have nonzero : params.resolvedPerPage ≠ 0 := by
    intro zero
    rw [zero] at positive
    exact Nat.lt_irrefl 0 positive
  simp only [PaginatedResponse.new, if_neg nonzero]
  exact divCeil_toNat total positive

/-- A page that exists fits, and its rows are a window that starts below the total. -/
theorem rows_of_counted {data : List T} {total page : UInt64} {params : PaginationParams}
    (first : 1 ≤ page) (counted : page ≤ (PaginatedResponse.new data total params).totalPages) :
    (params.onPage page).rows = window params.resolvedPerPage.toNat (page.toNat - 1) ∧
      page.toNat - 1 < windowCount params.resolvedPerPage.toNat total.toNat := by
  rw [UInt64.le_iff_toNat_le] at first counted
  rw [totalPages_toNat] at counted
  rw [UInt64.toNat_one] at first
  have below : page.toNat - 1 < windowCount params.resolvedPerPage.toNat total.toNat := by omega
  have starts := (lt_windowCount_iff params.resolvedPerPage_pos).mp below
  have resolved : (params.onPage page).resolvedPage.toNat = page.toNat := by
    rw [PaginationParams.resolvedPage_toNat]
    exact Nat.max_eq_left first
  have fits : (params.onPage page).Fits := by
    rw [← PaginationParams.offset_exact_iff, PaginationParams.offset_toNat, resolved,
      PaginationParams.resolvedPerPage_onPage]
    exact Nat.mod_eq_of_lt (starts.trans total.toNat_lt)
  exact ⟨by rw [fits.rows, resolved, PaginationParams.resolvedPerPage_onPage], below⟩

/-- What two pages of one size, and the pages of a total, owe each other. -/
structure PageWindows (data : List T) (total : UInt64) (params other : PaginationParams) :
    Prop where
  exact : params.offset.toNat = (params.resolvedPage.toNat - 1) * params.resolvedPerPage.toNat
  other_exact :
    other.offset.toNat = (other.resolvedPage.toNat - 1) * other.resolvedPerPage.toNat
  disjoint : params.resolvedPerPage = other.resolvedPerPage →
    params.resolvedPage ≠ other.resolvedPage → Disjoint params.rows other.rows
  cover : (⋃ page ∈ (PaginatedResponse.new data total params).pages,
    (params.onPage page).rows ∩ Set.Iio total.toNat) = Set.Iio total.toNat
  nonempty : ∀ page ∈ (PaginatedResponse.new data total params).pages,
    ((params.onPage page).rows ∩ Set.Iio total.toNat).Nonempty

theorem pages_cover (data : List T) (total : UInt64) (params : PaginationParams) :
    (⋃ page ∈ (PaginatedResponse.new data total params).pages,
      (params.onPage page).rows ∩ Set.Iio total.toNat) = Set.Iio total.toNat := by
  have pages := totalPages_toNat data total params
  apply Set.Subset.antisymm
  · exact Set.iUnion₂_subset fun _ _ => Set.inter_subset_right
  · have covered := windows_cover params.resolvedPerPage_pos total.toNat
    refine covered.symm.subset.trans (Set.iUnion₂_subset fun k counted => ?_)
    have bound := (PaginatedResponse.new data total params).totalPages.toNat_lt
    have number : (UInt64.ofNat (k + 1)).toNat = k + 1 := by
      rw [UInt64.toNat_ofNat']
      exact Nat.mod_eq_of_lt (by omega)
    have member : UInt64.ofNat (k + 1) ∈ (PaginatedResponse.new data total params).pages := by
      rw [PaginatedResponse.mem_pages, UInt64.le_iff_toNat_le, UInt64.le_iff_toNat_le, number,
        pages, UInt64.toNat_one]
      omega
    obtain ⟨rows, _⟩ := rows_of_counted member.1 member.2
    rw [number, Nat.add_sub_cancel] at rows
    rw [← rows]
    exact Set.subset_biUnion_of_mem
      (u := fun page => (params.onPage page).rows ∩ Set.Iio total.toNat) member

theorem page_nonempty {data : List T} {total page : UInt64} {params : PaginationParams}
    (member : page ∈ (PaginatedResponse.new data total params).pages) :
    ((params.onPage page).rows ∩ Set.Iio total.toNat).Nonempty := by
  obtain ⟨rows, counted⟩ := rows_of_counted member.1 member.2
  rw [rows]
  exact window_nonempty params.resolvedPerPage_pos counted

/-- The windows are right exactly where no offset wraps round. -/
theorem pageWindows_iff (data : List T) (total : UInt64) (params other : PaginationParams) :
    PageWindows data total params other ↔ params.Fits ∧ other.Fits := by
  constructor
  · intro windows
    exact ⟨params.offset_exact_iff.mp windows.exact, other.offset_exact_iff.mp windows.other_exact⟩
  · rintro ⟨fits, other_fits⟩
    constructor
    · exact params.offset_exact_iff.mpr fits
    · exact other.offset_exact_iff.mpr other_fits
    · intro size differ
      have first := params.one_le_resolvedPage
      have other_first := other.one_le_resolvedPage
      rw [fits.rows, other_fits.rows, size]
      apply windows_disjoint other.resolvedPerPage_pos
      intro same
      exact differ (UInt64.toNat_inj.mp (by omega))
    · exact pages_cover data total params
    · intro page member
      exact page_nonempty member

/-- Page 2^63 + 1 of size 2 wraps round to the rows of the first page. -/
theorem far_page_wraps :
    ¬ PageWindows ([] : List Unit) 4 ⟨some 9223372036854775809, some 2⟩ ⟨some 1, some 2⟩ := by
  intro windows
  have exact := windows.exact
  revert exact
  decide

end ApiBoilerplate.Http
