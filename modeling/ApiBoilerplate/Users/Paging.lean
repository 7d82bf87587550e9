import ApiBoilerplate.Http.Pagination
import ApiBoilerplate.Users.Service
import Mathlib.Data.List.Nodup
import Mathlib.Data.List.Perm.Basic

/-!
# Listing the users page by page

`find_all` counts the users and reads one page of them. The page's query has no
`ORDER BY`, so each call may meet the rows in an order of its own.
-/

namespace ApiBoilerplate.Users

open Foundation Http

def findAll (count : Except String UInt64)
    (all : UInt64 → UInt64 → Except String (List Model)) (pagination : PaginationParams) :
    Except AppError (PaginatedResponse UserResponse) := do
  let total ← count.mapError .ormError
  let users ← (all pagination.offset pagination.resolvedPerPage).mapError .ormError
  let data := users.map Model.response
  return .new data total pagination

/-- The `users` table while nobody writes it. -/
structure UsersTable where
  rows : List Model
  /-- `id` is the primary key. -/
  keyed : (rows.map Model.id).Nodup
  counted : rows.length < 2 ^ 64

def UsersTable.count (table : UsersTable) : UInt64 := UInt64.ofNat table.rows.length

theorem UsersTable.count_toNat (table : UsersTable) : table.count.toNat = table.rows.length := by
  rw [count, UInt64.toNat_ofNat']
  exact Nat.mod_eq_of_lt table.counted

/-- `OFFSET` and `LIMIT` on the rows in the order the query meets them. -/
def select (order : List Model) (offset limit : UInt64) : List Model :=
  (order.drop offset.toNat).take limit.toNat

/-- A call of `find_all` for every page, all with one `per_page` parameter. -/
structure Enumeration (table : UsersTable) (perPage : Option UInt64) where
  /-- The rows as the page's query meets them. -/
  order : UInt64 → List Model
  admissible : ∀ page, (order page).Perm table.rows
  answer : UInt64 → PaginatedResponse UserResponse
  answered : ∀ page, findAll (.ok table.count)
    (fun offset limit => .ok (select (order page) offset limit)) ⟨some page, perPage⟩ =
      .ok (answer page)

variable {table : UsersTable} {perPage : Option UInt64}

/-- The page size all the calls resolve to. -/
def pageSize (perPage : Option UInt64) : Nat :=
  PaginationParams.resolvedPerPage ⟨none, perPage⟩ |>.toNat

theorem pageSize_pos (perPage : Option UInt64) : 0 < pageSize perPage :=
  PaginationParams.resolvedPerPage_pos _

theorem pageSize_le (perPage : Option UInt64) : pageSize perPage ≤ 100 := by
  rw [pageSize, PaginationParams.resolvedPerPage_toNat]
  exact min_le_right _ _

namespace Enumeration

def ofOrder (order : UInt64 → List Model) (admissible : ∀ page, (order page).Perm table.rows) :
    Enumeration table perPage where
  order := order
  admissible := admissible
  answer := fun page =>
    let params : PaginationParams := ⟨some page, perPage⟩
    .new ((select (order page) params.offset params.resolvedPerPage).map Model.response)
      table.count params
  answered := fun _ => rfl

variable (calls : Enumeration table perPage)

theorem answer_eq (page : UInt64) :
    calls.answer page = .new ((select (calls.order page)
      (PaginationParams.offset ⟨some page, perPage⟩)
      (PaginationParams.resolvedPerPage ⟨some page, perPage⟩)).map Model.response)
      table.count ⟨some page, perPage⟩ := by
  have answered := calls.answered page
  exact (Except.ok.inj answered).symm

def totalPages : UInt64 := (calls.answer 1).totalPages

/-- The data of pages 1 to `total_pages`, one after the other. -/
def listed : List UserResponse :=
  (List.range calls.totalPages.toNat).flatMap fun k => (calls.answer (UInt64.ofNat (k + 1))).data

/-- The pages that exist hold every user once. -/
def EveryOnce : Prop := calls.listed.Perm (table.rows.map Model.response)

def LaterEmpty : Prop := ∀ page, calls.totalPages < page → (calls.answer page).data = []

def TotalRight : Prop := ∀ page, (calls.answer page).total.toNat = table.rows.length

theorem totalRight : calls.TotalRight := by
  intro page
  rw [answer_eq]
  exact table.count_toNat

theorem totalPages_eq :
    calls.totalPages.toNat = windowCount (pageSize perPage) table.rows.length := by
  rw [totalPages, answer_eq, totalPages_toNat, table.count_toNat]
  rfl

theorem length_order (page : UInt64) : (calls.order page).length = table.rows.length :=
  (calls.admissible page).length_eq

theorem offset_toNat {k : Nat} (fits : k + 1 < 2 ^ 64) :
    (PaginationParams.offset ⟨some (UInt64.ofNat (k + 1)), perPage⟩).toNat =
      k * pageSize perPage % 2 ^ 64 := by
  rw [PaginationParams.offset_toNat, PaginationParams.resolvedPage_toNat]
  simp only [Option.getD_some, UInt64.toNat_ofNat', Nat.mod_eq_of_lt fits]
  rw [Nat.max_eq_left (Nat.le_add_left 1 k), Nat.add_sub_cancel]
  rfl

/-- A page that exists is a slice of the rows as its query meets them. -/
theorem data_of_counted {k : Nat} (counted : k < calls.totalPages.toNat) :
    (calls.answer (UInt64.ofNat (k + 1))).data =
      (slice (pageSize perPage) k (calls.order (UInt64.ofNat (k + 1)))).map Model.response := by
  have bound := calls.totalPages.toNat_lt
  have fits : k + 1 < 2 ^ 64 := by omega
  rw [totalPages_eq, lt_windowCount_iff (pageSize_pos perPage)] at counted
  rw [answer_eq, slice]
  simp only [PaginatedResponse.new, select]
  rw [offset_toNat fits, Nat.mod_eq_of_lt (counted.trans table.counted)]
  rfl

/-- Where the queries meet one order, the pages tile it. -/
theorem everyOnce_of_order {order : List Model} (whole : order.Perm table.rows)
    (same : ∀ k < calls.totalPages.toNat, calls.order (UInt64.ofNat (k + 1)) = order) :
    calls.EveryOnce := by
  have pages : calls.listed = (List.range calls.totalPages.toNat).flatMap
      fun k => (slice (pageSize perPage) k order).map Model.response := by
    apply List.flatMap_congr
    intro k member
    have counted := List.mem_range.mp member
    rw [calls.data_of_counted counted, same k counted]
  rw [EveryOnce, pages, ← List.map_flatMap, calls.totalPages_eq, ← whole.length_eq,
    flatMap_slice_windowCount (pageSize_pos perPage)]
  exact whole.map _

theorem everyOnce_of_onePage (onePage : table.rows.length ≤ pageSize perPage) :
    calls.EveryOnce := by
  apply calls.everyOnce_of_order (calls.admissible (UInt64.ofNat 1))
  intro k counted
  rw [calls.totalPages_eq, lt_windowCount_iff (pageSize_pos perPage)] at counted
  have first : k = 0 := by
    by_contra later
    have full := Nat.le_mul_of_pos_left (pageSize perPage) (Nat.pos_of_ne_zero later)
    omega
  rw [first]

/-- A page shows the row its query meets where the page begins. -/
theorem response_mem_data {k : Nat} (counted : k < calls.totalPages.toNat) {row : Model}
    (start : (calls.order (UInt64.ofNat (k + 1)))[k * pageSize perPage]? = some row) :
    row.response ∈ (calls.answer (UInt64.ofNat (k + 1))).data := by
  rw [calls.data_of_counted counted]
  refine List.mem_map_of_mem ?_
  have head : (slice (pageSize perPage) k (calls.order (UInt64.ofNat (k + 1))))[0]? = some row := by
    rw [slice, List.getElem?_take_of_lt (pageSize_pos perPage), List.getElem?_drop]
    exact start
  exact List.mem_of_getElem? head

/-- No user is on two pages of an exact enumeration. -/
theorem EveryOnce.disjoint {calls : Enumeration table perPage} (once : calls.EveryOnce) {j k : Nat}
    (before : j < k) (counted : k < calls.totalPages.toNat) :
    List.Disjoint (calls.answer (UInt64.ofNat (j + 1))).data
      (calls.answer (UInt64.ofNat (k + 1))).data := by
  have distinct : calls.listed.Nodup := by
    rw [once.nodup_iff]
    apply List.Nodup.of_map UserResponse.id
    rw [List.map_map]
    exact table.keyed
  rw [listed, List.nodup_flatMap] at distinct
  have apart := List.pairwise_iff_getElem.mp distinct.2 j k (by simp; omega) (by simp; omega) before
  simp only [List.getElem_range] at apart
  exact apart

/-- The second query may meet a user that the first page has shown: on later pages the
first row stands where the second page begins. -/
theorem exists_repeated (more : pageSize perPage < table.rows.length) :
    ∃ calls : Enumeration table perPage, ¬ calls.EveryOnce := by
  cases rows : table.rows with
  | nil => simp [rows] at more
  | cons first others =>
    have room : pageSize perPage ≤ others.length := by
      rw [rows, List.length_cons] at more
      omega
    let moved := others.take (pageSize perPage) ++ first :: others.drop (pageSize perPage)
    have permuted : moved.Perm (first :: others) := by
      have split : List.Perm moved (first ::
          (others.take (pageSize perPage) ++ others.drop (pageSize perPage))) :=
        List.perm_middle
      rwa [List.take_append_drop] at split
    let order : UInt64 → List Model := fun page =>
      if page = UInt64.ofNat 1 then first :: others else moved
    have admissible : ∀ page, (order page).Perm table.rows := by
      intro page
      rw [rows]
      by_cases one : page = UInt64.ofNat 1
      · simp only [order, if_pos one]
        exact List.Perm.refl _
      · simp only [order, if_neg one]
        exact permuted
    refine ⟨ofOrder order admissible, fun once => ?_⟩
    let calls : Enumeration table perPage := ofOrder order admissible
    have pages : 1 < calls.totalPages.toNat := by
      rw [totalPages_eq]
      refine (lt_windowCount_iff (pageSize_pos perPage)).mpr ?_
      omega
    have page_one : first.response ∈ (calls.answer (UInt64.ofNat (0 + 1))).data := by
      apply calls.response_mem_data (by omega)
      rw [Nat.zero_mul]
      rfl
    have page_two : first.response ∈ (calls.answer (UInt64.ofNat (1 + 1))).data := by
      apply calls.response_mem_data pages
      have two : calls.order (UInt64.ofNat (1 + 1)) = moved := rfl
      have start : (others.take (pageSize perPage)).length = 1 * pageSize perPage := by
        rw [List.length_take]
        omega
      rw [two, List.getElem?_append_right start.le, start, Nat.sub_self]
      rfl
    exact once.disjoint Nat.zero_lt_one pages page_one page_two

/-- The rows of a page are none where its offset is past the last row. -/
theorem data_nil_iff {k : Nat} (fits : k + 1 < 2 ^ 64) :
    (calls.answer (UInt64.ofNat (k + 1))).data = [] ↔
      table.rows.length ≤ k * pageSize perPage % 2 ^ 64 := by
  have size : (PaginationParams.resolvedPerPage ⟨some (UInt64.ofNat (k + 1)), perPage⟩).toNat ≠ 0 :=
    (pageSize_pos perPage).ne'
  rw [answer_eq]
  simp only [PaginatedResponse.new, select, List.map_eq_nil_iff, List.take_eq_nil_iff]
  rw [offset_toNat fits, List.drop_eq_nil_iff, length_order]
  constructor
  · rintro (none | past)
    · exact absurd none size
    · exact past
  · exact Or.inr

theorem laterEmpty_iff : calls.LaterEmpty ↔
    ∀ k, windowCount (pageSize perPage) table.rows.length ≤ k → k + 1 < 2 ^ 64 →
      table.rows.length ≤ k * pageSize perPage % 2 ^ 64 := by
  constructor
  · intro later k past fits
    apply (calls.data_nil_iff fits).mp
    apply later
    rw [UInt64.lt_iff_toNat_lt, calls.totalPages_eq, UInt64.toNat_ofNat', Nat.mod_eq_of_lt fits]
    omega
  · intro past page later
    rw [UInt64.lt_iff_toNat_lt, calls.totalPages_eq] at later
    have bound := page.toNat_lt
    obtain ⟨k, number⟩ := Nat.exists_eq_succ_of_ne_zero (Nat.ne_zero_of_lt later)
    have page_eq : page = UInt64.ofNat (k + 1) := by
      rw [← UInt64.toNat_inj, UInt64.toNat_ofNat', number]
      exact (Nat.mod_eq_of_lt (by omega)).symm
    rw [page_eq, calls.data_nil_iff (by omega)]
    exact past k (by omega) (by omega)

/-- What the pages of one size owe the users. -/
structure Exact : Prop where
  everyOnce : calls.EveryOnce
  laterEmpty : calls.LaterEmpty
  total : calls.TotalRight

/-- Whatever orders the queries meet the rows in, the pages that exist are right
where there is one of them, and the later ones are empty where no start comes back
to the first row. -/
theorem exact_iff (table : UsersTable) (perPage : Option UInt64) :
    ((∀ calls : Enumeration table perPage, calls.EveryOnce) ↔
      table.rows.length ≤ pageSize perPage) ∧
    ((∀ calls : Enumeration table perPage, calls.LaterEmpty) ↔
      table.rows.length = 0 ∨ pageSize perPage = 1 ∨
        table.rows.length = 1 ∧ Odd (pageSize perPage)) ∧
    ((∀ calls : Enumeration table perPage, calls.Exact) ↔
      table.rows.length = 0 ∨ table.rows.length = 1 ∧ Odd (pageSize perPage)) := by
  have positive := pageSize_pos perPage
  have narrow := pageSize_le perPage
  have once : (∀ calls : Enumeration table perPage, calls.EveryOnce) ↔
      table.rows.length ≤ pageSize perPage := by
    constructor
    · intro once
      by_contra more
      obtain ⟨calls, repeated⟩ := exists_repeated (Nat.lt_of_not_le more)
      exact repeated (once calls)
    · intro onePage calls
      exact calls.everyOnce_of_onePage onePage
  have later : (∀ calls : Enumeration table perPage, calls.LaterEmpty) ↔
      table.rows.length = 0 ∨ pageSize perPage = 1 ∨
        table.rows.length = 1 ∧ Odd (pageSize perPage) := by
    rw [← starts_past_iff positive (by omega) table.counted]
    constructor
    · intro empty
      let calls : Enumeration table perPage :=
        ofOrder (fun _ => table.rows) fun _ => List.Perm.refl _
      exact calls.laterEmpty_iff.mp (empty calls)
    · intro past calls
      exact calls.laterEmpty_iff.mpr past
  refine ⟨once, later, ?_⟩
  constructor
  · intro exact
    have onePage := once.mp fun calls => (exact calls).everyOnce
    rcases later.mp fun calls => (exact calls).laterEmpty with none | one | single
    · exact Or.inl none
    · rw [one] at onePage ⊢
      rcases Nat.le_one_iff_eq_zero_or_eq_one.mp onePage with none | single
      · exact Or.inl none
      · exact Or.inr ⟨single, odd_one⟩
    · exact Or.inr single
  · intro few calls
    constructor
    · apply once.mpr
      omega
    · apply later.mpr
      rcases few with none | single
      · exact Or.inl none
      · exact Or.inr (Or.inr single)
    · exact calls.totalRight

def sampleUser (id : Uuid) : Model := ⟨id, "", "", "", 0, 0⟩

def twoUsers : UsersTable where
  rows := [sampleUser 1, sampleUser 2]
  keyed := by decide
  counted := by decide

/-- Two users, one a page, met in one order by the first query and in the other by
the second: the first user is listed twice. -/
theorem second_user_skipped :
    ∃ calls : Enumeration twoUsers (some 1), ¬ calls.Exact ∧
      calls.listed = [(sampleUser 1).response, (sampleUser 1).response] := by
  have admissible : ∀ page : UInt64,
      (if page = 1 then twoUsers.rows else [sampleUser 2, sampleUser 1]).Perm twoUsers.rows := by
    intro page
    by_cases one : page = 1
    · rw [if_pos one]
    · rw [if_neg one]
      exact List.Perm.swap _ _ _
  let calls : Enumeration twoUsers (some 1) := ofOrder _ admissible
  have listed : calls.listed = [(sampleUser 1).response, (sampleUser 1).response] := by rfl
  refine ⟨calls, fun exact => ?_, listed⟩
  have once := exact.everyOnce
  rw [EveryOnce, listed] at once
  revert once
  decide

end Enumeration
end ApiBoilerplate.Users
