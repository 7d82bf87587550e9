import ApiBoilerplate.Foundation.Like
import ApiBoilerplate.Foundation.Windows
import ApiBoilerplate.Http.AppError
import ApiBoilerplate.Http.LogStore
import Mathlib.Data.List.Sort

/-!
# Reading the log

The listing builds its query from the filters that are set, and binds one value for
each placeholder. Pages are cut off by position, newest rows first, while the table
goes on growing.
-/

namespace ApiBoilerplate.Http.Observability

open Foundation

structure LogQuery where
  limit : Option Int
  offset : Option Int
  method : Option String
  status : Option Int
  path : Option String
  deriving DecidableEq, Repr

structure ObservabilityLogSummary where
  id : Nat
  requestId : String
  method : String
  path : String
  queryString : Option String
  ipAddress : Option String
  responseStatus : Nat
  durationMs : Int
  createdAt : Nat
  deriving DecidableEq, Repr

def StoredLog.summary (log : StoredLog) : ObservabilityLogSummary where
  id := log.id
  requestId := log.row.requestId
  method := log.row.method
  path := log.row.path
  queryString := log.row.queryString
  ipAddress := log.row.ipAddress
  responseStatus := log.row.responseStatus
  durationMs := log.row.durationMs
  createdAt := log.createdAt

inductive Bind where
  | text (value : String)
  | integer (value : Int)
  deriving DecidableEq, Repr

inductive Condition where
  | method (value : String)
  | status (value : Int)
  | path (value : String)
  deriving DecidableEq, Repr

namespace Condition

def clause : Condition → String
  | method _ => " AND method = ?"
  | status _ => " AND response_status = ?"
  | path _ => " AND path LIKE ?"

def bind : Condition → Bind
  | method m => .text m
  | status s => .integer s
  | path p => .text ("%" ++ p ++ "%")

end Condition

namespace LogQuery

def conditions (query : LogQuery) : List Condition :=
  query.method.toList.map .method ++ query.status.toList.map .status ++
    query.path.toList.map .path

def rowLimit (query : LogQuery) : Int := min (query.limit.getD 50) 500

def rowOffset (query : LogQuery) : Int := query.offset.getD 0

def selectLogs : String :=
  "SELECT id, request_id, method, path, query_string, ip_address, response_status, duration_ms, " ++
    "created_at FROM http_observability_logs WHERE 1=1"

def pageOrder : String := " ORDER BY created_at DESC, id DESC LIMIT ? OFFSET ?"

def sql (query : LogQuery) : String :=
  query.conditions.foldl (fun sql condition => sql ++ condition.clause) selectLogs ++ pageOrder

def binds (query : LogQuery) : List Bind :=
  query.conditions.map Condition.bind ++ [.integer query.rowLimit, .integer query.rowOffset]

end LogQuery

structure LogDatabase where
  /-- `=` and `LIKE` of the column's collation. -/
  equal : String → String → Bool
  same : Char → Char → Bool
  /-- The answer to a negative limit or offset. -/
  negative : List StoredLog → LogQuery → Except String (List StoredLog)

namespace LogDatabase
variable (db : LogDatabase)

def holds (row : LogRow) : Condition → Bool
  | .method m => db.equal row.method m
  | .status s => (row.responseStatus : Int) = s
  | .path p => like db.same (likeParts ("%" ++ p ++ "%").toList) row.path.toList

def accepts (query : LogQuery) (log : StoredLog) : Bool := query.conditions.all (db.holds log.row)

end LogDatabase

/-- `ORDER BY created_at DESC, id DESC` -/
def Newer (log log' : StoredLog) : Prop :=
  log'.createdAt < log.createdAt ∨ log'.createdAt = log.createdAt ∧ log'.id ≤ log.id

instance : DecidableRel Newer := fun _ _ => inferInstanceAs (Decidable (_ ∨ _))

/-- The rows that match, newest first. -/
def found (db : LogDatabase) (query : LogQuery) (rows : List StoredLog) : List StoredLog :=
  (rows.filter (db.accepts query)).insertionSort Newer

def fetchAll (db : LogDatabase) (query : LogQuery) (rows : List StoredLog) :
    Except String (List StoredLog) :=
  if query.rowLimit < 0 ∨ query.rowOffset < 0 then db.negative rows query
  else .ok (((found db query rows).drop query.rowOffset.toNat).take query.rowLimit.toNat)

def listLogs (db : LogDatabase) (query : LogQuery) (rows : List StoredLog) :
    Except AppError (List ObservabilityLogSummary) :=
  match fetchAll db query rows with
  | .ok logs => .ok (logs.map StoredLog.summary)
  | .error e => .error (.database e)

/-- The log, or the text of the error that comes with status 404. -/
def getLog (logId : Int) (rows : List StoredLog) : Except String StoredLog :=
  match rows.find? fun log => (log.id : Int) = logId with
  | some log => .ok log
  | none => .error ("Log with ID " ++ toString logId ++ " not found")

def placeholders (sql : String) : Nat := sql.toList.count '?'

theorem placeholders_append (sql sql' : String) :
    placeholders (sql ++ sql') = placeholders sql + placeholders sql' := by
  rw [placeholders, String.toList_append, List.count_append]
  rfl

theorem placeholders_clause (condition : Condition) : placeholders condition.clause = 1 := by
  cases condition with
  | method m =>
    change placeholders " AND method = ?" = 1
    decide
  | status s =>
    change placeholders " AND response_status = ?" = 1
    decide
  | path p =>
    change placeholders " AND path LIKE ?" = 1
    decide

theorem placeholders_clauses (conditions : List Condition) (sql : String) :
    placeholders (conditions.foldl (fun sql condition => sql ++ condition.clause) sql) =
      placeholders sql + conditions.length := by
  induction conditions generalizing sql with
  | nil => rfl
  | cons condition conditions ih =>
    rw [List.foldl_cons, ih, placeholders_append, placeholders_clause, List.length_cons]
    omega

/-- One value is bound for each placeholder. -/
theorem placeholders_sql (query : LogQuery) : placeholders query.sql = query.binds.length := by
  have start : placeholders LogQuery.selectLogs = 0 := by decide +kernel
  have order : placeholders LogQuery.pageOrder = 2 := by decide +kernel
  rw [LogQuery.sql, placeholders_append, placeholders_clauses, start, order, LogQuery.binds,
    List.length_append, List.length_map, Nat.zero_add]
  rfl

instance : Std.Total Newer where
  total log log' := by
    unfold Newer
    omega

instance : IsTrans StoredLog Newer where
  trans log log' log'' first second := by
    unfold Newer at first second ⊢
    omega

/-- Ids and times go up with the rows. -/
abbrev Ordered (rows : List StoredLog) : Prop :=
  rows.Pairwise fun log later => log.id < later.id ∧ log.createdAt ≤ later.createdAt

section Found
variable {db : LogDatabase} {query : LogQuery} {rows rows' : List StoredLog} {log log' : StoredLog}

theorem Ordered.keyed (ordered : Ordered rows) : Keyed StoredLog.id rows := by
  refine List.pairwise_map.mpr (ordered.imp ?_)
  intro log later upward
  exact Nat.ne_of_lt upward.1

theorem mem_found : log ∈ found db query rows ↔ log ∈ rows ∧ db.accepts query log = true := by
  rw [found, List.mem_insertionSort, List.mem_filter]

/-- In a table where ids and times go up, the newest rows are the last ones. -/
theorem found_eq_reverse (ordered : Ordered rows) :
    found db query rows = (rows.filter (db.accepts query)).reverse := by
  have kept : Ordered (rows.filter (db.accepts query)) := ordered.filter _
  have newest : (rows.filter (db.accepts query)).reverse.Pairwise Newer := by
    refine List.pairwise_reverse.mpr (kept.imp ?_)
    intro log later upward
    unfold Newer
    omega
  have same : (found db query rows).Perm (rows.filter (db.accepts query)).reverse :=
    (List.perm_insertionSort Newer _).trans (List.reverse_perm _).symm
  refine same.eq_of_pairwise ?_ (List.pairwise_insertionSort Newer _) newest
  intro log log' listed listed' before after
  have ids : log.id = log'.id := by
    unfold Newer at before after
    omega
  exact List.inj_on_of_nodup_map ordered.keyed (mem_found.mp listed).1
    (List.mem_filter.mp (List.mem_reverse.mp listed')).1 ids

/-- Rows that are added come before all that was found. -/
theorem found_grows (ordered : Ordered rows') (grown : rows <+: rows') :
    found db query rows <:+ found db query rows' := by
  obtain ⟨added, rfl⟩ := grown
  have before : Ordered rows := (List.pairwise_append.mp ordered).1
  rw [found_eq_reverse ordered, found_eq_reverse before, List.filter_append, List.reverse_append]
  exact List.suffix_append _ _

/-- The query for a page. -/
def LogQuery.page (query : LogQuery) (k : Nat) : LogQuery :=
  { query with offset := some (k * query.rowLimit) }

theorem found_page (k : Nat) : found db (query.page k) rows = found db query rows := rfl

theorem listLogs_page (positive : 0 < query.rowLimit) (k : Nat) :
    listLogs db (query.page k) rows =
      .ok ((slice query.rowLimit.toNat k (found db query rows)).map StoredLog.summary) := by
  obtain ⟨width, same⟩ := Int.eq_ofNat_of_zero_le positive.le
  have limit : (query.page k).rowLimit = query.rowLimit := rfl
  have offset : (query.page k).rowOffset = ((k * width : Nat) : Int) := by
    change (k : Int) * query.rowLimit = _
    rw [same, Int.natCast_mul]
  have inside : ¬ (query.rowLimit < 0 ∨ ((k * width : Nat) : Int) < 0) := by
    rw [same]
    omega
  rw [listLogs, fetchAll, limit, offset, if_neg inside, found_page, same, slice]
  rfl

/-- A summary that is listed leads to the whole row. -/
theorem getLog_of_mem (keyed : Keyed StoredLog.id rows) (listed : log ∈ rows) :
    getLog log.summary.id rows = .ok log := by
  have selected : rows.find? (fun other => (other.id : Int) = log.summary.id) = some log := by
    have cast : (fun other : StoredLog => decide ((other.id : Int) = log.summary.id)) =
        fun other => decide (other.id = log.id) := by
      funext other
      exact decide_eq_decide.mpr Int.ofNat_inj
    rw [cast]
    exact (Table.select_eq_some keyed).mpr ⟨listed, rfl⟩
  rw [getLog, selected]

/-- A search for a plain text finds the paths that it is a part of. -/
theorem accepts_path {p : String} (path : query.path = some p) (plain : Plain p.toList)
    (matched : db.accepts query log = true) :
    ∃ part, part <:+: log.row.path.toList ∧ Alike db.same p.toList part := by
  have condition : Condition.path p ∈ query.conditions := by simp [LogQuery.conditions, path]
  have holds := List.all_eq_true.mp matched _ condition
  have whole : ("%" ++ p ++ "%").toList = '%' :: (p.toList ++ ['%']) := by
    simp [String.toList_append]
  rw [LogDatabase.holds, whole] at holds
  exact (like_contains plain).mp holds

end Found

section Reading
universe u v w
variable {PayloadError : Type u} {BodyError : Type v} {Error : Type w} {debug : Error → String}
  {state : Option HttpRequestLoggingConfig} {s t : LogStore BodyError Error} {db : LogDatabase}
  {query : LogQuery}

/-- Everything but a truncation. -/
def LogLabel.keepsRows : LogLabel PayloadError BodyError Error → Bool
  | .truncate => false
  | _ => true

theorem step_grows {l : LogLabel PayloadError BodyError Error} (keeps : l.keepsRows = true)
    (step : LogStore.step debug state s l = some t) : s.rows <+: t.rows := by
  cases l with
  | request requestId durationMs service req =>
    obtain ⟨_, ⟨⟩⟩ := Option.ite_none_right_eq_some.mp step
    exact List.prefix_rfl
  | insert i now =>
    simp only [LogStore.step] at step
    split at step
    · obtain ⟨_, ⟨⟩⟩ := Option.ite_none_right_eq_some.mp step
      exact List.prefix_append _ _
    · cases step
  | insertFailed i error =>
    obtain ⟨_, _, rfl⟩ := Option.map_eq_some_iff.mp step
    exact List.prefix_rfl
  | lose i =>
    obtain ⟨_, _, rfl⟩ := Option.map_eq_some_iff.mp step
    exact List.prefix_rfl
  | truncate => cases keeps

/-- Without a truncation the table only grows. -/
theorem rows_grow (sound : LogStore.Sound state s)
    (leads : (LogStore.machine PayloadError debug state).LeadsBy LogLabel.keepsRows s t) :
    LogStore.Sound state t ∧ s.rows <+: t.rows := by
  refine Machine.LeadsBy.invariant (I := fun t => LogStore.Sound state t ∧ s.rows <+: t.rows)
    ?_ ⟨sound, List.prefix_rfl⟩ leads
  rintro r l t ⟨before, grown⟩ keeps step
  exact ⟨(LogStore.step_change step).sound before, grown.trans (step_grows keeps step)⟩

/-- Pages that are read one after the other, up to one that is not full, show every row
that matched when the reading began, however many rows are added in between. -/
theorem paging_complete {states : Nat → LogStore BodyError Error}
    {pages : Nat → List ObservabilityLogSummary}
    (reach : (LogStore.machine PayloadError debug state).Reachable (states 0))
    (untruncated : ∀ k, (LogStore.machine PayloadError debug state).LeadsBy LogLabel.keepsRows
      (states k) (states (k + 1)))
    (positive : 0 < query.rowLimit)
    (read : ∀ k, listLogs db (query.page k) (states k).rows = .ok (pages k))
    {n : Nat} (short : ((pages n).length : Int) < query.rowLimit) :
    ∀ log ∈ (states 0).rows, db.accepts query log = true →
      ∃ k ≤ n, log.summary ∈ pages k := by
  have sound (k : Nat) : LogStore.Sound state (states k) := by
    induction k with
    | zero => exact LogStore.reachable_sound reach
    | succ k ih => exact (rows_grow ih (untruncated k)).1
  have grows (k : Nat) : found db query (states k).rows <:+ found db query (states (k + 1)).rows :=
    found_grows (sound (k + 1)).ordered (rows_grow (sound k) (untruncated k)).2
  have page (k : Nat) : pages k =
      (slice query.rowLimit.toNat k (found db query (states k).rows)).map StoredLog.summary := by
    have listed := read k
    rw [listLogs_page positive] at listed
    exact (Except.ok.inj listed).symm
  have last : (slice query.rowLimit.toNat n (found db query (states n).rows)).length <
      query.rowLimit.toNat := by
    rw [page, List.length_map] at short
    omega
  intro log listed matched
  obtain ⟨k, before, here⟩ := mem_slice_of_growing grows last (mem_found.mpr ⟨listed, matched⟩)
  exact ⟨k, before, by rw [page]; exact List.mem_map_of_mem here⟩

/-- How many pages are not empty. -/
def pageCount (db : LogDatabase) (query : LogQuery) (rows : List StoredLog) : Nat :=
  windowCount query.rowLimit.toNat (rows.filter (db.accepts query)).length

/-- Over a table left alone, the pages of a search are the rows that match, newest first,
each of them once; the id of a row leads to it, and where nothing in the text is a wildcard
or an escape, the path it shows has the text as a part, up to the column's collation. Every
page binds one value for each placeholder of its statement. -/
theorem search_exact (reach : (LogStore.machine PayloadError debug state).Reachable s)
    (positive : 0 < query.rowLimit) {pages : Nat → List ObservabilityLogSummary}
    (read : ∀ k, listLogs db (query.page k) s.rows = .ok (pages k))
    {results : List ObservabilityLogSummary}
    (whole : results = (List.range (pageCount db query s.rows)).flatMap pages) :
    results = ((s.rows.filter (db.accepts query)).reverse).map StoredLog.summary ∧
      results.Nodup ∧
      (∀ summary ∈ results, ∃ log, getLog summary.id s.rows = .ok log ∧ log.summary = summary ∧
        ∀ p, query.path = some p → Plain p.toList →
          ∃ part, part <:+: summary.path.toList ∧ Alike db.same p.toList part) ∧
      ∀ k, placeholders (query.page k).sql = (query.page k).binds.length := by
  have ordered : Ordered s.rows := (LogStore.reachable_sound reach).ordered
  have page (k : Nat) : pages k =
      (slice query.rowLimit.toNat k (found db query s.rows)).map StoredLog.summary := by
    have listed := read k
    rw [listLogs_page positive] at listed
    exact (Except.ok.inj listed).symm
  have width : 0 < query.rowLimit.toNat := by omega
  have slices := flatMap_slice_windowCount width (found db query s.rows)
  have all : results = (found db query s.rows).map StoredLog.summary := by
    have count : (found db query s.rows).length =
        (s.rows.filter (db.accepts query)).length := List.length_insertionSort Newer _
    rw [whole, pageCount, ← count, funext page, ← List.map_flatMap, slices]
  have newestFirst : found db query s.rows = (s.rows.filter (db.accepts query)).reverse :=
    found_eq_reverse ordered
  refine ⟨by rw [all, newestFirst], ?_, ?_, fun k => placeholders_sql (query.page k)⟩
  · have ids : ((found db query s.rows).map StoredLog.id).Nodup := by
      rw [newestFirst, List.map_reverse, List.nodup_reverse]
      exact ordered.keyed.sublist (List.filter_sublist.map StoredLog.id)
    rw [all]
    refine List.Nodup.of_map ObservabilityLogSummary.id ?_
    rwa [List.map_map]
  · intro summary listed
    rw [all] at listed
    obtain ⟨log, here, rfl⟩ := List.mem_map.mp listed
    obtain ⟨present, matched⟩ := mem_found.mp here
    exact ⟨log, getLog_of_mem ordered.keyed present, rfl,
      fun p path plain => accepts_path path plain matched⟩

end Reading

def exactDatabase : LogDatabase where
  equal := fun text text' => text = text'
  same := fun c d => c = d
  negative := fun _ _ => .error "syntax error"

/-- The newest `POST` under a path with `users` in it. -/
def usersQuery : LogQuery := ⟨some 1, none, some "POST", some 200, some "users"⟩

def firstRow : LogStore String String :=
  LogStore.sampleMachine.follow (fun _ _ => true) (LogStore.sampleLabels.take 3)

def secondRow : LogStore String String :=
  (LogStore.sampleMachine.step firstRow (.insert 0 101)).getD firstRow

/-- The second row is added between the first page and the second. -/
def sampleStates (k : Nat) : LogStore String String := if k = 0 then firstRow else secondRow

def samplePages (k : Nat) : List ObservabilityLogSummary :=
  (slice 1 k (found exactDatabase usersQuery (sampleStates k).rows)).map StoredLog.summary

theorem firstRow_reachable : LogStore.sampleMachine.Reachable firstRow :=
  ⟨_, Machine.run_follow (fun _ _ _ => trivial) (by decide +kernel)⟩

theorem sampleStates_leads (k : Nat) :
    LogStore.sampleMachine.LeadsBy LogLabel.keepsRows (sampleStates k) (sampleStates (k + 1)) := by
  cases k with
  | zero =>
    obtain ⟨t, step⟩ := Option.isSome_iff_exists.mp (show (LogStore.sampleMachine.step firstRow
      (.insert 0 101)).isSome = true by decide +kernel)
    have later : sampleStates 1 = t := by
      change secondRow = t
      rw [secondRow, step, Option.getD_some]
    rw [later]
    exact Machine.LeadsBy.head step rfl (Machine.leadsBy_refl t)
  | succ k => exact Machine.leadsBy_refl secondRow

theorem paging_complete_sample : ∃ log ∈ (sampleStates 0).rows,
    exactDatabase.accepts usersQuery log = true ∧ ∃ k ≤ 2, log.summary ∈ samplePages k := by
  have positive : 0 < usersQuery.rowLimit := by decide
  have reach : LogStore.sampleMachine.Reachable (sampleStates 0) := firstRow_reachable
  have read (k : Nat) : listLogs exactDatabase (usersQuery.page k) (sampleStates k).rows =
      .ok (samplePages k) := listLogs_page positive k
  obtain ⟨log, here, matched⟩ : ∃ log ∈ (sampleStates 0).rows,
      exactDatabase.accepts usersQuery log = true := by decide +kernel
  exact ⟨log, here, matched, paging_complete reach sampleStates_leads positive read
    (by decide +kernel) log here matched⟩

/-- All the pages of the first row, one after the other. -/
def sampleResults : List ObservabilityLogSummary :=
  (List.range (pageCount exactDatabase usersQuery firstRow.rows)).flatMap
    fun k => (slice 1 k (found exactDatabase usersQuery firstRow.rows)).map StoredLog.summary

theorem search_exact_sample :
    sampleResults = ((firstRow.rows.filter (exactDatabase.accepts usersQuery)).reverse).map
        StoredLog.summary ∧
      sampleResults.Nodup ∧
      (∀ summary ∈ sampleResults, ∃ log, getLog summary.id firstRow.rows = .ok log ∧
        log.summary = summary ∧
        ∀ p, usersQuery.path = some p → Plain p.toList →
          ∃ part, part <:+: summary.path.toList ∧ Alike exactDatabase.same p.toList part) ∧
      ∀ k, placeholders (usersQuery.page k).sql = (usersQuery.page k).binds.length := by
  have positive : 0 < usersQuery.rowLimit := by decide
  exact search_exact firstRow_reachable positive (fun k => listLogs_page positive k) rfl

end ApiBoilerplate.Http.Observability
