import ApiBoilerplate.Foundation.KeyedTable
import ApiBoilerplate.Foundation.Machine
import ApiBoilerplate.Http.Transparency

/-!
# The log of requests

Every request that is logged leaves a task that writes its row. The tasks run in any
order, fail or are lost with the process, and the table may be truncated at any time.
What the table holds are rows of requests that were answered, each at most once.
-/

namespace ApiBoilerplate.Http.Observability

open Foundation Text

/-- A row as the table keeps it; the time is the database's, in seconds. -/
structure StoredLog where
  id : Nat
  row : LogRow
  createdAt : Nat
  deriving DecidableEq, Repr

/-- The task that `tokio::spawn` was given for one row. -/
inductive InsertTask where
  | waiting
  | stored
  | failed (error : String)
  | lost
  deriving DecidableEq, Repr

universe u v w

/-- A request that the middleware has answered, and the row it has made of it. -/
structure Answered (BodyError : Type v) (Error : Type w) where
  requestId : Uuid
  path : String
  answer : Except Error (ServiceResponse BodyError)
  row : Option LogRow

/-- The row tells of this request, and the response shows the row's id. -/
structure Answered.Tells (a : Answered BodyError Error) (row : LogRow) : Prop where
  made : a.row = some row
  requestId : row.requestId = a.requestId.hyphenated
  path : row.path = a.path
  logged : excluded a.path = false
  shown : ∀ response, a.answer = .ok response →
    response.headers.get xRequestId = some (row.requestId.toList.flatMap String.utf8EncodeChar)

structure LogStore (BodyError : Type v) (Error : Type w) where
  rows : List StoredLog
  /-- `AUTO_INCREMENT` -/
  nextId : Nat
  /-- The time of the last statement. -/
  clock : Nat
  tasks : List (LogRow × InsertTask)
  answered : List (Answered BodyError Error)

inductive LogLabel (PayloadError : Type u) (BodyError : Type v) (Error : Type w) where
  | request (requestId : Uuid) (durationMs : Int) (service : Service PayloadError BodyError Error)
      (req : ServiceRequest PayloadError)
  | insert (task now : Nat)
  | insertFailed (task : Nat) (error : String)
  | lose (task : Nat)
  | truncate

def utf8Length (text : String) : Nat := text.utf8ByteSize

/-- The columns are wide enough: `VARCHAR` counts characters, `TEXT` bytes. -/
def LogRow.fits (row : LogRow) : Bool :=
  row.requestId.length ≤ 36 && row.method.length ≤ 10 && row.path.length ≤ 2048 &&
    row.queryString.all (utf8Length · < 2 ^ 16) && row.ipAddress.all (·.length ≤ 45) &&
    utf8Length row.requestHeaders < 2 ^ 16 && row.requestBody.all (utf8Length · < 2 ^ 32) &&
    row.responseStatus < 2 ^ 31 && utf8Length row.responseHeaders < 2 ^ 16 &&
    row.responseBody.all (utf8Length · < 2 ^ 32) && -2 ^ 31 ≤ row.durationMs &&
    row.durationMs < 2 ^ 31

namespace LogStore
variable {PayloadError : Type u} {BodyError : Type v} {Error : Type w}

def setTask (s : LogStore BodyError Error) (i : Nat) (task : InsertTask) :
    LogStore BodyError Error :=
  { s with tasks := s.tasks.modify i fun t => (t.1, task) }

/-- The row of a task that has not run yet. -/
def waiting (s : LogStore BodyError Error) (i : Nat) : Option LogRow :=
  match s.tasks[i]? with
  | some (row, .waiting) => some row
  | _ => none

/-- The `INSERT`; the table gives the row its id and its time. -/
def stored (s : LogStore BodyError Error) (i now : Nat) (row : LogRow) :
    LogStore BodyError Error :=
  { s.setTask i .stored with
    rows := s.rows ++ [⟨s.nextId, row, now⟩]
    nextId := s.nextId + 1
    clock := now }

/-- A request is answered; a row it leaves is handed to a task. -/
def logged (s : LogStore BodyError Error) (answered : Answered BodyError Error) :
    LogStore BodyError Error :=
  { s with
    answered := s.answered ++ [answered]
    tasks := s.tasks ++ (answered.row.map fun row => (row, InsertTask.waiting)).toList }

/-- No two requests draw the same id, and the clock of the database does not go back. -/
def step (debug : Error → String) (state : Option HttpRequestLoggingConfig)
    (s : LogStore BodyError Error) :
    LogLabel PayloadError BodyError Error → Option (LogStore BodyError Error)
  | .request requestId durationMs service req =>
    if ∀ a ∈ s.answered, a.requestId ≠ requestId then
      let exchange := call debug state requestId durationMs service req
      some (s.logged ⟨requestId, req.head.path, exchange.answer, exchange.row⟩)
    else none
  | .insert i now =>
    match s.waiting i with
    | some row => if row.fits ∧ s.clock ≤ now then some (s.stored i now row) else none
    | none => none
  | .insertFailed i error => (s.waiting i).map fun _ => s.setTask i (.failed error)
  | .lose i => (s.waiting i).map fun _ => s.setTask i .lost
  | .truncate => some { s with rows := [], nextId := 1 }

def machine (PayloadError : Type u) (debug : Error → String)
    (state : Option HttpRequestLoggingConfig) :
    Machine (LogStore BodyError Error) (LogLabel PayloadError BodyError Error) where
  init := ⟨[], 1, 0, [], []⟩
  step := step debug state

variable {debug : Error → String} {state : Option HttpRequestLoggingConfig}
  {s t : LogStore BodyError Error}

/-- What a step does to the store. -/
inductive Change (PayloadError : Type u) (debug : Error → String)
    (state : Option HttpRequestLoggingConfig) (s : LogStore BodyError Error) :
    LogStore BodyError Error → Prop
  | logged (requestId : Uuid) (durationMs : Int) (service : Service PayloadError BodyError Error)
      (req : ServiceRequest PayloadError) : (∀ a ∈ s.answered, a.requestId ≠ requestId) →
      Change PayloadError debug state s
        (s.logged ⟨requestId, req.head.path,
          (call debug state requestId durationMs service req).answer,
          (call debug state requestId durationMs service req).row⟩)
  | stored (i now : Nat) (row : LogRow) : s.waiting i = some row → s.clock ≤ now →
      Change PayloadError debug state s (s.stored i now row)
  | ended (i : Nat) (row : LogRow) (task : InsertTask) : s.waiting i = some row → task ≠ .stored →
      Change PayloadError debug state s (s.setTask i task)
  | truncated : Change PayloadError debug state s { s with rows := [], nextId := 1 }

theorem step_change {l : LogLabel PayloadError BodyError Error}
    (step : LogStore.step debug state s l = some t) : Change PayloadError debug state s t := by
  cases l with
  | request requestId durationMs service req =>
    obtain ⟨fresh, ⟨⟩⟩ := Option.ite_none_right_eq_some.mp step
    exact .logged requestId durationMs service req fresh
  | insert i now =>
    simp only [LogStore.step] at step
    split at step
    · rename_i row waits
      obtain ⟨⟨_, later⟩, ⟨⟩⟩ := Option.ite_none_right_eq_some.mp step
      exact .stored i now row waits later
    · cases step
  | insertFailed i error =>
    obtain ⟨row, waits, rfl⟩ := Option.map_eq_some_iff.mp step
    exact .ended i row (.failed error) waits nofun
  | lose i =>
    obtain ⟨row, waits, rfl⟩ := Option.map_eq_some_iff.mp step
    exact .ended i row .lost waits nofun
  | truncate =>
    cases step
    exact .truncated

theorem waiting_eq_some {i : Nat} {row : LogRow} :
    s.waiting i = some row ↔ s.tasks[i]? = some (row, .waiting) := by
  rw [waiting]
  constructor
  · intro waits
    split at waits
    · rename_i found
      rw [found, Option.some.inj waits]
    · cases waits
  · intro found
    rw [found]

/-- Logging is on. -/
def Logs (state : Option HttpRequestLoggingConfig) : Prop := ∃ config, state = some config ∧
  config.enabled = true

/-- The row that a call makes, if any, tells of the request. -/
theorem call_tells {requestId : Uuid} {durationMs : Int}
    {service : Service PayloadError BodyError Error} {req : ServiceRequest PayloadError}
    {row : LogRow} {a : Answered BodyError Error}
    (called : a = ⟨requestId, req.head.path,
      (call debug state requestId durationMs service req).answer,
      (call debug state requestId durationMs service req).row⟩)
    (made : a.row = some row) : a.Tells row ∧ Logs state := by
  have written := made
  rw [called] at written
  have read : row.path = req.head.path ∧ row.requestId = requestId.hyphenated ∧
      excluded req.head.path = false ∧ Logs state := by
    unfold call at written
    split at written
    · cases written
    · rename_i included
      split at written
      · cases written
      · rename_i enabled
        have on : ∀ config, state = some config → config.enabled = true := by
          rintro config rfl
          simpa using enabled
        dsimp only at written
        split at written
        · obtain ⟨config, present, rfl⟩ := Option.map_eq_some_iff.mp written
          exact ⟨rfl, rfl, by simpa using included, config, present, on config present⟩
        · obtain ⟨config, present, rfl⟩ := Option.map_eq_some_iff.mp written
          exact ⟨rfl, rfl, by simpa using included, config, present, on config present⟩
  obtain ⟨path, named, included, logs⟩ := read
  subst called
  refine ⟨⟨made, named, path, included, ?_⟩, logs⟩
  intro response answered
  exact (answer_requestId debug state requestId durationMs service req row response written
    answered).2

theorem setTask_rows (s : LogStore BodyError Error) (i : Nat) (task : InsertTask) :
    (s.setTask i task).tasks.map Prod.fst = s.tasks.map Prod.fst := by
  refine List.ext_getElem? fun j => ?_
  rw [List.getElem?_map, List.getElem?_map, setTask, List.getElem?_modify]
  split
  · cases s.tasks[j]? <;> rfl
  · cases s.tasks[j]? <;> rfl

theorem mem_setTask {i : Nat} {task : InsertTask} {entry : LogRow × InsertTask}
    (listed : entry ∈ (s.setTask i task).tasks) : ∃ before ∈ s.tasks, before.1 = entry.1 := by
  have row : entry.1 ∈ (s.setTask i task).tasks.map Prod.fst := List.mem_map_of_mem listed
  rw [setTask_rows] at row
  exact List.mem_map.mp row

/-- A task that is over is not touched when another one ends. -/
theorem mem_setTask_of_stored {i : Nat} {task : InsertTask} {row row' : LogRow}
    (waits : s.waiting i = some row') (stored : (row, InsertTask.stored) ∈ s.tasks) :
    (row, InsertTask.stored) ∈ (s.setTask i task).tasks := by
  obtain ⟨j, found⟩ := List.mem_iff_getElem?.mp stored
  have other : i ≠ j := by
    rintro rfl
    rw [waiting_eq_some, found] at waits
    cases waits
  refine List.mem_iff_getElem?.mpr ⟨j, ?_⟩
  rw [setTask, List.getElem?_modify_ne _ _ other]
  exact found

structure Sound (state : Option HttpRequestLoggingConfig) (s : LogStore BodyError Error) :
    Prop where
  drawn : (s.answered.map Answered.requestId).Nodup
  made : ∀ entry ∈ s.tasks, Logs state ∧ ∃ a ∈ s.answered, a.Tells entry.1
  tasks : (s.tasks.map fun entry => entry.1.requestId).Nodup
  stored : ∀ log ∈ s.rows, (log.row, InsertTask.stored) ∈ s.tasks
  once : (s.rows.map fun log => log.row.requestId).Nodup
  /-- Ids and times go up with the rows. -/
  ordered : s.rows.Pairwise fun log later => log.id < later.id ∧ log.createdAt ≤ later.createdAt
  bounded : ∀ log ∈ s.rows, log.id < s.nextId ∧ log.createdAt ≤ s.clock

theorem sound_init (debug : Error → String) : Sound state
    (machine PayloadError debug state : Machine (LogStore BodyError Error) _).init := by
  constructor
  · exact List.nodup_nil
  · nofun
  · exact List.nodup_nil
  · nofun
  · exact List.nodup_nil
  · exact List.Pairwise.nil
  · nofun

theorem Sound.setTask {i : Nat} {task : InsertTask} {row : LogRow} (sound : Sound state s)
    (waits : s.waiting i = some row) : Sound state (s.setTask i task) := by
  constructor
  · exact sound.drawn
  · intro entry listed
    obtain ⟨before, member, same⟩ := mem_setTask listed
    rw [← same]
    exact sound.made before member
  · have rows := congrArg (List.map LogRow.requestId) (setTask_rows s i task)
    rw [List.map_map, List.map_map] at rows
    change (List.map (LogRow.requestId ∘ Prod.fst) _).Nodup
    rw [rows]
    exact sound.tasks
  · intro log listed
    exact mem_setTask_of_stored waits (sound.stored log listed)
  · exact sound.once
  · exact sound.ordered
  · exact sound.bounded

/-- The row of a task that has not run yet is not in the table. -/
theorem Sound.fresh {i : Nat} {row : LogRow} (sound : Sound state s)
    (waits : s.waiting i = some row) : ∀ log ∈ s.rows, log.row.requestId ≠ row.requestId := by
  intro log listed same
  have first := waiting_eq_some.mp waits
  obtain ⟨j, second⟩ := List.mem_iff_getElem?.mp (sound.stored log listed)
  have named {k : Nat} {entry : LogRow × InsertTask} (found : s.tasks[k]? = some entry) :
      (s.tasks.map fun entry => entry.1.requestId)[k]? = some entry.1.requestId := by
    rw [List.getElem?_map, found]
    rfl
  have index : i = j := by
    obtain ⟨bound, _⟩ := List.getElem?_eq_some_iff.mp (named first)
    refine (List.getElem?_inj bound sound.tasks).mp ?_
    rw [named first, named second, same]
  rw [index, second] at first
  cases first

theorem Sound.stores {i now : Nat} {row : LogRow} (sound : Sound state s)
    (waits : s.waiting i = some row) (later : s.clock ≤ now) :
    Sound state (s.stored i now row) := by
  have marked : Sound state (s.setTask i .stored) := sound.setTask waits
  constructor
  · exact sound.drawn
  · exact marked.made
  · exact marked.tasks
  · intro log listed
    rcases List.mem_append.mp listed with old | new
    · exact marked.stored log old
    · obtain rfl := List.mem_singleton.mp new
      refine List.mem_iff_getElem?.mpr ⟨i, ?_⟩
      change (s.setTask i .stored).tasks[i]? = _
      rw [LogStore.setTask, List.getElem?_modify_eq, waiting_eq_some.mp waits]
      rfl
  · change ((s.rows ++ [(⟨s.nextId, row, now⟩ : StoredLog)]).map
      fun log => log.row.requestId).Nodup
    rw [List.map_append, List.nodup_append]
    refine ⟨sound.once, List.nodup_singleton _, ?_⟩
    rintro named listed _ here rfl
    obtain ⟨log, present, rfl⟩ := List.mem_map.mp listed
    exact sound.fresh waits log present (List.mem_singleton.mp here)
  · refine List.pairwise_append.mpr ⟨sound.ordered, List.pairwise_singleton _ _, ?_⟩
    intro log listed new here
    obtain rfl := List.mem_singleton.mp here
    obtain ⟨smaller, earlier⟩ := sound.bounded log listed
    exact ⟨smaller, earlier.trans later⟩
  · intro log listed
    change log.id < s.nextId + 1 ∧ log.createdAt ≤ now
    rcases List.mem_append.mp listed with old | new
    · obtain ⟨smaller, earlier⟩ := sound.bounded log old
      exact ⟨Nat.lt_succ_of_lt smaller, earlier.trans later⟩
    · obtain rfl := List.mem_singleton.mp new
      exact ⟨Nat.lt_succ_self _, le_rfl⟩

theorem Sound.logs {a : Answered BodyError Error} (sound : Sound state s)
    (fresh : ∀ b ∈ s.answered, b.requestId ≠ a.requestId)
    (tells : ∀ row, a.row = some row → a.Tells row ∧ Logs state) : Sound state (s.logged a) := by
  constructor
  · change ((s.answered ++ [a]).map Answered.requestId).Nodup
    rw [List.map_append, List.nodup_append]
    refine ⟨sound.drawn, List.nodup_singleton _, ?_⟩
    rintro named listed _ here rfl
    obtain ⟨b, present, rfl⟩ := List.mem_map.mp listed
    exact fresh b present (List.mem_singleton.mp here)
  · intro entry listed
    rcases List.mem_append.mp listed with old | new
    · obtain ⟨logs, b, present, told⟩ := sound.made entry old
      exact ⟨logs, b, List.mem_append_left _ present, told⟩
    · obtain ⟨row, made, rfl⟩ := Option.map_eq_some_iff.mp (Option.mem_toList.mp new)
      obtain ⟨told, logs⟩ := tells row made
      exact ⟨logs, a, List.mem_append_right _ (List.mem_singleton_self a), told⟩
  · change ((s.tasks ++ _).map fun entry => entry.1.requestId).Nodup
    rw [List.map_append, List.nodup_append]
    cases made : a.row with
    | none => exact ⟨sound.tasks, List.nodup_nil, nofun⟩
    | some row =>
      refine ⟨sound.tasks, List.nodup_singleton _, ?_⟩
      rintro named listed _ here rfl
      obtain ⟨entry, present, rfl⟩ := List.mem_map.mp listed
      obtain ⟨_, b, drawn, told⟩ := sound.made entry present
      have same : b.requestId.hyphenated = a.requestId.hyphenated := by
        rw [← told.requestId, ← (tells row made).1.requestId]
        exact List.mem_singleton.mp here
      exact fresh b drawn (Uuid.hyphenated_injective same)
  · intro log listed
    exact List.mem_append_left _ (sound.stored log listed)
  · exact sound.once
  · exact sound.ordered
  · exact sound.bounded

theorem Sound.truncates (sound : Sound state s) :
    Sound state { s with rows := [], nextId := 1 } := by
  constructor
  · exact sound.drawn
  · exact sound.made
  · exact sound.tasks
  · nofun
  · exact List.nodup_nil
  · exact List.Pairwise.nil
  · nofun

theorem Change.sound (sound : Sound state s) (change : Change PayloadError debug state s t) :
    Sound state t := by
  cases change with
  | logged requestId durationMs service req fresh =>
    exact sound.logs fresh fun row made => call_tells rfl made
  | stored i now row waits later => exact sound.stores waits later
  | ended i row task waits _ => exact sound.setTask waits
  | truncated => exact sound.truncates

theorem reachable_sound (reach : (machine PayloadError debug state).Reachable s) :
    Sound state s :=
  reach.invariant (sound_init debug) fun _ _ _ before _ step => (step_change step).sound before

/-- Every row of the table is one of an answered request that was to be logged, under the
id that its response shows, and no request has two rows. -/
theorem logged_once (reach : (machine PayloadError debug state).Reachable s) :
    (∀ log ∈ s.rows, Logs state ∧ ∃ a ∈ s.answered, a.Tells log.row) ∧
      (∀ log ∈ s.rows, ∀ log' ∈ s.rows, log.row.requestId = log'.row.requestId → log = log') ∧
      ∀ a ∈ s.answered, ∀ a' ∈ s.answered, ∀ row, a.Tells row → a'.Tells row → a = a' := by
  have sound := reachable_sound reach
  refine ⟨?_, ?_, ?_⟩
  · intro log listed
    exact sound.made _ (sound.stored log listed)
  · intro log listed log' listed' same
    exact List.inj_on_of_nodup_map sound.once listed listed' same
  · intro a drawn a' drawn' row told told'
    have same : a.requestId.hyphenated = a'.requestId.hyphenated :=
      told.requestId.symm.trans told'.requestId
    exact List.inj_on_of_nodup_map sound.drawn drawn drawn' (Uuid.hyphenated_injective same)

/-- Two requests are logged, the second one first. -/
def sampleLabels : List (LogLabel String String String) :=
  [.request 1 12 echo (paddedRequest []), .request 2 7 echo (paddedRequest []),
    .insert 1 100, .insert 0 101]

def sampleMachine : Machine (LogStore String String) (LogLabel String String String) :=
  machine String (fun e => e) (some ⟨true, true, true⟩)

def sampleStore : LogStore String String := sampleMachine.follow (fun _ _ => true) sampleLabels

theorem sampleStore_reachable : sampleMachine.Reachable sampleStore :=
  ⟨sampleLabels, Machine.run_follow (fun _ _ _ => trivial) (by decide +kernel)⟩

theorem logged_once_sample :
    (∀ log ∈ sampleStore.rows, Logs (some ⟨true, true, true⟩) ∧
        ∃ a ∈ sampleStore.answered, a.Tells log.row) ∧
      (∀ log ∈ sampleStore.rows, ∀ log' ∈ sampleStore.rows,
        log.row.requestId = log'.row.requestId → log = log') ∧
      ∀ a ∈ sampleStore.answered, ∀ a' ∈ sampleStore.answered, ∀ row,
        a.Tells row → a'.Tells row → a = a' :=
  logged_once sampleStore_reachable

end LogStore
end ApiBoilerplate.Http.Observability
