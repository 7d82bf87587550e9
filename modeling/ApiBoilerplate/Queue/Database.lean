import ApiBoilerplate.Foundation.ReverseIndex
import ApiBoilerplate.Queue.Tracking

/-!
# The database backend

The `jobs` table and the statements `DatabaseBackend` runs on it. Rows are keyed
by the text of the job id. `dequeue` commits before it decodes the row, and
`acknowledge` and `fail` update by id without looking at the status. Workers in
any number of processes share the table; a call may also fail after or before
its statement took effect.
-/

namespace ApiBoilerplate

open Foundation

structure JobRow where
  jobType : String
  payload : String
  status : JobStatus
  attempts : Int32
  maxAttempts : Int32
  runAt : DateTime
  createdAt : DateTime
  failedAt : Option DateTime
  error : Option String
  deriving DecidableEq

abbrev JobTable := FinMap String JobRow

/-- Text forms made and read by `serde_json` and `uuid`. -/
structure Codec (Value : Type) where
  toText : Value → Except String String
  fromText : String → Except String Value
  parseStr : String → Except String Uuid

namespace DatabaseBackend
variable {Value : Type}

/-- `UPDATE jobs SET … WHERE id = ?`. -/
def update (jobs : JobTable) (id : String) (set : JobRow → JobRow) : JobTable :=
  match jobs.lookup id with
  | some row => jobs.insert id (set row)
  | none => jobs

/-- `none` when the call fails: the payload has no text, the id is taken, a counter
is too large for its `INT` column, or the job type too long for its `VARCHAR(255)`. -/
def enqueue (codec : Codec Value) (jobs : JobTable) (envelope : JobEnvelope Value) :
    Option JobTable :=
  match codec.toText envelope.payload with
  | .error _ => none
  | .ok payload =>
    if envelope.id.hyphenated ∈ jobs ∨ 2 ^ 31 ≤ envelope.attempts.toNat ∨
        2 ^ 31 ≤ envelope.maxAttempts.toNat ∨ 255 < envelope.jobType.length then none
    else
      some (jobs.insert envelope.id.hyphenated {
        jobType := envelope.jobType
        payload := payload
        status := envelope.status
        attempts := envelope.attempts.toInt32
        maxAttempts := envelope.maxAttempts.toInt32
        runAt := DateTime.stored envelope.runAt
        createdAt := DateTime.stored envelope.createdAt
        failedAt := none
        error := envelope.error })

def Selectable (now : DateTime) (row : JobRow) : Prop :=
  (row.status = .pending ∨ row.status = .retrying) ∧ row.runAt ≤ DateTime.sqlNow now

instance (now : DateTime) (row : JobRow) : Decidable (Selectable now row) :=
  inferInstanceAs (Decidable (_ ∧ _))

/-- `ORDER BY run_at ASC LIMIT 1` may return this row. -/
def First (jobs : JobTable) (now : DateTime) (row : JobRow) : Prop :=
  ∀ id ∈ jobs.keys, ∀ other ∈ jobs.lookup id, Selectable now other → row.runAt ≤ other.runAt

instance (jobs : JobTable) (now : DateTime) (row : JobRow) : Decidable (First jobs now row) :=
  inferInstanceAs (Decidable (∀ id ∈ jobs.keys, ∀ other ∈ jobs.lookup id, _ → _))

/-- The row `SELECT … FOR UPDATE SKIP LOCKED` locks. -/
def selectRow (jobs : JobTable) (now : DateTime) (id : String) : Option JobRow :=
  (jobs.lookup id).filter (fun row => decide (Selectable now row ∧ First jobs now row))

def markRunning (row : JobRow) : JobRow :=
  { row with status := .running, attempts := row.attempts + 1 }

/-- The envelope read off the selected row, after the commit. -/
def decode (codec : Codec Value) (id : String) (row : JobRow) :
    Except QueueError (JobEnvelope Value) :=
  match codec.fromText row.payload with
  | .error e => .error (.serialization e)
  | .ok payload =>
    match codec.parseStr id with
    | .error e => .error (.channel ("Invalid UUID in jobs table: " ++ e))
    | .ok uuid => .ok {
        id := uuid
        jobType := row.jobType
        payload := payload
        status := .running
        attempts := (row.attempts + 1).toUInt32
        maxAttempts := row.maxAttempts.toUInt32
        runAt := row.runAt
        createdAt := row.createdAt
        error := row.error }

/-- The transaction of `dequeue` that selects the row `id`; `none` when it would
not select it. -/
def dequeue (codec : Codec Value) (jobs : JobTable) (now : DateTime) (id : String) :
    Option (JobTable × Except QueueError (JobEnvelope Value)) :=
  (selectRow jobs now id).map (fun row => (update jobs id markRunning, decode codec id row))

def acknowledge (jobs : JobTable) (id : Uuid) : JobTable :=
  update jobs id.hyphenated (fun row => { row with status := .completed })

def fail (jobs : JobTable) (id : Uuid) (error : String) (retryAt : Option DateTime)
    (now : DateTime) : JobTable :=
  match retryAt with
  | some at_ => update jobs id.hyphenated (fun row =>
      { row with status := .retrying, error := some error, runAt := DateTime.stored at_ })
  | none => update jobs id.hyphenated (fun row =>
      { row with status := .failed, error := some error, failedAt := some (DateTime.sqlNow now) })

theorem lookup_update (jobs : JobTable) (id key : String) (set : JobRow → JobRow) :
    (update jobs id set).lookup key =
      if key = id then (jobs.lookup id).map set else jobs.lookup key := by
  rw [update]
  cases found : jobs.lookup id with
  | none =>
    by_cases same : key = id
    · rw [same, found, if_pos rfl, Option.map_none]
    · rw [if_neg same]
  | some row => rw [FinMap.lookup_insert_eq, Option.map_some]

/-- The table takes an order that its columns can hold, under a new id. -/
theorem enqueue_isSome_iff {codec : Codec Value} {jobs : JobTable} {order : JobOrder Value} :
    (enqueue codec jobs order.envelope).isSome = true ↔
      (∃ text, codec.toText order.payload = .ok text) ∧ order.id.hyphenated ∉ jobs ∧
        order.maxAttempts.toNat < 2 ^ 31 ∧ order.jobType.length ≤ 255 := by
  simp only [enqueue, JobOrder.envelope_id, JobOrder.envelope_attempts,
    JobOrder.envelope_maxAttempts, JobOrder.envelope_jobType, JobOrder.envelope_payload]
  cases text : codec.toText order.payload with
  | error e => simp
  | ok payload =>
    have zero : ¬ 2 ^ 31 ≤ (0 : UInt32).toNat := by decide
    dsimp only
    split
    · rename_i refused
      refine iff_of_false Bool.false_ne_true ?_
      rintro ⟨_, free, small, short⟩
      rcases refused with taken | none | large | long
      · exact free taken
      · exact zero none
      · omega
      · omega
    · rename_i room
      simp only [not_or, not_le, not_lt] at room
      exact iff_of_true rfl ⟨⟨payload, rfl⟩, room.1, room.2.2⟩

/-- What the table takes is one new row. -/
theorem enqueue_some {codec : Codec Value} {jobs jobs' : JobTable} {order : JobOrder Value}
    (accepted : enqueue codec jobs order.envelope = some jobs') :
    jobs.lookup order.id.hyphenated = none ∧ ∃ row,
      jobs' = jobs.insert order.id.hyphenated row ∧ codec.toText order.payload = .ok row.payload ∧
      row.jobType = order.jobType ∧ row.maxAttempts = order.maxAttempts.toInt32 ∧
      row.status = .pending ∧ row.attempts = 0 ∧
      row.runAt = DateTime.stored order.envelope.runAt := by
  simp only [enqueue, JobOrder.envelope_id, JobOrder.envelope_attempts, JobOrder.envelope_status,
    JobOrder.envelope_maxAttempts, JobOrder.envelope_jobType, JobOrder.envelope_payload] at accepted
  split at accepted
  · cases accepted
  · rename_i payload text
    split at accepted
    · cases accepted
    · rename_i free
      obtain rfl := Option.some.inj accepted
      exact ⟨Finmap.lookup_eq_none.mpr fun taken => free (Or.inl taken), _, rfl, text, rfl, rfl,
        rfl, rfl, rfl⟩

/-- The id of an order that the table takes is new there; its row starts when the
order says, as the column keeps it. -/
theorem enqueue_lookup {codec : Codec Value} {jobs jobs' : JobTable} {order : JobOrder Value}
    (accepted : enqueue codec jobs order.envelope = some jobs') :
    jobs.lookup order.id.hyphenated = none ∧
      (∃ row, jobs'.lookup order.id.hyphenated = some row ∧
        row.runAt = DateTime.stored order.envelope.runAt) ∧
      ∀ k, k ≠ order.id.hyphenated → jobs'.lookup k = jobs.lookup k := by
  obtain ⟨fresh, row, rfl, _, _, _, _, _, start⟩ := enqueue_some accepted
  exact ⟨fresh, ⟨row, Finmap.lookup_insert _, start⟩,
    fun k other => Finmap.lookup_insert_of_ne _ other⟩

theorem decode_ok_iff {codec : Codec Value} {id : String} {row : JobRow} :
    (∃ e, decode codec id row = .ok e) ↔ (∃ value, codec.fromText row.payload = .ok value) ∧
      ∃ uuid, codec.parseStr id = .ok uuid := by
  rw [decode]
  cases codec.fromText row.payload with
  | error e => simp
  | ok value => cases codec.parseStr id <;> simp

theorem decode_id {codec : Codec Value} {id : String} {row : JobRow} {e : JobEnvelope Value}
    (decoded : decode codec id row = .ok e) : codec.parseStr id = .ok e.id := by
  rw [decode] at decoded
  cases payload : codec.fromText row.payload with
  | error e => simp [payload] at decoded
  | ok value =>
    cases parsed : codec.parseStr id with
    | error e => simp [payload, parsed] at decoded
    | ok uuid =>
      simp only [payload, parsed, Except.ok.injEq] at decoded
      rw [← decoded]

end DatabaseBackend

/-- How a call on the database ends, and whether its statement took effect. -/
inductive Reply where
  | ok
  | errorAfter
  | errorBefore
  deriving DecidableEq, Repr

def Reply.applied {α : Type} (reply : Reply) (before after : α) : α :=
  match reply with
  | .ok => after
  | .errorAfter => after
  | .errorBefore => before

/-- The shared table and the job tasks alive in all processes. `history` records
executions begun and handlers returned. -/
structure DatabaseQueue (Value : Type) where
  jobs : JobTable
  tasks : TaskId → Option (JobTask Value)
  history : List (Uuid × Lifecycle.Event)

namespace DatabaseQueue
variable {Value : Type}

inductive Label (Value : Type) where
  | enqueue (order : JobOrder Value)
  /-- A worker loop dequeues the row `id` and spawns `task` for it. -/
  | dequeue (task : TaskId) (id : String) (now : DateTime) (reply : Reply)
  | handlerReturns (task : TaskId) (result : Except QueueError Unit)
  | acknowledge (task : TaskId) (reply : Reply)
  /-- Readings of the worker's clock and of the database's. -/
  | fail (task : TaskId) (now sqlNow : DateTime) (reply : Reply)
  /-- A task ends without a call: its handler panics or it is cancelled. -/
  | vanish (task : TaskId)
  | crash (process : Nat)

/-- A task that holds no job any more. -/
def drop (tasks : TaskId → Option (JobTask Value)) (task : TaskId) :
    TaskId → Option (JobTask Value) :=
  Function.update tasks task none

section Step
variable (codec : Codec Value) (worker : WorkerConfig)

def step (s : DatabaseQueue Value) : Label Value → Option (DatabaseQueue Value)
  | .enqueue order =>
    some { s with jobs := (DatabaseBackend.enqueue codec s.jobs order.envelope).getD s.jobs }
  | .dequeue task id now reply =>
    match s.tasks task with
    | some _ => none
    | none =>
      match DatabaseBackend.dequeue codec s.jobs now id with
      | none => none
      | some (jobs, result) =>
        match reply, result with
        | .ok, .ok envelope => some {
            jobs := jobs
            tasks := Function.update s.tasks task (some ⟨envelope, none⟩)
            history := s.history ++ [(envelope.id, .started envelope.attempts.toNat)] }
        | .ok, .error _ => some { s with jobs := jobs }
        | .errorAfter, _ => some { s with jobs := jobs }
        | .errorBefore, _ => some s
  | .handlerReturns task result =>
    match s.tasks task with
    | some ⟨envelope, none⟩ =>
      let outcome := Worker.outcome worker.registered envelope.jobType result
      some { s with
        tasks := Function.update s.tasks task (some ⟨envelope, some outcome⟩)
        history := s.history ++ [(envelope.id, .returned outcome.isOk)] }
    | _ => none
  | .acknowledge task reply =>
    match s.tasks task with
    | some ⟨envelope, some (.ok ())⟩ => some { s with
        jobs := reply.applied s.jobs (DatabaseBackend.acknowledge s.jobs envelope.id)
        tasks := drop s.tasks task }
    | _ => none
  | .fail task now sqlNow reply =>
    match s.tasks task with
    | some ⟨envelope, some (.error e)⟩ =>
      let retryAt :=
        Worker.retryAt worker.retryDelaySeconds envelope.attempts envelope.maxAttempts now
      some { s with
        jobs := reply.applied s.jobs
          (DatabaseBackend.fail s.jobs envelope.id e.text retryAt sqlNow)
        tasks := drop s.tasks task }
    | _ => none
  | .vanish task =>
    match s.tasks task with
    | some _ => some { s with tasks := drop s.tasks task }
    | none => none
  | .crash process =>
    some { s with tasks := fun task => if task.process = process then none else s.tasks task }

def machine : Machine (DatabaseQueue Value) (Label Value) where
  init := ⟨∅, fun _ => none, []⟩
  step := step codec worker

end Step

/-- What one step does, label by label. -/
inductive Moves (codec : Codec Value) (worker : WorkerConfig) (s : DatabaseQueue Value) :
    Label Value → DatabaseQueue Value → Prop where
  | enqueued (order : JobOrder Value) : Moves codec worker s (.enqueue order)
      { s with jobs := (DatabaseBackend.enqueue codec s.jobs order.envelope).getD s.jobs }
  | returned {task : TaskId} {id : String} {now : DateTime} {row : JobRow}
      {envelope : JobEnvelope Value} (idle : s.tasks task = none)
      (selected : DatabaseBackend.selectRow s.jobs now id = some row)
      (decoded : DatabaseBackend.decode codec id row = .ok envelope) :
      Moves codec worker s (.dequeue task id now .ok) {
        jobs := DatabaseBackend.update s.jobs id DatabaseBackend.markRunning
        tasks := Function.update s.tasks task (some ⟨envelope, none⟩)
        history := s.history ++ [(envelope.id, .started envelope.attempts.toNat)] }
  | misread {task : TaskId} {id : String} {now : DateTime} {reply : Reply} {row : JobRow}
      (selected : DatabaseBackend.selectRow s.jobs now id = some row)
      (unanswered : reply = .errorAfter ∨
        reply = .ok ∧ ∃ e, DatabaseBackend.decode codec id row = .error e) :
      Moves codec worker s (.dequeue task id now reply)
        { s with jobs := DatabaseBackend.update s.jobs id DatabaseBackend.markRunning }
  | rolledBack {task : TaskId} {id : String} {now : DateTime} {row : JobRow}
      (selected : DatabaseBackend.selectRow s.jobs now id = some row) :
      Moves codec worker s (.dequeue task id now .errorBefore) s
  | handled {task : TaskId} {envelope : JobEnvelope Value}
      (live : s.tasks task = some ⟨envelope, none⟩) (result : Except QueueError Unit)
      {outcome : Except QueueError Unit}
      (decided : outcome = Worker.outcome worker.registered envelope.jobType result) :
      Moves codec worker s (.handlerReturns task result) { s with
        tasks := Function.update s.tasks task (some ⟨envelope, some outcome⟩)
        history := s.history ++ [(envelope.id, .returned outcome.isOk)] }
  | acknowledged {task : TaskId} {envelope : JobEnvelope Value}
      (live : s.tasks task = some ⟨envelope, some (.ok ())⟩) (reply : Reply) :
      Moves codec worker s (.acknowledge task reply) { s with
        jobs := reply.applied s.jobs (DatabaseBackend.acknowledge s.jobs envelope.id)
        tasks := drop s.tasks task }
  | failed {task : TaskId} {envelope : JobEnvelope Value} {e : QueueError}
      (live : s.tasks task = some ⟨envelope, some (.error e)⟩) (now sqlNow : DateTime)
      (reply : Reply) :
      Moves codec worker s (.fail task now sqlNow reply) { s with
        jobs := reply.applied s.jobs (DatabaseBackend.fail s.jobs envelope.id e.text
          (Worker.retryAt worker.retryDelaySeconds envelope.attempts envelope.maxAttempts now)
          sqlNow)
        tasks := drop s.tasks task }
  | vanished {task : TaskId} {job : JobTask Value} (live : s.tasks task = some job) :
      Moves codec worker s (.vanish task) { s with tasks := drop s.tasks task }
  | crashed (process : Nat) : Moves codec worker s (.crash process)
      { s with tasks := fun task => if task.process = process then none else s.tasks task }

theorem step_moves {codec : Codec Value} {worker : WorkerConfig} {s t : DatabaseQueue Value}
    {l : Label Value} (stepped : step codec worker s l = some t) : Moves codec worker s l t := by
  cases l with
  | enqueue order =>
    obtain rfl := Option.some.inj stepped
    exact .enqueued order
  | dequeue task id now reply =>
    simp only [step, DatabaseBackend.dequeue] at stepped
    cases idle : s.tasks task with
    | some job => simp [idle] at stepped
    | none =>
      cases selected : DatabaseBackend.selectRow s.jobs now id with
      | none => simp [idle, selected] at stepped
      | some row =>
        simp only [idle, selected, Option.map_some] at stepped
        cases reply with
        | errorBefore =>
          obtain rfl := Option.some.inj stepped
          exact .rolledBack selected
        | errorAfter =>
          obtain rfl := Option.some.inj stepped
          exact .misread selected (Or.inl rfl)
        | ok =>
          cases decoded : DatabaseBackend.decode codec id row with
          | error e =>
            simp only [decoded] at stepped
            obtain rfl := Option.some.inj stepped
            exact .misread selected (Or.inr ⟨rfl, e, decoded⟩)
          | ok envelope =>
            simp only [decoded] at stepped
            obtain rfl := Option.some.inj stepped
            exact .returned idle selected decoded
  | handlerReturns task result =>
    simp only [step] at stepped
    split at stepped
    · rename_i live
      obtain rfl := Option.some.inj stepped
      exact .handled live result rfl
    · cases stepped
  | acknowledge task reply =>
    simp only [step] at stepped
    split at stepped
    · rename_i live
      obtain rfl := Option.some.inj stepped
      exact .acknowledged live reply
    · cases stepped
  | fail task now sqlNow reply =>
    simp only [step] at stepped
    split at stepped
    · rename_i live
      obtain rfl := Option.some.inj stepped
      exact .failed live now sqlNow reply
    · cases stepped
  | vanish task =>
    simp only [step] at stepped
    split at stepped
    · rename_i live
      obtain rfl := Option.some.inj stepped
      exact .vanished live
    · cases stepped
  | crash process =>
    obtain rfl := Option.some.inj stepped
    exact .crashed process

/-- A step that takes a job from its task, or marks it running without one: a
crash or a panic of a holder, a call that failed, or a row that does not decode. -/
def Disturbs (codec : Codec Value) (s : DatabaseQueue Value) : Label Value → Prop
  | .enqueue _ => False
  | .dequeue _ id _ reply =>
    reply = .errorAfter ∨
      reply = .ok ∧ ∃ row e, s.jobs.lookup id = some row ∧
        DatabaseBackend.decode codec id row = .error e
  | .handlerReturns _ _ => False
  | .acknowledge _ reply => reply = .errorBefore
  | .fail _ _ _ reply => reply = .errorBefore
  | .vanish task => s.tasks task ≠ none
  | .crash process => ∃ task, task.process = process ∧ s.tasks task ≠ none

/-- The table and the tasks as an observer sees them. -/
def view : Lifecycle.View (DatabaseQueue Value) TaskId (Option JobRow) where
  holds s task i := ∃ job, s.tasks task = some job ∧ job.envelope.id = i
  status s i x := ∃ row, s.jobs.lookup i.hyphenated = some row ∧ row.status = x
  record s i := s.jobs.lookup i.hyphenated
  events s i := Lifecycle.eventsOf s.history i
  budget s i := (s.jobs.lookup i.hyphenated).map (fun row => row.maxAttempts.toInt.toNat)
  counter s i a := ∃ row, s.jobs.lookup i.hyphenated = some row ∧ row.attempts.toInt = a

end DatabaseQueue
end ApiBoilerplate
