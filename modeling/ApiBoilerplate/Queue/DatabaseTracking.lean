import ApiBoilerplate.Queue.Database

/-!
# The database backend keeps job accounts

Each row of the table is one job account: its status and counter are those of
the account's stage, and the job is held by the task whose envelope carries its
id. Every step of the workers moves one account, except a crash, which strands
the jobs of all tasks of a process.
-/

namespace ApiBoilerplate
namespace DatabaseQueue

open Foundation
open Lifecycle (Stage Job Move Advance Ledger Sound SoundLedger Tracking eventsOf_append)

variable {Value : Type}

/-- A row shows the stage of its job. -/
structure RowAt (row : JobRow) (stage : Stage Unit TaskId) : Prop where
  status : stage.status = some row.status
  attempts : row.attempts.toInt = (stage.attempts : Int)
  budget : 0 ≤ row.maxAttempts.toInt

/-- The task that executes the `n`-th attempt of a job. -/
structure TaskAt (job : JobTask Value) (m n : Nat) : Prop where
  attempts : job.envelope.attempts.toNat = n
  budget : job.envelope.maxAttempts.toNat = m

structure Tracks (s : DatabaseQueue Value) (L : Ledger Unit TaskId) : Prop where
  absent : ∀ i, s.jobs.lookup i.hyphenated = none → L i = none
  row : ∀ i row, s.jobs.lookup i.hyphenated = some row →
    ∃ stage, L i = some ⟨row.maxAttempts.toInt.toNat, stage⟩ ∧ RowAt row stage
  task : ∀ t job, s.tasks t = some job → ∃ m n,
    L job.envelope.id = some ⟨m, .held t n (job.result.map Except.isOk)⟩ ∧ TaskAt job m n
  held : ∀ i m t n r, L i = some ⟨m, .held t n r⟩ →
    ∃ job, s.tasks t = some job ∧ job.envelope.id = i
  keys : ∀ k row, s.jobs.lookup k = some row → ∃ i : Uuid, k = i.hyphenated

theorem toInt_add_one {a : Int32} {n : Nat} (value : a.toInt = (n : Int))
    (small : n + 1 < 2 ^ 31) : (a + 1).toInt = ((n + 1 : Nat) : Int) := by
  rw [Int32.toInt_add, value]
  have one : (1 : Int32).toInt = 1 := by decide
  rw [one, Int.bmod_eq_of_le (by omega) (by omega)]
  rfl

theorem toNat_toUInt32 {a : Int32} {n : Nat} (value : a.toInt = (n : Int)) :
    a.toUInt32.toNat = n := by
  have nonneg : (0 : Int32) ≤ a := by
    rw [Int32.le_iff_toInt_le, value]
    exact Int.natCast_nonneg n
  rw [Int32.toNat_toUInt32_of_le nonneg]
  change a.toInt.toNat = n
  rw [value, Int.toNat_natCast]

theorem toInt_toInt32 {a : UInt32} (small : a.toNat < 2 ^ 31) :
    a.toInt32.toInt = (a.toNat : Int) := by
  change a.toBitVec.toInt = _
  rw [BitVec.toInt_eq_toNat_of_lt]
  · rfl
  · change 2 * a.toNat < 2 ^ 32
    omega

theorem waiting_of_status {stage : Stage Unit TaskId} {x : JobStatus}
    (status : stage.status = some x) (selectable : x = .pending ∨ x = .retrying) :
    ∃ n, stage = .waiting () n := by
  cases stage with
  | waiting p n => exact ⟨n, rfl⟩
  | held t n r => cases status; simp at selectable
  | stranded n => cases status; simp at selectable
  | completed n => cases status; simp at selectable
  | failed n => cases status; simp at selectable
  | lost n => cases status

/-- What `Tracking.next` asks of a step, job by job. -/
def StepsTo (R : Prop) (s s' : DatabaseQueue Value) (L L' : Ledger Unit TaskId) : Prop :=
  ∀ i, (L' i = L i ∧ view.events s' i = view.events s i ∧ view.record s' i = view.record s i) ∨
    ∃ new, Advance R (L i) (L' i) new ∧ view.events s' i = view.events s i ++ new

/-- The row of job `i` may change, the rows of the others do not. -/
structure RowChange (i : Uuid) (jobs jobs' : JobTable) (a b : Stage Unit TaskId) : Prop where
  others : ∀ k, k ≠ i.hyphenated → jobs'.lookup k = jobs.lookup k
  mine : ∀ row, jobs.lookup i.hyphenated = some row → RowAt row a →
    ∃ row', jobs'.lookup i.hyphenated = some row' ∧ RowAt row' b ∧
      row'.maxAttempts = row.maxAttempts

theorem RowChange.none {i : Uuid} {jobs : JobTable} {a b : Stage Unit TaskId}
    (same : ∀ row, RowAt row a → RowAt row b) : RowChange i jobs jobs a b :=
  ⟨fun _ _ => rfl, fun row found shown => ⟨row, found, same row shown, rfl⟩⟩

theorem RowChange.update {i : Uuid} {jobs : JobTable} {a b : Stage Unit TaskId}
    {set : JobRow → JobRow}
    (moved : ∀ row, jobs.lookup i.hyphenated = some row → RowAt row a →
      RowAt (set row) b ∧ (set row).maxAttempts = row.maxAttempts) :
    RowChange i jobs (DatabaseBackend.update jobs i.hyphenated set) a b := by
  constructor
  · intro k other
    rw [DatabaseBackend.lookup_update, if_neg other]
  · intro row found shown
    obtain ⟨after, budget⟩ := moved row found shown
    refine ⟨set row, ?_, after, budget⟩
    rw [DatabaseBackend.lookup_update, if_pos rfl, found, Option.map_some]

/-- The tasks of other jobs stay, those of job `i` are as the stage says. -/
structure TaskChange (i : Uuid) (m : Nat) (tasks tasks' : TaskId → Option (JobTask Value))
    (b : Stage Unit TaskId) : Prop where
  others : ∀ t job, job.envelope.id ≠ i → (tasks' t = some job ↔ tasks t = some job)
  mine : ∀ t job, tasks' t = some job → job.envelope.id = i →
    ∃ n, b = .held t n (job.result.map Except.isOk) ∧ TaskAt job m n
  back : ∀ t n r, b = .held t n r → ∃ job, tasks' t = some job ∧ job.envelope.id = i

section OneJob
variable {s : DatabaseQueue Value} {L : Ledger Unit TaskId} {i : Uuid} {m : Nat}
  {a b : Stage Unit TaskId} {jobs' : JobTable} {tasks' : TaskId → Option (JobTask Value)}

theorem Tracks.known (tracks : Tracks s L) (account : L i = some ⟨m, a⟩) :
    ∃ row, s.jobs.lookup i.hyphenated = some row ∧ RowAt row a ∧
      row.maxAttempts.toInt.toNat = m := by
  cases found : s.jobs.lookup i.hyphenated with
  | none => rw [tracks.absent i found] at account; cases account
  | some row =>
    obtain ⟨stage, same, shown⟩ := tracks.row i row found
    rw [account] at same
    cases same
    exact ⟨row, rfl, shown, rfl⟩

theorem Tracks.moveJob (tracks : Tracks s L) (account : L i = some ⟨m, a⟩) {R : Prop}
    {new : List Lifecycle.Event} (move : Move R m a b new)
    (rows : RowChange i s.jobs jobs' a b) (tasks : TaskChange i m s.tasks tasks' b) :
    ∃ L', Tracks ⟨jobs', tasks', s.history ++ new.map (fun e => (i, e))⟩ L' ∧
      StepsTo R s ⟨jobs', tasks', s.history ++ new.map (fun e => (i, e))⟩ L L' := by
  obtain ⟨row, found, shown, budget⟩ := tracks.known account
  obtain ⟨row', found', shown', kept⟩ := rows.mine row found shown
  have apart : ∀ j, j ≠ i → jobs'.lookup (Uuid.hyphenated j) = s.jobs.lookup j.hyphenated :=
    fun j other => rows.others _ (fun same => other (Uuid.hyphenated_injective same))
  refine ⟨Function.update L i (some ⟨m, b⟩), ⟨?_, ?_, ?_, ?_, ?_⟩, ?_⟩
  · intro j gone
    by_cases same : j = i
    · subst same
      rw [found'] at gone
      cases gone
    · rw [Function.update_of_ne same]
      exact tracks.absent j ((apart j same).symm.trans gone)
  · intro j rowj foundj
    by_cases same : j = i
    · subst same
      rw [found'] at foundj
      obtain rfl := Option.some.inj foundj
      refine ⟨b, ?_, shown'⟩
      rw [Function.update_self, kept, budget]
    · rw [Function.update_of_ne same]
      exact tracks.row j rowj ((apart j same).symm.trans foundj)
  · intro t job live
    by_cases same : job.envelope.id = i
    · obtain ⟨n, rfl, at_⟩ := tasks.mine t job live same
      refine ⟨m, n, ?_, at_⟩
      rw [same, Function.update_self]
    · rw [Function.update_of_ne same]
      exact tracks.task t job ((tasks.others t job same).mp live)
  · intro j mj t n r accountj
    by_cases same : j = i
    · subst same
      rw [Function.update_self] at accountj
      cases accountj
      exact tasks.back t n r rfl
    · rw [Function.update_of_ne same] at accountj
      obtain ⟨job, live, id⟩ := tracks.held j mj t n r accountj
      exact ⟨job, (tasks.others t job (fun h => same (id.symm.trans h))).mpr live, id⟩
  · intro k rowk foundk
    by_cases same : k = i.hyphenated
    · exact ⟨i, same⟩
    · exact tracks.keys k rowk ((rows.others k same).symm.trans foundk)
  · intro j
    by_cases same : j = i
    · subst same
      refine Or.inr ⟨new, ?_, ?_⟩
      · rw [account, Function.update_self]
        exact .moved move
      · exact (eventsOf_append s.history j j new).trans (by rw [if_pos rfl]; rfl)
    · refine Or.inl ⟨Function.update_of_ne same .., ?_, apart j same⟩
      exact (eventsOf_append s.history i j new).trans
        (by rw [if_neg same, List.append_nil]; rfl)

/-- The task of a held job is the only one with its id. -/
theorem Tracks.task_of_held (tracks : Tracks s L) {t : TaskId} {n : Nat} {r : Option Bool}
    (account : L i = some ⟨m, .held t n r⟩) {t' : TaskId} {job : JobTask Value}
    (live : s.tasks t' = some job) (same : job.envelope.id = i) : t' = t := by
  obtain ⟨m', n', found, _⟩ := tracks.task t' job live
  rw [same, account] at found
  cases found
  rfl

theorem of_drop {tasks : TaskId → Option (JobTask Value)} {t t' : TaskId} {job : JobTask Value}
    (live : drop tasks t t' = some job) : t' ≠ t ∧ tasks t' = some job := by
  rw [drop] at live
  by_cases same : t' = t
  · rw [same, Function.update_self] at live
    cases live
  · rw [Function.update_of_ne same] at live
    exact ⟨same, live⟩

/-- The holder of job `i` goes away. -/
theorem Tracks.dropped (tracks : Tracks s L) {t : TaskId} {n : Nat} {r : Option Bool}
    (account : L i = some ⟨m, .held t n r⟩) (free : ∀ t n r, b ≠ .held t n r) :
    TaskChange i m s.tasks (drop s.tasks t) b := by
  refine ⟨?_, ?_, fun t n r held => absurd held (free t n r)⟩
  · intro t' job other
    rw [drop]
    by_cases same : t' = t
    · subst same
      rw [Function.update_self]
      constructor
      · rintro ⟨⟩
      · intro live
        obtain ⟨job', live', id⟩ := tracks.held i m t' n r account
        rw [live] at live'
        cases live'
        exact absurd id other
    · rw [Function.update_of_ne same]
  · intro t' job live same
    rw [drop] at live
    by_cases at_ : t' = t
    · rw [at_, Function.update_self] at live
      cases live
    · rw [Function.update_of_ne at_] at live
      exact absurd (tracks.task_of_held account live same) at_

/-- A waiting job has no task, and gets none. -/
theorem Tracks.taskless (tracks : Tracks s L) {n : Nat}
    (account : L i = some ⟨m, .waiting () n⟩) (free : ∀ t n r, b ≠ .held t n r) :
    TaskChange i m s.tasks s.tasks b := by
  refine ⟨fun _ _ _ => Iff.rfl, ?_, fun t n r held => absurd held (free t n r)⟩
  intro t job live same
  obtain ⟨m', n', found, _⟩ := tracks.task t job live
  rw [same, account] at found
  cases found

/-- Task `t` is the one that holds job `i` from now on. -/
theorem Tracks.held_by (tracks : Tracks s L) (account : L i = some ⟨m, a⟩) {t : TaskId}
    {job : JobTask Value} (id : job.envelope.id = i) {n : Nat} (at_ : TaskAt job m n)
    (before : (∃ p k, a = .waiting p k ∧ s.tasks t = none) ∨ ∃ k r, a = .held t k r) :
    TaskChange i m s.tasks (Function.update s.tasks t (some job))
      (.held t n (job.result.map Except.isOk)) := by
  have sole : ∀ t' job', s.tasks t' = some job' → job'.envelope.id = i → t' = t := by
    intro t' job' live same
    obtain ⟨m', n', found, _⟩ := tracks.task t' job' live
    rw [same, account] at found
    rcases before with ⟨p, k, rfl, _⟩ | ⟨k, r, rfl⟩
    · cases found
    · cases found
      rfl
  have mine : ∀ job', s.tasks t = some job' → job'.envelope.id = i := by
    intro job' live
    rcases before with ⟨_, _, _, idle⟩ | ⟨k, r, rfl⟩
    · rw [idle] at live
      cases live
    · obtain ⟨job'', live', same⟩ := tracks.held i m t k r account
      rw [live] at live'
      cases live'
      exact same
  refine ⟨?_, ?_, ?_⟩
  · intro t' job' other
    by_cases same : t' = t
    · subst same
      rw [Function.update_self]
      constructor
      · rintro ⟨⟩
        exact absurd id other
      · intro live
        exact absurd (mine job' live) other
    · rw [Function.update_of_ne same]
  · intro t' job' live same
    by_cases here : t' = t
    · subst here
      rw [Function.update_self] at live
      cases live
      exact ⟨n, rfl, at_⟩
    · rw [Function.update_of_ne here] at live
      exact absurd (sole t' job' live same) here
  · rintro t' n' r' ⟨⟩
    exact ⟨job, Function.update_self .., id⟩

end OneJob

section Step
variable {codec : Codec Value} {worker : WorkerConfig} {s s' : DatabaseQueue Value}
  {L : Ledger Unit TaskId}

theorem StepsTo.refl (R : Prop) (s : DatabaseQueue Value) (L : Ledger Unit TaskId) :
    StepsTo R s s L L := fun _ => Or.inl ⟨rfl, rfl, rfl⟩

theorem enqueue_tracks (tracks : Tracks s L) (order : JobOrder Value) (R : Prop) :
    ∃ L', Tracks { s with
        jobs := (DatabaseBackend.enqueue codec s.jobs order.envelope).getD s.jobs } L' ∧
      StepsTo R s { s with
        jobs := (DatabaseBackend.enqueue codec s.jobs order.envelope).getD s.jobs } L L' := by
  cases accepted : DatabaseBackend.enqueue codec s.jobs order.envelope with
  | none => exact ⟨L, tracks, .refl R s L⟩
  | some jobs' =>
    have fits := DatabaseBackend.enqueue_isSome_iff.mp (Option.isSome_iff_exists.mpr ⟨_, accepted⟩)
    obtain ⟨absent, entry, rfl, _, _, bound, status, unused, _⟩ :=
      DatabaseBackend.enqueue_some accepted
    have budget : entry.maxAttempts.toInt = (order.maxAttempts.toNat : Int) := by
      rw [bound]
      exact toInt_toInt32 fits.2.2.1
    have closed := tracks.absent order.id absent
    have apart : ∀ j, j ≠ order.id → j.hyphenated ≠ order.id.hyphenated :=
      fun j other same => other (Uuid.hyphenated_injective same)
    refine ⟨Function.update L order.id (some ⟨order.maxAttempts.toNat, .waiting () 0⟩),
      ⟨?_, ?_, ?_, ?_, ?_⟩, ?_⟩
    · intro j gone
      rw [Option.getD_some, FinMap.lookup_insert_eq] at gone
      split_ifs at gone with same
      rw [Function.update_of_ne (fun h => same (by rw [h]))]
      exact tracks.absent j gone
    · intro j row found
      rw [Option.getD_some, FinMap.lookup_insert_eq] at found
      split_ifs at found with same
      · obtain rfl := Uuid.hyphenated_injective same
        obtain rfl := Option.some.inj found
        refine ⟨.waiting () 0, ?_, by rw [status]; rfl, by rw [unused]; rfl, ?_⟩
        · rw [Function.update_self, budget, Int.toNat_natCast]
        · rw [budget]
          exact Int.natCast_nonneg _
      · rw [Function.update_of_ne (fun h => same (by rw [h]))]
        exact tracks.row j row found
    · intro t job live
      obtain ⟨m, n, account, at_⟩ := tracks.task t job live
      have other : job.envelope.id ≠ order.id := by
        intro same
        rw [same, closed] at account
        cases account
      exact ⟨m, n, (Function.update_of_ne other ..).trans account, at_⟩
    · intro j m t n r account
      by_cases same : j = order.id
      · rw [same, Function.update_self] at account
        cases account
      · rw [Function.update_of_ne same] at account
        exact tracks.held j m t n r account
    · intro k row found
      rw [Option.getD_some, FinMap.lookup_insert_eq] at found
      split_ifs at found with same
      · exact ⟨order.id, same⟩
      · exact tracks.keys k row found
    · intro j
      by_cases same : j = order.id
      · subst same
        refine Or.inr ⟨[], ?_, (List.append_nil _).symm⟩
        rw [closed, Function.update_self]
        exact .opened
      · refine Or.inl ⟨Function.update_of_ne same .., rfl, ?_⟩
        exact Finmap.lookup_insert_of_ne _ (apart j same)

/-- A selected row belongs to a waiting job with attempts left. -/
theorem Tracks.selected (tracks : Tracks s L) (sound : SoundLedger view s L) {now : DateTime}
    {id : String} {row : JobRow}
    (selected : DatabaseBackend.selectRow s.jobs now id = some row) :
    ∃ (i : Uuid) (m n : Nat), id = i.hyphenated ∧ s.jobs.lookup i.hyphenated = some row ∧
      L i = some ⟨m, .waiting () n⟩ ∧ RowAt row (.waiting () n) ∧
      row.maxAttempts.toInt = (m : Int) ∧ (n = 0 ∨ n < m) := by
  obtain ⟨found, chosen⟩ := Option.filter_eq_some_iff.mp selected
  obtain ⟨⟨status, _⟩, _⟩ := of_decide_eq_true chosen
  obtain ⟨i, rfl⟩ := tracks.keys id row found
  obtain ⟨stage, account, shown⟩ := tracks.row i row found
  obtain ⟨n, rfl⟩ := waiting_of_status shown.status status
  have nonneg := shown.budget
  exact ⟨i, row.maxAttempts.toInt.toNat, n, rfl, found, account, shown, by omega,
    (sound.at account).waiting () n rfl⟩

/-- The counter of a selected row does not overflow. -/
theorem RowAt.running {row : JobRow} {m n : Nat} (shown : RowAt row (.waiting () n))
    (budget : row.maxAttempts.toInt = (m : Int)) (room : n = 0 ∨ n < m)
    {stage : Stage Unit TaskId} (status : stage.status = some .running)
    (attempts : stage.attempts = n + 1) : RowAt (DatabaseBackend.markRunning row) stage := by
  have bound := row.maxAttempts.toInt_lt
  refine ⟨status, ?_, shown.budget⟩
  rw [attempts]
  exact toInt_add_one shown.attempts (by omega)

/-- The envelope of a selected row carries the account of its job. -/
theorem RowAt.decoded (parse_hyphenated : ∀ u : Uuid, codec.parseStr u.hyphenated = .ok u)
    {row : JobRow} {i : Uuid} {m n : Nat} (shown : RowAt row (.waiting () n))
    (budget : row.maxAttempts.toInt = (m : Int)) (room : n = 0 ∨ n < m)
    {envelope : JobEnvelope Value}
    (decoded : DatabaseBackend.decode codec i.hyphenated row = .ok envelope) :
    envelope.id = i ∧ envelope.attempts.toNat = n + 1 ∧ envelope.maxAttempts.toNat = m := by
  have stranded : RowAt (DatabaseBackend.markRunning row) (.stranded (n + 1)) :=
    shown.running budget room rfl rfl
  have counter := stranded.attempts
  simp only [DatabaseBackend.decode, parse_hyphenated] at decoded
  cases payload : codec.fromText row.payload with
  | error e => simp [payload] at decoded
  | ok value =>
    simp only [payload] at decoded
    obtain rfl := Except.ok.inj decoded
    exact ⟨rfl, toNat_toUInt32 counter, toNat_toUInt32 budget⟩

/-- The row of a waiting job is marked as running. -/
theorem RowChange.markRunning {jobs : JobTable} {row : JobRow} {i : Uuid} {m n : Nat}
    (found : jobs.lookup i.hyphenated = some row) (budget : row.maxAttempts.toInt = (m : Int))
    (room : n = 0 ∨ n < m) {b : Stage Unit TaskId} (status : b.status = some .running)
    (attempts : b.attempts = n + 1) :
    RowChange i jobs (DatabaseBackend.update jobs i.hyphenated DatabaseBackend.markRunning)
      (.waiting () n) b := by
  refine .update fun row' found' shown => ⟨?_, rfl⟩
  rw [found] at found'
  obtain rfl := Option.some.inj found'
  exact shown.running budget room status attempts

theorem dequeue_tracks (parse_hyphenated : ∀ u : Uuid, codec.parseStr u.hyphenated = .ok u)
    (tracks : Tracks s L) (sound : SoundLedger view s L) {task : TaskId} {id : String}
    {now : DateTime} {reply : Reply}
    (hs : step codec worker s (.dequeue task id now reply) = some s') :
    ∃ L', Tracks s' L' ∧ StepsTo (Disturbs codec s (.dequeue task id now reply)) s s' L L' := by
  cases step_moves hs with
  | rolledBack => exact ⟨L, tracks, .refl _ s L⟩
  | @misread _ _ _ _ row selected unanswered =>
    obtain ⟨i, m, n, rfl, found, account, _, budget, room⟩ := tracks.selected sound selected
    have cause : Disturbs codec s (.dequeue task i.hyphenated now reply) := by
      rcases unanswered with lost | ⟨ok, e, decoded⟩
      · exact Or.inl lost
      · exact Or.inr ⟨ok, row, e, found, decoded⟩
    have moved := tracks.moveJob account (.misread cause)
      (RowChange.markRunning found budget room rfl rfl) (tracks.taskless account (by simp))
    simpa using moved
  | @returned _ _ _ row envelope idle selected decoded =>
    obtain ⟨i, m, n, rfl, found, account, shown, budget, room⟩ := tracks.selected sound selected
    obtain ⟨same, attempts, limit⟩ := shown.decoded parse_hyphenated budget room decoded
    have holds : TaskChange i m s.tasks
        (Function.update s.tasks task (some ⟨envelope, none⟩)) (.held task (n + 1) none) :=
      tracks.held_by account same ⟨attempts, limit⟩ (Or.inl ⟨(), n, rfl, idle⟩)
    rw [same, attempts]
    exact tracks.moveJob account .start (RowChange.markRunning found budget room rfl rfl) holds

theorem handlerReturns_tracks (tracks : Tracks s L) {task : TaskId}
    {result : Except QueueError Unit} (R : Prop)
    (hs : step codec worker s (.handlerReturns task result) = some s') :
    ∃ L', Tracks s' L' ∧ StepsTo R s s' L L' := by
  cases step_moves hs with
  | @handled _ envelope live _ outcome decided =>
    subst decided
    obtain ⟨m, n, account, at_⟩ := tracks.task task ⟨envelope, none⟩ live
    change L envelope.id = some ⟨m, .held task n none⟩ at account
    have rows : RowChange envelope.id s.jobs s.jobs (.held task n none)
        (.held task n (some (Worker.outcome worker.registered envelope.jobType result).isOk)) :=
      .none fun row shown => ⟨shown.status, shown.attempts, shown.budget⟩
    have holds : TaskChange envelope.id m s.tasks
        (Function.update s.tasks task
          (some ⟨envelope, some (Worker.outcome worker.registered envelope.jobType result)⟩))
        (.held task n (some (Worker.outcome worker.registered envelope.jobType result).isOk)) :=
      tracks.held_by account rfl ⟨at_.attempts, at_.budget⟩ (Or.inr ⟨n, none, rfl⟩)
    exact tracks.moveJob account .finish rows holds

/-- A call that ends a task: its statement moves the row, or the job is stranded. -/
theorem Tracks.settle (tracks : Tracks s L) {task : TaskId} {i : Uuid} {m n : Nat} {ok : Bool}
    (account : L i = some ⟨m, .held task n (some ok)⟩)
    {reply : Reply} {b : Stage Unit TaskId} {set : JobRow → JobRow} {R : Prop}
    (lost : reply = .errorBefore → R) (move : Move R m (.held task n (some ok)) b [])
    (free : ∀ t n r, b ≠ .held t n r)
    (shows_ : ∀ row, RowAt row (.held task n (some ok)) →
      RowAt (set row) b ∧ (set row).maxAttempts = row.maxAttempts) :
    ∃ L', Tracks { s with
        jobs := reply.applied s.jobs (DatabaseBackend.update s.jobs i.hyphenated set)
        tasks := drop s.tasks task } L' ∧
      StepsTo R s { s with
        jobs := reply.applied s.jobs (DatabaseBackend.update s.jobs i.hyphenated set)
        tasks := drop s.tasks task } L L' := by
  have applied : ∃ L', Tracks { s with
        jobs := DatabaseBackend.update s.jobs i.hyphenated set
        tasks := drop s.tasks task } L' ∧
      StepsTo R s { s with
        jobs := DatabaseBackend.update s.jobs i.hyphenated set
        tasks := drop s.tasks task } L L' := by
    have moved := tracks.moveJob account move (.update fun row _ shown => shows_ row shown)
      (tracks.dropped account free)
    simpa using moved
  cases reply with
  | ok => exact applied
  | errorAfter => exact applied
  | errorBefore =>
    have rows : RowChange i s.jobs s.jobs (.held task n (some ok)) (.stranded n) :=
      .none fun row shown => ⟨shown.status, shown.attempts, shown.budget⟩
    have moved := tracks.moveJob account (.vanish (lost rfl)) rows
      (tracks.dropped account (by simp))
    simpa [Reply.applied] using moved

theorem acknowledge_tracks (tracks : Tracks s L) {task : TaskId} {reply : Reply}
    (hs : step codec worker s (.acknowledge task reply) = some s') :
    ∃ L', Tracks s' L' ∧ StepsTo (Disturbs codec s (.acknowledge task reply)) s s' L L' := by
  cases step_moves hs with
  | @acknowledged _ envelope live _ =>
    obtain ⟨m, n, account, at_⟩ := tracks.task task ⟨envelope, some (.ok ())⟩ live
    change L envelope.id = some ⟨m, .held task n (some true)⟩ at account
    exact tracks.settle account (fun h => h) .complete (by simp)
      fun row shown => ⟨⟨rfl, shown.attempts, shown.budget⟩, rfl⟩

theorem fail_tracks (tracks : Tracks s L) (sound : SoundLedger view s L) {task : TaskId}
    {now sqlNow : DateTime} {reply : Reply}
    (hs : step codec worker s (.fail task now sqlNow reply) = some s') :
    ∃ L', Tracks s' L' ∧ StepsTo (Disturbs codec s (.fail task now sqlNow reply)) s s' L L' := by
  cases step_moves hs with
  | @failed _ envelope e live _ _ _ =>
    obtain ⟨m, n, account, at_⟩ := tracks.task task ⟨envelope, some (.error e)⟩ live
    change L envelope.id = some ⟨m, .held task n (some false)⟩ at account
    have positive := (sound.at account).positive task n (some false) rfl
    have attempts : envelope.attempts.toNat = n := at_.attempts
    have budget : envelope.maxAttempts.toNat = m := at_.budget
    by_cases left : envelope.attempts < envelope.maxAttempts
    · have retry : n < m := by
        rw [← attempts, ← budget]
        exact left
      have later : Worker.shouldRetry envelope.attempts envelope.maxAttempts = true :=
        decide_eq_true left
      simp only [Worker.retryAt, later, if_true, DatabaseBackend.fail]
      refine tracks.settle account (fun h => h) (.retry (p := ()) retry)
        (by simp) fun row shown => ⟨⟨?_, shown.attempts, shown.budget⟩, rfl⟩
      obtain ⟨k, rfl⟩ : ∃ k, n = k + 1 := ⟨n - 1, by omega⟩
      rfl
    · have used : m ≤ n := by
        rw [← attempts, ← budget]
        exact not_lt.mp left
      have never : Worker.shouldRetry envelope.attempts envelope.maxAttempts = false :=
        decide_eq_false left
      simp only [Worker.retryAt, never, Bool.false_eq_true, if_false, DatabaseBackend.fail]
      exact tracks.settle account (fun h => h) (.giveUp used) (by simp)
        fun row shown => ⟨⟨rfl, shown.attempts, shown.budget⟩, rfl⟩

theorem vanish_tracks (tracks : Tracks s L) {task : TaskId}
    (hs : step codec worker s (.vanish task) = some s') :
    ∃ L', Tracks s' L' ∧ StepsTo (Disturbs codec s (.vanish task)) s s' L L' := by
  cases step_moves hs with
  | @vanished _ job live =>
    obtain ⟨m, n, account, _⟩ := tracks.task task job live
    have rows : RowChange job.envelope.id s.jobs s.jobs
        (.held task n (job.result.map Except.isOk)) (.stranded n) :=
      .none fun row shown => ⟨shown.status, shown.attempts, shown.budget⟩
    have cause : Disturbs codec s (.vanish task) := by
      change s.tasks task ≠ none
      rw [live]
      exact Option.some_ne_none job
    have moved := tracks.moveJob account (.vanish cause) rows (tracks.dropped account (by simp))
    simpa using moved

/-- What a crash of a process does to a stage. -/
def crashed (process : Nat) : Stage Unit TaskId → Stage Unit TaskId
  | .held t n r => if t.process = process then .stranded n else .held t n r
  | stage => stage

theorem crashed_shows {process : Nat} {row : JobRow} {stage : Stage Unit TaskId}
    (shown : RowAt row stage) : RowAt row (crashed process stage) := by
  cases stage with
  | held t n r =>
    rw [crashed]
    split_ifs
    · exact ⟨shown.status, shown.attempts, shown.budget⟩
    · exact shown
  | _ => exact shown

theorem crash_tracks (tracks : Tracks s L) (process : Nat) :
    ∃ L', Tracks { s with
        tasks := fun task => if task.process = process then none else s.tasks task } L' ∧
      StepsTo (Disturbs codec s (.crash process)) s { s with
        tasks := fun task => if task.process = process then none else s.tasks task } L L' := by
  refine ⟨fun i => (L i).map (fun job => ⟨job.maxAttempts, crashed process job.stage⟩),
    ⟨?_, ?_, ?_, ?_, tracks.keys⟩, ?_⟩
  · intro i gone
    simp only [tracks.absent i gone, Option.map_none]
  · intro i row found
    obtain ⟨stage, account, shown⟩ := tracks.row i row found
    exact ⟨crashed process stage, by simp only [account, Option.map_some], crashed_shows shown⟩
  · intro t job live
    dsimp only at live
    split_ifs at live with dead
    obtain ⟨m, n, account, at_⟩ := tracks.task t job live
    refine ⟨m, n, ?_, at_⟩
    simp only [account, Option.map_some, crashed, if_neg dead]
  · intro i m t n r account
    obtain ⟨job, before, after⟩ := Option.map_eq_some_iff.mp account
    obtain ⟨k, stage⟩ := job
    cases stage with
    | held t' n' r' =>
      simp only [crashed] at after
      split_ifs at after with dead
      · cases after
      · cases after
        obtain ⟨job, live, id⟩ := tracks.held i _ t n r before
        exact ⟨job, (if_neg dead).trans live, id⟩
    | waiting p n' => cases after
    | stranded n' => cases after
    | completed n' => cases after
    | failed n' => cases after
    | lost n' => cases after
  · intro i
    cases before : L i with
    | none => exact Or.inl ⟨by simp only [before, Option.map_none], rfl, rfl⟩
    | some job =>
      obtain ⟨m, stage⟩ := job
      by_cases killed : ∃ t n r, stage = .held t n r ∧ t.process = process
      · obtain ⟨t, n, r, rfl, dead⟩ := killed
        obtain ⟨job, live, _⟩ := tracks.held i m t n r before
        have cause : Disturbs codec s (.crash process) :=
          ⟨t, dead, by rw [live]; exact Option.some_ne_none job⟩
        refine Or.inr ⟨[], ?_, (List.append_nil _).symm⟩
        simp only [before, Option.map_some, crashed, if_pos dead]
        exact .moved (.vanish cause)
      · refine Or.inl ⟨?_, rfl, rfl⟩
        simp only [before, Option.map_some]
        cases stage with
        | held t n r =>
          have alive : ¬ t.process = process := fun dead => killed ⟨t, n, r, rfl, dead⟩
          rw [crashed, if_neg alive]
        | _ => rfl

theorem step_tracks (parse_hyphenated : ∀ u : Uuid, codec.parseStr u.hyphenated = .ok u)
    {l : Label Value} (tracks : Tracks s L) (sound : SoundLedger view s L)
    (hs : step codec worker s l = some s') :
    ∃ L', Tracks s' L' ∧ StepsTo (Disturbs codec s l) s s' L L' := by
  cases l with
  | enqueue order =>
    obtain rfl := Option.some.inj hs
    exact enqueue_tracks tracks order _
  | dequeue task id now reply => exact dequeue_tracks parse_hyphenated tracks sound hs
  | handlerReturns task result => exact handlerReturns_tracks tracks _ hs
  | acknowledge task reply => exact acknowledge_tracks tracks hs
  | fail task now sqlNow reply => exact fail_tracks tracks sound hs
  | vanish task => exact vanish_tracks tracks hs
  | crash process =>
    obtain rfl := Option.some.inj hs
    exact crash_tracks tracks process

end Step

theorem tracks_start : Tracks (⟨∅, fun _ => none, []⟩ : DatabaseQueue Value) (fun _ => none) where
  absent := fun _ _ => rfl
  row := by simp
  task := by simp
  held := by simp
  keys := by simp

/-- The table and its workers are tracked by job accounts. -/
theorem tracking (codec : Codec Value) (worker : WorkerConfig)
    (parse_hyphenated : ∀ u : Uuid, codec.parseStr u.hyphenated = .ok u) :
    Tracking (machine codec worker) view (Disturbs codec) Tracks where
  start := tracks_start
  silent := fun _ => rfl
  next := fun tracks sound hs => step_tracks parse_hyphenated tracks sound hs
  holds := by
    intro s L tracks t i
    constructor
    · rintro ⟨job, live, rfl⟩
      obtain ⟨m, n, account, _⟩ := tracks.task t job live
      exact ⟨m, n, _, account⟩
    · rintro ⟨m, n, r, account⟩
      exact tracks.held i m t n r account
  status := by
    intro s L tracks i x
    constructor
    · rintro ⟨row, found, rfl⟩
      obtain ⟨stage, account, shown⟩ := tracks.row i row found
      exact ⟨_, stage, account, shown.status⟩
    · rintro ⟨m, stage, account, status⟩
      obtain ⟨row, found, shown, _⟩ := tracks.known account
      exact ⟨row, found, Option.some.inj (shown.status.symm.trans status)⟩
  budget := by
    intro s L tracks i
    change (s.jobs.lookup i.hyphenated).map _ = _
    cases found : s.jobs.lookup i.hyphenated with
    | none => rw [tracks.absent i found, Option.map_none, Option.map_none]
    | some row =>
      obtain ⟨stage, account, _⟩ := tracks.row i row found
      rw [account, Option.map_some, Option.map_some]
  counter := by
    rintro s L tracks i a ⟨row, found, rfl⟩
    obtain ⟨stage, account, shown⟩ := tracks.row i row found
    exact ⟨_, stage, account, shown.attempts⟩

end DatabaseQueue
end ApiBoilerplate
