import ApiBoilerplate.Queue.Guarantees
import ApiBoilerplate.Queue.Transport

/-!
# Jobs are routed by type through either backend

The table keeps job type, payload text and budget of a row through every statement,
and the channel hands whole envelopes on. So each execution is one of an accepted
order, as it was dispatched. The table may refuse an order, the channel never does.
-/

namespace ApiBoilerplate

open Foundation

/-- Writing to a slot, everything filed keeps a property. -/
theorem of_update {κ α : Type} [DecidableEq κ] {f : κ → Option α} {k : κ} {x : Option α}
    {P : α → Prop} (old : ∀ k a, f k = some a → P a) (new : ∀ a, x = some a → P a) (k' : κ)
    (a : α) (entry : Function.update f k x k' = some a) : P a := by
  rw [Function.update_apply] at entry
  split at entry
  · exact new a entry
  · exact old k' a entry

/-- The envelope of one of these orders. -/
def Ordered (orders : List (JobOrder Json)) (e : JobEnvelope Json) : Prop :=
  ∃ order ∈ orders, order.Carries e

theorem Ordered.append {orders : List (JobOrder Json)} {e : JobEnvelope Json}
    (ordered : Ordered orders e) (order : JobOrder Json) : Ordered (orders ++ [order]) e := by
  obtain ⟨order', listed, carries⟩ := ordered
  exact ⟨order', List.mem_append_left _ listed, carries⟩

theorem nodup_append {orders : List (JobOrder Json)} {order : JobOrder Json}
    (distinct : (orders.map JobOrder.id).Nodup) (fresh : ∀ old ∈ orders, old.id ≠ order.id) :
    ((orders ++ [order]).map JobOrder.id).Nodup := by
  rw [List.map_append, List.map_singleton, List.nodup_append]
  refine ⟨distinct, List.nodup_singleton _, fun i named j last same => ?_⟩
  obtain ⟨old, listed, rfl⟩ := List.mem_map.mp named
  exact fresh old listed (same.trans (List.mem_singleton.mp last))

namespace DatabaseQueue

/-- The row keeps what the order says. -/
structure Holds (codec : Codec Json) (order : JobOrder Json) (row : JobRow) : Prop where
  jobType : row.jobType = order.jobType
  payload : codec.toText order.payload = .ok row.payload
  maxAttempts : row.maxAttempts = order.maxAttempts.toInt32

def transport (codec : Codec Json) : Transport (DatabaseQueue Json) (Label Json) Unit where
  machine := machine codec
  tasks s := s.tasks
  enqueue _ order := .enqueue order
  accepts s order := (DatabaseBackend.enqueue codec s.jobs order.envelope).isSome
  Adds _ order s t := order.id.hyphenated ∉ s.jobs ∧ ∃ row, Holds codec order row ∧
    row.status = .pending ∧ row.attempts = 0 ∧
    row.runAt = DateTime.stored order.envelope.runAt ∧
    t = { s with jobs := s.jobs.insert order.id.hyphenated row }
  handlerReturns := .handlerReturns
  internal
    | .enqueue _ => false
    | .handlerReturns _ _ => false
    | _ => true
  fails
    | .fail task now _ reply => if reply = .errorBefore then none else some (task, now)
    | _ => none
  Failed s _ envelope text retryAt := ∃ row, s.jobs.lookup envelope.id.hyphenated = some row ∧
    row.jobType = envelope.jobType ∧ row.error = some text ∧
    match retryAt with
    | some at_ => row.status = .retrying ∧ row.runAt = DateTime.stored at_
    | none => row.status = .failed

/-- The rows are those of the orders. -/
structure Filed (codec : Codec Json) (jobs : JobTable) (orders : List (JobOrder Json)) : Prop where
  entered : ∀ order ∈ orders, order.id.hyphenated ∈ jobs
  rows : ∀ k row, jobs.lookup k = some row →
    ∃ order ∈ orders, k = order.id.hyphenated ∧ Holds codec order row
  distinct : (orders.map JobOrder.id).Nodup

section Rows
variable {codec : Codec Json} {jobs jobs' : JobTable} {orders : List (JobOrder Json)}
  {order : JobOrder Json}

theorem filed_empty : Filed codec ∅ [] where
  entered _ listed := absurd listed List.not_mem_nil
  rows k row found := by
    rw [Finmap.lookup_empty] at found
    cases found
  distinct := List.nodup_nil

theorem Holds.set {row : JobRow} {set : JobRow → JobRow} (holds : Holds codec order row)
    (kept : ∀ row, (set row).jobType = row.jobType ∧ (set row).payload = row.payload ∧
      (set row).maxAttempts = row.maxAttempts) : Holds codec order (set row) := by
  obtain ⟨type, payload, budget⟩ := kept row
  exact ⟨type.trans holds.jobType, by rw [payload, holds.payload], budget.trans holds.maxAttempts⟩

theorem Filed.update (filed : Filed codec jobs orders) (id : String) {set : JobRow → JobRow}
    (kept : ∀ row, (set row).jobType = row.jobType ∧ (set row).payload = row.payload ∧
      (set row).maxAttempts = row.maxAttempts) :
    Filed codec (DatabaseBackend.update jobs id set) orders := by
  refine ⟨fun order listed => ?_, fun k row found => ?_, filed.distinct⟩
  · obtain ⟨row, found⟩ := Finmap.mem_iff.mp (filed.entered order listed)
    rw [Finmap.mem_iff, DatabaseBackend.lookup_update]
    split
    · rename_i same
      exact ⟨set row, by rw [← same, found]; rfl⟩
    · exact ⟨row, found⟩
  · rw [DatabaseBackend.lookup_update] at found
    split at found
    · rename_i same
      obtain ⟨row', found', rfl⟩ := Option.map_eq_some_iff.mp found
      obtain ⟨order, listed, key, holds⟩ := filed.rows id row' found'
      exact ⟨order, listed, same.trans key, holds.set kept⟩
    · exact filed.rows k row found

theorem Filed.enqueue (filed : Filed codec jobs orders)
    (accepted : DatabaseBackend.enqueue codec jobs order.envelope = some jobs') :
    Filed codec jobs' (orders ++ [order]) := by
  obtain ⟨fresh, row, rfl, text, type, budget, _⟩ := DatabaseBackend.enqueue_some accepted
  refine ⟨fun old listed => ?_, fun k row' found => ?_, nodup_append filed.distinct ?_⟩
  · rw [Finmap.mem_insert]
    rcases List.mem_append.mp listed with before | last
    · exact Or.inr (filed.entered old before)
    · exact Or.inl (by rw [List.mem_singleton.mp last])
  · rw [FinMap.lookup_insert_eq] at found
    split at found
    · rename_i same
      obtain rfl := Option.some.inj found
      exact ⟨order, by simp, same, type, text, budget⟩
    · obtain ⟨old, listed, rest⟩ := filed.rows k row' found
      exact ⟨old, List.mem_append_left _ listed, rest⟩
  · intro old listed same
    exact Finmap.lookup_eq_none.mp fresh (same ▸ filed.entered old listed)

/-- What `dequeue` reads off a row is the envelope of the order. -/
theorem Filed.decode (filed : Filed codec jobs orders)
    (faithful : ∀ v text v', codec.toText v = .ok text → codec.fromText text = .ok v' → v' = v)
    (parse_hyphenated : ∀ u : Uuid, codec.parseStr u.hyphenated = .ok u) {id : String}
    {row : JobRow} {e : JobEnvelope Json} (found : jobs.lookup id = some row)
    (decoded : DatabaseBackend.decode codec id row = .ok e) : Ordered orders e := by
  obtain ⟨order, listed, rfl, holds⟩ := filed.rows id row found
  refine ⟨order, listed, ?_⟩
  rw [DatabaseBackend.decode, parse_hyphenated] at decoded
  split at decoded
  · cases decoded
  · rename_i value parsed
    obtain rfl := Except.ok.inj decoded
    have payload := faithful _ _ _ holds.payload parsed
    exact ⟨rfl, holds.jobType, payload, by rw [holds.maxAttempts]; rfl⟩

end Rows

section Law
variable {codec : Codec Json} {worker : WorkerConfig}

/-- Statements and tasks keep to the orders. -/
def Keeps (codec : Codec Json) (s : DatabaseQueue Json) (orders : List (JobOrder Json)) : Prop :=
  Filed codec s.jobs orders ∧ ∀ task job, s.tasks task = some job → Ordered orders job.envelope

theorem step_keeps {s t : DatabaseQueue Json} {orders : List (JobOrder Json)} {l : Label Json}
    (faithful : ∀ v text v', codec.toText v = .ok text → codec.fromText text = .ok v' → v' = v)
    (parse_hyphenated : ∀ u : Uuid, codec.parseStr u.hyphenated = .ok u)
    (keeps : Keeps codec s orders) (hs : step codec worker s l = some t)
    (other : ∀ order, l ≠ .enqueue order) : Keeps codec t orders := by
  obtain ⟨filed, live⟩ := keeps
  have dropped : ∀ task, ∀ t job, drop s.tasks task t = some job → Ordered orders job.envelope :=
    fun task t job entry => live t job (of_drop entry).2
  cases step_moves hs with
  | enqueued order => exact absurd rfl (other order)
  | @returned _ id _ row envelope _ selected decoded =>
    refine ⟨filed.update id fun _ => ⟨rfl, rfl, rfl⟩, of_update live fun job new => ?_⟩
    obtain rfl := Option.some.inj new
    exact filed.decode faithful parse_hyphenated (Option.filter_eq_some_iff.mp selected).1 decoded
  | misread => exact ⟨filed.update _ fun _ => ⟨rfl, rfl, rfl⟩, live⟩
  | rolledBack => exact ⟨filed, live⟩
  | @handled task envelope here result outcome decided =>
    refine ⟨filed, of_update live fun job new => ?_⟩
    obtain rfl := Option.some.inj new
    have before := live task _ here
    exact before
  | @acknowledged task envelope here reply =>
    refine ⟨?_, dropped task⟩
    cases reply with
    | errorBefore => exact filed
    | ok | errorAfter => exact filed.update _ fun _ => ⟨rfl, rfl, rfl⟩
  | @failed task envelope e here now sqlNow reply =>
    refine ⟨?_, dropped task⟩
    have updated : Filed codec (DatabaseBackend.fail s.jobs envelope.id e.text
        (Worker.retryAt worker.retryDelaySeconds envelope.attempts envelope.maxAttempts now)
        sqlNow) orders := by
      simp only [DatabaseBackend.fail]
      split
      · exact filed.update _ fun _ => ⟨rfl, rfl, rfl⟩
      · exact filed.update _ fun _ => ⟨rfl, rfl, rfl⟩
    cases reply with
    | errorBefore => exact filed
    | ok | errorAfter => exact updated
  | vanished => exact ⟨filed, dropped _⟩
  | crashed process =>
    refine ⟨filed, fun task job entry => ?_⟩
    dsimp only at entry
    split at entry
    · cases entry
    · exact live task job entry

/-- The row of a failed job says so. -/
theorem fail_failed {s : DatabaseQueue Json} {orders : List (JobOrder Json)}
    (filed : Filed codec s.jobs orders) {e : JobEnvelope Json} (ordered : Ordered orders e)
    (text : String) (retryAt : Option DateTime) (sqlNow : DateTime) {t : DatabaseQueue Json}
    (jobs : t.jobs = DatabaseBackend.fail s.jobs e.id text retryAt sqlNow) (task : TaskId) :
    (transport codec).Failed t task e text retryAt := by
  obtain ⟨order, listed, carries⟩ := ordered
  obtain ⟨row, found⟩ := Finmap.mem_iff.mp (filed.entered order listed)
  obtain ⟨order', listed', key, holds⟩ := filed.rows _ row found
  obtain rfl : order = order' := List.inj_on_of_nodup_map filed.distinct listed listed'
    (Uuid.hyphenated_injective key)
  have type : row.jobType = e.jobType := holds.jobType.trans carries.jobType.symm
  rw [← carries.id] at found
  cases retryAt with
  | some at_ =>
    refine ⟨{ row with status := .retrying, error := some text, runAt := DateTime.stored at_ }, ?_,
      type, rfl, rfl, rfl⟩
    rw [jobs, DatabaseBackend.fail, DatabaseBackend.lookup_update, if_pos rfl, found]
    rfl
  | none =>
    refine ⟨{ row with
      status := .failed
      error := some text
      failedAt := some (DateTime.sqlNow sqlNow) }, ?_, type, rfl, rfl⟩
    rw [jobs, DatabaseBackend.fail, DatabaseBackend.lookup_update, if_pos rfl, found]
    rfl

def law (worker : WorkerConfig)
    (faithful : ∀ v text v', codec.toText v = .ok text → codec.fromText text = .ok v' → v' = v)
    (parse_hyphenated : ∀ u : Uuid, codec.parseStr u.hyphenated = .ok u) :
    (transport codec).Law worker where
  Keeps := Keeps codec
  start := ⟨filed_empty, by rintro _ _ ⟨⟩⟩
  taken := by
    intro s t orders port order _ keeps stepped accepted
    obtain ⟨jobs, same⟩ := Option.isSome_iff_exists.mp accepted
    obtain rfl := Option.some.inj stepped
    obtain ⟨fresh, row, made, text, type, budget, status, attempts, start⟩ :=
      DatabaseBackend.enqueue_some same
    rw [same, Option.getD_some]
    refine ⟨⟨Finmap.lookup_eq_none.mp fresh, row, ⟨type, text, budget⟩, status, attempts, start,
      by rw [made]⟩, keeps.1.enqueue same, fun task job live => ?_⟩
    exact (keeps.2 task job live).append order
  rejected := by
    intro s t port order stepped refused
    obtain rfl := Option.some.inj stepped
    have refused : (DatabaseBackend.enqueue codec s.jobs order.envelope).isSome = false := refused
    rw [Option.isSome_eq_false_iff, Option.isNone_iff_eq_none] at refused
    rw [refused]
    rfl
  worked := by
    intro s t orders l _ keeps stepped inner
    refine step_keeps faithful parse_hyphenated keeps stepped fun order same => ?_
    subst same
    rcases inner with internal | ⟨task, result, same⟩
    · cases internal
    · cases same
  returned := by
    intro s task envelope result live
    have live : s.tasks task = some ⟨envelope, none⟩ := live
    refine ⟨_, by simp only [transport, machine, step, live]; rfl, ?_⟩
    exact Function.update_self ..
  failed := by
    intro s orders l task now envelope error _ keeps fails live
    have live : s.tasks task = some ⟨envelope, some (.error error)⟩ := live
    cases l with
    | fail task' now' sqlNow reply =>
      simp only [transport] at fails
      split at fails
      · cases fails
      rename_i applied
      obtain ⟨rfl, rfl⟩ := Prod.mk.inj (Option.some.inj fails)
      refine ⟨rfl, _, by simp only [transport, machine, step, live]; rfl, ?_⟩
      refine fail_failed keeps.1 (keeps.2 _ _ live) _ _ sqlNow ?_ _
      cases reply with
      | errorBefore => exact absurd rfl applied
      | ok | errorAfter => rfl
    | _ => cases fails
  carried keeps live := keeps.2 _ _ live
  distinct keeps := keeps.1.distinct

end Law
end DatabaseQueue

namespace ChannelQueue

/-- A call of `enqueue` waits in `send` until there is room; a job to be retried is sent
again at once. -/
def transport (capacity : Nat) : Transport (ChannelQueue Json) (Label Json) Nat where
  machine worker := machine worker capacity
  tasks s := s.tasks
  enqueue := .enqueue
  accepts _ _ := true
  Adds producer order s t := s.sends (.producer producer) = none ∧ t = { s with
    sends := Function.update s.sends (.producer producer) (some order.envelope)
    submitted := s.submitted.insert order.id order.maxAttempts }
  handlerReturns := .handlerReturns
  internal
    | .enqueue _ _ => false
    | .handlerReturns _ _ => false
    | _ => true
  fails
    | .fail task now => some (task, now)
    | _ => none
  Failed s task envelope text retryAt :=
    match retryAt with
    | some _ => ∃ again, s.sends (.task task) = some again ∧ again.id = envelope.id ∧
        again.jobType = envelope.jobType ∧ again.payload = envelope.payload ∧
        again.attempts = envelope.attempts ∧ again.status = .retrying ∧ again.error = some text
    | none => s.sends (.task task) = none ∧ s.finished.lookup envelope.id = some .failed

/-- Every envelope, wherever it is, is that of an order. -/
structure Keeps (s : ChannelQueue Json) (orders : List (JobOrder Json)) : Prop where
  sends : ∀ sender e, s.sends sender = some e → Ordered orders e
  buffer : ∀ e ∈ s.backend.buffer, Ordered orders e
  inFlight : ∀ i e, s.backend.inFlight.lookup i = some e → Ordered orders e
  tasks : ∀ task job, s.tasks task = some job → Ordered orders job.envelope
  submitted : ∀ order ∈ orders, order.id ∈ s.submitted
  distinct : (orders.map JobOrder.id).Nodup

section Steps
variable {worker : WorkerConfig} {s t : ChannelQueue Json} {orders : List (JobOrder Json)}
  {l : Label Json}

/-- The first half of `fail` takes the envelope from where it was filed. -/
theorem fail_half {b b' : ChannelBackend Json} {id : Uuid} {error : String}
    {retryAt : Option DateTime} {again : Option (JobEnvelope Json)}
    (half : b.fail id error retryAt = (b', again)) :
    b'.buffer = b.buffer ∧
      (∀ i e, b'.inFlight.lookup i = some e → b.inFlight.lookup i = some e) ∧
      ∀ e, again = some e → ∃ filed, b.inFlight.lookup id = some filed ∧
        e = { filed with status := .retrying, error := some error } := by
  rw [ChannelBackend.fail] at half
  split at half
  · obtain ⟨rfl, rfl⟩ := Prod.mk.inj half
    exact ⟨rfl, fun _ _ filed => filed, fun e none => by cases none⟩
  · rename_i filed found
    obtain ⟨rfl, rfl⟩ := Prod.mk.inj half
    refine ⟨rfl, fun i e left => ?_, fun e sent => ?_⟩
    · rw [FinMap.lookup_erase_eq] at left
      split at left
      · cases left
      · exact left
    · split at sent
      · exact ⟨filed, found, (Option.some.inj sent).symm⟩
      · cases sent

theorem Keeps.enqueue (keeps : Keeps s orders) {order : JobOrder Json}
    (fresh : order.id ∉ s.submitted) (producer : Nat) : Keeps { s with
      sends := Function.update s.sends (.producer producer) (some order.envelope)
      submitted := s.submitted.insert order.id order.maxAttempts } (orders ++ [order]) where
  sends := by
    refine of_update (fun sender e waits => (keeps.sends sender e waits).append order) ?_
    rintro _ ⟨⟩
    exact ⟨order, by simp, order.carries_envelope⟩
  buffer e listed := (keeps.buffer e listed).append order
  inFlight i e filed := (keeps.inFlight i e filed).append order
  tasks task job live := (keeps.tasks task job live).append order
  submitted old listed := by
    rw [Finmap.mem_insert]
    rcases List.mem_append.mp listed with before | last
    · exact Or.inr (keeps.submitted old before)
    · exact Or.inl (by rw [List.mem_singleton.mp last])
  distinct := nodup_append keeps.distinct fun old listed same =>
    fresh (same ▸ keeps.submitted old listed)

theorem step_keeps (keeps : Keeps s orders) (hs : step worker s l = some t)
    (other : ∀ producer order, l ≠ .enqueue producer order) : Keeps t orders := by
  have dropped : ∀ task, ∀ t job, Function.update s.tasks task none t = some job →
      Ordered orders job.envelope :=
    fun task => of_update keeps.tasks (by rintro _ ⟨⟩)
  have sent : ∀ sender, ∀ k e, Function.update s.sends sender none k = some e →
      Ordered orders e :=
    fun sender => of_update keeps.sends (by rintro _ ⟨⟩)
  cases step_moves hs with
  | @enqueued producer order fresh idle => exact absurd rfl (other producer order)
  | @sent sender e waits backend accepted =>
    obtain ⟨_, rfl⟩ := ChannelBackend.send_some accepted
    refine { keeps with sends := sent sender, buffer := fun e' listed => ?_ }
    rcases List.mem_append.mp listed with before | last
    · exact keeps.buffer e' before
    · rw [List.mem_singleton.mp last]
      exact keeps.sends sender e waits
  | @dequeued task e backend vacant idle taken =>
    obtain ⟨first, rest, buffer, rfl, rfl⟩ := ChannelBackend.dequeue_some taken
    obtain ⟨order, listed, carries⟩ := keeps.buffer first (by rw [buffer]; exact .head rest)
    have running : Ordered orders
        { first with attempts := first.attempts + 1, status := .running } :=
      ⟨order, listed, carries.id, carries.jobType, carries.payload, carries.maxAttempts⟩
    refine { keeps with buffer := fun e queued => ?_, inFlight := fun i e filed => ?_,
                        tasks := of_update keeps.tasks ?_ }
    · exact keeps.buffer e (by rw [buffer]; exact .tail first queued)
    · dsimp only at filed
      rw [FinMap.lookup_insert_eq] at filed
      split at filed
      · obtain rfl := Option.some.inj filed
        exact running
      · exact keeps.inFlight i e filed
    · rintro _ ⟨⟩
      exact running
  | @returned task e live result outcome decided =>
    refine { keeps with tasks := of_update keeps.tasks ?_ }
    rintro _ ⟨⟩
    have before := keeps.tasks task _ live
    exact before
  | @acknowledged task e live =>
    refine { keeps with tasks := dropped task, inFlight := fun i e' filed => ?_ }
    dsimp only [ChannelBackend.acknowledge] at filed
    rw [FinMap.lookup_erase_eq] at filed
    split at filed
    · cases filed
    · exact keeps.inFlight i e' filed
  | @resending task e again error live now backend half =>
    obtain ⟨buffer, inFlight, source⟩ := fail_half half
    obtain ⟨filed, found, rfl⟩ := source again rfl
    obtain ⟨order, listed, carries⟩ := keeps.inFlight _ filed found
    refine { keeps with tasks := dropped task, sends := of_update keeps.sends ?_,
                        buffer := fun e' listed => keeps.buffer e' (buffer ▸ listed),
                        inFlight := fun i e' left => keeps.inFlight i e' (inFlight i e' left) }
    rintro _ ⟨⟩
    exact ⟨order, listed, carries.id, carries.jobType, carries.payload, carries.maxAttempts⟩
  | @failed task e error live now backend half =>
    obtain ⟨buffer, inFlight, _⟩ := fail_half half
    exact { keeps with tasks := dropped task,
                       buffer := fun e' listed => keeps.buffer e' (buffer ▸ listed),
                       inFlight := fun i e' left => keeps.inFlight i e' (inFlight i e' left) }
  | @vanished task job live => exact { keeps with tasks := dropped task }
  | @cancelled sender e waits => exact { keeps with sends := sent sender }

/-- Two envelopes of the orders with one id are of one order. -/
theorem Keeps.same_order (keeps : Keeps s orders) {e f : JobEnvelope Json}
    (ordered : Ordered orders e) (ordered' : Ordered orders f) (same : e.id = f.id) :
    e.jobType = f.jobType ∧ e.payload = f.payload ∧ e.maxAttempts = f.maxAttempts := by
  obtain ⟨order, listed, carries⟩ := ordered
  obtain ⟨order', listed', carries'⟩ := ordered'
  obtain rfl : order = order' := List.inj_on_of_nodup_map keeps.distinct listed listed'
    (carries.id.symm.trans (same.trans carries'.id))
  exact ⟨carries.jobType.trans carries'.jobType.symm, carries.payload.trans carries'.payload.symm,
    carries.maxAttempts.trans carries'.maxAttempts.symm⟩

/-- A task that failed sends its job again, or records that it failed for good. -/
theorem fail_failed {capacity : Nat} (reach : (machine worker capacity).Reachable s)
    (keeps : Keeps s orders) {task : TaskId} {e : JobEnvelope Json} {error : QueueError}
    (live : s.tasks task = some ⟨e, some (.error error)⟩) (now : DateTime) :
    ∃ t, step worker s (.fail task now) = some t ∧ (transport capacity).Failed t task e error.text
      (Worker.retryAt worker.retryDelaySeconds e.attempts e.maxAttempts now) := by
  obtain ⟨L, tracks, _⟩ := (tracking worker capacity).reachable reach
  obtain ⟨m, n, _, at_, filed, found, at_'⟩ := tracks.at_task live
  have found : s.backend.inFlight.lookup e.id = some filed := found
  have attempts : filed.attempts = e.attempts :=
    UInt32.toNat_inj.mp (at_'.attempts.trans at_.attempts.symm)
  obtain ⟨type, payload, budget⟩ := keeps.same_order (keeps.inFlight _ filed found)
    (keeps.tasks task _ live) at_'.id
  simp only [step, live, ChannelBackend.fail, found, attempts, budget]
  by_cases left : e.attempts < e.maxAttempts
  · have retry : Worker.shouldRetry e.attempts e.maxAttempts = true := decide_eq_true left
    simp only [Worker.retryAt, retry, if_true, Option.isSome_some, left, and_self]
    exact ⟨_, rfl, _, Function.update_self .., at_'.id, type, payload, rfl, rfl, rfl⟩
  · have never : Worker.shouldRetry e.attempts e.maxAttempts = false := decide_eq_false left
    simp only [Worker.retryAt, never, Bool.false_eq_true, if_false, Option.isSome_none, false_and]
    refine ⟨_, rfl, tracks.free task _ live, ?_⟩
    rw [finish_of_inFlight found]
    exact Finmap.lookup_insert _

end Steps

def law (worker : WorkerConfig) (capacity : Nat) : (transport capacity).Law worker where
  Keeps := Keeps
  start := by
    refine ⟨?_, ?_, ?_, ?_, ?_, List.nodup_nil⟩
    · rintro _ _ ⟨⟩
    · rintro _ ⟨⟩
    · intro i e filed
      exact absurd (filed.symm.trans (Finmap.lookup_empty i)) (by simp)
    · rintro _ _ ⟨⟩
    · rintro _ ⟨⟩
  taken := by
    intro s t orders port order _ keeps stepped _
    have stepped : step worker s (.enqueue port order) = some t := stepped
    cases step_moves stepped with
    | enqueued fresh idle => exact ⟨⟨idle, rfl⟩, keeps.enqueue fresh port⟩
  rejected := by
    rintro s t port order _ ⟨⟩
  worked := by
    intro s t orders l _ keeps stepped inner
    refine step_keeps keeps stepped fun producer order same => ?_
    subst same
    rcases inner with internal | ⟨task, result, same⟩
    · cases internal
    · cases same
  returned := by
    intro s task envelope result live
    have live : s.tasks task = some ⟨envelope, none⟩ := live
    refine ⟨_, by simp only [transport, machine, step, live]; rfl, ?_⟩
    exact Function.update_self ..
  failed := by
    intro s orders l task now envelope error reach keeps fails live
    cases l with
    | fail task' now' =>
      obtain ⟨rfl, rfl⟩ := Prod.mk.inj (Option.some.inj fails)
      exact ⟨rfl, fail_failed reach keeps live now'⟩
    | _ => cases fails
  carried keeps live := keeps.tasks _ _ live
  distinct keeps := keeps.distinct

end ChannelQueue

namespace Transport
variable {σ ℓ π J Context : Type} (T : Transport σ ℓ π) (app : JobApp J Context)

end Transport

section Examples

/-- The value of a payload without further fields. -/
def beat : Json := .object {"type"} fun _ => .string "heartbeat"

/-- Only this value is written and read. -/
def beats : Codec Json where
  toText
    | .object keys values =>
      if keys = {"type"} ∧ (Json.object keys values).typeField = some "heartbeat" then
        .ok "\x7b\"type\":\"heartbeat\"\x7d"
      else .error "not a heartbeat"
    | _ => .error "not a heartbeat"
  fromText text :=
    if text = "\x7b\"type\":\"heartbeat\"\x7d" then .ok beat else .error "not a heartbeat"
  parseStr := strokes.parseStr

theorem beats_toText {v : Json} {text : String} (written : beats.toText v = .ok text) :
    v = beat := by
  cases v with
  | object keys values =>
    simp only [beats] at written
    split at written
    · rename_i form
      obtain ⟨rfl, typed⟩ := form
      obtain ⟨keys, values', same, listed, found⟩ := Json.typeField_eq_some.mp typed
      cases same
      have all : values = fun _ => .string "heartbeat" := by
        funext ⟨key, mem⟩
        obtain rfl := Finset.mem_singleton.mp mem
        exact found
      rw [all]
      rfl
    · cases written
  | _ => cases written

theorem beats_faithful (v : Json) (text : String) (v' : Json) (written : beats.toText v = .ok text)
    (read : beats.fromText text = .ok v') : v' = v := by
  rw [beats_toText written]
  simp only [beats] at read
  split at read
  · exact (Except.ok.inj read).symm
  · cases read

end Examples

end ApiBoilerplate
